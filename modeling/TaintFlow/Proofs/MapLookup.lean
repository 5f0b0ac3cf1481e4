import TaintFlow.SortedMap

/-!
# Looking up in sorted maps

What `get?` says after each operation on a `SortedMap`. With these equations no later proof looks at
the list of entries: `get?_alter` reads a change off the key, `mem_values_iff` turns the listed values
into lookups, and `ext_get?` makes two maps equal that answer every key alike.

Keys may have a coarse order, so a key is found by comparison; only `ext_get?` asks that keys which
compare equal are equal.
-/

namespace TaintFlow

namespace SortedMap

variable {κ ν : Type} [Ord κ]

/-! ## 1. Entries and lookups -/

@[simp] theorem get?_empty (k : κ) : (∅ : SortedMap κ ν).get? k = none := rfl

theorem get?_singleton (k k' : κ) (v : ν) :
    (singleton k v).get? k' = if compare k' k = .eq then some v else none := by
  by_cases h : compare k' k = .eq <;> simp [get?, singleton, h]

theorem isEmpty_eq_false_iff {m : SortedMap κ ν} : m.isEmpty = false ↔ ∃ e, e ∈ m.toList := by
  rw [isEmpty, List.isEmpty_eq_false_iff_exists_mem]

/-- What is found stands in the list under a key that compares equal. -/
theorem mem_of_get?_eq_some {m : SortedMap κ ν} {k : κ} {v : ν} (h : m.get? k = some v) :
    ∃ k', compare k k' = .eq ∧ (k', v) ∈ m.toList := by
  obtain ⟨⟨k', v'⟩, hfind, rfl⟩ := Option.map_eq_some_iff.mp h
  have hk : compare k k' = .eq := by simpa using List.find?_some hfind
  exact ⟨k', hk, List.mem_of_find?_eq_some hfind⟩

/-- The lookup in a list of entries, as a recursion along it. -/
theorem find?_cons_entry (k : κ) (e : κ × ν) (l : List (κ × ν)) :
    (((e :: l).find? fun e => compare k e.1 == .eq).map (·.2)) =
      if compare k e.1 = .eq then some e.2
      else (l.find? fun e => compare k e.1 == .eq).map (·.2) := by
  by_cases h : compare k e.1 = .eq <;> simp [h]

/-- Nothing is found below the first key. -/
theorem find?_eq_none_of_lt {k : κ} {l : List (κ × ν)} (h : ∀ e ∈ l, compare k e.1 = .lt) :
    (l.find? fun e => compare k e.1 == .eq) = none := by
  rw [List.find?_eq_none]
  intro e he
  rw [h e he]
  decide

/-- An entry under a new key makes the list longer by one. -/
theorem length_placeEntry {k : κ} {f : Option ν → ν} {l : List (κ × ν)}
    (h : ∀ e ∈ l, compare k e.1 ≠ .eq) : (placeEntry k f l).length = l.length + 1 := by
  induction l with
  | nil => rfl
  | cons y l ih =>
    rw [placeEntry]
    split
    · rfl
    · rename_i hk
      exact absurd hk (h y List.mem_cons_self)
    · rw [List.length_cons, ih fun e he => h e (List.mem_cons_of_mem _ he), List.length_cons]

section Trans

variable [Std.TransOrd κ]

/-- Two entries of an ascending list whose keys compare equal are the same entry. -/
theorem eq_of_compare_eq {l : List (κ × ν)} (hl : l.Pairwise fun a b => compare a.1 b.1 = .lt)
    {a b : κ × ν} (ha : a ∈ l) (hb : b ∈ l) (h : compare a.1 b.1 = .eq) : a = b := by
  induction l with
  | nil => exact absurd ha List.not_mem_nil
  | cons c l ih =>
    obtain ⟨hc, hl⟩ := List.pairwise_cons.mp hl
    rcases List.mem_cons.mp ha with rfl | ha'
    · rcases List.mem_cons.mp hb with rfl | hb'
      · rfl
      · rw [hc b hb'] at h
        cases h
    · rcases List.mem_cons.mp hb with rfl | hb'
      · rw [Std.OrientedCmp.eq_comm, hc a ha'] at h
        cases h
      · exact ih hl ha' hb'

/-- A lookup gives exactly the entry whose key compares equal. -/
theorem get?_eq_some_iff {m : SortedMap κ ν} {k : κ} {v : ν} :
    m.get? k = some v ↔ ∃ k', compare k k' = .eq ∧ (k', v) ∈ m.toList := by
  refine ⟨mem_of_get?_eq_some, fun ⟨k', hk, hmem⟩ => ?_⟩
  have hsome : (m.toList.find? fun e => compare k e.1 == .eq).isSome := by
    rw [List.find?_isSome]
    exact ⟨(k', v), hmem, beq_iff_eq.mpr hk⟩
  obtain ⟨e, he⟩ := Option.isSome_iff_exists.mp hsome
  have hke : compare k e.1 = .eq := by simpa using List.find?_some he
  have hee : e = (k', v) :=
    eq_of_compare_eq m.ascending (List.mem_of_find?_eq_some he) hmem
      (Std.TransCmp.eq_trans (Std.OrientedCmp.eq_symm hke) hk)
  rw [get?, he, hee]
  rfl

theorem get?_of_mem {m : SortedMap κ ν} {k : κ} {v : ν} (h : (k, v) ∈ m.toList) :
    m.get? k = some v :=
  get?_eq_some_iff.mpr ⟨k, Std.ReflOrd.compare_self, h⟩

/-- Keys that compare equal are looked up alike. -/
theorem get?_congr {m : SortedMap κ ν} {k k' : κ} (h : compare k k' = .eq) :
    m.get? k = m.get? k' := by
  have e : (fun e : κ × ν => compare k e.1 == .eq) = fun e => compare k' e.1 == .eq := by
    funext e
    rw [Std.TransCmp.congr_left h]
  rw [get?, get?, e]

theorem mem_values_iff {m : SortedMap κ ν} {v : ν} : v ∈ m.values ↔ ∃ k, m.get? k = some v := by
  constructor
  · intro h
    obtain ⟨⟨k, v'⟩, hmem, rfl⟩ := List.mem_map.mp h
    exact ⟨k, get?_of_mem hmem⟩
  · rintro ⟨k, h⟩
    obtain ⟨k', _, hmem⟩ := mem_of_get?_eq_some h
    exact List.mem_map.mpr ⟨(k', v), hmem, rfl⟩

theorem mem_keys_iff [Std.LawfulEqOrd κ] {m : SortedMap κ ν} {k : κ} :
    k ∈ m.keys ↔ m.contains k = true := by
  rw [contains, Option.isSome_iff_exists]
  constructor
  · intro h
    obtain ⟨⟨k', v⟩, hmem, rfl⟩ := List.mem_map.mp h
    exact ⟨v, get?_of_mem hmem⟩
  · rintro ⟨v, h⟩
    obtain ⟨k', hk, hmem⟩ := mem_of_get?_eq_some h
    exact List.mem_map.mpr ⟨(k', v), hmem, (Std.LawfulEqOrd.eq_of_compare hk).symm⟩

/-! ## 2. Changes -/

theorem find?_placeEntry (k k' : κ) (f : Option ν → ν) {l : List (κ × ν)}
    (hl : l.Pairwise fun a b => compare a.1 b.1 = .lt) :
    ((placeEntry k f l).find? fun e => compare k' e.1 == .eq).map (·.2) =
      if compare k' k = .eq then
        some (f ((l.find? fun e => compare k e.1 == .eq).map (·.2)))
      else (l.find? fun e => compare k' e.1 == .eq).map (·.2) := by
  induction l with
  | nil => by_cases h : compare k' k = .eq <;> simp [placeEntry, h]
  | cons y l ih =>
    obtain ⟨hy, hl⟩ := List.pairwise_cons.mp hl
    rw [placeEntry]
    split
    · rename_i hk
      have hbelow : ∀ e ∈ y :: l, compare k e.1 = .lt := by
        intro e he
        rcases List.mem_cons.mp he with rfl | he
        · exact hk
        · exact Std.TransCmp.lt_trans hk (hy e he)
      rw [find?_cons_entry, find?_eq_none_of_lt hbelow]
      rfl
    · rename_i hk
      rw [find?_cons_entry, find?_cons_entry, find?_cons_entry, if_pos hk,
        Std.TransCmp.congr_right (a := k') hk]
      split <;> rfl
    · rename_i hk
      have hne : ¬ compare k y.1 = .eq := by rw [hk]; decide
      rw [find?_cons_entry, find?_cons_entry, find?_cons_entry, if_neg hne, ih hl]
      by_cases hy' : compare k' y.1 = .eq
      · have hkk : ¬ compare k' k = .eq := by
          rw [Std.TransCmp.congr_left hy', Std.OrientedCmp.lt_of_gt hk]
          decide
        rw [if_pos hy', if_neg hkk, if_pos hy']
      · rw [if_neg hy', if_neg hy']

/-- **A change is seen at its key and nowhere else.** -/
theorem get?_alter (m : SortedMap κ ν) (k k' : κ) (f : Option ν → ν) :
    (m.alter k f).get? k' = if compare k' k = .eq then some (f (m.get? k)) else m.get? k' :=
  find?_placeEntry k k' f m.ascending

theorem get?_insert (m : SortedMap κ ν) (k k' : κ) (v : ν) :
    (m.insert k v).get? k' = if compare k' k = .eq then some v else m.get? k' :=
  get?_alter m k k' fun _ => v

theorem contains_alter (m : SortedMap κ ν) (k k' : κ) (f : Option ν → ν) :
    (m.alter k f).contains k' = (compare k' k == .eq || m.contains k') := by
  rw [contains, get?_alter]
  by_cases hk : compare k' k = .eq <;> simp [hk, contains]

/-- A new key makes one entry more. -/
theorem size_insert_of_new {m : SortedMap κ ν} {k : κ} (h : m.contains k = false) (v : ν) :
    (m.insert k v).size = m.size + 1 := by
  refine length_placeEntry fun e he hk => ?_
  have hget : m.get? k = some e.2 := get?_eq_some_iff.mpr ⟨e.1, hk, he⟩
  rw [contains, hget] at h
  cases h

theorem get?_filter_value (m : SortedMap κ ν) (p : ν → Bool) (k : κ) :
    (m.filter fun _ v => p v).get? k = (m.get? k).filter p := by
  apply Option.ext
  intro v
  rw [get?_eq_some_iff, Option.filter_eq_some_iff, get?_eq_some_iff]
  constructor
  · rintro ⟨k', hk, hmem⟩
    obtain ⟨hmem, hp⟩ := List.mem_filter.mp hmem
    exact ⟨⟨k', hk, hmem⟩, hp⟩
  · rintro ⟨⟨k', hk, hmem⟩, hp⟩
    exact ⟨k', hk, List.mem_filter.mpr ⟨hmem, hp⟩⟩

theorem get?_erase (m : SortedMap κ ν) (k k' : κ) :
    (m.erase k).get? k' = if compare k k' = .eq then none else m.get? k' := by
  apply Option.ext
  intro v
  rw [get?_eq_some_iff]
  constructor
  · rintro ⟨c, hc, hmem⟩
    obtain ⟨hmem, hne⟩ := List.mem_filter.mp hmem
    have hne : ¬ compare k c = .eq := by simpa using hne
    rw [if_neg fun h => hne (Std.TransCmp.eq_trans h hc)]
    exact get?_eq_some_iff.mpr ⟨c, hc, hmem⟩
  · intro h
    split at h
    · cases h
    · rename_i hkk
      obtain ⟨c, hc, hmem⟩ := mem_of_get?_eq_some h
      refine ⟨c, hc, List.mem_filter.mpr ⟨hmem, ?_⟩⟩
      simpa using fun h => hkk (Std.TransCmp.eq_trans h (Std.OrientedCmp.eq_symm hc))

/-- **In the map of a list the last entry of a key counts.** -/
theorem get?_ofList (l : List (κ × ν)) (k : κ) :
    (ofList l).get? k = (l.reverse.find? fun e => compare k e.1 == .eq).map (·.2) := by
  have hfold : ∀ m : SortedMap κ ν, (l.foldl (fun m e => m.insert e.1 e.2) m).get? k =
      ((l.reverse.find? fun e => compare k e.1 == .eq).map (·.2)).or (m.get? k) := by
    induction l with
    | nil => exact fun m => rfl
    | cons e l ih =>
      intro m
      rw [List.foldl_cons, ih, get?_insert, List.reverse_cons, List.find?_append, List.find?_singleton]
      cases l.reverse.find? fun e => compare k e.1 == .eq with
      | some _ => rfl
      | none => by_cases hk : compare k e.1 = .eq <;> simp [hk]
  rw [ofList, hfold]
  exact Option.or_none

/-- What is found in the map of a list comes from the list. -/
theorem mem_of_get?_ofList {l : List (κ × ν)} {k : κ} {v : ν} (h : (ofList l).get? k = some v) :
    ∃ k', compare k k' = .eq ∧ (k', v) ∈ l := by
  rw [get?_ofList] at h
  obtain ⟨⟨k', v'⟩, hfind, rfl⟩ := Option.map_eq_some_iff.mp h
  refine ⟨k', by simpa using List.find?_some hfind, ?_⟩
  exact List.mem_reverse.mp (List.mem_of_find?_eq_some hfind)

end Trans

theorem get?_mapValues {μ : Type} (m : SortedMap κ ν) (f : ν → μ) (k : κ) :
    (m.mapValues fun _ v => f v).get? k = (m.get? k).map f := by
  rw [get?, get?, mapValues, List.find?_map, Option.map_map, Option.map_map]
  rfl

/-- Where keys that compare equal are equal, the change of a value may look at its key. -/
theorem get?_mapValues_key [Std.LawfulEqOrd κ] {μ : Type} (m : SortedMap κ ν) (f : κ → ν → μ)
    (k : κ) : (m.mapValues f).get? k = (m.get? k).map (f k) := by
  rw [get?, get?, mapValues, List.find?_map, Option.map_map, Option.map_map]
  refine Option.map_congr fun e he => ?_
  have hk : compare k e.1 = .eq := by simpa using List.find?_some he
  rw [Std.LawfulEqOrd.eq_of_compare hk]
  rfl

/-! ## 3. Maps that answer alike are equal -/

section Ext

variable [Std.TransOrd κ]

/-- Lists whose keys ascend strictly are equal if they have the same members. -/
theorem eq_of_ascending_keys {α : Type} {key : α → κ} {l m : List α}
    (hl : l.Pairwise fun a b => compare (key a) (key b) = .lt)
    (hm : m.Pairwise fun a b => compare (key a) (key b) = .lt) (h : ∀ a, a ∈ l ↔ a ∈ m) : l = m := by
  have nodup : ∀ {n : List α}, n.Pairwise (fun a b => compare (key a) (key b) = .lt) → n.Nodup := by
    intro n hn
    refine hn.imp fun hab e => ?_
    rw [e, Std.ReflOrd.compare_self] at hab
    cases hab
  refine List.Perm.eq_of_pairwise (fun a b _ _ hab hba => ?_) hl hm
    ((List.perm_ext_iff_of_nodup (nodup hl) (nodup hm)).mpr h)
  rw [Std.OrientedCmp.gt_of_lt hab] at hba
  cases hba

/-- A map is determined by its lookups. -/
theorem ext_get? [Std.LawfulEqOrd κ] {m n : SortedMap κ ν} (h : ∀ k, m.get? k = n.get? k) :
    m = n := by
  have mem : ∀ {m n : SortedMap κ ν}, (∀ k, m.get? k = n.get? k) →
      ∀ e, e ∈ m.toList → e ∈ n.toList := by
    rintro m n h ⟨k, v⟩ he
    have hn : n.get? k = some v := by rw [← h k]; exact get?_of_mem he
    obtain ⟨k', hk, hmem⟩ := mem_of_get?_eq_some hn
    rwa [Std.LawfulEqOrd.eq_of_compare hk]
  have e : m.toList = n.toList :=
    eq_of_ascending_keys m.ascending n.ascending fun e => ⟨mem h e, mem (fun k => (h k).symm) e⟩
  cases m; cases n; cases e; rfl

/-- If every entry stands under the key that its value names, the values ascend by that key. -/
theorem values_ascending {m : SortedMap κ ν} {key : ν → κ}
    (h : ∀ k v, m.get? k = some v → compare k (key v) = .eq) :
    m.values.Pairwise fun a b => compare (key a) (key b) = .lt := by
  refine List.pairwise_map.mpr (m.ascending.imp_of_mem fun {a b} ha hb hab => ?_)
  rw [← Std.TransCmp.congr_left (h a.1 a.2 (get?_of_mem ha)),
    ← Std.TransCmp.congr_right (h b.1 b.2 (get?_of_mem hb))]
  exact hab

end Ext

end SortedMap

end TaintFlow
