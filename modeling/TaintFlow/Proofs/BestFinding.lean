import TaintFlow.Proofs.MapLookup
import TaintFlow.Propagation.Search

/-!
# The best finding of each pair

A search meets many paths for one pair of source and sink and keeps the best. Which one that is can
be said without the search: it is the best of all findings met, in the order in which they were met
(`get?_foldl_keepBest`). Three consequences are used later:

* a kept finding is no worse than any that was met for its pair (`exists_kept_noWorse`);
* of those that tie the first one met is kept (`find?_of_mem_keptOf`);
* leaving out the findings with more than some number of steps leaves exactly the kept findings with
  at most so many (`values_filter_hopCount`).
-/

namespace TaintFlow

namespace Finding

/-- The pair of source and sink of a finding. -/
def key (v : Finding) : FindingKey := ⟨v.source.location, v.sink.location⟩

/-- Two findings are for the same pair if their ends are at the same places. -/
theorem compare_key_eq_iff {v w : Finding} : compare v.key w.key = .eq ↔
    v.source.location.same w.source.location = true ∧
      v.sink.location.same w.sink.location = true := by
  rw [Location.same, Location.same, beq_iff_eq, beq_iff_eq]
  exact compareLex_eq_eq

/-- Whether a finding holds its place against another: it has fewer steps, or as many and no larger a
list of functions. -/
def NoWorse (v w : Finding) : Prop :=
  v.hopCount < w.hopCount ∨ v.hopCount = w.hopCount ∧ v.signature ≤ w.signature

theorem isBetter_iff {a b : Finding} : a.isBetter b = true ↔
    a.hopCount < b.hopCount ∨ a.hopCount = b.hopCount ∧ a.signature < b.signature := by
  have hsignature : compare a.signature b.signature = .lt ↔ a.signature < b.signature :=
    compareOfLessAndEq_eq_lt
  rw [isBetter, beq_iff_eq, Ordering.then_eq_lt, Nat.compare_eq_lt, Nat.compare_eq_eq, hsignature]

/-- **The finding that came first is kept if it is no worse.** -/
theorem isBetter_eq_false_iff {a b : Finding} : a.isBetter b = false ↔ b.NoWorse a := by
  rw [← Bool.not_eq_true, isBetter_iff, NoWorse, ← String.not_lt]
  rcases Nat.lt_trichotomy a.hopCount b.hopCount with h | h | h
  · exact iff_of_false (fun hn => hn (Or.inl h)) (by omega)
  · simp [h]
  · exact iff_of_true (by omega) (Or.inl h)

namespace NoWorse

variable {u v w : Finding}

theorem hopCount_le (h : v.NoWorse w) : v.hopCount ≤ w.hopCount :=
  h.elim Nat.le_of_lt fun h => Nat.le_of_eq h.1

theorem of_tie (hcount : v.hopCount = w.hopCount) (hsignature : v.signature = w.signature) :
    v.NoWorse w := Or.inr ⟨hcount, hsignature ▸ String.le_refl v.signature⟩

theorem refl (v : Finding) : v.NoWorse v := of_tie rfl rfl

theorem of_isBetter (h : v.isBetter w = true) : v.NoWorse w :=
  (isBetter_iff.mp h).imp_right fun ⟨hcount, hlt⟩ => ⟨hcount, String.not_lt.mp (String.lt_asymm hlt)⟩

theorem trans (h : u.NoWorse v) (h' : v.NoWorse w) : u.NoWorse w := by
  rcases h with h | ⟨h, hs⟩
  · exact Or.inl (Nat.lt_of_lt_of_le h h'.hopCount_le)
  · rcases h' with h' | ⟨h', hs'⟩
    · exact Or.inl (h ▸ h')
    · exact Or.inr ⟨h.trans h', String.le_trans hs hs'⟩

end NoWorse

theorem isBetter_trans_noWorse {u v w : Finding} (h : u.isBetter v = true) (h' : v.NoWorse w) :
    u.isBetter w = true := by
  rw [isBetter_iff] at h ⊢
  rcases h with h | ⟨h, hs⟩
  · exact Or.inl (Nat.lt_of_lt_of_le h h'.hopCount_le)
  · rcases h' with h' | ⟨h', hs'⟩
    · exact Or.inl (h ▸ h')
    · refine Or.inr ⟨h.trans h', String.not_le.mp fun hle => ?_⟩
      exact String.not_lt.mpr (String.le_trans hs' hle) hs

end Finding

/-! ## 1. The best of a list -/

/-- The better of the best so far and the next finding; the one that came first stays in a tie. -/
def better (best : Option Finding) (v : Finding) : Option Finding :=
  match best with
  | none => some v
  | some b => if v.isBetter b then some v else some b

/-- The best is one of those met. -/
theorem mem_of_foldl_better {l : List Finding} {best : Option Finding} {v : Finding}
    (h : l.foldl better best = some v) : best = some v ∨ v ∈ l := by
  induction l generalizing best with
  | nil => exact Or.inl h
  | cons w l ih =>
    rcases ih h with hw | hv
    · cases best with
      | none =>
        cases hw
        exact Or.inr List.mem_cons_self
      | some b =>
        rw [better] at hw
        split at hw
        · cases hw
          exact Or.inr List.mem_cons_self
        · exact Or.inl hw
    · exact Or.inr (List.mem_cons_of_mem _ hv)

/-- Meeting more never makes the best worse. -/
theorem foldl_better_some (l : List Finding) (b : Finding) :
    ∃ v, l.foldl better (some b) = some v ∧ v.NoWorse b := by
  induction l generalizing b with
  | nil => exact ⟨b, rfl, .refl b⟩
  | cons w l ih =>
    rw [List.foldl_cons, better]
    split
    · rename_i hw
      obtain ⟨v, hv, hle⟩ := ih w
      exact ⟨v, hv, hle.trans (.of_isBetter hw)⟩
    · exact ih b

/-- The best is no worse than any finding met. -/
theorem foldl_better_of_mem {l : List Finding} {w : Finding} (hw : w ∈ l)
    (best : Option Finding) : ∃ v, l.foldl better best = some v ∧ v.NoWorse w := by
  induction l generalizing best with
  | nil => exact absurd hw List.not_mem_nil
  | cons u l ih =>
    rcases List.mem_cons.mp hw with rfl | hw
    · have hstep : ∃ b, better best w = some b ∧ b.NoWorse w := by
        cases best with
        | none => exact ⟨w, rfl, .refl w⟩
        | some b =>
          by_cases h : w.isBetter b = true
          · exact ⟨w, by rw [better, if_pos h], .refl w⟩
          · refine ⟨b, by rw [better, if_neg h], ?_⟩
            exact Finding.isBetter_eq_false_iff.mp (Bool.not_eq_true _ ▸ h)
      obtain ⟨b, hb, hbw⟩ := hstep
      obtain ⟨v, hv, hvb⟩ := foldl_better_some l b
      rw [List.foldl_cons, hb]
      exact ⟨v, hv, hvb.trans hbw⟩
    · exact ih hw (better best u)

/-- **The best is the first of those that tie**: every finding met before it is worse. -/
theorem find?_of_foldl_better {l : List Finding} {best : Option Finding} {v : Finding}
    (h : l.foldl better best = some v) : best = some v ∨
      (l.find? (fun w => !v.isBetter w) = some v ∧ ∀ b, best = some b → v.isBetter b = true) := by
  induction l generalizing best with
  | nil => exact Or.inl h
  | cons w l ih =>
    have hself : v.isBetter v = false := Finding.isBetter_eq_false_iff.mpr (.refl v)
    -- the next finding replaces the best so far, or is kept out by it
    have hcases : (better best w = some w ∧ ∀ b, best = some b → w.isBetter b = true) ∨
        ∃ b, best = some b ∧ better best w = some b ∧ b.NoWorse w := by
      cases best with
      | none => exact Or.inl ⟨rfl, fun b hb => by cases hb⟩
      | some b =>
        by_cases hw : w.isBetter b = true
        · refine Or.inl ⟨by rw [better, if_pos hw], fun b' hb' => ?_⟩
          cases hb'
          exact hw
        · refine Or.inr ⟨b, rfl, by rw [better, if_neg hw], ?_⟩
          exact Finding.isBetter_eq_false_iff.mp (Bool.not_eq_true _ ▸ hw)
    rw [List.find?_cons]
    rcases hcases with ⟨hnext, hbeats⟩ | ⟨b, rfl, hnext, hkeeps⟩
    · rcases ih h with hv | ⟨hfind, hv⟩
      · rw [hnext] at hv
        cases hv
        rw [hself]
        exact Or.inr ⟨rfl, hbeats⟩
      · have hvw := hv w hnext
        rw [hvw]
        exact Or.inr ⟨hfind, fun b hb =>
          Finding.isBetter_trans_noWorse hvw (.of_isBetter (hbeats b hb))⟩
    · rcases ih h with hv | ⟨hfind, hv⟩
      · exact Or.inl (hnext ▸ hv)
      · have hvb := hv b hnext
        rw [Finding.isBetter_trans_noWorse hvb hkeeps]
        exact Or.inr ⟨hfind, fun b' hb' => by cases hb'; exact hvb⟩

/-- Whether a finding has at most a number of steps. -/
def Finding.within (d : Nat) (v : Finding) : Bool := decide (v.hopCount ≤ d)

/-- One finding more, seen through a bound on steps. -/
theorem filter_better (d : Nat) (best : Option Finding) (v : Finding) :
    (better best v).filter (Finding.within d) =
      if v.within d then better (best.filter (Finding.within d)) v
      else best.filter (Finding.within d) := by
  cases best with
  | none => by_cases hv : v.within d = true <;> simp [better, hv]
  | some b =>
    by_cases hv : v.within d = true
    · rw [if_pos hv]
      by_cases hb : b.within d = true
      · rw [Option.filter_some, if_pos hb]
        by_cases hvb : v.isBetter b = true
        · rw [better, if_pos hvb, Option.filter_some, if_pos hv]
        · rw [better, if_neg hvb, Option.filter_some, if_pos hb]
      · -- the best so far is too long, so the shorter one replaces it
        have hvd : v.hopCount ≤ d := of_decide_eq_true hv
        have hbd : ¬ b.hopCount ≤ d := fun h => hb (decide_eq_true h)
        have hvb : v.isBetter b = true := by
          cases h : v.isBetter b with
          | true => rfl
          | false =>
            have := (Finding.isBetter_eq_false_iff.mp h).hopCount_le
            omega
        rw [better, if_pos hvb, Option.filter_some, if_pos hv, Option.filter_some, if_neg hb]
        rfl
    · rw [if_neg hv]
      by_cases hvb : v.isBetter b = true
      · have hle := (Finding.NoWorse.of_isBetter hvb).hopCount_le
        have hvd : ¬ v.hopCount ≤ d := fun h => hv (decide_eq_true h)
        have hb : ¬ b.within d = true := fun h => by
          have : b.hopCount ≤ d := of_decide_eq_true h
          omega
        rw [better, if_pos hvb, Option.filter_some, if_neg hv, Option.filter_some, if_neg hb]
      · rw [better, if_neg hvb]

theorem filter_foldl_better (d : Nat) (l : List Finding) (best : Option Finding) :
    (l.foldl better best).filter (Finding.within d) =
      (l.filter (Finding.within d)).foldl better (best.filter (Finding.within d)) := by
  induction l generalizing best with
  | nil => rfl
  | cons v l ih =>
    rw [List.foldl_cons, ih, filter_better, List.filter_cons]
    by_cases hv : v.within d = true
    · rw [if_pos hv, if_pos hv, List.foldl_cons]
    · rw [if_neg hv, if_neg hv]

/-! ## 2. The best of each pair -/

/-- The findings kept so far, by their pairs. -/
abbrev Kept := SortedMap FindingKey Finding

/-- Keeps a finding unless there is a better one for its pair. -/
def keepBest (kept : Kept) (v : Finding) : Kept :=
  match kept.get? v.key with
  | some present => if v.isBetter present then kept.insert v.key v else kept
  | none => kept.insert v.key v

theorem Progress.addFinding_eq (v : Finding) (p : Progress) :
    p.addFinding v = { p with found := keepBest p.found v } := by
  have hkey : (⟨v.source.location, v.sink.location⟩ : FindingKey) = v.key := rfl
  rw [addFinding, keepBest, hkey]
  cases p.found.get? v.key with
  | none => rfl
  | some b =>
    show (if v.isBetter b then _ else _) = _
    by_cases h : v.isBetter b = true <;> simp [h]

theorem get?_keepBest (kept : Kept) (v : Finding) (k : FindingKey) :
    (keepBest kept v).get? k =
      if compare k v.key = .eq then better (kept.get? k) v else kept.get? k := by
  by_cases hk : compare k v.key = .eq
  · rw [if_pos hk, SortedMap.get?_congr hk, SortedMap.get?_congr (m := kept) hk, keepBest]
    cases h : kept.get? v.key with
    | none =>
      show (kept.insert v.key v).get? v.key = _
      rw [SortedMap.get?_insert, if_pos Std.ReflOrd.compare_self]
      rfl
    | some b =>
      show (if v.isBetter b then kept.insert v.key v else kept).get? v.key = _
      rw [better]
      split
      · rw [SortedMap.get?_insert, if_pos Std.ReflOrd.compare_self]
      · exact h
  · have hins : (kept.insert v.key v).get? k = kept.get? k := by
      rw [SortedMap.get?_insert, if_neg hk]
    rw [if_neg hk, keepBest]
    split
    · split
      · exact hins
      · rfl
    · exact hins

/-- Whether a finding is for a pair. -/
def Finding.isFor (k : FindingKey) (v : Finding) : Bool := compare k v.key == .eq

/-- **For each pair the best of the findings met for it is kept.** -/
theorem get?_foldl_keepBest (l : List Finding) (kept : Kept) (k : FindingKey) :
    (l.foldl keepBest kept).get? k = (l.filter (Finding.isFor k)).foldl better (kept.get? k) := by
  induction l generalizing kept with
  | nil => rfl
  | cons v l ih =>
    rw [List.foldl_cons, ih, get?_keepBest, List.filter_cons]
    by_cases hk : compare k v.key = .eq
    · have hv : v.isFor k = true := beq_iff_eq.mpr hk
      rw [if_pos hk, if_pos hv, List.foldl_cons]
    · have hv : ¬ v.isFor k = true := fun h => hk (beq_iff_eq.mp h)
      rw [if_neg hk, if_neg hv]

/-- The findings kept out of a list. -/
def keptOf (l : List Finding) : Kept := l.foldl keepBest ∅

theorem get?_keptOf (l : List Finding) (k : FindingKey) :
    (keptOf l).get? k = (l.filter (Finding.isFor k)).foldl better none :=
  get?_foldl_keepBest l ∅ k

/-- A finding that is kept was met, and stands under its own pair. -/
theorem mem_of_get?_keptOf {l : List Finding} {k : FindingKey} {v : Finding}
    (h : (keptOf l).get? k = some v) : v ∈ l ∧ compare k v.key = .eq := by
  rw [get?_keptOf] at h
  rcases mem_of_foldl_better h with hv | hv
  · cases hv
  · obtain ⟨hmem, hfor⟩ := List.mem_filter.mp hv
    exact ⟨hmem, beq_iff_eq.mp hfor⟩

theorem mem_values_keptOf {l : List Finding} {v : Finding} :
    v ∈ (keptOf l).values ↔ (keptOf l).get? v.key = some v := by
  rw [SortedMap.mem_values_iff]
  constructor
  · rintro ⟨k, hk⟩
    rw [← SortedMap.get?_congr (mem_of_get?_keptOf hk).2]
    exact hk
  · exact fun h => ⟨v.key, h⟩

/-- One finding is kept for each pair. -/
theorem eq_of_mem_keptOf {l : List Finding} {v w : Finding} (hv : v ∈ (keptOf l).values)
    (hw : w ∈ (keptOf l).values) (hk : compare v.key w.key = .eq) : v = w := by
  rw [mem_values_keptOf] at hv hw
  rw [SortedMap.get?_congr hk, hw] at hv
  exact (Option.some.inj hv).symm

/-- **For the pair of every finding met one is kept that is no worse.** -/
theorem exists_kept_noWorse {l : List Finding} {w : Finding} (hw : w ∈ l) :
    ∃ v ∈ (keptOf l).values, compare v.key w.key = .eq ∧ v.NoWorse w := by
  have hfor : w ∈ l.filter (Finding.isFor w.key) :=
    List.mem_filter.mpr ⟨hw, beq_iff_eq.mpr Std.ReflOrd.compare_self⟩
  obtain ⟨v, hv, hle⟩ := foldl_better_of_mem hfor none
  rw [← get?_keptOf] at hv
  exact ⟨v, SortedMap.mem_values_iff.mpr ⟨w.key, hv⟩,
    Std.OrientedCmp.eq_symm (mem_of_get?_keptOf hv).2, hle⟩

/-- **What is kept is the first of those met for its pair that are not worse.** -/
theorem find?_of_mem_keptOf {l : List Finding} {v : Finding} (h : v ∈ (keptOf l).values) :
    l.find? (fun w => w.isFor v.key && !v.isBetter w) = some v := by
  rw [mem_values_keptOf, get?_keptOf] at h
  rcases find?_of_foldl_better h with hnone | ⟨hfind, _⟩
  · cases hnone
  · simpa only [List.find?_filter, Bool.decide_and, Bool.decide_eq_true] using hfind

/-- **A bound on steps may be applied before or after the best are kept.** -/
theorem values_filter_hopCount (d : Nat) (l : List Finding) :
    (keptOf (l.filter (Finding.within d))).values =
      (keptOf l).values.filter (Finding.within d) := by
  have hget : ∀ k, (keptOf (l.filter (Finding.within d))).get? k =
      ((keptOf l).get? k).filter (Finding.within d) := by
    intro k
    rw [get?_keptOf, get?_keptOf, filter_foldl_better, List.filter_filter, List.filter_filter]
    simp only [Bool.and_comm]
    rfl
  have hpair : ∀ l : List Finding,
      (keptOf l).values.Pairwise fun a b => compare a.key b.key = .lt := fun l =>
    SortedMap.values_ascending fun k v h => (mem_of_get?_keptOf h).2
  refine SortedMap.eq_of_ascending_keys (hpair _) ((hpair l).filter _) fun v => ?_
  rw [mem_values_keptOf, hget, Option.filter_eq_some_iff, List.mem_filter, mem_values_keptOf]

end TaintFlow
