import TaintFlow.Proofs.BreadthFirst

/-!
# Which of the items with one key a sweep expands

A sweep that skips keys it has met before takes, of all items with one key, the one that it comes to
first. That is said here without the sweep. `layer` lists every item that is a number of steps away,
in the order of the successors and without skipping any, and `layers` lists all items up to that
number of steps, nearer ones first. `IsFirst` are the items that stand in this list before all others
with their key. If items with one key have successors with the same keys, a sweep expands exactly
those (`Sweeps.mem_iff_first`).

What has to be shown is that a skipped item is of no use later: each of its successors has a key that
was met before it, among the successors of the item that was expanded in its place
(`firsts_flatMap`).
-/

namespace TaintFlow

variable {α κ : Type}

/-! ## 1. The first of each key -/

section Firsts

variable [BEq κ]

/-- The items of a list whose key was not visited before and does not stand on an earlier item. -/
def firsts (key : α → κ) : (items : List α) → (visited : List κ) → List α
  | [], _ => []
  | a :: items, visited =>
    if visited.contains (key a) then firsts key items visited
    else a :: firsts key items (key a :: visited)

/-- The keys that are visited after the items of a list. -/
def visitedAfter (key : α → κ) (items : List α) (visited : List κ) : List κ :=
  ((firsts key items visited).map key).reverse ++ visited

variable [LawfulBEq κ] {key : α → κ} {items : List α} {visited : List κ} {a : α}

theorem firsts_cons_of_mem (h : key a ∈ visited) :
    firsts key (a :: items) visited = firsts key items visited := by
  rw [firsts, if_pos (List.contains_iff_mem.mpr h)]

theorem firsts_cons_of_not_mem (h : key a ∉ visited) :
    firsts key (a :: items) visited = a :: firsts key items (key a :: visited) := by
  rw [firsts, if_neg fun hc => h (List.contains_iff_mem.mp hc)]

theorem visitedAfter_cons_of_mem (h : key a ∈ visited) :
    visitedAfter key (a :: items) visited = visitedAfter key items visited := by
  rw [visitedAfter, firsts_cons_of_mem h, visitedAfter]

theorem visitedAfter_cons_of_not_mem (h : key a ∉ visited) :
    visitedAfter key (a :: items) visited = visitedAfter key items (key a :: visited) := by
  rw [visitedAfter, firsts_cons_of_not_mem h, visitedAfter, List.map_cons, List.reverse_cons,
    List.append_assoc]
  rfl

theorem firsts_append (more : List α) :
    firsts key (items ++ more) visited =
      firsts key items visited ++ firsts key more (visitedAfter key items visited) := by
  induction items generalizing visited with
  | nil => rfl
  | cons a items ih =>
    rw [List.cons_append]
    by_cases h : key a ∈ visited
    · rw [firsts_cons_of_mem h, firsts_cons_of_mem h, visitedAfter_cons_of_mem h, ih]
    · rw [firsts_cons_of_not_mem h, firsts_cons_of_not_mem h, visitedAfter_cons_of_not_mem h, ih]
      rfl

theorem visitedAfter_append (more : List α) :
    visitedAfter key (items ++ more) visited =
      visitedAfter key more (visitedAfter key items visited) := by
  rw [visitedAfter, firsts_append, List.map_append, List.reverse_append, List.append_assoc]
  rfl

/-- Visited is what was visited before and every key of the list. -/
theorem mem_visitedAfter {k : κ} :
    k ∈ visitedAfter key items visited ↔ k ∈ visited ∨ ∃ a ∈ items, key a = k := by
  induction items generalizing visited with
  | nil => simp [visitedAfter, firsts]
  | cons a items ih =>
    have hcons : (∃ b ∈ a :: items, key b = k) ↔ k = key a ∨ ∃ b ∈ items, key b = k := by
      simp only [List.mem_cons, exists_eq_or_imp, eq_comm (a := k)]
    rw [hcons, ← or_assoc]
    by_cases h : key a ∈ visited
    · rw [visitedAfter_cons_of_mem h, ih, or_iff_left_of_imp fun e : k = key a => e ▸ h]
    · rw [visitedAfter_cons_of_not_mem h, ih, List.mem_cons, or_comm (a := k = key a)]

theorem firsts_eq_nil (h : ∀ a ∈ items, key a ∈ visited) : firsts key items visited = [] := by
  induction items with
  | nil => rfl
  | cons a items ih =>
    rw [firsts_cons_of_mem (h a List.mem_cons_self)]
    exact ih fun b hb => h b (List.mem_cons_of_mem _ hb)

/-- An item is the first with its key if no other is found before it. -/
theorem mem_firsts_iff : a ∈ firsts key items visited ↔
    key a ∉ visited ∧ items.find? (fun b => key b == key a) = some a := by
  induction items generalizing visited with
  | nil => simp [firsts]
  | cons b items ih =>
    rw [List.find?_cons]
    by_cases h : key b ∈ visited
    · rw [firsts_cons_of_mem h, ih]
      refine and_congr_right fun ha => ?_
      have hne : key b ≠ key a := fun e => ha (e ▸ h)
      rw [beq_eq_false_iff_ne.mpr hne]
    · rw [firsts_cons_of_not_mem h, List.mem_cons, ih]
      by_cases hk : key b = key a
      · rw [beq_iff_eq.mpr hk, hk]
        simp only [List.mem_cons, true_or, not_true_eq_false, false_and, or_false,
          Option.some.injEq]
        exact ⟨fun e => ⟨e ▸ h, e.symm⟩, fun ⟨_, e⟩ => e.symm⟩
      · rw [beq_eq_false_iff_ne.mpr hk, List.mem_cons, not_or]
        refine ⟨fun hor => ?_, fun ⟨ha, hfind⟩ => Or.inr ⟨⟨Ne.symm hk, ha⟩, hfind⟩⟩
        rcases hor with rfl | ⟨⟨_, ha⟩, hfind⟩
        · exact absurd rfl hk
        · exact ⟨ha, hfind⟩

theorem mem_of_mem_firsts (h : a ∈ firsts key items visited) : a ∈ items :=
  List.mem_of_find?_eq_some (mem_firsts_iff.mp h).2

/-- **A skipped item is of no use.** If the successors of the items with visited keys are visited,
the first successors of the first items are the first successors of all. -/
theorem firsts_flatMap {next : α → List α} {later : List κ}
    (hcongr : ∀ a ∈ items, ∀ b ∈ items, key a = key b → (next a).map key = (next b).map key)
    (hlater : ∀ a ∈ items, key a ∈ visited → ∀ b ∈ next a, key b ∈ later) :
    firsts key ((firsts key items visited).flatMap next) later =
      firsts key (items.flatMap next) later := by
  induction items generalizing visited later with
  | nil => rfl
  | cons a items ih =>
    have hcongr' : ∀ b ∈ items, ∀ c ∈ items, key b = key c → (next b).map key = (next c).map key :=
      fun b hb c hc => hcongr b (List.mem_cons_of_mem _ hb) c (List.mem_cons_of_mem _ hc)
    rw [List.flatMap_cons, firsts_append]
    by_cases h : key a ∈ visited
    · have hnext := hlater a List.mem_cons_self h
      have hseen : visitedAfter key (next a) later = later := by
        rw [visitedAfter, firsts_eq_nil hnext]
        rfl
      rw [firsts_cons_of_mem h, firsts_eq_nil hnext, hseen]
      exact ih hcongr' fun b hb => hlater b (List.mem_cons_of_mem _ hb)
    · rw [firsts_cons_of_not_mem h, List.flatMap_cons, firsts_append]
      congr 1
      refine ih hcongr' fun b hb hk c hc => ?_
      rw [mem_visitedAfter]
      rcases List.mem_cons.mp hk with hk | hk
      · -- `b` has the key of `a`, so its successors have the keys of those of `a`
        have hkeys := hcongr a List.mem_cons_self b (List.mem_cons_of_mem _ hb) hk.symm
        have hmem : key c ∈ (next a).map key := by
          rw [hkeys]
          exact List.mem_map_of_mem hc
        exact Or.inr (List.mem_map.mp hmem)
      · exact Or.inl (hlater b (List.mem_cons_of_mem _ hb) hk c hc)

end Firsts

/-! ## 2. Layers without skipping -/

/-- The items that are a number of steps from those of a list. -/
def layer (next : α → List α) (items : List α) : Nat → List α
  | 0 => items
  | n + 1 => (layer next items n).flatMap next

/-- The items that are at most a number of steps from those of a list, nearer ones first. -/
def layers (next : α → List α) (items : List α) : Nat → List α
  | 0 => items
  | n + 1 => layers next items n ++ layer next items (n + 1)

section Layers

variable {next : α → List α} {items : List α}

theorem mem_layers {a : α} {n : Nat} : a ∈ layers next items n ↔ ∃ m ≤ n, a ∈ layer next items m := by
  induction n with
  | zero => simp [layers, layer]
  | succ n ih =>
    rw [layers, List.mem_append, ih]
    constructor
    · rintro (⟨m, hm, ha⟩ | ha)
      · exact ⟨m, by omega, ha⟩
      · exact ⟨n + 1, Nat.le_refl _, ha⟩
    · rintro ⟨m, hm, ha⟩
      rcases Nat.lt_or_eq_of_le hm with hlt | rfl
      · exact Or.inl ⟨m, by omega, ha⟩
      · exact Or.inr ha

theorem forall_mem_layer {P : α → Prop} (hitems : ∀ a ∈ items, P a)
    (hnext : ∀ a, P a → ∀ b ∈ next a, P b) (n : Nat) : ∀ a ∈ layer next items n, P a := by
  induction n with
  | zero => exact hitems
  | succ n ih =>
    intro b hb
    obtain ⟨a, ha, hb⟩ := List.mem_flatMap.mp hb
    exact hnext a (ih a ha) b hb

theorem rank_of_mem_layer {rank : α → Nat} (hitems : ∀ a ∈ items, rank a = 0)
    (hrank : ∀ a, ∀ b ∈ next a, rank b = rank a + 1) {n : Nat} {a : α}
    (h : a ∈ layer next items n) : rank a = n := by
  induction n generalizing a with
  | zero => exact hitems a h
  | succ n ih =>
    obtain ⟨b, hb, ha⟩ := List.mem_flatMap.mp h
    rw [hrank b a ha, ih hb]

/-- What is found first is still found first when more layers are added. -/
theorem find?_layers_mono {p : α → Bool} {a : α} {m n : Nat} (h : m ≤ n)
    (ha : (layers next items m).find? p = some a) : (layers next items n).find? p = some a := by
  induction h with
  | refl => exact ha
  | step _ ih =>
    rw [layers, List.find?_append, ih]
    rfl

end Layers

/-- Whether an item is the first with its key: it stands before all others among the items no further
away, nearer ones first. -/
def IsFirst [BEq κ] (next : α → List α) (key : α → κ) (rank : α → Nat) (items : List α) (c : α) :
    Prop :=
  (layers next items (rank c)).find? (fun a => key a == key c) = some c

namespace IsFirst

variable [BEq κ] {next : α → List α} {key : α → κ} {rank : α → Nat} {items : List α} {a b : α}

/-- Each key has one first item. -/
theorem unique (ha : IsFirst next key rank items a) (hb : IsFirst next key rank items b)
    (hkey : key a = key b) : a = b := by
  have ha' := find?_layers_mono (Nat.le_max_left (rank a) (rank b)) ha
  rw [hkey, find?_layers_mono (Nat.le_max_right (rank a) (rank b)) hb] at ha'
  exact (Option.some.inj ha').symm

section Ranked

variable (hzero : ∀ a ∈ items, rank a = 0) (hrank : ∀ a, ∀ b ∈ next a, rank b = rank a + 1)
include hzero hrank

theorem mem_layer (h : IsFirst next key rank items a) : a ∈ layer next items (rank a) := by
  obtain ⟨m, _, ha⟩ := mem_layers.mp (List.mem_of_find?_eq_some h)
  rw [rank_of_mem_layer hzero hrank ha]
  exact ha

variable [LawfulBEq κ]

/-- Every item has a first one with its key, and this is no further away. -/
theorem exists_of_mem_layer {n : Nat} (h : a ∈ layer next items n) :
    ∃ c, IsFirst next key rank items c ∧ key c = key a ∧ rank c ≤ n := by
  have hfound : ∀ {m : Nat} {c : α}, c ∈ layer next items m → key c = key a →
      ∃ d, (layers next items m).find? (fun b => key b == key a) = some d := by
    intro m c hc hkey
    refine Option.isSome_iff_exists.mp (List.find?_isSome.mpr ⟨c, ?_, beq_iff_eq.mpr hkey⟩)
    exact mem_layers.mpr ⟨m, Nat.le_refl m, hc⟩
  obtain ⟨c, hc⟩ := hfound h rfl
  have hkey : key c = key a := by simpa using List.find?_some hc
  obtain ⟨m, hm, hlayer⟩ := mem_layers.mp (List.mem_of_find?_eq_some hc)
  have hrankc : rank c = m := rank_of_mem_layer hzero hrank hlayer
  obtain ⟨d, hd⟩ := hfound hlayer hkey
  have hdc : d = c := by
    have hd' := find?_layers_mono hm hd
    rw [hc] at hd'
    exact (Option.some.inj hd').symm
  refine ⟨c, ?_, hkey, hrankc ▸ hm⟩
  rw [IsFirst, hrankc, hkey, hd, hdc]

end Ranked

end IsFirst

/-! ## 3. Sweeps -/

namespace Sweeps

variable [BEq κ] [LawfulBEq κ] {next : α → List α} {key : α → κ} {items queue trace : List α}
  {visited : List κ}

/-- **One round of a sweep**: of the first part of the queue it expands the first of each key, and
their successors go to the back. -/
theorem round {later : List α} (h : Sweeps next key (queue ++ later) visited trace) :
    ∃ rest, trace = firsts key queue visited ++ rest ∧
      Sweeps next key (later ++ (firsts key queue visited).flatMap next)
        (visitedAfter key queue visited) rest := by
  induction queue generalizing later visited trace with
  | nil =>
    refine ⟨trace, rfl, ?_⟩
    rw [firsts, List.flatMap_nil, List.append_nil]
    exact h
  | cons a queue ih =>
    cases h with
    | skip hk h =>
      rw [firsts_cons_of_mem hk, visitedAfter_cons_of_mem hk]
      exact ih h
    | expand hk h =>
      obtain ⟨rest, rfl, hrest⟩ := ih (List.append_assoc queue later (next a) ▸ h)
      rw [firsts_cons_of_not_mem hk, visitedAfter_cons_of_not_mem hk, List.flatMap_cons,
        ← List.append_assoc]
      exact ⟨rest, rfl, hrest⟩

/-- The keys that a sweep has visited before it comes to a layer. -/
def visitedBefore (next : α → List α) (key : α → κ) (items : List α) : Nat → List κ
  | 0 => []
  | n + 1 => visitedAfter key (layers next items n) []

/-- After as many rounds as a layer is away, a sweep has expanded the first of each key up to it and
its queue holds the successors of those in the layer. -/
theorem rounds {P : α → Prop} (hitems : ∀ a ∈ items, P a) (hnext : ∀ a, P a → ∀ b ∈ next a, P b)
    (hcongr : ∀ a b, P a → P b → key a = key b → (next a).map key = (next b).map key)
    (h : Sweeps next key items [] trace) (n : Nat) :
    ∃ rest, trace = firsts key (layers next items n) [] ++ rest ∧
      Sweeps next key
        ((firsts key (layer next items n) (visitedBefore next key items n)).flatMap next)
        (visitedBefore next key items (n + 1)) rest := by
  induction n with
  | zero =>
    rw [← List.append_nil items] at h
    exact round h
  | succ n ih =>
    obtain ⟨rest, rfl, hrest⟩ := ih
    have hlayer : ∀ a ∈ layer next items n, P a := forall_mem_layer hitems hnext n
    have hvisited : ∀ a ∈ layer next items n, key a ∈ visitedBefore next key items n →
        ∀ b ∈ next a, key b ∈ visitedBefore next key items (n + 1) := by
      intro a ha hk b hb
      cases n with
      | zero => exact absurd hk List.not_mem_nil
      | succ m =>
        obtain ⟨c, hc, hkey⟩ := (mem_visitedAfter.mp hk).resolve_left List.not_mem_nil
        obtain ⟨i, hi, hc⟩ := mem_layers.mp hc
        have hkeys := hcongr c a (forall_mem_layer hitems hnext i c hc) (hlayer a ha) hkey
        have hmem : key b ∈ (next c).map key := by
          rw [hkeys]
          exact List.mem_map_of_mem hb
        obtain ⟨d, hd, hkd⟩ := List.mem_map.mp hmem
        refine mem_visitedAfter.mpr (Or.inr ⟨d, mem_layers.mpr ⟨i + 1, by omega, ?_⟩, hkd⟩)
        exact List.mem_flatMap.mpr ⟨c, hc, hd⟩
    have hfirsts : firsts key
        ((firsts key (layer next items n) (visitedBefore next key items n)).flatMap next)
        (visitedBefore next key items (n + 1)) =
          firsts key (layer next items (n + 1)) (visitedBefore next key items (n + 1)) :=
      firsts_flatMap (fun a ha b hb => hcongr a b (hlayer a ha) (hlayer b hb)) hvisited
    rw [← List.append_nil (List.flatMap _ _)] at hrest
    obtain ⟨rest', rfl, hrest'⟩ := round hrest
    rw [visitedAfter, hfirsts] at hrest'
    refine ⟨rest', ?_, ?_⟩
    · rw [hfirsts, layers, firsts_append, List.append_assoc]
      rfl
    · have hafter : visitedBefore next key items (n + 2) =
          visitedAfter key (layer next items (n + 1)) (visitedBefore next key items (n + 1)) :=
        visitedAfter_append _
      rw [hafter]
      exact hrest'

/-- **A sweep expands the first item of each key.** -/
theorem mem_iff_first {P : α → Prop} {rank : α → Nat} (hitems : ∀ a ∈ items, P a)
    (hnext : ∀ a, P a → ∀ b ∈ next a, P b)
    (hcongr : ∀ a b, P a → P b → key a = key b → (next a).map key = (next b).map key)
    (hzero : ∀ a ∈ items, rank a = 0) (hrank : ∀ a, ∀ b ∈ next a, rank b = rank a + 1)
    (h : Sweeps next key items [] trace) {c : α} :
    c ∈ trace ↔ IsFirst next key rank items c := by
  obtain ⟨rest, rfl, hrest⟩ := rounds hitems hnext hcongr h (rank c)
  have hfirst : c ∈ firsts key (layers next items (rank c)) [] ↔
      IsFirst next key rank items c := by
    rw [mem_firsts_iff]
    exact and_iff_right List.not_mem_nil
  rw [← hfirst, List.mem_append]
  refine or_iff_left fun hc => ?_
  -- what comes later is further away
  have hfar : ∀ a ∈ rest, rank c + 1 ≤ rank a := by
    refine hrest.le_rank hrank fun b hb => ?_
    obtain ⟨a, ha, hb⟩ := List.mem_flatMap.mp hb
    have ha' : rank a = rank c := rank_of_mem_layer hzero hrank (mem_of_mem_firsts ha)
    have hb' : rank b = rank a + 1 := hrank a b hb
    omega
  have := hfar c hc
  omega

end Sweeps

end TaintFlow
