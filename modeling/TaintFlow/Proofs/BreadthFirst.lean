/-!
# Breadth-first sweeps

A sweep takes items from the front of a queue; an item whose key was met before is skipped, any
other is expanded and its successors go to the back. `sweep` lists the expanded items for a number of
steps, `Sweeps` says that a sweep comes to its end and which items it expands.

* `sweeps_sweep`: with finitely many keys and a bounded number of successors, enough steps end it.
* If every successor ranks one above its item, the queue stays in layers (`Sweeps.layered_step`). So
  of the items with one key a sweep expands one of least rank (`Sweeps.covers`), and forbidding
  successors above a rank takes away exactly the expanded items above it (`Sweeps.filter_rank`).
-/

namespace TaintFlow

variable {α κ : Type}

/-- The items that a sweep expands in a number of steps. -/
def sweep [BEq κ] (next : α → List α) (key : α → κ) : (steps : Nat) → (queue : List α) →
    (visited : List κ) → List α
  | 0, _, _ => []
  | _ + 1, [], _ => []
  | steps + 1, a :: queue, visited =>
    if visited.contains (key a) then sweep next key steps queue visited
    else a :: sweep next key steps (queue ++ next a) (key a :: visited)

/-- A sweep from a queue ends and expands these items. -/
inductive Sweeps (next : α → List α) (key : α → κ) : List α → List κ → List α → Prop where
  | done (visited : List κ) : Sweeps next key [] visited []
  | skip {a : α} {queue : List α} {visited : List κ} {trace : List α} (hk : key a ∈ visited)
      (h : Sweeps next key queue visited trace) : Sweeps next key (a :: queue) visited trace
  | expand {a : α} {queue : List α} {visited : List κ} {trace : List α} (hk : key a ∉ visited)
      (h : Sweeps next key (queue ++ next a) (key a :: visited) trace) :
      Sweeps next key (a :: queue) visited (a :: trace)

namespace Sweeps

variable {next : α → List α} {key : α → κ} {queue trace : List α} {visited : List κ}

/-! ## 1. What a sweep expands -/

/-- A sweep goes one way only. -/
theorem unique {trace' : List α} (h : Sweeps next key queue visited trace)
    (h' : Sweeps next key queue visited trace') : trace = trace' := by
  induction h generalizing trace' with
  | done => cases h'; rfl
  | skip hk _ ih =>
    cases h' with
    | skip _ h' => exact ih h'
    | expand hn _ => exact absurd hk hn
  | expand hk _ ih =>
    cases h' with
    | skip hm _ => exact absurd hm hk
    | expand _ h' => rw [ih h']

/-- What holds in the queue and passes to successors holds of everything expanded. -/
theorem forall_mem {P : α → Prop} (h : Sweeps next key queue visited trace)
    (hq : ∀ a ∈ queue, P a) (hnext : ∀ a, P a → ∀ b ∈ next a, P b) : ∀ a ∈ trace, P a := by
  induction h with
  | done => exact fun _ ha => absurd ha List.not_mem_nil
  | skip _ _ ih => exact ih fun a ha => hq a (List.mem_cons_of_mem _ ha)
  | @expand a queue _ _ _ _ ih =>
    have ha := hq a List.mem_cons_self
    intro b hb
    rcases List.mem_cons.mp hb with rfl | hb
    · exact ha
    · refine ih (fun c hc => ?_) b hb
      rcases List.mem_append.mp hc with hc | hc
      · exact hq c (List.mem_cons_of_mem _ hc)
      · exact hnext a ha c hc

end Sweeps

/-! ## 2. The end of a sweep -/

/-- The keys of a list that are not visited yet. -/
def unvisited [BEq κ] (keys visited : List κ) : List κ := keys.filter fun k => !visited.contains k

/-- Visiting a key takes it out of the unvisited ones. -/
theorem length_unvisited_cons [BEq κ] [LawfulBEq κ] {keys visited : List κ} {k : κ} (hk : k ∈ keys)
    (hn : k ∉ visited) :
    (unvisited keys (k :: visited)).length < (unvisited keys visited).length := by
  have e : unvisited keys (k :: visited) = (unvisited keys visited).filter fun c => !(c == k) := by
    rw [unvisited, unvisited, List.filter_filter]
    refine List.filter_congr fun c _ => ?_
    rw [List.contains_cons, Bool.not_or]
  rw [e, List.length_filter_lt_length_iff_exists]
  refine ⟨k, List.mem_filter.mpr ⟨hk, ?_⟩, by simp⟩
  simpa using hn

/-- **Enough steps end a sweep**: one for each item of the queue, and for each key that is still
unvisited as many as an item can have successors. -/
theorem sweeps_sweep [BEq κ] [LawfulBEq κ] {next : α → List α} {key : α → κ} {P : α → Prop}
    {keys : List κ} {most : Nat} (hnext : ∀ a, P a → ∀ b ∈ next a, P b)
    (hkey : ∀ a, P a → key a ∈ keys) (hmost : ∀ a, P a → (next a).length ≤ most) (steps : Nat)
    (queue : List α) (visited : List κ) (hq : ∀ a ∈ queue, P a)
    (hsteps : queue.length + (unvisited keys visited).length * most ≤ steps) :
    Sweeps next key queue visited (sweep next key steps queue visited) := by
  induction steps generalizing queue visited with
  | zero =>
    cases queue with
    | nil => exact .done visited
    | cons a queue => simp at hsteps
  | succ steps ih =>
    cases queue with
    | nil => exact .done visited
    | cons a queue =>
      have hqueue : ∀ b ∈ queue, P b := fun b hb => hq b (List.mem_cons_of_mem _ hb)
      have ha := hq a List.mem_cons_self
      rw [List.length_cons] at hsteps
      rw [sweep]
      by_cases hk : key a ∈ visited
      · rw [if_pos (List.contains_iff_mem.mpr hk)]
        exact .skip hk (ih queue visited hqueue (by omega))
      · rw [if_neg fun h => hk (List.contains_iff_mem.mp h)]
        refine .expand hk (ih _ _ (fun b hb => ?_) ?_)
        · rcases List.mem_append.mp hb with hb | hb
          · exact hqueue b hb
          · exact hnext a ha b hb
        · have hlt := length_unvisited_cons (hkey a ha) hk
          have hmul := Nat.mul_le_mul_right most hlt
          rw [Nat.succ_mul] at hmul
          have hlen := hmost a ha
          rw [List.length_append]
          omega

/-! ## 3. Layers -/

/-- The items of a queue stand in the order of their ranks, which differ by one at most. -/
def Layered (rank : α → Nat) (queue : List α) : Prop :=
  queue.Pairwise fun a b => rank a ≤ rank b ∧ rank b ≤ rank a + 1

namespace Sweeps

variable {next : α → List α} {key : α → κ} {rank : α → Nat} {queue trace : List α}
  {visited : List κ}

/-- Expanding the first item keeps the layers. -/
theorem layered_step {a : α} (hrank : ∀ b ∈ next a, rank b = rank a + 1)
    (h : Layered rank (a :: queue)) : Layered rank (queue ++ next a) := by
  obtain ⟨ha, hqueue⟩ := List.pairwise_cons.mp h
  refine List.pairwise_append.mpr ⟨hqueue, ?_, fun b hb c hc => ?_⟩
  · refine List.pairwise_of_forall_mem_list fun b hb c hc => ?_
    rw [hrank b hb, hrank c hc]
    omega
  · have hab := ha b hb
    rw [hrank c hc]
    omega

/-- Nothing expanded ranks below the queue. -/
theorem le_rank {r : Nat} (hrank : ∀ a, ∀ b ∈ next a, rank b = rank a + 1)
    (h : Sweeps next key queue visited trace) (hq : ∀ a ∈ queue, r ≤ rank a) :
    ∀ a ∈ trace, r ≤ rank a := by
  refine h.forall_mem hq fun a ha b hb => ?_
  rw [hrank a b hb]
  omega

/-- The head of a layered queue ranks lowest. -/
theorem le_rank_of_layered {a : α} (hl : Layered rank (a :: queue)) :
    ∀ b ∈ a :: queue, rank a ≤ rank b := by
  intro b hb
  rcases List.mem_cons.mp hb with rfl | hb
  · exact Nat.le_refl _
  · exact ((List.pairwise_cons.mp hl).1 b hb).1

/-- **A sweep covers its queue and its successors**: each has a key visited before, or an item with
the same key and no higher rank is expanded. -/
theorem covers (hrank : ∀ a, ∀ b ∈ next a, rank b = rank a + 1)
    (h : Sweeps next key queue visited trace) (hl : Layered rank queue) :
    ∀ b, (b ∈ queue ∨ ∃ a ∈ trace, b ∈ next a) →
      key b ∈ visited ∨ ∃ c ∈ trace, key c = key b ∧ rank c ≤ rank b := by
  induction h with
  | done =>
    rintro b (hb | ⟨a, ha, _⟩)
    · exact absurd hb List.not_mem_nil
    · exact absurd ha List.not_mem_nil
  | @skip a queue visited trace hk _ ih =>
    rintro b (hb | hb)
    · rcases List.mem_cons.mp hb with rfl | hb
      · exact Or.inl hk
      · exact ih (List.pairwise_cons.mp hl).2 b (Or.inl hb)
    · exact ih (List.pairwise_cons.mp hl).2 b (Or.inr hb)
  | @expand a queue visited trace hk h ih =>
    have hl' := layered_step (hrank a) hl
    have hlow := le_rank_of_layered hl
    -- whatever ranks no lower than `a` and meets its key is covered by `a` itself
    have close : ∀ b, rank a ≤ rank b → (b ∈ queue ++ next a ∨ ∃ c ∈ trace, b ∈ next c) →
        key b ∈ visited ∨ ∃ c ∈ a :: trace, key c = key b ∧ rank c ≤ rank b := by
      intro b hab hb
      rcases ih hl' b hb with hkb | ⟨c, hc, hcb⟩
      · rcases List.mem_cons.mp hkb with hkb | hkb
        · exact Or.inr ⟨a, List.mem_cons_self, hkb.symm, hab⟩
        · exact Or.inl hkb
      · exact Or.inr ⟨c, List.mem_cons_of_mem _ hc, hcb⟩
    rintro b (hb | ⟨c, hc, hb⟩)
    · rcases List.mem_cons.mp hb with rfl | hb'
      · exact Or.inr ⟨b, List.mem_cons_self, rfl, Nat.le_refl _⟩
      · exact close b (hlow b hb) (Or.inl (List.mem_append_left _ hb'))
    · rcases List.mem_cons.mp hc with rfl | hc
      · have hcb := hrank c b hb
        exact close b (by omega) (Or.inl (List.mem_append_right _ hb))
      · have hcb := hrank c b hb
        have hac : rank a ≤ rank c := by
          refine h.le_rank hrank (fun d hd => ?_) c hc
          rcases List.mem_append.mp hd with hd | hd
          · exact hlow d (List.mem_cons_of_mem _ hd)
          · rw [hrank a d hd]; omega
        exact close b (by omega) (Or.inr ⟨c, hc, hb⟩)

/-- **A bound on ranks is a filter**: without the successors above a rank a sweep expands the same
items in the same order, less those above it. -/
theorem filter_rank (d : Nat) (hrank : ∀ a, ∀ b ∈ next a, rank b = rank a + 1)
    (h : Sweeps next key queue visited trace) (hl : Layered rank queue) :
    Sweeps (fun a => (next a).filter fun b => rank b ≤ d) key
      (queue.filter fun a => rank a ≤ d) visited (trace.filter fun a => rank a ≤ d) := by
  induction h with
  | done => exact .done _
  | @skip a queue visited trace hk _ ih =>
    have ih := ih (List.pairwise_cons.mp hl).2
    by_cases ha : rank a ≤ d
    · rw [List.filter_cons_of_pos (by simpa using ha)]
      exact .skip hk ih
    · rw [List.filter_cons_of_neg (by simpa using ha)]
      exact ih
  | @expand a queue visited trace hk _ ih =>
    have ih := ih (layered_step (hrank a) hl)
    by_cases ha : rank a ≤ d
    · rw [List.filter_cons_of_pos (by simpa using ha), List.filter_cons_of_pos (by simpa using ha)]
      rw [List.filter_append] at ih
      exact .expand hk ih
    · -- from here on everything in the queue is above the bound
      have hnil : ∀ q : List α, (∀ b ∈ q, rank a ≤ rank b) →
          (q.filter fun b => decide (rank b ≤ d)) = [] := by
        intro q hq
        refine List.filter_eq_nil_iff.mpr fun b hb => ?_
        have := hq b hb
        simp
        omega
      have hlow := le_rank_of_layered hl
      have hq : ∀ b ∈ queue ++ next a, rank a ≤ rank b := by
        intro b hb
        rcases List.mem_append.mp hb with hb | hb
        · exact hlow b (List.mem_cons_of_mem _ hb)
        · rw [hrank a b hb]; omega
      rw [hnil _ hq] at ih
      rw [hnil _ hlow, List.filter_cons_of_neg (by simpa using ha)]
      generalize (trace.filter fun b => decide (rank b ≤ d)) = rest at ih
      cases ih
      exact .done _

end Sweeps

end TaintFlow
