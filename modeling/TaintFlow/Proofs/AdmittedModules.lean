import Mathlib.Data.List.Perm.Subperm
import TaintFlow.Proofs.QueueLoop
import TaintFlow.Proofs.Trace

/-!
# The pass that admits modules

Under a cap on modules a pass over the functions decides which modules a search may enter.

* The pass comes to its end: every step takes something from what is left to do (`drains_run`).
* It admits no more modules than the cap says (`admittedModules_size_le`).
* A larger cap admits no fewer modules: until the smaller one is reached the two passes do the same,
  and after that it admits nothing more (`admittedModules_mono`).
* A cap that leaves room for every module of the project refuses none, so the pass comes to every
  function that can be fed from a source (`mem_admittedModules_of_fed`). The pass asks less than the
  search, only that an argument is no constant or that something foreign is returned, so wherever the
  search goes the pass went before (`Reached.fed`).
-/

namespace TaintFlow

namespace Admission

variable {g : CallGraph} {cap : Nat} {a : Admission}

/-! ## 1. One step -/

/-- **What a step does with the next function**: it was met before, its module is refused, or it is
expanded and its module admitted. -/
theorem step_cases (g : CallGraph) (cap : Nat) {f : FunctionFacts} {rest : List FunctionFacts}
    (hq : a.queue = f :: rest) :
    (f.id ∈ a.seen ∧ a.step g cap = { a with queue := rest }) ∨
      (f.id ∉ a.seen ∧ (f.id.module ∉ a.admitted ∧ cap ≤ a.admitted.size) ∧
        a.step g cap = { a with queue := rest, seen := a.seen.insert f.id }) ∨
      (f.id ∉ a.seen ∧ (f.id.module ∈ a.admitted ∨ a.admitted.size < cap) ∧
        a.step g cap = ⟨rest ++ successors g f, a.seen.insert f.id,
          a.admitted.insert f.id.module⟩) := by
  rw [step, hq]
  dsimp only
  by_cases hseen : f.id ∈ a.seen
  · rw [if_pos (SortedSet.contains_iff.mpr hseen)]
    exact Or.inl ⟨hseen, rfl⟩
  · rw [if_neg fun h => hseen (SortedSet.contains_iff.mp h)]
    refine Or.inr ?_
    by_cases hrefused : f.id.module ∉ a.admitted ∧ cap ≤ a.admitted.size
    · have hif : (!a.admitted.contains f.id.module && decide (cap ≤ a.admitted.size)) = true := by
        rw [Bool.and_eq_true, Bool.not_eq_true', ← Bool.not_eq_true, SortedSet.contains_iff]
        exact ⟨hrefused.1, decide_eq_true hrefused.2⟩
      rw [if_pos hif]
      exact Or.inl ⟨hseen, hrefused, rfl⟩
    · have hif : ¬ (!a.admitted.contains f.id.module && decide (cap ≤ a.admitted.size)) = true := by
        rw [Bool.and_eq_true, Bool.not_eq_true', ← Bool.not_eq_true, SortedSet.contains_iff]
        exact fun h => hrefused ⟨h.1, of_decide_eq_true h.2⟩
      rw [if_neg hif]
      refine Or.inr ⟨hseen, ?_, rfl⟩
      by_cases hin : f.id.module ∈ a.admitted
      · exact Or.inl hin
      · exact Or.inr (Nat.lt_of_not_le fun hle => hrefused ⟨hin, hle⟩)

theorem run_succ_nil (steps : Nat) (hq : a.queue = []) : run g cap (steps + 1) a = a := by
  rw [run, hq]
  rfl

theorem run_succ_cons (steps : Nat) {f : FunctionFacts} {rest : List FunctionFacts}
    (hq : a.queue = f :: rest) : run g cap (steps + 1) a = run g cap steps (a.step g cap) := by
  rw [run, hq]
  rfl

/-- What every step keeps, the pass keeps. -/
theorem run_invariant {P : Admission → Prop}
    (hstep : ∀ a f rest, a.queue = f :: rest → P a → P (a.step g cap)) (steps : Nat) (h : P a) :
    P (run g cap steps a) := by
  induction steps generalizing a with
  | zero => exact h
  | succ steps ih =>
    cases hq : a.queue with
    | nil =>
      rw [run_succ_nil steps hq]
      exact h
    | cons f rest =>
      rw [run_succ_cons steps hq]
      exact ih (hstep a f rest hq h)

/-! ## 2. The end -/

/-- What is left to do: the queue, and the edges at functions that were not met yet, once for either
end. -/
def remaining (g : CallGraph) (a : Admission) : Nat :=
  a.queue.length + (g.edges.countP fun e => !a.seen.contains e.caller) +
    g.edges.countP fun e => !a.seen.contains e.callee

/-- Meeting a function settles the edges that have it at one end. -/
theorem countP_unseen_insert (fnAt : CallEdge → FunctionId) {seen : SortedSet FunctionId}
    {id : FunctionId} (h : id ∉ seen) (edges : List CallEdge) :
    (edges.countP fun e => !seen.contains (fnAt e)) =
      (edges.filter fun e => fnAt e == id).length +
        edges.countP fun e => !(seen.insert id).contains (fnAt e) := by
  induction edges with
  | nil => rfl
  | cons e edges ih =>
    rw [List.countP_cons, List.countP_cons, List.filter_cons, ih]
    by_cases hid : fnAt e = id
    · have hnew : seen.contains (fnAt e) = false := by
        rw [← Bool.not_eq_true, SortedSet.contains_iff, hid]
        exact h
      have hmet : (seen.insert id).contains (fnAt e) = true :=
        SortedSet.contains_iff.mpr (SortedSet.mem_insert.mpr (Or.inl hid))
      rw [hnew, hmet, if_pos (beq_iff_eq.mpr hid), List.length_cons]
      simp
      omega
    · have hsame : (seen.insert id).contains (fnAt e) = seen.contains (fnAt e) := by
        rw [Bool.eq_iff_iff, SortedSet.contains_iff, SortedSet.contains_iff, SortedSet.mem_insert]
        exact or_iff_right hid
      rw [hsame, if_neg fun e => hid (beq_iff_eq.mp e)]
      omega

/-- A function has at most one successor for each edge at it. -/
theorem length_successors_le (g : CallGraph) (f : FunctionFacts) :
    (successors g f).length ≤ (g.edges.filter fun e => e.caller == f.id).length +
      (g.edges.filter fun e => e.callee == f.id).length := by
  have hcallees : (g.callees f.id).length = (g.edges.filter fun e => e.caller == f.id).length := by
    rw [CallGraph.callees, CallEdge.sort, List.length_mergeSort, List.filter_reverse,
      List.length_reverse]
  have hcallers : (g.callers f.id).length = (g.edges.filter fun e => e.callee == f.id).length := by
    rw [CallGraph.callers, CallEdge.sort, List.length_mergeSort, List.filter_reverse,
      List.length_reverse]
  have hdown : (((g.callees f.id).filter carries).filterMap fun e => g.facts? e.callee).length ≤
      (g.callees f.id).length :=
    Nat.le_trans (List.length_filterMap_le _ _) (List.length_filter_le _ _)
  have hup : (if f.returns.hasForeign then
      (g.callers f.id).filterMap fun e => g.facts? e.caller else []).length ≤
        (g.callers f.id).length := by
    split
    · exact List.length_filterMap_le _ _
    · exact Nat.zero_le _
  rw [successors, List.length_append]
  omega

/-- **Every step leaves less to do.** -/
theorem remaining_step_lt (cap : Nat) {f : FunctionFacts} {rest : List FunctionFacts}
    (hq : a.queue = f :: rest) : (a.step g cap).remaining g < a.remaining g := by
  rw [remaining, remaining, hq, List.length_cons]
  rcases step_cases g cap hq with ⟨_, hs⟩ | ⟨hseen, _, hs⟩ | ⟨hseen, _, hs⟩
  · rw [hs]
    dsimp only
    omega
  · rw [hs, countP_unseen_insert (·.caller) hseen, countP_unseen_insert (·.callee) hseen]
    dsimp only
    omega
  · have hsucc := length_successors_le g f
    rw [hs, countP_unseen_insert (·.caller) hseen, countP_unseen_insert (·.callee) hseen]
    dsimp only
    rw [List.length_append]
    omega

theorem remaining_start_le (g : CallGraph) :
    remaining g { queue := g.sourceFunctions } ≤ stepBound g := by
  have hcallers := List.countP_le_length
    (l := g.edges) (p := fun e => !(∅ : SortedSet FunctionId).contains e.caller)
  have hcallees := List.countP_le_length
    (l := g.edges) (p := fun e => !(∅ : SortedSet FunctionId).contains e.callee)
  rw [remaining, stepBound]
  dsimp only
  omega

/-- **The pass comes to its end**, whatever the cap and whatever cycles the graph has. -/
theorem drains_run (g : CallGraph) (cap : Nat) :
    ∃ n ≤ stepBound g, Drains (step g cap) queue n { queue := g.sourceFunctions }
      (run g cap (stepBound g) { queue := g.sourceFunctions }) := by
  have hstep : ∀ a : Admission, True → a.queue ≠ [] →
      True ∧ (a.step g cap).remaining g < a.remaining g := by
    intro a _ hne
    obtain ⟨f, rest, hq⟩ := List.exists_cons_of_ne_nil hne
    exact ⟨trivial, remaining_step_lt cap hq⟩
  obtain ⟨n, hn, last, hlast⟩ := exists_drains hstep (x := { queue := g.sourceFunctions }) trivial
  have hbound := Nat.le_trans hn (remaining_start_le g)
  rw [hlast.run_eq (run g cap) (fun _ => rfl) (fun _ _ => rfl) hbound]
  exact ⟨n, hbound, hlast⟩

/-! ## 3. Larger caps -/

/-- The pass takes no module back. -/
theorem mem_admitted_run (steps : Nat) {m : String} (h : m ∈ a.admitted) :
    m ∈ (run g cap steps a).admitted := by
  refine run_invariant (P := fun a => m ∈ a.admitted) (fun a f rest hq hm => ?_) steps h
  rcases step_cases g cap hq with ⟨_, hs⟩ | ⟨_, _, hs⟩ | ⟨_, _, hs⟩
  · rw [hs]
    exact hm
  · rw [hs]
    exact hm
  · rw [hs]
    exact SortedSet.mem_insert.mpr (Or.inr hm)

/-- Once the cap is reached no module is added. -/
theorem admitted_run_of_full (steps : Nat) (h : cap ≤ a.admitted.size) :
    (run g cap steps a).admitted = a.admitted := by
  refine run_invariant (P := fun b => b.admitted = a.admitted) (fun b f rest hq hb => ?_) steps rfl
  rcases step_cases g cap hq with ⟨_, hs⟩ | ⟨_, _, hs⟩ | ⟨_, hopen, hs⟩
  · rw [hs]
    exact hb
  · rw [hs]
    exact hb
  · rw [hb] at hopen
    have hin : f.id.module ∈ a.admitted := hopen.resolve_right (Nat.not_lt.mpr h)
    rw [hs, hb]
    exact SortedSet.insert_of_mem hin

/-- Until a cap is reached it makes no difference. -/
theorem step_eq_of_lt {c c' : Nat} (hc : c ≤ c') (h : a.admitted.size < c) :
    a.step g c = a.step g c' := by
  cases hq : a.queue with
  | nil => rw [step, step, hq]
  | cons f rest =>
    rcases step_cases g c hq with ⟨hseen, hs⟩ | ⟨_, hfull, _⟩ | ⟨hseen, _, hs⟩
    · rcases step_cases g c' hq with ⟨_, hs'⟩ | ⟨hnew, _⟩ | ⟨hnew, _⟩
      · rw [hs, hs']
      · exact absurd hseen hnew
      · exact absurd hseen hnew
    · omega
    · rcases step_cases g c' hq with ⟨hmet, _⟩ | ⟨_, hfull, _⟩ | ⟨_, _, hs'⟩
      · exact absurd hmet hseen
      · omega
      · rw [hs, hs']

theorem admitted_run_mono {c c' : Nat} (hc : c ≤ c') (steps : Nat) (a : Admission) {m : String}
    (h : m ∈ (run g c steps a).admitted) : m ∈ (run g c' steps a).admitted := by
  induction steps generalizing a with
  | zero => exact h
  | succ steps ih =>
    by_cases hfull : c ≤ a.admitted.size
    · rw [admitted_run_of_full _ hfull] at h
      exact mem_admitted_run _ h
    · cases hq : a.queue with
      | nil =>
        rw [run_succ_nil steps hq] at h ⊢
        exact h
      | cons f rest =>
        rw [run_succ_cons steps hq] at h ⊢
        rw [← step_eq_of_lt hc (Nat.lt_of_not_le hfull)]
        exact ih _ h

end Admission

/-- **A larger cap admits no fewer modules.** -/
theorem admittedModules_mono (g : CallGraph) {c c' : Nat} (hc : c ≤ c') {m : String}
    (h : m ∈ admittedModules g c) : m ∈ admittedModules g c' :=
  Admission.admitted_run_mono hc _ _ h

/-! ## 4. The number of modules -/

namespace SortedSet

variable {α : Type} [Ord α] [Std.TransOrd α] {s t : SortedSet α} {a : α}

theorem nodup_toList (s : SortedSet α) : s.toList.Nodup := s.ascending.imp fun {b c} hlt e => by
  rw [e, Std.ReflOrd.compare_self] at hlt
  cases hlt

theorem size_le_size (hsub : ∀ b ∈ s, b ∈ t) : s.size ≤ t.size :=
  (s.nodup_toList.subperm hsub).length_le

/-- A set misses a member of another that has all of its own: then it is smaller. -/
theorem size_lt_size (hsub : ∀ b ∈ s, b ∈ t) (ha : a ∈ t) (hn : a ∉ s) : s.size < t.size := by
  have hall : a :: s.toList ⊆ t.toList := List.cons_subset.mpr ⟨ha, hsub⟩
  exact ((List.nodup_cons.mpr ⟨hn, s.nodup_toList⟩).subperm hall).length_le

theorem size_insert_le (s : SortedSet α) (a : α) : (s.insert a).size ≤ s.size + 1 := by
  have hall : (s.insert a).toList ⊆ a :: s.toList := fun b hb =>
    List.mem_cons.mpr (mem_of_mem_place hb)
  exact ((s.insert a).nodup_toList.subperm hall).length_le

end SortedSet

/-- **No more modules are admitted than the cap says.** -/
theorem admittedModules_size_le (g : CallGraph) (cap : Nat) : (admittedModules g cap).size ≤ cap := by
  refine Admission.run_invariant (P := fun a => a.admitted.size ≤ cap) (fun a f rest hq ha => ?_) _
    (Nat.zero_le cap)
  rcases Admission.step_cases g cap hq with ⟨_, hs⟩ | ⟨_, _, hs⟩ | ⟨_, hin | hroom, hs⟩
  · rw [hs]
    exact ha
  · rw [hs]
    exact ha
  · rw [hs, SortedSet.insert_of_mem hin]
    exact ha
  · rw [hs]
    exact Nat.le_trans (a.admitted.size_insert_le _) hroom

/-! ## 5. A cap with room for every module -/

/-- The modules of the functions of the project. -/
def CallGraph.functionModules (g : CallGraph) : SortedSet String :=
  .ofList ((g.nodes.filterMap (·.facts)).map fun f => f.id.module)

theorem CallGraph.mem_functionModules {g : CallGraph} {id : FunctionId} {f : FunctionFacts}
    (h : g.facts? id = some f) : f.id.module ∈ g.functionModules := by
  obtain ⟨n, hn, _, _, hf⟩ := facts?_eq_some h
  exact SortedSet.mem_ofList.mpr
    (List.mem_map.mpr ⟨f, List.mem_filterMap.mpr ⟨n, hn, hf⟩, rfl⟩)

namespace Admission

/-- The functions that data from a source could come to, as far as the pass can tell. -/
inductive Fed (g : CallGraph) : FunctionFacts → Prop where
  | source {f : FunctionFacts} (h : f ∈ g.sourceFunctions) : Fed g f
  | step {f f' : FunctionFacts} (h : Fed g f) (hs : f' ∈ successors g f) : Fed g f'

/-- The successors of a function are functions of the graph. -/
theorem facts?_of_mem_successors {g : CallGraph} (hg : g.WellFormed) {f f' : FunctionFacts}
    (h : f' ∈ successors g f) : g.facts? f'.id = some f' := by
  rw [successors] at h
  rcases List.mem_append.mp h with h | h
  · obtain ⟨e, _, he⟩ := List.mem_filterMap.mp h
    exact hg.facts?_self he
  · split at h
    · obtain ⟨e, _, he⟩ := List.mem_filterMap.mp h
      exact hg.facts?_self he
    · exact absurd h List.not_mem_nil

/-- How far a pass is that refuses nothing. Every source and every successor of a function that was
met is met or waits in the queue, and the modules of what was met are admitted. -/
structure Unrefused (g : CallGraph) (a : Admission) : Prop where
  known : ∀ f ∈ a.queue, g.facts? f.id = some f
  sources : ∀ f ∈ g.sourceFunctions, f.id ∈ a.seen ∨ f ∈ a.queue
  closed : ∀ f, g.facts? f.id = some f → f.id ∈ a.seen →
    ∀ f' ∈ successors g f, f'.id ∈ a.seen ∨ f' ∈ a.queue
  entered : ∀ id ∈ a.seen, id.module ∈ a.admitted
  project : ∀ m ∈ a.admitted, m ∈ g.functionModules

namespace Unrefused

variable {g : CallGraph} {cap : Nat} {a : Admission}

theorem start (hg : g.WellFormed) : Unrefused g { queue := g.sourceFunctions } where
  known _ hf := (hg.mem_sourceFunctions.mp hf).1
  sources _ hf := Or.inr hf
  closed _ _ h := absurd h List.not_mem_nil
  entered _ h := absurd h List.not_mem_nil
  project _ h := absurd h List.not_mem_nil

/-- **A cap with room for every module refuses nothing.** -/
theorem step (hg : g.WellFormed) (hcap : g.functionModules.size ≤ cap) {f : FunctionFacts}
    {rest : List FunctionFacts} (hq : a.queue = f :: rest) (h : Unrefused g a) :
    Unrefused g (a.step g cap) := by
  have hf : g.facts? f.id = some f := h.known f (hq ▸ List.mem_cons_self)
  have hrest : ∀ f' ∈ rest, g.facts? f'.id = some f' := fun f' hf' =>
    h.known f' (hq ▸ List.mem_cons_of_mem _ hf')
  -- what waited in the queue is the function of this step or still waits
  have hwait : ∀ f', f'.id ∈ a.seen ∨ f' ∈ a.queue → f'.id ∈ a.seen ∨ f' = f ∨ f' ∈ rest := by
    intro f' hf'
    rw [hq, List.mem_cons] at hf'
    exact hf'
  rcases step_cases g cap hq with ⟨hseen, hs⟩ | ⟨_, ⟨hnew, hfull⟩, _⟩ | ⟨hseen, _, hs⟩
  · rw [hs]
    have hmet : ∀ f', f'.id ∈ a.seen ∨ f' ∈ a.queue → f'.id ∈ a.seen ∨ f' ∈ rest := by
      intro f' hf'
      rcases hwait f' hf' with hf' | rfl | hf'
      · exact Or.inl hf'
      · exact Or.inl hseen
      · exact Or.inr hf'
    exact ⟨hrest, fun f' hf' => hmet f' (h.sources f' hf'),
      fun f₁ h₁ hs₁ f' hf' => hmet f' (h.closed f₁ h₁ hs₁ f' hf'), h.entered, h.project⟩
  · have hlt := SortedSet.size_lt_size h.project (CallGraph.mem_functionModules hf) hnew
    omega
  · rw [hs]
    have hmet : ∀ f', f'.id ∈ a.seen ∨ f' ∈ a.queue →
        f'.id ∈ a.seen.insert f.id ∨ f' ∈ rest ++ successors g f := by
      intro f' hf'
      rcases hwait f' hf' with hf' | rfl | hf'
      · exact Or.inl (SortedSet.mem_insert.mpr (Or.inr hf'))
      · exact Or.inl (SortedSet.mem_insert.mpr (Or.inl rfl))
      · exact Or.inr (List.mem_append_left _ hf')
    refine ⟨fun f' hf' => ?_, fun f' hf' => hmet f' (h.sources f' hf'), fun f₁ h₁ hs₁ f' hf' => ?_,
      fun id hid => ?_, fun m hm => ?_⟩
    · rcases List.mem_append.mp hf' with hf' | hf'
      · exact hrest f' hf'
      · exact facts?_of_mem_successors hg hf'
    · rcases SortedSet.mem_insert.mp hs₁ with he | hs₁
      · -- the function of this step: its successors are in the queue now
        have hsame : f₁ = f := by
          rw [he, hf] at h₁
          exact (Option.some.inj h₁).symm
        exact Or.inr (List.mem_append_right _ (hsame ▸ hf'))
      · exact hmet f' (h.closed f₁ h₁ hs₁ f' hf')
    · refine SortedSet.mem_insert.mpr ?_
      rcases SortedSet.mem_insert.mp hid with rfl | hid
      · exact Or.inl rfl
      · exact Or.inr (h.entered id hid)
    · rcases SortedSet.mem_insert.mp hm with rfl | hm
      · exact CallGraph.mem_functionModules hf
      · exact h.project m hm

end Unrefused

end Admission

open Admission (Fed Unrefused successors)

/-- **A cap with room for every module admits whatever can be fed from a source.** -/
theorem mem_admittedModules_of_fed {g : CallGraph} (hg : g.WellFormed) {cap : Nat}
    (hcap : g.functionModules.size ≤ cap) {f : FunctionFacts} (h : Fed g f) :
    f.id.module ∈ admittedModules g cap := by
  obtain ⟨_, _, hdrains⟩ := Admission.drains_run g cap
  have hend := hdrains.queue_eq_nil
  have hall : Unrefused g (Admission.run g cap (Admission.stepBound g) { queue := g.sourceFunctions }) :=
    Admission.run_invariant (fun _ _ _ hq h => h.step hg hcap hq) _ (Unrefused.start hg)
  have hnone : ∀ f', f' ∉ (Admission.run g cap (Admission.stepBound g)
      { queue := g.sourceFunctions }).queue := fun f' => by
    rw [hend]
    exact List.not_mem_nil
  have hmet : g.facts? f.id = some f ∧ f.id ∈ (Admission.run g cap (Admission.stepBound g)
      { queue := g.sourceFunctions }).seen := by
    induction h with
    | source h => exact ⟨(hg.mem_sourceFunctions.mp h).1, (hall.sources _ h).resolve_right (hnone _)⟩
    | step h hs ih =>
      exact ⟨Admission.facts?_of_mem_successors hg hs,
        (hall.closed _ ih.1 ih.2 _ hs).resolve_right (hnone _)⟩
  exact hall.entered f.id hmet.2

/-! ## 6. The pass goes wherever the search goes -/

/-- Data crosses an edge only to a function that the pass goes on to. -/
theorem FlowStep.mem_successors {g : CallGraph} {f f' : FunctionFacts} {o o' : Origin}
    {e : CallEdge} {dir : Direction} {l : Label} (h : FlowStep g f o e dir l f' o') :
    f' ∈ successors g f := by
  have hdirty : ∀ {l : Label}, o ∈ l.origins → (!l.isClean) = true := by
    intro l ho
    rw [Bool.not_eq_true', Label.isClean, SortedSet.isEmpty, List.isEmpty_eq_false_iff_exists_mem]
    exact ⟨o, ho⟩
  cases h with
  | bound he hcaller hcallee hb ho =>
    have hcarries : Admission.carries e = true :=
      Bool.or_eq_true_iff.mpr (Or.inl (List.any_eq_true.mpr ⟨_, hb, hdirty ho⟩))
    exact List.mem_append_left _ (List.mem_filterMap.mpr
      ⟨e, List.mem_filter.mpr ⟨CallGraph.mem_callees.mpr ⟨he, hcaller⟩, hcarries⟩, hcallee⟩)
  | spread he hcaller hcallee hd hl ho hfirst hp =>
    have hcarries : Admission.carries e = true :=
      Bool.or_eq_true_iff.mpr (Or.inr (List.any_eq_true.mpr ⟨_, hl, hdirty ho⟩))
    exact List.mem_append_left _ (List.mem_filterMap.mpr
      ⟨e, List.mem_filter.mpr ⟨CallGraph.mem_callees.mpr ⟨he, hcaller⟩, hcarries⟩, hcallee⟩)
  | returned he hcallee hcaller ho hparam =>
    have hforeign : f.returns.hasForeign = true :=
      SortedSet.any_eq_true.mpr ⟨o, ho, by rw [hparam]; rfl⟩
    refine List.mem_append_right _ ?_
    rw [if_pos hforeign]
    exact List.mem_filterMap.mpr ⟨e, CallGraph.mem_callers.mpr ⟨he, hcallee⟩, hcaller⟩

/-- Taint leads a state only to functions that the pass goes on to. -/
theorem PathState.mem_successors_of_move {g : CallGraph} (hg : g.WellFormed) {st st' : PathState}
    (h : st' ∈ st.moves g) : st'.function ∈ successors g st.function := by
  obtain ⟨o, m, hm⟩ := tainted_of_move hg h
  obtain ⟨step, _, _, _, _, hflow⟩ := step_of_move hg h
  obtain ⟨o₁, l, s, hstep, _⟩ := hflow o m hm
  exact hstep.mem_successors

/-- **Whatever a search reaches can be fed from a source.** -/
theorem Reached.fed {s : Search} (hg : s.graph.WellFormed) {seed : Seed}
    (hseed : seed ∈ s.graph.seeds) {st : PathState} (h : Reached s seed st) :
    Fed s.graph st.function := by
  induction h with
  | start =>
    obtain ⟨f, hf, hmem⟩ := List.mem_flatMap.mp hseed
    rw [f.seeds_eq] at hmem
    obtain ⟨hit, _, rfl⟩ := List.mem_map.mp hmem
    exact .source hf
  | move h hm ih =>
    exact .step ih (PathState.mem_successors_of_move hg (PathState.mem_moves_of_mem_next hm))

namespace Search

variable {g : CallGraph} {limits : Limits} {cap : Nat} (hg : g.WellFormed)
  (hmax : limits.maxModules = some cap) (hcap : g.functionModules.size ≤ cap) (clock : Clock)
include hg hmax hcap

/-- A search whose cap has room for every module may enter whatever can be fed from a source. -/
theorem admits_of_fed {f : FunctionFacts} (h : Fed g f) :
    (ofLimits g limits clock).admits f.id.module = true := by
  rw [ofLimits, admits, hmax]
  exact SortedSet.contains_iff.mpr (mem_admittedModules_of_fed hg hcap h)

theorem admits_seed_of_room {seed : Seed} (hseed : seed ∈ g.seeds) :
    (ofLimits g limits clock).admits seed.function.id.module = true :=
  admits_of_fed hg hmax hcap clock
    (Reached.fed (s := ofLimits g limits clock) hg hseed .start)

theorem admits_move_of_room {seed : Seed} (hseed : seed ∈ g.seeds) {st st' : PathState}
    (h : Reached (ofLimits g limits clock) seed st) (hm : st' ∈ st.moves g) :
    (ofLimits g limits clock).admits st'.function.id.module = true :=
  admits_of_fed hg hmax hcap clock
    (.step (h.fed hg hseed) (PathState.mem_successors_of_move hg hm))

end Search

end TaintFlow
