import TaintFlow.Proofs.BestFinding
import TaintFlow.Proofs.FlowStep
import TaintFlow.Proofs.WellFormedGraph

/-!
# Where a search may go

The limits of a search decide through its progress, since a module may be entered if it was entered
before. But only admitted modules are ever entered, so whether a step is taken depends on the step
alone (`Progress.enter_eq`).

So what a search does at a state has a description without progress. `moves` are the states that
taint leads to, whatever the limits; `next` are those of them that the limits allow; `sinkFindings`
are the findings at the state. The moves of a state and the flow steps of its tainted origins simulate
each other (`exists_move_of_step`, `step_of_move`).
-/

namespace TaintFlow

/-! ## 1. Limits without progress -/

/-- Whether a module may be entered at all. -/
def Search.admits (s : Search) (module : String) : Bool :=
  (s.admitted.map fun a => a.contains module).getD true

theorem Search.refused_eq (s : Search) (module : String) :
    (s.admitted.map fun a => !a.contains module).getD false = !s.admits module := by
  rw [admits]
  cases s.admitted <;> rfl

/-- Only admitted modules were entered. -/
def Progress.Within (s : Search) (p : Progress) : Prop := ∀ m ∈ p.modules, s.admits m = true

namespace Progress

variable {s : Search} {p : Progress}

theorem within_empty (s : Search) : Progress.Within s {} := fun _ hm => absurd hm List.not_mem_nil

/-- **A module is refused with a flag, or entered without one.** It is entered if it was before or
if it is admitted. -/
theorem enter_cases (s : Search) (p : Progress) (module : String) :
    (s.admits module = false ∧ p.enter s module = ({ p with truncation.modules := true }, false)) ∨
      ((module ∈ p.modules ∨ s.admits module = true) ∧
        p.enter s module = ({ p with modules := p.modules.insert module }, true)) := by
  rw [enter, s.refused_eq]
  by_cases hin : p.modules.contains module = true
  · have hmem := SortedSet.contains_iff.mp hin
    rw [if_pos hin, SortedSet.insert_of_mem hmem]
    exact Or.inr ⟨Or.inl hmem, rfl⟩
  · rw [if_neg hin]
    cases hopen : s.admits module with
    | false => exact Or.inl ⟨rfl, rfl⟩
    | true => exact Or.inr ⟨Or.inr rfl, rfl⟩

/-- **Whether a module can be entered does not depend on what was entered before.** -/
theorem enter_eq (h : p.Within s) (module : String) : p.enter s module =
    if s.admits module then ({ p with modules := p.modules.insert module }, true)
    else ({ p with truncation.modules := true }, false) := by
  rcases enter_cases s p module with ⟨hrefused, he⟩ | ⟨hopen, he⟩
  · rw [he, if_neg (by rw [hrefused]; decide)]
  · rw [he, if_pos (hopen.elim (h module) id)]

theorem within_enter (h : p.Within s) (module : String) : (p.enter s module).1.Within s := by
  rw [enter_eq h]
  split
  · rename_i hopen
    intro m hm
    rcases SortedSet.mem_insert.mp hm with rfl | hm
    · exact hopen
    · exact h m hm
  · exact h

end Progress

/-! ## 2. Moves -/

/-- The function of the project that a name stands for. -/
def CallGraph.function? (g : CallGraph) (id : FunctionId) : Option FunctionFacts :=
  match g.node? id with
  | some { kind := .function, facts := some f, .. } => some f
  | _ => none

/-- In a well-formed graph everything with facts is a function of the project. -/
theorem CallGraph.WellFormed.function?_eq {g : CallGraph} (hg : g.WellFormed) (id : FunctionId) :
    g.function? id = g.facts? id := by
  rw [function?, facts?]
  cases hn : g.node? id with
  | none => rfl
  | some n =>
    have hown := hg.own n (node?_eq_some hn).1
    obtain ⟨name, kind, facts, c, d⟩ := n
    cases facts with
    | none => cases kind <;> rfl
    | some f =>
      cases (hown f rfl).2
      rfl

namespace PathState

/-- Where a call leads from a state: nowhere if no taint reaches a function of the project. -/
def callMove? (g : CallGraph) (st : PathState) (e : CallEdge) : Option PathState :=
  (g.function? e.callee).bind fun callee =>
    let inflow := flowInto g.registry e callee st.tainted
    if inflow.tainted.isEmpty then none
    else some ⟨callee, inflow.tainted, st.trail ++ [⟨e, .down, inflow.applied⟩]⟩

/-- Where returned data leads on one edge. -/
def returnMove? (g : CallGraph) (st : PathState) (sanitizers : Sanitizers) (e : CallEdge) :
    Option PathState :=
  (g.facts? e.caller).map fun caller =>
    ⟨caller, .singleton (.call e.site) sanitizers,
      st.trail ++ [⟨e, .up, st.function.returns.sanitizers⟩]⟩

/-- Where returned data leads. -/
def returnMoves (g : CallGraph) (st : PathState) : List PathState :=
  match returned? st.function st.tainted with
  | none => []
  | some sanitizers =>
    if g.registry.neutralizes sanitizers then []
    else (g.callers st.function.id).filterMap (st.returnMove? g sanitizers)

/-- The states that taint leads to in one step. -/
def moves (g : CallGraph) (st : PathState) : List PathState :=
  (g.callees st.function.id).filterMap (st.callMove? g) ++ st.returnMoves g

/-- The findings at a state. -/
def sinkFindings (g : CallGraph) (seed : Seed) (st : PathState) : List Finding :=
  if st.trail.isEmpty then []
  else st.function.sinkHits.filterMap fun hit =>
    (st.tainted.carried? hit.label).bind fun applied =>
      if applied.any fun name => g.registry.covers name hit.sink.weakness then none
      else some (pathFinding g seed st.trail st.function.id hit applied)

end PathState

/-- Whether the limits let a search go on to a state. -/
def Search.allows (s : Search) (st : PathState) : Bool :=
  !s.tooDeep st.trail.length && s.admits st.function.id.module

/-- The states that a search goes on to. -/
def PathState.next (s : Search) (st : PathState) : List PathState :=
  (st.moves s.graph).filter s.allows

theorem PathState.mem_moves_of_mem_next {s : Search} {st st' : PathState} (h : st' ∈ st.next s) :
    st' ∈ st.moves s.graph := (List.mem_filter.mp h).1

/-- At the start nothing but the source is tainted, without any sanitizers. -/
theorem PathState.get?_start (seed : Seed) (o : Origin) :
    (start seed).tainted.get? o = if o = .source seed.hit.source.id then some ∅ else none := by
  rw [start, SortedMap.get?_singleton]
  by_cases h : o = .source seed.hit.source.id
  · rw [if_pos h, h, if_pos Std.ReflOrd.compare_self]
  · rw [if_neg h, if_neg fun e => h (Std.LawfulEqOrd.eq_of_compare e)]

/-! ## 3. Moves and flow steps -/

namespace PathState

variable {g : CallGraph} {st st' : PathState}

theorem callMove?_eq_some_iff (hg : g.WellFormed) {e : CallEdge} :
    st.callMove? g e = some st' ↔ ∃ callee, g.facts? e.callee = some callee ∧
      (flowInto g.registry e callee st.tainted).tainted.isEmpty = false ∧
      ⟨callee, (flowInto g.registry e callee st.tainted).tainted,
        st.trail ++ [⟨e, .down, (flowInto g.registry e callee st.tainted).applied⟩]⟩ = st' := by
  rw [callMove?, hg.function?_eq, Option.bind_eq_some_iff]
  refine exists_congr fun callee => and_congr_right fun _ => ?_
  dsimp only
  split
  · rename_i h
    simp [h]
  · rename_i h
    rw [Bool.not_eq_true] at h
    simp [h]

theorem mem_returnMoves_iff : st' ∈ st.returnMoves g ↔ ∃ e caller sanitizers,
    e ∈ g.edges ∧ e.callee = st.function.id ∧ g.facts? e.caller = some caller ∧
      returned? st.function st.tainted = some sanitizers ∧
      g.registry.neutralizes sanitizers = false ∧
      ⟨caller, .singleton (.call e.site) sanitizers,
        st.trail ++ [⟨e, .up, st.function.returns.sanitizers⟩]⟩ = st' := by
  rw [returnMoves]
  cases returned? st.function st.tainted with
  | none => simp
  | some sanitizers =>
    dsimp only
    by_cases hn : g.registry.neutralizes sanitizers = true
    · simp [hn]
    · rw [if_neg hn, List.mem_filterMap]
      constructor
      · rintro ⟨e, he, hmove⟩
        obtain ⟨caller, hcaller, rfl⟩ := Option.map_eq_some_iff.mp hmove
        obtain ⟨hmem, hcallee⟩ := CallGraph.mem_callers.mp he
        exact ⟨e, caller, sanitizers, hmem, hcallee, hcaller, rfl, Bool.not_eq_true _ ▸ hn, rfl⟩
      · rintro ⟨e, caller, sanitizers', hmem, hcallee, hcaller, heq, _, rfl⟩
        cases heq
        refine ⟨e, CallGraph.mem_callers.mpr ⟨hmem, hcallee⟩, ?_⟩
        rw [returnMove?, hcaller]
        rfl

/-- What is not protected against everything stays when protected parameters are dropped. -/
theorem flowInto_get? (registry : Registry) (e : CallEdge) (callee : FunctionFacts) (t : Tainted)
    (o : Origin) : (flowInto registry e callee t).tainted.get? o =
      ((arriving e callee t).tainted.get? o).filter fun s => !registry.neutralizes s :=
  SortedMap.get?_filter_value _ _ o

/-- **Every flow step from a tainted origin is a move**, unless its sanitizers protect against
everything, over the same edge. The origin it leads to is tainted, with no other sanitizers. -/
theorem exists_move_of_step (hg : g.WellFormed) {o o' : Origin} {e : CallEdge} {dir : Direction}
    {l : Label} {f : FunctionFacts} {s : Sanitizers} (h : FlowStep g st.function o e dir l f o')
    (hs : st.tainted.get? o = some s)
    (hn : g.registry.neutralizes (s.union l.sanitizers) = false) :
    ∃ st' ∈ st.moves g, st'.function = f ∧
      (∃ applied, st'.trail = st.trail ++ [⟨e, dir, applied⟩]) ∧
      ∃ m, st'.tainted.get? o' = some m ∧ m ⊆ s.union l.sanitizers := by
  have hnot : ∀ m : Sanitizers, m ⊆ s.union l.sanitizers → g.registry.neutralizes m = false := by
    intro m hm
    cases hneu : g.registry.neutralizes m with
    | false => rfl
    | true =>
      rw [Registry.neutralizes, SortedSet.any_mono hm hneu] at hn
      cases hn
  cases dir with
  | down =>
    obtain ⟨m, hm, hsub⟩ := arriving_of_step h hs
    have hflow : (flowInto g.registry e f st.tainted).tainted.get? o' = some m := by
      rw [flowInto_get?, hm, Option.filter_some, hnot m hsub]
      rfl
    have hne : (flowInto g.registry e f st.tainted).tainted.isEmpty = false := by
      obtain ⟨k, _, hmem⟩ := SortedMap.mem_of_get?_eq_some hflow
      exact SortedMap.isEmpty_eq_false_iff.mpr ⟨_, hmem⟩
    have hedge : e ∈ g.edges ∧ e.caller = st.function.id ∧ g.facts? e.callee = some f := by
      cases h with
      | bound he hcaller hcallee => exact ⟨he, hcaller, hcallee⟩
      | spread he hcaller hcallee => exact ⟨he, hcaller, hcallee⟩
    obtain ⟨he, hcaller, hcallee⟩ := hedge
    refine ⟨_, List.mem_append_left _ (List.mem_filterMap.mpr
      ⟨e, CallGraph.mem_callees.mpr ⟨he, hcaller⟩,
        (callMove?_eq_some_iff hg).mpr ⟨f, hcallee, hne, rfl⟩⟩), rfl, ⟨_, rfl⟩, m, hflow, hsub⟩
  | up =>
    obtain ⟨rfl, rfl, m, hm, hsub⟩ := returned?_of_step h hs
    cases h with
    | returned he hcallee hcaller ho hparam =>
      refine ⟨_, List.mem_append_right _ (mem_returnMoves_iff.mpr
        ⟨e, f, m, he, hcallee, hcaller, hm, hnot m hsub, rfl⟩), rfl, ⟨_, rfl⟩, m, ?_, hsub⟩
      rw [SortedMap.get?_singleton, if_pos Std.ReflOrd.compare_self]

/-- **Every move takes an edge of the graph, and whatever it taints came over it by a flow step** from
an origin that was tainted, with at least the sanitizers that are left. -/
theorem step_of_move (hg : g.WellFormed) (h : st' ∈ st.moves g) :
    ∃ step : Step, st'.trail = st.trail ++ [step] ∧ step.edge ∈ g.edges ∧
      step.origin = st.function.id ∧ g.facts? step.target = some st'.function ∧
      ∀ o' m, st'.tainted.get? o' = some m → ∃ o l s,
        FlowStep g st.function o step.edge step.direction l st'.function o' ∧
          st.tainted.get? o = some s ∧ m ⊆ s.union l.sanitizers := by
  rcases List.mem_append.mp h with h | h
  · obtain ⟨e, he, hmove⟩ := List.mem_filterMap.mp h
    obtain ⟨hmem, hcaller⟩ := CallGraph.mem_callees.mp he
    obtain ⟨callee, hcallee, _, rfl⟩ := (callMove?_eq_some_iff hg).mp hmove
    refine ⟨_, rfl, hmem, hcaller, hcallee, fun o' m hm => ?_⟩
    rw [flowInto_get?] at hm
    exact step_of_arriving hmem hcaller hcallee (Option.filter_eq_some_iff.mp hm).1
  · obtain ⟨e, caller, sanitizers, hmem, hcallee, hcaller, hret, _, rfl⟩ :=
      mem_returnMoves_iff.mp h
    refine ⟨_, rfl, hmem, hcallee, hcaller, fun o' m hm => ?_⟩
    rw [SortedMap.get?_singleton] at hm
    split at hm
    · rename_i ho
      cases hm
      rw [Std.LawfulEqOrd.eq_of_compare ho]
      obtain ⟨o, s, hstep, hs, hsub⟩ := step_of_returned? hmem hcallee hcaller hret
      exact ⟨o, _, s, hstep, hs, hsub⟩
    · cases hm

/-- A move taints something. -/
theorem tainted_of_move (hg : g.WellFormed) (h : st' ∈ st.moves g) :
    ∃ o m, st'.tainted.get? o = some m := by
  rcases List.mem_append.mp h with h | h
  · obtain ⟨e, _, hmove⟩ := List.mem_filterMap.mp h
    obtain ⟨callee, _, hne, rfl⟩ := (callMove?_eq_some_iff hg).mp hmove
    obtain ⟨⟨o, m⟩, hmem⟩ := SortedMap.isEmpty_eq_false_iff.mp hne
    exact ⟨o, m, SortedMap.get?_of_mem hmem⟩
  · obtain ⟨e, caller, sanitizers, _, _, _, _, _, rfl⟩ := mem_returnMoves_iff.mp h
    exact ⟨_, sanitizers, by rw [SortedMap.get?_singleton, if_pos Std.ReflOrd.compare_self]⟩

/-- A move leads to a function of the graph. -/
theorem facts?_of_move (hg : g.WellFormed) (h : st' ∈ st.moves g) :
    g.facts? st'.function.id = some st'.function := by
  obtain ⟨step, _, _, _, htarget, _⟩ := step_of_move hg h
  exact hg.facts?_self htarget

/-- **Moves depend on the function and its tainted origins**, not on the way to them. -/
theorem map_key_moves {c : PathState} (hf : c.function = st.function)
    (ht : c.tainted = st.tainted) : (c.moves g).map key = (st.moves g).map key := by
  obtain ⟨f, tainted, trail⟩ := c
  cases hf
  cases ht
  have hcall : ∀ e, (callMove? g ⟨st.function, st.tainted, trail⟩ e).map key =
      (st.callMove? g e).map key := by
    intro e
    rw [callMove?, callMove?]
    cases g.function? e.callee with
    | none => rfl
    | some callee =>
      dsimp only [Option.bind_some]
      split <;> rfl
  have hreturn : ∀ m e, (returnMove? g ⟨st.function, st.tainted, trail⟩ m e).map key =
      (st.returnMove? g m e).map key := by
    intro m e
    rw [returnMove?, returnMove?]
    cases g.facts? e.caller <;> rfl
  rw [moves, moves, List.map_append, List.map_append, List.map_filterMap, List.map_filterMap,
    returnMoves, returnMoves]
  simp only [hcall]
  congr 1
  cases returned? st.function st.tainted with
  | none => rfl
  | some m =>
    dsimp only
    split
    · rfl
    · rw [List.map_filterMap, List.map_filterMap]
      simp only [hreturn]

/-- The same function with the same tainted origins has the same moves. -/
theorem exists_move_of_same (hg : g.WellFormed) {c : PathState} (hf : c.function = st.function)
    (ht : c.tainted = st.tainted) (h : st' ∈ st.moves g) :
    ∃ c' ∈ c.moves g, c'.function = st'.function ∧ c'.tainted = st'.tainted := by
  have hkey : st'.key ∈ (c.moves g).map key := by
    rw [map_key_moves hf ht]
    exact List.mem_map_of_mem h
  obtain ⟨c', hc', hkey⟩ := List.mem_map.mp hkey
  obtain ⟨hid, htainted⟩ := Prod.mk.inj hkey
  have hknown := facts?_of_move hg hc'
  rw [hid, facts?_of_move hg h] at hknown
  exact ⟨c', hc', (Option.some.inj hknown).symm, htainted⟩

/-- Where an edge leads from a state if it is taken in a direction. -/
def along? (g : CallGraph) (st : PathState) (e : CallEdge) : Direction → Option PathState
  | .down => st.callMove? g e
  | .up => (returned? st.function st.tainted).bind fun sanitizers => st.returnMove? g sanitizers e

/-- **Where a move leads is settled by its edge and its direction.** -/
theorem along?_of_move (hg : g.WellFormed) (h : st' ∈ st.moves g) :
    ∃ step : Step, st'.trail = st.trail ++ [step] ∧
      st.along? g step.edge step.direction = some st' := by
  rcases List.mem_append.mp h with h | h
  · obtain ⟨e, _, hmove⟩ := List.mem_filterMap.mp h
    obtain ⟨callee, _, _, rfl⟩ := (callMove?_eq_some_iff hg).mp hmove
    exact ⟨_, rfl, hmove⟩
  · obtain ⟨e, caller, m, _, _, hcaller, hreturned, _, rfl⟩ := mem_returnMoves_iff.mp h
    refine ⟨_, rfl, ?_⟩
    rw [along?, hreturned, Option.bind_some, returnMove?, hcaller]
    rfl

/-- A move makes the trail one step longer. -/
theorem length_trail_of_move (hg : g.WellFormed) (h : st' ∈ st.moves g) :
    st'.trail.length = st.trail.length + 1 := by
  obtain ⟨step, htrail, _⟩ := step_of_move hg h
  rw [htrail, List.length_append]
  rfl

theorem length_trail_of_next {s : Search} (hg : s.graph.WellFormed) (h : st' ∈ st.next s) :
    st'.trail.length = st.trail.length + 1 := length_trail_of_move hg (mem_moves_of_mem_next h)

end PathState

end TaintFlow
