import TaintFlow.Proofs.Moves

/-!
# Expanding a state, event by event

Whatever the limits are, the same things happen when a state is expanded: it is counted, sanitizers
end some paths, others come to a sink, and taint leads on to further states. `events` lists them in
order. The limits only decide what becomes of each (`Event.perform`), and expanding a state performs
its events one after the other (`expand_eq`). So a statement about all expansions needs one look at
`perform` with its four cases.

The first such statement: an expansion keeps the best of the findings at the state and goes on to the
moves that the limits allow (`expand_adds`).
-/

namespace TaintFlow

/-- What can happen while a state is expanded. -/
inductive Event where
  /-- The state counts as expanded. -/
  | explored
  /-- Sanitizers end a number of paths. -/
  | sanitized (count : Nat)
  /-- A path comes to a sink. -/
  | finding (v : Finding)
  /-- Taint leads on to a state. -/
  | move (st : PathState)

/-- What an event does to the progress and the states to go on to. -/
def Event.perform (s : Search) (acc : Progress × List PathState) : Event → Progress × List PathState
  | explored => (acc.1.addExplored, acc.2)
  | sanitized count => (acc.1.addSanitized count, acc.2)
  | finding v => (acc.1.addFinding v, acc.2)
  | move st =>
    if s.tooDeep st.trail.length then (acc.1.cutDepth, acc.2)
    else
      match acc.1.enter s st.function.id.module with
      | (p, false) => (p, acc.2)
      | (p, true) => (p, acc.2 ++ [st])

/-- The state that an event leads on to. -/
def Event.move? : Event → Option PathState
  | move st => some st
  | _ => none

/-- The finding that an event comes to. -/
def Event.finding? : Event → Option Finding
  | finding v => some v
  | _ => none

/-! ## 1. The events of a state -/

namespace PathState

/-- What happens at one sink. -/
def sinkEvent? (g : CallGraph) (seed : Seed) (st : PathState) (hit : SinkHit) : Option Event :=
  (st.tainted.carried? hit.label).map fun applied =>
    if applied.any fun name => g.registry.covers name hit.sink.weakness then .sanitized 1
    else .finding (pathFinding g seed st.trail st.function.id hit applied)

/-- What happens at the sinks; at the start they do not count. -/
def sinkEvents (g : CallGraph) (seed : Seed) (st : PathState) : List Event :=
  if st.trail.isEmpty then [] else st.function.sinkHits.filterMap (st.sinkEvent? g seed)

/-- What happens on a call. -/
def callEvents (g : CallGraph) (st : PathState) (e : CallEdge) : List Event :=
  match g.function? e.callee with
  | none => []
  | some callee =>
    .sanitized (droppedParams g.registry e callee st.tainted) ::
      (st.callMove? g e).toList.map .move

/-- What happens to returned data. -/
def returnEvents (g : CallGraph) (st : PathState) : List Event :=
  match returned? st.function st.tainted with
  | none => []
  | some sanitizers =>
    if g.registry.neutralizes sanitizers then [.sanitized 1]
    else ((g.callers st.function.id).filterMap (st.returnMove? g sanitizers)).map .move

/-- Everything that happens when a state is expanded. -/
def events (g : CallGraph) (seed : Seed) (st : PathState) : List Event :=
  .explored :: (st.sinkEvents g seed ++
    ((g.callees st.function.id).flatMap (st.callEvents g) ++ st.returnEvents g))

/-- The moves among the events are the moves of the state. -/
theorem filterMap_move?_events (g : CallGraph) (seed : Seed) (st : PathState) :
    (st.events g seed).filterMap Event.move? = st.moves g := by
  have hmoves : ∀ l : List PathState, (l.map Event.move).filterMap Event.move? = l := by
    intro l
    rw [List.filterMap_map]
    exact List.filterMap_some
  have hsinks : (st.sinkEvents g seed).filterMap Event.move? = [] := by
    rw [sinkEvents]
    split
    · rfl
    · refine List.filterMap_eq_nil_iff.mpr fun ev hev => ?_
      obtain ⟨hit, _, hev⟩ := List.mem_filterMap.mp hev
      obtain ⟨applied, _, rfl⟩ := Option.map_eq_some_iff.mp hev
      split <;> rfl
  have hcall : ∀ e, (st.callEvents g e).filterMap Event.move? = (st.callMove? g e).toList := by
    intro e
    rw [callEvents]
    cases hcallee : g.function? e.callee with
    | none =>
      rw [callMove?, hcallee]
      rfl
    | some callee => exact hmoves _
  have hcalls : ((g.callees st.function.id).flatMap (st.callEvents g)).filterMap Event.move? =
      (g.callees st.function.id).filterMap (st.callMove? g) := by
    rw [List.filterMap_flatMap, List.filterMap_eq_flatMap_toList]
    congr 1
    funext e
    exact hcall e
  have hreturns : (st.returnEvents g).filterMap Event.move? = st.returnMoves g := by
    rw [returnEvents, returnMoves]
    cases returned? st.function st.tainted with
    | none => rfl
    | some sanitizers =>
      dsimp only
      split
      · rfl
      · exact hmoves _
  rw [events, List.filterMap_cons_none rfl, List.filterMap_append, List.filterMap_append, hsinks,
    hcalls, hreturns]
  rfl

/-- The findings among the events are the findings at the state. -/
theorem filterMap_finding?_events (g : CallGraph) (seed : Seed) (st : PathState) :
    (st.events g seed).filterMap Event.finding? = st.sinkFindings g seed := by
  have hmoves : ∀ l : List PathState, (l.map Event.move).filterMap Event.finding? = [] := by
    intro l
    rw [List.filterMap_map]
    exact List.filterMap_eq_nil_iff.mpr fun _ _ => rfl
  have hsinks : (st.sinkEvents g seed).filterMap Event.finding? = st.sinkFindings g seed := by
    rw [sinkEvents, sinkFindings]
    split
    · rfl
    · rw [List.filterMap_filterMap]
      congr 1
      funext hit
      rw [sinkEvent?]
      cases st.tainted.carried? hit.label with
      | none => rfl
      | some applied =>
        dsimp only [Option.map_some, Option.bind_some]
        split <;> rfl
  have hcalls : ((g.callees st.function.id).flatMap (st.callEvents g)).filterMap Event.finding? =
      [] := by
    rw [List.filterMap_flatMap, List.flatMap_eq_nil_iff]
    intro e _
    rw [callEvents]
    split
    · rfl
    · exact hmoves _
  have hreturns : (st.returnEvents g).filterMap Event.finding? = [] := by
    rw [returnEvents]
    split
    · rfl
    · split
      · rfl
      · exact hmoves _
  rw [events, List.filterMap_cons_none rfl, List.filterMap_append, List.filterMap_append, hsinks,
    hcalls, hreturns, List.append_nil, List.append_nil]

/-- Taint leads on by moves only. -/
theorem mem_moves_of_mem_events {g : CallGraph} {seed : Seed} {st st' : PathState}
    (h : .move st' ∈ st.events g seed) : st' ∈ st.moves g := by
  rw [← filterMap_move?_events g seed st]
  exact List.mem_filterMap.mpr ⟨_, h, rfl⟩

/-! ## 2. Expanding performs them -/

theorem advance_eq_perform (s : Search) (st : PathState) (next : FunctionFacts) (tainted : Tainted)
    (step : Step) (acc : Progress × List PathState) :
    st.advance s next tainted step acc =
      Event.perform s acc (.move ⟨next, tainted, st.trail ++ [step]⟩) := by
  rw [advance, Event.perform, List.length_append]
  rfl

theorem checkSinks_eq_perform (s : Search) (seed : Seed) (st : PathState) (p : Progress)
    (states : List PathState) :
    (if st.trail.isEmpty then p else st.checkSinks s seed p, states) =
      (st.sinkEvents s.graph seed).foldl (Event.perform s) (p, states) := by
  rw [sinkEvents]
  split
  · rfl
  · rw [checkSinks]
    induction st.function.sinkHits generalizing p with
    | nil => rfl
    | cons hit hits ih =>
      rw [List.foldl_cons, ih, List.filterMap_cons, checkSink, sinkEvent?]
      cases st.tainted.carried? hit.label with
      | none => rfl
      | some applied =>
        dsimp only [Option.map_some]
        rw [List.foldl_cons]
        split <;> rfl

/-- Following a call, said by the function that it leads to. -/
theorem followCall_eq (s : Search) (st : PathState) (acc : Progress × List PathState)
    (e : CallEdge) : st.followCall s acc e =
      match s.graph.function? e.callee with
      | none => acc
      | some callee =>
        let inflow := flowInto s.graph.registry e callee st.tainted
        let acc := (acc.1.addSanitized (droppedParams s.graph.registry e callee st.tainted), acc.2)
        if inflow.tainted.isEmpty then acc
        else st.advance s callee inflow.tainted ⟨e, .down, inflow.applied⟩ acc := by
  rw [followCall, CallGraph.function?]
  cases s.graph.node? e.callee with
  | none => rfl
  | some n =>
    obtain ⟨name, kind, facts, c, d⟩ := n
    cases kind <;> cases facts <;> rfl

theorem followCall_eq_perform (s : Search) (st : PathState) (acc : Progress × List PathState)
    (e : CallEdge) :
    st.followCall s acc e = (st.callEvents s.graph e).foldl (Event.perform s) acc := by
  rw [followCall_eq, callEvents, callMove?]
  cases s.graph.function? e.callee with
  | none => rfl
  | some callee =>
    dsimp only [Option.bind_some]
    split
    · rfl
    · exact advance_eq_perform ..

theorem followReturn_eq_perform (s : Search) (st : PathState) (sanitizers : Sanitizers)
    (acc : Progress × List PathState) (e : CallEdge) :
    st.followReturn s sanitizers acc e =
      ((st.returnMove? s.graph sanitizers e).toList.map Event.move).foldl (Event.perform s) acc := by
  rw [followReturn, returnMove?]
  cases s.graph.facts? e.caller with
  | none => rfl
  | some caller => exact advance_eq_perform ..

theorem followReturns_eq_perform (s : Search) (st : PathState) (acc : Progress × List PathState) :
    st.followReturns s acc = (st.returnEvents s.graph).foldl (Event.perform s) acc := by
  rw [followReturns, returnEvents]
  cases returned? st.function st.tainted with
  | none => rfl
  | some sanitizers =>
    dsimp only
    split
    · rfl
    · induction s.graph.callers st.function.id generalizing acc with
      | nil => rfl
      | cons e edges ih =>
        rw [List.foldl_cons, ih, followReturn_eq_perform, List.filterMap_cons]
        cases st.returnMove? s.graph sanitizers e <;> rfl

/-- **Expanding a state performs its events in order.** -/
theorem expand_eq (s : Search) (seed : Seed) (st : PathState) (p : Progress) :
    st.expand s seed p = (st.events s.graph seed).foldl (Event.perform s) (p, []) := by
  have hcalls : ∀ acc, (s.graph.callees st.function.id).foldl (followCall s st) acc =
      ((s.graph.callees st.function.id).flatMap (st.callEvents s.graph)).foldl (Event.perform s)
        acc := by
    intro acc
    rw [List.foldl_flatMap]
    congr 1
    funext acc e
    exact followCall_eq_perform s st acc e
  rw [events, List.foldl_cons, List.foldl_append, List.foldl_append, ← followReturns_eq_perform,
    ← hcalls]
  have hsinks := checkSinks_eq_perform s seed st p.addExplored []
  rw [expand, hsinks]
  rfl

end PathState

/-! ## 3. What an expansion adds -/

section Adds

variable {s : Search} {acc : Progress × List PathState}

theorem Event.perform_adds (ev : Event) (h : acc.1.Within s) :
    (ev.perform s acc).2 = acc.2 ++ ev.move?.toList.filter s.allows ∧
      (ev.perform s acc).1.found = ev.finding?.toList.foldl keepBest acc.1.found ∧
      (ev.perform s acc).1.Within s := by
  cases ev with
  | explored => exact ⟨(List.append_nil _).symm, rfl, h⟩
  | sanitized count => exact ⟨(List.append_nil _).symm, rfl, h⟩
  | finding v =>
    refine ⟨(List.append_nil _).symm, ?_, ?_⟩
    · show (acc.1.addFinding v).found = _
      rw [Progress.addFinding_eq]
      rfl
    · show (acc.1.addFinding v).Within s
      rw [Progress.addFinding_eq]
      exact h
  | move st =>
    have hallows : [st].filter s.allows =
        if s.tooDeep st.trail.length then []
        else if s.admits st.function.id.module then [st] else [] := by
      rw [List.filter_singleton, Search.allows]
      cases s.tooDeep st.trail.length <;> cases s.admits st.function.id.module <;> rfl
    have hwithin := Progress.within_enter h st.function.id.module
    show (perform s acc (.move st)).2 = acc.2 ++ [st].filter s.allows ∧ _
    rw [hallows, perform]
    by_cases hdeep : s.tooDeep st.trail.length = true
    · rw [if_pos hdeep, if_pos hdeep]
      exact ⟨(List.append_nil _).symm, rfl, h⟩
    · rw [if_neg hdeep, if_neg hdeep]
      rw [Progress.enter_eq h] at hwithin ⊢
      by_cases hopen : s.admits st.function.id.module = true
      · rw [if_pos hopen] at hwithin ⊢
        rw [if_pos hopen]
        exact ⟨rfl, rfl, hwithin⟩
      · rw [if_neg hopen] at hwithin ⊢
        rw [if_neg hopen]
        exact ⟨(List.append_nil _).symm, rfl, hwithin⟩

theorem foldl_perform_adds (events : List Event) (h : acc.1.Within s) :
    (events.foldl (Event.perform s) acc).2 =
        acc.2 ++ (events.filterMap Event.move?).filter s.allows ∧
      (events.foldl (Event.perform s) acc).1.found =
        (events.filterMap Event.finding?).foldl keepBest acc.1.found ∧
      (events.foldl (Event.perform s) acc).1.Within s := by
  induction events generalizing acc with
  | nil => exact ⟨(List.append_nil _).symm, rfl, h⟩
  | cons ev events ih =>
    obtain ⟨hstates, hfound, hwithin⟩ := ev.perform_adds h
    obtain ⟨hstates', hfound', hwithin'⟩ := ih hwithin
    refine ⟨?_, ?_, hwithin'⟩
    · rw [List.foldl_cons, hstates', hstates, List.filterMap_cons]
      cases ev.move? with
      | none => rw [Option.toList_none, List.filter_nil, List.append_nil]
      | some st =>
        rw [Option.toList_some, List.append_assoc, ← List.filter_append]
        rfl
    · rw [List.foldl_cons, hfound', hfound, List.filterMap_cons]
      cases ev.finding? with
      | none => rfl
      | some v => rfl

/-- **What expanding a state does**: it keeps the best of the findings there and goes on to the
allowed moves. -/
theorem PathState.expand_adds (seed : Seed) (st : PathState) {p : Progress} (h : p.Within s) :
    (st.expand s seed p).2 = st.next s ∧
      (st.expand s seed p).1.found = (st.sinkFindings s.graph seed).foldl keepBest p.found ∧
      (st.expand s seed p).1.Within s := by
  have hall := @foldl_perform_adds s (p, []) (st.events s.graph seed) h
  rw [filterMap_move?_events, filterMap_finding?_events] at hall
  rw [expand_eq]
  exact hall

end Adds

end TaintFlow
