import Mathlib.Data.List.Sublists
import TaintFlow.Proofs.Trace

/-!
# A search comes to its end

A state that was met before is not expanded again, so a search ends if there are only finitely many
states to meet. There are: a state is a function of the graph with tainted origins, all sanitizers on
them stand on labels of the graph, and the origins are either the source at the start, or one call
site, or parameters that some edge can taint (`Bounded`, kept by every move). `stateKeys` lists all
such states; its length is the number that `searchBound` counts with, so the steps of a search are
enough for it to empty its frontier, even when calls and returns form cycles
(`Search.sweeps_trace`).
-/

namespace TaintFlow

/-! ## 1. Listing sets and maps -/

/-- Every set of names out of a list. -/
def subsetsOf (names : List String) : List Sanitizers := names.sublists.map SortedSet.ofList

theorem length_subsetsOf (names : List String) :
    (subsetsOf names).length = Nat.pow 2 names.length := by
  rw [subsetsOf, List.length_map, List.length_sublists]
  rfl

theorem mem_subsetsOf {names : List String} {s : Sanitizers} (h : ∀ a ∈ s, a ∈ names) :
    s ∈ subsetsOf names := by
  refine List.mem_map.mpr ⟨names.filter s.contains, ?_, ?_⟩
  · exact List.mem_sublists.mpr List.filter_sublist
  · refine SortedSet.ext_iff_mem.mpr fun a => ?_
    rw [SortedSet.mem_ofList, List.mem_filter, SortedSet.contains_iff]
    exact ⟨fun ha => ha.2, fun ha => ⟨h a ha, ha⟩⟩

/-- Every map from some parameters of a list to sets of a list. -/
def paramMaps (sets : List Sanitizers) : (params : List Nat) → List Tainted
  | [] => [∅]
  | p :: params =>
    paramMaps sets params ++
      (paramMaps sets params).flatMap fun t => sets.map fun s => t.insert (.param p) s

theorem length_paramMaps (sets : List Sanitizers) (params : List Nat) :
    (paramMaps sets params).length = Nat.pow (sets.length + 1) params.length := by
  induction params with
  | nil => rfl
  | cons p params ih =>
    rw [paramMaps, List.length_append, List.length_flatMap]
    simp only [List.length_map, List.map_const', List.sum_replicate_nat, ih]
    show _ = Nat.pow (sets.length + 1) params.length * (sets.length + 1)
    rw [Nat.mul_succ, Nat.add_comm]

theorem mem_paramMaps {sets : List Sanitizers} {params : List Nat} {t : Tainted}
    (h : ∀ o s, t.get? o = some s → ∃ p ∈ params, o = .param p ∧ s ∈ sets) :
    t ∈ paramMaps sets params := by
  induction params generalizing t with
  | nil =>
    refine List.mem_singleton.mpr (SortedMap.ext_get? fun o => ?_)
    rw [SortedMap.get?_empty]
    cases ho : t.get? o with
    | none => rfl
    | some s =>
      obtain ⟨p, hp, _⟩ := h o s ho
      exact absurd hp List.not_mem_nil
  | cons p params ih =>
    -- without the first parameter the map is in the shorter list
    have herase : ∀ o, (t.erase (.param p)).get? o = if o = .param p then none else t.get? o := by
      intro o
      rw [SortedMap.get?_erase]
      by_cases hop : o = .param p
      · rw [hop, if_pos Std.ReflOrd.compare_self, if_pos rfl]
      · rw [if_neg fun e => hop (Std.LawfulEqOrd.eq_of_compare e).symm, if_neg hop]
    have hmem : t.erase (.param p) ∈ paramMaps sets params := by
      refine ih fun o s hs => ?_
      rw [herase] at hs
      split at hs
      · cases hs
      · rename_i hop
        obtain ⟨q, hq, rfl, hsets⟩ := h o s hs
        rcases List.mem_cons.mp hq with rfl | hq
        · exact absurd rfl hop
        · exact ⟨q, hq, rfl, hsets⟩
    rw [paramMaps]
    cases hp : t.get? (.param p) with
    | none =>
      refine List.mem_append_left _ ?_
      have e : t = t.erase (.param p) := SortedMap.ext_get? fun o => by
        rw [herase]
        split
        · rename_i hop
          rw [hop, hp]
        · rfl
      rwa [e]
    | some s =>
      obtain ⟨_, _, _, hsets⟩ := h _ s hp
      refine List.mem_append_right _ (List.mem_flatMap.mpr ⟨_, hmem, List.mem_map.mpr ⟨s, hsets, ?_⟩⟩)
      refine SortedMap.ext_get? fun o => ?_
      rw [SortedMap.get?_insert, herase]
      by_cases hop : o = .param p
      · rw [hop, if_pos Std.ReflOrd.compare_self, hp]
      · rw [if_neg fun e => hop (Std.LawfulEqOrd.eq_of_compare e), if_neg hop]

/-! ## 2. States that can be met -/

/-- The maps of tainted origins that a search from a source hit can meet. -/
def taintedShapes (g : CallGraph) (seed : Seed) : List Tainted :=
  .singleton (.source seed.hit.source.id) ∅ ::
    (g.edges.flatMap fun e => (subsetsOf g.sanitizerNames).map fun s => .singleton (.call e.site) s) ++
      paramMaps (subsetsOf g.sanitizerNames) g.paramIndices

/-- The states that a search from a source hit can meet. -/
def stateKeys (g : CallGraph) (seed : Seed) : List (FunctionId × Tainted) :=
  g.nodes.flatMap fun n => (taintedShapes g seed).map fun t => (n.id, t)

/-- The steps that the bound allows are those that the states need. -/
theorem searchBound_eq (g : CallGraph) (seed : Seed) :
    g.searchBound = 2 + (stateKeys g seed).length * (2 * g.edges.length) := by
  have hshapes : (taintedShapes g seed).length =
      1 + g.edges.length * Nat.pow 2 g.sanitizerNames.length +
        Nat.pow (Nat.pow 2 g.sanitizerNames.length + 1) g.paramIndices.length := by
    rw [taintedShapes, List.length_append, List.length_cons, List.length_flatMap]
    simp only [List.length_map, List.map_const', List.sum_replicate_nat, length_subsetsOf,
      length_paramMaps]
    omega
  have hkeys : (stateKeys g seed).length = g.nodes.length * (taintedShapes g seed).length := by
    rw [stateKeys, List.length_flatMap]
    simp only [List.length_map, List.map_const', List.sum_replicate_nat]
  rw [hkeys, hshapes]
  rfl

/-- What is known of a state that a search meets: its function is one of the graph, every sanitizer
stands on a label of the graph, and the origins are of one of three kinds. -/
structure Bounded (g : CallGraph) (seed : Seed) (st : PathState) : Prop where
  known : g.facts? st.function.id = some st.function
  names : ∀ o s, st.tainted.get? o = some s → ∀ a ∈ s, a ∈ g.sanitizerNames
  origins : st.tainted = .singleton (.source seed.hit.source.id) ∅ ∨
    (∃ e ∈ g.edges, ∀ o s, st.tainted.get? o = some s → o = .call e.site) ∨
    ∀ o s, st.tainted.get? o = some s → ∃ p ∈ g.paramIndices, o = .param p

section Names

variable {g : CallGraph} {f f' : FunctionFacts} {o o' : Origin} {e : CallEdge} {dir : Direction}
  {l : Label}

theorem mem_nodeFacts {id : FunctionId} (h : g.facts? id = some f) :
    f ∈ g.nodes.filterMap (·.facts) := by
  obtain ⟨n, hn, _, _, hf⟩ := CallGraph.facts?_eq_some h
  exact List.mem_filterMap.mpr ⟨n, hn, hf⟩

/-- The label of a flow step is a label of the graph. -/
theorem FlowStep.mem_sanitizerNames (hf : g.facts? f.id = some f)
    (h : FlowStep g f o e dir l f' o') {a : String} (ha : a ∈ l.sanitizers) :
    a ∈ g.sanitizerNames := by
  rw [CallGraph.sanitizerNames, List.mem_eraseDups, List.mem_flatMap]
  cases h with
  | bound he hcaller hcallee hb ho =>
    refine ⟨_, List.mem_append_left _ (List.mem_flatMap.mpr ⟨e, he, ?_⟩), ha⟩
    exact List.mem_append_left _ (List.mem_map.mpr ⟨_, hb, rfl⟩)
  | spread he hcaller hcallee hd hl ho hfirst hp =>
    refine ⟨_, List.mem_append_left _ (List.mem_flatMap.mpr ⟨e, he, ?_⟩), ha⟩
    exact List.mem_append_right _ hl
  | returned he hcallee hcaller ho hparam =>
    exact ⟨_, List.mem_append_right _ (List.mem_map.mpr ⟨f, mem_nodeFacts hf, rfl⟩), ha⟩

/-- A flow step down leads to a parameter that is counted. -/
theorem FlowStep.param_of_down (h : FlowStep g f o e .down l f' o') :
    ∃ p ∈ g.paramIndices, o' = .param p := by
  cases h with
  | bound he hcaller hcallee hb ho =>
    refine ⟨_, ?_, rfl⟩
    rw [CallGraph.paramIndices, List.mem_eraseDups]
    exact List.mem_append_left _ (List.mem_flatMap.mpr ⟨e, he, List.mem_map.mpr ⟨_, hb, rfl⟩⟩)
  | spread he hcaller hcallee hd hl ho hfirst hp =>
    refine ⟨_, ?_, rfl⟩
    rw [CallGraph.paramIndices, List.mem_eraseDups]
    exact List.mem_append_right _
      (List.mem_flatMap.mpr ⟨f', mem_nodeFacts hcallee, List.mem_range.mpr hp⟩)

/-- A flow step up leads to the call site of its edge. -/
theorem FlowStep.call_of_up (h : FlowStep g f o e .up l f' o') : o' = .call e.site := by
  cases h
  rfl

end Names

namespace Bounded

variable {g : CallGraph} {seed : Seed} {st st' : PathState}

theorem start (hf : g.facts? seed.function.id = some seed.function) :
    Bounded g seed (.start seed) where
  known := hf
  names o s hs a ha := by
    rw [PathState.get?_start] at hs
    split at hs
    · cases hs
      exact absurd ha List.not_mem_nil
    · cases hs
  origins := Or.inl rfl

/-- **Every move keeps to these states.** -/
theorem move (hg : g.WellFormed) (h : Bounded g seed st) (hm : st' ∈ st.moves g) :
    Bounded g seed st' := by
  obtain ⟨step, _, hedge, _, htarget, hflow⟩ := PathState.step_of_move hg hm
  refine ⟨hg.facts?_self htarget, fun o' s hs a ha => ?_, ?_⟩
  · obtain ⟨o, l, s', hstep, hs', hsub⟩ := hflow o' s hs
    rcases SortedSet.mem_union.mp (hsub a ha) with ha | ha
    · exact h.names o s' hs' a ha
    · exact hstep.mem_sanitizerNames h.known ha
  · cases hdir : step.direction with
    | down =>
      refine Or.inr (Or.inr fun o' s hs => ?_)
      obtain ⟨o, l, s', hstep, _⟩ := hflow o' s hs
      rw [hdir] at hstep
      exact hstep.param_of_down
    | up =>
      refine Or.inr (Or.inl ⟨step.edge, hedge, fun o' s hs => ?_⟩)
      obtain ⟨o, l, s', hstep, _⟩ := hflow o' s hs
      rw [hdir] at hstep
      exact hstep.call_of_up

theorem mem_stateKeys (h : Bounded g seed st) : st.key ∈ stateKeys g seed := by
  obtain ⟨n, hn, _, hid, _⟩ := CallGraph.facts?_eq_some h.known
  refine List.mem_flatMap.mpr ⟨n, hn, List.mem_map.mpr ⟨st.tainted, ?_, by rw [hid]; rfl⟩⟩
  rw [taintedShapes]
  rcases h.origins with hstart | ⟨e, he, hcall⟩ | hparams
  · rw [hstart]
    exact List.mem_append_left _ List.mem_cons_self
  · cases hs : st.tainted.get? (.call e.site) with
    | some s =>
      have hshape : st.tainted = .singleton (.call e.site) s := SortedMap.ext_get? fun o => by
        rw [SortedMap.get?_singleton]
        by_cases ho : o = .call e.site
        · rw [ho, if_pos Std.ReflOrd.compare_self, hs]
        · rw [if_neg fun e => ho (Std.LawfulEqOrd.eq_of_compare e)]
          cases hso : st.tainted.get? o with
          | none => rfl
          | some s' => exact absurd (hcall o s' hso) ho
      refine List.mem_append_left _ (List.mem_cons_of_mem _ (List.mem_flatMap.mpr ⟨e, he, ?_⟩))
      exact List.mem_map.mpr ⟨s, mem_subsetsOf (h.names _ s hs), hshape.symm⟩
    | none =>
      -- nothing is tainted at all
      refine List.mem_append_right _ (mem_paramMaps fun o s hso => ?_)
      rw [hcall o s hso, hs] at hso
      cases hso
  · refine List.mem_append_right _ (mem_paramMaps fun o s hs => ?_)
    obtain ⟨p, hp, ho⟩ := hparams o s hs
    exact ⟨p, hp, ho, mem_subsetsOf (h.names o s hs)⟩

end Bounded

/-! ## 3. The end -/

/-- A state has at most one move for each edge and direction. -/
theorem PathState.length_moves_le (g : CallGraph) (st : PathState) :
    (st.moves g).length ≤ 2 * g.edges.length := by
  have hcalls : ((g.callees st.function.id).filterMap (st.callMove? g)).length ≤ g.edges.length :=
    Nat.le_trans (List.length_filterMap_le _ _) CallGraph.length_callees_le
  have hreturns : (st.returnMoves g).length ≤ g.edges.length := by
    rw [returnMoves]
    split
    · exact Nat.zero_le _
    · split
      · exact Nat.zero_le _
      · exact Nat.le_trans (List.length_filterMap_le _ _) CallGraph.length_callers_le
  rw [moves, List.length_append]
  omega

theorem PathState.length_next_le (s : Search) (st : PathState) :
    (st.next s).length ≤ 2 * s.graph.edges.length :=
  Nat.le_trans (List.length_filter_le _ _) (st.length_moves_le s.graph)

/-- Before anything is visited all is left, and the bound covers it. -/
theorem unvisited_nil_le_searchBound (g : CallGraph) (seed : Seed) :
    1 + (unvisited (stateKeys g seed) []).length * (2 * g.edges.length) ≤ g.searchBound := by
  have hall : (unvisited (stateKeys g seed) []).length ≤ (stateKeys g seed).length :=
    List.length_filter_le _ _
  have hmul := Nat.mul_le_mul_right (2 * g.edges.length) hall
  rw [searchBound_eq g seed]
  omega

/-- **The search from a source hit empties its frontier**: its trace is that of a sweep which comes to
its end. -/
theorem Search.sweeps_trace (s : Search) (hg : s.graph.WellFormed) {seed : Seed}
    (hseed : s.graph.facts? seed.function.id = some seed.function) :
    Sweeps (PathState.next s) PathState.key [.start seed] [] (s.trace seed) := by
  refine sweeps_sweep (P := Bounded s.graph seed)
    (fun st h st' hm => h.move hg (PathState.mem_moves_of_mem_next hm))
    (fun st h => h.mem_stateKeys) (fun st _ => st.length_next_le s) _ _ _ (fun st hst => ?_) ?_
  · rw [List.mem_singleton.mp hst]
    exact Bounded.start hseed
  · rw [List.length_singleton]
    exact unvisited_nil_le_searchBound s.graph seed

end TaintFlow
