import TaintFlow.Proofs.Trace
import TaintFlow.Propagation.Validate

/-!
# The path that a finding reports

A finding lists hops, the search keeps a trail of steps. The hops that move between functions are the
steps of the trail, one for one (`steps_pathFinding`), so a finding has as many of them as its trail
(`hopCount_pathFinding`).

The trail of a state that the search reaches is a walk over edges of the graph to the function of the
state (`Reached.walk`). Therefore no check of a finding ever fails and the outcome of the search is
what comes out (`propagateWith_eq`).
-/

namespace TaintFlow

/-! ## 1. Hops and steps -/

/-- The hop of a step that moves between functions. -/
def Step.hop (s : Step) : Hop where
  function := s.target
  location := s.edge.location
  kind := s.kind
  detail := some s.detail

theorem Step.isStep_kind (s : Step) : s.kind.isStep = true := by
  unfold kind
  cases s.direction <;> rfl

theorem filter_isStep_sanitizers (l : List String) (id : FunctionId) (location : Location) :
    (l.map fun name => (⟨id, location, .sanitizer, some name⟩ : Hop)).filter
      (fun h => h.kind.isStep) = [] := by
  simp [HopKind.isStep]

theorem Step.filter_hops (inForce : Sanitizers) (s : Step) :
    (s.hops inForce).filter (fun h => h.kind.isStep) = [s.hop] := by
  rw [hops, List.filter_append, filter_isStep_sanitizers, List.nil_append]
  exact List.filter_cons_of_pos s.isStep_kind

section PathFinding

variable (g : CallGraph) (seed : Seed) (trail : List Step) (id : FunctionId) (hit : SinkHit)
  (applied : Sanitizers)

/-- **The moves of a finding are the steps of its trail.** -/
theorem steps_pathFinding :
    (pathFinding g seed trail id hit applied).steps = trail.map Step.hop := by
  have htrail : (trail.flatMap (Step.hops applied)).filter (fun h => h.kind.isStep) =
      trail.map Step.hop := by
    induction trail with
    | nil => rfl
    | cons s trail ih =>
      rw [List.flatMap_cons, List.filter_append, ih, Step.filter_hops]
      rfl
  show (pathHops seed trail id hit applied).filter (fun h => h.kind.isStep) = _
  rw [pathHops, List.filter_append, List.filter_append,
    List.filter_cons_of_neg Bool.false_ne_true, htrail, filter_isStep_sanitizers,
    List.filter_cons_of_neg Bool.false_ne_true, List.filter_nil]
  simp

theorem hopCount_pathFinding :
    (pathFinding g seed trail id hit applied).hopCount = trail.length := by
  rw [Finding.hopCount, steps_pathFinding, List.length_map]

end PathFinding

namespace PathState

variable {g : CallGraph} {seed : Seed} {st : PathState} {v : Finding}

/-- A finding at a state is the path to a sink that taint reaches and that no sanitizer on it
covers. -/
theorem mem_sinkFindings : v ∈ st.sinkFindings g seed ↔ st.trail ≠ [] ∧
    ∃ hit ∈ st.function.sinkHits, ∃ applied, st.tainted.carried? hit.label = some applied ∧
      (∀ name ∈ applied, g.registry.covers name hit.sink.weakness = false) ∧
      v = pathFinding g seed st.trail st.function.id hit applied := by
  rw [sinkFindings]
  split
  · rename_i h
    simp [List.isEmpty_iff.mp h]
  · rename_i h
    rw [List.mem_filterMap]
    refine Iff.trans (exists_congr fun hit => and_congr_right fun _ => ?_)
      (and_iff_right fun e => h (List.isEmpty_iff.mpr e)).symm
    rw [Option.bind_eq_some_iff]
    refine exists_congr fun applied => and_congr_right fun _ => ?_
    have hall : (applied.any fun name => g.registry.covers name hit.sink.weakness) = false ↔
        ∀ name ∈ applied, g.registry.covers name hit.sink.weakness = false := by
      rw [← Bool.not_eq_true, SortedSet.any_eq_true]
      simp
    rw [← hall]
    split
    · rename_i hcov
      simp [hcov]
    · rename_i hcov
      simp [hcov, eq_comm]

/-- The findings at a state are as long as its trail. -/
theorem hopCount_of_mem_sinkFindings (h : v ∈ st.sinkFindings g seed) :
    v.hopCount = st.trail.length := by
  obtain ⟨_, hit, _, applied, _, _, rfl⟩ := mem_sinkFindings.mp h
  exact hopCount_pathFinding ..

end PathState

/-! ## 2. Walks -/

theorem Location.same_self (l : Location) : l.same l = true := by
  rw [same, Std.ReflOrd.compare_self]
  rfl

theorem walkSteps_append (g : CallGraph) (start : FunctionId) (before after : List Hop) :
    walkSteps g start (before ++ after) =
      (walkSteps g start before).bind fun current => walkSteps g current after := by
  induction before generalizing start with
  | nil => rfl
  | cons hop before ih =>
    rw [List.cons_append, walkSteps, walkSteps]
    obtain ⟨caller, callee⟩ :=
      if hop.kind == .ret then (hop.function, start) else (start, hop.function)
    dsimp only
    by_cases hcall : g.hasCallAt caller callee hop.location = true
    · rw [if_pos hcall, if_pos hcall]
      exact ih hop.function
    · rw [if_neg hcall, if_neg hcall]
      rfl

/-- The end of an edge on the graph is where its hop leads. -/
theorem walkSteps_hop {g : CallGraph} {s : Step} (h : s.edge ∈ g.edges) :
    walkSteps g s.origin [s.hop] = .ok s.target := by
  have hcall : g.hasCallAt s.edge.caller s.edge.callee s.edge.location = true :=
    List.any_eq_true.mpr
      ⟨s.edge, CallGraph.mem_between.mpr ⟨h, rfl, rfl⟩, s.edge.location.same_self⟩
  obtain ⟨edge, dir, applied⟩ := s
  cases dir with
  | down => exact if_pos hcall
  | up => exact if_pos hcall

/-- **The trail of a reached state is a walk to its function**, which is one of the graph. -/
theorem Reached.walk {s : Search} {seed : Seed} {st : PathState} (hg : s.graph.WellFormed)
    (hseed : s.graph.facts? seed.function.id = some seed.function) (h : Reached s seed st) :
    s.graph.facts? st.function.id = some st.function ∧
      walkSteps s.graph seed.function.id (st.trail.map Step.hop) = .ok st.function.id := by
  induction h with
  | start => exact ⟨hseed, rfl⟩
  | move h hm ih =>
    obtain ⟨step, htrail, hedge, horigin, htarget, _⟩ :=
      PathState.step_of_move hg (PathState.mem_moves_of_mem_next hm)
    refine ⟨hg.facts?_self htarget, ?_⟩
    rw [htrail, List.map_append, walkSteps_append, ih.2, hg.facts?_id htarget, ← horigin]
    exact walkSteps_hop hedge

/-! ## 3. No finding is refused -/

theorem Finding.validate_eq_ok {g : CallGraph} {v : Finding}
    (hfirst : v.hops.head?.map (·.kind) = some .source)
    (hlast : v.hops.getLast?.map (·.kind) = some .sink)
    (hwalk : walkSteps g v.source.function v.steps = .ok v.sink.function)
    (hsink : g.hasSinkAt v.sink.function v.sink.location = true) : v.validate g = .ok () := by
  rw [validate, hfirst, hlast, hwalk, hsink]
  show (if v.sink.function != v.sink.function then _ else _) = _
  rw [bne_self_eq_false]
  rfl

/-- The findings at a reached state pass their check. -/
theorem Reached.check_eq_ok {s : Search} {seed : Seed} {st : PathState} {v : Finding}
    (hg : s.graph.WellFormed) (hseed : s.graph.facts? seed.function.id = some seed.function)
    (h : Reached s seed st) (hv : v ∈ st.sinkFindings s.graph seed) :
    v.check s.graph = .ok () := by
  obtain ⟨hknown, hwalk⟩ := h.walk hg hseed
  obtain ⟨_, hit, hhit, applied, _, _, rfl⟩ := PathState.mem_sinkFindings.mp hv
  have hsink : s.graph.hasSinkAt st.function.id hit.location = true := by
    rw [CallGraph.hasSinkAt, hknown]
    exact List.any_eq_true.mpr ⟨hit, hhit, hit.location.same_self⟩
  have hlast : (pathHops seed st.trail st.function.id hit applied).getLast? =
      some ⟨st.function.id, hit.location, .sink, some hit.sink.name⟩ := List.getLast?_concat
  have hvalid : (pathFinding s.graph seed st.trail st.function.id hit applied).validate s.graph =
      .ok () := by
    refine Finding.validate_eq_ok rfl (congrArg (Option.map (·.kind)) hlast) ?_ hsink
    rw [steps_pathFinding]
    exact hwalk
  rw [Finding.check, hvalid]

/-- **No finding of a search is refused**, so following taint gives the outcome of the search. -/
theorem propagateWith_eq {g : CallGraph} (hg : g.WellFormed) (limits : Limits) (clock : Clock) :
    propagateWith g limits clock = .ok (Search.ofLimits g limits clock).run := by
  have hall : ∀ v ∈ (Search.ofLimits g limits clock).run.findings, v.check g = .ok () := by
    intro v hv
    obtain ⟨seed, hseed, st, hst, hv⟩ := Search.reached_of_mem_findings hv
    exact hst.check_eq_ok hg (hg.of_mem_seeds hseed).1 hv
  have hforM : ∀ l : List Finding, (∀ v ∈ l, v.check g = .ok ()) →
      l.forM (·.check g) = (.ok () : Except BrokenPath Unit) := by
    intro l hl
    induction l with
    | nil => rfl
    | cons v l ih =>
      show (v.check g >>= fun _ => l.forM (·.check g)) = _
      rw [hl v List.mem_cons_self]
      exact ih fun w hw => hl w (List.mem_cons_of_mem _ hw)
  rw [propagateWith, hforM _ hall]
  rfl

end TaintFlow
