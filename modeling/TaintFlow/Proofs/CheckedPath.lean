import TaintFlow.Proofs.ReportedPath

/-!
# Following taint never fails

Every finding is checked against the graph before it is reported, and one that fails its check would
fail the whole run. The check is exact: it accepts a finding if and only if this is a path of the
graph, from a hop at a source to a hop at a sink, over existing calls at the recorded places
(`Finding.validate_eq_ok_iff`). What a search finds is such a path, however calls, returns and
sanitizers are mixed on it. So from any modules, facts and registry a graph is built and following
taint over it gives an outcome, whatever the limits (`propagation_never_fails`).
-/

namespace TaintFlow

/-! ## 1. Walks -/

/-- Hops that lead from one function to another over calls of the graph, each at the place of its
call: a call leads from the caller to the callee, a return from the callee back to the caller. -/
inductive Walk (g : CallGraph) : FunctionId → List Hop → FunctionId → Prop where
  | stop (id : FunctionId) : Walk g id [] id
  | down {e : CallEdge} {hop : Hop} {hops : List Hop} {last : FunctionId} (he : e ∈ g.edges)
      (hkind : hop.kind = .call) (hplace : e.location.same hop.location = true)
      (hinto : hop.function = e.callee) (h : Walk g e.callee hops last) :
      Walk g e.caller (hop :: hops) last
  | up {e : CallEdge} {hop : Hop} {hops : List Hop} {last : FunctionId} (he : e ∈ g.edges)
      (hkind : hop.kind = .ret) (hplace : e.location.same hop.location = true)
      (hinto : hop.function = e.caller) (h : Walk g e.caller hops last) :
      Walk g e.callee (hop :: hops) last

section Walk

variable {g : CallGraph} {start last : FunctionId} {hop : Hop} {hops : List Hop}

theorem CallGraph.hasCallAt_iff {caller callee : FunctionId} {place : Location} :
    g.hasCallAt caller callee place = true ↔ ∃ e ∈ g.edges, e.caller = caller ∧
      e.callee = callee ∧ e.location.same place = true := by
  rw [hasCallAt, List.any_eq_true]
  refine exists_congr fun e => ?_
  rw [mem_between, and_assoc, and_assoc]

theorem walk_call_iff (hkind : hop.kind = .call) : Walk g start (hop :: hops) last ↔
    g.hasCallAt start hop.function hop.location = true ∧ Walk g hop.function hops last := by
  rw [CallGraph.hasCallAt_iff]
  constructor
  · intro h
    cases h with
    | down he _ hplace hinto h => exact ⟨⟨_, he, rfl, hinto.symm, hplace⟩, hinto ▸ h⟩
    | up _ hret =>
      rw [hkind] at hret
      cases hret
  · rintro ⟨⟨e, he, rfl, hcallee, hplace⟩, h⟩
    exact .down he hkind hplace hcallee.symm (hcallee ▸ h)

theorem walk_ret_iff (hkind : hop.kind = .ret) : Walk g start (hop :: hops) last ↔
    g.hasCallAt hop.function start hop.location = true ∧ Walk g hop.function hops last := by
  rw [CallGraph.hasCallAt_iff]
  constructor
  · intro h
    cases h with
    | down _ hcall =>
      rw [hkind] at hcall
      cases hcall
    | up he _ hplace hinto h => exact ⟨⟨_, he, hinto.symm, rfl, hplace⟩, hinto ▸ h⟩
  · rintro ⟨⟨e, he, hcaller, rfl, hplace⟩, h⟩
    exact .up he hkind hplace hcaller.symm (hcaller ▸ h)

/-- A step is walked over a call from the caller to the callee, or for a return the other way. -/
theorem walkSteps_cons_eq_ok_iff : walkSteps g start (hop :: hops) = .ok last ↔
    (if hop.kind = .ret then g.hasCallAt hop.function start hop.location
      else g.hasCallAt start hop.function hop.location) = true ∧
      walkSteps g hop.function hops = .ok last := by
  have hguard : ∀ (linked : Bool) (fault : PathFault),
      (if linked then walkSteps g hop.function hops else .error fault) = .ok last ↔
        linked = true ∧ walkSteps g hop.function hops = .ok last := by
    intro linked fault
    cases linked <;> simp
  rw [walkSteps]
  by_cases hret : hop.kind = .ret
  · rw [if_pos (beq_iff_eq.mpr hret), if_pos hret]
    exact hguard _ _
  · rw [if_neg fun h => hret (beq_iff_eq.mp h), if_neg hret]
    exact hguard _ _

/-- **The steps that can be walked are the walks of the graph.** -/
theorem walkSteps_eq_ok_iff (hsteps : ∀ hop ∈ hops, hop.kind.isStep = true) :
    walkSteps g start hops = .ok last ↔ Walk g start hops last := by
  induction hops generalizing start with
  | nil =>
    constructor
    · intro h
      cases h
      exact .stop _
    · intro h
      cases h
      rfl
  | cons hop hops ih =>
    have hstep := hsteps hop List.mem_cons_self
    rw [walkSteps_cons_eq_ok_iff, ih fun h hh => hsteps h (List.mem_cons_of_mem _ hh)]
    cases hkind : hop.kind with
    | call => rw [walk_call_iff hkind, if_neg nofun]
    | ret => rw [walk_ret_iff hkind, if_pos rfl]
    | source => rw [hkind] at hstep; cases hstep
    | sanitizer => rw [hkind] at hstep; cases hstep
    | sink => rw [hkind] at hstep; cases hstep

end Walk

/-! ## 2. What the check accepts -/

namespace Finding

variable {g : CallGraph} {v : Finding}

/-- A finding is a path of the graph from its source to its sink. -/
structure IsPath (g : CallGraph) (v : Finding) : Prop where
  /-- The first hop is at a source. -/
  first : v.hops.head?.map (·.kind) = some .source
  /-- The last hop is at a sink. -/
  last : v.hops.getLast?.map (·.kind) = some .sink
  /-- The moves between functions are a walk. -/
  walk : Walk g v.source.function v.steps v.sink.function
  /-- Where they end there is a sink at the place of the finding's. -/
  hit : ∃ f, g.facts? v.sink.function = some f ∧
    ∃ hit ∈ f.sinkHits, hit.location.same v.sink.location = true

theorem isStep_of_mem_steps {hop : Hop} (h : hop ∈ v.steps) : hop.kind.isStep = true :=
  (List.mem_filter.mp h).2

theorem hasSinkAt_iff {id : FunctionId} {place : Location} : g.hasSinkAt id place = true ↔
    ∃ f, g.facts? id = some f ∧ ∃ hit ∈ f.sinkHits, hit.location.same place = true := by
  rw [CallGraph.hasSinkAt]
  cases g.facts? id with
  | none => simp
  | some f => simp

/-- The check, fault by fault. -/
theorem validate_eq (g : CallGraph) (v : Finding) : v.validate g =
    if v.hops.head?.map (·.kind) != some .source then .error .noSource
    else if v.hops.getLast?.map (·.kind) != some .sink then .error .noSink
    else (walkSteps g v.source.function v.steps).bind fun reached =>
      if reached != v.sink.function then .error (.wrongEnd reached v.sink.function)
      else if !g.hasSinkAt v.sink.function v.sink.location then
        .error (.sinkMissing v.sink.function v.sink.location)
      else .ok () := rfl

/-- **The check accepts exactly the paths of the graph.** -/
theorem validate_eq_ok_iff : v.validate g = .ok () ↔ v.IsPath g := by
  have hguard : ∀ (fails : Bool) (fault : PathFault) (rest : Except PathFault Unit),
      (if fails then .error fault else rest) = .ok () ↔ fails = false ∧ rest = .ok () := by
    intro fails fault rest
    cases fails <;> simp
  have hwalk : walkSteps g v.source.function v.steps = .ok v.sink.function ↔
      Walk g v.source.function v.steps v.sink.function :=
    walkSteps_eq_ok_iff fun _ => isStep_of_mem_steps
  constructor
  · intro h
    rw [validate_eq, hguard, hguard, bne_eq_false_iff_eq, bne_eq_false_iff_eq] at h
    obtain ⟨hfirst, hlast, h⟩ := h
    cases hsteps : walkSteps g v.source.function v.steps with
    | error fault =>
      rw [hsteps] at h
      cases h
    | ok reached =>
      rw [hsteps] at h
      have h := (hguard _ _ _).mp h
      rw [hguard, bne_eq_false_iff_eq, Bool.not_eq_false'] at h
      obtain ⟨rfl, hsink, _⟩ := h
      exact ⟨hfirst, hlast, hwalk.mp hsteps, hasSinkAt_iff.mp hsink⟩
  · exact fun h => validate_eq_ok h.first h.last (hwalk.mpr h.walk) (hasSinkAt_iff.mpr h.hit)

theorem validate_eq_ok_of_check (h : v.check g = .ok ()) : v.validate g = .ok () := by
  rw [check] at h
  split at h
  · assumption
  · cases h

end Finding

/-! ## 3. No run fails -/

/-- **Following taint never fails.** From any modules, facts and registry a graph is built, and
whatever the limits and the clock an outcome comes out of it: the check accepts every finding, which
is a path of the graph from its source to its sink. -/
theorem propagation_never_fails (modules : ModuleGraph) (facts : List FunctionFacts)
    (registry : Registry) :
    ∃ g, CallGraph.build modules facts registry = .ok g ∧
      ∀ (limits : Limits) (clock : Clock), ∃ outcome, propagateWith g limits clock = .ok outcome ∧
        ∀ v ∈ outcome.findings, v.validate g = .ok () ∧ v.IsPath g := by
  obtain ⟨g, hg⟩ := CallGraph.exists_build modules facts registry
  have hwell := CallGraph.build_wellFormed hg
  refine ⟨g, hg, fun limits clock => ⟨_, propagateWith_eq hwell limits clock, fun v hv => ?_⟩⟩
  obtain ⟨seed, hseed, st, hst, hmem⟩ := Search.reached_of_mem_findings hv
  have hcheck := hst.check_eq_ok hwell (hwell.of_mem_seeds hseed).1 hmem
  have hvalid := Finding.validate_eq_ok_of_check hcheck
  exact ⟨hvalid, Finding.validate_eq_ok_iff.mp hvalid⟩

end TaintFlow
