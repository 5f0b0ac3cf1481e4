import TaintFlow.Proofs.Completeness

/-!
# Every finding is backed by a flow

A state of the search holds many tainted origins, and each keeps only the sanitizers that everything
which met in it has in common. For every one of them a single flow leads along the trail of the
state, through labels that carry at least its sanitizers (`Reached.flow`). The flow to an origin of a
sink's label backs the finding there: the moves that the finding lists are its crossings, one for one
(`finding_backed`).
-/

namespace TaintFlow

/-- The hop that a crossing is listed as. -/
def Crossing.hop (c : Crossing) : Hop := Step.hop ⟨c.edge, c.direction, c.label.sanitizers⟩

/-- Whoever takes the same edges lists the same hops. -/
theorem map_hop_of_map_route {trail : List Step} {path : List Crossing}
    (h : trail.map Step.route = path.map Crossing.route) :
    trail.map Step.hop = path.map Crossing.hop := by
  have hhop : ∀ r : CallEdge × Direction, ∀ s s' : Sanitizers,
      Step.hop ⟨r.1, r.2, s⟩ = Step.hop ⟨r.1, r.2, s'⟩ := fun _ _ _ => rfl
  have hsteps : trail.map Step.hop =
      (trail.map Step.route).map fun r => Step.hop ⟨r.1, r.2, ∅⟩ := by
    rw [List.map_map]
    exact List.map_congr_left fun s _ => hhop s.route s.applied ∅
  have hpath : path.map Crossing.hop =
      (path.map Crossing.route).map fun r => Step.hop ⟨r.1, r.2, ∅⟩ := by
    rw [List.map_map]
    exact List.map_congr_left fun c _ => hhop c.route c.label.sanitizers ∅
  rw [hsteps, hpath, h]

/-- **A flow leads to every tainted origin of a reached state**, over the edges of its trail and
through labels with at least the sanitizers that are left. -/
theorem Reached.flow_along {s : Search} {seed : Seed} {st : PathState} (hg : s.graph.WellFormed)
    (h : Reached s seed st) {o : Origin} {m : Sanitizers} (hm : st.tainted.get? o = some m) :
    ∃ path, Flow s.graph seed.function seed.hit.source.id path st.function o ∧
      st.trail.map Step.route = path.map Crossing.route ∧ ∀ name ∈ m, AppliedOn path name := by
  induction h generalizing o m with
  | start =>
    rw [PathState.get?_start] at hm
    split at hm
    · rename_i ho
      cases hm
      rw [ho]
      exact ⟨[], .start, rfl, fun name hname => absurd hname List.not_mem_nil⟩
    · cases hm
  | move h hnext ih =>
    obtain ⟨step, htrail, _, _, _, hcarried⟩ :=
      PathState.step_of_move hg (PathState.mem_moves_of_mem_next hnext)
    obtain ⟨o₁, l, s₁, hstep, hs₁, hsub⟩ := hcarried o m hm
    obtain ⟨path, hflow, hroute, happlied⟩ := ih hs₁
    refine ⟨path ++ [⟨step.edge, step.direction, l⟩], .step hflow hstep, ?_, fun name hname => ?_⟩
    · rw [htrail, List.map_append, List.map_append, hroute]
      rfl
    · exact appliedOn_concat.mpr
        ((SortedSet.mem_union.mp (hsub name hname)).imp_left (happlied name))

theorem Reached.flow {s : Search} {seed : Seed} {st : PathState} (hg : s.graph.WellFormed)
    (h : Reached s seed st) {o : Origin} {m : Sanitizers} (hm : st.tainted.get? o = some m) :
    ∃ path, Flow s.graph seed.function seed.hit.source.id path st.function o ∧
      st.trail.map Step.hop = path.map Crossing.hop ∧ ∀ name ∈ m, AppliedOn path name := by
  obtain ⟨path, hflow, hroute, happlied⟩ := h.flow_along hg hm
  exact ⟨path, hflow, map_hop_of_map_route hroute, happlied⟩

/-- **Every finding is backed by a flow**, whatever the limits and the clock. The flow starts at the
source that the finding names, its crossings are the moves that the finding lists, and where it ends
the function has the sink with the last origin in its label. No sanitizer that the finding lists
covers its weakness, and each of them stands on a label that the flow crosses or on that of the
sink. -/
theorem finding_backed {modules : ModuleGraph} {facts : List FunctionFacts} {registry : Registry}
    {g : CallGraph} (hg : CallGraph.build modules facts registry = .ok g) (limits : Limits)
    (clock : Clock) :
    ∃ outcome, propagateWith g limits clock = .ok outcome ∧ ∀ v ∈ outcome.findings,
      ∃ f path f' o, ∃ src ∈ f.sources, ∃ hit ∈ f'.sinkHits,
        (g.facts? v.source.function = some f ∧ src.source.id = v.source.id ∧
          src.location = v.source.location) ∧
        (Flow g f v.source.id path f' o ∧ v.steps = path.map Crossing.hop) ∧
        (g.facts? v.sink.function = some f' ∧ hit.sink.id = v.sink.id ∧
          hit.location = v.sink.location ∧ hit.sink.weakness = v.weakness ∧
          o ∈ hit.label.origins) ∧
        ∀ name ∈ v.sanitizers, g.registry.covers name v.weakness = false ∧
          (AppliedOn path name ∨ name ∈ hit.label.sanitizers) := by
  have hwell := CallGraph.build_wellFormed hg
  refine ⟨_, propagateWith_eq hwell limits clock, fun v hv => ?_⟩
  obtain ⟨seed, hseed, st, hst, hv⟩ := Search.reached_of_mem_findings hv
  obtain ⟨hknown, hsource⟩ := hwell.of_mem_seeds hseed
  obtain ⟨_, hit, hhit, applied, hcarried, hopen, rfl⟩ := PathState.mem_sinkFindings.mp hv
  obtain ⟨o, ho, m, hm, hsub⟩ := Tainted.exists_of_carried? hcarried
  obtain ⟨path, hflow, hhops, happlied⟩ := hst.flow hwell hm
  refine ⟨seed.function, path, st.function, o, seed.hit, hsource, hit, hhit, ⟨hknown, rfl, rfl⟩,
    ⟨hflow, ?_⟩, ⟨(hst.walk hwell hknown).1, rfl, rfl, rfl, ho⟩, fun name hname => ⟨?_, ?_⟩⟩
  · rw [steps_pathFinding]
    exact hhops
  · exact hopen name hname
  · exact (SortedSet.mem_union.mp (hsub name hname)).imp_left (happlied name)

/-- The small project has a finding. -/
theorem SmallProject.exists_finding :
    ∃ v, v ∈ (Search.ofLimits graph default fun _ => false).run.findings := by
  have hwell := CallGraph.build_wellFormed build_eq
  obtain ⟨first, _, hid, hseed⟩ :=
    hwell.exists_seed (f := reader) rfl ⟨_, List.mem_cons_self, (rfl : _ = Source.input.id)⟩
  have hflow : Flow graph reader first.source.id _ runner (.param 0) := hid ▸ flow
  have hhit : sinkHit ∈ runner.sinkHits := List.mem_cons_self
  obtain ⟨w, hw, _⟩ := Flow.met (s := Search.ofLimits graph default fun _ => false)
    ⟨reader, first⟩ hwell rfl rfl hflow nofun rfl hhit List.mem_cons_self fun _ _ => rfl
  obtain ⟨v, hv, _⟩ := Search.exists_best (fun _ => rfl) (List.mem_flatMap.mpr ⟨_, hseed, hw⟩)
  exact ⟨v, hv⟩

theorem small_finding_backed :
    ∃ outcome, propagateWith SmallProject.graph default (fun _ => false) = .ok outcome ∧
      outcome.findings ≠ [] ∧ ∀ v ∈ outcome.findings,
        ∃ f path f' o, ∃ src ∈ f.sources, ∃ hit ∈ f'.sinkHits,
          (SmallProject.graph.facts? v.source.function = some f ∧ src.source.id = v.source.id ∧
            src.location = v.source.location) ∧
          (Flow SmallProject.graph f v.source.id path f' o ∧ v.steps = path.map Crossing.hop) ∧
          (SmallProject.graph.facts? v.sink.function = some f' ∧ hit.sink.id = v.sink.id ∧
            hit.location = v.sink.location ∧ hit.sink.weakness = v.weakness ∧
            o ∈ hit.label.origins) ∧
          ∀ name ∈ v.sanitizers, SmallProject.graph.registry.covers name v.weakness = false ∧
            (AppliedOn path name ∨ name ∈ hit.label.sanitizers) := by
  obtain ⟨outcome, hok, hall⟩ := finding_backed SmallProject.build_eq default fun _ => false
  refine ⟨outcome, hok, ?_, hall⟩
  rw [propagateWith_eq (CallGraph.build_wellFormed SmallProject.build_eq)] at hok
  cases hok
  obtain ⟨v, hv⟩ := SmallProject.exists_finding
  exact List.ne_nil_of_mem hv

end TaintFlow
