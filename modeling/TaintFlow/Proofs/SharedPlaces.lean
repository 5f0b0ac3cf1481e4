import TaintFlow.Proofs.TieBreak

/-!
# Sinks that share a place

A call starts where its receiver starts, so the sinks of one chained expression are at one place.
Findings are kept by the places of their ends and by nothing else. Unsanitized flows from one source
to two sinks at one place therefore have one finding between them (`one_finding_per_place`), and the
other sink is not named in any (`second_sink_lost`). Which one is named is settled by the path first:
it is a shortest one, as for any other finding. Of the sinks that this path reaches, it is the one
that stands first in the function.
-/

namespace TaintFlow

/-- Exposures between the same places have the same findings. -/
theorem Exposure.joins_congr {g : CallGraph} {c c' : Exposure g} {v : Finding}
    (hsource : c'.seed.hit.location.same c.seed.hit.location = true)
    (hsink : c'.hit.location.same c.hit.location = true) : c'.Joins v ↔ c.Joins v := by
  have hsame : ∀ {a b l : Location}, b.same a = true → (l.same b = true ↔ l.same a = true) := by
    intro a b l h
    rw [Location.same, beq_iff_eq] at h ⊢
    rw [Location.same, beq_iff_eq, Std.TransCmp.congr_right h]
  exact and_congr (hsame hsource) (hsame hsink)

/-- **Sinks at one place share one finding.** On the graph of any project, without limits on depth and
modules and on a clock that does not run out, take two unsanitized flows between the same places, be
it to one sink or to two. There is exactly one finding between these places, so that it names at most
one of the two sinks. It has no more hops than either flow. It is on a path that comes first to its
function and tainted origins, and it is the first finding between the places there: that of the first
sink in the function which is at the place and which taint reaches unsanitized. -/
theorem one_finding_per_place {modules : ModuleGraph} {facts : List FunctionFacts}
    {registry : Registry} {g : CallGraph} (hg : CallGraph.build modules facts registry = .ok g)
    {limits : Limits} (hdepth : limits.maxDepth = none) (hmodules : limits.maxModules = none)
    {clock : Clock} (hclock : clock.Unexpired) {c c' : Exposure g}
    (hsource : c'.seed.hit.location.same c.seed.hit.location = true)
    (hsink : c'.hit.location.same c.hit.location = true) :
    ∃ outcome, propagateWith g limits clock = .ok outcome ∧ ∃ v ∈ outcome.findings,
      (c.Joins v ∧ c'.Joins v) ∧ (∀ w ∈ outcome.findings, c.Joins w ∨ c'.Joins w → w = v) ∧
      (v.hopCount ≤ c.length ∧ v.hopCount ≤ c'.length) ∧
      ∃ seed ∈ g.seeds, ∃ st : PathState, st.IsEarliest g seed ∧
        (st.sinkFindings g seed).find? (Finding.isFor v.key) = some v := by
  have hwell := CallGraph.build_wellFormed hg
  have hs : (Search.ofLimits g limits clock).Unlimited := Search.unlimited_ofLimits hdepth hmodules
  obtain ⟨v, hv, hjoins, _, hunique⟩ := c.exists_finding hs hwell hclock
  have hjoins' : c'.Joins v := (Exposure.joins_congr hsource hsink).mpr hjoins
  refine ⟨_, propagateWith_eq hwell limits clock, v, hv, ⟨hjoins, hjoins'⟩, fun w hw hor => ?_,
    ⟨?_, ?_⟩, Search.exists_earliest hs hwell hclock hv⟩
  · exact hunique w hw (hor.elim id (Exposure.joins_congr hsource hsink).mp)
  · exact c.hopCount_le hs hwell hclock hv hjoins
  · exact c'.hopCount_le hs hwell hclock hv hjoins'

open Diamond in
theorem diamond_one_finding_per_place :
    CallGraph.build ⟨∅⟩ [main, alpha, beta, run] {} = .ok graph ∧
      (betaPath.hit.sink.id ≠ executePath.hit.sink.id ∧
        executePath.hit.location.same betaPath.hit.location = true) ∧
      ∃ outcome, propagateWith graph default (fun _ => false) = .ok outcome ∧
      ∃ v ∈ outcome.findings, (betaPath.Joins v ∧ executePath.Joins v) ∧
        (∀ w ∈ outcome.findings, betaPath.Joins w ∨ executePath.Joins w → w = v) ∧
        (v.hopCount ≤ betaPath.length ∧ v.hopCount ≤ executePath.length) ∧
        ∃ seed ∈ graph.seeds, ∃ st : PathState, st.IsEarliest graph seed ∧
          (st.sinkFindings graph seed).find? (Finding.isFor v.key) = some v :=
  ⟨build_eq, by decide, @one_finding_per_place _ _ _ _ build_eq default rfl rfl (fun _ => false)
    (fun _ => rfl) betaPath executePath rfl rfl⟩

open Diamond in
/-- **A sink at a shared place is lost.** Unsanitized flows lead from one source hit to both sinks of
`App.run`, but no finding names the second. -/
theorem second_sink_lost :
    CallGraph.build ⟨∅⟩ [main, alpha, beta, run] {} = .ok graph ∧
      (betaPath.seed = executePath.seed ∧ betaPath.function = executePath.function ∧
        betaPath.hit.location = executePath.hit.location ∧
        betaPath.hit.sink.id ≠ executePath.hit.sink.id) ∧
      ∃ outcome, propagateWith graph default (fun _ => false) = .ok outcome ∧
        ∀ v ∈ outcome.findings, v.sink.id ≠ executePath.hit.sink.id := by
  refine ⟨build_eq, ⟨rfl, rfl, rfl, by decide⟩, _,
    propagateWith_eq wellFormed default _, fun v hv hid => ?_⟩
  have hfirst := found_over_beta hv
  have hfindings : (after run [mainBeta, betaRun]).sinkFindings graph seed =
      [popen, execute].map fun hit =>
        pathFinding graph seed (after run [mainBeta, betaRun]).trail run.id hit
          (.singleton "html.escape") := rfl
  rw [hfindings] at hfirst
  obtain ⟨hit, hhit, rfl⟩ := List.mem_map.mp (List.mem_of_find?_eq_some hfirst)
  rcases List.mem_pair.mp hhit with rfl | rfl
  · exact absurd hid (by decide)
  · -- both findings are for this pair, and that of the other sink comes first
    have hids := congrArg (Option.map fun v => v.sink.id) hfirst
    exact absurd hids (by decide)

end TaintFlow
