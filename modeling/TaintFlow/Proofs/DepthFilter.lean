import TaintFlow.Proofs.ReportedPath
import TaintFlow.Proofs.SearchBound

/-!
# A depth limit is a filter

A search with a limit on depth leaves out steps, so it could come to a state by another path, meet
states in another order and keep other findings. It does none of this. A search goes breadth first:
whatever lies deeper than the limit is looked at after everything else, and no state above the limit
was left out because it had been met below. So the states that the limited search expands are those
of the unlimited one with a trail that is short enough, in the same order (`Search.limited_trace`).
A finding has as many hops as the trail of its state, the better of two findings never has more hops,
and what is reported is filtered, record for record (`depth_limit_filters`).
-/

namespace TaintFlow

namespace Search

variable {s : Search}

/-- The search with a limit on depth. -/
def limited (s : Search) (d : Nat) : Search := { s with maxDepth := some d }

/-- The limit leaves out the states with a trail that is too long. -/
theorem limited_next (hs : s.maxDepth = none) (d : Nat) :
    PathState.next (s.limited d) =
      fun st => (st.next s).filter fun st' => st'.trail.length ≤ d := by
  have hallows : ∀ st : PathState, (s.limited d).allows st =
      (decide (st.trail.length ≤ d) && s.allows st) := by
    intro st
    have hdeep : s.tooDeep st.trail.length = false := by rw [tooDeep, hs]
    have hlimited : (!(s.limited d).tooDeep st.trail.length) = decide (st.trail.length ≤ d) := by
      show (!decide (d < st.trail.length)) = _
      rw [← decide_not]
      exact decide_eq_decide.mpr Nat.not_lt
    rw [allows, allows, hdeep, hlimited]
    rfl
  funext st
  rw [PathState.next, PathState.next, List.filter_filter]
  exact List.filter_congr fun st' _ => hallows st'

/-- **The limited search expands the same states, less those too deep.** -/
theorem limited_trace (hs : s.maxDepth = none) (hg : s.graph.WellFormed) (d : Nat) {seed : Seed}
    (hseed : s.graph.facts? seed.function.id = some seed.function) :
    (s.limited d).trace seed = (s.trace seed).filter fun st => st.trail.length ≤ d := by
  have hfiltered := Sweeps.filter_rank d (fun _ _ => PathState.length_trail_of_next hg)
    (s.sweeps_trace hg hseed) (List.pairwise_singleton _ _)
  have hstart : [PathState.start seed].filter (fun st => st.trail.length ≤ d) = [.start seed] :=
    List.filter_cons_of_pos (decide_eq_true (Nat.zero_le d))
  rw [← limited_next hs d, hstart] at hfiltered
  exact ((s.limited d).sweeps_trace hg hseed).unique hfiltered

/-- The limited search meets the same findings, less those with too many hops. -/
theorem limited_met (hs : s.maxDepth = none) (hg : s.graph.WellFormed) (d : Nat) {seed : Seed}
    (hseed : s.graph.facts? seed.function.id = some seed.function) :
    (s.limited d).met seed = (s.met seed).filter (Finding.within d) := by
  have hat : ∀ st : PathState, (st.sinkFindings s.graph seed).filter (Finding.within d) =
      if st.trail.length ≤ d then st.sinkFindings s.graph seed else [] := by
    intro st
    split
    · rename_i hle
      refine List.filter_eq_self.mpr fun v hv => decide_eq_true ?_
      rw [PathState.hopCount_of_mem_sinkFindings hv]
      exact hle
    · rename_i hle
      refine List.filter_eq_nil_iff.mpr fun v hv hwithin => hle ?_
      rw [← PathState.hopCount_of_mem_sinkFindings hv]
      exact of_decide_eq_true hwithin
  have htrace : ∀ trace : List PathState,
      (trace.filter fun st => st.trail.length ≤ d).flatMap (PathState.sinkFindings s.graph seed) =
        (trace.flatMap (PathState.sinkFindings s.graph seed)).filter (Finding.within d) := by
    intro trace
    induction trace with
    | nil => rfl
    | cons st trace ih =>
      rw [List.flatMap_cons, List.filter_append, hat, ← ih, List.filter_cons]
      by_cases hle : st.trail.length ≤ d
      · rw [if_pos (decide_eq_true hle), if_pos hle, List.flatMap_cons]
      · rw [if_neg fun h => hle (of_decide_eq_true h), if_neg hle, List.nil_append]
  rw [met, met, limited_trace hs hg d hseed]
  show (if s.admits seed.function.id.module then _ else _) = _
  split
  · exact htrace _
  · rfl

/-- What the limited search finds is what the unlimited one finds, less the findings with too many
hops. -/
theorem limited_run_findings (hs : s.maxDepth = none) (hg : s.graph.WellFormed) (d : Nat)
    (hclock : s.clock.Unexpired) :
    (s.limited d).run.findings = s.run.findings.filter (Finding.within d) := by
  have hmet : s.graph.seeds.flatMap (s.limited d).met =
      (s.graph.seeds.flatMap s.met).filter (Finding.within d) := by
    rw [List.filter_flatMap, List.flatMap_def, List.flatMap_def]
    refine congrArg List.flatten (List.map_congr_left fun seed hseed => ?_)
    exact limited_met hs hg d (hg.of_mem_seeds hseed).1
  have hlimited : (s.limited d).run.findings =
      (keptOf (s.graph.seeds.flatMap (s.limited d).met)).values := run_findings hclock
  rw [hlimited, run_findings hclock, ← values_filter_hopCount, ← hmet]

end Search

/-- **A depth limit is exactly a filter**, with any cap on modules and on a clock that does not run
out: the findings within a depth are those of the search without a limit on depth that have at most
so many hops, the same records in the same order. -/
theorem depth_limit_filters {modules : ModuleGraph} {facts : List FunctionFacts}
    {registry : Registry} {g : CallGraph} (hg : CallGraph.build modules facts registry = .ok g)
    (limits : Limits) {clock : Clock} (hclock : clock.Unexpired) (d : Nat) :
    ∃ all shallow, propagateWith g { limits with maxDepth := none } clock = .ok all ∧
      propagateWith g { limits with maxDepth := some d } clock = .ok shallow ∧
      shallow.findings = all.findings.filter fun v => v.hopCount ≤ d := by
  have hwell := CallGraph.build_wellFormed hg
  refine ⟨_, _, propagateWith_eq hwell _ clock, propagateWith_eq hwell _ clock, ?_⟩
  exact Search.limited_run_findings (s := .ofLimits g { limits with maxDepth := none } clock) rfl
    hwell d hclock

theorem small_depth_limit_filters :
    ∃ all shallow,
      propagateWith SmallProject.graph ⟨.community, none, some 1, default⟩ (fun _ => false) = .ok all ∧
      propagateWith SmallProject.graph ⟨.community, some 1, some 1, default⟩ (fun _ => false) =
        .ok shallow ∧
      shallow.findings = all.findings.filter fun v => v.hopCount ≤ 1 :=
  depth_limit_filters SmallProject.build_eq ⟨.community, none, some 1, default⟩ (fun _ => rfl) 1

end TaintFlow
