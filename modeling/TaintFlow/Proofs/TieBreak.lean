import Mathlib.Data.List.Find
import TaintFlow.Proofs.Exposure
import TaintFlow.Proofs.FirstMet

/-!
# Which of several paths that tie is reported

Of the findings that a search meets between two places it reports one with the fewest steps and, of
those with as few, one with the smallest list of functions. But it does not meet every path. A state
that was met before is skipped, whatever its trail, and so only the path that comes first to a
function and its tainted origins is followed to an end (`Search.mem_trace_iff`): paths come in the
order of their lengths and, of one length, in the order of the edges, which is that of the call sites.

So the list of functions decides between first paths only. A path with a smaller list loses if another
one, as long, came to the same state over earlier call sites (`ties_go_to_earliest`,
`smaller_path_lost`).
-/

namespace TaintFlow

/-- Whether a path from a source hit comes before all others to its function and tainted origins:
others are longer, or as long and later in the order of the edges. -/
def PathState.IsEarliest (g : CallGraph) (seed : Seed) (st : PathState) : Prop :=
  IsFirst (moves g) key (fun st => st.trail.length) [.start seed] st

/-! ## 1. The search and the paths -/

section Paths

variable {s : Search} {seed : Seed} {st : PathState}

theorem length_trail_start : ∀ st ∈ [PathState.start seed], st.trail.length = 0 := by
  intro st hst
  rw [List.mem_singleton.mp hst]
  rfl

/-- A state that can be reached is as many layers away as its trail is long. -/
theorem Reached.mem_layer (hg : s.graph.WellFormed) (h : Reached s seed st) :
    st ∈ layer (PathState.moves s.graph) [.start seed] st.trail.length := by
  induction h with
  | start => exact List.mem_singleton.mpr rfl
  | @move st st' _ hm ih =>
    rw [PathState.length_trail_of_next hg hm]
    exact List.mem_flatMap.mpr ⟨st, ih, PathState.mem_moves_of_mem_next hm⟩

variable (hs : s.Unlimited)
include hs

theorem reached_of_mem_layer {n : Nat}
    (h : st ∈ layer (PathState.moves s.graph) [.start seed] n) : Reached s seed st := by
  induction n generalizing st with
  | zero => exact reached_start st h
  | succ n ih =>
    obtain ⟨before, hbefore, hmove⟩ := List.mem_flatMap.mp h
    rw [← hs.next_eq] at hmove
    exact .move (ih hbefore) hmove

/-- **A search without limits expands the paths that come first**, and no others. -/
theorem Search.mem_trace_iff (hg : s.graph.WellFormed)
    (hseed : s.graph.facts? seed.function.id = some seed.function) :
    st ∈ s.trace seed ↔ st.IsEarliest s.graph seed := by
  have hsweeps := s.sweeps_trace hg hseed
  rw [funext hs.next_eq] at hsweeps
  refine Sweeps.mem_iff_first (P := fun st => s.graph.facts? st.function.id = some st.function)
    (fun st hst => ?_) (fun _ _ _ hm => PathState.facts?_of_move hg hm) (fun a b ha hb hkey => ?_)
    length_trail_start (fun _ _ hm => PathState.length_trail_of_move hg hm) hsweeps
  · rw [List.mem_singleton.mp hst]
    exact hseed
  · -- functions with one name are one function
    obtain ⟨hid, htainted⟩ := Prod.mk.inj hkey
    rw [hid, hb] at ha
    exact PathState.map_key_moves (Option.some.inj ha).symm htainted

/-- **What is reported is found on a path that comes first**, and there it is the first finding between
its places. -/
theorem Search.exists_earliest (hg : s.graph.WellFormed) (hclock : s.clock.Unexpired) {v : Finding}
    (hv : v ∈ s.run.findings) :
    ∃ seed ∈ s.graph.seeds, ∃ st : PathState, st.IsEarliest s.graph seed ∧
      (st.sinkFindings s.graph seed).find? (Finding.isFor v.key) = some v := by
  rw [run_findings hclock] at hv
  have hfirst := find?_of_mem_keptOf hv
  rw [List.find?_flatMap] at hfirst
  obtain ⟨seed, hseed, hfirst⟩ := List.exists_of_findSome?_eq_some hfirst
  rw [hs.met_eq, List.find?_flatMap] at hfirst
  obtain ⟨st, hst, hfirst⟩ := List.exists_of_findSome?_eq_some hfirst
  refine ⟨seed, hseed, st, (mem_trace_iff hs hg (hg.of_mem_seeds hseed).1).mp hst, ?_⟩
  -- the findings of one path tie
  have htie : ∀ w ∈ st.sinkFindings s.graph seed, v.isBetter w = false := by
    have hmem := List.mem_of_find?_eq_some hfirst
    intro w hw
    refine Finding.isBetter_eq_false_iff.mpr (.of_tie ?_ ?_)
    · rw [PathState.hopCount_of_mem_sinkFindings hw, PathState.hopCount_of_mem_sinkFindings hmem]
    · rw [PathState.signature_of_mem_sinkFindings hw, PathState.signature_of_mem_sinkFindings hmem]
  rw [← hfirst]
  refine List.find?_congr fun w hw => ?_
  rw [htie w hw]
  exact (Bool.and_true _).symm

end Paths

/-! ## 2. What stands for an exposure -/

namespace Exposure

/-- Whether a path is met in place of an exposure: it is the first one to the function and the tainted
origins to which the edges of the exposure lead. -/
def StandIn {g : CallGraph} (c : Exposure g) (st : PathState) : Prop :=
  st.IsEarliest g c.seed ∧
    ∃ led ∈ layer (PathState.moves g) [.start c.seed] c.length, c.LedTo led ∧ st.key = led.key

/-- Whether an exposure goes the first way to its end. -/
def IsEarliest {g : CallGraph} (c : Exposure g) : Prop :=
  ∃ st : PathState, st.IsEarliest g c.seed ∧ c.LedTo st

variable {s : Search} (hs : s.Unlimited) (hg : s.graph.WellFormed) {c : Exposure s.graph}
  {st : PathState}

include hg in
/-- An exposure that goes the first way stands for itself. -/
theorem standIn_of_ledTo (hst : st.IsEarliest s.graph c.seed) (hled : c.LedTo st) :
    c.StandIn st := by
  refine ⟨hst, st, ?_, hled, rfl⟩
  rw [← hled.length_eq]
  exact hst.mem_layer length_trail_start fun _ _ hm => PathState.length_trail_of_move hg hm

include hs hg

/-- **Every exposure has a stand-in**, which is no longer. -/
theorem exists_standIn (c : Exposure s.graph) : ∃ st, c.StandIn st ∧ st.trail.length ≤ c.length := by
  obtain ⟨led, hreached, hled, _⟩ := c.reached hs hg
  have hlayer := hreached.mem_layer hg
  rw [hled.length_eq] at hlayer
  have hfirst : ∃ st : PathState, st.IsEarliest s.graph c.seed ∧ st.key = led.key ∧
      st.trail.length ≤ c.length :=
    IsFirst.exists_of_mem_layer length_trail_start
      (fun _ _ hm => PathState.length_trail_of_move hg hm) hlayer
  obtain ⟨st, hst, hkey, hle⟩ := hfirst
  exact ⟨st, ⟨hst, led, hlayer, hled, hkey⟩, hle⟩

/-- The search meets the sink of an exposure at its stand-in. -/
theorem StandIn.exists_met (h : c.StandIn st) :
    ∃ applied, pathFinding s.graph c.seed st.trail st.function.id c.hit applied ∈
        st.sinkFindings s.graph c.seed ∧
      pathFinding s.graph c.seed st.trail st.function.id c.hit applied ∈
        s.graph.seeds.flatMap s.met := by
  obtain ⟨hst, led, hlayer, hled, hkey⟩ := h
  have hseed := (hg.of_mem_seeds c.mem_seeds).1
  have htrace : st ∈ s.trace c.seed := (Search.mem_trace_iff hs hg hseed).mpr hst
  obtain ⟨applied, hfinding⟩ := c.exists_sinkFinding hs hg (reached_of_mem_layer hs hlayer) hled
    (Search.reached_of_mem_trace hg hseed htrace) hkey
  refine ⟨applied, hfinding, List.mem_flatMap.mpr ⟨c.seed, c.mem_seeds, ?_⟩⟩
  rw [hs.met_eq]
  exact List.mem_flatMap.mpr ⟨st, htrace, hfinding⟩

/-- **What is reported between the places of an exposure is no worse than what is found at its
stand-in.** -/
theorem StandIn.exists_noWorse (hclock : s.clock.Unexpired) (h : c.StandIn st) {v : Finding}
    (hv : v ∈ s.run.findings) (hjoins : c.Joins v) :
    ∃ w ∈ st.sinkFindings s.graph c.seed, c.Joins w ∧ v.NoWorse w := by
  obtain ⟨applied, hfinding, hmet⟩ := h.exists_met hs hg
  refine ⟨_, hfinding, ⟨Location.same_self _, Location.same_self _⟩, ?_⟩
  exact Search.noWorse_of_met hclock hv hmet (Finding.compare_key_eq_iff.mpr hjoins)

end Exposure

/-! ## 3. What is reported -/

/-- **Ties go to the smallest list of functions among the paths that come first.** On the graph of any
project, without limits on depth and modules and on a clock that does not run out, every finding is one
at a path that comes first to its function and tainted origins. Let an unsanitized flow join the same
places. Then the finding is no worse than what is found on the path that stands for the flow, which is
no longer. If the flow goes the first way itself and has as many steps as the finding, the finding has
no larger list of functions. -/
theorem ties_go_to_earliest {modules : ModuleGraph} {facts : List FunctionFacts}
    {registry : Registry} {g : CallGraph} (hg : CallGraph.build modules facts registry = .ok g)
    {limits : Limits} (hdepth : limits.maxDepth = none) (hmodules : limits.maxModules = none)
    {clock : Clock} (hclock : clock.Unexpired) :
    ∃ outcome, propagateWith g limits clock = .ok outcome ∧ ∀ v ∈ outcome.findings,
      (∃ seed ∈ g.seeds, ∃ st : PathState, st.IsEarliest g seed ∧ v ∈ st.sinkFindings g seed) ∧
      ∀ c : Exposure g, c.Joins v →
        (∃ st, c.StandIn st ∧ st.trail.length ≤ c.length ∧
          ∃ w ∈ st.sinkFindings g c.seed, c.Joins w ∧ v.NoWorse w) ∧
        (c.IsEarliest → v.hopCount = c.length → v.signature ≤ c.signature) := by
  have hwell := CallGraph.build_wellFormed hg
  have hs : (Search.ofLimits g limits clock).Unlimited := Search.unlimited_ofLimits hdepth hmodules
  refine ⟨_, propagateWith_eq hwell limits clock, fun v hv => ⟨?_, fun c hjoins => ⟨?_, ?_⟩⟩⟩
  · obtain ⟨seed, hseed, st, hst, hfirst⟩ := Search.exists_earliest hs hwell hclock hv
    exact ⟨seed, hseed, st, hst, List.mem_of_find?_eq_some hfirst⟩
  · obtain ⟨st, hstand, hle⟩ := c.exists_standIn hs hwell
    exact ⟨st, hstand, hle, hstand.exists_noWorse hs hwell hclock hv hjoins⟩
  · rintro ⟨st, hst, hled⟩ htie
    have hstand := Exposure.standIn_of_ledTo (s := .ofLimits g limits clock) hwell hst hled
    obtain ⟨w, hw, _, hbest⟩ := hstand.exists_noWorse hs hwell hclock hv hjoins
    have hcount : w.hopCount = c.length :=
      (PathState.hopCount_of_mem_sinkFindings hw).trans hled.length_eq
    have hsignature : w.signature = c.signature :=
      (PathState.signature_of_mem_sinkFindings hw).trans hled.signature_eq
    rcases hbest with hlt | ⟨_, hle⟩
    · omega
    · exact hsignature ▸ hle

/-! ### The diamond

Two paths of the same length lead to `App.run` with the same taint. The one over `App.alpha` has the
smaller list of functions, the one over `App.beta` the earlier call site. -/

namespace Diamond

/-- A state of the search after calls, each of which handed its argument on. -/
def after (f : FunctionFacts) (calls : List CallEdge) : PathState :=
  ⟨f, .singleton (.param 1) ∅, calls.map fun e => ⟨e, .down, ∅⟩⟩

theorem callees_main : graph.callees main.id = [mainBeta, mainAlpha] := by
  have hlater : CallEdge.order mainAlpha mainBeta = .gt := rfl
  show CallEdge.sort [mainAlpha, mainBeta] = _
  rw [CallEdge.sort, List.mergeSort]
  simp [List.MergeSort.Internal.splitInTwo, hlater]

theorem callees_beta : graph.callees beta.id = [betaRun] := List.mergeSort_singleton _

theorem callees_alpha : graph.callees alpha.id = [alphaRun] := List.mergeSort_singleton _

theorem callees_run : graph.callees run.id = [] := List.mergeSort_nil

theorem layer_one : layer (PathState.moves graph) [.start seed] 1 =
    [after beta [mainBeta], after alpha [mainAlpha]] := by
  show (PathState.start seed).moves graph ++ [] = _
  rw [PathState.moves, show (PathState.start seed).function.id = main.id from rfl, callees_main]
  rfl

theorem layer_two : layer (PathState.moves graph) [.start seed] 2 =
    [after run [mainBeta, betaRun], after run [mainAlpha, alphaRun]] := by
  rw [layer, layer_one, List.flatMap_cons, List.flatMap_cons, PathState.moves, PathState.moves,
    show (after beta [mainBeta]).function.id = beta.id from rfl, callees_beta,
    show (after alpha [mainAlpha]).function.id = alpha.id from rfl, callees_alpha]
  rfl

theorem layer_beyond (n : Nat) : layer (PathState.moves graph) [.start seed] (n + 3) = [] := by
  induction n with
  | zero =>
    rw [layer, layer_two, List.flatMap_cons, List.flatMap_cons, PathState.moves, PathState.moves,
      show (after run [mainBeta, betaRun]).function.id = run.id from rfl,
      show (after run [mainAlpha, alphaRun]).function.id = run.id from rfl, callees_run]
    rfl
  | succ n ih =>
    rw [layer, ih]
    rfl

theorem isEarliest_beta : (after run [mainBeta, betaRun]).IsEarliest graph seed := by
  show (layers (PathState.moves graph) [.start seed] 2).find? _ = _
  rw [layers, layers, layers, layer_one, layer_two]
  rfl

/-- The path over `App.alpha` comes second. -/
theorem not_isEarliest_alpha : ¬ (after run [mainAlpha, alphaRun]).IsEarliest graph seed := by
  intro h
  have hsites := congrArg (fun st => st.trail.map fun step => step.edge.site)
    (h.unique isEarliest_beta rfl)
  exact absurd hsites (by decide)

/-- Whatever is found is found on the path over `App.beta`. -/
theorem eq_of_isEarliest {st : PathState} {v : Finding} (hst : st.IsEarliest graph seed)
    (hv : v ∈ st.sinkFindings graph seed) : st = after run [mainBeta, betaRun] := by
  have hlayer := hst.mem_layer length_trail_start fun _ _ hm =>
    PathState.length_trail_of_move wellFormed hm
  obtain ⟨htrail, hit, hhit, _⟩ := PathState.mem_sinkFindings.mp hv
  generalize st.trail.length = n at hlayer
  match n with
  | 0 =>
    rw [List.mem_singleton.mp hlayer] at htrail
    exact absurd rfl htrail
  | 1 =>
    rw [layer_one] at hlayer
    rcases List.mem_pair.mp hlayer with rfl | rfl
    · exact absurd hhit List.not_mem_nil
    · exact absurd hhit List.not_mem_nil
  | 2 =>
    rw [layer_two] at hlayer
    rcases List.mem_pair.mp hlayer with rfl | rfl
    · rfl
    · exact absurd hst not_isEarliest_alpha
  | n + 3 =>
    rw [layer_beyond] at hlayer
    exact absurd hlayer List.not_mem_nil

/-- All findings are on the path over `App.beta`. -/
theorem found_over_beta {v : Finding} (hv : v ∈ search.run.findings) :
    ((after run [mainBeta, betaRun]).sinkFindings graph seed).find? (Finding.isFor v.key) =
      some v := by
  obtain ⟨seed', hseed, st, hst, hfirst⟩ :=
    Search.exists_earliest unlimited_search wellFormed (fun _ => rfl) hv
  cases eq_seed hseed
  cases eq_of_isEarliest hst (List.mem_of_find?_eq_some hfirst)
  exact hfirst

theorem hopCount_eq {v : Finding} (hv : v ∈ search.run.findings) : v.hopCount = betaPath.length :=
  PathState.hopCount_of_mem_sinkFindings (List.mem_of_find?_eq_some (found_over_beta hv))

theorem signature_eq {v : Finding} (hv : v ∈ search.run.findings) :
    v.signature = betaPath.signature :=
  PathState.signature_of_mem_sinkFindings (List.mem_of_find?_eq_some (found_over_beta hv))

end Diamond

open Diamond in
theorem diamond_ties_go_to_earliest :
    CallGraph.build ⟨∅⟩ [main, alpha, beta, run] {} = .ok graph ∧
      ∃ outcome, propagateWith graph default (fun _ => false) = .ok outcome ∧
      ∃ v ∈ outcome.findings,
        (∃ seed ∈ graph.seeds, ∃ st : PathState, st.IsEarliest graph seed ∧
          v ∈ st.sinkFindings graph seed) ∧
        (∃ st, alphaPath.StandIn st ∧ st.trail.length ≤ alphaPath.length ∧
          ∃ w ∈ st.sinkFindings graph seed, alphaPath.Joins w ∧ v.NoWorse w) ∧
        betaPath.IsEarliest ∧ v.hopCount = betaPath.length ∧ v.signature ≤ betaPath.signature := by
  obtain ⟨outcome, hok, hall⟩ :=
    @ties_go_to_earliest _ _ _ _ build_eq default rfl rfl (fun _ => false) fun _ => rfl
  rw [propagateWith_eq wellFormed] at hok
  cases hok
  obtain ⟨v, hv, hjoins, _⟩ := betaPath.exists_finding unlimited_search wellFormed fun _ => rfl
  obtain ⟨hfound, hties⟩ := hall v hv
  have hearliest : betaPath.IsEarliest := ⟨_, isEarliest_beta, rfl⟩
  exact ⟨build_eq, _, propagateWith_eq wellFormed default _, v, hv, hfound,
    (hties alphaPath hjoins).1, hearliest, hopCount_eq hv,
    (hties betaPath hjoins).2 hearliest (hopCount_eq hv)⟩

open Diamond in
/-- **A path with a smaller list of functions is lost.** Both paths through the diamond are unsanitized
and have two steps, which is the least; the finding goes over `App.beta`. -/
theorem smaller_path_lost :
    CallGraph.build ⟨∅⟩ [main, alpha, beta, run] {} = .ok graph ∧
      ∃ outcome, propagateWith graph default (fun _ => false) = .ok outcome ∧
      ∃ v ∈ outcome.findings, (alphaPath.Joins v ∧ betaPath.Joins v) ∧
        (∀ c : Exposure graph, c.Joins v → v.hopCount ≤ c.length) ∧
        alphaPath.length = v.hopCount ∧ v.signature = betaPath.signature ∧
        alphaPath.signature < v.signature := by
  obtain ⟨v, hv, hjoins, _⟩ := betaPath.exists_finding unlimited_search wellFormed fun _ => rfl
  have hshortest : ∀ c : Exposure graph, c.Joins v → v.hopCount ≤ c.length := fun c hc =>
    c.hopCount_le unlimited_search wellFormed (fun _ => rfl) hv hc
  refine ⟨build_eq, _, propagateWith_eq wellFormed default _, v, hv, ⟨hjoins, hjoins⟩, hshortest,
    (hopCount_eq hv).symm, signature_eq hv, ?_⟩
  rw [signature_eq hv]
  decide

end TaintFlow
