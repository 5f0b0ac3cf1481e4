import TaintFlow.Proofs.Soundness

/-!
# Paths go up before they go down

Data that a function hands back goes to any of its callers, so a path that went down into a callee
and came back up might return to a caller that never made the call. No path does. A call taints
parameters only, and a function hands back nothing that came from its own parameters
(`PathState.move_cases`). So a path goes up to callers first and then down into callees
(`Reached.upThenDown`), and every finding lists its returns before its calls
(`returns_before_calls`).
-/

namespace TaintFlow

/-- Whether nothing but parameters is tainted. -/
def Tainted.OnlyParams (t : Tainted) : Prop := ∀ o m, t.get? o = some m → o.isParam = true

/-! ## 1. One move -/

/-- What a move does: it goes down and taints some parameters, or it goes up, with data that is no
parameter's, and taints the call it comes back to. -/
theorem PathState.move_cases {g : CallGraph} {st st' : PathState} (hg : g.WellFormed)
    (h : st' ∈ st.moves g) :
    ∃ step : Step, st'.trail = st.trail ++ [step] ∧
      ((step.direction = .down ∧ st'.tainted.OnlyParams) ∨
        (step.direction = .up ∧ ¬ st.tainted.OnlyParams ∧
          ∃ m, st'.tainted = .singleton (.call step.edge.site) m)) := by
  rcases List.mem_append.mp h with h | h
  · obtain ⟨e, _, hmove⟩ := List.mem_filterMap.mp h
    obtain ⟨callee, _, _, rfl⟩ := (callMove?_eq_some_iff hg).mp hmove
    refine ⟨_, rfl, Or.inl ⟨rfl, fun o m hm => ?_⟩⟩
    rw [flowInto_get?] at hm
    obtain ⟨p, l, rfl, _⟩ := brings_of_arriving (Option.filter_eq_some_iff.mp hm).1
    rfl
  · obtain ⟨e, caller, m, he, hcallee, hcaller, hreturned, _, rfl⟩ := mem_returnMoves_iff.mp h
    refine ⟨_, rfl, Or.inr ⟨rfl, fun honly => ?_, m, rfl⟩⟩
    obtain ⟨o, s, hstep, hs, _⟩ := step_of_returned? he hcallee hcaller hreturned
    cases hstep with
    | returned _ _ _ _ hforeign =>
      rw [honly o s hs] at hforeign
      cases hforeign

/-! ## 2. The whole path -/

/-- The trail of a state goes up and then down, and once it has gone down only parameters are
tainted. -/
structure PathState.UpThenDown (st : PathState) (ups downs : List Step) : Prop where
  trail : st.trail = ups ++ downs
  up : ∀ step ∈ ups, step.direction = .up
  down : ∀ step ∈ downs, step.direction = .down
  params : downs ≠ [] → st.tainted.OnlyParams

/-- A move keeps the shape: after a step down there is nothing to go up with. -/
theorem PathState.UpThenDown.move {g : CallGraph} {st st' : PathState} {ups downs : List Step}
    (hg : g.WellFormed) (h : st.UpThenDown ups downs) (hm : st' ∈ st.moves g) :
    ∃ ups' downs', st'.UpThenDown ups' downs' := by
  obtain ⟨step, htrail, hcases⟩ := move_cases hg hm
  rcases hcases with ⟨hdown, hparams⟩ | ⟨hup, hforeign, _⟩
  · refine ⟨ups, downs ++ [step], ?_, h.up, fun x hx => ?_, fun _ => hparams⟩
    · rw [htrail, h.trail, List.append_assoc]
    · rcases List.mem_append.mp hx with hx | hx
      · exact h.down x hx
      · rw [List.mem_singleton.mp hx]
        exact hdown
  · have hnone : downs = [] := Classical.byContradiction fun hne => hforeign (h.params hne)
    have htrail' : st'.trail = ups ++ [step] := by
      rw [htrail, h.trail, hnone, List.append_nil]
    refine ⟨ups ++ [step], [], by rw [htrail', List.append_nil], fun x hx => ?_,
      fun x hx => absurd hx List.not_mem_nil, fun hne => absurd rfl hne⟩
    rcases List.mem_append.mp hx with hx | hx
    · exact h.up x hx
    · rw [List.mem_singleton.mp hx]
      exact hup

namespace Reached

variable {s : Search} {seed : Seed} {st : PathState}

/-- **Every path goes up before it goes down.** -/
theorem upThenDown (hg : s.graph.WellFormed) (h : Reached s seed st) :
    ∃ ups downs, st.UpThenDown ups downs := by
  induction h with
  | start =>
    exact ⟨[], [], rfl, fun x hx => absurd hx List.not_mem_nil,
      fun x hx => absurd hx List.not_mem_nil, fun hne => absurd rfl hne⟩
  | move _ hm ih =>
    obtain ⟨ups, downs, ih⟩ := ih
    exact ih.move hg (PathState.mem_moves_of_mem_next hm)

/-- **What is tainted where a path ends, by its last step**: parameters after a call, one call after
a return. -/
theorem tainted_of_last (hg : s.graph.WellFormed) (h : Reached s seed st) {step : Step}
    (hlast : st.trail.getLast? = some step) :
    (step.direction = .down → st.tainted.OnlyParams) ∧
      (step.direction = .up → ∃ m, st.tainted = .singleton (.call step.edge.site) m) := by
  cases h with
  | start => cases hlast
  | move _ hm =>
    obtain ⟨last, htrail, hcases⟩ := PathState.move_cases hg (PathState.mem_moves_of_mem_next hm)
    rw [htrail, List.getLast?_concat] at hlast
    cases hlast
    rcases hcases with ⟨hdir, hparams⟩ | ⟨hdir, _, hcall⟩
    · refine ⟨fun _ => hparams, fun hup => ?_⟩
      rw [hdir] at hup
      cases hup
    · refine ⟨fun hdown => ?_, fun _ => hcall⟩
      rw [hdir] at hdown
      cases hdown

end Reached

/-! ## 3. What a finding lists -/

/-- Whether no return stands after a call in a list of hops. -/
def ReturnsFirst (hops : List Hop) : Prop :=
  hops.Pairwise fun a b => a.kind = .call → b.kind ≠ .ret

/-- Only the moves between functions count. -/
theorem Finding.returnsFirst_hops {v : Finding} (h : ReturnsFirst v.steps) :
    ReturnsFirst v.hops := by
  refine (List.pairwise_filter.mp h).imp fun hab ha hb => ?_
  exact hab (by rw [ha]; rfl) (by rw [hb]; rfl) ha hb

theorem returnsFirst_append {ups downs : List Hop} (hups : ∀ hop ∈ ups, hop.kind = .ret)
    (hdowns : ∀ hop ∈ downs, hop.kind = .call) : ReturnsFirst (ups ++ downs) := by
  refine List.pairwise_append.mpr ⟨List.pairwise_of_forall_mem_list fun a ha b _ hcall => ?_,
    List.pairwise_of_forall_mem_list fun a _ b hb _ hret => ?_, fun a ha b _ hcall => ?_⟩
  · rw [hups a ha] at hcall
    cases hcall
  · rw [hdowns b hb] at hret
    cases hret
  · rw [hups a ha] at hcall
    cases hcall

/-- The moves of a finding at a reached state are returns and then calls. -/
theorem Reached.steps_eq {s : Search} {seed : Seed} {st : PathState} {v : Finding}
    (hg : s.graph.WellFormed) (h : Reached s seed st) (hv : v ∈ st.sinkFindings s.graph seed) :
    ∃ ups downs, v.steps = ups ++ downs ∧ (∀ hop ∈ ups, hop.kind = .ret) ∧
      ∀ hop ∈ downs, hop.kind = .call := by
  obtain ⟨ups, downs, hshape⟩ := h.upThenDown hg
  obtain ⟨_, hit, _, applied, _, _, rfl⟩ := PathState.mem_sinkFindings.mp hv
  refine ⟨ups.map Step.hop, downs.map Step.hop, ?_, fun hop hhop => ?_, fun hop hhop => ?_⟩
  · rw [steps_pathFinding, hshape.trail, List.map_append]
  · obtain ⟨step, hstep, rfl⟩ := List.mem_map.mp hhop
    show step.kind = .ret
    rw [Step.kind, hshape.up step hstep]
  · obtain ⟨step, hstep, rfl⟩ := List.mem_map.mp hhop
    show step.kind = .call
    rw [Step.kind, hshape.down step hstep]

/-- **All returns of a path come before its calls.** On the graph of any project, whatever the limits and the
clock, the moves of a finding are returns and then calls, so that among its hops no return comes
after a call. And whatever state the search reaches, by a call it taints nothing but parameters and
by a return exactly the call that it comes back to. -/
theorem returns_before_calls {modules : ModuleGraph} {facts : List FunctionFacts}
    {registry : Registry} {g : CallGraph} (hg : CallGraph.build modules facts registry = .ok g)
    (limits : Limits) (clock : Clock) :
    (∃ outcome, propagateWith g limits clock = .ok outcome ∧ ∀ v ∈ outcome.findings,
      ReturnsFirst v.hops ∧ ∃ ups downs, v.steps = ups ++ downs ∧
        (∀ hop ∈ ups, hop.kind = .ret) ∧ ∀ hop ∈ downs, hop.kind = .call) ∧
    ∀ seed ∈ g.seeds, ∀ st step, Reached (.ofLimits g limits clock) seed st →
      st.trail.getLast? = some step →
      (step.kind = .call → st.tainted.OnlyParams) ∧
        (step.kind = .ret → ∃ m, st.tainted = .singleton (.call step.edge.site) m) := by
  have hwell := CallGraph.build_wellFormed hg
  refine ⟨⟨_, propagateWith_eq hwell limits clock, fun v hv => ?_⟩, fun _ _ st step hst hlast => ?_⟩
  · obtain ⟨seed, _, st, hst, hv⟩ := Search.reached_of_mem_findings hv
    obtain ⟨ups, downs, hsteps, hups, hdowns⟩ := hst.steps_eq hwell hv
    refine ⟨Finding.returnsFirst_hops ?_, ups, downs, hsteps, hups, hdowns⟩
    rw [hsteps]
    exact returnsFirst_append hups hdowns
  · obtain ⟨hdown, hup⟩ := hst.tainted_of_last hwell hlast
    rw [Step.kind]
    cases hdir : step.direction with
    | down => exact ⟨fun _ => hdown hdir, fun hkind => by cases hkind⟩
    | up => exact ⟨fun hkind => (by cases hkind), fun _ => hup hdir⟩

/-- A search follows the flows of the small project. -/
theorem SmallProject.reached_along {path : List Crossing} {f : FunctionFacts} {o : Origin}
    (h : Flow graph reader Source.input.id path f o) :
    ∃ seed ∈ graph.seeds, ∃ st, Reached (.ofLimits graph default fun _ => false) seed st ∧
      st.trail.map Step.route = path.map Crossing.route := by
  have hwell := CallGraph.build_wellFormed build_eq
  obtain ⟨first, _, hid, hseed⟩ :=
    hwell.exists_seed (f := reader) rfl ⟨_, List.mem_cons_self, (rfl : _ = Source.input.id)⟩
  have hflow : Flow graph (⟨reader, first⟩ : Seed).function (⟨reader, first⟩ : Seed).hit.source.id
      path f o := hid ▸ h
  obtain ⟨st, hst, _, hroute, _⟩ := Flow.reached (s := .ofLimits graph default fun _ => false)
    hwell rfl hflow rfl fun _ _ => rfl
  exact ⟨_, hseed, st, hst, hroute⟩

/-- The small project has paths that end with a return and paths that end with a call. -/
theorem SmallProject.exists_last (dir : Direction) :
    ∃ seed ∈ graph.seeds, ∃ st step, Reached (.ofLimits graph default fun _ => false) seed st ∧
      st.trail.getLast? = some step ∧ step.direction = dir := by
  have hlast : ∀ (path : List Crossing) {c : Crossing} {st : PathState},
      st.trail.map Step.route = (path ++ [c]).map Crossing.route →
      ∃ step, st.trail.getLast? = some step ∧ step.direction = c.direction := by
    intro path c st hroute
    have hroute := congrArg List.getLast? hroute
    rw [List.getLast?_map, List.getLast?_map, List.getLast?_concat] at hroute
    obtain ⟨step, hstep, hc⟩ := Option.map_eq_some_iff.mp hroute
    exact ⟨step, hstep, (Prod.mk.inj hc).2⟩
  cases dir with
  | down =>
    obtain ⟨seed, hseed, st, hst, hroute⟩ := reached_along flow
    obtain ⟨step, hstep⟩ := hlast [_] hroute
    exact ⟨seed, hseed, st, step, hst, hstep⟩
  | up =>
    have hup : FlowStep graph reader (.source Source.input.id) readCall .up reader.returns main
        (.call 0) := .returned List.mem_cons_self rfl rfl List.mem_cons_self rfl
    obtain ⟨seed, hseed, st, hst, hroute⟩ := reached_along (.step .start hup)
    obtain ⟨step, hstep⟩ := hlast [] hroute
    exact ⟨seed, hseed, st, step, hst, hstep⟩

open SmallProject in
theorem small_returns_before_calls :
    CallGraph.build ⟨∅⟩ [main, reader, runner] {} = .ok graph ∧
      (∃ outcome, propagateWith graph default (fun _ => false) = .ok outcome ∧
        outcome.findings ≠ [] ∧ ∀ v ∈ outcome.findings,
          ReturnsFirst v.hops ∧ ∃ ups downs, v.steps = ups ++ downs ∧
            (∀ hop ∈ ups, hop.kind = .ret) ∧ ∀ hop ∈ downs, hop.kind = .call) ∧
      (∃ seed ∈ graph.seeds, ∃ st step, Reached (.ofLimits graph default fun _ => false) seed st ∧
        st.trail.getLast? = some step ∧ step.kind = .call ∧ st.tainted.OnlyParams) ∧
      ∃ seed ∈ graph.seeds, ∃ st step, Reached (.ofLimits graph default fun _ => false) seed st ∧
        st.trail.getLast? = some step ∧ step.kind = .ret ∧
        ∃ m, st.tainted = .singleton (.call step.edge.site) m := by
  obtain ⟨⟨outcome, hok, hall⟩, hstates⟩ := returns_before_calls build_eq default fun _ => false
  have hsome : outcome.findings ≠ [] := by
    rw [propagateWith_eq (CallGraph.build_wellFormed build_eq)] at hok
    cases hok
    obtain ⟨v, hv⟩ := exists_finding
    exact List.ne_nil_of_mem hv
  obtain ⟨seed, hseed, st, step, hst, hlast, hdown⟩ := exists_last .down
  obtain ⟨seed', hseed', st', step', hst', hlast', hup⟩ := exists_last .up
  have hcall : step.kind = .call := by rw [Step.kind, hdown]
  have hret : step'.kind = .ret := by rw [Step.kind, hup]
  exact ⟨build_eq, ⟨outcome, hok, hsome, hall⟩,
    ⟨seed, hseed, st, step, hst, hlast, hcall, (hstates seed hseed st step hst hlast).1 hcall⟩,
    seed', hseed', st', step', hst', hlast', hret,
    (hstates seed' hseed' st' step' hst' hlast').2 hret⟩

end TaintFlow
