import TaintFlow.Proofs.ReportedPath
import TaintFlow.Proofs.SearchBound

/-!
# No unsanitized flow is missed

The search carries all tainted origins of a function at once, forgets states that it met before and
keeps one finding for each pair of source and sink. Still its trace covers every flow
(`Flow.covered`): for as long as no sanitizer on the flow protects against everything, the search can
follow it edge by edge (`Flow.reached`), and what can be reached is expanded on some trail that is no
longer (`Reached.covered`). The origin of the flow is tainted there, with no sanitizer beyond those of
the flow. So a flow that ends at a sink is reported, with no more hops than it has steps
(`flow_reported`).
-/

namespace TaintFlow

/-! ## 1. The trace covers every flow -/

/-- The edge that a step takes and its direction. -/
def Step.route (s : Step) : CallEdge × Direction := (s.edge, s.direction)

/-- The edge that a crossing takes and its direction. -/
def Crossing.route (c : Crossing) : CallEdge × Direction := (c.edge, c.direction)

/-- What does not cover one weakness does not cover every one. -/
theorem Registry.coversAll_eq_false {r : Registry} {name : String} {w : Weakness}
    (h : r.covers name w = false) : r.coversAll name = false := by
  rw [← Bool.not_eq_true] at h ⊢
  intro hall
  obtain ⟨family, hmem, hcov⟩ := List.any_eq_true.mp hall
  rw [Bool.and_eq_true] at hcov
  refine h (List.any_eq_true.mpr ⟨family, hmem, ?_⟩)
  rw [Bool.and_eq_true, SanitizerFamily.covers, hcov.2]
  exact ⟨hcov.1, rfl⟩

/-- A state that is expanded is one that can be reached. -/
theorem Search.reached_of_mem_trace {s : Search} (hg : s.graph.WellFormed) {seed : Seed}
    (hseed : s.graph.facts? seed.function.id = some seed.function) {st : PathState}
    (h : st ∈ s.trace seed) : Reached s seed st :=
  (s.sweeps_trace hg hseed).forall_mem reached_start (fun _ ha _ hb => .move ha hb) st h

section Covered

variable {s : Search} {seed : Seed}

theorem Search.tooDeep_mono (s : Search) {j k : Nat} (h : j ≤ k) (hk : s.tooDeep k = false) :
    s.tooDeep j = false := by
  rw [tooDeep] at hk ⊢
  cases hmost : s.maxDepth with
  | none => rfl
  | some most =>
    rw [hmost] at hk
    have hk : ¬ most < k := of_decide_eq_false hk
    exact decide_eq_false (by omega)

/-- What the trace goes on to is expanded, with a trail that is no longer. -/
theorem Search.exists_mem_trace (hg : s.graph.WellFormed)
    (hseed : s.graph.facts? seed.function.id = some seed.function) {st : PathState}
    (h : st = .start seed ∨ ∃ a ∈ s.trace seed, st ∈ a.next s) :
    ∃ c ∈ s.trace seed, c.function = st.function ∧ c.tainted = st.tainted ∧
      c.trail.length ≤ st.trail.length := by
  have hknown : s.graph.facts? st.function.id = some st.function := by
    rcases h with rfl | ⟨a, _, hnext⟩
    · exact hseed
    · exact PathState.facts?_of_move hg (PathState.mem_moves_of_mem_next hnext)
  have hcov := Sweeps.covers (fun _ _ => PathState.length_trail_of_next hg)
    (s.sweeps_trace hg hseed) (List.pairwise_singleton _ _) st (h.imp List.mem_singleton.mpr id)
  rcases hcov with hvisited | ⟨c, hc, hkey, hle⟩
  · exact absurd hvisited List.not_mem_nil
  · obtain ⟨hid, htainted⟩ := Prod.mk.inj hkey
    have hc' := ((Search.reached_of_mem_trace hg hseed hc).walk hg hseed).1
    rw [hid, hknown] at hc'
    exact ⟨c, hc, (Option.some.inj hc').symm, htainted, hle⟩

/-- A search may go on to a function on a shorter trail if it may on a longer one. -/
theorem Search.allows_of_shorter {st c : PathState} (hf : c.function = st.function)
    (hle : c.trail.length ≤ st.trail.length) (h : s.allows st = true) : s.allows c = true := by
  rw [allows, Bool.and_eq_true, Bool.not_eq_true'] at h ⊢
  rw [hf]
  exact ⟨s.tooDeep_mono hle h.1, h.2⟩

/-- **Whatever a search can reach it expands**, on a trail that is no longer. -/
theorem Reached.covered (hg : s.graph.WellFormed)
    (hseed : s.graph.facts? seed.function.id = some seed.function) {st : PathState}
    (h : Reached s seed st) :
    ∃ c ∈ s.trace seed, c.function = st.function ∧ c.tainted = st.tainted ∧
      c.trail.length ≤ st.trail.length := by
  induction h with
  | start => exact s.exists_mem_trace hg hseed (Or.inl rfl)
  | @move st st' _ hm ih =>
    obtain ⟨c, hc, hf, ht, hle⟩ := ih
    obtain ⟨hmove, hallowed⟩ := List.mem_filter.mp hm
    have hlen := PathState.length_trail_of_next hg hm
    obtain ⟨c', hc', hf', ht'⟩ := PathState.exists_move_of_same hg hf ht hmove
    have hlen' := PathState.length_trail_of_move hg hc'
    have hnext : c' ∈ c.next s :=
      List.mem_filter.mpr ⟨hc', Search.allows_of_shorter hf' (by omega) hallowed⟩
    obtain ⟨d, hd, hdf, hdt, hle'⟩ := s.exists_mem_trace hg hseed (Or.inr ⟨c, hc, hnext⟩)
    exact ⟨d, hd, hdf.trans hf', hdt.trans ht', by omega⟩

/-- **A search that no limit stops follows every flow** whose sanitizers do not protect against
everything, over the same edges. -/
theorem Flow.reached (hg : s.graph.WellFormed) (hmodules : s.admitted = none)
    {path : List Crossing} {f : FunctionFacts} {o : Origin}
    (h : Flow s.graph seed.function seed.hit.source.id path f o)
    (hdepth : s.tooDeep path.length = false)
    (hopen : ∀ name, AppliedOn path name → s.graph.registry.coversAll name = false) :
    ∃ st, Reached s seed st ∧ st.function = f ∧
      st.trail.map Step.route = path.map Crossing.route ∧
      ∃ m, st.tainted.get? o = some m ∧ ∀ name ∈ m, AppliedOn path name := by
  induction h with
  | start =>
    refine ⟨.start seed, .start, rfl, rfl, ∅, ?_, fun name hname => absurd hname List.not_mem_nil⟩
    rw [PathState.get?_start, if_pos rfl]
  | @step path f₁ f₂ o₁ o₂ e dir l h hstep ih =>
    have hlength : (path ++ [(⟨e, dir, l⟩ : Crossing)]).length = path.length + 1 :=
      List.length_append
    rw [hlength] at hdepth
    obtain ⟨st, hst, rfl, hroute, m, hm, hsub⟩ := ih (s.tooDeep_mono (Nat.le_succ _) hdepth)
      fun name hname => hopen name (appliedOn_concat.mpr (Or.inl hname))
    have hcrossed : ∀ name ∈ m.union l.sanitizers, AppliedOn (path ++ [⟨e, dir, l⟩]) name :=
      fun name hname => appliedOn_concat.mpr ((SortedSet.mem_union.mp hname).imp_left (hsub name))
    have hneutral : s.graph.registry.neutralizes (m.union l.sanitizers) = false := by
      rw [← Bool.not_eq_true, Registry.neutralizes, SortedSet.any_eq_true]
      rintro ⟨name, hname, hall⟩
      rw [hopen name (hcrossed name hname)] at hall
      cases hall
    obtain ⟨st', hmove, hf, ⟨applied, htrail⟩, m', hm', hsub'⟩ :=
      PathState.exists_move_of_step hg hstep hm hneutral
    have hroute' :
        st'.trail.map Step.route = (path ++ [(⟨e, dir, l⟩ : Crossing)]).map Crossing.route := by
      rw [htrail, List.map_append, List.map_append, hroute]
      rfl
    have hlen : st'.trail.length = path.length + 1 := by
      have hlengths := congrArg List.length hroute'
      rwa [List.length_map, List.length_map, hlength] at hlengths
    have hnext : st' ∈ st.next s := by
      refine List.mem_filter.mpr ⟨hmove, ?_⟩
      rw [Search.allows, Search.admits, hmodules, hlen, hdepth]
      rfl
    exact ⟨st', .move hst hnext, hf, hroute', m', hm', fun name hname =>
      hcrossed name (hsub' name hname)⟩

/-- A search comes to one state over the same edges. -/
theorem Reached.eq_of_route (hg : s.graph.WellFormed) {st c : PathState} (h : Reached s seed st)
    (hc : Reached s seed c) (hroute : st.trail.map Step.route = c.trail.map Step.route) : st = c := by
  induction h generalizing c with
  | start =>
    cases hc with
    | start => rfl
    | move _ hm =>
      obtain ⟨step, htrail, _⟩ := PathState.along?_of_move hg (PathState.mem_moves_of_mem_next hm)
      rw [htrail, List.map_append] at hroute
      exact absurd hroute.symm (List.append_ne_nil_of_right_ne_nil _ (List.cons_ne_nil _ _))
  | @move st₀ st _ hm ih =>
    obtain ⟨step, htrail, halong⟩ :=
      PathState.along?_of_move hg (PathState.mem_moves_of_mem_next hm)
    rw [htrail, List.map_append] at hroute
    cases hc with
    | start => exact absurd hroute (List.append_ne_nil_of_right_ne_nil _ (List.cons_ne_nil _ _))
    | @move c₀ _ hc₀ hmc =>
      obtain ⟨step', htrail', halong'⟩ :=
        PathState.along?_of_move hg (PathState.mem_moves_of_mem_next hmc)
      rw [htrail', List.map_append] at hroute
      obtain ⟨hbefore, hlast⟩ := List.append_inj' hroute rfl
      obtain ⟨hedge, hdir⟩ := Prod.mk.inj (List.singleton_inj.mp hlast)
      rw [ih hc₀ hbefore, hedge, hdir, halong'] at halong
      exact (Option.some.inj halong).symm

/-- **The trace covers every flow** whose sanitizers do not protect against everything, in a search
that no limit stops before its end. -/
theorem Flow.covered (hg : s.graph.WellFormed)
    (hseed : s.graph.facts? seed.function.id = some seed.function) (hmodules : s.admitted = none)
    {path : List Crossing} {f : FunctionFacts} {o : Origin}
    (h : Flow s.graph seed.function seed.hit.source.id path f o)
    (hdepth : s.tooDeep path.length = false)
    (hopen : ∀ name, AppliedOn path name → s.graph.registry.coversAll name = false) :
    ∃ st ∈ s.trace seed, st.function = f ∧ st.trail.length ≤ path.length ∧
      ∃ m, st.tainted.get? o = some m ∧ ∀ name ∈ m, AppliedOn path name := by
  obtain ⟨st, hst, hf, hroute, m, hm, hsub⟩ := h.reached hg hmodules hdepth hopen
  obtain ⟨c, hc, hcf, htainted, hle⟩ := hst.covered hg hseed
  have hlen : st.trail.length = path.length := by
    have hlengths := congrArg List.length hroute
    rwa [List.length_map, List.length_map] at hlengths
  exact ⟨c, hc, hcf.trans hf, hlen ▸ hle, m, htainted ▸ hm, hsub⟩

/-- A flow that has left its source stands at no source, so the states that cover it are not the
start. -/
theorem Flow.trail_ne_nil (hg : s.graph.WellFormed) {f f' : FunctionFacts} {source : String}
    {path : List Crossing} {o : Origin} {m : Sanitizers} (h : Flow s.graph f source path f' o)
    (hpath : path ≠ []) {st : PathState} (hst : Reached s seed st)
    (hm : st.tainted.get? o = some m) : st.trail ≠ [] := by
  have hsource : ∀ id, o ≠ .source id := by
    cases h with
    | start => exact absurd rfl hpath
    | step _ hstep => exact hstep.ne_source
  cases hst with
  | start =>
    rw [PathState.get?_start, if_neg (hsource _)] at hm
    cases hm
  | move _ hnext =>
    have hlen := PathState.length_trail_of_next hg hnext
    intro hnil
    rw [hnil, List.length_nil] at hlen
    omega

/-- A sink is found where taint reaches it and no sanitizer on the way covers its weakness. -/
theorem PathState.exists_sinkFinding {g : CallGraph} (seed : Seed) {st : PathState}
    (htrail : st.trail ≠ []) {hit : SinkHit} (hhit : hit ∈ st.function.sinkHits) {o : Origin}
    {m : Sanitizers} (ho : o ∈ hit.label.origins) (hm : st.tainted.get? o = some m)
    (hopen : ∀ name, name ∈ m ∨ name ∈ hit.label.sanitizers →
      g.registry.covers name hit.sink.weakness = false) :
    ∃ applied, pathFinding g seed st.trail st.function.id hit applied ∈ st.sinkFindings g seed := by
  obtain ⟨applied, happlied, hsub⟩ := Tainted.carried?_of_mem ho hm
  refine ⟨applied, mem_sinkFindings.mpr ⟨htrail, hit, hhit, applied, happlied, ?_, rfl⟩⟩
  exact fun name hname => hopen name (SortedSet.mem_union.mp (hsub name hname))

/-- A flow is met at every sink that it reaches unsanitized, once it has left its function. -/
theorem Flow.met (seed : Seed) (hg : s.graph.WellFormed)
    (hseed : s.graph.facts? seed.function.id = some seed.function) (hmodules : s.admitted = none)
    {path : List Crossing} {f : FunctionFacts} {o : Origin}
    (h : Flow s.graph seed.function seed.hit.source.id path f o) (hpath : path ≠ [])
    (hdepth : s.tooDeep path.length = false) {hit : SinkHit} (hhit : hit ∈ f.sinkHits)
    (ho : o ∈ hit.label.origins)
    (hopen : ∀ name, AppliedOn path name ∨ name ∈ hit.label.sanitizers →
      s.graph.registry.covers name hit.sink.weakness = false) :
    ∃ v ∈ s.met seed, v.source.location = seed.hit.location ∧ v.sink.location = hit.location ∧
      v.hopCount ≤ path.length := by
  have hall : ∀ name, AppliedOn path name → s.graph.registry.coversAll name = false :=
    fun name hname => Registry.coversAll_eq_false (hopen name (Or.inl hname))
  obtain ⟨st, hst, rfl, hlen, m, hm, hsub⟩ := h.covered hg hseed hmodules hdepth hall
  obtain ⟨applied, hfinding⟩ := PathState.exists_sinkFinding seed
    (h.trail_ne_nil hg hpath (Search.reached_of_mem_trace hg hseed hst) hm) hhit ho hm
    fun name hname => hopen name (hname.imp_left (hsub name))
  have hmet : pathFinding s.graph seed st.trail st.function.id hit applied ∈ s.met seed := by
    rw [Search.met, Search.admits, hmodules]
    exact List.mem_flatMap.mpr ⟨st, hst, hfinding⟩
  refine ⟨_, hmet, rfl, rfl, ?_⟩
  rw [hopCount_pathFinding]
  exact hlen

end Covered

/-! ## 2. What is reported -/

/-- Every finding met has one in the outcome, and only one, between the same places. It has no more
hops. -/
theorem Search.exists_best {s : Search} (hclock : s.clock.Unexpired) {w : Finding}
    (hw : w ∈ s.graph.seeds.flatMap s.met) :
    ∃ v ∈ s.run.findings, (v.source.location.same w.source.location = true ∧
        v.sink.location.same w.sink.location = true) ∧ v.hopCount ≤ w.hopCount ∧
      ∀ u ∈ s.run.findings, (u.source.location.same w.source.location = true ∧
        u.sink.location.same w.sink.location = true) → u = v := by
  obtain ⟨v, hv, hkey, hbest⟩ := exists_kept_noWorse hw
  rw [← run_findings hclock] at hv
  refine ⟨v, hv, Finding.compare_key_eq_iff.mp hkey, hbest.hopCount_le, fun u hu hends => ?_⟩
  rw [run_findings hclock] at hu hv
  have huw := Finding.compare_key_eq_iff.mpr hends
  exact eq_of_mem_keptOf hu hv (Std.TransCmp.eq_trans huw (Std.OrientedCmp.eq_symm hkey))

/-- What is reported is no worse than any finding met between the same places. -/
theorem Search.noWorse_of_met {s : Search} (hclock : s.clock.Unexpired) {v w : Finding}
    (hv : v ∈ s.run.findings) (hw : w ∈ s.graph.seeds.flatMap s.met)
    (hkey : compare v.key w.key = .eq) : v.NoWorse w := by
  obtain ⟨u, hu, hkeyu, hbest⟩ := exists_kept_noWorse hw
  rw [run_findings hclock] at hv
  have huv := Std.TransCmp.eq_trans hkey (Std.OrientedCmp.eq_symm hkeyu)
  rw [eq_of_mem_keptOf hv hu huv]
  exact hbest

/-- **No unsanitized flow is missed, and it is reported at its shortest length.** Without a cap on
modules, on a clock that does not run out and with a depth that allows its steps, a flow of one step
or more from a source to a sink has exactly one finding between the places of the two, and this has
no more hops than the flow has steps. The place of a source is that of its first hit in the
function. -/
theorem flow_reported {modules : ModuleGraph} {facts : List FunctionFacts} {registry : Registry}
    {g : CallGraph} (hg : CallGraph.build modules facts registry = .ok g) {limits : Limits}
    (hmodules : limits.maxModules = none) {clock : Clock} (hclock : clock.Unexpired)
    {f : FunctionFacts} (hf : g.facts? f.id = some f) {source : String}
    (hsource : ∃ hit ∈ f.sources, hit.source.id = source) {path : List Crossing}
    {f' : FunctionFacts} {o : Origin} (hflow : Flow g f source path f' o) (hpath : path ≠ [])
    (hdepth : ∀ d, limits.maxDepth = some d → path.length ≤ d) {hit : SinkHit}
    (hhit : hit ∈ f'.sinkHits) (ho : o ∈ hit.label.origins)
    (hopen : ∀ name, AppliedOn path name ∨ name ∈ hit.label.sanitizers →
      g.registry.covers name hit.sink.weakness = false) :
    ∃ outcome first, propagateWith g limits clock = .ok outcome ∧
      f.sources.toList.find? (fun hit => hit.source.id == source) = some first ∧
      ∃ v ∈ outcome.findings, v.source.location.same first.location = true ∧
        v.sink.location.same hit.location = true ∧ v.hopCount ≤ path.length ∧
        ∀ w ∈ outcome.findings, w.source.location.same first.location = true →
          w.sink.location.same hit.location = true → w = v := by
  have hwell := CallGraph.build_wellFormed hg
  obtain ⟨first, hfirst, rfl, hseed⟩ := hwell.exists_seed hf hsource
  have hadmitted : (Search.ofLimits g limits clock).admitted = none := by
    rw [Search.ofLimits, hmodules]
    rfl
  have hdeep : (Search.ofLimits g limits clock).tooDeep path.length = false := by
    rw [Search.ofLimits, Search.tooDeep]
    cases hmost : limits.maxDepth with
    | none => rfl
    | some d => exact decide_eq_false (Nat.not_lt.mpr (hdepth d hmost))
  obtain ⟨w, hw, hsrc, hsink, hle⟩ := Flow.met (s := Search.ofLimits g limits clock) ⟨f, first⟩
    hwell hf hadmitted hflow hpath hdeep hhit ho hopen
  obtain ⟨v, hv, hkey, hle', huniq⟩ :=
    Search.exists_best hclock (List.mem_flatMap.mpr ⟨⟨f, first⟩, hseed, hw⟩)
  rw [hsrc, hsink] at hkey huniq
  exact ⟨_, first, propagateWith_eq hwell limits clock, hfirst, v, hv, hkey.1, hkey.2, by omega,
    fun u hu hs ht => huniq u hu ⟨hs, ht⟩⟩

/-- In the small project the data goes up to `main` and down into the sink. -/
theorem SmallProject.flow : Flow graph reader Source.input.id
    [⟨readCall, .up, reader.returns⟩, ⟨runCall, .down, escaped⟩] runner (.param 0) := by
  have hup : FlowStep graph reader (.source Source.input.id) readCall .up reader.returns main
      (.call 0) := .returned List.mem_cons_self rfl rfl List.mem_cons_self rfl
  have hdown : FlowStep graph main (.call 0) runCall .down escaped runner (.param 0) :=
    .bound (List.mem_cons_of_mem _ List.mem_cons_self) rfl rfl (b := ⟨0, escaped⟩)
      List.mem_cons_self List.mem_cons_self
  exact .step (.step .start hup) hdown

theorem small_flow_reported :
    ∃ outcome first,
      propagateWith SmallProject.graph { (default : Limits) with maxDepth := some 2 }
        (fun _ => false) = .ok outcome ∧
      SmallProject.reader.sources.toList.find? (fun hit => hit.source.id == Source.input.id) =
        some first ∧
      ∃ v ∈ outcome.findings, v.source.location.same first.location = true ∧
        v.sink.location.same SmallProject.sinkHit.location = true ∧ v.hopCount ≤ 2 ∧
        ∀ w ∈ outcome.findings, w.source.location.same first.location = true →
          w.sink.location.same SmallProject.sinkHit.location = true → w = v := by
  have hsource : ∃ hit ∈ SmallProject.reader.sources, hit.source.id = Source.input.id :=
    ⟨_, List.mem_cons_self, rfl⟩
  have hhit : SmallProject.sinkHit ∈ SmallProject.runner.sinkHits := List.mem_cons_self
  have ho : Origin.param 0 ∈ SmallProject.sinkHit.label.origins := List.mem_cons_self
  have hdepth : ∀ d, some 2 = some d → 2 ≤ d := fun d hd => Nat.le_of_eq (Option.some.inj hd)
  exact flow_reported SmallProject.build_eq rfl (fun _ => rfl) rfl hsource SmallProject.flow nofun
    hdepth hhit ho fun _ _ => rfl

end TaintFlow
