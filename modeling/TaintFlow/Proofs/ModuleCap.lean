import TaintFlow.Proofs.TruncationFlags

/-!
# Caps on modules

A cap changes which modules a search may enter, hence which states it meets, in which order and on
which trails. Two things hold all the same.

* A cap with room for every module of the project might as well not be there
  (`roomy_cap_changes_nothing`): the pass that admits modules went wherever the search goes, so no
  flag goes up and the two searches are the same step for step.
* Raising a cap loses nothing: whatever a search reaches, one that may go further reaches as well
  (`Wider.reached`) and expands on a trail that is no longer. So it reports every pair of source and
  sink again, with no more hops (`larger_cap_keeps_findings`).
-/

namespace TaintFlow

/-! ## 1. A cap with room for every module -/

section Room

variable {g : CallGraph} (hg : g.WellFormed) (limits : Limits) {cap : Nat}
  (hcap : g.functionModules.size ≤ cap) (clock : Clock)
include hg hcap

/-- A cap with room for every module raises no flag. -/
theorem Search.modules_flag_of_room :
    (ofLimits g { limits with maxModules := some cap } clock).run.truncation.modules = false := by
  have hle : (ofLimits g { limits with maxModules := some cap } clock).run.truncation ≤
      ⟨true, false, true⟩ := by
    refine run_truncation_le nofun (fun _ seed hseed => ?_) (fun _ seed hseed st hst st' hm => ?_)
      nofun
    · exact admits_seed_of_room hg rfl hcap clock hseed
    · exact admits_move_of_room hg rfl hcap clock hseed hst hm
  exact Bool.eq_false_iff.mpr fun h => Bool.false_ne_true (hle.modules h)

/-- A search under a cap with room for every module is the search without a cap. -/
theorem Search.run_eq_of_room :
    (ofLimits g { limits with maxModules := none } clock).run =
      (ofLimits g { limits with maxModules := some cap } clock).run := by
  refine run_eq_of_laxer ⟨rfl, fun _ => Or.inl rfl, fun m => ?_, fun _ => Or.inl rfl⟩
  cases hopen : (ofLimits g { limits with maxModules := some cap } clock).admits m with
  | true => exact Or.inl rfl
  | false => exact Or.inr ⟨rfl, modules_flag_of_room hg limits hcap clock⟩

end Room

/-- **A cap that does not bind changes nothing.** With room for as many modules as the functions of
the project have, the whole outcome is the one without a cap, whatever the depth and the clock, and
the flag for modules is down. -/
theorem roomy_cap_changes_nothing {modules : ModuleGraph} {facts : List FunctionFacts}
    {registry : Registry} {g : CallGraph} (hg : CallGraph.build modules facts registry = .ok g)
    (limits : Limits) (clock : Clock) {cap : Nat} (hcap : g.functionModules.size ≤ cap) :
    ∃ outcome, propagateWith g { limits with maxModules := some cap } clock = .ok outcome ∧
      propagateWith g { limits with maxModules := none } clock = .ok outcome ∧
      outcome.truncation.modules = false := by
  have hwell := CallGraph.build_wellFormed hg
  refine ⟨_, propagateWith_eq hwell _ clock, ?_, Search.modules_flag_of_room hwell limits hcap clock⟩
  rw [propagateWith_eq hwell, Search.run_eq_of_room hwell limits hcap clock]

theorem small_roomy_cap :
    SmallProject.graph.functionModules.size = 1 ∧
      ∃ outcome,
        propagateWith SmallProject.graph ⟨.community, some 1, some 1, default⟩ (fun _ => false) =
          .ok outcome ∧
        propagateWith SmallProject.graph ⟨.community, some 1, none, default⟩ (fun _ => false) =
          .ok outcome ∧
        outcome.truncation.modules = false :=
  ⟨by decide, roomy_cap_changes_nothing SmallProject.build_eq ⟨.community, some 1, none, default⟩
    (fun _ => false) (by decide)⟩

/-! ## 2. Going further -/

/-- **Only the start holds a source.** -/
theorem Reached.trail_eq_nil_iff {s : Search} (hg : s.graph.WellFormed) {seed : Seed}
    {st : PathState} (h : Reached s seed st) :
    st.trail = [] ↔ ∃ id m, st.tainted.get? (.source id) = some m := by
  cases h with
  | start =>
    refine iff_of_true rfl ⟨seed.hit.source.id, ∅, ?_⟩
    rw [PathState.get?_start, if_pos rfl]
  | move h hm =>
    obtain ⟨step, htrail, _, _, _, hflow⟩ :=
      PathState.step_of_move hg (PathState.mem_moves_of_mem_next hm)
    refine iff_of_false ?_ ?_
    · rw [htrail]
      exact List.append_ne_nil_of_right_ne_nil _ (List.cons_ne_nil _ _)
    · rintro ⟨id, m, hget⟩
      obtain ⟨o, l, s', hstep, _⟩ := hflow _ m hget
      exact hstep.ne_source id rfl

/-- The second search may go wherever the first may. -/
structure Wider (s s' : Search) : Prop where
  graph : s'.graph = s.graph
  depth : ∀ n, s.tooDeep n = false → s'.tooDeep n = false
  modules : ∀ m, s.admits m = true → s'.admits m = true

namespace Wider

variable {s s' : Search} (h : Wider s s')
include h

theorem allows {st : PathState} (hst : s.allows st = true) : s'.allows st = true := by
  rw [Search.allows, Bool.and_eq_true, Bool.not_eq_true'] at hst ⊢
  exact ⟨h.depth _ hst.1, h.modules _ hst.2⟩

/-- What the first search can reach the second can. -/
theorem reached {seed : Seed} {st : PathState} (hst : Reached s seed st) : Reached s' seed st := by
  induction hst with
  | start => exact .start
  | move _ hm ih =>
    obtain ⟨hmove, hallowed⟩ := List.mem_filter.mp hm
    exact .move ih (List.mem_filter.mpr ⟨h.graph ▸ hmove, h.allows hallowed⟩)

/-- Every finding that the first search meets the second meets too, with no more hops. -/
theorem met (hg : s'.graph.WellFormed) {seed : Seed}
    (hseed : s'.graph.facts? seed.function.id = some seed.function) {v : Finding}
    (hv : v ∈ s.met seed) :
    ∃ w ∈ s'.met seed, w.key = v.key ∧ w.hopCount ≤ v.hopCount := by
  have hg₁ : s.graph.WellFormed := h.graph ▸ hg
  have hseed₁ : s.graph.facts? seed.function.id = some seed.function := h.graph ▸ hseed
  rw [Search.met] at hv
  split at hv
  · rename_i hopen
    obtain ⟨st, hst, hv⟩ := List.mem_flatMap.mp hv
    have hreached := Search.reached_of_mem_trace hg₁ hseed₁ hst
    obtain ⟨c, hc, hf, ht, hle⟩ := (h.reached hreached).covered hg hseed
    obtain ⟨htrail, hit, hhit, applied, happlied, hcov, rfl⟩ := PathState.mem_sinkFindings.mp hv
    have hcreached := Search.reached_of_mem_trace hg hseed hc
    have hctrail : c.trail ≠ [] := by
      rw [Ne, hcreached.trail_eq_nil_iff hg, ht, ← hreached.trail_eq_nil_iff hg₁]
      exact htrail
    refine ⟨pathFinding s'.graph seed c.trail c.function.id hit applied, ?_, rfl, ?_⟩
    · rw [Search.met, if_pos (h.modules _ hopen)]
      refine List.mem_flatMap.mpr ⟨c, hc, PathState.mem_sinkFindings.mpr
        ⟨hctrail, hit, hf ▸ hhit, applied, ht ▸ happlied, ?_, rfl⟩⟩
      rw [h.graph]
      exact hcov
    · rw [hopCount_pathFinding, hopCount_pathFinding]
      exact hle
  · exact absurd hv List.not_mem_nil

/-- What the first search reports the second reports too, with no more hops, if time does not run
out. -/
theorem findings (hg : s'.graph.WellFormed) (hclock : s.clock.Unexpired)
    (hclock' : s'.clock.Unexpired) {v : Finding} (hv : v ∈ s.run.findings) :
    ∃ w ∈ s'.run.findings, (w.source.location.same v.source.location = true ∧
      w.sink.location.same v.sink.location = true) ∧ w.hopCount ≤ v.hopCount := by
  rw [Search.run_findings hclock, mem_values_keptOf] at hv
  obtain ⟨seed, hseed, hmet⟩ := List.mem_flatMap.mp (mem_of_get?_keptOf hv).1
  rw [← h.graph] at hseed
  obtain ⟨u, hu, hkey, hle⟩ := h.met hg (hg.of_mem_seeds hseed).1 hmet
  obtain ⟨w, hw, hends, hle', _⟩ :=
    Search.exists_best hclock' (List.mem_flatMap.mpr ⟨seed, hseed, hu⟩)
  refine ⟨w, hw, ?_, Nat.le_trans hle' hle⟩
  rw [← Finding.compare_key_eq_iff] at hends ⊢
  rw [← hkey]
  exact hends

end Wider

/-! ## 3. Raising a cap -/

/-- One cap allows no more than another. No cap allows everything. -/
def Limits.CapLe : (c c' : Option Nat) → Prop
  | _, none => True
  | none, some _ => False
  | some n, some n' => n ≤ n'

instance : (c c' : Option Nat) → Decidable (Limits.CapLe c c')
  | none, none => isTrue trivial
  | some _, none => isTrue trivial
  | none, some _ => isFalse id
  | some n, some n' => inferInstanceAs (Decidable (n ≤ n'))

/-- A search under a larger cap may enter more modules. -/
theorem Search.wider_of_capLe (g : CallGraph) (limits : Limits) (clock : Clock) {c c' : Option Nat}
    (hc : Limits.CapLe c c') :
    Wider (ofLimits g { limits with maxModules := c } clock)
      (ofLimits g { limits with maxModules := c' } clock) := by
  refine ⟨rfl, fun _ h => h, fun m hm => ?_⟩
  cases c' with
  | none => rfl
  | some n' =>
    cases c with
    | none => exact hc.elim
    | some n =>
      have hin : m ∈ admittedModules g n := SortedSet.contains_iff.mp hm
      exact SortedSet.contains_iff.mpr (admittedModules_mono g hc hin)

/-- **Raising the cap on modules never loses a finding**, whatever the depth and on a clock that does
not run out: for every finding under the smaller cap there is one between the same places under the
larger, and it has no more hops. -/
theorem larger_cap_keeps_findings {modules : ModuleGraph} {facts : List FunctionFacts}
    {registry : Registry} {g : CallGraph} (hg : CallGraph.build modules facts registry = .ok g)
    (limits : Limits) {clock : Clock} (hclock : clock.Unexpired) {c c' : Option Nat}
    (hc : Limits.CapLe c c') :
    ∃ fewer more, propagateWith g { limits with maxModules := c } clock = .ok fewer ∧
      propagateWith g { limits with maxModules := c' } clock = .ok more ∧
      ∀ v ∈ fewer.findings, ∃ w ∈ more.findings,
        w.source.location.same v.source.location = true ∧
          w.sink.location.same v.sink.location = true ∧ w.hopCount ≤ v.hopCount := by
  have hwell := CallGraph.build_wellFormed hg
  refine ⟨_, _, propagateWith_eq hwell _ clock, propagateWith_eq hwell _ clock, fun v hv => ?_⟩
  obtain ⟨w, hw, hends, hle⟩ :=
    (Search.wider_of_capLe g limits clock hc).findings hwell hclock hclock hv
  exact ⟨w, hw, hends.1, hends.2, hle⟩

theorem small_larger_cap :
    ∃ fewer more,
      propagateWith SmallProject.graph { (default : Limits) with maxModules := some 1 }
        (fun _ => false) = .ok fewer ∧
      propagateWith SmallProject.graph { (default : Limits) with maxModules := some 2 }
        (fun _ => false) = .ok more ∧
      fewer.findings ≠ [] ∧ ∀ v ∈ fewer.findings, ∃ w ∈ more.findings,
        w.source.location.same v.source.location = true ∧
          w.sink.location.same v.sink.location = true ∧ w.hopCount ≤ v.hopCount := by
  have hwell := CallGraph.build_wellFormed SmallProject.build_eq
  have hclock : Clock.Unexpired fun _ => false := fun _ => rfl
  have hc : Limits.CapLe (some 1) (some 2) := by decide
  obtain ⟨fewer, more, hfewer, hmore, hall⟩ :=
    larger_cap_keeps_findings SmallProject.build_eq default hclock hc
  refine ⟨fewer, more, hfewer, hmore, ?_, hall⟩
  rw [propagateWith_eq hwell, ← Search.run_eq_of_room hwell default (by decide)] at hfewer
  cases hfewer
  obtain ⟨v, hv⟩ := SmallProject.exists_finding
  exact List.ne_nil_of_mem hv

end TaintFlow
