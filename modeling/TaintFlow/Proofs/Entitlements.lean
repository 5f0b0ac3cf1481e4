import TaintFlow.CommandLine.Run
import TaintFlow.Proofs.ModuleCap

/-!
# What a tier entitles to binds

Limits are asked for on the command line and in the settings, lowered to what the tier entitles to,
and then kept by the search.

* A request that is lowered gives the largest limits that allow no more than was asked for and no more
  than the tier entitles to (`Limits.atMost_clampTo_iff`). No cap counts as infinite.
* A search keeps its limits: no finding has more hops than the depth (`Reached.length_trail_le`), the
  modules it entered are admitted ones, and every hop that it reports lies in a module that it entered
  (`Search.run_entered`).

Together no scan goes beyond its tier, on whatever project (`entitlements_bind`).
-/

namespace TaintFlow

/-! ## 1. Lowering a request -/

namespace Limits

theorem capLe_refl (c : Option Nat) : CapLe c c := by
  cases c with
  | none => trivial
  | some n => exact Nat.le_refl n

theorem capLe_trans {a b c : Option Nat} (h : CapLe a b) (h' : CapLe b c) : CapLe a c := by
  cases c with
  | none => trivial
  | some n =>
    cases b with
    | none => exact h'.elim
    | some m =>
      cases a with
      | none => exact h.elim
      | some k => exact Nat.le_trans h h'

/-- The lower of two caps is the largest that is below both. -/
theorem capLe_clampCap_iff {c requested allowed : Option Nat} :
    CapLe c (clampCap requested allowed) ↔ CapLe c requested ∧ CapLe c allowed := by
  cases requested with
  | none => exact (and_iff_right trivial).symm
  | some r =>
    cases allowed with
    | none => exact (and_iff_left trivial).symm
    | some a =>
      cases c with
      | none => exact (and_self_iff (a := False)).symm
      | some n => exact Nat.le_min

/-- Limits allow no more than others: no more calls on a path, no more modules, no more time. -/
structure AtMost (l m : Limits) : Prop where
  depth : CapLe l.maxDepth m.maxDepth
  modules : CapLe l.maxModules m.maxModules
  time : l.timeout.nanoseconds ≤ m.timeout.nanoseconds

/-- Limits allow no more than was asked for. Where nothing was asked for, anything goes. -/
structure Honours (l : Limits) (r : RequestedLimits) : Prop where
  depth : CapLe l.maxDepth r.maxDepth
  modules : CapLe l.maxModules r.maxModules
  time : ∀ t, r.timeout = some t → l.timeout.nanoseconds ≤ t.nanoseconds

theorem AtMost.refl (l : Limits) : l.AtMost l := ⟨capLe_refl _, capLe_refl _, Nat.le_refl _⟩

theorem le_timeout_clampTo_iff {n : Nat} {allowed : Limits} {requested : RequestedLimits}
    {tier : Tier} :
    n ≤ (clampTo requested tier allowed).timeout.nanoseconds ↔
      (∀ t, requested.timeout = some t → n ≤ t.nanoseconds) ∧ n ≤ allowed.timeout.nanoseconds := by
  rw [clampTo]
  cases requested.timeout with
  | none => exact (and_iff_right fun _ h => by cases h).symm
  | some t =>
    have hmin : n ≤ (t.min allowed.timeout).nanoseconds ↔
        n ≤ t.nanoseconds ∧ n ≤ allowed.timeout.nanoseconds := Nat.le_min
    simpa using hmin

/-- **A lowered request is the most that was asked for and is allowed.** -/
theorem atMost_clampTo_iff {l allowed : Limits} {requested : RequestedLimits} {tier : Tier} :
    l.AtMost (clampTo requested tier allowed) ↔ l.Honours requested ∧ l.AtMost allowed := by
  constructor
  · rintro ⟨hdepth, hmodules, htime⟩
    obtain ⟨hd, hd'⟩ := capLe_clampCap_iff.mp hdepth
    obtain ⟨hm, hm'⟩ := capLe_clampCap_iff.mp hmodules
    obtain ⟨ht, ht'⟩ := le_timeout_clampTo_iff.mp htime
    exact ⟨⟨hd, hm, ht⟩, ⟨hd', hm', ht'⟩⟩
  · rintro ⟨⟨hd, hm, ht⟩, ⟨hd', hm', ht'⟩⟩
    exact ⟨capLe_clampCap_iff.mpr ⟨hd, hd'⟩, capLe_clampCap_iff.mpr ⟨hm, hm'⟩,
      le_timeout_clampTo_iff.mpr ⟨ht, ht'⟩⟩

end Limits

namespace CommandLine

/-- The tier of a scan. -/
def effectiveTier (o : ScanOptions) (s : Settings) : Tier := (o.tier.or s.tier).getD .community

/-- What is asked for: on the command line or, where that says nothing, in the settings. -/
def askedLimits (o : ScanOptions) (s : Settings) : RequestedLimits where
  maxDepth := o.limits.maxDepth.or s.maxDepth
  maxModules := o.limits.maxModules.or s.maxModules
  timeout := o.limits.timeout.or (s.timeout.map .ofSeconds)

/-- The limits of a scan are the most that was asked for and that its tier entitles to. -/
theorem atMost_effectiveLimits_iff {l : Limits} {o : ScanOptions} {s : Settings} :
    l.AtMost (effectiveLimits o s) ↔
      l.Honours (askedLimits o s) ∧ l.AtMost (.entitlement (effectiveTier o s)) :=
  Limits.atMost_clampTo_iff

end CommandLine

/-! ## 2. The depth of what is found -/

/-- A search goes no deeper than it may. -/
theorem Reached.length_trail_le {s : Search} {seed : Seed} {st : PathState} (h : Reached s seed st) :
    Limits.CapLe (some st.trail.length) s.maxDepth := by
  cases hmax : s.maxDepth with
  | none => trivial
  | some most =>
    cases h with
    | start => exact Nat.zero_le most
    | move h hm =>
      have hallowed := (List.mem_filter.mp hm).2
      rw [Search.allows, Bool.and_eq_true, Bool.not_eq_true', Search.tooDeep, hmax] at hallowed
      exact Nat.le_of_not_lt (of_decide_eq_false hallowed.1)

/-- No finding has more hops than the depth allows. -/
theorem Search.hopCount_le {s : Search} {v : Finding} (h : v ∈ s.run.findings) :
    Limits.CapLe (some v.hopCount) s.maxDepth := by
  obtain ⟨seed, _, st, hst, hv⟩ := reached_of_mem_findings h
  rw [PathState.hopCount_of_mem_sinkFindings hv]
  exact hst.length_trail_le

/-! ## 3. The modules of what is found -/

/-- The modules on the way to a state were entered: that of the source hit, those at either end of
every step, and that of the state itself. -/
structure Entered (seed : Seed) (p : Progress) (st : PathState) : Prop where
  source : seed.function.id.module ∈ p.modules
  trail : ∀ step ∈ st.trail, step.origin.module ∈ p.modules ∧ step.target.module ∈ p.modules
  here : st.function.id.module ∈ p.modules

theorem Entered.mono {seed : Seed} {p p' : Progress} {st : PathState} (h : Entered seed p st)
    (hsub : ∀ m ∈ p.modules, m ∈ p'.modules) : Entered seed p' st :=
  ⟨hsub _ h.source, fun step hstep => ⟨hsub _ (h.trail step hstep).1, hsub _ (h.trail step hstep).2⟩,
    hsub _ h.here⟩

/-- A move goes on from what was entered. -/
theorem Entered.move {g : CallGraph} (hg : g.WellFormed) {seed : Seed} {p : Progress}
    {st st' : PathState} (h : Entered seed p st) (hm : st' ∈ st.moves g)
    (hin : st'.function.id.module ∈ p.modules) : Entered seed p st' := by
  obtain ⟨step, htrail, _, horigin, htarget, _⟩ := PathState.step_of_move hg hm
  refine ⟨h.source, fun step' hstep' => ?_, hin⟩
  rw [htrail] at hstep'
  rcases List.mem_append.mp hstep' with hold | hnew
  · exact h.trail step' hold
  · rw [List.mem_singleton.mp hnew, horigin, ← hg.facts?_id htarget]
    exact ⟨h.here, hin⟩

/-- The hops of a path lie in the function of the source hit, at either end of a step, or in the
function where the path ends. -/
theorem mem_pathHops {seed : Seed} {trail : List Step} {id : FunctionId} {hit : SinkHit}
    {inForce : Sanitizers} {hop : Hop} (h : hop ∈ pathHops seed trail id hit inForce) :
    hop.function = seed.function.id ∨ hop.function = id ∨
      ∃ step ∈ trail, hop.function = step.origin ∨ hop.function = step.target := by
  rw [pathHops, List.mem_append, List.mem_append, List.mem_cons, List.mem_flatMap, List.mem_map,
    List.mem_singleton] at h
  rcases h with ((rfl | ⟨step, hstep, hhop⟩) | ⟨name, _, rfl⟩) | rfl
  · exact Or.inl rfl
  · refine Or.inr (Or.inr ⟨step, hstep, ?_⟩)
    rw [Step.hops, List.mem_append, List.mem_map, List.mem_singleton] at hhop
    rcases hhop with ⟨name, _, rfl⟩ | rfl
    · exact Or.inl rfl
    · exact Or.inr rfl
  · exact Or.inr (Or.inl rfl)
  · exact Or.inr (Or.inl rfl)

/-- The hops of a finding lie in modules that were entered on the way to it. -/
theorem Entered.hops {g : CallGraph} {seed : Seed} {p : Progress} {st : PathState} {v : Finding}
    (h : Entered seed p st) (hv : v ∈ st.sinkFindings g seed) :
    ∀ hop ∈ v.hops, hop.function.module ∈ p.modules := by
  obtain ⟨_, hit, _, applied, _, _, rfl⟩ := PathState.mem_sinkFindings.mp hv
  intro hop hhop
  rcases mem_pathHops hhop with e | e | ⟨step, hstep, e | e⟩
  · exact e ▸ h.source
  · exact e ▸ h.here
  · exact e ▸ (h.trail step hstep).1
  · exact e ▸ (h.trail step hstep).2

section Modules

variable {s : Search}

/-- An event enters the module of the state that it leads to, and no other. -/
theorem Event.mem_modules_perform (ev : Event) {acc : Progress × List PathState}
    (h : acc.1.Within s) {m : String} : m ∈ (ev.perform s acc).1.modules ↔
      m ∈ acc.1.modules ∨ ∃ st ∈ ev.move?.toList.filter s.allows, m = st.function.id.module := by
  cases ev with
  | explored => exact (or_iff_left fun ⟨_, hst, _⟩ => absurd hst List.not_mem_nil).symm
  | sanitized count => exact (or_iff_left fun ⟨_, hst, _⟩ => absurd hst List.not_mem_nil).symm
  | finding v =>
    show m ∈ (acc.1.addFinding v).modules ↔ _
    rw [Progress.addFinding_eq]
    exact (or_iff_left fun ⟨_, hst, _⟩ => absurd hst List.not_mem_nil).symm
  | move st =>
    have hallowed : (∃ st' ∈ (Event.move st).move?.toList.filter s.allows,
        m = st'.function.id.module) ↔ (s.tooDeep st.trail.length = false ∧
          s.admits st.function.id.module = true) ∧ m = st.function.id.module := by
      simp [move?, Search.allows]
    rw [hallowed, perform]
    cases hdeep : s.tooDeep st.trail.length with
    | true => simp [Progress.cutDepth]
    | false =>
      rw [if_neg Bool.false_ne_true, Progress.enter_eq h]
      cases hopen : s.admits st.function.id.module with
      | true => simp [SortedSet.mem_insert, or_comm]
      | false => simp

/-- Every hop of what was found lies in a module that was entered, and only admitted modules were. -/
def Progress.FoundEntered (s : Search) (p : Progress) : Prop :=
  p.Within s ∧ ∀ k v, p.found.get? k = some v → ∀ hop ∈ v.hops, hop.function.module ∈ p.modules

/-- **A search enters the modules on the way to whatever waits or was found.** -/
theorem Search.keeps_entered (hg : s.graph.WellFormed) (seed : Seed) :
    s.Keeps seed (Progress.FoundEntered s) (Entered seed) where
  look _ hp := hp
  lookKnown _ _ hst := hst.mono fun _ hm => hm
  enter p hp := by
    rcases p.enter_cases s seed.function.id.module with ⟨_, he⟩ | ⟨_, he⟩
    · rw [he]
      exact ⟨hp, fun h => absurd h Bool.false_ne_true⟩
    · have hwithin := Progress.within_enter hp.1 seed.function.id.module
      rw [he] at hwithin ⊢
      have hin : seed.function.id.module ∈ p.modules.insert seed.function.id.module :=
        SortedSet.mem_insert.mpr (Or.inl rfl)
      refine ⟨⟨hwithin, fun k v hv hop hhop => ?_⟩, fun _ => ⟨hin, ?_, hin⟩⟩
      · exact SortedSet.mem_insert.mpr (Or.inr (hp.2 k v hv hop hhop))
      · exact fun step hstep => absurd hstep List.not_mem_nil
  event st ev hev acc hacc hst := by
    obtain ⟨hadded, hfound, hwithin⟩ := ev.perform_adds hacc.1
    have hgrows : ∀ m ∈ acc.1.modules, m ∈ (ev.perform s acc).1.modules := fun m hm =>
      (ev.mem_modules_perform hacc.1).mpr (Or.inl hm)
    have hst' := hst.mono hgrows
    refine ⟨⟨hwithin, fun k v hv => ?_⟩, fun st₁ hst₁ => ?_⟩
    · -- it was found before, or at this state
      rw [hfound, get?_foldl_keepBest] at hv
      rcases mem_of_foldl_better hv with hv | hv
      · exact fun hop hhop => hgrows _ (hacc.2 k v hv hop hhop)
      · refine hst'.hops (g := s.graph) ?_
        rw [← PathState.filterMap_finding?_events]
        exact List.mem_filterMap.mpr ⟨ev, hev, Option.mem_toList.mp (List.mem_filter.mp hv).1⟩
    · rw [hadded] at hst₁
      refine (List.mem_append.mp hst₁).imp_right fun hnew => hst'.move hg ?_ ?_
      · rw [← PathState.filterMap_move?_events s.graph seed st]
        exact List.mem_filterMap.mpr ⟨ev, hev, Option.mem_toList.mp (List.mem_filter.mp hnew).1⟩
      · exact (ev.mem_modules_perform hacc.1).mpr (Or.inr ⟨st₁, hnew, rfl⟩)
  eventKnown ev acc st hacc hst := hst.mono fun m hm =>
    (ev.mem_modules_perform hacc.1).mpr (Or.inl hm)

theorem Search.run_entered (hg : s.graph.WellFormed) :
    ∃ p : Progress, s.run = p.outcome ∧ p.FoundEntered s :=
  run_keeps ⟨Progress.within_empty s, fun _ _ h => by cases h⟩ fun seed _ =>
    ⟨_, keeps_entered hg seed⟩

end Modules

/-- The modules of all hops that an outcome reports. -/
def Outcome.hopModules (o : Outcome) : SortedSet String :=
  .ofList (o.findings.flatMap fun v => v.hops.map fun h => h.function.module)

/-- The hops of an outcome lie in at most as many modules as were visited. -/
theorem Search.hopModules_size_le {s : Search} (hg : s.graph.WellFormed) :
    s.run.hopModules.size ≤ s.run.modulesVisited := by
  obtain ⟨p, hrun, _, hfound⟩ := Search.run_entered hg
  rw [hrun]
  refine SortedSet.size_le_size fun m hm => ?_
  obtain ⟨v, hv, hm⟩ := List.mem_flatMap.mp (SortedSet.mem_ofList.mp hm)
  obtain ⟨hop, hhop, rfl⟩ := List.mem_map.mp hm
  obtain ⟨k, hk⟩ := SortedMap.mem_values_iff.mp hv
  exact hfound k v hk hop hhop

/-- A search visits no more modules than its limits say. -/
theorem Search.modulesVisited_le {g : CallGraph} (hg : g.WellFormed) (limits : Limits)
    (clock : Clock) :
    Limits.CapLe (some (ofLimits g limits clock).run.modulesVisited) limits.maxModules := by
  obtain ⟨p, hrun, hwithin, _⟩ := Search.run_entered (s := ofLimits g limits clock) hg
  cases hmax : limits.maxModules with
  | none => trivial
  | some cap =>
    have hsub : ∀ m ∈ p.modules, m ∈ admittedModules g cap := by
      intro m hm
      have hopen := hwithin m hm
      rw [ofLimits, admits, hmax] at hopen
      exact SortedSet.contains_iff.mp hopen
    rw [hrun]
    exact Nat.le_trans (SortedSet.size_le_size hsub) (admittedModules_size_le g cap)

/-! ## 4. The whole way -/

open CommandLine (ScanOptions effectiveLimits effectiveTier askedLimits) in
/-- **Entitlements bind from the command line to the findings.** For any options and settings the
limits of a scan allow no more than the tier entitles to and no more than was asked for, and they are
the largest such limits. On the graph of any project a search within them reports no path with more
hops than the tier's depth, visits no more modules than the tier's cap, and all reported hops together
lie in no more modules than were visited, however early the clock stops it. -/
theorem entitlements_bind (o : ScanOptions) (s : Settings) (modules : ModuleGraph)
    (facts : List FunctionFacts) (registry : Registry) (clock : Clock) :
    ((effectiveLimits o s).AtMost (.entitlement (effectiveTier o s)) ∧
      (effectiveLimits o s).Honours (askedLimits o s) ∧
      ∀ l : Limits, l.AtMost (.entitlement (effectiveTier o s)) → l.Honours (askedLimits o s) →
        l.AtMost (effectiveLimits o s)) ∧
    ∃ g outcome, CallGraph.build modules facts registry = .ok g ∧
      propagateWith g (effectiveLimits o s) clock = .ok outcome ∧
      (∀ v ∈ outcome.findings,
        Limits.CapLe (some v.hopCount) (Limits.entitlement (effectiveTier o s)).maxDepth) ∧
      Limits.CapLe (some outcome.modulesVisited)
        (Limits.entitlement (effectiveTier o s)).maxModules ∧
      outcome.hopModules.size ≤ outcome.modulesVisited := by
  obtain ⟨hasked, htier⟩ :=
    CommandLine.atMost_effectiveLimits_iff.mp (Limits.AtMost.refl (effectiveLimits o s))
  refine ⟨⟨htier, hasked, fun l hl hl' =>
    CommandLine.atMost_effectiveLimits_iff.mpr ⟨hl', hl⟩⟩, ?_⟩
  obtain ⟨g, hg⟩ := CallGraph.exists_build modules facts registry
  have hwell := CallGraph.build_wellFormed hg
  refine ⟨g, _, hg, propagateWith_eq hwell _ clock, fun v hv => ?_, ?_, ?_⟩
  · exact Limits.capLe_trans (Search.hopCount_le hv) htier.depth
  · exact Limits.capLe_trans (Search.modulesVisited_le hwell _ clock) htier.modules
  · exact Search.hopModules_size_le hwell

end TaintFlow
