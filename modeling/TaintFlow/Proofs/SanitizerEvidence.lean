import TaintFlow.Proofs.Exposure

/-!
# The sanitizers that a finding shows

A finding lists the sanitizers on its data twice: as a set, and as hops where they were met. The set
comes out of intersections and unions along the way, while a hop is shown if its step noted the name
and the name is still in force at the end. Both come to the same (`sanitizer_evidence_complete`).

A call notes the sanitizers of every argument that carries taint (`mem_applied_arriving`), a return
those of what is returned. Intersections only take names away. So whatever protects a tainted origin
was noted by some step of the trail (`Reached.evidenced`).
-/

namespace TaintFlow

/-! ## 1. What a call notes -/

/-- Whether an edge carries taint in an argument with this label: a bound one or, in a spread call, an
unbound one. -/
def CallEdge.Carries (e : CallEdge) (t : Tainted) (l : Label) : Prop :=
  ((∃ b ∈ e.bindings, b.label = l) ∨ (e.dynamic = true ∧ l ∈ e.unbound)) ∧
    (t.carried? l).isSome = true

namespace Inflow

variable {t : Tainted} {name : String}

theorem mem_applied_addBinding {f : Inflow} {b : Binding} :
    name ∈ (addBinding t f b).applied ↔ name ∈ f.applied ∨
      ((t.carried? b.label).isSome = true ∧ name ∈ b.label.sanitizers) := by
  rw [addBinding]
  cases t.carried? b.label with
  | none => simp
  | some s => simp

theorem mem_applied_foldl_addBinding {f : Inflow} {bindings : List Binding} :
    name ∈ (bindings.foldl (addBinding t) f).applied ↔ name ∈ f.applied ∨
      ∃ b ∈ bindings, (t.carried? b.label).isSome = true ∧ name ∈ b.label.sanitizers := by
  induction bindings generalizing f with
  | nil => simp
  | cons b bindings ih =>
    rw [List.foldl_cons, ih, mem_applied_addBinding, or_assoc]
    simp only [List.mem_cons, exists_eq_or_imp]

theorem mem_foldl_union {labels : List Label} {s : Sanitizers} :
    name ∈ labels.foldl (fun a l => a.union l.sanitizers) s ↔
      name ∈ s ∨ ∃ l ∈ labels, name ∈ l.sanitizers := by
  induction labels generalizing s with
  | nil => simp
  | cons l labels ih =>
    rw [List.foldl_cons, ih, SortedSet.mem_union, or_assoc]
    simp only [List.mem_cons, exists_eq_or_imp]

theorem mem_applied_addSpread {callee : FunctionFacts} {unbound : List Label} {f : Inflow} :
    name ∈ (addSpread t callee unbound f).applied ↔ name ∈ f.applied ∨
      ∃ l ∈ unbound, (t.carried? l).isSome = true ∧ name ∈ l.sanitizers := by
  have hlanding : (∃ l ∈ unbound.filter fun l => (t.carried? l).isSome, name ∈ l.sanitizers) ↔
      ∃ l ∈ unbound, (t.carried? l).isSome = true ∧ name ∈ l.sanitizers := by
    simp only [List.mem_filter, and_assoc]
  rw [← hlanding, addSpread]
  dsimp only
  split
  · rename_i hnone
    -- no unbound argument carries taint
    have hempty : ∀ l, l ∉ unbound.filter fun l => (t.carried? l).isSome := by
      intro l hl
      obtain ⟨s, hs⟩ := Option.isSome_iff_exists.mp (List.mem_filter.mp hl).2
      have hmem := List.mem_filterMap.mpr ⟨l, hl, hs⟩
      rw [hnone] at hmem
      exact absurd hmem List.not_mem_nil
    refine (or_iff_left fun hsome => ?_).symm
    obtain ⟨l, hl, _⟩ := hsome
    exact hempty l hl
  · exact mem_foldl_union

end Inflow

/-- **A call notes the sanitizers of every argument that carries taint**, and no others. -/
theorem mem_applied_arriving {e : CallEdge} {callee : FunctionFacts} {t : Tainted} {name : String} :
    name ∈ (arriving e callee t).applied ↔ ∃ l, e.Carries t l ∧ name ∈ l.sanitizers := by
  have hbound : name ∈ (Inflow.ofBindings t e.bindings).applied ↔
      ∃ b ∈ e.bindings, (t.carried? b.label).isSome = true ∧ name ∈ b.label.sanitizers := by
    rw [Inflow.ofBindings, Inflow.mem_applied_foldl_addBinding]
    exact or_iff_right List.not_mem_nil
  have hsplit : (∃ l, e.Carries t l ∧ name ∈ l.sanitizers) ↔
      (∃ b ∈ e.bindings, (t.carried? b.label).isSome = true ∧ name ∈ b.label.sanitizers) ∨
        (e.dynamic = true ∧
          ∃ l ∈ e.unbound, (t.carried? l).isSome = true ∧ name ∈ l.sanitizers) := by
    constructor
    · rintro ⟨l, ⟨⟨b, hb, rfl⟩ | ⟨hd, hl⟩, hcarried⟩, hname⟩
      · exact Or.inl ⟨b, hb, hcarried, hname⟩
      · exact Or.inr ⟨hd, l, hl, hcarried, hname⟩
    · rintro (⟨b, hb, hcarried, hname⟩ | ⟨hd, l, hl, hcarried, hname⟩)
      · exact ⟨b.label, ⟨Or.inl ⟨b, hb, rfl⟩, hcarried⟩, hname⟩
      · exact ⟨l, ⟨Or.inr ⟨hd, hl⟩, hcarried⟩, hname⟩
  rw [hsplit, arriving]
  by_cases hd : e.dynamic = true
  · rw [if_pos hd, Inflow.mem_applied_addSpread, hbound]
    simp only [hd, true_and]
  · rw [if_neg hd, hbound]
    exact (or_iff_left fun h => hd h.1).symm

/-- What protects a parameter at its arrival protected a tainted origin before, or the call notes
it. -/
theorem mem_of_mem_arriving {e : CallEdge} {callee : FunctionFacts} {t : Tainted} {o : Origin}
    {m : Sanitizers} {name : String} (h : (arriving e callee t).tainted.get? o = some m)
    (hname : name ∈ m) :
    (∃ o' s, t.get? o' = some s ∧ name ∈ s) ∨ name ∈ (arriving e callee t).applied := by
  obtain ⟨p, l, _, hbrings, o', ho', s, hs, hsub⟩ := brings_of_arriving h
  rcases SortedSet.mem_union.mp (hsub name hname) with hold | hnew
  · exact Or.inl ⟨o', s, hs, hold⟩
  · refine Or.inr (mem_applied_arriving.mpr ⟨l, ⟨?_, ?_⟩, hnew⟩)
    · exact hbrings.imp (fun hb => ⟨_, hb, rfl⟩) fun ⟨hd, hl, _⟩ => ⟨hd, hl⟩
    · obtain ⟨c, hc, _⟩ := Tainted.carried?_of_mem ho' hs
      rw [hc]
      rfl

/-! ## 2. What the steps of a path note -/

/-- Whatever protects a tainted origin was noted by some step. -/
def PathState.Evidenced (st : PathState) : Prop :=
  ∀ o m, st.tainted.get? o = some m → ∀ name ∈ m, ∃ step ∈ st.trail, name ∈ step.applied

/-- A move keeps the evidence: what is new it notes itself. -/
theorem PathState.Evidenced.move {g : CallGraph} {st st' : PathState} (hg : g.WellFormed)
    (h : st.Evidenced) (hm : st' ∈ st.moves g) : st'.Evidenced := by
  intro o m hget name hname
  rcases List.mem_append.mp hm with hm | hm
  · obtain ⟨e, _, hmove⟩ := List.mem_filterMap.mp hm
    obtain ⟨callee, _, _, rfl⟩ := (callMove?_eq_some_iff hg).mp hmove
    rw [flowInto_get?] at hget
    rcases mem_of_mem_arriving (Option.filter_eq_some_iff.mp hget).1 hname with
      ⟨o', s, hs, hold⟩ | hnew
    · obtain ⟨step, hstep, happlied⟩ := h o' s hs name hold
      exact ⟨step, List.mem_append_left _ hstep, happlied⟩
    · exact ⟨_, List.mem_append_right _ (List.mem_singleton.mpr rfl), hnew⟩
  · obtain ⟨e, caller, sanitizers, he, hcallee, hcaller, hreturned, _, rfl⟩ :=
      mem_returnMoves_iff.mp hm
    rw [SortedMap.get?_singleton] at hget
    split at hget
    · cases hget
      obtain ⟨o', s, _, hs, hsub⟩ := step_of_returned? he hcallee hcaller hreturned
      rcases SortedSet.mem_union.mp (hsub name hname) with hold | hnew
      · obtain ⟨step, hstep, happlied⟩ := h o' s hs name hold
        exact ⟨step, List.mem_append_left _ hstep, happlied⟩
      · exact ⟨_, List.mem_append_right _ (List.mem_singleton.mpr rfl), hnew⟩
    · cases hget

/-- **Whatever protects a tainted origin was noted on the way to it.** -/
theorem Reached.evidenced {s : Search} {seed : Seed} {st : PathState} (hg : s.graph.WellFormed)
    (h : Reached s seed st) : st.Evidenced := by
  induction h with
  | start =>
    intro o m hget name hname
    rw [PathState.get?_start] at hget
    split at hget
    · cases hget
      exact absurd hname List.not_mem_nil
    · cases hget
  | move _ hm ih => exact ih.move hg (PathState.mem_moves_of_mem_next hm)

/-! ## 3. What a finding shows -/

/-- The texts on the sanitizer hops of a finding. -/
def Finding.ShowsSanitizer (v : Finding) (detail : Option String) : Prop :=
  ∃ hop ∈ v.hops, hop.kind = .sanitizer ∧ hop.detail = detail

/-- The hops of a path show what its steps noted and is still in force, and what is on the sink's own
label. -/
theorem showsSanitizer_pathFinding {g : CallGraph} {seed : Seed} {trail : List Step}
    {id : FunctionId} {hit : SinkHit} {inForce : Sanitizers} {detail : Option String} :
    (pathFinding g seed trail id hit inForce).ShowsSanitizer detail ↔
      ∃ name, detail = some name ∧
        ((name ∈ inForce ∧ ∃ step ∈ trail, name ∈ step.applied) ∨ name ∈ hit.label.sanitizers) := by
  constructor
  · rintro ⟨hop, hhop, hkind, rfl⟩
    rw [show (pathFinding g seed trail id hit inForce).hops = pathHops seed trail id hit inForce
      from rfl, pathHops, List.mem_append, List.mem_append, List.mem_cons, List.mem_flatMap,
      List.mem_map, List.mem_singleton] at hhop
    rcases hhop with ((rfl | ⟨step, hstep, hhop⟩) | ⟨name, hname, rfl⟩) | rfl
    · cases hkind
    · rw [Step.hops, List.mem_append, List.mem_map, List.mem_singleton] at hhop
      rcases hhop with ⟨name, hname, rfl⟩ | rfl
      · obtain ⟨happlied, hforce⟩ := SortedSet.mem_filter.mp hname
        exact ⟨name, rfl, Or.inl ⟨SortedSet.contains_iff.mp hforce, step, hstep, happlied⟩⟩
      · have hmoves := step.isStep_kind
        rw [show step.kind = .sanitizer from hkind] at hmoves
        cases hmoves
    · exact ⟨name, rfl, Or.inr hname⟩
    · cases hkind
  · rintro ⟨name, rfl, ⟨hforce, step, hstep, happlied⟩ | hname⟩
    · refine ⟨⟨step.origin, step.edge.location, .sanitizer, some name⟩, ?_, rfl, rfl⟩
      refine List.mem_append_left _ (List.mem_append_left _ (List.mem_cons_of_mem _
        (List.mem_flatMap.mpr ⟨step, hstep, List.mem_append_left _ (List.mem_map.mpr
          ⟨name, SortedSet.mem_filter.mpr ⟨happlied, SortedSet.contains_iff.mpr hforce⟩, rfl⟩)⟩)))
    · refine ⟨⟨id, hit.location, .sanitizer, some name⟩, ?_, rfl, rfl⟩
      exact List.mem_append_left _ (List.mem_append_right _ (List.mem_map.mpr ⟨name, hname, rfl⟩))

/-- **Sanitizer evidence is complete.** On the graph of any project, whatever the limits and the clock,
the texts on the sanitizer hops of a finding are exactly the sanitizers that it lists. -/
theorem sanitizer_evidence_complete {modules : ModuleGraph} {facts : List FunctionFacts}
    {registry : Registry} {g : CallGraph} (hg : CallGraph.build modules facts registry = .ok g)
    (limits : Limits) (clock : Clock) :
    ∃ outcome, propagateWith g limits clock = .ok outcome ∧ ∀ v ∈ outcome.findings, ∀ detail,
      v.ShowsSanitizer detail ↔ ∃ name ∈ v.sanitizers, detail = some name := by
  have hwell := CallGraph.build_wellFormed hg
  refine ⟨_, propagateWith_eq hwell limits clock, fun v hv detail => ?_⟩
  obtain ⟨seed, _, st, hst, hv⟩ := Search.reached_of_mem_findings hv
  obtain ⟨_, hit, _, applied, hcarried, _, rfl⟩ := PathState.mem_sinkFindings.mp hv
  obtain ⟨common, hcommon, rfl⟩ := Option.map_eq_some_iff.mp hcarried
  obtain ⟨o, _, m, hm, hsub⟩ := Tainted.exists_of_common? hcommon
  rw [showsSanitizer_pathFinding]
  constructor
  · rintro ⟨name, rfl, ⟨hforce, _⟩ | hname⟩
    · exact ⟨name, hforce, rfl⟩
    · exact ⟨name, SortedSet.mem_union.mpr (Or.inr hname), rfl⟩
  · rintro ⟨name, hname, rfl⟩
    refine ⟨name, rfl, (SortedSet.mem_union.mp hname).imp_left fun hin => ⟨hname, ?_⟩⟩
    exact hst.evidenced hwell o m hm name (hsub name hin)

/-- In the diamond both sinks get escaped text. -/
theorem Diamond.escaped {v : Finding} (hv : v ∈ search.run.findings) :
    "html.escape" ∈ v.sanitizers := by
  obtain ⟨seed, hseed, st, hst, hfinding⟩ := Search.reached_of_mem_findings hv
  obtain ⟨_, hit, hhit, applied, hcarried, _, rfl⟩ := PathState.mem_sinkFindings.mp hfinding
  have hlabel : "html.escape" ∈ hit.label.sanitizers := by
    rcases function_cases (hst.walk wellFormed (wellFormed.of_mem_seeds hseed).1).1 with hf | hf | hf | hf <;>
      rw [hf] at hhit
    · exact absurd hhit List.not_mem_nil
    · exact absurd hhit List.not_mem_nil
    · exact absurd hhit List.not_mem_nil
    · rcases List.mem_pair.mp hhit with rfl | rfl
      · exact List.mem_cons_self
      · exact List.mem_cons_self
  obtain ⟨common, _, rfl⟩ := Option.map_eq_some_iff.mp hcarried
  exact SortedSet.mem_union.mpr (Or.inr hlabel)

open Diamond in
theorem diamond_sanitizer_evidence :
    CallGraph.build ⟨∅⟩ [main, alpha, beta, run] {} = .ok graph ∧
      ∃ outcome, propagateWith graph default (fun _ => false) = .ok outcome ∧
      ∃ v ∈ outcome.findings, "html.escape" ∈ v.sanitizers ∧
        v.ShowsSanitizer (some "html.escape") ∧
        ∀ detail, v.ShowsSanitizer detail ↔ ∃ name ∈ v.sanitizers, detail = some name := by
  obtain ⟨outcome, hok, hall⟩ := sanitizer_evidence_complete build_eq default fun _ => false
  obtain ⟨v, hv, _⟩ := betaPath.exists_finding unlimited_search wellFormed fun _ => rfl
  have hmem : v ∈ outcome.findings := by
    rw [propagateWith_eq wellFormed] at hok
    cases hok
    exact hv
  refine ⟨build_eq, outcome, hok, v, hmem, escaped hv, ?_, hall v hmem⟩
  exact (hall v hmem _).mpr ⟨_, escaped hv, rfl⟩

end TaintFlow
