import TaintFlow.Proofs.FlowStep
import TaintFlow.Proofs.GroundedMarkers
import TaintFlow.Proofs.NotedFacts

/-!
# Sink hits and their call sites

The label of a dangerous argument is written down twice: in a sink hit and at a call site, the one
before and the other after the receiver of the call is looked at. Later the results of calls are put
into both, each on its own. The search reads the hits and the edges come from the sites, so the two
must not drift apart.

They do not. Whatever a walk notes, a hit has a site with the same place and the same labelled argument
(`Notes.hit_cases`); putting results in changes both copies alike, drops a hit exactly if no taint is
left in it, and sets its flag anew (`HitsInStep.substitute`, `filterMap_substitute?`). So in a
project whose facts were read from sources every hit is in step (`sink_hits_in_step`).
-/

namespace TaintFlow

/-! ## 1. Hits in step -/

/-- A hit that carries taint, and whose flag says whether a sanitizer on it covers the weakness. -/
structure SinkHit.Sound (registry : Registry) (h : SinkHit) : Prop where
  tainted : ∃ o, o ∈ h.label.origins
  flag : h.sanitized = true ↔ ∃ s ∈ h.label.sanitizers, registry.covers s h.sink.weakness = true

/-- A hit that stands at a call site: a sink is called there, at the same place, and the argument that
the hit names has the label of the hit. -/
structure SinkHit.StandsAt (h : SinkHit) (c : CallSite) : Prop where
  role : c.role = some .sink
  location : c.location = h.location
  argument : ∃ a ∈ c.args, a.position = h.argument ∧ a.label = h.label

/-- Whether every hit of a function is sound and stands at one of its call sites. -/
def FunctionFacts.HitsInStep (registry : Registry) (f : FunctionFacts) : Prop :=
  ∀ h ∈ f.sinkHits, h.Sound registry ∧ ∃ c ∈ f.calls, h.StandsAt c

/-! ## 2. Facts as noted -/

namespace Python

variable {cx : FactContext}

/-- The hits of a call are sound, and each names one of its arguments. -/
theorem LabelledCall.of_mem_sinkHits {c : LabelledCall} {h : SinkHit} (hh : h ∈ c.sinkHits cx) :
    h.Sound cx.registry ∧ h.location = c.location ∧
      (∃ a ∈ c.args, a.position = h.argument ∧ a.label = h.label) ∧
      ∃ sink, cx.registry.sink? c.shape = some sink := by
  rw [sinkHits] at hh
  cases hsink : cx.registry.sink? c.shape with
  | none =>
    rw [hsink] at hh
    cases hh
  | some sink =>
    rw [hsink] at hh
    obtain ⟨a, ha, rfl⟩ := List.mem_map.mp hh
    obtain ⟨hmem, hdanger⟩ := List.mem_filter.mp ha
    have hdirty : a.label.isClean = false := by
      rw [← Bool.not_eq_true']
      exact (Bool.and_eq_true_iff.mp hdanger).1
    exact ⟨⟨Label.isClean_eq_false_iff.mp hdirty, SortedSet.any_eq_true⟩, rfl, ⟨a, hmem, rfl, rfl⟩,
      sink, rfl⟩

/-- **A hit that was noted stands at a call site that was noted.** The induction is on what was noted:
the hits of a call come before its site, and the calls that come in between stay. -/
theorem Notes.hit_cases {f g : FunctionFacts} (h : Notes cx f g) :
    f.calls ⊆ g.calls ∧ ∀ hit ∈ g.sinkHits, hit ∈ f.sinkHits ∨
      (hit.Sound cx.registry ∧ ∃ c ∈ g.calls, hit.StandsAt c) := by
  induction h with
  | refl | source | sanitizer | returned => exact ⟨List.Subset.refl _, fun _ hhit => Or.inl hhit⟩
  | trans _ _ ihfg ihgh =>
    obtain ⟨hfg, hitsg⟩ := ihfg
    obtain ⟨hgh, hitsh⟩ := ihgh
    refine ⟨List.Subset.trans hfg hgh, fun hit hhit => ?_⟩
    rcases hitsh hit hhit with hg | hnew
    · rcases hitsg hit hg with hf | ⟨hsound, c, hc, hstands⟩
      · exact Or.inl hf
      · exact Or.inr ⟨hsound, c, hgh hc, hstands⟩
    · exact Or.inr hnew
  | @call f g c site hsite _ ih =>
    obtain ⟨hcalls, hhits⟩ := ih
    refine ⟨List.Subset.trans hcalls (List.subset_append_left _ _), fun hit hhit => ?_⟩
    rcases hhits hit hhit with hold | ⟨hsound, c', hc', hstands⟩
    · rcases List.mem_append.mp hold with hf | hown
      · exact Or.inl hf
      · obtain ⟨hsound, hlocation, hargument, sink, hsink⟩ := LabelledCall.of_mem_sinkHits hown
        have hstands : hit.StandsAt site :=
          ⟨hsite.role sink hsink, hsite.location.trans hlocation.symm, hsite.args ▸ hargument⟩
        exact Or.inr ⟨hsound, site, List.mem_append_right _ List.mem_cons_self, hstands⟩
    · exact Or.inr ⟨hsound, c', List.mem_append_left _ hc', hstands⟩

theorem hitsInStep_of_notes {f g : FunctionFacts} (hf : f.sinkHits = []) (h : Notes cx f g) :
    g.HitsInStep cx.registry := by
  intro hit hhit
  rcases h.hit_cases.2 hit hhit with hold | hnew
  · rw [hf] at hold
    cases hold
  · exact hnew

end Python

/-- The facts that are read from a source unit are in step. -/
theorem SourceUnit.hitsInStep_facts {registry : Registry} {u : SourceUnit} {f : FunctionFacts}
    (hf : f ∈ u.facts registry) : f.HitsInStep registry := by
  rw [SourceUnit.facts] at hf
  cases htree : u.tree? with
  | none =>
    rw [htree] at hf
    cases hf
  | some m =>
    rw [htree] at hf
    rcases List.mem_cons.mp hf with rfl | hf
    · obtain ⟨g, hhits, hnotes⟩ := Python.notes_bodyFacts
        { registry, file := u.file, lines := .ofText m.source } u.module m
      exact Python.hitsInStep_of_notes hhits hnotes
    · obtain ⟨d, _, rfl⟩ := List.mem_map.mp hf
      obtain ⟨g, hhits, hnotes⟩ := Python.notes_functionFacts
        { registry, file := u.file, lines := .ofText m.source } u.module d
      exact Python.hitsInStep_of_notes hhits hnotes

/-! ## 3. Facts with results put in -/

section Substitute

variable {registry : Registry} {results : List Label}

/-- A hit with a new label, and the flag that goes with it. -/
def SinkHit.relabel (registry : Registry) (h : SinkHit) (label : Label) : SinkHit :=
  { h with
    label
    sanitized := label.sanitizers.any fun s => registry.covers s h.sink.weakness }

/-- **A hit is dropped exactly if no taint is left in it**; the others keep their order. -/
theorem filterMap_substitute? (hits : List SinkHit) :
    hits.filterMap (·.substitute? registry results) =
      (hits.filter fun h => !(h.label.substitute results).isClean).map fun h =>
        h.relabel registry (h.label.substitute results) := by
  induction hits with
  | nil => rfl
  | cons h hits ih =>
    cases hclean : (h.label.substitute results).isClean with
    | true =>
      have hnone : h.substitute? registry results = none := by
        rw [SinkHit.substitute?, if_pos hclean]
      rw [List.filterMap_cons_none hnone, List.filter_cons_of_neg (by rw [hclean]; decide), ih]
    | false =>
      have hsome : h.substitute? registry results =
          some (h.relabel registry (h.label.substitute results)) := by
        rw [SinkHit.substitute?, if_neg (by rw [hclean]; decide)]
        rfl
      rw [List.filterMap_cons_some hsome, List.filter_cons_of_pos (by rw [hclean]; rfl),
        List.map_cons, ih]

theorem SinkHit.sound_relabel {h : SinkHit} {label : Label} (hlabel : label.isClean = false) :
    (h.relabel registry label).Sound registry :=
  ⟨Label.isClean_eq_false_iff.mp hlabel, SortedSet.any_eq_true⟩

/-- Results are put into a hit and into its call site alike. -/
theorem SinkHit.StandsAt.substitute {h : SinkHit} {c : CallSite} (hc : h.StandsAt c) :
    (h.relabel registry (h.label.substitute results)).StandsAt
      { c with args := c.args.map (·.substitute results) } := by
  obtain ⟨a, ha, hposition, hlabel⟩ := hc.argument
  exact ⟨hc.role, hc.location, _, List.mem_map.mpr ⟨a, ha, rfl⟩, hposition,
    congrArg (·.substitute results) hlabel⟩

/-- **Hits stay in step when results are put in.** -/
theorem FunctionFacts.HitsInStep.substitute {f : FunctionFacts} (hf : f.HitsInStep registry) :
    (f.substitute registry results).HitsInStep registry := by
  intro h hh
  rw [FunctionFacts.substitute, filterMap_substitute?] at hh
  obtain ⟨h, hmem, rfl⟩ := List.mem_map.mp hh
  obtain ⟨hmem, hdirty⟩ := List.mem_filter.mp hmem
  obtain ⟨_, c, hc, hstands⟩ := hf h hmem
  exact ⟨SinkHit.sound_relabel (by simpa using hdirty), _, List.mem_map.mpr ⟨c, hc, rfl⟩,
    hstands.substitute⟩

end Substitute

/-! ## 4. A project -/

/-- The functions of source units, as they were read. -/
def extractedFunctions (units : List SourceUnit) (registry : Registry) : Functions :=
  .ofFacts (units.flatMap (·.facts registry))

/-- What the calls of a function give back by the summaries of its project. -/
def settledResults (functions : Functions) (targets : Targets) (f : FunctionFacts) : List Label :=
  callResults functions targets (summaries functions targets) f

/-- **Sink hits stay in step with call sites.** Once the results of calls are put in, every hit of a
function has a label with origins, its flag tells whether a sanitizer of this label covers the weakness
of the sink, and a sink is called at its place with an argument in its position that has the same
label. And of the hits that were read exactly those are left, in their order, whose label still has
origins with the results put in. -/
theorem sink_hits_in_step (units : List SourceUnit) (registry : Registry) (targets : Targets) :
    (∀ f ∈ (summarizedUnits units registry targets).values, f.HitsInStep registry) ∧
    ∀ id f, (extractedFunctions units registry).get? id = some f →
      ∃ f', (summarizedUnits units registry targets).get? id = some f' ∧
        let results := settledResults (extractedFunctions units registry) targets f
        f'.sinkHits.map (fun h => (h.sink, h.location, h.argument, h.label)) =
          (f.sinkHits.filter fun h => !(h.label.substitute results).isClean).map fun h =>
            (h.sink, h.location, h.argument, h.label.substitute results) := by
  refine ⟨fun f' hf' => ?_, fun id f hget => ?_⟩
  · obtain ⟨_, hget⟩ := SortedMap.mem_values_iff.mp hf'
    obtain ⟨f, hf, _, rfl⟩ := exists_of_get?_summarizedUnits hget
    obtain ⟨u, _, hu⟩ := List.mem_flatMap.mp hf
    exact (SourceUnit.hitsInStep_facts hu).substitute
  · have hsummarized := Functions.get?_summarized (extractedFunctions units registry) targets registry id
    rw [hget] at hsummarized
    refine ⟨_, hsummarized, ?_⟩
    intro results
    show (f.sinkHits.filterMap (·.substitute? registry results)).map _ = _
    rw [filterMap_substitute?, List.map_map]
    rfl

/-- `def blank(p): return ""`, and `run(p)` with `os.system` of `blank(p)`, of `shlex.quote(p)` and of
`p`. -/
def blankUnit : SourceUnit where
  module := "app"
  file := ⟨"app.py"⟩
  isPackage := false
  content := .ok
    { source := ""
      body :=
        [.functionDef 0 [] "blank" [] { positional := [{ name := "p" }] } none
          [.ret (some (.string ""))],
          .functionDef 0 [] "run" [] { positional := [{ name := "p" }] } none
            (([.call 0 0 (.name "blank") [.name "p"] [],
                .call 0 0 (.attr 0 (.name "shlex") "quote") [.name "p"] [], .name "p"] :
                List Python.Expr).map fun argument =>
              .expr (.call 0 0 (.attr 0 (.name "os") "system") [argument] []))] }

/-- Of three hits the first is dropped, the second is flagged, and the two that are left are in
step. -/
theorem blank_hits_in_step :
    ∃ f f', (extractedFunctions [blankUnit] .builtin).get? ⟨"app", "run"⟩ = some f ∧
      f.sinkHits.map (·.label) = [.call 0, (Label.param 0).sanitize "shlex.quote", .param 0] ∧
      (summarizedUnits [blankUnit] .builtin (unitTargets blankUnit)).get? ⟨"app", "run"⟩ = some f' ∧
      f'.sinkHits.map (fun h => (h.label, h.sanitized)) =
        [((Label.param 0).sanitize "shlex.quote", true), (.param 0, false)] ∧
      f'.HitsInStep .builtin := by
  have hread : ((extractedFunctions [blankUnit] .builtin).get? ⟨"app", "run"⟩).map
      (fun f => f.sinkHits.map (·.label)) =
        some [.call 0, (Label.param 0).sanitize "shlex.quote", .param 0] := by decide +kernel
  have hleft : ((summarizedUnits [blankUnit] .builtin (unitTargets blankUnit)).get?
      ⟨"app", "run"⟩).map (fun f => f.sinkHits.map fun h => (h.label, h.sanitized)) =
        some [((Label.param 0).sanitize "shlex.quote", true), (.param 0, false)] := by
    decide +kernel
  obtain ⟨f, hf, hlabels⟩ := Option.map_eq_some_iff.mp hread
  obtain ⟨f', hf', hflags⟩ := Option.map_eq_some_iff.mp hleft
  exact ⟨f, f', hf, hlabels, hf', hflags,
    (sink_hits_in_step [blankUnit] .builtin (unitTargets blankUnit)).1 f'
      (SortedMap.mem_values_iff.mpr ⟨_, hf'⟩)⟩

end TaintFlow
