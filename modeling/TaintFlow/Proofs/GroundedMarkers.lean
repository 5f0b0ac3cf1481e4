import Mathlib.Logic.Relation
import TaintFlow.CallGraph.Build
import TaintFlow.Proofs.ScopedFacts
import TaintFlow.Proofs.SummaryGrowth
import TaintFlow.SourceUnit

/-!
# The call markers that are left

With results put in, a label still names a call if the callee returns data of its own. Functions may
call each other in a circle, and each could then rest on the next. It does not happen: from every
marker that is left a chain of returns leads to a function that returns a source
(`markers_grounded`), so recursion alone makes no taint.

The proof has two parts. By any table, a marker that is left stands for a call whose callee has a
foreign summary (`supported_substitute`). And the table starts empty: a summary that becomes foreign
rests on a source or on a summary that was foreign before it (`grounded_of_foreign`), so the induction
is over the updates of the table and not over the calls. As tables only grow, what an entry rested on
is still there at the end.
-/

namespace TaintFlow

/-! ## 1. What is left once results are put in -/

/-- Whether the callee of a call returns data of its own by a table. -/
def ForeignCall (functions : Functions) (t : Summaries) (sites : List CallTarget) (index : Nat) :
    Prop :=
  ∃ id callee offset, summarizedCallee? functions sites index = some (id, callee, offset) ∧
    (t.labelOf id).hasForeign = true

/-- An origin that exists and that, if it is a call, has a callee that returns data of its own. -/
structure Origin.Supported (functions : Functions) (t : Summaries) (sites : List CallTarget)
    (s : LabelScope) (o : Origin) : Prop where
  inScope : o.InScope s
  foreign : ∀ index, o = .call index → ForeignCall functions t sites index

/-- A label of which every origin is supported. -/
def Label.Supported (functions : Functions) (t : Summaries) (sites : List CallTarget)
    (s : LabelScope) (l : Label) : Prop :=
  ∀ o ∈ l.origins, o.Supported functions t sites s

section OneFunction

variable {functions : Functions} {t : Summaries} {sites : List CallTarget} {s s' : LabelScope}
  {l : Label} {rs : List Label}

theorem Label.Supported.mono (h : l.Supported functions t sites s) (hs : s.Within s') :
    l.Supported functions t sites s' :=
  fun o ho => ⟨(h o ho).inScope.mono hs, (h o ho).foreign⟩

/-- Where the results of all calls are known, only what they hold is left of the calls. -/
theorem supported_substitute (hl : l.Scoped s) (hlength : s.calls ≤ rs.length)
    (hrs : ∀ r ∈ rs, r.Supported functions t sites s) :
    (l.substitute rs).Supported functions t sites s := by
  intro o ho
  rcases Label.mem_origins_substitute.mp ho with ⟨ho, hopen⟩ | ⟨k, r, _, hr, ho⟩
  · refine ⟨hl.inScope o ho, ?_⟩
    rintro index rfl
    have hindex : index < rs.length := Nat.lt_of_lt_of_le (hl.inScope _ ho) hlength
    rw [Label.isResolved_call.mpr hindex] at hopen
    cases hopen
  · exact hrs r (List.mem_of_getElem? hr) o ho

/-- The result of a call rests on the arguments and on the callee. -/
theorem supported_nextResult {params : Nat} {sources : SortedSet SourceHit} {site : CallSite}
    (hsite : site.Scoped ⟨params, sources, rs.length⟩)
    (hrs : ∀ r ∈ rs, r.Supported functions t sites ⟨params, sources, rs.length⟩) :
    (nextResult functions t sites rs site).Supported functions t sites
      ⟨params, sources, rs.length + 1⟩ := by
  have hgrows : LabelScope.Within ⟨params, sources, rs.length⟩ ⟨params, sources, rs.length + 1⟩ :=
    LabelScope.within_of_calls_le (Nat.le_succ _)
  rw [nextResult_eq]
  cases hcallee : summarizedCallee? functions sites rs.length with
  | none => exact (supported_substitute hsite.result (Nat.le_refl _) hrs).mono hgrows
  | some found =>
    obtain ⟨id, callee, offset⟩ := found
    intro o ho
    rcases mem_origins_returnedThrough.mp ho with ⟨_, _, a, ha, _, ho⟩ | ⟨hforeign, rfl⟩
    · obtain ⟨b, hb, rfl⟩ := List.mem_map.mp ha
      exact (supported_substitute (hsite.args b hb) (Nat.le_refl _) hrs).mono hgrows o ho
    · refine ⟨Nat.lt_succ_self rs.length, ?_⟩
      rintro index ⟨⟩
      exact ⟨id, callee, offset, hcallee, hforeign⟩

theorem supported_resultsOf {params : Nat} {sources : SortedSet SourceHit} {calls : List CallSite}
    (hcalls : ∀ (index : Nat) (c : CallSite), calls[index]? = some c →
      c.Scoped ⟨params, sources, index⟩) :
    ∀ r ∈ resultsOf functions t sites calls,
      r.Supported functions t sites ⟨params, sources, calls.length⟩ := by
  induction calls using List.reverseRecOn with
  | nil => exact nofun
  | append_singleton calls site ih =>
    have hlength := length_resultsOf functions t sites calls
    have hsite : site.Scoped ⟨params, sources, calls.length⟩ :=
      hcalls calls.length site List.getElem?_concat_length
    have hrs := ih fun index c hc =>
      hcalls index c (by rw [List.getElem?_append_left (List.getElem?_eq_some_iff.mp hc).1, hc])
    rw [← hlength] at hsite hrs
    rw [resultsOf_concat, List.length_append, ← hlength]
    refine List.forall_mem_append.mpr ⟨fun r hr => (hrs r hr).mono ?_, ?_⟩
    · exact LabelScope.within_of_calls_le (Nat.le_succ _)
    · exact List.forall_mem_singleton.mpr (supported_nextResult hsite hrs)

/-- **What is left of a label in scope is supported.** -/
theorem supported_substitute_callResults (targets : Targets) {f : FunctionFacts} (hf : f.Scoped)
    (hl : l.Scoped f.scope) :
    (l.substitute (callResults functions targets t f)).Supported functions t (targets.sitesOf f.id)
      f.scope :=
  supported_substitute hl (Nat.le_of_eq (length_resultsOf functions t _ f.calls).symm)
    (supported_resultsOf hf.calls)

end OneFunction

/-! ## 2. Chains of returns -/

/-- Whether a call site of a function leads to a function of the project. -/
def ResolvesTo (functions : Functions) (targets : Targets) (f : FunctionFacts) (site : Nat)
    (id : FunctionId) : Prop :=
  site < f.calls.length ∧ functions.contains id = true ∧
    ∃ offset, (targets.sitesOf f.id)[site]? = some (.function id offset)

/-- Whether a function returns the result of a call of another. -/
def ReturnsCallOf (functions : Functions) (targets : Targets) (id id' : FunctionId) : Prop :=
  ∃ f site, functions.get? id = some f ∧ .call site ∈ f.returns.origins ∧
    ResolvesTo functions targets f site id'

/-- Whether a function returns data from a source. -/
def ReturnsSource (functions : Functions) (id : FunctionId) : Prop :=
  ∃ f source, functions.get? id = some f ∧ .source source ∈ f.returns.origins

/-- Whether a chain of returns leads from a function to one that returns data from a source. -/
def Grounded (functions : Functions) (targets : Targets) (id : FunctionId) : Prop :=
  ∃ last, Relation.ReflTransGen (ReturnsCallOf functions targets) id last ∧
    ReturnsSource functions last

section Chains

variable {functions : Functions} {targets : Targets} {t : Summaries} {f : FunctionFacts}

theorem resolvesTo_of_summarizedCallee? (registry : Registry) {results : List Label} {index : Nat}
    {id : FunctionId} {callee : FunctionFacts} {offset : Nat} (hindex : index < f.calls.length)
    (h : summarizedCallee? functions (targets.sitesOf f.id) index = some (id, callee, offset)) :
    ResolvesTo (functions.summarized targets registry) targets (f.substitute registry results) index
      id := by
  obtain ⟨htarget, _, hcallee⟩ := summarizedCallee?_eq_some h
  refine ⟨?_, ?_, offset, htarget⟩
  · rwa [FunctionFacts.substitute, List.length_map]
  · rw [SortedMap.contains, Functions.get?_summarized, hcallee]
    rfl

/-- A function whose return label is foreign rests on a source or on a foreign summary. -/
theorem grounded_of_returnLabel (hkeyed : functions.Keyed) (hf : f ∈ functions.values)
    (hscoped : f.Scoped) (registry : Registry) (ht : t.Below (summaries functions targets))
    (hforeign : (returnLabel functions targets t f).hasForeign = true)
    (ih : ∀ id, (t.labelOf id).hasForeign = true →
      Grounded (functions.summarized targets registry) targets id) :
    Grounded (functions.summarized targets registry) targets f.id := by
  obtain ⟨o, ho, hparam⟩ := Label.hasForeign_iff.mp hforeign
  have hget := Functions.get?_summarized functions targets registry f.id
  rw [hkeyed.get?_of_mem hf, Option.map_some] at hget
  have hstays := Label.origins_of_le (returnLabel_mono ht targets f) ho
  have hsupported := supported_substitute_callResults targets hscoped hscoped.returns o ho
  cases o with
  | param index => cases hparam
  | source source => exact ⟨f.id, .refl, _, source, hget, hstays⟩
  | call index =>
    obtain ⟨id, callee, offset, hcallee, hid⟩ := hsupported.foreign index rfl
    obtain ⟨last, hchain, hlast⟩ := ih id hid
    have hstep : ReturnsCallOf (functions.summarized targets registry) targets f.id id :=
      ⟨_, index, hget, hstays, resolvesTo_of_summarizedCallee? registry hsupported.inScope hcallee⟩
    exact ⟨last, .head hstep hchain, hlast⟩

/-- **Every foreign summary is grounded.** The induction is over the updates that led to the table:
an entry that becomes foreign rests on the table before it. -/
theorem grounded_of_foreign (hkeyed : functions.Keyed) (hscoped : ∀ f ∈ functions.values, f.Scoped)
    (registry : Registry) (h : Summaries.Reached functions targets t)
    (ht : t.Below (summaries functions targets)) {id : FunctionId}
    (hforeign : (t.labelOf id).hasForeign = true) :
    Grounded (functions.summarized targets registry) targets id := by
  induction h generalizing id with
  | start => cases hforeign
  | @update state f h hf ih =>
    have hbefore := ((h.growing hkeyed).below_updateEntry hf).trans ht
    rw [labelOf_updateEntry] at hforeign
    split at hforeign
    · rename_i hid
      rw [hid]
      exact grounded_of_returnLabel hkeyed hf (hscoped f hf) registry hbefore hforeign
        fun id' => ih hbefore
    · exact ih hbefore hforeign

end Chains

/-! ## 3. Labels of a function -/

/-- The labels by which data leaves a function: at the arguments of calls, by what it returns, and
at sinks. -/
inductive FunctionFacts.Emits (f : FunctionFacts) : Label → Prop
  | argument {c : CallSite} {a : Argument} (hc : c ∈ f.calls) (ha : a ∈ c.args) : f.Emits a.label
  | returns : f.Emits f.returns
  | sinkHit {h : SinkHit} (hh : h ∈ f.sinkHits) : f.Emits h.label

theorem FunctionFacts.Scoped.emitted {f : FunctionFacts} (hf : f.Scoped) {l : Label}
    (hl : f.Emits l) : l.Scoped f.scope := by
  cases hl with
  | argument hc ha =>
    obtain ⟨index, hindex⟩ := List.getElem?_of_mem hc
    have hlt := (List.getElem?_eq_some_iff.mp hindex).1
    exact ((hf.calls index _ hindex).args _ ha).mono
      (LabelScope.within_of_calls_le (Nat.le_of_lt hlt))
  | returns => exact hf.returns
  | sinkHit hh => exact hf.sinkHits _ hh

/-- With results put in, every label is what a label was. -/
theorem FunctionFacts.Emits.of_substitute {f : FunctionFacts} {registry : Registry}
    {results : List Label} {l : Label} (h : (f.substitute registry results).Emits l) :
    ∃ l', f.Emits l' ∧ l = l'.substitute results := by
  cases h with
  | argument hc ha =>
    obtain ⟨c, hmem, rfl⟩ := List.mem_map.mp hc
    obtain ⟨a, harg, rfl⟩ := List.mem_map.mp ha
    exact ⟨a.label, .argument hmem harg, rfl⟩
  | returns => exact ⟨f.returns, .returns, rfl⟩
  | sinkHit hh =>
    obtain ⟨hit, hmem, hsome⟩ := List.mem_filterMap.mp hh
    rw [SinkHit.substitute?] at hsome
    split at hsome
    · cases hsome
    · cases hsome
      exact ⟨hit.label, .sinkHit hmem, rfl⟩

/-! ## 4. A project -/

/-- The functions of source units with every call result replaced by what its callee returns. -/
def summarizedUnits (units : List SourceUnit) (registry : Registry) (targets : Targets) : Functions :=
  (Functions.ofFacts (units.flatMap (·.facts registry))).summarized targets registry

section Units

variable {units : List SourceUnit} {registry : Registry} {targets : Targets}

theorem SourceUnit.scoped_facts {u : SourceUnit} {f : FunctionFacts} (hf : f ∈ u.facts registry) :
    f.Scoped := by
  rw [SourceUnit.facts] at hf
  cases htree : u.tree? with
  | none =>
    rw [htree] at hf
    cases hf
  | some m =>
    rw [htree] at hf
    rcases List.mem_cons.mp hf with rfl | hf
    · exact Python.scoped_bodyFacts _ u.module m
    · obtain ⟨d, _, rfl⟩ := List.mem_map.mp hf
      exact Python.scoped_functionFacts _ u.module d

/-- A function with results put in comes from facts of a unit. -/
theorem exists_of_get?_summarizedUnits {id : FunctionId} {f' : FunctionFacts}
    (h : (summarizedUnits units registry targets).get? id = some f') :
    ∃ f ∈ units.flatMap (·.facts registry), f.Scoped ∧
      f' = f.substitute registry (callResults (.ofFacts (units.flatMap (·.facts registry))) targets
        (summaries (.ofFacts (units.flatMap (·.facts registry))) targets) f) := by
  rw [summarizedUnits, Functions.get?_summarized] at h
  obtain ⟨f, hget, rfl⟩ := Option.map_eq_some_iff.mp h
  obtain ⟨_, hf⟩ := Functions.get?_ofFacts hget
  obtain ⟨u, _, hu⟩ := List.mem_flatMap.mp hf
  exact ⟨f, hf, SourceUnit.scoped_facts hu, rfl⟩

theorem grounded_of_foreign_summary {id : FunctionId}
    (h : ((summaries (.ofFacts (units.flatMap (·.facts registry))) targets).labelOf id).hasForeign =
      true) : Grounded (summarizedUnits units registry targets) targets id := by
  refine grounded_of_foreign (Functions.keyed_ofFacts _) (fun f hf => ?_) registry ?_
    (Summaries.Below.refl _) h
  · obtain ⟨id, hget⟩ := SortedMap.mem_values_iff.mp hf
    obtain ⟨u, _, hu⟩ := List.mem_flatMap.mp (Functions.get?_ofFacts hget).2
    exact SourceUnit.scoped_facts hu
  · rw [summaries_eq]
    exact Summaries.Reached.tableAfter _ _ _

/-- A function that returns a source has one. -/
theorem exists_source_of_returnsSource {id : FunctionId}
    (h : ReturnsSource (summarizedUnits units registry targets) id) :
    ∃ f ∈ units.flatMap (·.facts registry), ∃ hit, hit ∈ f.sources := by
  obtain ⟨_, source, hget, hsource⟩ := h
  obtain ⟨f, hf, hscoped, rfl⟩ := exists_of_get?_summarizedUnits hget
  obtain ⟨hit, hhit, _⟩ :=
    (supported_substitute_callResults targets hscoped hscoped.returns _ hsource).inScope
  exact ⟨f, hf, hit, hhit⟩

/-- Each marker that is left has a grounded callee. -/
theorem exists_grounded_callee {f : FunctionFacts} {l : Label} {site : Nat}
    (hf : f ∈ (summarizedUnits units registry targets).values) (hl : f.Emits l)
    (hsite : .call site ∈ l.origins) :
    ∃ id, ResolvesTo (summarizedUnits units registry targets) targets f site id ∧
      Text.endsWith id.qualname "__init__" = false ∧
      Grounded (summarizedUnits units registry targets) targets id := by
  obtain ⟨_, hget⟩ := SortedMap.mem_values_iff.mp hf
  obtain ⟨f, _, hscoped, rfl⟩ := exists_of_get?_summarizedUnits hget
  obtain ⟨l, hemits, rfl⟩ := hl.of_substitute
  obtain ⟨hscope, hforeign⟩ :=
    supported_substitute_callResults targets hscoped (hscoped.emitted hemits) _ hsite
  obtain ⟨id, callee, offset, hcallee, hid⟩ := hforeign site rfl
  exact ⟨id, resolvesTo_of_summarizedCallee? registry hscope hcallee,
    (summarizedCallee?_eq_some hcallee).2.1, grounded_of_foreign_summary hid⟩

end Units

/-- **The markers that are left are grounded.** Each stands for a call site of its function that leads
to a function of the project other than a constructor, and from there a chain of returns leads to a
source. So where no function has a source, no marker is left. -/
theorem markers_grounded (units : List SourceUnit) (registry : Registry) (targets : Targets) :
    (∀ f ∈ (summarizedUnits units registry targets).values, ∀ l, f.Emits l →
      ∀ site, .call site ∈ l.origins →
        ∃ id, ResolvesTo (summarizedUnits units registry targets) targets f site id ∧
          Text.endsWith id.qualname "__init__" = false ∧
          Grounded (summarizedUnits units registry targets) targets id) ∧
    ((∀ f ∈ units.flatMap (·.facts registry), f.sources = ∅) →
      ∀ f ∈ (summarizedUnits units registry targets).values, ∀ l, f.Emits l →
        ∀ site, .call site ∉ l.origins) := by
  refine ⟨fun f hf l hl site hsite => exists_grounded_callee hf hl hsite, ?_⟩
  intro hnone f hf l hl site hsite
  obtain ⟨_, _, _, last, _, hlast⟩ := exists_grounded_callee hf hl hsite
  obtain ⟨g, hg, hit, hhit⟩ := exists_source_of_returnsSource hlast
  rw [hnone g hg] at hhit
  cases hhit

/-- A unit of functions without parameters, each of which returns the results of some calls. -/
def callingUnit (functions : List (String × List String)) : SourceUnit where
  module := "app"
  file := ⟨"app.py"⟩
  isPackage := false
  content := .ok
    { source := ""
      body := functions.map fun (name, callees) =>
        .functionDef 0 [] name [] {} none
          [.ret (some (.tuple (callees.map fun callee => .call 0 0 (.name callee) [] [])))] }

/-- The targets of the calls of a unit. -/
def unitTargets (u : SourceUnit) : Targets :=
  callTargets (.build [u]) (.ofFacts (u.facts .builtin))

/-- `relay` calls itself and `read`, which reads input; `main` calls `relay`. -/
def relayUnit : SourceUnit :=
  callingUnit [("read", ["input"]), ("relay", ["relay", "read"]), ("main", ["relay"])]

/-- `relay` calls itself, and nothing reads input. -/
def idleUnit : SourceUnit := callingUnit [("relay", ["relay"]), ("main", ["relay"])]

/-- In the first unit the marker of `relay` in `main` is left and is grounded; in the second one no
marker is left. -/
theorem relay_marker_grounded :
    (∃ f, (summarizedUnits [relayUnit] .builtin (unitTargets relayUnit)).get? ⟨"app", "main"⟩ =
        some f ∧ f.returns = .call 0 ∧
      ∃ id, ResolvesTo (summarizedUnits [relayUnit] .builtin (unitTargets relayUnit))
          (unitTargets relayUnit) f 0 id ∧
        Text.endsWith id.qualname "__init__" = false ∧
        Grounded (summarizedUnits [relayUnit] .builtin (unitTargets relayUnit))
          (unitTargets relayUnit) id) ∧
    ∀ f ∈ (summarizedUnits [idleUnit] .builtin (unitTargets idleUnit)).values, ∀ l, f.Emits l →
      ∀ site, .call site ∉ l.origins := by
  have hmain : ((summarizedUnits [relayUnit] .builtin (unitTargets relayUnit)).get?
      ⟨"app", "main"⟩).map (·.returns) = some (.call 0) := by decide +kernel
  obtain ⟨f, hget, hreturns⟩ := Option.map_eq_some_iff.mp hmain
  have hsite : .call 0 ∈ f.returns.origins := hreturns ▸ Label.mem_origins_ofOrigin.mpr rfl
  exact ⟨⟨f, hget, hreturns, (markers_grounded [relayUnit] .builtin (unitTargets relayUnit)).1 f
      (SortedMap.mem_values_iff.mpr ⟨_, hget⟩) f.returns .returns 0 hsite⟩,
    (markers_grounded [idleUnit] .builtin (unitTargets idleUnit)).2 (by decide +kernel)⟩

end TaintFlow
