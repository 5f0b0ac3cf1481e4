import TaintFlow.Proofs.Soundness

/-!
# Exposures

An exposure is an unsanitized flow of one step or more from a source hit to a sink hit: what a search
is there to find. It says nothing of sets of tainted origins, of trails or of states met before.

A search without limits follows the edges of every exposure (`Exposure.reached`), and at each state
that it takes for the end of one it finds the sink (`Exposure.exists_sinkFinding`). For each exposure
there is one finding between its places, which is no longer (`Exposure.exists_finding`).
-/

namespace TaintFlow

/-- The functions on a path from a source hit, in order. -/
def Seed.signature (seed : Seed) (hops : List Hop) : String :=
  Text.join " -> " (seed.function.id.display :: hops.map fun h => h.function.display)

theorem signature_pathFinding (g : CallGraph) (seed : Seed) (trail : List Step) (id : FunctionId)
    (hit : SinkHit) (applied : Sanitizers) :
    (pathFinding g seed trail id hit applied).signature = seed.signature (trail.map Step.hop) := by
  rw [Finding.signature, steps_pathFinding]
  rfl

theorem PathState.signature_of_mem_sinkFindings {g : CallGraph} {seed : Seed} {st : PathState}
    {v : Finding} (h : v ∈ st.sinkFindings g seed) :
    v.signature = seed.signature (st.trail.map Step.hop) := by
  obtain ⟨_, hit, _, applied, _, _, rfl⟩ := mem_sinkFindings.mp h
  exact signature_pathFinding ..

/-- An unsanitized flow of one step or more from a source hit to a sink hit. A source that is hit more
than once in a function counts with its first hit. -/
structure Exposure (g : CallGraph) where
  seed : Seed
  path : List Crossing
  function : FunctionFacts
  hit : SinkHit
  mem_seeds : seed ∈ g.seeds
  leaves : path ≠ []
  mem_sinkHits : hit ∈ function.sinkHits
  flow : ∃ o ∈ hit.label.origins, Flow g seed.function seed.hit.source.id path function o
  /-- No sanitizer on the way or at the sink covers its weakness. -/
  unsanitized : ∀ name, AppliedOn path name ∨ name ∈ hit.label.sanitizers →
    g.registry.covers name hit.sink.weakness = false

namespace Exposure

/-- The number of steps. -/
def length {g : CallGraph} (c : Exposure g) : Nat := c.path.length

/-- The functions on the way, in order. -/
def signature {g : CallGraph} (c : Exposure g) : String :=
  c.seed.signature (c.path.map Crossing.hop)

/-- Whether a finding is between the places of an exposure. -/
def Joins {g : CallGraph} (c : Exposure g) (v : Finding) : Prop :=
  v.source.location.same c.seed.hit.location = true ∧ v.sink.location.same c.hit.location = true

/-- Whether a state was reached over the edges of an exposure. -/
def LedTo {g : CallGraph} (c : Exposure g) (st : PathState) : Prop :=
  st.trail.map Step.route = c.path.map Crossing.route

theorem LedTo.length_eq {g : CallGraph} {c : Exposure g} {st : PathState} (h : c.LedTo st) :
    st.trail.length = c.length := by
  have hlength := congrArg List.length h
  rwa [List.length_map, List.length_map] at hlength

theorem LedTo.signature_eq {g : CallGraph} {c : Exposure g} {st : PathState} (h : c.LedTo st) :
    c.seed.signature (st.trail.map Step.hop) = c.signature := by
  rw [signature, map_hop_of_map_route h]

end Exposure

/-- Whether neither depth nor modules are limited. -/
structure Search.Unlimited (s : Search) : Prop where
  depth : s.maxDepth = none
  modules : s.admitted = none

theorem Search.unlimited_ofLimits {g : CallGraph} {limits : Limits} {clock : Clock}
    (hdepth : limits.maxDepth = none) (hmodules : limits.maxModules = none) :
    (Search.ofLimits g limits clock).Unlimited :=
  ⟨hdepth, by rw [ofLimits, hmodules]; rfl⟩

section Search

variable {s : Search} (hs : s.Unlimited)
include hs

theorem Search.Unlimited.tooDeep (steps : Nat) : s.tooDeep steps = false := by
  rw [Search.tooDeep, hs.depth]

theorem Search.Unlimited.next_eq (st : PathState) : st.next s = st.moves s.graph := by
  refine List.filter_eq_self.mpr fun st' _ => ?_
  rw [Search.allows, Search.admits, hs.modules, hs.tooDeep]
  rfl

theorem Search.Unlimited.met_eq (seed : Seed) :
    s.met seed = (s.trace seed).flatMap (PathState.sinkFindings s.graph seed) := by
  rw [Search.met, Search.admits, hs.modules]
  rfl

variable (hg : s.graph.WellFormed) (c : Exposure s.graph)
include hg

/-- **A search without limits follows every exposure to its end**, where the origin to which it leads
is tainted, with no sanitizers beyond those on the way. -/
theorem Exposure.reached : ∃ st, Reached s c.seed st ∧ c.LedTo st ∧ st.function = c.function ∧
    ∃ o ∈ c.hit.label.origins, Flow s.graph c.seed.function c.seed.hit.source.id c.path c.function o ∧
      ∃ m, st.tainted.get? o = some m ∧ ∀ name ∈ m, AppliedOn c.path name := by
  obtain ⟨o, ho, hflow⟩ := c.flow
  have hopen : ∀ name, AppliedOn c.path name → s.graph.registry.coversAll name = false :=
    fun name hname => Registry.coversAll_eq_false (c.unsanitized name (Or.inl hname))
  obtain ⟨st, hst, hf, hroute, m, hm, hsub⟩ :=
    hflow.reached hg hs.modules (hs.tooDeep _) hopen
  exact ⟨st, hst, hroute, hf, o, ho, hflow, m, hm, hsub⟩

/-- **The sink of an exposure is found at every state that a search takes for its end**: any one with
the function and the tainted origins to which the edges of the exposure lead. -/
theorem Exposure.exists_sinkFinding {st st' : PathState} (hst : Reached s c.seed st)
    (hled : c.LedTo st) (hst' : Reached s c.seed st') (hkey : st'.key = st.key) :
    ∃ applied, pathFinding s.graph c.seed st'.trail st'.function.id c.hit applied ∈
      st'.sinkFindings s.graph c.seed := by
  have hseed := (hg.of_mem_seeds c.mem_seeds).1
  obtain ⟨u, hu, hledu, hf, o, ho, hflow, m, hm, hsub⟩ := c.reached hs hg
  cases hst.eq_of_route hg hu (hled.trans hledu.symm)
  obtain ⟨hid, htainted⟩ := Prod.mk.inj hkey
  have hf' : st'.function = st.function := by
    have hknown := (hst'.walk hg hseed).1
    rw [hid, (hst.walk hg hseed).1] at hknown
    exact (Option.some.inj hknown).symm
  have hm' : st'.tainted.get? o = some m := htainted ▸ hm
  have hhit : c.hit ∈ st'.function.sinkHits := by
    rw [hf', hf]
    exact c.mem_sinkHits
  exact PathState.exists_sinkFinding c.seed (hflow.trail_ne_nil hg c.leaves hst' hm') hhit ho hm'
    fun name hname => c.unsanitized name (hname.imp_left (hsub name))

/-- **Between the places of an exposure there is exactly one finding**, and it has no more hops. -/
theorem Exposure.exists_finding (hclock : s.clock.Unexpired) :
    ∃ v ∈ s.run.findings, c.Joins v ∧ v.hopCount ≤ c.length ∧
      ∀ w ∈ s.run.findings, c.Joins w → w = v := by
  obtain ⟨o, ho, hflow⟩ := c.flow
  obtain ⟨w, hw, hsource, hsink, hle⟩ := Flow.met c.seed hg (hg.of_mem_seeds c.mem_seeds).1 hs.modules
    hflow c.leaves (hs.tooDeep _) c.mem_sinkHits ho c.unsanitized
  obtain ⟨v, hv, hjoins, hle', hunique⟩ :=
    Search.exists_best hclock (List.mem_flatMap.mpr ⟨c.seed, c.mem_seeds, hw⟩)
  rw [hsource, hsink] at hjoins hunique
  exact ⟨v, hv, hjoins, Nat.le_trans hle' hle, hunique⟩

/-- No exposure is shorter than what is reported between its places. -/
theorem Exposure.hopCount_le (hclock : s.clock.Unexpired) {v : Finding} (hv : v ∈ s.run.findings)
    (hjoins : c.Joins v) : v.hopCount ≤ c.length := by
  obtain ⟨w, _, _, hle, hunique⟩ := c.exists_finding hs hg hclock
  rw [hunique v hv hjoins]
  exact hle

end Search

/-! ## 2. A diamond

`App.main` hands what it reads to `App.beta` and then to `App.alpha`. Both hand it on to `App.run`,
where one expression holds two sinks that start at the same place. Each gets the text escaped in a way
that does not protect it. -/

namespace Diamond

def source : SourceHit := ⟨SmallProject.line 3, .input⟩

def sinkHit (id name : String) (weakness : Weakness) : SinkHit where
  sink :=
    { id, name, weakness, severity := .critical, dangerousArgs := [0], dangerousKeywords := []
      remediation := "" }
  location := SmallProject.line 11
  argument := .positional 0
  label := ⟨.singleton (.param 1), .singleton "html.escape"⟩
  sanitized := false

def popen : SinkHit := sinkHit "command.exec" "os.popen" .commandInjection

def execute : SinkHit := sinkHit "sql.execute" ".execute" .sqlInjection

/-- A method of the class. -/
def method (qualname : String) (line : Nat) (calls : List CallSite) : FunctionFacts where
  id := ⟨"app", qualname⟩
  owner := some "App"
  line
  params := ["self", "text"]
  positionalParams := 2
  calls

/-- A call of a method with one argument. -/
def call (callee : String) (line : Nat) (label : Label) : CallSite where
  callee
  location := SmallProject.line line
  args := [⟨.positional 0, label⟩]
  dynamic := false
  role := none
  result := .clean

def main : FunctionFacts :=
  { method "App.main" 2 [call "self.beta" 4 (.source Source.input.id),
      call "self.alpha" 5 (.source Source.input.id)] with
    sources := .singleton source }

def alpha : FunctionFacts := method "App.alpha" 6 [call "self.run" 7 (.param 1)]

def beta : FunctionFacts := method "App.beta" 8 [call "self.run" 9 (.param 1)]

def run : FunctionFacts := { method "App.run" 10 [] with sinkHits := [popen, execute] }

/-- The edge of a call. -/
def edge (caller callee : FunctionFacts) (line site : Nat) (label : Label) : CallEdge where
  caller := caller.id
  callee := callee.id
  location := SmallProject.line line
  site
  bindings := [⟨1, label⟩]
  unbound := []
  dynamic := false

def mainBeta : CallEdge := edge main beta 4 0 (.source Source.input.id)

def mainAlpha : CallEdge := edge main alpha 5 1 (.source Source.input.id)

def alphaRun : CallEdge := edge alpha run 7 0 (.param 1)

def betaRun : CallEdge := edge beta run 9 0 (.param 1)

def graph : CallGraph where
  registry := {}
  nodes := [alpha, beta, main, run].map fun f =>
    { id := f.id, kind := .function, facts := some f }
  edges := [alphaRun, betaRun, mainBeta, mainAlpha]

theorem build_eq : CallGraph.build ⟨∅⟩ [main, alpha, beta, run] {} = .ok graph := rfl

theorem wellFormed : graph.WellFormed := CallGraph.build_wellFormed build_eq

def seed : Seed := ⟨main, source⟩

theorem seed_mem : seed ∈ graph.seeds :=
  List.mem_flatMap.mpr
    ⟨main, wellFormed.mem_sourceFunctions.mpr ⟨rfl, rfl⟩, List.mem_singleton.mpr rfl⟩

theorem betaFlow : Flow graph main Source.input.id
    [⟨mainBeta, .down, .source Source.input.id⟩, ⟨betaRun, .down, .param 1⟩] run (.param 1) := by
  have hin : FlowStep graph main (.source Source.input.id) mainBeta .down (.source Source.input.id)
      beta (.param 1) :=
    .bound (by simp [graph]) rfl rfl (b := ⟨1, .source Source.input.id⟩) List.mem_cons_self
      List.mem_cons_self
  have hout : FlowStep graph beta (.param 1) betaRun .down (.param 1) run (.param 1) :=
    .bound (by simp [graph]) rfl rfl (b := ⟨1, .param 1⟩) List.mem_cons_self List.mem_cons_self
  exact .step (.step .start hin) hout

theorem alphaFlow : Flow graph main Source.input.id
    [⟨mainAlpha, .down, .source Source.input.id⟩, ⟨alphaRun, .down, .param 1⟩] run (.param 1) := by
  have hin : FlowStep graph main (.source Source.input.id) mainAlpha .down (.source Source.input.id)
      alpha (.param 1) :=
    .bound (by simp [graph]) rfl rfl (b := ⟨1, .source Source.input.id⟩) List.mem_cons_self
      List.mem_cons_self
  have hout : FlowStep graph alpha (.param 1) alphaRun .down (.param 1) run (.param 1) :=
    .bound (by simp [graph]) rfl rfl (b := ⟨1, .param 1⟩) List.mem_cons_self List.mem_cons_self
  exact .step (.step .start hin) hout

/-- A flow into `App.run` exposes both of its sinks. -/
def exposure {path : List Crossing} (h : Flow graph main Source.input.id path run (.param 1))
    (hpath : path ≠ []) {hit : SinkHit} (hhit : hit ∈ run.sinkHits)
    (ho : .param 1 ∈ hit.label.origins) : Exposure graph where
  seed
  path
  function := run
  hit
  mem_seeds := seed_mem
  leaves := hpath
  mem_sinkHits := hhit
  flow := ⟨.param 1, ho, h⟩
  unsanitized _ _ := rfl

def alphaPath : Exposure graph :=
  exposure alphaFlow (List.cons_ne_nil _ _) (List.mem_cons_self : popen ∈ run.sinkHits)
    List.mem_cons_self

def betaPath : Exposure graph :=
  exposure betaFlow (List.cons_ne_nil _ _) (List.mem_cons_self : popen ∈ run.sinkHits)
    List.mem_cons_self

def executePath : Exposure graph :=
  exposure betaFlow (List.cons_ne_nil _ _)
    (List.mem_cons_of_mem _ List.mem_cons_self : execute ∈ run.sinkHits) List.mem_cons_self

theorem function_cases {id : FunctionId} {f : FunctionFacts} (h : graph.facts? id = some f) :
    f = alpha ∨ f = beta ∨ f = main ∨ f = run := by
  obtain ⟨n, hn, _, _, hf⟩ := CallGraph.facts?_eq_some h
  obtain ⟨f', hf', rfl⟩ := List.mem_map.mp hn
  cases hf
  simpa using hf'

/-- There is nothing to start from but what `App.main` reads. -/
theorem eq_seed {seed' : Seed} (h : seed' ∈ graph.seeds) : seed' = seed := by
  obtain ⟨f, hit⟩ := seed'
  obtain ⟨hknown, hhit⟩ := wellFormed.of_mem_seeds h
  rcases function_cases hknown with rfl | rfl | rfl | rfl
  · exact absurd hhit List.not_mem_nil
  · exact absurd hhit List.not_mem_nil
  · have hsource : hit = source := List.mem_singleton.mp hhit
    rw [hsource]
    rfl
  · exact absurd hhit List.not_mem_nil

/-- The search without limits. -/
def search : Search := .ofLimits graph default fun _ => false

theorem unlimited_search : search.Unlimited := ⟨rfl, rfl⟩

end Diamond

end TaintFlow
