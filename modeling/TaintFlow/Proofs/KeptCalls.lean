import TaintFlow.Proofs.ArgumentDivision
import TaintFlow.Proofs.SummaryRounds
import TaintFlow.Proofs.WellFormedGraph

/-!
# No call is lost

Callees are resolved before summaries rewrite the facts, edges are made after it, and the two are
brought together by the indices of the calls. So an edge could end up with the target of another call,
or a call without one.

* After rewriting, the calls of a function still stand beside their own targets (`edgesOf_rewritten`).
* A call gives an edge exactly if it is kept: it leads to a function with facts, or it is a sink or a
  source outside the project (`KeptCall`). The edge leads where the call leads and has the label of
  every argument once, bound to a parameter or not (`siteEdge?_records`).
* Adding the edges to the nodes of the functions leaves the functions alone: the leaves that are added
  are never functions (`Houses.foldlM_addEdge`).

Together the graph of a project has a node for each function and an edge for each call that is kept, and
no other (`build_keeps_calls`).
-/

namespace TaintFlow

/-! ## 1. Arguments -/

/-- **Every argument is bound or unbound, once.** -/
theorem perm_boundArgs_unboundArgs (args : List Argument) (callee : FunctionFacts) (offset : Nat) :
    ((boundArgs args callee offset).map (·.label) ++ unboundArgs args callee offset).Perm
      (args.map (·.label)) := by
  obtain ⟨bound, spare, hparts, hbound, _, hlabels⟩ := exists_parts args callee offset
  rw [map_label_boundArgs hbound, hlabels, ← List.map_append]
  exact hparts.perm.map _

/-! ## 2. Calls and their edges -/

/-- A call is kept, and leads to this callee: to a function with facts, or else, if it is a sink or a
source, to a leaf outside the project. -/
inductive KeptCall (modules : ModuleGraph) (functions : Functions) (caller : FunctionFacts)
    (site : CallSite) : FunctionId → Prop where
  | function {id : FunctionId} {style : CallStyle} {callee : FunctionFacts}
      (h : resolveCallee? modules functions caller site.callee = some (id, style))
      (hcallee : functions.get? id = some callee) : KeptCall modules functions caller site id
  | leaf (h : ∀ id style, resolveCallee? modules functions caller site.callee = some (id, style) →
        functions.get? id = none)
      (hrole : site.role = some .sink ∨ site.role = some .source) :
      KeptCall modules functions caller site ⟨FunctionId.externalModule, site.callee⟩

/-- An edge is that of a call: it runs from the caller to the callee, is placed where the call is, and
its bindings and unbound labels together are the labels of the call's arguments. -/
structure CallEdge.Records (e : CallEdge) (caller callee : FunctionId) (index : Nat)
    (location : Location) (labels : List Label) : Prop where
  caller : e.caller = caller
  callee : e.callee = callee
  site : e.site = index
  location : e.location = location
  labels : (e.bindings.map (·.label) ++ e.unbound).Perm labels

section OneCall

variable {modules : ModuleGraph} {functions : Functions} {caller : FunctionFacts} {site : CallSite}

/-- Where a call leads: to a function with facts, or outside the project. -/
theorem resolveSite_cases (modules : ModuleGraph) (functions : Functions) (caller : FunctionFacts)
    (site : CallSite) :
    (∃ id style callee, resolveCallee? modules functions caller site.callee = some (id, style) ∧
        functions.get? id = some callee ∧
        resolveSite modules functions caller site = .function id (receiverOffset callee style)) ∨
      (∀ id style, resolveCallee? modules functions caller site.callee = some (id, style) →
          functions.get? id = none) ∧
        resolveSite modules functions caller site = outsideTarget site.role := by
  rw [resolveSite]
  cases resolveCallee? modules functions caller site.callee with
  | none => exact Or.inr ⟨fun _ _ h => absurd h (by simp), rfl⟩
  | some found =>
    obtain ⟨id, style⟩ := found
    cases hcallee : functions.get? id with
    | some callee =>
      refine Or.inl ⟨id, style, callee, rfl, hcallee, ?_⟩
      dsimp only
      rw [hcallee]
    | none =>
      refine Or.inr ⟨fun id' style' h => ?_, ?_⟩
      · cases h
        exact hcallee
      · dsimp only
        rw [hcallee]

/-- The target of a call outside the project is a leaf if it is a sink or a source; no leaf is a
function. -/
theorem outsideTarget_cases (role : Option CallRole) :
    (∃ kind, kind ≠ NodeKind.function ∧ outsideTarget role = .leaf kind ∧
        (role = some .sink ∨ role = some .source)) ∨
      outsideTarget role = .dropped ∧ ¬ (role = some .sink ∨ role = some .source) := by
  cases role with
  | none => exact Or.inr ⟨rfl, by simp⟩
  | some role =>
    cases role with
    | sink => exact Or.inl ⟨_, by simp, rfl, Or.inl rfl⟩
    | source => exact Or.inl ⟨_, by simp, rfl, Or.inr rfl⟩
    | sanitizer => exact Or.inr ⟨rfl, by simp⟩

variable {rewritten : Functions} {rewrite : FunctionFacts → FunctionFacts}
  (hrewritten : ∀ id, rewritten.get? id = (functions.get? id).map rewrite)
  (hid : ∀ f, (rewrite f).id = f.id) (hkeyed : functions.Keyed)
include hrewritten

/-- **A call has an edge exactly if it is kept**, after the functions were rewritten too. -/
theorem siteEdge?_isSome_iff (id : FunctionId) (index : Nat) (site' : CallSite) :
    (siteEdge? rewritten id index site' (resolveSite modules functions caller site)).isSome = true ↔
      ∃ callee, KeptCall modules functions caller site callee := by
  rcases resolveSite_cases modules functions caller site with
    ⟨target, style, callee, hresolve, hcallee, htarget⟩ | ⟨hnone, htarget⟩
  · rw [htarget, siteEdge?, hrewritten, hcallee]
    exact iff_of_true rfl ⟨target, .function hresolve hcallee⟩
  · rw [htarget]
    rcases outsideTarget_cases site.role with ⟨kind, _, hleaf, hrole⟩ | ⟨hdropped, hrole⟩
    · rw [hleaf]
      exact iff_of_true rfl ⟨_, .leaf hnone hrole⟩
    · rw [hdropped]
      refine iff_of_false Bool.false_ne_true ?_
      rintro ⟨_, hkept⟩
      cases hkept with
      | function h hcallee =>
        rw [hnone _ _ h] at hcallee
        cases hcallee
      | leaf _ hrole' => exact hrole hrole'

include hid hkeyed

/-- **The edge of a call leads where the call leads and loses no argument**; a leaf that comes with it
is no function. -/
theorem siteEdge?_records (site : CallSite) (args : List Argument) {id : FunctionId} {index : Nat}
    {e : CallEdge × Option NodeKind}
    (h : siteEdge? rewritten id index { site with args } (resolveSite modules functions caller site) =
      some e) :
    e.2 ≠ some .function ∧ ∃ callee, KeptCall modules functions caller site callee ∧
      e.1.Records id callee index site.location (args.map (·.label)) := by
  rcases resolveSite_cases modules functions caller site with
    ⟨target, style, callee, hresolve, hcallee, htarget⟩ | ⟨hnone, htarget⟩
  · rw [htarget, siteEdge?, hrewritten, hcallee] at h
    cases h
    refine ⟨by simp, target, .function hresolve hcallee, rfl, ?_, rfl, rfl, ?_⟩
    · exact (hid callee).trans (hkeyed target callee hcallee)
    · exact perm_boundArgs_unboundArgs args (rewrite callee) _
  · rw [htarget] at h
    rcases outsideTarget_cases site.role with ⟨kind, hkind, hleaf, hrole⟩ | ⟨hdropped, _⟩
    · rw [hleaf] at h
      cases h
      exact ⟨fun hsome => hkind (Option.some.inj hsome), _, .leaf hnone hrole, rfl, rfl, rfl, rfl,
        .refl _⟩
    · rw [hdropped] at h
      cases h

end OneCall

/-! ## 3. The calls of a project -/

section Project

variable (modules : ModuleGraph) (functions : Functions) (registry : Registry)

/-- What the calls of a function give, by the summaries of the project. -/
def projectResults (f : FunctionFacts) : List Label :=
  callResults functions (callTargets modules functions)
    (summaries functions (callTargets modules functions)) f

/-- The functions of a project with the results of their calls put in. -/
def rewrittenFunctions : Functions := functions.summarized (callTargets modules functions) registry

/-- The edge of one call of a function, with the results of calls put into its arguments. -/
def keptEdge? (f : FunctionFacts) (call : CallSite × Nat) : Option (CallEdge × Option NodeKind) :=
  siteEdge? (rewrittenFunctions modules functions registry) f.id call.2
    { call.1 with args := call.1.args.map (·.substitute (projectResults modules functions f)) }
    (resolveSite modules functions f call.1)

/-- The edges of all calls that are kept. -/
def keptEdges : List (CallEdge × Option NodeKind) :=
  functions.values.flatMap fun f => f.calls.zipIdx.filterMap (keptEdge? modules functions registry f)

variable {modules functions registry}

theorem get?_rewrittenFunctions (id : FunctionId) :
    (rewrittenFunctions modules functions registry).get? id =
      (functions.get? id).map fun f => f.substitute registry (projectResults modules functions f) :=
  Functions.get?_summarized functions _ registry id

theorem keyed_rewrittenFunctions (hkeyed : functions.Keyed) :
    (rewrittenFunctions modules functions registry).Keyed := by
  intro id f' hf'
  rw [get?_rewrittenFunctions] at hf'
  obtain ⟨f, hf, rfl⟩ := Option.map_eq_some_iff.mp hf'
  exact hkeyed id f hf

/-- **After rewriting, the calls of a function stand beside their own targets.** -/
theorem edgesOf_rewritten {f : FunctionFacts} (hf : functions.get? f.id = some f) :
    edgesOf (rewrittenFunctions modules functions registry) (callTargets modules functions)
        (f.substitute registry (projectResults modules functions f)) =
      f.calls.zipIdx.filterMap (keptEdge? modules functions registry f) := by
  have hsites : Targets.sitesOf (callTargets modules functions) f.id =
      f.calls.map (resolveSite modules functions f) := by
    rw [Targets.sitesOf, callTargets, SortedMap.get?_mapValues, hf]
    rfl
  rw [edgesOf]
  dsimp only [FunctionFacts.substitute]
  rw [hsites, List.zip_map', List.zipIdx_map, List.filterMap_map]
  rfl

/-- All edges, said by the calls of the facts. -/
theorem flatMap_edgesOf_rewritten (hkeyed : functions.Keyed) :
    (rewrittenFunctions modules functions registry).values.flatMap
        (edgesOf (rewrittenFunctions modules functions registry) (callTargets modules functions)) =
      keptEdges modules functions registry := by
  have hvalues : (rewrittenFunctions modules functions registry).values =
      functions.values.map fun f => f.substitute registry (projectResults modules functions f) := by
    rw [rewrittenFunctions, Functions.summarized, SortedMap.values, SortedMap.values,
      SortedMap.mapValues, List.map_map, List.map_map]
    rfl
  rw [hvalues, List.flatMap_map]
  refine List.flatMap_congr fun f hf => ?_
  exact edgesOf_rewritten (hkeyed.get?_of_mem hf)

theorem keptEdge?_records (hkeyed : functions.Keyed) {f : FunctionFacts} {site : CallSite}
    {index : Nat} {e : CallEdge × Option NodeKind}
    (h : keptEdge? modules functions registry f (site, index) = some e) :
    e.2 ≠ some .function ∧ ∃ callee, KeptCall modules functions f site callee ∧
      e.1.Records f.id callee index site.location
        (site.args.map fun a => a.label.substitute (projectResults modules functions f)) := by
  obtain ⟨hkind, callee, hkept, hrecords⟩ :=
    siteEdge?_records get?_rewrittenFunctions (fun _ => rfl) hkeyed site _ h
  rw [List.map_map] at hrecords
  exact ⟨hkind, callee, hkept, hrecords⟩

/-- No two edges are of the same call. -/
theorem pairwise_keptEdges (hkeyed : functions.Keyed) :
    (keptEdges modules functions registry).Pairwise
      fun e e' => (e.1.caller, e.1.site) ≠ (e'.1.caller, e'.1.site) := by
  refine List.pairwise_flatMap.mpr ⟨fun f _ => ?_, ?_⟩
  · -- two calls of one function differ in their indices
    have hindices : f.calls.zipIdx.Pairwise fun c c' => c.2 ≠ c'.2 := by
      refine List.pairwise_map.mp ?_
      rw [List.zipIdx_map_snd]
      exact List.nodup_range'
    refine List.pairwise_filterMap.mpr (hindices.imp fun {c c'} hne e he e' he' heq => hne ?_)
    obtain ⟨_, _, _, hrecords⟩ := keptEdge?_records hkeyed he
    obtain ⟨_, _, _, hrecords'⟩ := keptEdge?_records hkeyed he'
    rw [← hrecords.site, ← hrecords'.site]
    exact (Prod.mk.inj heq).2
  · refine (List.pairwise_map.mp hkeyed.nodup_ids).imp fun {f f'} hne e he e' he' heq => hne ?_
    obtain ⟨⟨site, index⟩, _, he⟩ := List.mem_filterMap.mp he
    obtain ⟨⟨site', index'⟩, _, he'⟩ := List.mem_filterMap.mp he'
    obtain ⟨_, _, _, hrecords⟩ := keptEdge?_records hkeyed he
    obtain ⟨_, _, _, hrecords'⟩ := keptEdge?_records hkeyed he'
    rw [← hrecords.caller, ← hrecords'.caller]
    exact (Prod.mk.inj heq).1

/-- The edges are those of the kept calls. -/
theorem mem_keptEdges_iff (hkeyed : functions.Keyed) {e : CallEdge × Option NodeKind} :
    e ∈ keptEdges modules functions registry ↔ ∃ f site index,
      functions.get? f.id = some f ∧ f.calls[index]? = some site ∧
        keptEdge? modules functions registry f (site, index) = some e := by
  rw [keptEdges, List.mem_flatMap]
  constructor
  · rintro ⟨f, hf, he⟩
    obtain ⟨⟨site, index⟩, hcall, he⟩ := List.mem_filterMap.mp he
    exact ⟨f, site, index, hkeyed.get?_of_mem hf, List.mk_mem_zipIdx_iff_getElem?.mp hcall, he⟩
  · rintro ⟨f, site, index, hf, hcall, he⟩
    refine ⟨f, SortedMap.mem_values_iff.mpr ⟨f.id, hf⟩, List.mem_filterMap.mpr ⟨(site, index), ?_, he⟩⟩
    exact List.mk_mem_zipIdx_iff_getElem?.mpr hcall

end Project

/-! ## 4. Nodes -/

/-- A node is that of a function with these facts. -/
def CallNode.IsOf (n : CallNode) (f : FunctionFacts) : Prop :=
  n.id = f.id ∧ n.kind = .function ∧ n.facts = some f

/-- A graph houses functions: each has a node, and any other node is a leaf. -/
structure CallGraph.Houses (g : CallGraph) (functions : List FunctionFacts) : Prop where
  function : ∀ f ∈ functions, ∃ n ∈ g.nodes, n.IsOf f
  node : ∀ n ∈ g.nodes, (∃ f ∈ functions, n.IsOf f) ∨ n.kind ≠ .function ∧ n.facts = none

namespace CallGraph

variable {g g' : CallGraph} {functions : List FunctionFacts}

/-- Nodes with new names are all added. -/
theorem foldl_addNode_eq (nodes : List CallNode) (hdistinct : (nodes.map (·.id)).Nodup)
    (hnew : ∀ n ∈ nodes, g.contains n.id = false) :
    nodes.foldl addNode g = { g with nodes := g.nodes ++ nodes } := by
  induction nodes generalizing g with
  | nil => rw [List.foldl_nil, List.append_nil]
  | cons n nodes ih =>
    have hn : g.addNode n = { g with nodes := g.nodes ++ [n] } := by
      rw [addNode, hnew n List.mem_cons_self]
      rfl
    obtain ⟨hfresh, hrest⟩ := List.nodup_cons.mp hdistinct
    rw [List.foldl_cons, hn, ih hrest, List.append_assoc]
    · rfl
    · intro m hm
      have hold := hnew m (List.mem_cons_of_mem _ hm)
      rw [← Bool.not_eq_true, contains_iff_mem] at hold ⊢
      rw [List.map_append, List.mem_append]
      rintro (hmem | hmem)
      · exact hold hmem
      · exact hfresh (List.mem_singleton.mp hmem ▸ List.mem_map_of_mem hm)

/-- What adding an edge does: the edge comes last, and a leaf may come with it. -/
theorem addEdge_cases {e : CallEdge × Option NodeKind} (h : g.addEdge e = .ok g') :
    g'.edges = g.edges ++ [e.1] ∧ (g'.nodes = g.nodes ∨
      ∃ kind, e.2 = some kind ∧ g'.nodes = g.nodes ++ [{ id := e.1.callee, kind }]) := by
  rw [addEdge] at h
  cases hkind : e.2 with
  | none =>
    rw [hkind] at h
    obtain ⟨_, _, rfl⟩ := addCall_eq_ok_iff.mp h
    exact ⟨rfl, Or.inl rfl⟩
  | some kind =>
    rw [hkind] at h
    obtain ⟨_, _, rfl⟩ := addCall_eq_ok_iff.mp h
    rcases addNode_cases g { id := e.1.callee, kind } with ⟨_, hadd⟩ | ⟨_, hadd⟩
    · rw [hadd]
      exact ⟨rfl, Or.inl rfl⟩
    · rw [hadd]
      exact ⟨rfl, Or.inr ⟨kind, rfl, rfl⟩⟩

namespace Houses

/-- Nodes of functions house them. -/
theorem functionNodes (modules : ModuleGraph)
    (hnodes : g.nodes = functions.map (functionNode modules)) : g.Houses functions where
  function f hf := ⟨_, hnodes ▸ List.mem_map_of_mem hf, rfl, rfl, rfl⟩
  node n hn := by
    rw [hnodes] at hn
    obtain ⟨f, hf, rfl⟩ := List.mem_map.mp hn
    exact Or.inl ⟨f, hf, rfl, rfl, rfl⟩

theorem addEdge {e : CallEdge × Option NodeKind} (hg : g.Houses functions)
    (hkind : e.2 ≠ some .function) (h : g.addEdge e = .ok g') : g'.Houses functions := by
  rcases (addEdge_cases h).2 with hnodes | ⟨kind, hsome, hnodes⟩
  · exact ⟨hnodes ▸ hg.function, hnodes ▸ hg.node⟩
  · refine ⟨fun f hf => ?_, fun n hn => ?_⟩
    · obtain ⟨n, hn, hof⟩ := hg.function f hf
      exact ⟨n, hnodes ▸ List.mem_append_left _ hn, hof⟩
    · rw [hnodes] at hn
      rcases List.mem_append.mp hn with hn | hn
      · exact hg.node n hn
      · rw [List.mem_singleton.mp hn]
        exact Or.inr ⟨fun hfunction => hkind (hsome.trans (congrArg some hfunction)), rfl⟩

/-- **Adding edges loses none of them and leaves the functions alone.** -/
theorem foldlM_addEdge {edges : List (CallEdge × Option NodeKind)} (hg : g.Houses functions)
    (hkind : ∀ e ∈ edges, e.2 ≠ some .function) (h : edges.foldlM CallGraph.addEdge g = .ok g') :
    g'.Houses functions ∧ g'.edges = g.edges ++ edges.map (·.1) := by
  induction edges generalizing g with
  | nil =>
    cases h
    exact ⟨hg, (List.append_nil _).symm⟩
  | cons e edges ih =>
    rw [List.foldlM_cons] at h
    cases he : g.addEdge e with
    | error id =>
      rw [he] at h
      cases h
    | ok next =>
      rw [he] at h
      obtain ⟨hhouses, hedges⟩ := ih (hg.addEdge (hkind e List.mem_cons_self) he)
        (fun e' he' => hkind e' (List.mem_cons_of_mem _ he')) h
      refine ⟨hhouses, ?_⟩
      rw [hedges, (addEdge_cases he).1, List.append_assoc]
      rfl

theorem markCallCycles (hg : g.Houses functions) : g.markCallCycles.Houses functions := by
  refine ⟨fun f hf => ?_, fun n hn => ?_⟩
  · obtain ⟨n, hn, hof⟩ := hg.function f hf
    exact ⟨_, List.mem_map_of_mem hn, hof⟩
  · obtain ⟨m, hm, rfl⟩ := List.mem_map.mp hn
    exact hg.node m hm

/-- The functions of a graph are found under their names, rewritten as they are housed. -/
theorem facts?_eq (hg : g.WellFormed) {functions : Functions} (h : g.Houses functions.values)
    (hkeyed : functions.Keyed) (id : FunctionId) : g.facts? id = functions.get? id := by
  refine Option.ext fun f => ⟨fun hf => ?_, fun hf => ?_⟩
  · obtain ⟨n, hn, _, hid, hfacts⟩ := facts?_eq_some hf
    rcases h.node n hn with ⟨f', hf', hid', _, hfacts'⟩ | ⟨_, hnone⟩
    · rw [hfacts] at hfacts'
      cases hfacts'
      rw [← hid, hid']
      exact hkeyed.get?_of_mem hf'
    · rw [hfacts] at hnone
      cases hnone
  · obtain ⟨n, hn, hid, _, hfacts⟩ := h.function f (SortedMap.mem_values_iff.mpr ⟨id, hf⟩)
    rw [facts?, ← hkeyed id f hf, ← hid, hg.node?_of_mem hn]
    exact hfacts

theorem exists_node_iff {functions : Functions} (h : g.Houses functions.values)
    (hkeyed : functions.Keyed) {id : FunctionId} :
    (∃ n ∈ g.nodes, n.id = id ∧ n.kind = .function) ↔ (functions.get? id).isSome = true := by
  constructor
  · rintro ⟨n, hn, rfl, hkind⟩
    rcases h.node n hn with ⟨f, hf, hid, _, _⟩ | ⟨hleaf, _⟩
    · rw [hid, hkeyed.get?_of_mem hf]
      rfl
    · exact absurd hkind hleaf
  · intro hsome
    obtain ⟨f, hf⟩ := Option.isSome_iff_exists.mp hsome
    obtain ⟨n, hn, hid, hkind, _⟩ := h.function f (SortedMap.mem_values_iff.mpr ⟨id, hf⟩)
    exact ⟨n, hn, hid.trans (hkeyed id f hf), hkind⟩

end Houses

/-- **What is built**: a node for each rewritten function, and the edges of their calls in order. -/
theorem houses_of_build {modules : ModuleGraph} {facts : List FunctionFacts} {registry : Registry}
    (h : build modules facts registry = .ok g) :
    g.Houses (rewrittenFunctions modules (.ofFacts facts) registry).values ∧
      g.edges = (keptEdges modules (.ofFacts facts) registry).map (·.1) := by
  have hkeyed := Functions.keyed_ofFacts facts
  obtain ⟨graph, hgraph, rfl⟩ :=
    build_eq_ok h rfl (show _ = rewrittenFunctions modules (.ofFacts facts) registry from rfl)
  have hids : ((rewrittenFunctions modules (.ofFacts facts) registry).values.map (·.id)).Nodup :=
    (keyed_rewrittenFunctions hkeyed).nodup_ids
  have hleaves : ∀ e ∈ keptEdges modules (.ofFacts facts) registry, e.2 ≠ some .function := by
    intro e he
    obtain ⟨f, site, index, _, _, he⟩ := (mem_keptEdges_iff hkeyed).mp he
    exact (keptEdge?_records hkeyed he).1
  rw [flatMap_edgesOf_rewritten hkeyed,
    foldl_addNode_eq _ (by rw [List.map_map]; exact hids) fun _ _ => rfl] at hgraph
  obtain ⟨hhouses, hedges⟩ := (Houses.functionNodes modules rfl).foldlM_addEdge hleaves hgraph
  exact ⟨hhouses.markCallCycles, hedges⟩

end CallGraph

/-! ## 5. The whole graph -/

/-- The facts that count for a name: of several the last. -/
def lastNamed? (facts : List FunctionFacts) (id : FunctionId) : Option FunctionFacts :=
  facts.reverse.find? fun f => f.id == id

theorem get?_ofFacts_eq_lastNamed? (facts : List FunctionFacts) (id : FunctionId) :
    (Functions.ofFacts facts).get? id = lastNamed? facts id := by
  have hsame : ∀ f : FunctionFacts, (compare id f.id == .eq) = (f.id == id) := by
    intro f
    rw [Bool.eq_iff_iff, beq_iff_eq, beq_iff_eq, Std.LawfulEqOrd.compare_eq_iff_eq, eq_comm]
  rw [Functions.ofFacts, SortedMap.get?_ofList, ← List.map_reverse, List.find?_map, Option.map_map]
  simp only [Function.comp_def, hsame]
  exact Option.map_id'

theorem lastNamed?_isSome_iff {facts : List FunctionFacts} {id : FunctionId} :
    (lastNamed? facts id).isSome = true ↔ ∃ f ∈ facts, f.id = id := by
  simp [lastNamed?]

section Built

variable {modules : ModuleGraph} {facts : List FunctionFacts} {registry : Registry} {g : CallGraph}

/-- An edge is that of a call. -/
theorem exists_call_of_mem_edges (h : CallGraph.build modules facts registry = .ok g) {e : CallEdge}
    (he : e ∈ g.edges) :
    ∃ f site, lastNamed? facts e.caller = some f ∧ f.calls[e.site]? = some site ∧
      KeptCall modules (.ofFacts facts) f site e.callee ∧ e.location = site.location ∧
      (e.bindings.map (·.label) ++ e.unbound).Perm
        (site.args.map fun a => a.label.substitute (projectResults modules (.ofFacts facts) f)) := by
  have hkeyed := Functions.keyed_ofFacts facts
  rw [(CallGraph.houses_of_build h).2] at he
  obtain ⟨e', he', rfl⟩ := List.mem_map.mp he
  obtain ⟨f, site, index, hf, hsite, he'⟩ := (mem_keptEdges_iff hkeyed).mp he'
  obtain ⟨_, callee, hkept, hrecords⟩ := keptEdge?_records hkeyed he'
  rw [hrecords.caller, hrecords.site, hrecords.callee, ← get?_ofFacts_eq_lastNamed?]
  exact ⟨f, site, hf, hsite, hkept, hrecords.location, hrecords.labels⟩

/-- A kept call has an edge. -/
theorem exists_edge_of_kept (h : CallGraph.build modules facts registry = .ok g)
    {caller callee : FunctionId} {index : Nat} {f : FunctionFacts} {site : CallSite}
    (hf : lastNamed? facts caller = some f) (hsite : f.calls[index]? = some site)
    (hkept : KeptCall modules (.ofFacts facts) f site callee) :
    ∃ e ∈ g.edges, e.caller = caller ∧ e.site = index := by
  have hkeyed := Functions.keyed_ofFacts facts
  rw [← get?_ofFacts_eq_lastNamed?] at hf
  have hid := hkeyed caller f hf
  have hsome : (keptEdge? modules (.ofFacts facts) registry f (site, index)).isSome = true :=
    (siteEdge?_isSome_iff get?_rewrittenFunctions _ _ _).mpr ⟨callee, hkept⟩
  obtain ⟨e, he⟩ := Option.isSome_iff_exists.mp hsome
  obtain ⟨_, _, _, hrecords⟩ := keptEdge?_records hkeyed he
  refine ⟨e.1, ?_, hrecords.caller.trans hid, hrecords.site⟩
  rw [(CallGraph.houses_of_build h).2]
  exact List.mem_map_of_mem ((mem_keptEdges_iff hkeyed).mpr ⟨f, site, index, hid ▸ hf, hsite, he⟩)

end Built

/-- **Building never fails and loses no call.** From any modules, facts and registry a graph is built.
Its functions are those of the facts, of several for one name the last, rewritten by the summaries. Its
edges are told apart by caller and index, and there is one for a caller and an index exactly if the call
there is kept. Each edge is that of its call: with its place, from node to node, to where the call leads,
and with the rewritten label of every argument once, bound to a parameter or not. -/
theorem build_keeps_calls (modules : ModuleGraph) (facts : List FunctionFacts)
    (registry : Registry) :
    ∃ g, CallGraph.build modules facts registry = .ok g ∧
      (∀ id, (∃ n ∈ g.nodes, n.id = id ∧ n.kind = .function) ↔ ∃ f ∈ facts, f.id = id) ∧
      (∀ id, g.facts? id = (lastNamed? facts id).map fun f =>
        f.substitute registry (projectResults modules (.ofFacts facts) f)) ∧
      (g.edges.map fun e => (e.caller, e.site)).Nodup ∧
      (∀ caller index, (∃ e ∈ g.edges, e.caller = caller ∧ e.site = index) ↔
        ∃ f site callee, lastNamed? facts caller = some f ∧ f.calls[index]? = some site ∧
          KeptCall modules (.ofFacts facts) f site callee) ∧
      ∀ e ∈ g.edges, g.contains e.caller = true ∧ g.contains e.callee = true ∧
        ∃ f site, lastNamed? facts e.caller = some f ∧ f.calls[e.site]? = some site ∧
          KeptCall modules (.ofFacts facts) f site e.callee ∧ e.location = site.location ∧
          (e.bindings.map (·.label) ++ e.unbound).Perm (site.args.map fun a =>
            a.label.substitute (projectResults modules (.ofFacts facts) f)) := by
  obtain ⟨g, hg⟩ := CallGraph.exists_build modules facts registry
  have hwell := CallGraph.build_wellFormed hg
  have hkeyed := Functions.keyed_ofFacts facts
  have hkeyed' : (rewrittenFunctions modules (.ofFacts facts) registry).Keyed :=
    keyed_rewrittenFunctions hkeyed
  obtain ⟨hhouses, hedges⟩ := CallGraph.houses_of_build hg
  refine ⟨g, hg, fun id => ?_, fun id => ?_, ?_, fun caller index => ⟨?_, ?_⟩, fun e he => ?_⟩
  · rw [hhouses.exists_node_iff hkeyed', get?_rewrittenFunctions, Option.isSome_map,
      get?_ofFacts_eq_lastNamed?, lastNamed?_isSome_iff]
  · rw [hhouses.facts?_eq hwell hkeyed', get?_rewrittenFunctions, get?_ofFacts_eq_lastNamed?]
  · rw [hedges, List.map_map]
    exact List.pairwise_map.mpr (pairwise_keptEdges hkeyed)
  · rintro ⟨e, he, rfl, rfl⟩
    obtain ⟨f, site, hf, hsite, hkept, _⟩ := exists_call_of_mem_edges hg he
    exact ⟨f, site, e.callee, hf, hsite, hkept⟩
  · rintro ⟨f, site, callee, hf, hsite, hkept⟩
    exact exists_edge_of_kept hg hf hsite hkept
  · exact ⟨(hwell.ends e he).1, (hwell.ends e he).2, exists_call_of_mem_edges hg he⟩

end TaintFlow
