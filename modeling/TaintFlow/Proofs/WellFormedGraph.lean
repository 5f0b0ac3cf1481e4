import Mathlib.Data.List.Nodup
import TaintFlow.CallGraph.Build
import TaintFlow.Proofs.MapLookup

/-!
# Well-formed call graphs

A graph that was built has at most one node for each name, a node that carries facts is the node of
the function that the facts are about, and every edge runs between nodes (`build_wellFormed`). So a
function of the graph is known by its name alone: `facts?` gives it back (`WellFormed.facts?_self`).

Names stay unique and edges keep their nodes whatever nodes and calls are added (`Consistent`); only that
nodes carry their own facts depends on how a graph is built.

Building never fails (`exists_build`): the edges of a function's calls run between functions that
have nodes, or to a leaf that is added with the edge.
-/

namespace TaintFlow

/-- A node carries facts of its own function only, and only a function carries facts. -/
def CallNode.Own (n : CallNode) : Prop := ∀ f, n.facts = some f → f.id = n.id ∧ n.kind = .function

namespace CallGraph

/-- Names are unique and edges run between nodes, whatever the nodes carry. -/
structure Consistent (g : CallGraph) : Prop where
  distinct : (g.nodes.map (·.id)).Nodup
  ends : ∀ e ∈ g.edges, g.contains e.caller = true ∧ g.contains e.callee = true

/-- Names are unique, nodes carry their own facts, edges run between nodes. -/
structure WellFormed (g : CallGraph) : Prop where
  distinct : (g.nodes.map (·.id)).Nodup
  own : ∀ n ∈ g.nodes, n.Own
  ends : ∀ e ∈ g.edges, g.contains e.caller = true ∧ g.contains e.callee = true

/-! ## 1. Looking -/

variable {g : CallGraph} {id : FunctionId}

theorem node?_eq_some {n : CallNode} (h : g.node? id = some n) : n ∈ g.nodes ∧ n.id = id := by
  have hid : n.id = id := by simpa using List.find?_some h
  exact ⟨List.mem_of_find?_eq_some h, hid⟩

theorem contains_iff_mem : g.contains id = true ↔ id ∈ g.nodes.map (·.id) := by
  rw [contains, node?, List.find?_isSome, List.mem_map]
  constructor
  · rintro ⟨n, hn, h⟩
    exact ⟨n, hn, by simpa using h⟩
  · rintro ⟨n, hn, rfl⟩
    exact ⟨n, hn, by simp⟩

theorem facts?_eq_some {f : FunctionFacts} (h : g.facts? id = some f) :
    ∃ n ∈ g.nodes, g.node? id = some n ∧ n.id = id ∧ n.facts = some f := by
  obtain ⟨n, hn, hf⟩ := Option.bind_eq_some_iff.mp h
  obtain ⟨hmem, hid⟩ := node?_eq_some hn
  exact ⟨n, hmem, hn, hid, hf⟩

theorem mem_callees {e : CallEdge} : e ∈ g.callees id ↔ e ∈ g.edges ∧ e.caller = id := by
  rw [callees, CallEdge.sort, List.mem_mergeSort, List.mem_filter, List.mem_reverse, beq_iff_eq]

theorem mem_callers {e : CallEdge} : e ∈ g.callers id ↔ e ∈ g.edges ∧ e.callee = id := by
  rw [callers, CallEdge.sort, List.mem_mergeSort, List.mem_filter, List.mem_reverse, beq_iff_eq]

theorem length_callees_le : (g.callees id).length ≤ g.edges.length := by
  rw [callees, CallEdge.sort, List.length_mergeSort]
  exact Nat.le_trans (List.length_filter_le _ _) (Nat.le_of_eq List.length_reverse)

theorem length_callers_le : (g.callers id).length ≤ g.edges.length := by
  rw [callers, CallEdge.sort, List.length_mergeSort]
  exact Nat.le_trans (List.length_filter_le _ _) (Nat.le_of_eq List.length_reverse)

theorem mem_between {caller callee : FunctionId} {e : CallEdge} :
    e ∈ g.between caller callee ↔ e ∈ g.edges ∧ e.caller = caller ∧ e.callee = callee := by
  rw [between, List.mem_filter, mem_callees, beq_iff_eq, and_assoc]

namespace WellFormed

/-- In a list with unique names a name picks out its node. -/
theorem node?_of_mem (hg : g.WellFormed) {n : CallNode} (hn : n ∈ g.nodes) :
    g.node? n.id = some n := by
  have hsome : g.contains n.id = true := contains_iff_mem.mpr (List.mem_map_of_mem hn)
  obtain ⟨m, hm⟩ := Option.isSome_iff_exists.mp hsome
  obtain ⟨hmem, hid⟩ := node?_eq_some hm
  rw [hm, List.inj_on_of_nodup_map hg.distinct hmem hn hid]

/-- The facts under a name are about the function of that name. -/
theorem facts?_id (hg : g.WellFormed) {f : FunctionFacts} (h : g.facts? id = some f) : f.id = id := by
  obtain ⟨n, hmem, _, hid, hf⟩ := facts?_eq_some h
  rw [← hid]
  exact (hg.own n hmem f hf).1

/-- **A function of the graph is found under its own name.** -/
theorem facts?_self (hg : g.WellFormed) {f : FunctionFacts} (h : g.facts? id = some f) :
    g.facts? f.id = some f := by
  rw [hg.facts?_id h]
  exact h

/-- The functions with a source, said by name. -/
theorem mem_sourceFunctions (hg : g.WellFormed) {f : FunctionFacts} :
    f ∈ g.sourceFunctions ↔ g.facts? f.id = some f ∧ f.touchesSource = true := by
  rw [sourceFunctions, List.mem_filter, List.mem_filterMap]
  constructor
  · rintro ⟨⟨n, hn, hf⟩, ht⟩
    have hmem : n ∈ g.nodes := List.mem_mergeSort.mp hn
    refine ⟨?_, ht⟩
    rw [(hg.own n hmem f hf).1, facts?, hg.node?_of_mem hmem]
    exact hf
  · rintro ⟨h, ht⟩
    obtain ⟨n, hmem, _, _, hf⟩ := facts?_eq_some h
    exact ⟨⟨n, List.mem_mergeSort.mpr hmem, hf⟩, ht⟩

end WellFormed

/-! ## 2. Adding -/

/-- What adding a node does: nothing to a name that has one, else the node comes last. -/
theorem addNode_cases (g : CallGraph) (n : CallNode) :
    g.contains n.id = true ∧ g.addNode n = g ∨
      g.contains n.id = false ∧ g.addNode n = { g with nodes := g.nodes ++ [n] } := by
  rw [addNode]
  split
  · rename_i hold
    exact Or.inl ⟨hold, rfl⟩
  · rename_i hnew
    exact Or.inr ⟨Bool.eq_false_iff.mpr hnew, rfl⟩

/-- What adding a call does: it comes last if both its ends have nodes, else the first that has none
is told. -/
theorem addCall_cases (g : CallGraph) (e : CallEdge) :
    g.contains e.caller = true ∧ g.contains e.callee = true ∧
        g.addCall e = .ok { g with edges := g.edges ++ [e] } ∨
      ∃ id, g.contains id = false ∧ (id = e.caller ∨ g.contains e.caller = true ∧ id = e.callee) ∧
        g.addCall e = .error id := by
  rw [addCall]
  cases hcaller : g.contains e.caller with
  | false => exact Or.inr ⟨e.caller, hcaller, Or.inl rfl, rfl⟩
  | true =>
    cases hcallee : g.contains e.callee with
    | false => exact Or.inr ⟨e.callee, hcallee, Or.inr ⟨rfl, rfl⟩, rfl⟩
    | true => exact Or.inl ⟨rfl, rfl, rfl⟩

theorem addCall_eq_ok_iff {e : CallEdge} {g' : CallGraph} : g.addCall e = .ok g' ↔
    g.contains e.caller = true ∧ g.contains e.callee = true ∧
      g' = { g with edges := g.edges ++ [e] } := by
  rcases addCall_cases g e with ⟨hcaller, hcallee, h⟩ | ⟨id, hnone, hend, h⟩
  · rw [h, Except.ok.injEq]
    exact ⟨fun heq => ⟨hcaller, hcallee, heq.symm⟩, fun heq => heq.2.2.symm⟩
  · rw [h]
    refine iff_of_false (fun hok => by cases hok) fun ⟨hcaller, hcallee, _⟩ => ?_
    rcases hend with rfl | ⟨_, rfl⟩
    · rw [hnone] at hcaller
      cases hcaller
    · rw [hnone] at hcallee
      cases hcallee

/-- Adding a node keeps what was there. -/
theorem contains_addNode {n : CallNode} (h : g.contains id = true) :
    (g.addNode n).contains id = true := by
  rcases addNode_cases g n with ⟨_, hadd⟩ | ⟨_, hadd⟩
  · rw [hadd]
    exact h
  · rw [contains_iff_mem] at h ⊢
    rw [hadd, List.map_append]
    exact List.mem_append_left _ h

theorem contains_addNode_self (g : CallGraph) (n : CallNode) : (g.addNode n).contains n.id = true := by
  rcases addNode_cases g n with ⟨hold, hadd⟩ | ⟨_, hadd⟩
  · rw [hadd]
    exact hold
  · rw [hadd, contains_iff_mem, List.map_append]
    exact List.mem_append_right _ List.mem_cons_self

namespace Consistent

theorem empty (registry : Registry) : (CallGraph.empty registry).Consistent where
  distinct := List.nodup_nil
  ends _ he := absurd he List.not_mem_nil

theorem addNode (hg : g.Consistent) (n : CallNode) : (g.addNode n).Consistent := by
  have ends : ∀ e ∈ g.edges, (g.addNode n).contains e.caller = true ∧
      (g.addNode n).contains e.callee = true := fun e he =>
    ⟨contains_addNode (hg.ends e he).1, contains_addNode (hg.ends e he).2⟩
  rcases addNode_cases g n with ⟨_, hadd⟩ | ⟨hnew, hadd⟩
  · rw [hadd]
    exact hg
  · rw [hadd] at ends ⊢
    refine ⟨?_, ends⟩
    rw [List.map_append]
    refine List.nodup_append.mpr ⟨hg.distinct, by simp, fun a ha b hb e => ?_⟩
    have hb : b = n.id := by simpa using hb
    rw [contains_iff_mem.mpr (hb ▸ e ▸ ha)] at hnew
    cases hnew

theorem addCall (hg : g.Consistent) {e : CallEdge} {g' : CallGraph} (h : g.addCall e = .ok g') :
    g'.Consistent := by
  obtain ⟨hcaller, hcallee, rfl⟩ := addCall_eq_ok_iff.mp h
  refine ⟨hg.distinct, fun e' he' => ?_⟩
  rcases List.mem_append.mp he' with he' | he'
  · exact hg.ends e' he'
  · rw [List.mem_singleton.mp he']
    exact ⟨hcaller, hcallee⟩

end Consistent

/-! ## 3. Building -/

namespace WellFormed

theorem consistent (hg : g.WellFormed) : g.Consistent := ⟨hg.distinct, hg.ends⟩

theorem empty (registry : Registry) : (CallGraph.empty registry).WellFormed where
  distinct := List.nodup_nil
  own _ hn := absurd hn List.not_mem_nil
  ends _ he := absurd he List.not_mem_nil

theorem addNode (hg : g.WellFormed) {n : CallNode} (hn : n.Own) : (g.addNode n).WellFormed := by
  obtain ⟨distinct, ends⟩ := hg.consistent.addNode n
  refine ⟨distinct, fun m hm => ?_, ends⟩
  rcases addNode_cases g n with ⟨_, hadd⟩ | ⟨_, hadd⟩
  · rw [hadd] at hm
    exact hg.own m hm
  · rw [hadd] at hm
    rcases List.mem_append.mp hm with hm | hm
    · exact hg.own m hm
    · rw [List.mem_singleton.mp hm]
      exact hn

theorem addCall (hg : g.WellFormed) {e : CallEdge} {g' : CallGraph} (h : g.addCall e = .ok g') :
    g'.WellFormed := by
  obtain ⟨distinct, ends⟩ := hg.consistent.addCall h
  obtain ⟨_, _, rfl⟩ := addCall_eq_ok_iff.mp h
  exact ⟨distinct, hg.own, ends⟩

theorem addEdge (hg : g.WellFormed) {e : CallEdge × Option NodeKind} {g' : CallGraph}
    (h : g.addEdge e = .ok g') : g'.WellFormed := by
  rw [CallGraph.addEdge] at h
  split at h
  · have hleaf : ∀ kind : NodeKind, CallNode.Own { id := e.1.callee, kind } := by
      intro kind f hf
      cases hf
    exact (hg.addNode (hleaf _)).addCall h
  · exact hg.addCall h

theorem foldl_addNode (hg : g.WellFormed) (nodes : List CallNode) (h : ∀ n ∈ nodes, n.Own) :
    (nodes.foldl CallGraph.addNode g).WellFormed := by
  induction nodes generalizing g with
  | nil => exact hg
  | cons n nodes ih =>
    exact ih (hg.addNode (h n List.mem_cons_self)) fun m hm => h m (List.mem_cons_of_mem _ hm)

theorem foldlM_addEdge (hg : g.WellFormed) {edges : List (CallEdge × Option NodeKind)}
    {g' : CallGraph} (h : edges.foldlM CallGraph.addEdge g = .ok g') : g'.WellFormed := by
  induction edges generalizing g with
  | nil => cases h; exact hg
  | cons e edges ih =>
    rw [List.foldlM_cons] at h
    cases he : g.addEdge e with
    | error id => rw [he] at h; cases h
    | ok next =>
      rw [he] at h
      exact ih (hg.addEdge he) h

/-- Marking cycles touches no name, no facts and no edge. -/
theorem markCallCycles (hg : g.WellFormed) : g.markCallCycles.WellFormed := by
  have hids : g.markCallCycles.nodes.map (·.id) = g.nodes.map (·.id) := by
    rw [CallGraph.markCallCycles, List.map_map]
    rfl
  refine ⟨hids ▸ hg.distinct, fun n hn => ?_, fun e he => ?_⟩
  · obtain ⟨m, hm, rfl⟩ := List.mem_map.mp hn
    exact hg.own m hm
  · rw [contains_iff_mem, contains_iff_mem, hids, ← contains_iff_mem, ← contains_iff_mem]
    exact hg.ends e he

end WellFormed

/-- What building does: the functions get nodes, then edges are added, then cycles are marked. -/
theorem build_eq_ok {modules : ModuleGraph} {facts : List FunctionFacts} {registry : Registry}
    (h : build modules facts registry = .ok g) {targets : Targets} {functions : Functions}
    (htargets : callTargets modules (.ofFacts facts) = targets)
    (hfunctions : (Functions.ofFacts facts).summarized targets registry = functions) :
    ∃ graph, (functions.values.flatMap (edgesOf functions targets)).foldlM addEdge
        ((functions.values.map (functionNode modules)).foldl CallGraph.addNode (empty registry)) =
          .ok graph ∧ g = graph.markCallCycles := by
  simp only [build, bind, Except.bind, htargets, hfunctions] at h
  split at h
  · cases h
  · rename_i graph hgraph
    cases h
    rw [← List.foldl_map] at hgraph
    exact ⟨graph, hgraph, rfl⟩

/-- **Every graph that is built is well formed.** -/
theorem build_wellFormed {modules : ModuleGraph} {facts : List FunctionFacts} {registry : Registry}
    (h : build modules facts registry = .ok g) : g.WellFormed := by
  obtain ⟨graph, hgraph, rfl⟩ := build_eq_ok h rfl rfl
  refine WellFormed.markCallCycles (WellFormed.foldlM_addEdge ?_ hgraph)
  refine (WellFormed.empty registry).foldl_addNode _ fun n hn => ?_
  obtain ⟨f, _, rfl⟩ := List.mem_map.mp hn
  intro f' hf'
  cases hf'
  exact ⟨rfl, rfl⟩

/-! ## 4. Building never fails -/

theorem contains_foldl_addNode {nodes : List CallNode}
    (h : g.contains id = true ∨ id ∈ nodes.map (·.id)) :
    (nodes.foldl addNode g).contains id = true := by
  induction nodes generalizing g with
  | nil => exact h.resolve_right List.not_mem_nil
  | cons n nodes ih =>
    refine ih ?_
    rcases h with h | h
    · exact Or.inl (contains_addNode h)
    · rcases List.mem_cons.mp h with rfl | h
      · exact Or.inl (contains_addNode_self g n)
      · exact Or.inr h

/-- An edge from a function with a node is added if it leads to a node or to a leaf of its own. -/
theorem exists_addEdge {e : CallEdge × Option NodeKind} (hcaller : g.contains e.1.caller = true)
    (hcallee : e.2 = none → g.contains e.1.callee = true) :
    ∃ g', g.addEdge e = .ok g' ∧ ∀ id, g.contains id = true → g'.contains id = true := by
  rw [addEdge]
  cases hkind : e.2 with
  | none => exact ⟨_, addCall_eq_ok_iff.mpr ⟨hcaller, hcallee hkind, rfl⟩, fun _ h => h⟩
  | some kind =>
    exact ⟨_, addCall_eq_ok_iff.mpr ⟨contains_addNode hcaller, contains_addNode_self g _, rfl⟩,
      fun _ h => contains_addNode h⟩

theorem exists_foldlM_addEdge {edges : List (CallEdge × Option NodeKind)}
    (h : ∀ e ∈ edges, g.contains e.1.caller = true ∧
      (e.2 = none → g.contains e.1.callee = true)) : ∃ g', edges.foldlM addEdge g = .ok g' := by
  induction edges generalizing g with
  | nil => exact ⟨g, rfl⟩
  | cons e edges ih =>
    obtain ⟨hcaller, hcallee⟩ := h e List.mem_cons_self
    obtain ⟨g', hg', hkeeps⟩ := exists_addEdge hcaller hcallee
    rw [List.foldlM_cons, hg']
    refine ih fun e' he' => ?_
    obtain ⟨hcaller', hcallee'⟩ := h e' (List.mem_cons_of_mem _ he')
    exact ⟨hkeeps _ hcaller', fun hnone => hkeeps _ (hcallee' hnone)⟩

/-- The edges of a function's calls start at it and lead to functions or to leaves. -/
theorem ends_of_mem_edgesOf {functions : Functions} {targets : Targets} {caller : FunctionFacts}
    {e : CallEdge × Option NodeKind} (h : e ∈ edgesOf functions targets caller) :
    e.1.caller = caller.id ∧
      (e.2 = none → ∃ callee ∈ functions.values, e.1.callee = callee.id) := by
  obtain ⟨⟨⟨site, target⟩, index⟩, _, he⟩ := List.mem_filterMap.mp h
  cases target with
  | function id offset =>
    obtain ⟨callee, hcallee, rfl⟩ := Option.map_eq_some_iff.mp he
    exact ⟨rfl, fun _ => ⟨callee, SortedMap.mem_values_iff.mpr ⟨id, hcallee⟩, rfl⟩⟩
  | leaf kind =>
    cases he
    exact ⟨rfl, nofun⟩
  | dropped => cases he

/-- **A graph can be built from any facts.** -/
theorem exists_build (modules : ModuleGraph) (facts : List FunctionFacts) (registry : Registry) :
    ∃ g, build modules facts registry = .ok g := by
  rw [build]
  generalize callTargets modules (Functions.ofFacts facts) = targets
  generalize (Functions.ofFacts facts).summarized targets registry = functions
  generalize hstart : functions.values.foldl (fun g f => g.addNode (functionNode modules f))
    (empty registry) = start
  have hnodes : ∀ f ∈ functions.values, start.contains f.id = true := by
    intro f hf
    rw [← hstart, ← List.foldl_map]
    refine contains_foldl_addNode (Or.inr ?_)
    rw [List.map_map]
    exact List.mem_map.mpr ⟨f, hf, rfl⟩
  have hedges : ∀ e ∈ functions.values.flatMap (edgesOf functions targets),
      start.contains e.1.caller = true ∧ (e.2 = none → start.contains e.1.callee = true) := by
    intro e he
    obtain ⟨caller, hcaller, he⟩ := List.mem_flatMap.mp he
    obtain ⟨hfrom, hto⟩ := ends_of_mem_edgesOf he
    refine ⟨hfrom ▸ hnodes caller hcaller, fun hnone => ?_⟩
    obtain ⟨callee, hcallee, hid⟩ := hto hnone
    exact hid ▸ hnodes callee hcallee
  obtain ⟨g', hg'⟩ := exists_foldlM_addEdge hedges
  rw [hg']
  exact ⟨_, rfl⟩

end CallGraph

/-! ## 5. A small project

`main` hands what `main.read` reads from outside, escaped, to `main.run`, where it reaches a sink. -/

namespace SmallProject

def line (n : Nat) : Location := ⟨⟨"app.py"⟩, n, 1⟩

def reader : FunctionFacts where
  id := ⟨"app", "main.read"⟩
  line := 2
  sources := .singleton ⟨line 3, .input⟩
  returns := .source Source.input.id

def sinkHit : SinkHit where
  sink :=
    { id := "code.eval", name := "eval", weakness := .codeInjection, severity := .critical
      dangerousArgs := [0], dangerousKeywords := [], remediation := "" }
  location := line 5
  argument := .positional 0
  label := .param 0
  sanitized := false

def runner : FunctionFacts where
  id := ⟨"app", "main.run"⟩
  line := 4
  params := ["text"]
  positionalParams := 1
  sinkHits := [sinkHit]

/-- What `main` hands on. -/
def escaped : Label := ⟨.singleton (.call 0), .singleton "html.escape"⟩

def main : FunctionFacts where
  id := ⟨"app", "main"⟩
  line := 1
  calls :=
    [{ callee := "read", location := line 6, args := [], dynamic := false, role := none
       result := .clean },
     { callee := "run", location := line 7, args := [⟨.positional 0, escaped⟩], dynamic := false
       role := none, result := escaped }]

def readCall : CallEdge where
  caller := main.id
  callee := reader.id
  location := line 6
  site := 0
  bindings := []
  unbound := []
  dynamic := false

def runCall : CallEdge where
  caller := main.id
  callee := runner.id
  location := line 7
  site := 1
  bindings := [⟨0, escaped⟩]
  unbound := []
  dynamic := false

def graph : CallGraph where
  registry := {}
  nodes := [main, reader, runner].map fun f => { id := f.id, kind := .function, facts := some f }
  edges := [readCall, runCall]

theorem build_eq : CallGraph.build ⟨∅⟩ [main, reader, runner] {} = .ok graph := rfl

end SmallProject

end TaintFlow
