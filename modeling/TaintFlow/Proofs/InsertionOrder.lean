import Mathlib.Data.List.Nodup
import Mathlib.Data.List.Pairwise
import TaintFlow.Proofs.Events
import TaintFlow.Propagation.Validate

/-!
# The order of insertion does not matter

A graph is put together by inserting nodes and calls, and keeps both in the order of insertion. The
outcome of following taint does not depend on that order (`propagation_ignores_insertion_order`): from
the same nodes and calls, inserted in any two orders in which a call comes after the nodes it joins,
the two graphs give the same outcome within any limits.

A search looks at a graph through a few views only: the node of a name, the calls of a function and to
it, the functions with a source, and two bounds. `Alike` says that two graphs agree in these. The views
are lookups by a unique name, lists sorted by a key that tells their entries apart, and counts, so a
permutation of nodes and edges does not change them (`alike_of_perm`). Every function of the search is
then carried over from the one graph to the other in the order in which they are built on each other.
-/

namespace TaintFlow

/-! ## 1. What a permutation leaves as it is -/

section Permutations

variable {α : Type} {l l' : List α}

/-- A search that at most one element passes finds it in any order. -/
theorem find?_eq_of_perm (hperm : l.Perm l') {p : α → Bool}
    (hunique : ∀ a ∈ l, ∀ b ∈ l, p a = true → p b = true → a = b) : l.find? p = l'.find? p := by
  cases hfound : l.find? p with
  | none =>
    have hnone := List.find?_eq_none.mp hfound
    exact (List.find?_eq_none.mpr fun a ha => hnone a (hperm.mem_iff.mpr ha)).symm
  | some a =>
    have ha : a ∈ l := List.mem_of_find?_eq_some hfound
    have hpa : p a = true := List.find?_some hfound
    have hsome : (l'.find? p).isSome = true :=
      List.find?_isSome.mpr ⟨a, hperm.mem_iff.mp ha, hpa⟩
    obtain ⟨b, hb⟩ := Option.isSome_iff_exists.mp hsome
    have hbl : b ∈ l := hperm.mem_iff.mpr (List.mem_of_find?_eq_some hb)
    rw [hb, hunique a ha b hbl hpa (List.find?_some hb)]

theorem ne_gt_eq_isLE (o : Ordering) : (o != .gt) = o.isLE := by
  cases o <;> rfl

theorem isLE_total (cmp : α → α → Ordering) [Std.OrientedCmp cmp] (a b : α) :
    ((cmp a b).isLE || (cmp b a).isLE) = true := by
  have hswap : cmp b a = (cmp a b).swap := Std.OrientedCmp.eq_swap
  rw [hswap]
  cases cmp a b <;> rfl

/-- A list sorted by an order stands in that order. -/
theorem mergeSort_ordered (cmp : α → α → Ordering) [Std.TransCmp cmp] (l : List α) :
    (l.mergeSort fun a b => cmp a b != .gt).Pairwise fun a b => (cmp a b).isLE = true := by
  simp only [ne_gt_eq_isLE]
  exact List.pairwise_mergeSort (fun _ _ _ => Std.TransCmp.isLE_trans) (isLE_total cmp) l

/-- Sorting by an order that tells the elements apart gives the same list from any order. -/
theorem mergeSort_eq_of_perm (cmp : α → α → Ordering) [Std.TransCmp cmp] (hperm : l.Perm l')
    (happart : ∀ a ∈ l, ∀ b ∈ l, cmp a b = .eq → a = b) :
    l.mergeSort (fun a b => cmp a b != .gt) = l'.mergeSort fun a b => cmp a b != .gt := by
  refine List.Perm.eq_of_pairwise (fun a b ha hb hab hba => ?_) (mergeSort_ordered cmp l)
    (mergeSort_ordered cmp l')
    ((List.mergeSort_perm l _).trans (hperm.trans (List.mergeSort_perm l' _).symm))
  have ha : a ∈ l := List.mem_mergeSort.mp ha
  have hb : b ∈ l := hperm.mem_iff.mpr (List.mem_mergeSort.mp hb)
  exact happart a ha b hb (Std.OrientedCmp.isLE_antisymm hab hba)

variable [BEq α] [LawfulBEq α]

theorem nodup_eraseDups : (l : List α) → l.eraseDups.Nodup
  | [] => List.nodup_nil
  | a :: l => by
    rw [List.eraseDups_cons, List.nodup_cons, List.mem_eraseDups, List.mem_filter]
    exact ⟨fun h => by simp at h, nodup_eraseDups _⟩
termination_by l => l.length
decreasing_by exact Nat.lt_succ_of_le (List.length_filter_le _ _)

/-- How many different elements a list has does not depend on their order. -/
theorem length_eraseDups_of_perm (hperm : l.Perm l') :
    l.eraseDups.length = l'.eraseDups.length := by
  refine List.Perm.length_eq ?_
  rw [List.perm_ext_iff_of_nodup (nodup_eraseDups l) (nodup_eraseDups l')]
  intro a
  rw [List.mem_eraseDups, List.mem_eraseDups, hperm.mem_iff]

end Permutations

/-! ## 2. Graphs that look alike -/

instance : Std.TransCmp CallEdge.order :=
  inferInstanceAs (Std.TransCmp (compareLex (compareOn CallEdge.location)
    (compareLex (compareOn CallEdge.caller) (compareOn CallEdge.callee))))

/-- The order of edges tells apart exactly what is not the same call. -/
theorem CallEdge.same_iff_order_eq {a b : CallEdge} : a.same b = true ↔ order a b = .eq := by
  have hname : ∀ {x y : FunctionId}, (x == y) = true ↔ compare x y = .eq := fun {x y} => by
    rw [beq_iff_eq, Std.LawfulEqOrd.compare_eq_iff_eq]
  rw [same, order, Bool.and_eq_true, Bool.and_eq_true, hname, hname, Location.same, beq_iff_eq,
    Ordering.then_eq_eq, Ordering.then_eq_eq, and_comm]

/-- Being the same call goes both ways. -/
instance : Std.Symm fun a b : CallEdge => a.same b = false where
  symm a b h := by
    rw [← Bool.not_eq_true, CallEdge.same_iff_order_eq] at h ⊢
    rwa [Std.OrientedCmp.eq_comm]

namespace CallGraph

/-- Two graphs that a search cannot tell apart. -/
structure Alike (g h : CallGraph) : Prop where
  registry : g.registry = h.registry
  node? : ∀ id, g.node? id = h.node? id
  callees : ∀ id, g.callees id = h.callees id
  callers : ∀ id, g.callers id = h.callers id
  sourceFunctions : g.sourceFunctions = h.sourceFunctions
  searchBound : g.searchBound = h.searchBound
  stepBound : Admission.stepBound g = Admission.stepBound h

/-- **Graphs with the same nodes and edges look alike**, if a name has one node and no call stands
twice. -/
theorem alike_of_perm {g h : CallGraph} (hregistry : g.registry = h.registry)
    (hnodes : g.nodes.Perm h.nodes) (hedges : g.edges.Perm h.edges)
    (hids : ∀ a ∈ g.nodes, ∀ b ∈ g.nodes, a.id = b.id → a = b)
    (hcalls : ∀ a ∈ g.edges, ∀ b ∈ g.edges, a.same b = true → a = b) : Alike g h := by
  have hsort : ∀ p : CallEdge → Bool, CallEdge.sort (g.edges.reverse.filter p) =
      CallEdge.sort (h.edges.reverse.filter p) := by
    intro p
    have hreverse : g.edges.reverse.Perm h.edges.reverse :=
      (List.reverse_perm _).trans (hedges.trans (List.reverse_perm _).symm)
    refine mergeSort_eq_of_perm CallEdge.order (hreverse.filter p) fun a ha b hb hab => ?_
    have ha : a ∈ g.edges := List.mem_reverse.mp (List.mem_filter.mp ha).1
    have hb : b ∈ g.edges := List.mem_reverse.mp (List.mem_filter.mp hb).1
    exact hcalls a ha b hb (CallEdge.same_iff_order_eq.mpr hab)
  have hsorted : g.sortedNodes = h.sortedNodes := by
    refine mergeSort_eq_of_perm (compareOn CallNode.id) hnodes fun a ha b hb hab => ?_
    exact hids a ha b hb (Std.LawfulEqOrd.eq_of_compare hab)
  have hsources : g.sourceFunctions = h.sourceFunctions := by
    unfold sourceFunctions
    rw [hsorted]
  have hfacts : (g.nodes.filterMap (·.facts)).Perm (h.nodes.filterMap (·.facts)) :=
    hnodes.filterMap _
  have hnames : g.sanitizerNames.length = h.sanitizerNames.length :=
    length_eraseDups_of_perm
      (((hedges.flatMap_right _).append (hfacts.map _)).flatMap_right _)
  have hparams : g.paramIndices.length = h.paramIndices.length :=
    length_eraseDups_of_perm ((hedges.flatMap_right _).append (hfacts.flatMap_right _))
  refine ⟨hregistry, fun id => ?_, fun id => hsort _, fun id => hsort _, hsources, ?_, ?_⟩
  · refine find?_eq_of_perm hnodes fun a ha b hb hpa hpb => hids a ha b hb ?_
    rw [beq_iff_eq] at hpa hpb
    rw [hpa, hpb]
  · unfold searchBound
    rw [hnames, hparams, hnodes.length_eq, hedges.length_eq]
  · unfold Admission.stepBound
    rw [hsources, hedges.length_eq]

end CallGraph

/-! ## 3. What a search does on them -/

namespace CallGraph.Alike

variable {g h : CallGraph} (e : Alike g h)
include e

theorem facts? (id : FunctionId) : g.facts? id = h.facts? id := by
  unfold CallGraph.facts?
  rw [e.node?]

theorem function? (id : FunctionId) : g.function? id = h.function? id := by
  unfold CallGraph.function?
  rw [e.node?]

theorem pathFinding_eq (seed : Seed) (trail : List Step) (sinkFunction : FunctionId) (hit : SinkHit)
    (s : Sanitizers) :
    pathFinding g seed trail sinkFunction hit s = pathFinding h seed trail sinkFunction hit s := by
  have hcyclic : g.isCyclic = h.isCyclic := by
    funext id
    unfold isCyclic
    rw [e.node?]
  unfold pathFinding pathConfidence
  rw [hcyclic]

/-- The same happens when a state is expanded. -/
theorem events (seed : Seed) (st : PathState) : st.events g seed = st.events h seed := by
  have hsinks : st.sinkEvents g seed = st.sinkEvents h seed := by
    unfold PathState.sinkEvents PathState.sinkEvent?
    simp only [e.registry, e.pathFinding_eq]
  have hcalls : st.callEvents g = st.callEvents h := by
    funext edge
    unfold PathState.callEvents PathState.callMove?
    rw [e.function?, e.registry]
  have hreturns : st.returnEvents g = st.returnEvents h := by
    unfold PathState.returnEvents PathState.returnMove?
    simp only [e.registry, e.callers, e.facts?]
  unfold PathState.events
  rw [hsinks, e.callees, hcalls, hreturns]

section Searches

variable (maxDepth : Option Nat) (admitted : Option (SortedSet String)) (clock : Clock)

theorem expand (seed : Seed) (st : PathState) (p : Progress) :
    st.expand ⟨g, maxDepth, admitted, clock⟩ seed p =
      st.expand ⟨h, maxDepth, admitted, clock⟩ seed p := by
  rw [PathState.expand_eq, PathState.expand_eq, e.events]
  rfl

theorem step (seed : Seed) (x : Exploration) :
    x.step ⟨g, maxDepth, admitted, clock⟩ seed = x.step ⟨h, maxDepth, admitted, clock⟩ seed := by
  unfold Exploration.step
  simp only [e.expand]

theorem run (seed : Seed) (steps : Nat) (x : Exploration) :
    x.run ⟨g, maxDepth, admitted, clock⟩ seed steps =
      x.run ⟨h, maxDepth, admitted, clock⟩ seed steps := by
  induction steps generalizing x with
  | zero => rfl
  | succ steps ih =>
    unfold Exploration.run
    rw [e.step, ih]

theorem trySeed (p : Progress) (seed : Seed) :
    TaintFlow.trySeed ⟨g, maxDepth, admitted, clock⟩ p seed =
      TaintFlow.trySeed ⟨h, maxDepth, admitted, clock⟩ p seed := by
  have hrun : ∀ q, runSeed ⟨g, maxDepth, admitted, clock⟩ q seed =
      runSeed ⟨h, maxDepth, admitted, clock⟩ q seed := by
    intro q
    unfold runSeed
    simp only [e.run, e.searchBound]
    rfl
  unfold TaintFlow.trySeed
  simp only [hrun]

theorem searchRun :
    Search.run ⟨g, maxDepth, admitted, clock⟩ = Search.run ⟨h, maxDepth, admitted, clock⟩ := by
  unfold Search.run
  rw [e.sourceFunctions]
  congr 2
  funext p seed
  exact e.trySeed maxDepth admitted clock p seed

end Searches

/-- The same modules are admitted. -/
theorem admittedModules (cap : Nat) : TaintFlow.admittedModules g cap = TaintFlow.admittedModules h cap := by
  have hsuccessors : Admission.successors g = Admission.successors h := by
    funext f
    unfold Admission.successors
    rw [e.callees, e.callers, funext e.facts?]
  have hrun : ∀ steps a, Admission.run g cap steps a = Admission.run h cap steps a := by
    intro steps
    induction steps with
    | zero => exact fun a => rfl
    | succ steps ih =>
      intro a
      unfold Admission.run Admission.step
      rw [hsuccessors, ih]
  unfold TaintFlow.admittedModules
  rw [hrun, e.stepBound, e.sourceFunctions]

/-- A finding is checked alike. -/
theorem check (v : Finding) : v.check g = v.check h := by
  have hcall : g.hasCallAt = h.hasCallAt := by
    funext caller callee location
    unfold hasCallAt between
    rw [e.callees]
  have hwalk : ∀ hops current, walkSteps g current hops = walkSteps h current hops := by
    intro hops
    induction hops with
    | nil => exact fun _ => rfl
    | cons hop hops ih =>
      intro current
      unfold walkSteps
      rw [hcall]
      simp only [ih]
  have hsink : g.hasSinkAt = h.hasSinkAt := by
    funext id location
    unfold hasSinkAt
    rw [e.facts?]
  unfold Finding.check Finding.validate
  simp only [hwalk, hsink]

/-- **Graphs that look alike have the same outcome**, by any clock. -/
theorem propagateWith (limits : Limits) (clock : Clock) :
    TaintFlow.propagateWith g limits clock = TaintFlow.propagateWith h limits clock := by
  have hsearch : (Search.ofLimits g limits clock).run = (Search.ofLimits h limits clock).run := by
    unfold Search.ofLimits
    rw [funext e.admittedModules, e.searchRun]
  unfold TaintFlow.propagateWith
  rw [hsearch]
  simp only [e.check]

end CallGraph.Alike

/-! ## 4. Insertions -/

/-- What is inserted into a graph at a time. -/
inductive Insertion where
  | node (n : CallNode)
  | call (e : CallEdge)

namespace Insertion

/-- The node that is inserted. -/
def node? : Insertion → Option CallNode
  | node n => some n
  | call _ => none

/-- The call that is inserted. -/
def call? : Insertion → Option CallEdge
  | node _ => none
  | call e => some e

/-- Whether every call comes after the nodes it joins, where some names have nodes already. -/
def nodesFirst : (known : List FunctionId) → List Insertion → Bool
  | _, [] => true
  | known, node n :: rest => nodesFirst (n.id :: known) rest
  | known, call e :: rest => known.contains e.caller && known.contains e.callee && nodesFirst known rest

end Insertion

namespace CallGraph

/-- Inserts a node or a call. -/
def insert (g : CallGraph) : Insertion → Except FunctionId CallGraph
  | .node n => .ok (g.addNode n)
  | .call e => g.addCall e

/-- Inserts nodes and calls in order. -/
def insertAll (g : CallGraph) (steps : List Insertion) : Except FunctionId CallGraph :=
  steps.foldlM insert g

/-- **Insertions with their nodes first succeed**, and the graph keeps everything in their order. -/
theorem exists_insertAll {steps : List Insertion} {g : CallGraph} {known : List FunctionId}
    (hknown : ∀ id ∈ known, g.contains id = true) (hfirst : Insertion.nodesFirst known steps = true)
    (hids : ((g.nodes ++ steps.filterMap Insertion.node?).map (·.id)).Nodup) :
    ∃ g', g.insertAll steps = .ok g' ∧ g'.registry = g.registry ∧
      g'.nodes = g.nodes ++ steps.filterMap Insertion.node? ∧
      g'.edges = g.edges ++ steps.filterMap Insertion.call? := by
  induction steps generalizing g known with
  | nil => exact ⟨g, rfl, rfl, (List.append_nil _).symm, (List.append_nil _).symm⟩
  | cons step steps ih =>
    cases step with
    | node n =>
      have hids : ((g.nodes ++ n :: steps.filterMap Insertion.node?).map (·.id)).Nodup := hids
      have hnew : ¬ g.contains n.id = true := by
        intro hold
        rw [List.map_append, List.map_cons, List.nodup_append] at hids
        exact hids.2.2 _ (contains_iff_mem.mp hold) _ List.mem_cons_self rfl
      have hadd : g.addNode n = { g with nodes := g.nodes ++ [n] } := by
        unfold addNode
        rw [if_neg hnew]
      have hknown' : ∀ id ∈ n.id :: known, (g.addNode n).contains id = true := by
        intro id hid
        rcases List.mem_cons.mp hid with rfl | hid
        · exact contains_addNode_self g n
        · exact contains_addNode (hknown id hid)
      have hids' : (((g.addNode n).nodes ++ steps.filterMap Insertion.node?).map (·.id)).Nodup := by
        rw [hadd, List.append_assoc]
        exact hids
      obtain ⟨g', hg', hregistry, hnodes, hedges⟩ := ih hknown' hfirst hids'
      rw [hadd] at hregistry hnodes hedges
      exact ⟨g', hg', hregistry, hnodes.trans (List.append_assoc _ _ _), hedges⟩
    | call e =>
      rw [Insertion.nodesFirst, Bool.and_eq_true, Bool.and_eq_true, List.contains_iff_mem,
        List.contains_iff_mem] at hfirst
      obtain ⟨⟨hcaller, hcallee⟩, hrest⟩ := hfirst
      have hadd := addCall_eq_ok_iff.mpr ⟨hknown _ hcaller, hknown _ hcallee, rfl⟩
      obtain ⟨g', hg', hregistry, hnodes, hedges⟩ :=
        ih (g := { g with edges := g.edges ++ [e] }) hknown hrest hids
      refine ⟨g', ?_, hregistry, hnodes, hedges.trans (List.append_assoc _ _ _)⟩
      show (g.addCall e >>= fun g => g.insertAll steps) = .ok g'
      rw [hadd]
      exact hg'

end CallGraph

/-- **The outcome does not depend on the order of insertion.** From the same nodes, each with a name
of its own, and the same calls, of which no two are the same, inserted in any two orders in which a
call comes after the nodes it joins, two graphs are put together that have the same outcome within any
limits, by any clock. -/
theorem propagation_ignores_insertion_order {registry : Registry} {steps steps' : List Insertion}
    (hperm : steps.Perm steps')
    (hids : ((steps.filterMap Insertion.node?).map (·.id)).Nodup)
    (hcalls : (steps.filterMap Insertion.call?).Pairwise fun a b => a.same b = false)
    (hfirst : Insertion.nodesFirst [] steps = true)
    (hfirst' : Insertion.nodesFirst [] steps' = true) :
    ∃ g g', (CallGraph.empty registry).insertAll steps = .ok g ∧
      (CallGraph.empty registry).insertAll steps' = .ok g' ∧
      ∀ limits, propagate g limits = propagate g' limits ∧
        ∀ clock, propagateWith g limits clock = propagateWith g' limits clock := by
  have hnodesPerm := hperm.filterMap Insertion.node?
  have hids' : ((steps'.filterMap Insertion.node?).map (·.id)).Nodup :=
    (hnodesPerm.map _).nodup_iff.mp hids
  have hnone : ∀ id ∈ ([] : List FunctionId), (CallGraph.empty registry).contains id = true :=
    fun _ h => absurd h List.not_mem_nil
  obtain ⟨g, hg, hregistry, hnodes, hedges⟩ := CallGraph.exists_insertAll hnone hfirst hids
  obtain ⟨g', hg', hregistry', hnodes', hedges'⟩ := CallGraph.exists_insertAll hnone hfirst' hids'
  have hdistinct : ∀ a ∈ steps.filterMap Insertion.call?, ∀ b ∈ steps.filterMap Insertion.call?,
      a.same b = true → a = b := by
    intro a ha b hb hsame
    by_contra hne
    rw [hcalls.forall ha hb hne] at hsame
    cases hsame
  have halike : g.Alike g' := by
    refine CallGraph.alike_of_perm (hregistry.trans hregistry'.symm) ?_ ?_ ?_ ?_
    · rw [hnodes, hnodes']
      exact hnodesPerm
    · rw [hedges, hedges']
      exact hperm.filterMap _
    · rw [hnodes]
      exact fun a ha b hb hab => List.inj_on_of_nodup_map hids ha hb hab
    · rw [hedges]
      exact hdistinct
  exact ⟨g, g', hg, hg', fun limits =>
    ⟨halike.propagateWith limits _, fun clock => halike.propagateWith limits clock⟩⟩

namespace SmallProject

/-- The node of a function. -/
def node (f : FunctionFacts) : Insertion := .node { id := f.id, kind := .function, facts := some f }

/-- Each function as the calls come to it. -/
def forwards : List Insertion := [node main, node reader, .call readCall, node runner, .call runCall]

/-- The last function first, and the last call before the first. -/
def backwards : List Insertion := [node runner, node main, .call runCall, node reader, .call readCall]

theorem forwards_perm : forwards.Perm backwards := by
  have htail : ([node reader, .call readCall] ++ [node runner, .call runCall]).Perm
      ([node runner, .call runCall] ++ [node reader, .call readCall]) := List.perm_append_comm
  exact (htail.cons (node main)).trans (List.Perm.swap _ _ _)

end SmallProject

open SmallProject in
theorem small_insertion_orders :
    forwards.Perm backwards ∧ Insertion.nodesFirst [] forwards = true ∧
      Insertion.nodesFirst [] backwards = true ∧
      ∃ g g', (CallGraph.empty {}).insertAll forwards = .ok g ∧
        (CallGraph.empty {}).insertAll backwards = .ok g' ∧
        ∀ limits, propagate g limits = propagate g' limits ∧
          ∀ clock, propagateWith g limits clock = propagateWith g' limits clock :=
  ⟨forwards_perm, by decide, by decide,
    propagation_ignores_insertion_order forwards_perm (by decide) (by decide) (by decide) (by decide)⟩

end TaintFlow
