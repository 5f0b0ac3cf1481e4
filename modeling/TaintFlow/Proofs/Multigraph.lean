import TaintFlow.Proofs.InsertionOrder

/-!
# Call graphs are multigraphs

A graph is put together by adding nodes and calls in any order, and some of these attempts come to
nothing: a name may have a node already, and a call may come before its ends. Whatever was tried
(`insertions_form_multigraph`), a name has one node, the first that was offered under it, and every call
that was let in is an edge of its own, also beside an edge that is the same call.

The calls of a graph are read from three sides: those that a function makes, those made to it, and those
between two functions. Each is a list of calls in order, with the newest first among the same calls
(`CallEdge.Lists`). A selection of such a list is such a list of the selected calls (`Lists.filter`), and
what a list is of determines it (`Lists.unique`). So the three sides agree, edge by edge.
-/

namespace TaintFlow

/-! ## 1. Sorting and ties -/

section Ties

variable {α : Type} (cmp : α → α → Ordering) [Std.TransCmp cmp]

/-- Sorting keeps the order of what ties with an element. -/
theorem filter_tied_mergeSort (l : List α) (a : α) :
    (l.mergeSort fun x y => cmp x y != .gt).filter (fun b => cmp a b == .eq) =
      l.filter fun b => cmp a b == .eq := by
  simp only [ne_gt_eq_isLE]
  have htied : (l.filter fun b => cmp a b == .eq).Pairwise fun x y => (cmp x y).isLE = true := by
    refine List.pairwise_of_forall_mem_list fun x hx y hy => ?_
    have hx : cmp a x = .eq := beq_iff_eq.mp (List.mem_filter.mp hx).2
    have hy : cmp a y = .eq := beq_iff_eq.mp (List.mem_filter.mp hy).2
    rw [← Std.TransCmp.congr_left hx, hy]
    rfl
  -- The tied elements are sorted as they stand, and a sorted part of a list is left as it is.
  have hkept := List.sublist_mergeSort (fun _ _ _ => Std.TransCmp.isLE_trans) (isLE_total cmp) htied
    List.filter_sublist
  have hsub := hkept.filter fun b => cmp a b == .eq
  simp only [List.filter_filter, Bool.and_self] at hsub
  exact (hsub.eq_of_length ((List.mergeSort_perm l _).filter _).length_eq.symm).symm

variable {cmp}

theorem isLE_of_mem_cons {a b : α} {l : List α}
    (hl : (a :: l).Pairwise fun x y => (cmp x y).isLE = true) (hb : b ∈ a :: l) :
    (cmp a b).isLE = true := by
  rcases List.mem_cons.mp hb with rfl | hb
  · exact Std.ReflCmp.isLE_rfl
  · exact List.rel_of_pairwise_cons hl hb

/-- **A sorted list is determined by its ties**: by the elements that tie with each one, in order. -/
theorem eq_of_ordered_of_tied {l l' : List α} (hl : l.Pairwise fun a b => (cmp a b).isLE = true)
    (hl' : l'.Pairwise fun a b => (cmp a b).isLE = true)
    (htied : ∀ a, l.filter (fun b => cmp a b == .eq) = l'.filter fun b => cmp a b == .eq) :
    l = l' := by
  have hself : ∀ a, (cmp a a == .eq) = true := fun a => beq_iff_eq.mpr Std.ReflCmp.compare_self
  induction l generalizing l' with
  | nil =>
    cases l' with
    | nil => rfl
    | cons b l' =>
      have hb : b ∈ [].filter fun c => cmp b c == .eq :=
        htied b ▸ List.mem_filter.mpr ⟨List.mem_cons_self, hself b⟩
      cases hb
  | cons a l ih =>
    have ha : a ∈ l'.filter fun b => cmp a b == .eq :=
      htied a ▸ List.mem_filter.mpr ⟨List.mem_cons_self, hself a⟩
    cases l' with
    | nil => cases ha
    | cons b l' =>
      have hb : b ∈ (a :: l).filter fun c => cmp b c == .eq :=
        htied b ▸ List.mem_filter.mpr ⟨List.mem_cons_self, hself b⟩
      -- Each head is among the other list, so the two tie, and a tie's first element is shared.
      have heads : cmp a b = .eq := Std.OrientedCmp.isLE_antisymm
        (isLE_of_mem_cons hl (List.mem_filter.mp hb).1)
        (isLE_of_mem_cons hl' (List.mem_filter.mp ha).1)
      have hfirst := htied a
      rw [List.filter_cons_of_pos (p := fun c => cmp a c == .eq) (hself a),
        List.filter_cons_of_pos (p := fun c => cmp a c == .eq) (beq_iff_eq.mpr heads)] at hfirst
      obtain ⟨rfl, _⟩ := List.cons.inj hfirst
      refine congrArg (a :: ·) (ih hl.of_cons hl'.of_cons fun c => ?_)
      have h := htied c
      rw [List.filter_cons, List.filter_cons] at h
      split at h
      · exact (List.cons.inj h).2
      · exact h

end Ties

/-! ## 2. Lists of calls -/

namespace CallEdge

/-- `l` lists `calls`, which stand in the order of adding: it is sorted, has each call as often as it was
added, and the newest first among the same calls. -/
structure Lists (calls l : List CallEdge) : Prop where
  sorted : l.Pairwise fun a b => (order a b).isLE = true
  perm : l.Perm calls
  newestFirst : ∀ e : CallEdge, l.filter e.same = (calls.filter e.same).reverse

theorem same_eq_tied (e : CallEdge) : e.same = fun b => order e b == .eq := by
  funext b
  rw [Bool.eq_iff_iff, same_iff_order_eq, beq_iff_eq]

theorem lists_sort (calls : List CallEdge) : Lists calls (sort calls.reverse) where
  sorted := mergeSort_ordered order _
  perm := (List.mergeSort_perm _ _).trans (List.reverse_perm _)
  newestFirst e := by
    rw [same_eq_tied, sort, filter_tied_mergeSort, List.filter_reverse]

namespace Lists

variable {calls l l' : List CallEdge}

/-- **What a list is of determines it.** -/
theorem unique (h : Lists calls l) (h' : Lists calls l') : l = l' := by
  refine eq_of_ordered_of_tied h.sorted h'.sorted fun e => ?_
  rw [← same_eq_tied, h.newestFirst, h'.newestFirst]

/-- A selection lists the selected calls. -/
theorem filter (h : Lists calls l) (p : CallEdge → Bool) : Lists (calls.filter p) (l.filter p) where
  sorted := h.sorted.filter p
  perm := h.perm.filter p
  newestFirst e := by
    rw [List.filter_comm, h.newestFirst, List.filter_reverse, List.filter_comm]

end Lists

end CallEdge

namespace CallGraph

variable (g : CallGraph) (a b : FunctionId)

theorem lists_sortedEdges : CallEdge.Lists g.edges.reverse g.sortedEdges := by
  have h := CallEdge.lists_sort g.edges.reverse
  rw [List.reverse_reverse] at h
  exact h

theorem lists_callees : CallEdge.Lists (g.edges.filter fun e => e.caller == a) (g.callees a) := by
  rw [callees, List.filter_reverse]
  exact CallEdge.lists_sort _

theorem lists_callers : CallEdge.Lists (g.edges.filter fun e => e.callee == b) (g.callers b) := by
  rw [callers, List.filter_reverse]
  exact CallEdge.lists_sort _

theorem lists_between :
    CallEdge.Lists (g.edges.filter fun e => e.caller == a && e.callee == b) (g.between a b) := by
  rw [← List.filter_filter, List.filter_comm]
  exact (g.lists_callees a).filter _

/-- **The calls between two functions are the same from both ends.** -/
theorem filter_callers_eq_between : (g.callers b).filter (fun e => e.caller == a) = g.between a b := by
  have hcallers := (g.lists_callers b).filter fun e => e.caller == a
  rw [List.filter_filter] at hcallers
  exact hcallers.unique (g.lists_between a b)

end CallGraph

/-! ## 3. Attempts -/

namespace CallGraph

variable {g : CallGraph} {id : FunctionId}

/-- The graph after a step was tried; one that fails leaves it as it is. -/
def attempt (g : CallGraph) (step : Insertion) : CallGraph :=
  match g.insert step with
  | .ok next => next
  | .error _ => g

/-- The graph after steps were tried in order. -/
def attemptAll (g : CallGraph) (steps : List Insertion) : CallGraph := steps.foldl attempt g

/-- The calls that succeed when steps are tried in order. -/
def accepted (g : CallGraph) : List Insertion → List CallEdge
  | [] => []
  | .node n :: rest => accepted (g.addNode n) rest
  | .call e :: rest =>
    match g.addCall e with
    | .ok next => e :: accepted next rest
    | .error _ => accepted g rest

/-! ### One attempt -/

theorem attempt_of_ok {e : CallEdge} {next : CallGraph} (h : g.addCall e = .ok next) :
    g.attempt (.call e) = next := by
  rw [attempt, insert, h]

theorem attempt_of_error {e : CallEdge} (h : g.addCall e = .error id) : g.attempt (.call e) = g := by
  rw [attempt, insert, h]

/-- A failure tells the first end that has no node. -/
theorem missing_of_error {e : CallEdge} (herror : g.addCall e = .error id) : g.node? id = none ∧
    (id = e.caller ∨ g.contains e.caller = true ∧ id = e.callee) := by
  rcases addCall_cases g e with ⟨_, _, h⟩ | ⟨id', hnone, hend, h⟩
  · rw [h] at herror
    cases herror
  · rw [h] at herror
    cases herror
    exact ⟨Option.isNone_iff_eq_none.mp (Option.isSome_eq_false_iff.mp hnone), hend⟩

/-- A call fails exactly if one of its ends has no node. -/
theorem exists_addCall_eq_error_iff {e : CallEdge} :
    (∃ id, g.addCall e = .error id) ↔ g.node? e.caller = none ∨ g.node? e.callee = none := by
  constructor
  · rintro ⟨id, herror⟩
    obtain ⟨hnone, rfl | ⟨_, rfl⟩⟩ := missing_of_error herror
    · exact Or.inl hnone
    · exact Or.inr hnone
  · intro hnone
    rcases addCall_cases g e with ⟨hcaller, hcallee, _⟩ | ⟨id, _, _, h⟩
    · rw [contains, Option.isSome_iff_ne_none] at hcaller hcallee
      exact absurd hnone (not_or.mpr ⟨hcaller, hcallee⟩)
    · exact ⟨id, h⟩

/-- What is under a name stays there; a new node comes under its own. -/
theorem node?_addNode (g : CallGraph) (n : CallNode) (id : FunctionId) :
    (g.addNode n).node? id = (g.node? id).or ([n].find? fun m => m.id == id) := by
  rcases addNode_cases g n with ⟨hold, hadd⟩ | ⟨_, hadd⟩
  · rw [hadd]
    by_cases hid : n.id = id
    · obtain ⟨m, hm⟩ := Option.isSome_iff_exists.mp (hid ▸ hold)
      rw [hm, Option.some_or]
    · rw [List.find?_singleton, if_neg (by simpa using hid), Option.or_none]
  · rw [hadd]
    exact List.find?_append

theorem edges_addNode (g : CallGraph) (n : CallNode) : (g.addNode n).edges = g.edges := by
  rcases addNode_cases g n with ⟨_, hadd⟩ | ⟨_, hadd⟩ <;> rw [hadd]

theorem nodes_attempt_call (g : CallGraph) (e : CallEdge) :
    (g.attempt (.call e)).nodes = g.nodes := by
  rcases addCall_cases g e with ⟨_, _, h⟩ | ⟨_, _, _, h⟩
  · rw [attempt_of_ok h]
  · rw [attempt_of_error h]

theorem nodes_prefix_attempt (g : CallGraph) (step : Insertion) :
    g.nodes <+: (g.attempt step).nodes := by
  cases step with
  | node n =>
    rcases addNode_cases g n with ⟨_, hadd⟩ | ⟨_, hadd⟩
    · exact ⟨[], (List.append_nil _).trans (congrArg nodes hadd.symm)⟩
    · exact ⟨[n], congrArg nodes hadd.symm⟩
  | call e => exact ⟨[], (List.append_nil _).trans (nodes_attempt_call g e).symm⟩

theorem Consistent.attempt (hg : g.Consistent) (step : Insertion) : (g.attempt step).Consistent := by
  cases step with
  | node n => exact hg.addNode n
  | call e =>
    rcases addCall_cases g e with ⟨_, _, h⟩ | ⟨_, _, _, h⟩
    · rw [attempt_of_ok h]
      exact hg.addCall h
    · rw [attempt_of_error h]
      exact hg

/-- In a consistent graph a name leads to the place of its node. -/
theorem Consistent.indexOf?_eq_some_iff (hg : g.Consistent) {i : Nat} :
    g.indexOf? id = some i ↔ ∃ n, g.nodes[i]? = some n ∧ n.id = id := by
  have hplace : ∀ {j : Nat}, g.indexOf? id = some j → ∃ n, g.nodes[j]? = some n ∧ n.id = id := by
    intro j hj
    obtain ⟨hlt, hid, _⟩ := List.findIdx?_eq_some_iff_getElem.mp hj
    exact ⟨_, List.getElem?_eq_getElem hlt, beq_iff_eq.mp hid⟩
  refine ⟨hplace, fun ⟨n, hn, hid⟩ => ?_⟩
  have hsome : (g.indexOf? id).isSome = true := by
    rw [indexOf?, List.findIdx?_isSome]
    exact List.any_eq_true.mpr ⟨n, List.mem_of_getElem? hn, beq_iff_eq.mpr hid⟩
  obtain ⟨j, hj⟩ := Option.isSome_iff_exists.mp hsome
  obtain ⟨m, hm, hid'⟩ := hplace hj
  -- Both places have the name, and a name stands once.
  have hlt : i < (g.nodes.map (·.id)).length := by
    rw [List.length_map]
    exact (List.getElem?_eq_some_iff.mp hn).1
  have hij : i = j := by
    refine (List.getElem?_inj hlt hg.distinct).mp ?_
    rw [List.getElem?_map, List.getElem?_map, hn, hm, Option.map_some, Option.map_some, hid, hid']
  rw [hj, hij]

/-! ### All attempts -/

theorem Consistent.attemptAll (hg : g.Consistent) (steps : List Insertion) :
    (g.attemptAll steps).Consistent := by
  induction steps generalizing g with
  | nil => exact hg
  | cons step steps ih => exact ih (hg.attempt step)

theorem nodes_prefix_attemptAll (g : CallGraph) (steps : List Insertion) :
    g.nodes <+: (g.attemptAll steps).nodes := by
  induction steps generalizing g with
  | nil => exact List.prefix_rfl
  | cons step steps ih => exact (nodes_prefix_attempt g step).trans (ih _)

/-- **The first node offered under a name is kept.** -/
theorem node?_attemptAll (g : CallGraph) (steps : List Insertion) (id : FunctionId) :
    (g.attemptAll steps).node? id =
      (g.node? id).or ((steps.filterMap Insertion.node?).find? fun n => n.id == id) := by
  induction steps generalizing g with
  | nil => exact Option.or_none.symm
  | cons step steps ih =>
    cases step with
    | node n =>
      refine (ih (g.addNode n)).trans ?_
      rw [node?_addNode, Option.or_assoc, ← List.find?_append]
      rfl
    | call e =>
      refine (ih (g.attempt (.call e))).trans ?_
      rw [node?, nodes_attempt_call]
      rfl

/-- **Every call that succeeds is an edge of its own**, in the order of adding. -/
theorem edges_attemptAll (g : CallGraph) (steps : List Insertion) :
    (g.attemptAll steps).edges = g.edges ++ g.accepted steps := by
  induction steps generalizing g with
  | nil => exact (List.append_nil _).symm
  | cons step steps ih =>
    cases step with
    | node n =>
      refine (ih (g.addNode n)).trans ?_
      rw [edges_addNode]
      rfl
    | call e =>
      refine (ih (g.attempt (.call e))).trans ?_
      rcases addCall_cases g e with ⟨_, _, h⟩ | ⟨_, _, _, h⟩
      · rw [attempt_of_ok h, accepted, h, List.append_assoc]
        rfl
      · rw [attempt_of_error h, accepted, h]

/-! ## 4. The multigraph -/

/-- What a graph is after steps were tried on an empty one, of which `calls` succeeded. -/
structure Multigraph (g : CallGraph) (steps : List Insertion) (calls : List CallEdge) : Prop where
  /-- No two nodes share a name. -/
  distinct : (g.nodes.map (·.id)).Nodup
  /-- A name has the first node that was offered under it. -/
  first : ∀ id, g.node? id = (steps.filterMap Insertion.node?).find? fun n => n.id == id
  /-- A name leads to the place of its node. -/
  places : ∀ id i, g.indexOf? id = some i ↔ ∃ n, g.nodes[i]? = some n ∧ n.id = id
  /-- Nothing that was added is moved or lost, whatever is tried after it. -/
  stays : ∀ more, g.nodes <+: (g.attemptAll more).nodes ∧ g.edges <+: (g.attemptAll more).edges
  /-- A further call fails exactly if one of its ends has no node. -/
  refused : ∀ e, (∃ id, g.addCall e = .error id) ↔
    g.node? e.caller = none ∨ g.node? e.callee = none
  /-- The failure tells an end that has no node, the caller if neither has one. -/
  missing : ∀ e id, g.addCall e = .error id → g.node? id = none ∧
    (id = e.caller ∨ g.contains e.caller = true ∧ id = e.callee)
  /-- A call that fails changes nothing. -/
  unchanged : ∀ e id, g.addCall e = .error id → g.attempt (.call e) = g
  /-- A call that succeeds comes last among the edges, also if one of them is the same call, and
  changes nothing else. -/
  added : ∀ e next, g.addCall e = .ok next →
    g.attempt (.call e) = next ∧ next = { g with edges := g.edges ++ [e] }
  /-- The edges are the calls that succeeded. -/
  edges : g.edges = calls
  /-- There are as many edges as calls that succeeded. -/
  count : g.edges.length = calls.length
  /-- Edges run between nodes. -/
  ends : ∀ e ∈ g.edges, g.contains e.caller = true ∧ g.contains e.callee = true
  /-- All edges stand in order, the oldest first among the same calls. -/
  sorted : CallEdge.Lists calls.reverse g.sortedEdges
  /-- The calls between two functions are one list from both ends: those that succeeded, in order,
  the newest first among the same calls. -/
  between : ∀ a b, (g.callees a).filter (fun e => e.callee == b) = g.between a b ∧
    (g.callers b).filter (fun e => e.caller == a) = g.between a b ∧
    CallEdge.Lists (calls.filter fun e => e.caller == a && e.callee == b) (g.between a b)

end CallGraph

/-- **A call graph is a consistent multigraph**, whatever nodes and calls were tried on an empty one and
in whatever order. -/
theorem insertions_form_multigraph (registry : Registry) (steps : List Insertion) :
    ((CallGraph.empty registry).attemptAll steps).Multigraph steps
      ((CallGraph.empty registry).accepted steps) := by
  have hconsistent := (CallGraph.Consistent.empty registry).attemptAll steps
  have hedges := (CallGraph.empty registry).edges_attemptAll steps
  have hfirst := (CallGraph.empty registry).node?_attemptAll steps
  generalize (CallGraph.empty registry).attemptAll steps = g at *
  generalize (CallGraph.empty registry).accepted steps = calls at *
  have hedges : g.edges = calls := hedges
  subst hedges
  exact
    { distinct := hconsistent.distinct
      first := hfirst
      places := fun id i => hconsistent.indexOf?_eq_some_iff
      stays := fun more => ⟨g.nodes_prefix_attemptAll more,
        g.edges_attemptAll more ▸ List.prefix_append _ _⟩
      refused := fun e => CallGraph.exists_addCall_eq_error_iff
      missing := fun e id h => CallGraph.missing_of_error h
      unchanged := fun e id h => CallGraph.attempt_of_error h
      added := fun e next h => ⟨CallGraph.attempt_of_ok h, (CallGraph.addCall_eq_ok_iff.mp h).2.2⟩
      edges := rfl
      count := rfl
      ends := hconsistent.ends
      sorted := g.lists_sortedEdges
      between := fun a b => ⟨rfl, g.filter_callers_eq_between a b, g.lists_between a b⟩ }

namespace SmallProject

/-- A call before its ends, a second node under a name, and a call that is added twice, the second time
without its bindings. -/
def repeated : List Insertion :=
  [.call runCall, node main, node runner, .call runCall,
    .node { id := main.id, kind := .externalSink }, .call { runCall with bindings := [] }]

example : ((CallGraph.empty {}).attemptAll repeated).nodes.map (·.kind) = [.function, .function] ∧
    ((CallGraph.empty {}).attemptAll repeated).edges = [runCall, { runCall with bindings := [] }] :=
  ⟨rfl, rfl⟩

end SmallProject

end TaintFlow
