import Mathlib.Data.List.Dedup
import Mathlib.Logic.Relation
import TaintFlow.Proofs.ModuleNodes
import TaintFlow.Proofs.WellFormedGraph

/-!
# Cycles of imports and of calls

A module is part of an import cycle exactly if imports lead from it back to itself, and a function is
part of a call cycle exactly if calls do (`cycle_flags_exact`). Self-imports, self-calls and parallel
edges count; leaves have no way back.

Both flags rest on one search. It goes round by round from a node and stops when a round finds nothing
new. `Searching` is what each round keeps: all that was met can be reached, and the successors of all
that was met but of the frontier were met too. There are at least as many rounds as nodes to meet, so the
search stops by itself, and then nothing reachable is missing (`mem_reachable_iff`).

The cycles of a graph are the classes of nodes that lead to each other. A class is listed at its first
node, so in a list of ascending nodes each class ascends and so do the classes (`cycleClasses_ascending`).

Cycles can also be read off the strongly connected components of a graph (`IsComponents`). A component
with more than one node has a cycle through each of them, and one with a single node has a cycle if that
leads to itself (`IsComponents.turns_iff`). So the search and the components give the same flags.
-/

namespace TaintFlow

section Search

variable {α : Type} {next : α → List α} {nodes frontier seen : List α} {a b : α}

/-- A path of one step or more. -/
abbrev Leads (next : α → List α) : α → α → Prop := Relation.TransGen fun x y => y ∈ next x

/-! ## 1. One round -/

/-- A search from a node under way: what was met can be reached, the frontier is part of it, and of
all the rest the successors were met as well. -/
structure Searching (next : α → List α) (a : α) (frontier seen : List α) : Prop where
  reached : ∀ x ∈ seen, Leads next a x
  met : ∀ x ∈ frontier, x = a ∨ x ∈ seen
  expanded : ∀ x, x = a ∨ x ∈ seen → x ∈ frontier ∨ ∀ y ∈ next x, y ∈ seen

theorem searching_start (next : α → List α) (a : α) : Searching next a [a] [] where
  reached _ hx := absurd hx List.not_mem_nil
  met _ hx := Or.inl (List.mem_singleton.mp hx)
  expanded _ hx := Or.inl (List.mem_singleton.mpr (hx.resolve_right List.not_mem_nil))

variable [BEq α] [LawfulBEq α]

theorem mem_unseenSuccessors :
    b ∈ unseenSuccessors next frontier seen ↔ (∃ x ∈ frontier, b ∈ next x) ∧ b ∉ seen := by
  unfold unseenSuccessors
  rw [List.mem_eraseDups, List.mem_filter, List.mem_flatMap]
  simp

theorem Searching.round (h : Searching next a frontier seen) :
    Searching next a (unseenSuccessors next frontier seen)
      (seen ++ unseenSuccessors next frontier seen) where
  reached x hx := by
    rcases List.mem_append.mp hx with hx | hx
    · exact h.reached x hx
    · obtain ⟨⟨y, hy, hstep⟩, _⟩ := mem_unseenSuccessors.mp hx
      rcases h.met y hy with rfl | hy
      · exact Relation.TransGen.single hstep
      · exact (h.reached y hy).tail hstep
  met x hx := Or.inr (List.mem_append_right _ hx)
  expanded x hx := by
    have hold : (x = a ∨ x ∈ seen) ∨ x ∈ unseenSuccessors next frontier seen := by
      rcases hx with hx | hx
      · exact Or.inl (Or.inl hx)
      · exact (List.mem_append.mp hx).imp_left Or.inr
    rcases hold with hold | hnew
    · right
      intro y hy
      by_cases hseen : y ∈ seen
      · exact List.mem_append_left _ hseen
      · -- an unseen successor shows that `x` is in the frontier, so the round finds it
        have hfrontier : x ∈ frontier := (h.expanded x hold).resolve_right fun hall => hseen (hall y hy)
        exact List.mem_append_right _ (mem_unseenSuccessors.mpr ⟨⟨x, hfrontier, hy⟩, hseen⟩)
    · exact Or.inl hnew

/-- When a round finds nothing, everything that can be reached was met. -/
theorem Searching.complete (h : Searching next a frontier seen)
    (hnone : unseenSuccessors next frontier seen = []) (hb : Leads next a b) : b ∈ seen := by
  have hclosed : ∀ x, x = a ∨ x ∈ seen → ∀ y ∈ next x, y ∈ seen := by
    intro x hx y hy
    rcases h.expanded x hx with hfrontier | hall
    · by_contra hseen
      have hfound := mem_unseenSuccessors.mpr ⟨⟨x, hfrontier, hy⟩, hseen⟩
      rw [hnone] at hfound
      exact absurd hfound List.not_mem_nil
    · exact hall y hy
  induction hb with
  | single hstep => exact hclosed a (Or.inl rfl) _ hstep
  | tail _ hstep ih => exact hclosed _ (Or.inr ih) _ hstep

/-! ## 2. All rounds -/

/-- The nodes not yet met. -/
def unmet (nodes seen : List α) : List α := nodes.filter fun x => !seen.contains x

/-- A round that finds something leaves fewer nodes to meet. -/
theorem length_unmet_round (hclosed : ∀ x, ∀ y ∈ next x, y ∈ nodes)
    (hsome : unseenSuccessors next frontier seen ≠ []) :
    (unmet nodes (seen ++ unseenSuccessors next frontier seen)).length < (unmet nodes seen).length := by
  obtain ⟨b, hb⟩ := List.exists_mem_of_ne_nil _ hsome
  obtain ⟨⟨x, _, hstep⟩, hunseen⟩ := mem_unseenSuccessors.mp hb
  have hsplit : unmet nodes (seen ++ unseenSuccessors next frontier seen) =
      (unmet nodes seen).filter fun y => !(unseenSuccessors next frontier seen).contains y := by
    unfold unmet
    rw [List.filter_filter]
    refine List.filter_congr fun y _ => ?_
    rw [List.contains_eq_any_beq, List.any_append, Bool.not_or, Bool.and_comm,
      ← List.contains_eq_any_beq, ← List.contains_eq_any_beq]
  rw [hsplit, List.length_filter_lt_length_iff_exists]
  refine ⟨b, List.mem_filter.mpr ⟨hclosed x b hstep, by simpa using hunseen⟩, ?_⟩
  simpa using hb

/-- With a round for each node to meet, and one more, a search finds exactly what can be reached. -/
theorem mem_searchRounds_iff (hclosed : ∀ x, ∀ y ∈ next x, y ∈ nodes) {rounds : Nat}
    (h : Searching next a frontier seen) (hrounds : (unmet nodes seen).length < rounds) :
    b ∈ searchRounds next rounds frontier seen ↔ Leads next a b := by
  induction rounds generalizing frontier seen with
  | zero => exact absurd hrounds (Nat.not_lt_zero _)
  | succ rounds ih =>
    rw [searchRounds]
    split
    · rename_i hnone
      exact ⟨h.reached b, h.complete hnone⟩
    · rename_i found hfound
      have hless := length_unmet_round hclosed hfound
      exact ih h.round (by omega)

/-- **What a search finds is what can be reached in one step or more.** -/
theorem mem_reachable_iff (hclosed : ∀ x, ∀ y ∈ next x, y ∈ nodes) :
    b ∈ reachable next nodes a ↔ Leads next a b := by
  have hfew : (unmet nodes []).length ≤ nodes.length := List.length_filter_le _ _
  exact mem_searchRounds_iff hclosed (searching_start next a) (by omega)

/-! ## 3. Cycles and their classes -/

theorem onCycle_iff (hclosed : ∀ x, ∀ y ∈ next x, y ∈ nodes) :
    onCycle next nodes a = true ↔ Leads next a a := by
  unfold onCycle
  rw [List.contains_iff_mem, mem_reachable_iff hclosed]

omit [BEq α] [LawfulBEq α] in
/-- What can be reached is a node. -/
theorem mem_nodes_of_leads (hclosed : ∀ x, ∀ y ∈ next x, y ∈ nodes) (h : Leads next a b) :
    b ∈ nodes := by
  cases h with
  | single hstep => exact hclosed _ _ hstep
  | tail _ hstep => exact hclosed _ _ hstep

theorem mem_cycleClass_iff (hclosed : ∀ x, ∀ y ∈ next x, y ∈ nodes) :
    b ∈ cycleClass next nodes a ↔ Leads next a b ∧ Leads next b a := by
  unfold cycleClass
  rw [List.mem_filter, Bool.and_eq_true, List.contains_iff_mem, List.contains_iff_mem,
    mem_reachable_iff hclosed, mem_reachable_iff hclosed]
  exact and_iff_right_of_imp fun h => mem_nodes_of_leads hclosed h.1

/-- Nodes of one class have the same class. -/
theorem cycleClass_congr (hclosed : ∀ x, ∀ y ∈ next x, y ∈ nodes) (hab : Leads next a b)
    (hba : Leads next b a) : cycleClass next nodes b = cycleClass next nodes a := by
  unfold cycleClass
  refine List.filter_congr fun c _ => ?_
  rw [Bool.eq_iff_iff]
  simp only [Bool.and_eq_true, List.contains_iff_mem, mem_reachable_iff hclosed]
  constructor
  · rintro ⟨hbc, hcb⟩
    exact ⟨hab.trans hbc, hcb.trans hba⟩
  · rintro ⟨hac, hca⟩
    exact ⟨hba.trans hac, hca.trans hab⟩

omit [LawfulBEq α] in
/-- In ascending nodes a class ascends. -/
theorem cycleClass_ascending [LT α] (hnodes : nodes.Pairwise (· < ·)) (a : α) :
    (cycleClass next nodes a).Pairwise (· < ·) :=
  hnodes.filter _

/-- A class is listed at its first node. -/
theorem head?_any_eq_true_iff {l : List α} :
    l.head?.any (· == a) = true ↔ ∃ rest, l = a :: rest := by
  cases l <;> simp

/-- **The classes are those of the nodes on a cycle.** -/
theorem mem_cycleClasses_iff (hclosed : ∀ x, ∀ y ∈ next x, y ∈ nodes) {c : List α} :
    c ∈ cycleClasses next nodes ↔ ∃ a, Leads next a a ∧ c = cycleClass next nodes a := by
  unfold cycleClasses
  simp only [List.mem_map, List.mem_filter, head?_any_eq_true_iff]
  constructor
  · rintro ⟨a, ⟨_, rest, hclass⟩, rfl⟩
    have hself : a ∈ cycleClass next nodes a := by rw [hclass]; exact List.mem_cons_self
    exact ⟨a, ((mem_cycleClass_iff hclosed).mp hself).1, rfl⟩
  · rintro ⟨a, ha, rfl⟩
    have hself : a ∈ cycleClass next nodes a := (mem_cycleClass_iff hclosed).mpr ⟨ha, ha⟩
    obtain ⟨first, rest, hclass⟩ := List.exists_cons_of_ne_nil (List.ne_nil_of_mem hself)
    have hfirst : first ∈ cycleClass next nodes a := by rw [hclass]; exact List.mem_cons_self
    obtain ⟨haf, hfa⟩ := (mem_cycleClass_iff hclosed).mp hfirst
    have hsame := cycleClass_congr hclosed haf hfa
    exact ⟨first, ⟨mem_nodes_of_leads hclosed haf, rest, hsame.trans hclass⟩, hsame⟩

/-- **In ascending nodes the classes ascend**, so none is listed twice. -/
theorem cycleClasses_ascending [LT α] (hnodes : nodes.Pairwise (· < ·)) :
    (cycleClasses next nodes).Pairwise (· < ·) := by
  unfold cycleClasses
  rw [List.pairwise_map]
  refine List.Pairwise.imp_of_mem (fun {a b} ha hb hab => ?_) (hnodes.filter _)
  obtain ⟨resta, ha⟩ := head?_any_eq_true_iff.mp (List.mem_filter.mp ha).2
  obtain ⟨restb, hb⟩ := head?_any_eq_true_iff.mp (List.mem_filter.mp hb).2
  rw [ha, hb, List.cons_lt_cons_iff]
  exact Or.inl hab

example : cycleClasses (fun n : Nat => [[1], [2, 1], [0], [3], [3]][n]?.getD []) [0, 1, 2, 3, 4] =
    [[0, 1, 2], [3]] := by decide

end Search

/-! ## 4. Components -/

/-- Whether two nodes lead to each other, or are one. -/
def Mutual {α : Type} (rel : α → α → Prop) (a b : α) : Prop :=
  Relation.ReflTransGen rel a b ∧ Relation.ReflTransGen rel b a

/-- The strongly connected components of a graph, in any order inside and out. -/
structure IsComponents {α : Type} (rel : α → α → Prop) (nodes : List α)
    (components : List (List α)) : Prop where
  covered : ∀ a ∈ nodes, ∃ c ∈ components, a ∈ c
  /-- A component has the nodes that lead to one of them and back, each once. -/
  classes : ∀ c ∈ components, c.Nodup ∧ ∃ a ∈ nodes, ∀ b, b ∈ c ↔ Mutual rel a b
  apart : components.Pairwise List.Disjoint

section Components

variable {α : Type}

namespace Mutual

variable {rel : α → α → Prop} {a b c : α}

theorem refl (rel : α → α → Prop) (a : α) : Mutual rel a a := ⟨.refl, .refl⟩

theorem symm (h : Mutual rel a b) : Mutual rel b a := ⟨h.2, h.1⟩

theorem trans (h : Mutual rel a b) (h' : Mutual rel b c) : Mutual rel a c :=
  ⟨h.1.trans h'.1, h'.2.trans h.2⟩

/-- From a node that leads back to itself, the nodes that it is mutual with are those of its cycles. -/
theorem iff_of_transGen_self (h : Relation.TransGen rel a a) :
    Mutual rel a b ↔ Relation.TransGen rel a b ∧ Relation.TransGen rel b a := by
  refine ⟨fun hab => ⟨h.trans_left hab.1, .trans_right hab.2 h⟩, fun hab => ?_⟩
  exact ⟨hab.1.to_reflTransGen, hab.2.to_reflTransGen⟩

end Mutual

/-- Without duplicates, a list with an element is longer than one exactly if it has another. -/
theorem one_lt_length_iff_exists_ne {c : List α} {a : α} (hnodup : c.Nodup) (ha : a ∈ c) :
    1 < c.length ↔ ∃ b ∈ c, b ≠ a := by
  match c with
  | [x] =>
    obtain rfl := List.mem_singleton.mp ha
    simp
  | x :: y :: rest =>
    refine iff_of_true (by simp) ?_
    by_cases hxa : x = a
    · have hxy : x ≠ y := fun e => (List.nodup_cons.mp hnodup).1 (e ▸ List.mem_cons_self)
      exact ⟨y, List.mem_cons_of_mem _ List.mem_cons_self, hxa ▸ hxy.symm⟩
    · exact ⟨x, List.mem_cons_self, hxa⟩

/-- Every graph has components. -/
theorem exists_isComponents (rel : α → α → Prop) {nodes : List α} (hnodes : nodes.Nodup)
    (hclosed : ∀ a b, rel a b → b ∈ nodes) : ∃ components, IsComponents rel nodes components := by
  classical
  have hmem : ∀ a ∈ nodes, ∀ b, b ∈ nodes.filter (fun b => Mutual rel a b) ↔ Mutual rel a b := by
    intro a ha b
    rw [List.mem_filter, decide_eq_true_iff]
    refine and_iff_right_of_imp fun hab => ?_
    rcases hab.1.cases_tail with rfl | ⟨_, _, hstep⟩
    · exact ha
    · exact hclosed _ _ hstep
  refine ⟨(nodes.map fun a => nodes.filter fun b => Mutual rel a b).dedup, fun a ha => ?_,
    fun c hc => ?_, ?_⟩
  · exact ⟨_, List.mem_dedup.mpr (List.mem_map_of_mem ha), (hmem a ha a).mpr (.refl rel a)⟩
  · obtain ⟨a, ha, rfl⟩ := List.mem_map.mp (List.mem_dedup.mp hc)
    exact ⟨hnodes.filter _, a, ha, hmem a ha⟩
  · -- classes that share a node are the same
    refine (List.nodup_dedup _).imp_of_mem fun {c d} hc hd hne => ?_
    obtain ⟨a, ha, rfl⟩ := List.mem_map.mp (List.mem_dedup.mp hc)
    obtain ⟨b, hb, rfl⟩ := List.mem_map.mp (List.mem_dedup.mp hd)
    intro x hxa hxb
    have hab : Mutual rel a b := ((hmem a ha x).mp hxa).trans ((hmem b hb x).mp hxb).symm
    refine hne (List.filter_congr fun y _ => decide_eq_decide.mpr ⟨fun h => ?_, fun h => ?_⟩)
    · exact hab.symm.trans h
    · exact hab.trans h

variable [BEq α]

/-- Whether a component has a cycle: it has more than one node, or one that leads to itself. -/
def turns (next : α → List α) (c : List α) : Bool :=
  decide (1 < c.length) || c.any fun a => (next a).contains a

/-- Whether a component has a cycle, when only its first node is asked. -/
def turnsAtFirst (next : α → List α) (c : List α) : Bool :=
  decide (1 < c.length) || c.head?.any fun a => (next a).contains a

/-- The first node of a component tells enough: a component with others has a cycle anyway. -/
theorem turnsAtFirst_eq_turns (next : α → List α) : turnsAtFirst next = turns next := by
  funext c
  match c with
  | [] => rfl
  | [a] => simp [turnsAtFirst, turns]
  | a :: b :: rest => simp [turnsAtFirst, turns]

variable [LawfulBEq α] {next : α → List α} {nodes : List α} {components : List (List α)}

namespace IsComponents

variable {c : List α} {a b : α} (h : IsComponents (fun x y => y ∈ next x) nodes components)
include h

omit [BEq α] [LawfulBEq α] in
theorem mem_iff (hc : c ∈ components) (ha : a ∈ c) : b ∈ c ↔ Mutual (fun x y => y ∈ next x) a b := by
  obtain ⟨_, first, _, hmem⟩ := h.classes c hc
  rw [hmem] at ha ⊢
  exact ⟨fun hb => ha.symm.trans hb, fun hb => ha.trans hb⟩

/-- **A component has a cycle exactly if its nodes lead back to themselves.** -/
theorem turns_iff (hc : c ∈ components) (ha : a ∈ c) : turns next c = true ↔ Leads next a a := by
  unfold turns
  rw [Bool.or_eq_true, decide_eq_true_iff, List.any_eq_true,
    one_lt_length_iff_exists_ne (h.classes c hc).1 ha]
  constructor
  · rintro (⟨b, hb, hne⟩ | ⟨x, hx, hloop⟩)
    · obtain ⟨hab, hba⟩ := (h.mem_iff hc ha).mp hb
      have hstep : Leads next a b :=
        (Relation.reflTransGen_iff_eq_or_transGen.mp hab).resolve_left hne
      exact hstep.trans_left hba
    · obtain ⟨hax, hxa⟩ := (h.mem_iff hc ha).mp hx
      have hloop : Leads next x x := .single (List.contains_iff_mem.mp hloop)
      exact (Relation.TransGen.trans_right hax hloop).trans_left hxa
  · intro hself
    obtain ⟨b, hstep, hback⟩ := Relation.TransGen.head'_iff.mp hself
    by_cases hba : b = a
    · exact Or.inr ⟨a, ha, List.contains_iff_mem.mpr (hba ▸ hstep)⟩
    · exact Or.inl ⟨b, (h.mem_iff hc ha).mpr ⟨.single hstep, hback⟩, hba⟩

/-- **The nodes on a cycle are those of the components that have one.** -/
theorem leads_self_iff (hclosed : ∀ x, ∀ y ∈ next x, y ∈ nodes) :
    Leads next a a ↔ ∃ c ∈ components, turns next c = true ∧ a ∈ c := by
  constructor
  · intro hself
    obtain ⟨c, hc, ha⟩ := h.covered a (mem_nodes_of_leads hclosed hself)
    exact ⟨c, hc, (h.turns_iff hc ha).mpr hself, ha⟩
  · rintro ⟨c, hc, hturns, ha⟩
    exact (h.turns_iff hc ha).mp hturns

/-- In the order of the nodes, a component with a cycle is the class of each of its nodes. -/
theorem filter_contains_eq (hclosed : ∀ x, ∀ y ∈ next x, y ∈ nodes) (hc : c ∈ components)
    (ha : a ∈ c) (hself : Leads next a a) : nodes.filter c.contains = cycleClass next nodes a := by
  unfold cycleClass
  refine List.filter_congr fun b _ => ?_
  rw [Bool.eq_iff_iff, Bool.and_eq_true, List.contains_iff_mem, List.contains_iff_mem,
    List.contains_iff_mem, mem_reachable_iff hclosed, mem_reachable_iff hclosed, h.mem_iff hc ha,
    Mutual.iff_of_transGen_self hself]

/-- **The classes are the components that have a cycle**, each in the order of the nodes. -/
theorem perm_cycleClasses (hclosed : ∀ x, ∀ y ∈ next x, y ∈ nodes)
    (hnodup : (cycleClasses next nodes).Nodup) :
    (cycleClasses next nodes).Perm
      ((components.filter (turns next)).map fun c => nodes.filter c.contains) := by
  have hinhabited : ∀ c ∈ components, ∃ a ∈ c, a ∈ nodes := by
    intro c hc
    obtain ⟨_, a, ha, hmem⟩ := h.classes c hc
    exact ⟨a, (hmem a).mpr (.refl _ a), ha⟩
  have hdistinct : ((components.filter (turns next)).map fun c => nodes.filter c.contains).Nodup := by
    refine List.pairwise_map.mpr ((h.apart.filter _).imp_of_mem fun {c d} hc _ hcd heq => ?_)
    obtain ⟨a, ha, hnode⟩ := hinhabited c (List.mem_filter.mp hc).1
    have hmem : a ∈ nodes.filter c.contains :=
      List.mem_filter.mpr ⟨hnode, List.contains_iff_mem.mpr ha⟩
    rw [heq, List.mem_filter, List.contains_iff_mem] at hmem
    exact hcd ha hmem.2
  rw [List.perm_ext_iff_of_nodup hnodup hdistinct]
  intro l
  rw [mem_cycleClasses_iff hclosed, List.mem_map]
  constructor
  · rintro ⟨a, hself, rfl⟩
    obtain ⟨c, hc, hturns, ha⟩ := (h.leads_self_iff hclosed).mp hself
    exact ⟨c, List.mem_filter.mpr ⟨hc, hturns⟩, h.filter_contains_eq hclosed hc ha hself⟩
  · rintro ⟨c, hmem, rfl⟩
    obtain ⟨hc, hturns⟩ := List.mem_filter.mp hmem
    obtain ⟨a, ha, _⟩ := hinhabited c hc
    have hself := (h.turns_iff hc ha).mp hturns
    exact ⟨a, hself, h.filter_contains_eq hclosed hc ha hself⟩

end IsComponents

end Components

/-! ## 5. Imports -/

namespace ModuleGraph

/-- Whether a module imports another. -/
def Imports (g : ModuleGraph) (source target : String) : Prop :=
  ∃ e ∈ g.importEdges, e.source = source ∧ e.target = target

theorem mem_importEdges {g : ModuleGraph} {e : ImportEdge} :
    e ∈ g.importEdges ↔ ∃ m ∈ g.modules, e ∈ g.edgesFrom m := by
  unfold importEdges
  rw [List.mem_mergeSort, List.mem_flatMap]

/-- An import edge starts at its module and ends in the project. -/
theorem ends_of_mem_edgesFrom {g : ModuleGraph} {m : ModuleNode} {e : ImportEdge}
    (h : e ∈ g.edgesFrom m) : e.source = m.name ∧ g.contains e.target = true := by
  obtain ⟨i, _, hi⟩ := List.mem_filterMap.mp h
  split at hi
  · split at hi
    · rename_i hcontains
      cases hi
      exact ⟨rfl, hcontains⟩
    · cases hi
  · cases hi

theorem mem_names_of_mem_importedBy {g : ModuleGraph} {source target : String}
    (h : target ∈ g.importedBy source) : target ∈ g.names := by
  unfold importedBy at h
  cases hm : g.get? source with
  | none => rw [hm] at h; exact absurd h List.not_mem_nil
  | some m =>
    rw [hm] at h
    obtain ⟨e, he, rfl⟩ := List.mem_map.mp h
    exact SortedMap.mem_keys_iff.mpr (ends_of_mem_edgesFrom he).2

/-- In a graph that was built, what a module imports are the ends of its edges. -/
theorem mem_importedBy_iff {units : List SourceUnit} {source target : String} :
    target ∈ (build units).importedBy source ↔ (build units).Imports source target := by
  constructor
  · intro h
    unfold importedBy at h
    cases hm : (build units).get? source with
    | none => rw [hm] at h; exact absurd h List.not_mem_nil
    | some m =>
      rw [hm] at h
      obtain ⟨e, he, rfl⟩ := List.mem_map.mp h
      have hmem : m ∈ (build units).modules := SortedMap.mem_values_iff.mpr ⟨source, hm⟩
      obtain ⟨_, _, _, hname⟩ := exists_unit_of_get? hm
      refine ⟨e, mem_importEdges.mpr ⟨m, hmem, he⟩, ?_, rfl⟩
      rw [(ends_of_mem_edgesFrom he).1, hname]
  · rintro ⟨e, he, rfl, rfl⟩
    obtain ⟨m, hm, hedge⟩ := mem_importEdges.mp he
    unfold importedBy
    rw [(ends_of_mem_edgesFrom hedge).1, get?_of_mem_modules hm]
    exact List.mem_map_of_mem hedge

theorem steps_importedBy (units : List SourceUnit) :
    (fun x y => y ∈ (build units).importedBy x) = (build units).Imports :=
  funext₂ fun _ _ => propext mem_importedBy_iff

theorem leads_importedBy (units : List SourceUnit) :
    Leads (build units).importedBy = Relation.TransGen (build units).Imports :=
  congrArg Relation.TransGen (steps_importedBy units)

theorem inCycle_iff {units : List SourceUnit} {name : String} :
    (build units).inCycle name = true ↔ Relation.TransGen (build units).Imports name name := by
  unfold inCycle
  rw [onCycle_iff fun _ _ => mem_names_of_mem_importedBy, leads_importedBy]

/-- A class of modules that lead to each other by a relation, in ascending order. -/
def IsCycle (rel : String → String → Prop) (c : List String) : Prop :=
  c.Pairwise (· < ·) ∧ ∃ a, Relation.TransGen rel a a ∧
    ∀ b, b ∈ c ↔ Relation.TransGen rel a b ∧ Relation.TransGen rel b a

theorem mem_cycles_iff {units : List SourceUnit} {c : List String} :
    c ∈ (build units).cycles ↔ IsCycle (build units).Imports c := by
  have hclosed : ∀ x, ∀ y ∈ (build units).importedBy x, y ∈ (build units).names :=
    fun _ _ => mem_names_of_mem_importedBy
  have hclass : ∀ a b, b ∈ cycleClass (build units).importedBy (build units).names a ↔
      Relation.TransGen (build units).Imports a b ∧ Relation.TransGen (build units).Imports b a := by
    intro a b
    rw [mem_cycleClass_iff hclosed, leads_importedBy]
  have hsorted : ∀ a, (cycleClass (build units).importedBy (build units).names a).Pairwise (· < ·) :=
    cycleClass_ascending (names_ascending _)
  unfold cycles
  rw [mem_cycleClasses_iff hclosed, leads_importedBy]
  constructor
  · rintro ⟨a, ha, rfl⟩
    exact ⟨hsorted a, a, ha, hclass a⟩
  · rintro ⟨hc, a, ha, hmem⟩
    -- both lists ascend and have the same members
    refine ⟨a, ha, Ascending.eq_of_mem_iff (hc.imp compareOfLessAndEq_eq_lt.mpr)
      ((hsorted a).imp compareOfLessAndEq_eq_lt.mpr) fun b => ?_⟩
    rw [hmem, hclass]

theorem cycles_ascending (units : List SourceUnit) : (build units).cycles.Pairwise (· < ·) :=
  cycleClasses_ascending (names_ascending _)

/-- The cycles and their modules are those of the components that have a cycle. -/
theorem cycles_of_components {units : List SourceUnit} {components : List (List String)}
    (h : IsComponents (build units).Imports (build units).names components) :
    (∀ name, (build units).inCycle name = true ↔
      ∃ c ∈ components, turnsAtFirst (build units).importedBy c = true ∧ name ∈ c) ∧
    (build units).cycles.Perm ((components.filter (turnsAtFirst (build units).importedBy)).map
      fun c => (build units).names.filter c.contains) := by
  have hclosed : ∀ x, ∀ y ∈ (build units).importedBy x, y ∈ (build units).names :=
    fun _ _ => mem_names_of_mem_importedBy
  rw [← steps_importedBy] at h
  rw [turnsAtFirst_eq_turns]
  refine ⟨fun name => ?_, h.perm_cycleClasses hclosed ?_⟩
  · rw [inCycle_iff, ← leads_importedBy, h.leads_self_iff hclosed]
  · refine (cycles_ascending units).imp fun {a b} hlt (heq : a = b) => ?_
    rw [heq] at hlt
    exact List.lt_irrefl b hlt

end ModuleGraph

/-! ## 6. Calls -/

namespace CallGraph

variable {g : CallGraph}

/-- Whether a function calls another. -/
def Calls (g : CallGraph) (caller callee : FunctionId) : Prop :=
  ∃ e ∈ g.edges, e.caller = caller ∧ e.callee = callee

theorem mem_calledBy_iff {caller callee : FunctionId} :
    callee ∈ g.calledBy caller ↔ g.Calls caller callee := by
  unfold calledBy Calls
  simp only [List.mem_map, List.mem_filter, beq_iff_eq, and_assoc]

theorem steps_calledBy (g : CallGraph) : (fun x y => y ∈ g.calledBy x) = g.Calls :=
  funext₂ fun _ _ => propext mem_calledBy_iff

theorem leads_calledBy (g : CallGraph) : Leads g.calledBy = Relation.TransGen g.Calls :=
  congrArg Relation.TransGen (steps_calledBy g)

theorem mem_ids_of_mem_calledBy (hends : ∀ e ∈ g.edges, g.contains e.callee = true)
    {caller callee : FunctionId} (h : callee ∈ g.calledBy caller) : callee ∈ g.nodes.map (·.id) := by
  obtain ⟨e, he, _, rfl⟩ := mem_calledBy_iff.mp h
  exact contains_iff_mem.mp (hends e he)

/-- Marking sets the flag of every node as the edges say. -/
theorem inCallCycle_of_mem_markCallCycles
    (hends : ∀ e ∈ g.edges, g.contains e.callee = true) {n : CallNode}
    (hn : n ∈ g.markCallCycles.nodes) :
    n.inCallCycle = true ↔ Relation.TransGen g.markCallCycles.Calls n.id n.id := by
  obtain ⟨m, _, rfl⟩ := List.mem_map.mp hn
  show onCycle g.calledBy (g.nodes.map (·.id)) m.id = true ↔ Relation.TransGen g.Calls m.id m.id
  rw [onCycle_iff fun _ _ => mem_ids_of_mem_calledBy hends, leads_calledBy]

/-- In a graph that was built a function is marked exactly if calls lead from it back to itself. -/
theorem inCallCycle_iff {modules : ModuleGraph} {facts : List FunctionFacts} {registry : Registry}
    (h : build modules facts registry = .ok g) {n : CallNode} (hn : n ∈ g.nodes) :
    n.inCallCycle = true ↔ Relation.TransGen g.Calls n.id n.id := by
  have hwell := build_wellFormed h
  obtain ⟨graph, _, rfl⟩ := build_eq_ok h rfl rfl
  refine inCallCycle_of_mem_markCallCycles (fun e he => ?_) hn
  have hcallee := (hwell.ends e he).2
  rw [contains_iff_mem] at hcallee ⊢
  simpa [markCallCycles] using hcallee

/-- The functions marked are those of the components that have a cycle. -/
theorem inCallCycle_of_components {modules : ModuleGraph} {facts : List FunctionFacts}
    {registry : Registry} (h : build modules facts registry = .ok g)
    {components : List (List FunctionId)}
    (hcomponents : IsComponents g.Calls (g.nodes.map (·.id)) components) {n : CallNode}
    (hn : n ∈ g.nodes) :
    n.inCallCycle = true ↔ ∃ c ∈ components, turns g.calledBy c = true ∧ n.id ∈ c := by
  have hends : ∀ e ∈ g.edges, g.contains e.callee = true := fun e he =>
    ((build_wellFormed h).ends e he).2
  rw [← steps_calledBy] at hcomponents
  rw [inCallCycle_iff h hn, ← leads_calledBy,
    hcomponents.leads_self_iff fun _ _ => mem_ids_of_mem_calledBy hends]

end CallGraph

/-! ## 7. Both -/

/-- **Cycle flags are exact.** A module is flagged exactly if imports lead from it back to itself; the
cycles listed are the classes of such modules, each once, in ascending order inside and out; and a
function is flagged exactly if calls lead from it back to itself.

Both graphs have strongly connected components, and however these are listed they give the same flags
and cycles: those with more than one node, or with one that leads to itself, are the cycles. Of a
component of modules only the first is asked whether it leads to itself. -/
theorem cycle_flags_exact :
    (∀ units : List SourceUnit,
      (∀ name, (ModuleGraph.build units).inCycle name = true ↔
        Relation.TransGen (ModuleGraph.build units).Imports name name) ∧
      (∀ c, c ∈ (ModuleGraph.build units).cycles ↔
        ModuleGraph.IsCycle (ModuleGraph.build units).Imports c) ∧
      (ModuleGraph.build units).cycles.Pairwise (· < ·) ∧
      (∃ components, IsComponents (ModuleGraph.build units).Imports (ModuleGraph.build units).names
        components) ∧
      ∀ components, IsComponents (ModuleGraph.build units).Imports (ModuleGraph.build units).names
          components →
        (∀ name, (ModuleGraph.build units).inCycle name = true ↔ ∃ c ∈ components,
          turnsAtFirst (ModuleGraph.build units).importedBy c = true ∧ name ∈ c) ∧
        (ModuleGraph.build units).cycles.Perm
          ((components.filter (turnsAtFirst (ModuleGraph.build units).importedBy)).map
            fun c => (ModuleGraph.build units).names.filter c.contains)) ∧
    ∀ (modules : ModuleGraph) (facts : List FunctionFacts) (registry : Registry),
      ∃ g, CallGraph.build modules facts registry = .ok g ∧
        (∀ n ∈ g.nodes, n.inCallCycle = true ↔ Relation.TransGen g.Calls n.id n.id) ∧
        (∃ components, IsComponents g.Calls (g.nodes.map (·.id)) components) ∧
        ∀ components, IsComponents g.Calls (g.nodes.map (·.id)) components → ∀ n ∈ g.nodes,
          n.inCallCycle = true ↔ ∃ c ∈ components, turns g.calledBy c = true ∧ n.id ∈ c := by
  refine ⟨fun units => ⟨fun name => ModuleGraph.inCycle_iff, fun c => ModuleGraph.mem_cycles_iff,
    ModuleGraph.cycles_ascending units, ?_, fun components => ModuleGraph.cycles_of_components⟩,
    fun modules facts registry => ?_⟩
  · refine exists_isComponents _ (ModuleGraph.names_nodup _) fun source target h => ?_
    exact ModuleGraph.mem_names_of_mem_importedBy (ModuleGraph.mem_importedBy_iff.mpr h)
  · obtain ⟨g, hg⟩ := CallGraph.exists_build modules facts registry
    have hwell := CallGraph.build_wellFormed hg
    refine ⟨g, hg, fun n hn => CallGraph.inCallCycle_iff hg hn, ?_, fun components hcomponents n hn =>
      CallGraph.inCallCycle_of_components hg hcomponents hn⟩
    refine exists_isComponents _ hwell.distinct fun caller callee h => ?_
    obtain ⟨e, he, _, rfl⟩ := h
    exact CallGraph.contains_iff_mem.mp (hwell.ends e he).2

end TaintFlow
