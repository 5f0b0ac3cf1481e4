import Mathlib.Data.Set.Function
import TaintFlow.Diagram
import TaintFlow.Proofs.ImportTargets

/-!
# Diagrams without loose ends

Every edge of a diagram of modules or of calls joins two of its nodes, and no two nodes have one id
(`Diagram.Closed`). For modules this is read off the graph. A drawing of calls is made step by step:
a function is drawn before the edges that touch it, so each step keeps the ends of edges drawn
(`CallDrawing.Tied`).

A flowchart needs plain identifiers. They are numbers: those of the nodes by their places, and a
further one for each end of an edge that is no node. Each takes the number of identifiers there are, so
the identifiers always are the numbers below that, each of them once (`Numbers`). Hence in a diagram
with distinct nodes, whatever its edges, everything named has an identifier of its own
(`diagrams_well_named`).
-/

namespace TaintFlow.Diagram

/-- The ids of the nodes. -/
def ids (d : Diagram) : List String := d.nodes.map (·.id)

/-- The ends of the edges, in order. -/
def ends (d : Diagram) : List String := d.edges.flatMap fun e => [e.source, e.target]

/-- No two nodes have one id, and edges join nodes. -/
structure Closed (d : Diagram) : Prop where
  distinct : d.ids.Nodup
  joined : ∀ e ∈ d.edges, e.source ∈ d.ids ∧ e.target ∈ d.ids

/-! ## 1. Modules -/

theorem ids_ofModules (units : List SourceUnit) (findings : List Finding) :
    (ofModules (.build units) findings).ids = (ModuleGraph.build units).names := by
  rw [← ModuleGraph.names_build_eq, ids, ofModules, List.map_map]
  rfl

theorem closed_ofModules (units : List SourceUnit) (findings : List Finding) :
    (ofModules (.build units) findings).Closed := by
  constructor
  · rw [ids_ofModules]
    exact ModuleGraph.names_nodup _
  · intro edge hedge
    obtain ⟨e, he, rfl⟩ := List.mem_map.mp hedge
    obtain ⟨m, hm, he⟩ := ModuleGraph.mem_importEdges.mp he
    obtain ⟨hsource, htarget⟩ := ModuleGraph.ends_of_mem_edgesFrom he
    rw [ids_ofModules, ← ModuleGraph.contains_iff_mem_names, ← ModuleGraph.contains_iff_mem_names]
    refine ⟨?_, htarget⟩
    have hfound := ModuleGraph.get?_of_mem_modules hm
    show ((ModuleGraph.build units).nodes.get? e.source).isSome = true
    rw [hsource]
    exact Option.isSome_of_eq_some hfound

/-! ## 2. Calls -/

namespace CallDrawing

variable {g : CallGraph} {d : CallDrawing}

/-- Whether a function is drawn. -/
def Draws (d : CallDrawing) (id : String) : Prop := d.nodes.contains id = true

/-- Each node stands under its own id, and edges join functions that are drawn. -/
structure Tied (d : CallDrawing) : Prop where
  named : ∀ k n, d.nodes.get? k = some n → n.id = k
  joined : ∀ k e, d.edges.get? k = some e → d.Draws e.source ∧ d.Draws e.target

theorem draws_addFunction {id : FunctionId} {kind k : String} :
    (d.addFunction g id kind).Draws k ↔ k = id.display ∨ d.Draws k := by
  unfold Draws
  rw [addFunction, SortedMap.contains_alter, Bool.or_eq_true, beq_iff_eq,
    Std.LawfulEqCmp.compare_eq_iff_eq]

theorem draws_addEdge {key : EdgeKey} {k : String} : (d.addEdge key).Draws k ↔ d.Draws k := Iff.rfl

theorem draws_markSink {id : FunctionId} {k : String} : (d.markSink id).Draws k ↔ d.Draws k := by
  unfold Draws
  rw [SortedMap.contains, markSink, SortedMap.get?_mapValues_key, Option.isSome_map]
  rfl

/-! One step of drawing each. -/

theorem Tied.addFunction (h : d.Tied) (id : FunctionId) (kind : String) :
    (d.addFunction g id kind).Tied where
  named := by
    intro k n hn
    rw [CallDrawing.addFunction, SortedMap.get?_alter] at hn
    split at hn
    · rename_i hk
      cases hn
      rw [Std.LawfulEqOrd.eq_of_compare hk]
      cases hpresent : d.nodes.get? id.display with
      | none => rfl
      | some present => exact h.named _ _ hpresent
    · exact h.named k n hn
  joined := by
    intro k e he
    obtain ⟨hsource, htarget⟩ := h.joined k e he
    exact ⟨draws_addFunction.mpr (Or.inr hsource), draws_addFunction.mpr (Or.inr htarget)⟩

theorem Tied.addEdge (h : d.Tied) {source target : String} (hsource : d.Draws source)
    (htarget : d.Draws target) (label : String) : (d.addEdge ⟨source, target, label⟩).Tied where
  named := h.named
  joined := by
    intro k e he
    rw [CallDrawing.addEdge, SortedMap.get?_alter] at he
    split at he
    · cases he
      cases hpresent : d.edges.get? ⟨source, target, label⟩ with
      | none => exact ⟨hsource, htarget⟩
      | some present => exact h.joined _ _ hpresent
    · exact h.joined k e he

theorem Tied.markSink (h : d.Tied) (id : FunctionId) : (d.markSink id).Tied where
  named := by
    intro k n hn
    rw [CallDrawing.markSink, SortedMap.get?_mapValues_key] at hn
    obtain ⟨present, hpresent, rfl⟩ := Option.map_eq_some_iff.mp hn
    have hid := h.named k present hpresent
    split
    · exact hid
    · exact hid
  joined := by
    intro k e he
    obtain ⟨hsource, htarget⟩ := h.joined k e he
    exact ⟨draws_markSink.mpr hsource, draws_markSink.mpr htarget⟩

/-- **Steps are drawn from function to function.** The one that a step leaves is drawn already, the one
that it enters is drawn with it. -/
theorem Tied.addSteps (h : d.Tied) {previous : FunctionId} (hprevious : d.Draws previous.display)
    (hops : List Hop) : (addSteps g previous hops d).Tied := by
  induction hops generalizing previous d with
  | nil => exact h
  | cons hop hops ih =>
    have htied : (d.addFunction g hop.function "function").Tied := h.addFunction hop.function _
    have hleft : (d.addFunction g hop.function "function").Draws previous.display :=
      draws_addFunction.mpr (Or.inr hprevious)
    have hentered : (d.addFunction g hop.function "function").Draws hop.function.display :=
      draws_addFunction.mpr (Or.inl rfl)
    rw [CallDrawing.addSteps]
    by_cases hret : hop.kind = .ret
    · rw [if_pos (beq_iff_eq.mpr hret)]
      exact ih (htied.addEdge hentered hleft _) (draws_addEdge.mpr hentered)
    · rw [if_neg fun h => hret (beq_iff_eq.mp h)]
      exact ih (htied.addEdge hleft hentered _) (draws_addEdge.mpr hentered)

theorem Tied.addFinding (h : d.Tied) (v : Finding) : (d.addFinding g v).Tied :=
  ((h.addFunction v.source.function "source").addSteps (draws_addFunction.mpr (Or.inl rfl))
    v.steps).markSink
    v.sink.function

theorem tied_foldl (h : d.Tied) (findings : List Finding) :
    (findings.foldl (addFinding g) d).Tied := by
  induction findings generalizing d with
  | nil => exact h
  | cons v findings ih => exact ih (h.addFinding v)

theorem tied_empty : ({} : CallDrawing).Tied :=
  ⟨fun _ _ h => (by cases h), fun _ _ h => by cases h⟩

/-- The nodes have the keys under which they are drawn as ids. -/
theorem Tied.map_id_values (h : d.Tied) : d.nodes.values.map (·.id) = d.nodes.keys := by
  unfold SortedMap.values SortedMap.keys
  rw [List.map_map]
  exact List.map_congr_left fun e he => h.named e.1 e.2 (SortedMap.get?_of_mem he)

end CallDrawing

theorem closed_ofCalls (g : CallGraph) (findings : List Finding) : (ofCalls g findings).Closed := by
  have htied : (findings.foldl (CallDrawing.addFinding g) {}).Tied :=
    CallDrawing.tied_foldl CallDrawing.tied_empty findings
  have hids : (ofCalls g findings).ids = (findings.foldl (CallDrawing.addFinding g) {}).nodes.keys :=
    htied.map_id_values
  constructor
  · rw [hids]
    refine List.pairwise_map.mpr ((SortedMap.ascending _).imp fun {a b} hab e => ?_)
    rw [e, Std.ReflOrd.compare_self] at hab
    cases hab
  · intro e he
    obtain ⟨k, hk⟩ := SortedMap.mem_values_iff.mp he
    rw [hids, SortedMap.mem_keys_iff, SortedMap.mem_keys_iff]
    exact htied.joined k e hk

/-! ## 3. Identifiers -/

/-- The identifier with a number. -/
def numbered (i : Nat) : String := s!"n{i}"

theorem numbered_injective {i j : Nat} (h : numbered i = numbered j) : i = j := by
  have hchars : "n".toList ++ i.repr.toList = "n".toList ++ j.repr.toList := by
    rw [← String.toList_append, ← String.toList_append]
    exact congrArg String.toList h
  have hdigits := List.append_cancel_left hchars
  rw [Nat.toList_repr, Nat.toList_repr] at hdigits
  rw [← Nat.ofDigitChars_ten_toDigits (n := i), hdigits, Nat.ofDigitChars_ten_toDigits]

/-- The identifiers are the numbers of names in an order without repeats. -/
structure Numbers (ids : SortedMap String String) (order : List String) : Prop where
  size : ids.size = order.length
  get? : ∀ id name, ids.get? id = some name ↔ ∃ i, order[i]? = some id ∧ name = numbered i

namespace Numbers

variable {ids : SortedMap String String} {order : List String} {a b name : String}

theorem contains_iff (h : Numbers ids order) : ids.contains a = true ↔ a ∈ order := by
  rw [SortedMap.contains, Option.isSome_iff_exists, List.mem_iff_getElem?]
  constructor
  · rintro ⟨name, hname⟩
    obtain ⟨i, hi, _⟩ := (h.get? a name).mp hname
    exact ⟨i, hi⟩
  · rintro ⟨i, hi⟩
    exact ⟨numbered i, (h.get? a _).mpr ⟨i, hi, rfl⟩⟩

/-- **No two names have one identifier.** -/
theorem eq_of_get? (h : Numbers ids order) (ha : ids.get? a = some name)
    (hb : ids.get? b = some name) : a = b := by
  obtain ⟨i, hi, rfl⟩ := (h.get? a name).mp ha
  obtain ⟨j, hj, hname⟩ := (h.get? b _).mp hb
  rw [numbered_injective hname, hj] at hi
  exact (Option.some.inj hi).symm

theorem get?_of_not_mem (h : Numbers ids order) (hnew : a ∉ order) : ids.get? a = none :=
  Option.not_isSome_iff_eq_none.mp fun hsome => hnew (h.contains_iff.mp hsome)

/-- **The number of identifiers is a new one.** -/
theorem insert (h : Numbers ids order) (hnew : a ∉ order) :
    Numbers (ids.insert a (numbered ids.size)) (order ++ [a]) where
  size := by
    have hcontains : ids.contains a = false := by rw [SortedMap.contains, h.get?_of_not_mem hnew]; rfl
    rw [SortedMap.size_insert_of_new hcontains, h.size, List.length_append]
    rfl
  get? := by
    intro id name
    have hplace : ∀ i, (order ++ [a])[i]? = some id ↔
        order[i]? = some id ∨ i = order.length ∧ id = a := by
      intro i
      grind
    simp only [SortedMap.get?_insert, hplace, h.size]
    by_cases hid : compare id a = .eq
    · obtain rfl := Std.LawfulEqOrd.eq_of_compare hid
      have hnowhere : ∀ i, order[i]? ≠ some id := fun i hi => hnew (List.mem_of_getElem? hi)
      simp [hnowhere, eq_comm]
    · have hne : id ≠ a := fun e => hid (e ▸ Std.ReflOrd.compare_self)
      simp only [if_neg hid, h.get?, hne, and_false, or_false]

/-- Nodes in a row take the numbers of their places. -/
theorem insertNodes (h : Numbers ids order) (nodes : List DiagramNode)
    (hnew : (order ++ nodes.map (·.id)).Nodup) :
    Numbers (((nodes.zipIdx order.length).map fun (n, i) => (n.id, numbered i)).foldl
      (fun m e => m.insert e.1 e.2) ids) (order ++ nodes.map (·.id)) := by
  induction nodes generalizing ids order with
  | nil => simpa using h
  | cons n nodes ih =>
    rw [List.map_cons, List.append_cons] at hnew ⊢
    have hfirst : n.id ∉ order := by
      have hnodup := (List.nodup_append.mp hnew).1
      exact fun hmem => (List.nodup_append.mp hnodup).2.2 _ hmem _ List.mem_cons_self rfl
    have hnext := ih (h.insert hfirst) hnew
    rw [List.length_append, h.size] at hnext
    exact hnext

end Numbers

/-- Gives a name the next identifier unless it has one. -/
def addId (ids : SortedMap String String) (id : String) : SortedMap String String :=
  if ids.contains id then ids else ids.insert id (numbered ids.size)

theorem Numbers.foldl_addId {ids : SortedMap String String} {order : List String}
    (h : Numbers ids order) (names : List String) :
    ∃ order', Numbers (names.foldl addId ids) order' ∧ ∀ a, a ∈ order' ↔ a ∈ order ∨ a ∈ names := by
  induction names generalizing ids order with
  | nil => exact ⟨order, h, fun a => by simp⟩
  | cons name names ih =>
    rw [List.foldl_cons, addId]
    split
    · rename_i hcontains
      have hname : name ∈ order := h.contains_iff.mp hcontains
      obtain ⟨order', hnumbers, hmem⟩ := ih h
      refine ⟨order', hnumbers, fun a => ?_⟩
      rw [hmem, List.mem_cons, ← or_assoc, or_iff_left_of_imp (b := a = name) fun e => e ▸ hname]
    · rename_i hcontains
      obtain ⟨order', hnumbers, hmem⟩ := ih (h.insert fun hc => hcontains (h.contains_iff.mpr hc))
      refine ⟨order', hnumbers, fun a => ?_⟩
      rw [hmem, List.mem_append, List.mem_singleton, List.mem_cons, or_assoc]

/-- **In a diagram with distinct nodes the nodes and ends are numbered.** -/
theorem exists_numbers {d : Diagram} (h : d.ids.Nodup) :
    ∃ order, Numbers d.shortIds order ∧ ∀ a, a ∈ order ↔ a ∈ d.ids ∨ a ∈ d.ends := by
  have hempty : Numbers ∅ [] := ⟨rfl, fun id name => by simp⟩
  have hnodes := hempty.insertNodes d.nodes h
  exact hnodes.foldl_addId d.ends

/-- **Diagrams have no loose ends and no confused nodes.** From any project and any findings, the
diagrams of modules and of calls have nodes with distinct ids and edges that join them. In every
diagram with distinct nodes, also one with edges that end nowhere, each node and each end of an edge
has an identifier, no two have the same, and these are the identifiers in the flowchart. -/
theorem diagrams_well_named (units : List SourceUnit) (g : CallGraph) (findings : List Finding) :
    (ofModules (.build units) findings).Closed ∧ (ofCalls g findings).Closed ∧
    ∀ d : Diagram, d.ids.Nodup → ∃ idOf : String → String,
      (∀ a, a ∈ d.ids ∨ a ∈ d.ends → d.shortIds.get? a = some (idOf a)) ∧
      Set.InjOn idOf {a | a ∈ d.ids ∨ a ∈ d.ends} ∧ d.mermaid = d.flowchart idOf := by
  refine ⟨closed_ofModules units findings, closed_ofCalls g findings, fun d hd => ?_⟩
  obtain ⟨order, hnumbers, hmem⟩ := exists_numbers hd
  have hfound : ∀ a, a ∈ d.ids ∨ a ∈ d.ends →
      d.shortIds.get? a = some ((d.shortIds.get? a).getD "") := by
    intro a ha
    obtain ⟨i, hi⟩ := List.mem_iff_getElem?.mp ((hmem a).mpr ha)
    rw [(hnumbers.get? a _).mpr ⟨i, hi, rfl⟩]
    rfl
  refine ⟨fun a => (d.shortIds.get? a).getD "", hfound, fun a ha b hb hsame => ?_, rfl⟩
  dsimp only at hsame
  exact hnumbers.eq_of_get? (hfound a ha) (hsame ▸ hfound b hb)

/-- Two nodes, the first with an id like an identifier, and edges to and from names that are no
nodes. -/
def looseEnds : Diagram where
  nodes := [{ id := "n1", kind := "module" }, { id := "app", kind := "module" }]
  edges := [{ source := "app", target := "lib", label := "line 1" },
    { source := "tool", target := "n1", label := "line 2" }]

theorem loose_ends_named :
    looseEnds.ids.Nodup ∧ ∃ idOf : String → String,
      (∀ a, a ∈ looseEnds.ids ∨ a ∈ looseEnds.ends → looseEnds.shortIds.get? a = some (idOf a)) ∧
      Set.InjOn idOf {a | a ∈ looseEnds.ids ∨ a ∈ looseEnds.ends} ∧
      looseEnds.mermaid = looseEnds.flowchart idOf :=
  ⟨by decide, (diagrams_well_named [] (.empty {}) []).2.2 looseEnds (by decide)⟩

end TaintFlow.Diagram
