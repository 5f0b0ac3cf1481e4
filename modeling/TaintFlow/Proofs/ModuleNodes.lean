import TaintFlow.ModuleGraph
import TaintFlow.Proofs.MapLookup

/-!
# The node of a module

Several files may stand for one module: `a.py` beside `a/__init__.py`. The graph has one node for each
name (`mem_names_build`, `names_ascending`), and of several units of a name the first gives file, kind,
degraded reason and imports (`get?_build`).

What the node declares is read off another unit: the first of the name that has a tree. So a node may
be degraded and declare functions all the same. `nodes_from_first_units` says exactly when the two
units agree, and `degraded_node_declares` is a project where they do not.
-/

namespace TaintFlow

namespace ModuleGraph

variable {units : List SourceUnit} {name : String}

/-! ## 1. The first unit of a name -/

/-- The first unit of a name. -/
def firstUnit? (units : List SourceUnit) (name : String) : Option SourceUnit :=
  units.find? fun u => u.module == name

/-- The first unit of a name that has a tree. -/
def firstParsed? (units : List SourceUnit) (name : String) : Option SourceUnit :=
  firstUnit? (units.filter fun u => u.tree?.isSome) name

theorem module_of_firstUnit? {u : SourceUnit} (h : firstUnit? units name = some u) :
    u.module = name := by
  simpa using List.find?_some h

theorem firstUnit?_isSome_iff :
    (firstUnit? units name).isSome = true ↔ ∃ u ∈ units, u.module = name := by
  unfold firstUnit?
  rw [List.find?_isSome]
  simp only [beq_iff_eq]

/-- A unit that is the first of its name and has a tree is the first of them that has one. -/
theorem firstParsed?_of_tree {u : SourceUnit} (h : firstUnit? units name = some u)
    (htree : u.tree?.isSome = true) : firstParsed? units name = some u := by
  unfold firstParsed? firstUnit? at *
  obtain ⟨hname, before, after, rfl, hbefore⟩ := List.find?_eq_some_iff_append.mp h
  rw [List.find?_filter, List.find?_eq_some_iff_append]
  refine ⟨by simp [htree, hname], before, after, rfl, fun v hv => ?_⟩
  have hother : (v.module == name) = false := by simpa using hbefore v hv
  simp [hother]

/-- Keeps a unit unless one of its name is kept. -/
def keepUnit (kept : List SourceUnit) (u : SourceUnit) : List SourceUnit :=
  if kept.any fun k => k.module == u.module then kept else u :: kept

/-- Which unit of a name was first does not change. -/
theorem find?_foldl_keepUnit (units kept : List SourceUnit) (name : String) :
    firstUnit? (units.foldl keepUnit kept) name =
      (firstUnit? kept name).or (firstUnit? units name) := by
  induction units generalizing kept with
  | nil => exact Option.or_none.symm
  | cons u units ih =>
    have hcons : ∀ rest, firstUnit? (u :: rest) name =
        if u.module = name then some u else firstUnit? rest name := by
      intro rest
      unfold firstUnit?
      by_cases hu : u.module = name <;> simp [hu]
    rw [List.foldl_cons, ih, hcons units]
    unfold keepUnit
    split
    · rename_i hany
      by_cases hu : u.module = name
      · -- a unit of this name was kept before, so the new one does not count
        have hkept : (firstUnit? kept name).isSome = true := by
          rw [firstUnit?_isSome_iff, ← hu]
          simpa using hany
        obtain ⟨first, hfirst⟩ := Option.isSome_iff_exists.mp hkept
        rw [hfirst]
        rfl
      · rw [if_neg hu]
    · rename_i hany
      rw [hcons kept]
      by_cases hu : u.module = name
      · have hkept : firstUnit? kept name = none := by
          rw [← Option.not_isSome_iff_eq_none, firstUnit?_isSome_iff, ← hu]
          simpa using hany
        rw [if_pos hu, if_pos hu, hkept]
        rfl
      · rw [if_neg hu, if_neg hu]

/-- **In a map of the first units a name leads to its first unit.** -/
theorem get?_ofList_firstUnits {ν : Type} (units : List SourceUnit) (value : SourceUnit → ν)
    (name : String) :
    (SortedMap.ofList ((firstUnits units).map fun u => (u.module, value u))).get? name =
      (firstUnit? units name).map value := by
  have hkept := find?_foldl_keepUnit units [] name
  have hname : (fun u : SourceUnit => u.module == name) = fun u => compare name u.module == .eq := by
    funext u
    rw [Bool.eq_iff_iff, beq_iff_eq, beq_iff_eq, Std.compare_eq_iff_eq, eq_comm]
  rw [SortedMap.get?_ofList, ← List.map_reverse, List.find?_map, Option.map_map]
  unfold firstUnits
  rw [List.reverse_reverse]
  unfold firstUnit? at hkept
  rw [hname] at hkept
  unfold firstUnit?
  rw [hname]
  exact congrArg (Option.map value) hkept

/-! ## 2. The nodes of a graph that was built -/

/-- What imports are resolved against: the names of the project, packages as the first units say. -/
def projectResolver (units : List SourceUnit) : Resolver :=
  .ofModules ((firstUnits units).map fun u => (u.module, u.isPackage))

/-- What the first unit of a name with a tree declares; nothing without such a unit. -/
def declaredAs (units : List SourceUnit) (name : String) : Definitions :=
  ((firstParsed? units name).map (·.definitions)).getD {}

theorem get?_declared (units : List SourceUnit) (name : String) :
    (declared units).get? name = (firstParsed? units name).map (·.definitions) :=
  get?_ofList_firstUnits _ _ name

/-- The node of a unit that is the first of its name. -/
def nodeOf (units : List SourceUnit) (u : SourceUnit) : ModuleNode where
  name := u.module
  file := u.file
  isPackage := u.isPackage
  definitions := declaredAs units u.module
  imports := u.imports.flatMap
    ((projectResolver units).resolve (fun m => (declaredAs units m).publicNames) u.module)
  degraded := u.degraded?

/-- **Each name has the node of its first unit.** -/
theorem get?_build (units : List SourceUnit) (name : String) :
    (build units).get? name = (firstUnit? units name).map (nodeOf units) := by
  have hpublic : ∀ m, (((declared units).get? m).map (·.publicNames)).getD [] =
      (declaredAs units m).publicNames := by
    intro m
    unfold declaredAs
    rw [get?_declared]
    cases firstParsed? units m <;> rfl
  have hnode : ∀ u : SourceUnit, nodeOf units u =
      { name := u.module, file := u.file, isPackage := u.isPackage
        definitions := ((declared units).get? u.module).getD {}
        imports := u.imports.flatMap ((projectResolver units).resolve
          (fun m => (((declared units).get? m).map (·.publicNames)).getD []) u.module)
        degraded := u.degraded? } := by
    intro u
    unfold nodeOf
    rw [funext hpublic, get?_declared]
    rfl
  rw [funext hnode]
  exact get?_ofList_firstUnits units _ name

theorem mem_names_build : name ∈ (build units).names ↔ ∃ u ∈ units, u.module = name := by
  have hcontains : (build units).nodes.contains name = (firstUnit? units name).isSome := by
    have hget := get?_build units name
    unfold ModuleGraph.get? at hget
    rw [SortedMap.contains, hget, Option.isSome_map]
  unfold names
  rw [SortedMap.mem_keys_iff, hcontains, firstUnit?_isSome_iff]

theorem contains_iff_mem_names {g : ModuleGraph} : g.contains name = true ↔ name ∈ g.names :=
  SortedMap.mem_keys_iff.symm

theorem names_ascending (g : ModuleGraph) : g.names.Pairwise (· < ·) :=
  List.pairwise_map.mpr (g.nodes.ascending.imp compareOfLessAndEq_eq_lt.mp)

theorem names_nodup (g : ModuleGraph) : g.names.Nodup := by
  refine (names_ascending g).imp fun {a b} hab e => ?_
  rw [e] at hab
  exact String.lt_irrefl b hab

/-- What is found under a name is the node of the name's first unit. -/
theorem exists_unit_of_get? {m : ModuleNode} (h : (build units).get? name = some m) :
    ∃ u, firstUnit? units name = some u ∧ m = nodeOf units u ∧ m.name = name := by
  rw [get?_build] at h
  obtain ⟨u, hu, rfl⟩ := Option.map_eq_some_iff.mp h
  exact ⟨u, hu, rfl, module_of_firstUnit? hu⟩

/-- A module of the graph is found under its own name. -/
theorem get?_of_mem_modules {m : ModuleNode} (h : m ∈ (build units).modules) :
    (build units).get? m.name = some m := by
  obtain ⟨key, hkey⟩ := SortedMap.mem_values_iff.mp h
  obtain ⟨_, _, _, hname⟩ := exists_unit_of_get? hkey
  rw [hname]
  exact hkey

theorem names_build_eq : (build units).modules.map (·.name) = (build units).names := by
  unfold modules names SortedMap.values SortedMap.keys
  rw [List.map_map]
  refine List.map_congr_left fun e he => ?_
  have hget : (build units).get? e.1 = some e.2 := SortedMap.get?_of_mem he
  obtain ⟨_, _, _, hname⟩ := exists_unit_of_get? hget
  exact hname

/-! ## 3. What a node takes from its first unit -/

/-- What a node of a project takes from a unit of its name. File, kind, degraded reason and imports
are those of the unit. What it declares is what the unit declares only if the unit has a tree, or if
no later unit of the name brings definitions of its own. -/
structure TakenFrom (units : List SourceUnit) (u : SourceUnit) (m : ModuleNode) : Prop where
  file : m.file = u.file
  isPackage : m.isPackage = u.isPackage
  degraded : m.degraded = u.degraded?
  imports : m.imports = u.imports.flatMap
    ((projectResolver units).resolve (fun n => (declaredAs units n).publicNames) m.name)
  degraded_imports : m.degraded.isSome = true → m.imports = []
  definitions : m.definitions = u.definitions ↔
    u.tree?.isSome = true ∨ ∀ v, firstParsed? units m.name = some v → v.definitions = {}

theorem takenFrom_nodeOf {u : SourceUnit} (h : firstUnit? units name = some u) :
    TakenFrom units u (nodeOf units u) := by
  have hmodule : u.module = name := module_of_firstUnit? h
  refine ⟨rfl, rfl, rfl, rfl, fun hdegraded => ?_, ?_⟩
  · cases hcontent : u.content with
    | ok tree => simp [nodeOf, SourceUnit.degraded?, hcontent] at hdegraded
    | error reason => simp [nodeOf, SourceUnit.imports, SourceUnit.tree?, hcontent]
  · show declaredAs units u.module = u.definitions ↔
      u.tree?.isSome = true ∨ ∀ v, firstParsed? units u.module = some v → v.definitions = {}
    rw [hmodule]
    cases htree : u.tree? with
    | some tree =>
      have hparsed := firstParsed?_of_tree h (by rw [htree]; rfl)
      simp [declaredAs, hparsed]
    | none =>
      have hnone : u.definitions = {} := by simp [SourceUnit.definitions, htree]
      rw [hnone]
      unfold declaredAs
      cases hparsed : firstParsed? units name with
      | none => simp
      | some v => simp

/-- **One node for each name, made from the name's first unit**, in all but what it declares. -/
theorem nodes_from_first_units (units : List SourceUnit) :
    (build units).names.Pairwise (· < ·) ∧
      (build units).modules.map (·.name) = (build units).names ∧
      (∀ name, name ∈ (build units).names ↔ ∃ u ∈ units, u.module = name) ∧
      ∀ m ∈ (build units).modules, ∃ u, firstUnit? units m.name = some u ∧ TakenFrom units u m := by
  refine ⟨names_ascending _, names_build_eq, fun name => mem_names_build, fun m hm => ?_⟩
  obtain ⟨u, hu, hnode, _⟩ := exists_unit_of_get? (get?_of_mem_modules hm)
  exact ⟨u, hu, hnode ▸ takenFrom_nodeOf hu⟩

/-- `a/__init__.py`, which is no Python. -/
def brokenPackage : SourceUnit where
  module := "a"
  file := ⟨"a/__init__.py"⟩
  isPackage := true
  content := .error parseFailure

/-- `a.py` with `def run(): pass`. -/
def plainModule : SourceUnit where
  module := "a"
  file := ⟨"a.py"⟩
  isPackage := false
  content := .ok ⟨"def run(): pass\n", [.functionDef 0 [] "run" [] {} none [.plain]]⟩

/-- **A degraded node may declare functions**: those of another file. The units stand in their
order. -/
theorem degraded_node_declares :
    SourceUnit.before brokenPackage plainModule = true ∧
      firstUnit? [brokenPackage, plainModule] "a" = some brokenPackage ∧
      ((build [brokenPackage, plainModule]).get? "a").map
          (fun m => (m.file, m.degraded, m.definitions.functions)) =
        some (⟨"a/__init__.py"⟩, some parseFailure, ["run"]) := by
  refine ⟨by decide, rfl, by decide⟩

end ModuleGraph

end TaintFlow
