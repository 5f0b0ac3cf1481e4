import TaintFlow.Proofs.Cycles
import TaintFlow.Proofs.ModulePrefixes

/-!
# Where imports point

Whatever form an import has, a target inside the project is one of its modules: each way of resolving
asks for the name it gives (`Resolver.isModule_of_mem_resolve`). So in the graph of a project no import
dangles, and there is an edge for each import that points into the project, as often as the import
stands there (`import_edges_match_imports`).

A name is looked up in two ways. `import` takes the longest prefix that is a module, all other forms
take the name exactly. The two differ on a name that is no module but lies inside one, so an import call
with a literal name is not always resolved like the statement (`literal_import_like_statement_iff`,
`missing_submodule_differs`).
-/

namespace TaintFlow

namespace Resolver

variable {r : Resolver} {publicNames : String → List String} {importer name target : String}
  {i : ResolvedImport}

/-! ## 1. A target is a module -/

theorem isModule_of_absolute (h : r.absolute name = .module target) : r.isModule target = true :=
  (longestPrefix?_eq_some_iff.mp (absolute_eq_module_iff.mp h)).1

theorem isModule_of_exact (h : r.exact name = .module target) : r.isModule target = true := by
  unfold exact at h
  split at h
  · cases h
  · split at h
    · rename_i hknown
      cases h
      exact hknown
    · cases h

theorem isModule_of_mem_resolveName {base : String} {line : Nat} {conditional : Bool}
    {n : ImportedName} (hi : i ∈ r.resolveName publicNames base line conditional n)
    (ht : i.target = .module target) : r.isModule target = true := by
  unfold resolveName at hi
  split at hi
  · split at hi
    · -- a wildcard points at the base itself
      rename_i hbase
      obtain ⟨p, _, rfl⟩ := List.mem_map.mp hi
      cases ht
      exact hbase
    · rw [List.mem_singleton.mp hi] at ht
      exact isModule_of_exact ht
  · dsimp only at hi
    split at hi
    · rename_i hsubmodule
      rw [List.mem_singleton.mp hi] at ht
      cases ht
      exact hsubmodule
    · rw [List.mem_singleton.mp hi] at ht
      exact isModule_of_exact ht

/-- **What an import points at inside the project is a module of the project.** -/
theorem isModule_of_mem_resolve {raw : Import} (hi : i ∈ r.resolve publicNames importer raw)
    (ht : i.target = .module target) : r.isModule target = true := by
  unfold resolve at hi
  cases hform : raw.form with
  | module dotted rename =>
    rw [hform] at hi
    rw [List.mem_singleton.mp hi] at ht
    exact isModule_of_absolute ht
  | names module level names =>
    rw [hform] at hi
    dsimp only at hi
    cases hbase : r.baseOf importer module level with
    | ok base =>
      rw [hbase] at hi
      obtain ⟨n, _, hn⟩ := List.mem_flatMap.mp hi
      exact isModule_of_mem_resolveName hn ht
    | error written =>
      rw [hbase] at hi
      obtain ⟨n, _, rfl⟩ := List.mem_map.mp hi
      cases ht
  | dynamic literal expression boundTo =>
    rw [hform] at hi
    rw [List.mem_singleton.mp hi] at ht
    cases literal with
    | some dotted => exact isModule_of_exact ht
    | none => cases ht

/-! ## 2. Two ways to look a name up -/

theorem absolute_of_isModule (h : r.isModule name = true) : r.absolute name = .module name :=
  absolute_eq_module_iff.mpr (longestPrefix?_of_known h)

/-- The two ways agree on the modules of the project and on all names outside of them. -/
theorem exact_eq_absolute_iff :
    r.exact name = r.absolute name ↔
      name ≠ "" ∧ (r.isModule name = true ∨ ∀ outer, Inside name outer → r.isModule outer = false) := by
  by_cases hempty : name = ""
  · have hexact : r.exact name = .unresolved "." := if_pos hempty
    have habsolute : r.absolute name ≠ .unresolved "." := by
      unfold absolute
      split <;> simp
    rw [hexact]
    exact ⟨fun h => absurd h.symm habsolute, fun h => absurd hempty h.1⟩
  · by_cases hknown : r.isModule name = true
    · have hexact : r.exact name = .module name := by
        unfold exact
        rw [if_neg hempty, if_pos hknown]
      rw [hexact, absolute_of_isModule hknown]
      exact ⟨fun _ => ⟨hempty, Or.inl hknown⟩, fun _ => rfl⟩
    · have hexact : r.exact name = .external name := by
        unfold exact
        rw [if_neg hempty, if_neg hknown]
      rw [hexact, eq_comm, absolute_eq_external_iff, longestPrefix?_eq_none_iff]
      constructor
      · exact fun h => ⟨hempty, Or.inr fun outer houter => h outer (Or.inr houter)⟩
      · rintro ⟨_, hmodule | houter⟩ p hp
        · exact absurd hmodule hknown
        · rcases hp with rfl | hp
          · exact Bool.eq_false_iff.mpr hknown
          · exact houter p hp

/-- **An import call with a literal name is resolved like the import statement** exactly if the name is
a module of the project or lies inside none. -/
theorem literal_import_like_statement_iff (r : Resolver) (publicNames : String → List String)
    (importer name expression bound : String) (line : Nat) (conditional : Bool) :
    r.resolve publicNames importer ⟨.dynamic (some name) expression (some bound), line, conditional⟩ =
        r.resolve publicNames importer ⟨.module name (some bound), line, conditional⟩ ↔
      name ≠ "" ∧ (r.isModule name = true ∨ ∀ outer, Inside name outer → r.isModule outer = false) := by
  rw [← exact_eq_absolute_iff]
  unfold resolve
  simp

/-- The call `import_module('app.missing')`, assigned to `x`. -/
def missingCall : Import :=
  ⟨.dynamic (some "app.missing") "import_module('app.missing')" (some "x"), 1, false⟩

/-- `import app.missing as x` -/
def missingStatement : Import := ⟨.module "app.missing" (some "x"), 1, false⟩

/-- **A name inside a package that is no module of it** lies outside the project for the call, and is
the package for the statement. -/
theorem missing_submodule_differs :
    (ofModules [("app", true)]).resolve (fun _ => []) "main" missingCall =
        [⟨some "x", .external "app.missing", none, 1, false⟩] ∧
      (ofModules [("app", true)]).resolve (fun _ => []) "main" missingStatement =
        [⟨some "x", .module "app", none, 1, false⟩] ∧
      (ofModules [("app", true)]).resolve (fun _ => []) "main" missingCall ≠
        (ofModules [("app", true)]).resolve (fun _ => []) "main" missingStatement := by
  decide

end Resolver

namespace ModuleNode

/-- How many imports of a module point at a module of the project on a line, under a condition or
not. -/
def importCount (m : ModuleNode) (target : String) (line : Nat) (conditional : Bool) : Nat :=
  m.imports.countP fun i => i.target = .module target ∧ i.line = line ∧ i.conditional = conditional

end ModuleNode

namespace ModuleGraph

variable {units : List SourceUnit}

/-! ## 3. No import dangles -/

/-- Imports are resolved against the modules of the graph. -/
theorem isModule_projectResolver {name : String} :
    (projectResolver units).isModule name = true ↔ name ∈ (build units).names := by
  have hfirst : (∃ u ∈ firstUnits units, u.module = name) ↔ ∃ u ∈ units, u.module = name := by
    have hkept : firstUnit? (units.foldl keepUnit []) name = firstUnit? units name :=
      find?_foldl_keepUnit units [] name
    have hmem : ∀ u, u ∈ firstUnits units ↔ u ∈ units.foldl keepUnit [] := fun u => List.mem_reverse
    simp only [hmem]
    rw [← firstUnit?_isSome_iff, ← firstUnit?_isSome_iff, hkept]
  unfold Resolver.isModule projectResolver Resolver.ofModules
  rw [SortedSet.contains_iff, SortedSet.mem_ofList, mem_names_build, ← hfirst]
  simp

/-- What an import of a unit binds in its project. -/
def boundBy (units : List SourceUnit) (u : SourceUnit) (i : Import) : List ResolvedImport :=
  (projectResolver units).resolve (fun n => (declaredAs units n).publicNames) u.module i

theorem mem_imports_nodeOf {u : SourceUnit} {r : ResolvedImport} :
    r ∈ (nodeOf units u).imports ↔ ∃ i ∈ u.imports, r ∈ boundBy units u i :=
  List.mem_flatMap

theorem mem_names_of_mem_imports {m : ModuleNode} (hm : m ∈ (build units).modules)
    {i : ResolvedImport} (hi : i ∈ m.imports) {target : String} (ht : i.target = .module target) :
    target ∈ (build units).names := by
  obtain ⟨u, _, rfl, _⟩ := exists_unit_of_get? (get?_of_mem_modules hm)
  obtain ⟨raw, _, hresolved⟩ := mem_imports_nodeOf.mp hi
  exact isModule_projectResolver.mp (Resolver.isModule_of_mem_resolve hresolved ht)

/-! ## 4. An edge for each import -/

/-- The edges from a module are its imports that point into the project. -/
theorem count_edgesFrom {m : ModuleNode} (hm : m ∈ (build units).modules) (target : String)
    (line : Nat) (conditional : Bool) :
    ((build units).edgesFrom m).count ⟨m.name, target, line, conditional⟩ =
      m.importCount target line conditional := by
  unfold edgesFrom ModuleNode.importCount
  rw [List.count, List.countP_filterMap]
  refine List.countP_congr fun i hi => ?_
  cases htarget : i.target with
  | module t =>
    have hcontains : (build units).contains t = true :=
      contains_iff_mem_names.mpr (mem_names_of_mem_imports hm hi htarget)
    simp [ImportTarget.module?, hcontains]
  | external t => simp [ImportTarget.module?]
  | unresolved t => simp [ImportTarget.module?]

/-- Modules of other names have no edges from a name. -/
theorem count_flatMap_edgesFrom_of_ne {g : ModuleGraph} {modules : List ModuleNode} {e : ImportEdge}
    (h : ∀ m ∈ modules, m.name ≠ e.source) : (modules.flatMap g.edgesFrom).count e = 0 := by
  rw [List.count_eq_zero]
  intro he
  obtain ⟨m, hm, hedge⟩ := List.mem_flatMap.mp he
  exact h m hm (ends_of_mem_edgesFrom hedge).1.symm

/-- From a module there are the edges that its own imports make. -/
theorem count_importEdges_of_mem {m : ModuleNode} (hm : m ∈ (build units).modules) (target : String)
    (line : Nat) (conditional : Bool) :
    (build units).importEdges.count ⟨m.name, target, line, conditional⟩ =
      m.importCount target line conditional := by
  have hnodup : ((build units).modules.map (·.name)).Nodup := by
    rw [names_build_eq]
    exact names_nodup _
  obtain ⟨before, after, hsplit⟩ := List.append_of_mem hm
  rw [hsplit, List.map_append, List.map_cons, List.nodup_middle, List.nodup_cons,
    ← List.map_append] at hnodup
  have hother : ∀ n ∈ before ++ after, n.name ≠ m.name := by
    intro n hn hname
    exact hnodup.1 (hname ▸ List.mem_map_of_mem hn)
  unfold importEdges
  rw [(List.mergeSort_perm _ _).count_eq, hsplit, List.flatMap_append, List.flatMap_cons,
    List.count_append, List.count_append,
    count_flatMap_edgesFrom_of_ne fun n hn => hother n (List.mem_append_left _ hn),
    count_flatMap_edgesFrom_of_ne fun n hn => hother n (List.mem_append_right _ hn),
    count_edgesFrom hm]
  omega

/-- **No import is lost and none dangles.** A target inside the project is a module of the graph, and
from one module to another there are as many edges with a line and a flag as the first has imports of
the second with them. -/
theorem import_edges_match_imports (units : List SourceUnit) :
    (∀ m ∈ (build units).modules, ∀ i ∈ m.imports, ∀ target, i.target = .module target →
      target ∈ (build units).names) ∧
    ∀ (source target : String) (line : Nat) (conditional : Bool),
      (build units).importEdges.count ⟨source, target, line, conditional⟩ =
        (((build units).get? source).map fun m => m.importCount target line conditional).getD 0 := by
  refine ⟨fun m hm i hi target => mem_names_of_mem_imports hm hi, ?_⟩
  intro source target line conditional
  cases hsource : (build units).get? source with
  | none =>
    unfold importEdges
    rw [(List.mergeSort_perm _ _).count_eq]
    refine count_flatMap_edgesFrom_of_ne fun m hm hname => ?_
    have hfound := get?_of_mem_modules hm
    rw [hname, hsource] at hfound
    cases hfound
  | some m =>
    have hm : m ∈ (build units).modules := SortedMap.mem_values_iff.mpr ⟨source, hsource⟩
    obtain ⟨_, _, _, rfl⟩ := exists_unit_of_get? hsource
    exact count_importEdges_of_mem hm target line conditional

/-- `core.py` with the functions `run` and `stop`. -/
def coreUnit : SourceUnit where
  module := "core"
  file := ⟨"core.py"⟩
  isPackage := false
  content := .ok ⟨"def run(): pass\ndef stop(): pass\n",
    [.functionDef 0 [] "run" [] {} none [.plain], .functionDef 16 [] "stop" [] {} none [.plain]]⟩

/-- `app.py` with `from core import *` and `import core`. -/
def appUnit : SourceUnit where
  module := "app"
  file := ⟨"app.py"⟩
  isPackage := false
  content := .ok ⟨"from core import *\nimport core\n",
    [.importFrom 0 (some "core") 0 [⟨"*", none⟩], .importModules 19 [⟨"core", none⟩]]⟩

/-- A wildcard makes an edge for each name that it binds. -/
theorem wildcard_edges :
    "core" ∈ (build [appUnit, coreUnit]).names ∧
      (build [appUnit, coreUnit]).importEdges.count ⟨"app", "core", 1, false⟩ = 2 ∧
      (build [appUnit, coreUnit]).importEdges.count ⟨"app", "core", 2, false⟩ = 1 := by
  have hget : (build [appUnit, coreUnit]).get? "app" = some (nodeOf [appUnit, coreUnit] appUnit) :=
    get?_build _ _
  obtain ⟨hclosed, hcount⟩ := import_edges_match_imports [appUnit, coreUnit]
  refine ⟨?_, ?_, ?_⟩
  · exact hclosed _ (SortedMap.mem_values_iff.mpr ⟨"app", hget⟩)
      ⟨some "run", .module "core", some "run", 1, false⟩ (by decide) "core" rfl
  · rw [hcount, hget]
    decide
  · rw [hcount, hget]
    decide

end ModuleGraph

end TaintFlow
