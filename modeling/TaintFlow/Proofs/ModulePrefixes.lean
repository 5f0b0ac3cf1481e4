import TaintFlow.Proofs.DottedNames
import TaintFlow.Proofs.ModuleNodes

/-!
# The module that a dotted name belongs to

A dotted name belongs to the longest module that it is or lies inside, and never to one that ends
within a piece: `app.dbx` is not in `app.db`. Imports and calls both ask for this module: an import
takes it as its target (`Resolver.absolute`), a call also takes what is left of its name to look it up
there (`ModuleGraph.splitModule?`).

* The module is the longest known prefix (`longestPrefix?_eq_some_iff_longestModule`).
* What is left of the name is the text after the dot, as long as no two dots of the name are
  adjacent (`trimStart_drop_eq_iff`): of several leading dots none would be left.
* So both ask for the same module and get the same answer (`longest_module_wins`).
-/

namespace TaintFlow

/-- Whether two dots of a name are neighbours. -/
def HasAdjacentDots (name : String) : Prop := ['.', '.'] <:+: name.toList

instance (name : String) : Decidable (HasAdjacentDots name) :=
  inferInstanceAs (Decidable (['.', '.'] <:+: name.toList))

/-- Whether a module is the longest of those that a name is or lies inside. -/
structure LongestModule (modules : String → Prop) (name p : String) : Prop where
  isModule : modules p
  inside : p = name ∨ Inside name p
  longest : ∀ q, modules q → q = name ∨ Inside name q → q.length ≤ p.length

/-- Whether this is what is left of a name after a module: nothing after the name itself, and the
text after the dot else. -/
def LeftAfter (name p rest : String) : Prop := name = p ∧ rest = "" ∨ name = p ++ "." ++ rest

/-! ## 1. The longest module -/

section Longest

variable {modules : String → Prop} {known : String → Bool} {name p : String}

/-- The longest known prefix is the longest known module. -/
theorem longestPrefix?_eq_some_iff_longestModule (hknown : ∀ q, known q = true ↔ modules q) :
    longestPrefix? known name = some p ↔ LongestModule modules name p := by
  rw [longestPrefix?_eq_some_iff]
  constructor
  · rintro ⟨hp, hinside, hlongest⟩
    refine ⟨(hknown p).mp hp, hinside, ?_⟩
    intro q hq hq'
    exact hlongest q hq' ((hknown q).mpr hq)
  · intro h
    refine ⟨(hknown p).mpr h.isModule, h.inside, ?_⟩
    intro q hq hq'
    exact h.longest q ((hknown q).mp hq') hq

theorem longestPrefix?_eq_none_iff_no_module (hknown : ∀ q, known q = true ↔ modules q) :
    longestPrefix? known name = none ↔ ¬ ∃ q, modules q ∧ (q = name ∨ Inside name q) := by
  rw [longestPrefix?_eq_none_iff]
  constructor
  · rintro hnone ⟨q, hq, hinside⟩
    have hknown' : known q = true := (hknown q).mpr hq
    rw [hnone q hinside] at hknown'
    cases hknown'
  · intro hnone q hinside
    rw [← Bool.not_eq_true, hknown]
    exact fun hq => hnone ⟨q, hq, hinside⟩

end Longest

/-! ## 2. What is left of the name -/

section Rest

variable {name p rest : String}

theorem ne_dotted (p rest : String) : p ≠ p ++ "." ++ rest := by
  intro h
  have hlength := congrArg String.length h
  rw [String.length_append, String.length_append] at hlength
  have hdot : (".".length : Nat) = 1 := rfl
  omega

theorem head?_ne_of_inside (hdots : ¬ HasAdjacentDots (p ++ "." ++ rest)) :
    rest.toList.head? ≠ some '.' := by
  intro hhead
  obtain ⟨after, hrest⟩ := List.head?_eq_some_iff.mp hhead
  apply hdots
  refine ⟨p.toList, after, ?_⟩
  rw [Text.toList_dotted, hrest]
  simp

/-- **What is left after a module is the text after its dot.** -/
theorem trimStart_drop_eq_iff (hdots : ¬ HasAdjacentDots name) (hp : p = name ∨ Inside name p) :
    Text.trimStart '.' (String.ofList (name.toList.drop p.length)) = rest ↔
      LeftAfter name p rest := by
  rcases hp with rfl | ⟨after, rfl⟩
  · have hempty : Text.trimStart '.' (String.ofList (p.toList.drop p.length)) = "" := by
      rw [← String.length_toList, List.drop_length]
      rfl
    rw [hempty, LeftAfter, or_iff_left (ne_dotted p rest), and_iff_right rfl, eq_comm]
  · rw [Text.trimStart_drop_dotted (head?_ne_of_inside hdots), LeftAfter,
      or_iff_right fun h => ne_dotted p after h.1.symm]
    constructor
    · rintro rfl
      rfl
    · intro h
      have hlists := congrArg String.toList h
      rw [Text.toList_dotted, Text.toList_dotted, List.append_cancel_left_eq,
        List.cons.injEq] at hlists
      exact String.toList_injective hlists.2

end Rest

/-! ## 3. Imports and calls -/

section Lookup

variable {r : Resolver} {g : ModuleGraph} {name p rest : String}

theorem Resolver.absolute_eq_module_iff :
    r.absolute name = .module p ↔ longestPrefix? r.isModule name = some p := by
  unfold absolute
  cases longestPrefix? r.isModule name <;> simp

theorem Resolver.absolute_eq_external_iff :
    r.absolute name = .external name ↔ longestPrefix? r.isModule name = none := by
  unfold absolute
  cases longestPrefix? r.isModule name <;> simp

theorem Resolver.module?_absolute : (r.absolute name).module? = longestPrefix? r.isModule name := by
  unfold absolute
  cases longestPrefix? r.isModule name <;> rfl

theorem ModuleGraph.splitModule?_eq_some_iff (hdots : ¬ HasAdjacentDots name) :
    g.splitModule? name = some (p, rest) ↔
      longestPrefix? g.contains name = some p ∧ LeftAfter name p rest := by
  unfold splitModule?
  rw [Option.map_eq_some_iff]
  constructor
  · rintro ⟨found, hfound, heq⟩
    obtain ⟨rfl, hrest⟩ := Prod.mk.inj heq
    have hinside := (longestPrefix?_eq_some_iff.mp hfound).2.1
    exact ⟨hfound, (trimStart_drop_eq_iff hdots hinside).mp hrest⟩
  · rintro ⟨hfound, hrest⟩
    have hinside := (longestPrefix?_eq_some_iff.mp hfound).2.1
    exact ⟨p, hfound, Prod.ext rfl ((trimStart_drop_eq_iff hdots hinside).mpr hrest)⟩

end Lookup

/-- **The longest module at the boundary of a piece wins.** An absolute import of a name is of the
longest module of the project that the name is or that is followed in it by a dot, and it is external
if there is none. A graph with the same modules finds the same module for the name; if no two dots of
the name are adjacent, it leaves the text after the dot, and nothing where the name is the module. -/
theorem longest_module_wins (r : Resolver) (g : ModuleGraph) (name : String) :
    (∀ p, r.absolute name = .module p ↔ LongestModule (· ∈ r.modules) name p) ∧
    (r.absolute name = .external name ↔ ¬ ∃ p, p ∈ r.modules ∧ (p = name ∨ Inside name p)) ∧
    ((∀ q, q ∈ r.modules ↔ q ∈ g.names) →
      (g.splitModule? name).map (·.1) = (r.absolute name).module?) ∧
    (¬ HasAdjacentDots name →
      (∀ p rest, g.splitModule? name = some (p, rest) ↔
        LongestModule (· ∈ g.names) name p ∧ LeftAfter name p rest) ∧
      (g.splitModule? name = none ↔ ¬ ∃ p, p ∈ g.names ∧ (p = name ∨ Inside name p))) := by
  have hresolver : ∀ q, r.isModule q = true ↔ q ∈ r.modules := fun q => SortedSet.contains_iff
  have hgraph : ∀ q, g.contains q = true ↔ q ∈ g.names := fun q =>
    ModuleGraph.contains_iff_mem_names
  refine ⟨fun p => ?_, ?_, fun hsame => ?_, fun hdots => ⟨fun p rest => ?_, ?_⟩⟩
  · rw [Resolver.absolute_eq_module_iff, longestPrefix?_eq_some_iff_longestModule hresolver]
  · rw [Resolver.absolute_eq_external_iff, longestPrefix?_eq_none_iff_no_module hresolver]
  · have hknown : g.contains = r.isModule := by
      funext q
      rw [Bool.eq_iff_iff, hgraph, hresolver, hsame]
    unfold ModuleGraph.splitModule?
    rw [Resolver.module?_absolute, hknown, Option.map_map]
    exact Option.map_id'
  · rw [ModuleGraph.splitModule?_eq_some_iff hdots,
      longestPrefix?_eq_some_iff_longestModule hgraph]
  · unfold ModuleGraph.splitModule?
    rw [Option.map_eq_none_iff, longestPrefix?_eq_none_iff_no_module hgraph]

/-! ## 4. A module whose name is only text of another

`app.dbx.run` starts with the text `app.db`, which is a module, but lies inside `app` alone. -/

namespace DatabaseProject

def resolver : Resolver := .ofModules [("app", true), ("app.db", false)]

def graph : ModuleGraph := ⟨.ofList [("app", default), ("app.db", default)]⟩

end DatabaseProject

theorem cut_piece_passed_over :
    ¬ HasAdjacentDots "app.dbx.run" ∧
      DatabaseProject.resolver.absolute "app.dbx.run" = .module "app" ∧
      LongestModule (· ∈ DatabaseProject.graph.names) "app.dbx.run" "app" ∧
      LeftAfter "app.dbx.run" "app" "dbx.run" ∧
      (DatabaseProject.graph.splitModule? "app.dbx.run").map (·.1) = some "app" := by
  have hdots : ¬ HasAdjacentDots "app.dbx.run" := by decide +kernel
  have hnames : DatabaseProject.resolver.modules.toList = DatabaseProject.graph.names := by
    decide +kernel
  have hsame : ∀ q, q ∈ DatabaseProject.resolver.modules ↔ q ∈ DatabaseProject.graph.names := by
    intro q
    rw [SortedSet.mem_def, hnames]
  have habsolute : DatabaseProject.resolver.absolute "app.dbx.run" = .module "app" := by
    decide +kernel
  have hsplit : DatabaseProject.graph.splitModule? "app.dbx.run" = some ("app", "dbx.run") := by
    decide +kernel
  obtain ⟨_, _, hfound, hleft⟩ :=
    longest_module_wins DatabaseProject.resolver DatabaseProject.graph "app.dbx.run"
  obtain ⟨hlongest, hrest⟩ := ((hleft hdots).1 _ _).mp hsplit
  refine ⟨hdots, habsolute, hlongest, hrest, ?_⟩
  rw [hfound hsame, habsolute]
  rfl

end TaintFlow
