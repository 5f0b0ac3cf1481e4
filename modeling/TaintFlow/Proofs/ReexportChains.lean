import TaintFlow.Proofs.ModuleNodes

/-!
# Chains of re-exports

A module that does not declare a name may import it from another module, under this name or another,
and that module may do the same. `PassesOn` is one step of such a chain, and a pair of module and name
where no step leads on stands for something of its own (`Denotes`): what is declared there, what is
imported as a whole or from outside, a module of the package, or nothing that is known.

The search looks at a bounded number of pairs. A step of the chain costs it one look
(`resolveWithin_of_passesOn`), also where a name is imported from itself: then it gives up at once, as it
would after all its looks. So it ends where the chain ends if that is within the limit, and else finds
nothing (`reexports_followed_to_limit`).
-/

namespace TaintFlow

namespace ModuleNode

variable {m : ModuleNode} {name : String} {i : ResolvedImport}

/-! ## 1. Bindings of a module -/

/-- Whether an import is the last to bind a name. -/
def BindsLast (m : ModuleNode) (name : String) (i : ResolvedImport) : Prop :=
  ∃ before after, m.imports = before ++ i :: after ∧ i.localName = some name ∧
    ∀ j ∈ after, j.localName ≠ some name

/-- Whether neither a function nor a class of the module has a name. -/
def Undeclared (m : ModuleNode) (name : String) : Prop :=
  name ∉ m.definitions.functions ∧ name ∉ m.definitions.classes

theorem definesFunction_iff : m.definesFunction name = true ↔ name ∈ m.definitions.functions :=
  List.contains_iff_mem

theorem definesClass_iff : m.definesClass name = true ↔ name ∈ m.definitions.classes :=
  List.contains_iff_mem

theorem Undeclared.not_definesFunction (h : m.Undeclared name) : ¬ m.definesFunction name = true :=
  mt definesFunction_iff.mp h.1

theorem Undeclared.not_definesClass (h : m.Undeclared name) : ¬ m.definesClass name = true :=
  mt definesClass_iff.mp h.2

theorem binding?_eq_some_iff : m.binding? name = some i ↔ m.BindsLast name i := by
  unfold binding? BindsLast
  rw [List.find?_eq_some_iff_append]
  constructor
  · rintro ⟨hname, later, earlier, hlist, hlater⟩
    have himports : m.imports = earlier.reverse ++ i :: later.reverse := by
      rw [← List.reverse_reverse m.imports, hlist]
      simp
    refine ⟨earlier.reverse, later.reverse, himports, by simpa using hname, fun j hj => ?_⟩
    simpa using hlater j (List.mem_reverse.mp hj)
  · rintro ⟨before, after, himports, hname, hafter⟩
    refine ⟨by simpa using hname, after.reverse, before.reverse, ?_, fun j hj => ?_⟩
    · rw [himports]
      simp
    · simpa using hafter j (List.mem_reverse.mp hj)

theorem binding?_eq_none_iff : m.binding? name = none ↔ ∀ i ∈ m.imports, i.localName ≠ some name := by
  unfold binding?
  simp

end ModuleNode

namespace ModuleGraph

/-! ## 2. Steps and ends of chains -/

/-- Whether a name of a module is passed on to another: the module does not declare it, and of its
imports the last that binds it takes the other from a module of the project. -/
def PassesOn (g : ModuleGraph) (a b : String × String) : Prop :=
  ∃ m i, g.get? a.1 = some m ∧ m.Undeclared a.2 ∧ m.BindsLast a.2 i ∧
    i.target = .module b.1 ∧ i.symbol = some b.2

/-- What a name of a module stands for if it is passed on to no other. -/
inductive Denotes (g : ModuleGraph) (module name : String) : SymbolTarget → Prop
  | function {m : ModuleNode} (hm : g.get? module = some m)
      (hdeclared : name ∈ m.definitions.functions) : Denotes g module name (.function ⟨module, name⟩)
  | classNamed {m : ModuleNode} (hm : g.get? module = some m)
      (hfunction : name ∉ m.definitions.functions) (hdeclared : name ∈ m.definitions.classes) :
      Denotes g module name (.classNamed module name)
  /-- An import of a module as a whole. -/
  | module {m : ModuleNode} {i : ResolvedImport} {target : String} (hm : g.get? module = some m)
      (hfree : m.Undeclared name) (hbound : m.BindsLast name i) (htarget : i.target = .module target)
      (hsymbol : i.symbol = none) : Denotes g module name (.module target)
  /-- An import from outside the project: the module there, and the name taken from it if any. -/
  | external {m : ModuleNode} {i : ResolvedImport} {target : String} (hm : g.get? module = some m)
      (hfree : m.Undeclared name) (hbound : m.BindsLast name i)
      (htarget : i.target = .external target) :
      Denotes g module name (.external (i.symbol.elim target fun symbol => target ++ "." ++ symbol))
  /-- A package has its modules as attributes. -/
  | submodule {m : ModuleNode} (hm : g.get? module = some m) (hfree : m.Undeclared name)
      (hunbound : ∀ i ∈ m.imports, i.localName ≠ some name) (hpackage : m.isPackage = true)
      (hknown : joinDotted module name ∈ g.names) :
      Denotes g module name (.module (joinDotted module name))
  | noModule (hm : g.get? module = none) : Denotes g module name .unresolved
  /-- An import whose target only running the program could tell. -/
  | computed {m : ModuleNode} {i : ResolvedImport} {written : String} (hm : g.get? module = some m)
      (hfree : m.Undeclared name) (hbound : m.BindsLast name i)
      (htarget : i.target = .unresolved written) : Denotes g module name .unresolved
  | unbound {m : ModuleNode} (hm : g.get? module = some m) (hfree : m.Undeclared name)
      (hunbound : ∀ i ∈ m.imports, i.localName ≠ some name)
      (hnone : ¬ (m.isPackage = true ∧ joinDotted module name ∈ g.names)) :
      Denotes g module name .unresolved

variable {g : ModuleGraph} {a b c : String × String} {module name : String} {t : SymbolTarget}

/-- A name is passed on, or it stands for something. -/
theorem passesOn_or_denotes (g : ModuleGraph) (a : String × String) :
    (∃ b, g.PassesOn a b) ∨ ∃ t, g.Denotes a.1 a.2 t := by
  cases hm : g.get? a.1 with
  | none => exact Or.inr ⟨_, .noModule hm⟩
  | some m =>
    by_cases hfunction : a.2 ∈ m.definitions.functions
    · exact Or.inr ⟨_, .function hm hfunction⟩
    by_cases hclass : a.2 ∈ m.definitions.classes
    · exact Or.inr ⟨_, .classNamed hm hfunction hclass⟩
    have hfree : m.Undeclared a.2 := ⟨hfunction, hclass⟩
    cases hbinding : m.binding? a.2 with
    | none =>
      have hunbound := ModuleNode.binding?_eq_none_iff.mp hbinding
      by_cases hsub : m.isPackage = true ∧ joinDotted a.1 a.2 ∈ g.names
      · exact Or.inr ⟨_, .submodule hm hfree hunbound hsub.1 hsub.2⟩
      · exact Or.inr ⟨_, .unbound hm hfree hunbound hsub⟩
    | some i =>
      have hbound := ModuleNode.binding?_eq_some_iff.mp hbinding
      cases htarget : i.target with
      | module target =>
        cases hsymbol : i.symbol with
        | none => exact Or.inr ⟨_, .module hm hfree hbound htarget hsymbol⟩
        | some symbol => exact Or.inl ⟨(target, symbol), m, i, hm, hfree, hbound, htarget, hsymbol⟩
      | external target => exact Or.inr ⟨_, .external hm hfree hbound htarget⟩
      | unresolved written => exact Or.inr ⟨_, .computed hm hfree hbound htarget⟩

/-! ## 3. One look -/

/-- Past the declarations a look goes by the binding. -/
theorem resolveWithin_of_undeclared {m : ModuleNode} (hm : g.get? module = some m)
    (hfree : m.Undeclared name) (looks : Nat) :
    g.resolveWithin (looks + 1) module name =
      match m.binding? name with
      | some i =>
        match i.target, i.symbol with
        | .module target, some symbol =>
          if target = module ∧ symbol = name then .unresolved else g.resolveWithin looks target symbol
        | .module target, none => .module target
        | .external target, some symbol => .external (target ++ "." ++ symbol)
        | .external target, none => .external target
        | .unresolved _, _ => .unresolved
      | none =>
        if m.isPackage && g.contains (joinDotted module name) then .module (joinDotted module name)
        else .unresolved := by
  rw [resolveWithin, hm]
  dsimp only
  rewrite [if_neg hfree.not_definesFunction, if_neg hfree.not_definesClass]
  rfl

/-- At the end of a chain a look finds what the name stands for. -/
theorem resolveWithin_of_denotes (h : g.Denotes module name t) (looks : Nat) :
    g.resolveWithin (looks + 1) module name = t := by
  cases h with
  | function hm hdeclared =>
    rw [resolveWithin, hm]
    exact if_pos (ModuleNode.definesFunction_iff.mpr hdeclared)
  | classNamed hm hfunction hdeclared =>
    rw [resolveWithin, hm]
    dsimp only
    rw [if_neg (mt ModuleNode.definesFunction_iff.mp hfunction),
      if_pos (ModuleNode.definesClass_iff.mpr hdeclared)]
  | module hm hfree hbound htarget hsymbol =>
    rw [resolveWithin_of_undeclared hm hfree, ModuleNode.binding?_eq_some_iff.mpr hbound]
    dsimp only
    rw [htarget, hsymbol]
  | @external m i target hm hfree hbound htarget =>
    rw [resolveWithin_of_undeclared hm hfree, ModuleNode.binding?_eq_some_iff.mpr hbound]
    dsimp only
    rw [htarget]
    cases i.symbol <;> rfl
  | submodule hm hfree hunbound hpackage hknown =>
    have hcontains : g.contains (joinDotted module name) = true := contains_iff_mem_names.mpr hknown
    rw [resolveWithin_of_undeclared hm hfree, ModuleNode.binding?_eq_none_iff.mpr hunbound]
    dsimp only
    rw [hpackage, hcontains]
    rfl
  | noModule hm => rw [resolveWithin, hm]
  | computed hm hfree hbound htarget =>
    rw [resolveWithin_of_undeclared hm hfree, ModuleNode.binding?_eq_some_iff.mpr hbound]
    dsimp only
    rw [htarget]
  | unbound hm hfree hunbound hnone =>
    rw [resolveWithin_of_undeclared hm hfree, ModuleNode.binding?_eq_none_iff.mpr hunbound]
    refine if_neg fun h => hnone ?_
    rw [Bool.and_eq_true] at h
    exact ⟨h.1, contains_iff_mem_names.mp h.2⟩

theorem resolveWithin_of_passesOn_self (h : g.PassesOn a a) (looks : Nat) :
    g.resolveWithin looks a.1 a.2 = .unresolved := by
  cases looks with
  | zero => rfl
  | succ looks =>
    obtain ⟨m, i, hm, hfree, hbound, htarget, hsymbol⟩ := h
    rw [resolveWithin_of_undeclared hm hfree, ModuleNode.binding?_eq_some_iff.mpr hbound]
    dsimp only
    rw [htarget, hsymbol]
    exact if_pos ⟨rfl, rfl⟩

/-- **A step of a chain costs one look.** -/
theorem resolveWithin_of_passesOn (h : g.PassesOn a b) (looks : Nat) :
    g.resolveWithin (looks + 1) a.1 a.2 = g.resolveWithin looks b.1 b.2 := by
  by_cases hself : b = a
  · subst hself
    rw [resolveWithin_of_passesOn_self h, resolveWithin_of_passesOn_self h]
  · obtain ⟨m, i, hm, hfree, hbound, htarget, hsymbol⟩ := h
    rw [resolveWithin_of_undeclared hm hfree, ModuleNode.binding?_eq_some_iff.mpr hbound]
    dsimp only
    rw [htarget, hsymbol]
    exact if_neg fun e => hself (Prod.ext e.1 e.2)

/-- What a name stands for is one thing. -/
theorem Denotes.unique {t' : SymbolTarget} (h : g.Denotes module name t) (h' : g.Denotes module name t') :
    t = t' :=
  (resolveWithin_of_denotes h 0).symm.trans (resolveWithin_of_denotes h' 0)

/-! ## 4. Whole chains -/

/-- A chain of a number of steps. -/
inductive Follows (g : ModuleGraph) : Nat → String × String → String × String → Prop
  | nil (a : String × String) : Follows g 0 a a
  | cons {k : Nat} {a b c : String × String} (hstep : g.PassesOn a b) (hrest : Follows g k b c) :
      Follows g (k + 1) a c

/-- A chain of `k` steps costs `k` looks. -/
theorem resolveWithin_of_follows {k : Nat} (h : g.Follows k a b) (looks : Nat) :
    g.resolveWithin (looks + k) a.1 a.2 = g.resolveWithin looks b.1 b.2 := by
  induction h with
  | nil a => rfl
  | cons hstep _ ih => rw [← Nat.add_assoc, resolveWithin_of_passesOn hstep, ih]

/-- A chain has shorter ones at its start. -/
theorem Follows.start {k : Nat} (h : g.Follows k a c) {j : Nat} (hj : j ≤ k) : ∃ b, g.Follows j a b := by
  induction h generalizing j with
  | nil a =>
    obtain rfl : j = 0 := by omega
    exact ⟨a, .nil a⟩
  | @cons k a b c hstep _ ih =>
    cases j with
    | zero => exact ⟨a, .nil a⟩
    | succ j =>
      obtain ⟨d, hd⟩ := ih (Nat.le_of_succ_le_succ hj)
      exact ⟨d, .cons hstep hd⟩

/-- Within a number of steps a chain ends, or it has that many. -/
theorem follows_or_ends (g : ModuleGraph) (n : Nat) (a : String × String) :
    (∃ b, g.Follows n a b) ∨ ∃ k < n, ∃ b t, g.Follows k a b ∧ g.Denotes b.1 b.2 t := by
  induction n generalizing a with
  | zero => exact Or.inl ⟨a, .nil a⟩
  | succ n ih =>
    rcases passesOn_or_denotes g a with ⟨b, hstep⟩ | ⟨t, ht⟩
    · rcases ih b with ⟨c, hc⟩ | ⟨k, hk, c, t, hc, ht⟩
      · exact Or.inl ⟨c, .cons hstep hc⟩
      · exact Or.inr ⟨k + 1, by omega, c, t, .cons hstep hc, ht⟩
    · exact Or.inr ⟨0, by omega, a, t, .nil a, ht⟩

/-! ## 5. The limit -/

/-- A chain that ends within the limit is followed to its end. -/
theorem resolveSymbol_of_follows {k : Nat} {last : String × String}
    (h : g.Follows k (module, name) last) (ht : g.Denotes last.1 last.2 t) (hk : k ≤ reexportLimit) :
    g.resolveSymbol module name = t := by
  -- one look for each step, and one at the end
  have hlooks : reexportLimit + 1 = (reexportLimit - k + 1) + k := by omega
  unfold resolveSymbol
  rw [hlooks]
  exact (resolveWithin_of_follows h _).trans (resolveWithin_of_denotes ht _)

/-- A chain beyond the limit leads to nothing. -/
theorem resolveSymbol_of_beyond {k : Nat} {b : String × String} (h : g.Follows k (module, name) b)
    (hk : reexportLimit < k) : g.resolveSymbol module name = .unresolved := by
  obtain ⟨c, hc⟩ := h.start hk
  have hnone := resolveWithin_of_follows hc 0
  rwa [Nat.zero_add] at hnone

/-- What is found stands at the end of a chain, or nothing is. -/
theorem exists_end_of_resolveSymbol (g : ModuleGraph) (module name : String) :
    g.resolveSymbol module name = .unresolved ∨
      ∃ last : String × String, g.Denotes last.1 last.2 (g.resolveSymbol module name) := by
  rcases follows_or_ends g (reexportLimit + 1) (module, name) with ⟨b, hb⟩ | ⟨k, hk, last, t, hlast, ht⟩
  · exact Or.inl (resolveSymbol_of_beyond hb (Nat.lt_succ_self _))
  · have hfound := resolveSymbol_of_follows hlast ht (Nat.le_of_lt_succ hk)
    exact Or.inr ⟨last, hfound.symm ▸ ht⟩

/-- Whether a function or class is declared by the module that it is said to be in. -/
def Declared (g : ModuleGraph) : SymbolTarget → Prop
  | .function id => ∃ m, g.get? id.module = some m ∧ id.qualname ∈ m.definitions.functions
  | .classNamed owner name => ∃ m, g.get? owner = some m ∧ name ∈ m.definitions.classes
  | .module _ | .external _ | .unresolved => True

theorem Denotes.declared (h : g.Denotes module name t) : g.Declared t := by
  cases h with
  | function hm hdeclared => exact ⟨_, hm, hdeclared⟩
  | classNamed hm _ hdeclared => exact ⟨_, hm, hdeclared⟩
  | module | external | submodule | noModule | computed | unbound => trivial

theorem declared_resolveSymbol (g : ModuleGraph) (module name : String) :
    g.Declared (g.resolveSymbol module name) := by
  rcases exists_end_of_resolveSymbol g module name with hnone | ⟨last, hlast⟩
  · rw [hnone]
    trivial
  · exact hlast.declared

/-- **Re-exports are followed exactly up to the limit.** A chain that ends after at most that many
steps gives what stands at its end; a longer one, or one without an end, gives nothing. A function or
class that is found is declared where it is found. -/
theorem reexports_followed_to_limit (g : ModuleGraph) (module name : String) :
    (∀ k last, g.Follows k (module, name) last → (∀ b, ¬ g.PassesOn last b) →
      (k ≤ reexportLimit → ∀ t, g.resolveSymbol module name = t ↔ g.Denotes last.1 last.2 t) ∧
      (reexportLimit < k → g.resolveSymbol module name = .unresolved)) ∧
    ((∀ k, ∃ b, g.Follows k (module, name) b) → g.resolveSymbol module name = .unresolved) ∧
    g.Declared (g.resolveSymbol module name) := by
  refine ⟨fun k last hlast hend => ⟨fun hk t => ?_, resolveSymbol_of_beyond hlast⟩, fun hall => ?_,
    declared_resolveSymbol g module name⟩
  · obtain ⟨found, hfound⟩ := (passesOn_or_denotes g last).resolve_left fun ⟨b, hb⟩ => hend b hb
    rw [resolveSymbol_of_follows hlast hfound hk]
    exact ⟨fun e => e ▸ hfound, hfound.unique⟩
  · obtain ⟨b, hb⟩ := hall (reexportLimit + 1)
    exact resolveSymbol_of_beyond hb (Nat.lt_succ_self _)

/-- A module that imports `f` from another. -/
def relay (name next : String) : ModuleNode where
  name := name
  file := ⟨name ++ ".py"⟩
  isPackage := false
  definitions := {}
  imports := [⟨some "f", .module next, some "f", 1, false⟩]
  degraded := none

/-- `j.py` with a function `f`. -/
def relayEnd : ModuleNode :=
  { relay "j" "j" with definitions := { functions := ["f"] }, imports := [] }

/-- Nine modules that take `f` from the next, up to `j`, and two that take it from each other. -/
def relays : ModuleGraph where
  nodes := .ofList
    [("a", relay "a" "b"), ("b", relay "b" "c"), ("c", relay "c" "d"), ("d", relay "d" "e"),
      ("e", relay "e" "f"), ("f", relay "f" "g"), ("g", relay "g" "h"), ("h", relay "h" "i"),
      ("i", relay "i" "j"), ("j", relayEnd), ("k", relay "k" "l"), ("l", relay "l" "k")]

theorem passesOn_relays {name next : String} (h : relays.get? name = some (relay name next)) :
    relays.PassesOn (name, "f") (next, "f") :=
  ⟨relay name next, _, h, ⟨by simp [relay], by simp [relay]⟩, ⟨[], [], rfl, rfl, by simp⟩, rfl, rfl⟩

theorem follows_relays : relays.Follows 8 ("b", "f") ("j", "f") :=
  .cons (passesOn_relays rfl) <| .cons (passesOn_relays rfl) <| .cons (passesOn_relays rfl) <|
    .cons (passesOn_relays rfl) <| .cons (passesOn_relays rfl) <| .cons (passesOn_relays rfl) <|
    .cons (passesOn_relays rfl) <| .cons (passesOn_relays rfl) <| .nil _

theorem relays_round (k : Nat) :
    (∃ b, relays.Follows k ("k", "f") b) ∧ ∃ b, relays.Follows k ("l", "f") b := by
  induction k with
  | zero => exact ⟨⟨_, .nil _⟩, ⟨_, .nil _⟩⟩
  | succ k ih =>
    obtain ⟨⟨b, hb⟩, ⟨c, hc⟩⟩ := ih
    exact ⟨⟨c, .cons (passesOn_relays rfl) hc⟩, ⟨b, .cons (passesOn_relays rfl) hb⟩⟩

/-- Eight steps lead to the function, a ninth is one too many, and a round leads nowhere. -/
theorem relays_to_limit :
    relays.resolveSymbol "b" "f" = .function ⟨"j", "f"⟩ ∧
      relays.resolveSymbol "a" "f" = .unresolved ∧ relays.resolveSymbol "k" "f" = .unresolved := by
  have hend : ∀ b, ¬ relays.PassesOn ("j", "f") b := by
    rintro b ⟨m, i, hm, hfree, _⟩
    have hj : some relayEnd = some m := hm
    cases hj
    exact hfree.1 (by decide)
  obtain ⟨hfrom, -, -⟩ := reexports_followed_to_limit relays "b" "f"
  obtain ⟨hbeyond, -, -⟩ := reexports_followed_to_limit relays "a" "f"
  obtain ⟨-, hround, -⟩ := reexports_followed_to_limit relays "k" "f"
  refine ⟨?_, ?_, hround fun k => (relays_round k).1⟩
  · exact ((hfrom 8 _ follows_relays hend).1 (by decide) _).mpr (.function (m := relayEnd) rfl (by decide))
  · exact (hbeyond 9 _ (.cons (passesOn_relays rfl) follows_relays) hend).2 (by decide)

end ModuleGraph

end TaintFlow
