import TaintFlow.CallTarget
import TaintFlow.Proofs.ImportTargets
import TaintFlow.Proofs.ReexportChains

/-!
# Calls on a package

After `import p.q` the name `p` is the package. The module graph keeps the import under the name `p` with
the target `p.q`, so a call `p.f(...)` is first looked up as `f` of `p.q`, and only if nothing is found
there by its path, as `f` of `p` (`PackageCall.resolveCallee?_eq`).

So the call reaches the function `f` of `p` exactly if `p.q` brings that function or none at all under
the name `f`, and no module is named `p.f` (`package_call_reached_iff`). A module `p.q` with a function
`f` of its own takes the call (`submodule_takes_call`).
-/

namespace TaintFlow

/-- A method that is found has its owner in its name. -/
theorem Functions.qualname_of_method? {functions : Functions} {caller : FunctionFacts} {method : String}
    {id : FunctionId} {style : CallStyle} (h : functions.method? caller method = some (id, style)) :
    ∃ owner, id.qualname = owner ++ "." ++ method := by
  unfold method? at h
  obtain ⟨owner, _, h⟩ := Option.bind_eq_some_iff.mp h
  split at h
  · cases h
  · dsimp only at h
    split at h
    · cases h
      exact ⟨owner, rfl⟩
    · cases h

namespace ModuleGraph

variable {g : ModuleGraph} {module name p q f : String} {m : ModuleNode}

/-! ## 1. Callees of plain names -/

/-- The function that a call of a symbol runs: the symbol itself, or the constructor of a class. An
empty name is never looked up. -/
def runs? (g : ModuleGraph) : SymbolTarget → Option FunctionId
  | .function id => some id
  | .classNamed owner name =>
    if name ≠ "" ∧ (g.get? owner).any (·.definesFunction (name ++ ".__init__")) then
      some ⟨owner, name ++ ".__init__"⟩
    else none
  | .module _ | .external _ | .unresolved => none

/-- A class is called through its constructor. -/
theorem calleeWithin_class (hm : g.get? module = some m) (hfunction : name ∉ m.definitions.functions)
    (hclass : name ∈ m.definitions.classes) (looks : Nat) :
    (g.calleeWithin (looks + 1) module name).map (·.1) = g.runs? (.classNamed module name) := by
  rw [calleeWithin, runs?, hm]
  by_cases hempty : name = ""
  · rw [if_pos hempty, if_neg fun h => h.1 hempty]
    rfl
  · rw [if_neg hempty]
    dsimp only
    rw [if_neg (mt ModuleNode.definesFunction_iff.mp hfunction),
      if_pos (ModuleNode.definesClass_iff.mpr hclass)]
    by_cases hconstructor : m.definesFunction (name ++ ".__init__") = true
    · rw [if_pos hconstructor, if_pos ⟨hempty, hconstructor⟩]
      rfl
    · rw [if_neg hconstructor, if_neg fun h => hconstructor h.2]
      rfl

/-- **A plain name leads to what its symbol runs.** -/
theorem calleeWithin_singlePiece (hname : SinglePiece name) (hne : name ≠ "") (looks : Nat) :
    (g.calleeWithin (looks + 2) module name).map (·.1) = g.runs? (g.resolveSymbol module name) := by
  cases hm : g.get? module with
  | none =>
    have hnone : g.resolveSymbol module name = .unresolved :=
      resolveSymbol_of_follows (.nil _) (.noModule hm) (Nat.zero_le _)
    rw [calleeWithin, if_neg hne, hm, hnone]
    rfl
  | some m =>
    by_cases hfunction : name ∈ m.definitions.functions
    · have hfound : g.resolveSymbol module name = .function ⟨module, name⟩ :=
        resolveSymbol_of_follows (.nil _) (.function hm hfunction) (Nat.zero_le _)
      rw [calleeWithin, if_neg hne, hm, hfound]
      dsimp only
      rw [if_pos (ModuleNode.definesFunction_iff.mpr hfunction)]
      rfl
    by_cases hclass : name ∈ m.definitions.classes
    · have hfound : g.resolveSymbol module name = .classNamed module name :=
        resolveSymbol_of_follows (.nil _) (.classNamed hm hfunction hclass) (Nat.zero_le _)
      rw [hfound]
      exact calleeWithin_class hm hfunction hclass (looks + 1)
    have hfree : m.Undeclared name := ⟨hfunction, hclass⟩
    rw [calleeWithin, if_neg hne, hm]
    dsimp only
    rw [if_neg hfree.not_definesFunction, if_neg hfree.not_definesClass,
      Text.splitFirst?_singlePiece hname]
    dsimp only
    cases hsymbol : g.resolveSymbol module name with
    | function id => rfl
    | classNamed owner named =>
      -- a second look, at the module that declares the class
      have hend := exists_end_of_resolveSymbol g module name
      rw [hsymbol] at hend
      obtain ⟨last, hlast⟩ := hend.resolve_left fun h => by cases h
      cases hlast with
      | classNamed howner hownfunction hownclass =>
        exact calleeWithin_class howner hownfunction hownclass looks
    | module target => rfl
    | external target => rfl
    | unresolved => rfl

theorem dotted_ne_empty (p f : String) : p ++ "." ++ f ≠ "" := by
  intro h
  have hlist := congrArg String.toList h
  rw [Text.toList_dotted] at hlist
  simp at hlist

/-- A dotted name whose first piece is bound to a module is looked up there. -/
theorem calleeWithin_dotted (hp : SinglePiece p) (hm : g.get? module = some m)
    (hfree : m.Undeclared (p ++ "." ++ f)) {target : String}
    (hbound : g.resolveSymbol module p = .module target) (looks : Nat) :
    g.calleeWithin (looks + 1) module (p ++ "." ++ f) = g.calleeWithin looks target f := by
  rw [calleeWithin, if_neg (dotted_ne_empty p f), hm]
  dsimp only
  rw [if_neg hfree.not_definesFunction, if_neg hfree.not_definesClass, Text.splitFirst?_dotted hp]
  dsimp only
  rw [hbound]

/-! ## 2. Callees by path -/

/-- A name of two pieces is cut at its end if it is a module, and else after its first piece. -/
theorem splitModule?_dotted (hp : SinglePiece p) (hf : SinglePiece f) (hknown : p ∈ g.names) :
    g.splitModule? (p ++ "." ++ f) =
      if p ++ "." ++ f ∈ g.names then some (p ++ "." ++ f, "") else some (p, f) := by
  unfold splitModule?
  by_cases hmodule : p ++ "." ++ f ∈ g.names
  · rw [if_pos hmodule, longestPrefix?_of_known (contains_iff_mem_names.mpr hmodule)]
    simp [← String.length_toList, Text.trimStart]
  · have hlongest : longestPrefix? g.contains (p ++ "." ++ f) = some p := by
      refine longestPrefix?_eq_some_iff.mpr
        ⟨contains_iff_mem_names.mpr hknown, Or.inr ⟨f, rfl⟩, fun other hother hcontains => ?_⟩
      rcases hother with rfl | hother
      · exact absurd (contains_iff_mem_names.mp hcontains) hmodule
      · exact Nat.le_of_eq (congrArg String.length ((inside_dotted_iff hp hf).mp hother))
    rw [if_neg hmodule, hlongest, Option.map_some,
      Text.trimStart_drop_dotted (Text.head?_ne_of_singlePiece hf)]

/-- By its path a name of two pieces is a function of the first, unless a module has the whole name. -/
theorem calleeByPath?_dotted (hp : SinglePiece p) (hf : SinglePiece f) (hne : f ≠ "")
    (hm : g.get? module = some m) {i : ResolvedImport} (hbound : m.binding? p = some i)
    {target : String} (htarget : i.target = .module target) (hsymbol : i.symbol = none)
    {package : ModuleNode} (hpackage : g.get? p = some package)
    (hdeclared : f ∈ package.definitions.functions) :
    (g.calleeByPath? module (p ++ "." ++ f)).map (·.1) =
      if p ++ "." ++ f ∈ g.names then none else some ⟨p, f⟩ := by
  have hhead : (Text.split '.' (p ++ "." ++ f)).headD (p ++ "." ++ f) = p := by
    rw [Text.split_dotted hp]
    rfl
  have hknown : p ∈ g.names := by
    rw [← contains_iff_mem_names]
    exact Option.isSome_iff_exists.mpr ⟨package, hpackage⟩
  have hcallee : g.callee? p f = some (⟨p, f⟩, .unbound) := by
    rw [callee?, calleeWithin, if_neg hne, hpackage]
    exact if_pos (ModuleNode.definesFunction_iff.mpr hdeclared)
  unfold calleeByPath?
  rw [hm, Option.bind_eq_bind, Option.bind_some, hhead, hbound]
  simp only [Option.bind_eq_bind, Option.bind_some, htarget, hsymbol, ImportTarget.module?,
    Option.isNone_some, Option.isSome_none, Bool.or_self, Bool.false_eq_true, if_false,
    splitModule?_dotted hp hf hknown]
  by_cases hmodule : p ++ "." ++ f ∈ g.names
  · simp [hmodule]
  · simp [hmodule, hne, hcallee]

/-! ## 3. The name of the package -/

/-- A call `p.f(...)` in a module that knows `p` by `import p.q` alone, where the package `p` declares
`f` and the caller has no definition of this name inside it. -/
structure PackageCall (units : List SourceUnit) (u : SourceUnit) (functions : Functions)
    (caller : FunctionFacts) (p q f : String) : Prop where
  unit : firstUnit? units caller.id.module = some u
  imported : ∃ i ∈ u.imports, i.form = .module (p ++ "." ++ q) none
  alone : ∀ i ∈ u.imports, ∀ r ∈ boundBy units u i, r.localName = some p →
    i.form = .module (p ++ "." ++ q) none
  free : (nodeOf units u).Undeclared p
  dottedFree : (nodeOf units u).Undeclared (p ++ "." ++ f)
  notNested : caller.id.qualname = FunctionId.moduleLevel ∨
    functions.contains ⟨caller.id.module, caller.id.qualname ++ "." ++ (p ++ "." ++ f)⟩ = false
  firstPiece : SinglePiece p
  submodule : p ++ "." ++ q ∈ (build units).names
  topLevel : SinglePiece f ∧ f ≠ ""
  declared : ∃ package, (build units).get? p = some package ∧ f ∈ package.definitions.functions

namespace PackageCall

variable {units : List SourceUnit} {u : SourceUnit} {functions : Functions} {caller : FunctionFacts}

theorem get?_build_caller (h : PackageCall units u functions caller p q f) :
    (build units).get? caller.id.module = some (nodeOf units u) := by
  rw [get?_build, h.unit]
  rfl

/-- `import p.q` binds the name `p` to the module `p.q`. -/
theorem boundBy_eq (h : PackageCall units u functions caller p q f) {i : Import}
    (hform : i.form = .module (p ++ "." ++ q) none) :
    boundBy units u i = [⟨some p, .module (p ++ "." ++ q), none, i.line, i.conditional⟩] := by
  have hmodule : (projectResolver units).isModule (p ++ "." ++ q) = true :=
    isModule_projectResolver.mpr h.submodule
  unfold boundBy Resolver.resolve
  rw [hform]
  dsimp only
  rw [Resolver.absolute_of_isModule hmodule, Text.split_dotted h.firstPiece]
  rfl

theorem exists_binding (h : PackageCall units u functions caller p q f) :
    ∃ r, (nodeOf units u).binding? p = some r ∧ r.target = .module (p ++ "." ++ q) ∧ r.symbol = none := by
  cases hbinding : (nodeOf units u).binding? p with
  | none =>
    obtain ⟨i, hi, hform⟩ := h.imported
    have hmem : ⟨some p, .module (p ++ "." ++ q), none, i.line, i.conditional⟩ ∈ boundBy units u i := by
      rw [h.boundBy_eq hform]
      exact List.mem_singleton.mpr rfl
    have hnone := ModuleNode.binding?_eq_none_iff.mp hbinding _ (mem_imports_nodeOf.mpr ⟨i, hi, hmem⟩)
    exact absurd rfl hnone
  | some r =>
    obtain ⟨before, after, himports, hname, _⟩ := ModuleNode.binding?_eq_some_iff.mp hbinding
    have hmem : r ∈ (nodeOf units u).imports := by
      rw [himports]
      simp
    obtain ⟨i, hi, hr⟩ := mem_imports_nodeOf.mp hmem
    have hform := h.alone i hi r hr hname
    rw [h.boundBy_eq hform, List.mem_singleton] at hr
    rw [hr]
    exact ⟨_, rfl, rfl, rfl⟩

theorem resolveSymbol_eq (h : PackageCall units u functions caller p q f) :
    (build units).resolveSymbol caller.id.module p = .module (p ++ "." ++ q) := by
  obtain ⟨r, hbinding, htarget, hsymbol⟩ := h.exists_binding
  exact resolveSymbol_of_follows (.nil _)
    (.module h.get?_build_caller h.free (ModuleNode.binding?_eq_some_iff.mp hbinding) htarget hsymbol)
    (Nat.zero_le _)

/-! ## 4. The call -/

/-- Through the imports of the module the call leads to what `p.q` has under its name. -/
theorem callee?_eq (h : PackageCall units u functions caller p q f) :
    ((build units).callee? caller.id.module (p ++ "." ++ f)).map (·.1) =
      (build units).runs? ((build units).resolveSymbol (p ++ "." ++ q) f) := by
  rw [callee?, calleeWithin_dotted h.firstPiece h.get?_build_caller h.dottedFree h.resolveSymbol_eq]
  exact calleeWithin_singlePiece h.topLevel.1 h.topLevel.2 (reexportLimit - 2)

/-- By its path it leads to `p`. -/
theorem calleeByPath?_eq (h : PackageCall units u functions caller p q f) :
    ((build units).calleeByPath? caller.id.module (p ++ "." ++ f)).map (·.1) =
      if p ++ "." ++ f ∈ (build units).names then none else some ⟨p, f⟩ := by
  obtain ⟨r, hbinding, htarget, hsymbol⟩ := h.exists_binding
  obtain ⟨package, hpackage, hdeclared⟩ := h.declared
  exact calleeByPath?_dotted h.firstPiece h.topLevel.1 h.topLevel.2 h.get?_build_caller hbinding htarget
    hsymbol hpackage hdeclared

theorem nested?_eq_none (h : PackageCall units u functions caller p q f) :
    functions.nested? caller (p ++ "." ++ f) = none := by
  unfold Functions.nested?
  rcases h.notNested with hlevel | habsent
  · simp [hlevel]
  · simp [habsent]

theorem receiverMethod?_eq (h : PackageCall units u functions caller p q f) :
    receiverMethod? (p ++ "." ++ f) = if p = "self" ∨ p = "cls" then some f else none := by
  have hself : Text.stripStart? (p ++ "." ++ f) "self." = if p = "self" then some f else none :=
    Text.stripStart?_dotted h.firstPiece (show SinglePiece "self" by decide) f
  have hcls : Text.stripStart? (p ++ "." ++ f) "cls." = if p = "cls" then some f else none :=
    Text.stripStart?_dotted h.firstPiece (show SinglePiece "cls" by decide) f
  unfold receiverMethod?
  rw [hself, hcls]
  by_cases hp : p = "self" <;> by_cases hp' : p = "cls" <;> simp [hp, hp']

/-- **Where the call leads**: what `p.q` has under its name comes first. -/
theorem resolveCallee?_eq (h : PackageCall units u functions caller p q f)
    (hreceiver : ¬ (p = "self" ∨ p = "cls")) :
    (resolveCallee? (build units) functions caller (p ++ "." ++ f)).map (·.1) =
      ((build units).runs? ((build units).resolveSymbol (p ++ "." ++ q) f)).or
        (if p ++ "." ++ f ∈ (build units).names then none else some ⟨p, f⟩) := by
  unfold resolveCallee?
  rw [h.receiverMethod?_eq, if_neg hreceiver]
  dsimp only
  rw [h.nested?_eq_none, Option.none_or, Option.map_or, h.callee?_eq, h.calleeByPath?_eq]

/-- A call on the receiver leads to a method, if to anything. -/
theorem resolveCallee?_receiver (h : PackageCall units u functions caller p q f)
    (hreceiver : p = "self" ∨ p = "cls") :
    (resolveCallee? (build units) functions caller (p ++ "." ++ f)).map (·.1) ≠ some ⟨p, f⟩ := by
  have hmethod : resolveCallee? (build units) functions caller (p ++ "." ++ f) =
      functions.method? caller f := by
    unfold resolveCallee?
    rw [h.receiverMethod?_eq, if_pos hreceiver]
  rw [hmethod]
  intro hfound
  obtain ⟨⟨id, style⟩, hid, hsame⟩ := Option.map_eq_some_iff.mp hfound
  obtain rfl : id = ⟨p, f⟩ := hsame
  obtain ⟨owner, howner⟩ := Functions.qualname_of_method? hid
  have hlength : f.length = (owner ++ "." ++ f).length := congrArg String.length howner
  rw [String.length_append, String.length_append] at hlength
  have hdot : (".".length : Nat) = 1 := rfl
  omega

end PackageCall

/-- **A call `p.f(...)` after `import p.q` reaches the function `f` of `p`** exactly if `p.q` brings that
function or none at all under the name `f`, and no module is named `p.f`; the names of receivers are
kept for methods. -/
theorem package_call_reached_iff {units : List SourceUnit} {u : SourceUnit} {functions : Functions}
    {caller : FunctionFacts} {p q f : String} (h : PackageCall units u functions caller p q f) :
    (resolveCallee? (build units) functions caller (p ++ "." ++ f)).map (·.1) = some ⟨p, f⟩ ↔
      ¬ (p = "self" ∨ p = "cls") ∧
        ((build units).runs? ((build units).resolveSymbol (p ++ "." ++ q) f) = some ⟨p, f⟩ ∨
          (build units).runs? ((build units).resolveSymbol (p ++ "." ++ q) f) = none ∧
            p ++ "." ++ f ∉ (build units).names) := by
  by_cases hreceiver : p = "self" ∨ p = "cls"
  · exact ⟨fun hfound => absurd hfound (h.resolveCallee?_receiver hreceiver),
      fun hfound => absurd hreceiver hfound.1⟩
  · rw [h.resolveCallee?_eq hreceiver, Option.or_eq_some_iff]
    by_cases hmodule : p ++ "." ++ f ∈ (build units).names
    · simp [hreceiver, hmodule]
    · simp [hreceiver, hmodule]

/-- `m.py` with `import p.q`, and a function that calls `p.f`. -/
def callingModule : SourceUnit where
  module := "m"
  file := ⟨"m.py"⟩
  isPackage := false
  content := .ok ⟨"import p.q\ndef run():\n    p.f()\n",
    [.importModules 0 [⟨"p.q", none⟩],
      .functionDef 11 [] "run" [] {} none [.expr (.call 26 31 (.attr 26 (.name "p") "f") [] [])]]⟩

/-- A file of a module with one function. -/
def oneFunction (module : String) (file : Path) (function : String) : SourceUnit where
  module := module
  file := file
  isPackage := file.isPackageFile
  content := .ok ⟨"def " ++ function ++ "(): pass\n",
    [.functionDef 0 [] function [] {} none [.plain]]⟩

/-- The calling module, the package `p` with `f`, and its module `p.q` with a function of its own. -/
def packageProject (function : String) : List SourceUnit :=
  [callingModule, oneFunction "p" ⟨"p/__init__.py"⟩ "f", oneFunction "p.q" ⟨"p/q.py"⟩ function]

/-- The function `run` of the calling module. -/
def callingFunction : FunctionFacts := { id := ⟨"m", "run"⟩, line := 2 }

theorem packageCall_packageProject {function : String} (h : function = "f" ∨ function = "g") :
    PackageCall (packageProject function) callingModule ∅ callingFunction "p" "q" "f" := by
  rcases h with rfl | rfl <;>
    exact
      { unit := rfl
        imported := ⟨⟨.module "p.q" none, 1, false⟩, by decide, rfl⟩
        alone := by decide
        free := ⟨by decide, by decide⟩
        dottedFree := ⟨by decide, by decide⟩
        notNested := Or.inr rfl
        firstPiece := by decide
        submodule := by decide
        topLevel := ⟨by decide, by decide⟩
        declared := ⟨_, get?_build _ "p", by decide⟩ }

/-- Where `p.q` has no `f`, the call reaches the package. -/
theorem call_reaches_package :
    PackageCall (packageProject "g") callingModule ∅ callingFunction "p" "q" "f" ∧
      (resolveCallee? (build (packageProject "g")) ∅ callingFunction "p.f").map (·.1) =
        some ⟨"p", "f"⟩ := by
  have hcall := packageCall_packageProject (Or.inr rfl)
  exact ⟨hcall, (package_call_reached_iff hcall).mpr ⟨by decide, Or.inr ⟨by decide, by decide⟩⟩⟩

/-- **A module of the package with an `f` of its own takes the call.** -/
theorem submodule_takes_call :
    PackageCall (packageProject "f") callingModule ∅ callingFunction "p" "q" "f" ∧
      (resolveCallee? (build (packageProject "f")) ∅ callingFunction "p.f").map (·.1) =
        some ⟨"p.q", "f"⟩ :=
  ⟨packageCall_packageProject (Or.inl rfl), by decide⟩

end ModuleGraph

end TaintFlow
