import TaintFlow.Facts
import TaintFlow.Proofs.MergedStates

/-!
# Labels in scope

The labels of a function are in its own terms: parameters by index, sources by identifier, results of
calls by the index of the call site. A label is in scope if each of these exists, where of the call
sites only the first ones may count; and a label without origins carries no sanitizers. In facts that
are in scope, the labels at a call site speak of earlier calls only (`FunctionFacts.Scoped`).

Scopes only grow (`LabelScope.Within`), and what was in scope stays so (`Label.Scoped.mono`). The
operations on labels and on taint states keep to the scope; a state in scope has entries only for
variables that carry taint (`TaintState.Scoped`).
-/

namespace TaintFlow

/-! ## 1. Scopes -/

/-- What labels may speak of: parameters, sources and the first call sites. -/
structure LabelScope where
  params : Nat
  sources : SortedSet SourceHit
  calls : Nat

/-- The scope of a function of whose call sites only the first ones count. -/
def FunctionFacts.scopeAt (f : FunctionFacts) (calls : Nat) : LabelScope :=
  ⟨f.params.length, f.sources, calls⟩

/-- The scope of a function. -/
def FunctionFacts.scope (f : FunctionFacts) : LabelScope := f.scopeAt f.calls.length

/-- Whether an origin exists. -/
def Origin.InScope (s : LabelScope) : Origin → Prop
  | .param index => index < s.params
  | .source id => ∃ hit ∈ s.sources, hit.source.id = id
  | .call site => site < s.calls

/-- A label whose origins exist, and that is clean in both parts if it has none. -/
structure Label.Scoped (s : LabelScope) (l : Label) : Prop where
  inScope : ∀ o ∈ l.origins, o.InScope s
  canonical : l.Canonical

/-- A call site whose labels are in a scope. -/
structure CallSite.Scoped (s : LabelScope) (c : CallSite) : Prop where
  args : ∀ a ∈ c.args, a.label.Scoped s
  result : c.result.Scoped s

/-- Facts all of whose labels are in scope; at a call site only earlier calls are. -/
structure FunctionFacts.Scoped (f : FunctionFacts) : Prop where
  calls : ∀ (index : Nat) (c : CallSite), f.calls[index]? = some c → c.Scoped (f.scopeAt index)
  returns : f.returns.Scoped f.scope
  sinkHits : ∀ h ∈ f.sinkHits, h.label.Scoped f.scope

/-- Whether all that exists in a scope exists in another. -/
structure LabelScope.Within (s s' : LabelScope) : Prop where
  params : s.params ≤ s'.params
  sources : ∀ hit ∈ s.sources, hit ∈ s'.sources
  calls : s.calls ≤ s'.calls

/-- More calls may be spoken of later. -/
theorem LabelScope.within_of_calls_le {params n m : Nat} {sources : SortedSet SourceHit} (h : n ≤ m) :
    LabelScope.Within ⟨params, sources, n⟩ ⟨params, sources, m⟩ :=
  ⟨Nat.le_refl _, fun _ h => h, h⟩

theorem LabelScope.Within.refl (s : LabelScope) : s.Within s := within_of_calls_le (Nat.le_refl _)

theorem LabelScope.Within.trans {s s' s'' : LabelScope} (h : s.Within s') (h' : s'.Within s'') :
    s.Within s'' :=
  ⟨Nat.le_trans h.params h'.params, fun hit hhit => h'.sources hit (h.sources hit hhit),
    Nat.le_trans h.calls h'.calls⟩

section Labels

variable {s s' : LabelScope} {a b l : Label}

theorem Origin.InScope.mono {o : Origin} (h : o.InScope s) (hs : s.Within s') : o.InScope s' := by
  cases o with
  | param index => exact Nat.lt_of_lt_of_le h hs.params
  | source id =>
    obtain ⟨hit, hhit, hid⟩ := h
    exact ⟨hit, hs.sources hit hhit, hid⟩
  | call site => exact Nat.lt_of_lt_of_le h hs.calls

namespace Label.Scoped

/-- **What was in scope stays in scope.** -/
theorem mono (h : l.Scoped s) (hs : s.Within s') : l.Scoped s' :=
  ⟨fun o ho => (h.inScope o ho).mono hs, h.canonical⟩

/-! ## 2. Labels -/

theorem clean (s : LabelScope) : Label.clean.Scoped s :=
  ⟨fun _ ho => absurd ho not_mem_origins_clean, canonical_clean⟩

theorem ofOrigin {o : Origin} (h : o.InScope s) : (Label.ofOrigin o).Scoped s :=
  ⟨fun _ ho => mem_origins_ofOrigin.mp ho ▸ h, canonical_ofOrigin o⟩

theorem combine (ha : a.Scoped s) (hb : b.Scoped s) : (a.combine b).Scoped s :=
  ⟨fun o ho => (mem_origins_combine.mp ho).elim (ha.inScope o) (hb.inScope o),
    ha.canonical.combine hb.canonical⟩

theorem combineAll (ha : a.Scoped s) {ls : List Label} (hls : ∀ l ∈ ls, l.Scoped s) :
    (a.combineAll ls).Scoped s :=
  combineAll_induction combine ha hls

theorem sanitize (h : l.Scoped s) (name : String) : (l.sanitize name).Scoped s :=
  ⟨fun o ho => h.inScope o (origins_sanitize l name ▸ ho), h.canonical.sanitize name⟩

end Label.Scoped

/-! ## 3. States -/

/-- A state in which every entry carries taint and is in scope. -/
def TaintState.Scoped (s : LabelScope) (t : TaintState) : Prop :=
  ∀ var l, t.get? var = some l → l.Scoped s ∧ l.isClean = false

namespace TaintState.Scoped

variable {t t' : TaintState}

theorem mono (h : t.Scoped s) (hs : s.Within s') : t.Scoped s' :=
  fun var l hl => ⟨(h var l hl).1.mono hs, (h var l hl).2⟩

theorem empty (s : LabelScope) : TaintState.empty.Scoped s := holds_empty _

theorem labelOf (h : t.Scoped s) (var : String) : (t.labelOf var).Scoped s := by
  rw [TaintState.labelOf]
  cases hl : t.get? var with
  | none => exact Label.Scoped.clean s
  | some l => exact (h var l hl).1

/-- Joins and sanitizers keep to the scope. -/
theorem stable (s : LabelScope) : Label.Stable fun l => l.Scoped s ∧ l.isClean = false where
  combine ha hb :=
    ⟨ha.1.combine hb.1, Label.isClean_eq_false_of_le (Label.le_combine_left _ _) ha.2⟩
  sanitize _ hl := ⟨⟨hl.1.inScope, Label.canonical_of_dirty hl.2⟩, hl.2⟩

theorem assign (h : t.Scoped s) (var : String) (hl : l.Scoped s) : (t.assign var l).Scoped s :=
  Holds.assign h var fun hdirty => ⟨hl, hdirty⟩

theorem taintWeakly (h : t.Scoped s) (var : String) (hl : l.Scoped s) :
    (t.taintWeakly var l).Scoped s :=
  Holds.taintWeakly (stable s) h var fun hdirty => ⟨hl, hdirty⟩

theorem sanitize (h : t.Scoped s) (var sanitizer : String) : (t.sanitize var sanitizer).Scoped s :=
  Holds.sanitize (stable s) h var sanitizer

theorem merge (h : t.Scoped s) (h' : t'.Scoped s) : (t.merge t').Scoped s :=
  Holds.merge (stable s) h h'

end TaintState.Scoped

end Labels

end TaintFlow
