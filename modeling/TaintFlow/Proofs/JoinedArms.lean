import TaintFlow.Proofs.MergedStates
import TaintFlow.Python.Facts

/-!
# What is read where branches meet

An expression without calls, yields and bindings is only read: it changes no variable, and its label
depends on the taint of the variables and on nothing else of a walk (`gives_eval`). So it can be
compared between the state where two branches meet and the state at the end of either of them.

A chain of names reads the longest part of it that has an entry. Where branches meet, an attribute
has an entry if it has one on either branch, and what the other branch reads through the object that
the attribute belongs to is no longer looked at. A join keeps what both branches read exactly if
no entry of one branch hides more than it carries (`join_reads_both_iff`).
-/

namespace TaintFlow

namespace Python

/-! ## 1. Expressions that are only read -/

mutual

/-- Whether an expression is built without calls, yields and bindings. -/
def Expr.isPlain : Expr → Bool
  | .name _ | .string _ | .bool _ | .constant | .lambda _ _ => true
  | .attr _ value _ => value.isPlain
  | .subscript _ value index => value.isPlain && index.isPlain
  | .call _ _ _ _ _ | .yield _ | .yieldFrom _ | .named _ _ => false
  | .starred value => value.isPlain
  | .tuple elements => arePlain elements
  | .list elements => arePlain elements
  | .compound _ parts => arePlain parts

/-- Whether expressions are all built so. -/
def arePlain : List Expr → Bool
  | [] => true
  | e :: es => e.isPlain && arePlain es

end

mutual

/-- Whether something holds of an expression and of all the parts that it is read from. -/
def Expr.Throughout (P : Expr → Prop) : Expr → Prop
  | .attr start value field => P (.attr start value field) ∧ value.Throughout P
  | .subscript start value index =>
    P (.subscript start value index) ∧ value.Throughout P ∧ index.Throughout P
  | .starred value => P (.starred value) ∧ value.Throughout P
  | .tuple elements => P (.tuple elements) ∧ ThroughoutAll P elements
  | .list elements => P (.list elements) ∧ ThroughoutAll P elements
  | .compound kind parts => P (.compound kind parts) ∧ ThroughoutAll P parts
  | e => P e

/-- Whether something holds throughout expressions. -/
def ThroughoutAll (P : Expr → Prop) : List Expr → Prop
  | [] => True
  | e :: es => e.Throughout P ∧ ThroughoutAll P es

end

section Throughout

variable {P Q : Expr → Prop}

theorem Expr.Throughout.self {e : Expr} (h : e.Throughout P) : P e := by
  cases e with
  | attr start value field => exact h.1
  | subscript start value index => exact h.1
  | starred value => exact h.1
  | tuple elements => exact h.1
  | list elements => exact h.1
  | compound kind parts => exact h.1
  | _ => exact h

mutual

/-- What implies another thing of every plain expression implies it throughout a plain one. -/
theorem Expr.Throughout.imp (hPQ : ∀ e : Expr, e.isPlain = true → P e → Q e) :
    (e : Expr) → e.isPlain = true → e.Throughout P → e.Throughout Q
  | .name _, he, h | .string _, he, h | .bool _, he, h | .constant, he, h | .lambda _ _, he, h =>
    hPQ _ he h
  | .attr _ value _, he, h => ⟨hPQ _ he h.1, Expr.Throughout.imp hPQ value he h.2⟩
  | .subscript _ value index, he, h =>
    have hparts := Bool.and_eq_true_iff.mp he
    ⟨hPQ _ he h.1, Expr.Throughout.imp hPQ value hparts.1 h.2.1,
      Expr.Throughout.imp hPQ index hparts.2 h.2.2⟩
  | .starred value, he, h => ⟨hPQ _ he h.1, Expr.Throughout.imp hPQ value he h.2⟩
  | .tuple elements, he, h => ⟨hPQ _ he h.1, throughoutAll_imp hPQ elements he h.2⟩
  | .list elements, he, h => ⟨hPQ _ he h.1, throughoutAll_imp hPQ elements he h.2⟩
  | .compound _ parts, he, h => ⟨hPQ _ he h.1, throughoutAll_imp hPQ parts he h.2⟩

theorem throughoutAll_imp (hPQ : ∀ e : Expr, e.isPlain = true → P e → Q e) :
    (es : List Expr) → arePlain es = true → ThroughoutAll P es → ThroughoutAll Q es
  | [], _, _ => trivial
  | e :: es, he, h =>
    have hparts := Bool.and_eq_true_iff.mp he
    ⟨Expr.Throughout.imp hPQ e hparts.1 h.1, throughoutAll_imp hPQ es hparts.2 h.2⟩

end

end Throughout

/-- The label of the source that a path is. -/
def sourceLabel? (registry : Registry) (path : String) (access : Source.Access) : Option Label :=
  (registry.source? path access).map fun source => .source source.id

mutual

/-- The label of an expression that is only read, from the taint of the variables. -/
def Expr.labelIn (registry : Registry) (s : TaintState) : Expr → Label
  | .name id => s.labelOf id
  | .attr start value field =>
    match (Expr.attr start value field).dottedName? with
    | none => value.labelIn registry s
    | some path =>
      ((s.get? path).or (sourceLabel? registry path .read)).getD (value.labelIn registry s)
  | .subscript _ value index =>
    (value.dottedName?.bind fun path => sourceLabel? registry path .subscript).getD
      ((value.labelIn registry s).combine (index.labelIn registry s))
  | .starred value => value.labelIn registry s
  | .tuple elements => Label.clean.combineAll (labelsIn registry s elements)
  | .list elements => Label.clean.combineAll (labelsIn registry s elements)
  | .compound _ parts => Label.clean.combineAll (labelsIn registry s parts)
  | _ => .clean

/-- The labels of expressions that are only read. -/
def labelsIn (registry : Registry) (s : TaintState) : List Expr → List Label
  | [] => []
  | e :: es => e.labelIn registry s :: labelsIn registry s es

end

section Gives

variable {cx : FactContext} {α β : Type} {w : Walk} {m : Walking α} {k : α → Walking β} {a : α}
  {b : β}

/-- Whether a computation gives a result and leaves the variables as they are. -/
def Gives (w : Walk) (m : Walking α) (a : α) : Prop :=
  (m.run w).1 = a ∧ (m.run w).2.state = w.state

theorem gives_pure (w : Walk) (a : α) : Gives w (pure a) a := ⟨rfl, rfl⟩

theorem gives_currentState (w : Walk) : Gives w currentState w.state := ⟨rfl, rfl⟩

theorem Gives.bind (hm : Gives w m a) (hk : ∀ w', w'.state = w.state → Gives w' (k a) b) :
    Gives w (m >>= k) b := by
  obtain ⟨ha, hstate⟩ := hm
  obtain ⟨hb, hstate'⟩ := hk (m.run w).2 hstate
  subst ha
  exact ⟨hb, hstate'.trans hstate⟩

theorem gives_readSource? (w : Walk) (path : String) (access : Source.Access) (offset : Nat) :
    Gives w (readSource? cx path access offset) (sourceLabel? cx.registry path access) := by
  rw [readSource?, sourceLabel?]
  cases cx.registry.source? path access with
  | none => exact gives_pure w none
  | some source => exact ⟨rfl, rfl⟩

end Gives

mutual

/-- **An expression that is only read has the label of its variables' taint.** -/
theorem gives_eval (cx : FactContext) :
    (e : Expr) → e.isPlain = true → ∀ w, Gives w (eval cx e) (e.labelIn cx.registry w.state)
  | .name id, _, w => by
    rw [eval]
    exact (gives_currentState w).bind fun w' _ => gives_pure w' _
  | .string value, _, w => by
    rw [eval]
    exact gives_pure w _
  | .bool value, _, w => by
    rw [eval]
    exact gives_pure w _
  | .constant, _, w => by
    rw [eval]
    exact gives_pure w _
  | .lambda defaults body, _, w => by
    rw [eval]
    exact gives_pure w _
  | .attr start value field, hplain, w => by
    have hvalue := gives_eval cx value hplain
    rw [eval, Expr.labelIn]
    cases (Expr.attr start value field).dottedName? with
    | none => exact hvalue w
    | some path =>
      dsimp only
      refine (gives_currentState w).bind fun w₁ h₁ => ?_
      cases w.state.get? path with
      | some label => exact gives_pure w₁ label
      | none =>
        refine (gives_readSource? w₁ path .read start).bind fun w₂ h₂ => ?_
        cases sourceLabel? cx.registry path .read with
        | some label => exact gives_pure w₂ label
        | none =>
          rw [← h₁, ← h₂]
          exact hvalue w₂
  | .subscript start value index, hplain, w => by
    obtain ⟨hpv, hpi⟩ := Bool.and_eq_true_iff.mp hplain
    have hrest : ∀ (read : Option Label) (w₁ : Walk), w₁.state = w.state →
        Gives w₁ (match read with
          | some label => pure label
          | none => do
            let container ← eval cx value
            let key ← eval cx index
            pure (container.combine key))
          (read.getD
            ((value.labelIn cx.registry w.state).combine (index.labelIn cx.registry w.state))) := by
      intro read w₁ h₁
      cases read with
      | some label => exact gives_pure w₁ label
      | none =>
        rw [← h₁]
        refine (gives_eval cx value hpv w₁).bind fun w₂ h₂ => ?_
        rw [← h₂]
        exact (gives_eval cx index hpi w₂).bind fun w₃ _ => gives_pure w₃ _
    rw [eval, Expr.labelIn]
    cases value.dottedName? with
    | some path => exact (gives_readSource? w path .subscript start).bind (hrest _)
    | none => exact hrest none w rfl
  | .starred value, hplain, w => by
    rw [eval]
    exact gives_eval cx value hplain w
  | .tuple elements, hplain, w => by
    rw [eval]
    exact gives_evalAll cx .clean elements hplain w
  | .list elements, hplain, w => by
    rw [eval]
    exact gives_evalAll cx .clean elements hplain w
  | .compound kind parts, hplain, w => by
    rw [eval]
    exact gives_evalAll cx .clean parts hplain w

theorem gives_evalAll (cx : FactContext) (label : Label) :
    (es : List Expr) → arePlain es = true → ∀ w,
      Gives w (evalAll cx label es) (label.combineAll (labelsIn cx.registry w.state es))
  | [], _, w => by
    rw [evalAll]
    exact gives_pure w label
  | e :: es, hplain, w => by
    obtain ⟨he, hes⟩ := Bool.and_eq_true_iff.mp hplain
    rw [evalAll]
    refine (gives_eval cx e he w).bind fun w₁ h₁ => ?_
    rw [← h₁]
    exact gives_evalAll cx _ es hes w₁

end

/-! ## 2. Larger states -/

section Covers

variable {registry : Registry} {s u : TaintState} {e : Expr} {path : String} {l : Label}

/-- A chain of names is only read. -/
theorem Expr.isPlain_of_dottedName? : (e : Expr) → {path : String} → e.dottedName? = some path →
    e.isPlain = true
  | .name _, _, _ => rfl
  | .attr _ value _, _, h => by
    obtain ⟨base, hbase, _⟩ := Option.map_eq_some_iff.mp h
    exact Expr.isPlain_of_dottedName? value hbase
  | .string _, _, h | .bool _, _, h | .constant, _, h | .subscript _ _ _, _, h
  | .call _ _ _ _ _, _, h | .lambda _ _, _, h | .yield _, _, h | .yieldFrom _, _, h
  | .named _ _, _, h | .starred _, _, h | .tuple _, _, h | .list _, _, h
  | .compound _ _, _, h => by cases h

/-- A chain of names that has an entry reads it. -/
theorem Expr.labelIn_of_get? (h : e.dottedName? = some path) (hget : s.get? path = some l) :
    e.labelIn registry s = l := by
  cases e with
  | name id =>
    cases h
    rw [Expr.labelIn, TaintState.labelOf, hget]
    rfl
  | attr start value field =>
    rw [Expr.labelIn, h]
    show ((s.get? path).or _).getD _ = l
    rw [hget]
    rfl
  | _ => cases h

/-- Whether a state has an entry for a chain of names if another has one, and an entry is at least
what the chain reads in the other. -/
structure Covers (registry : Registry) (u s : TaintState) (e : Expr) : Prop where
  recorded : ∀ path, e.dottedName? = some path → u.get? path = none → s.get? path = none
  above : ∀ path l, e.dottedName? = some path → u.get? path = some l → e.labelIn registry s ≤ l

mutual

/-- **A state that covers another at every chain gives every part a larger label.** -/
theorem throughout_le_of_covers :
    (e : Expr) → e.Throughout (Covers registry u s) →
      e.Throughout fun d => d.labelIn registry s ≤ d.labelIn registry u
  | .name id, h => by
    show Expr.labelIn registry s (.name id) ≤ Expr.labelIn registry u (.name id)
    have hcovers : Covers registry u s (.name id) := h
    cases hget : u.get? id with
    | some l =>
      rw [Expr.labelIn_of_get? (e := .name id) rfl hget]
      exact hcovers.above id l rfl hget
    | none =>
      rw [Expr.labelIn, TaintState.labelOf, hcovers.recorded id rfl hget]
      exact Label.le_of_isClean rfl
  | .attr start value field, ⟨hcovers, h⟩ => by
    have hvalue := throughout_le_of_covers value h
    refine ⟨?_, hvalue⟩
    cases hpath : (Expr.attr start value field).dottedName? with
    | none =>
      rw [Expr.labelIn, Expr.labelIn, hpath]
      exact hvalue.self
    | some path =>
      cases hget : u.get? path with
      | some l =>
        rw [Expr.labelIn_of_get? hpath hget]
        exact hcovers.above path l hpath hget
      | none =>
        -- neither has an entry: both read the source, or the object the attribute belongs to
        rw [Expr.labelIn, Expr.labelIn, hpath]
        dsimp only
        rw [hget, hcovers.recorded path hpath hget, Option.none_or]
        cases sourceLabel? registry path .read with
        | some label => exact le_refl label
        | none => exact hvalue.self
  | .subscript start value index, ⟨_, hv, hi⟩ => by
    have hvalue := throughout_le_of_covers value hv
    have hindex := throughout_le_of_covers index hi
    refine ⟨?_, hvalue, hindex⟩
    show Expr.labelIn registry s _ ≤ Expr.labelIn registry u _
    rw [Expr.labelIn, Expr.labelIn]
    cases value.dottedName?.bind fun path => sourceLabel? registry path .subscript with
    | some label => exact le_refl label
    | none => exact Label.combine_mono hvalue.self hindex.self
  | .starred value, ⟨_, h⟩ => by
    have hvalue := throughout_le_of_covers value h
    exact ⟨hvalue.self, hvalue⟩
  | .tuple elements, ⟨_, h⟩ => by
    obtain ⟨hparts, hle⟩ := throughoutAll_le_of_covers elements h
    exact ⟨Label.combineAll_mono (le_refl _) hle, hparts⟩
  | .list elements, ⟨_, h⟩ => by
    obtain ⟨hparts, hle⟩ := throughoutAll_le_of_covers elements h
    exact ⟨Label.combineAll_mono (le_refl _) hle, hparts⟩
  | .compound kind parts, ⟨_, h⟩ => by
    obtain ⟨hparts, hle⟩ := throughoutAll_le_of_covers parts h
    exact ⟨Label.combineAll_mono (le_refl _) hle, hparts⟩
  | .string _, _ | .bool _, _ | .constant, _ | .call _ _ _ _ _, _ | .lambda _ _, _ | .yield _, _
  | .yieldFrom _, _ | .named _ _, _ => Label.le_of_isClean rfl

theorem throughoutAll_le_of_covers :
    (es : List Expr) → ThroughoutAll (Covers registry u s) es →
      ThroughoutAll (fun d => d.labelIn registry s ≤ d.labelIn registry u) es ∧
        List.Forall₂ (· ≤ ·) (labelsIn registry s es) (labelsIn registry u es)
  | [], _ => ⟨trivial, .nil⟩
  | e :: es, ⟨he, hes⟩ =>
    have hle := throughout_le_of_covers e he
    have hrest := throughoutAll_le_of_covers es hes
    ⟨⟨hle, hrest.1⟩, .cons hle.self hrest.2⟩

end

end Covers

/-! ## 3. Where branches meet -/

section Joins

variable {cx : FactContext} {w : Walk} {s t u : TaintState} {e : Expr}

/-- Whether a state has the entries of one, enlarged, and those of another where the one has none. -/
def Extends (u s t : TaintState) : Prop :=
  ∀ path, (s.get? path = none ∧ u.get? path = t.get? path) ∨
    ∃ a l, s.get? path = some a ∧ u.get? path = some l ∧ a ≤ l

theorem merge_extends_left (s t : TaintState) : Extends (s.merge t) s t := by
  intro path
  rw [TaintState.get?_merge]
  cases hs : s.get? path with
  | none => exact Or.inl ⟨rfl, Option.merge_none_left⟩
  | some a =>
    cases ht : t.get? path with
    | none => exact Or.inr ⟨a, a, rfl, rfl, le_refl a⟩
    | some b => exact Or.inr ⟨a, a.combine b, rfl, rfl, Label.le_combine_left a b⟩

theorem merge_extends_right (s t : TaintState) : Extends (s.merge t) t s := by
  intro path
  rw [TaintState.get?_merge]
  cases ht : t.get? path with
  | none => exact Or.inl ⟨rfl, Option.merge_none_right⟩
  | some b =>
    cases hs : s.get? path with
    | none => exact Or.inr ⟨b, b, rfl, rfl, le_refl b⟩
    | some a => exact Or.inr ⟨b, a.combine b, rfl, rfl, Label.le_combine_right a b⟩

/-- The label that a walk gives an expression where the variables have this taint. -/
def labelAt (cx : FactContext) (w : Walk) (s : TaintState) (e : Expr) : Label :=
  ((eval cx e).run (w.withState s)).1

theorem labelAt_eq (h : e.isPlain = true) : labelAt cx w s e = e.labelIn cx.registry s :=
  (gives_eval cx e h (w.withState s)).1

/-- Whether an entry that a chain of names has on one branch alone hides no more than it carries:
what the chain reads on the other branch is at most that entry. -/
def Outweighs (cx : FactContext) (w : Walk) (t s : TaintState) (e : Expr) : Prop :=
  ∀ path l, e.dottedName? = some path → t.get? path = some l → s.get? path = none →
    labelAt cx w s e ≤ l

theorem covers_of_outweighs (hu : Extends u s t) (h : Outweighs cx w t s e) :
    Covers cx.registry u s e := by
  constructor
  · intro path _ hnone
    rcases hu path with ⟨hs, _⟩ | ⟨a, l, _, hl, _⟩
    · exact hs
    · rw [hnone] at hl
      cases hl
  · intro path l hpath hl
    rcases hu path with ⟨hs, ht⟩ | ⟨a, l', hs, hl', hle⟩
    · rw [← labelAt_eq (w := w) (Expr.isPlain_of_dottedName? e hpath)]
      exact h path l hpath (ht ▸ hl) hs
    · rw [Expr.labelIn_of_get? hpath hs]
      rw [hl] at hl'
      cases hl'
      exact hle

theorem outweighs_of_le (hu : Extends u s t) (he : e.isPlain = true)
    (h : labelAt cx w s e ≤ labelAt cx w u e) : Outweighs cx w t s e := by
  intro path l hpath ht hs
  have hget : u.get? path = some l := by
    rcases hu path with ⟨_, hut⟩ | ⟨a, _, ha, _⟩
    · rw [hut, ht]
    · rw [hs] at ha
      cases ha
  rwa [labelAt_eq (s := u) he, Expr.labelIn_of_get? hpath hget] at h

/-- A branch is read whole in a state that extends it exactly if the other entries hide nothing of
it. -/
theorem throughout_le_iff (hu : Extends u s t) (he : e.isPlain = true) :
    (e.Throughout fun d => labelAt cx w s d ≤ labelAt cx w u d) ↔
      e.Throughout (Outweighs cx w t s) := by
  constructor
  · exact Expr.Throughout.imp (fun d hd => outweighs_of_le hu hd) e he
  · intro h
    have hcovers := Expr.Throughout.imp (fun d _ => covers_of_outweighs hu) e he h
    refine Expr.Throughout.imp (fun d hd hle => ?_) e he (throughout_le_of_covers e hcovers)
    rwa [labelAt_eq hd, labelAt_eq hd]

/-- **Where branches meet, an expression that is only read and all its parts have at least the labels
of both branches exactly if no entry of either branch hides more of them than it carries.** -/
theorem join_reads_both_iff (cx : FactContext) (w : Walk) (s t : TaintState) {e : Expr}
    (he : e.isPlain = true) :
    ((e.Throughout fun d => labelAt cx w s d ≤ labelAt cx w (s.merge t) d) ∧
        e.Throughout fun d => labelAt cx w t d ≤ labelAt cx w (s.merge t) d) ↔
      e.Throughout (Outweighs cx w t s) ∧ e.Throughout (Outweighs cx w s t) :=
  and_congr (throughout_le_iff (merge_extends_left s t) he)
    (throughout_le_iff (merge_extends_right s t) he)

end Joins

/-! ## 4. An attribute written on one branch -/

namespace Pick

/-- `x.y` -/
def member : Expr := .attr 0 (.name "x") "y"

/-- The start of `def pick(x, q, p)`. -/
def start : TaintState := ⟨.ofList [("x", .param 0), ("q", .param 1), ("p", .param 2)]⟩

/-- After a label is assigned to `x.y`. -/
def written (label : Label) : TaintState := bindTarget label member start

/-- The label of `(x, q)`. -/
def pair : Label := (Label.param 0).combine (.param 1)

def context : FactContext where
  registry := .builtin
  file := ⟨"app.py"⟩
  lines := .ofText ""

end Pick

open Pick

/-- After `if p: x.y = (x, q)` the attribute has the labels of both branches. -/
theorem pair_read_whole : member.isPlain = true ∧
    (member.Throughout fun d =>
      labelAt context default (written pair) d ≤
        labelAt context default ((written pair).merge start) d) ∧
    member.Throughout fun d =>
      labelAt context default start d ≤ labelAt context default ((written pair).merge start) d := by
  refine ⟨rfl, (join_reads_both_iff context default _ _ rfl).mpr ⟨⟨?_, ?_⟩, ⟨?_, ?_⟩⟩⟩
  · intro path l hpath hl _
    cases hpath
    cases hl
  · intro path l hpath _ hnone
    cases hpath
    cases hnone
  · -- `x.y` reads `x` where the branch was not taken, and the written label has that origin
    intro path l hpath hl _
    cases hpath
    cases hl
    have hread : labelAt context default start member = .param 0 := by decide
    show labelAt context default start member ≤ pair
    rw [hread]
    exact Label.le_combine_left _ _
  · intro path l hpath _ hnone
    cases hpath
    cases hnone

/-- **After `if p: x.y = q` the attribute no longer reads `x`**, though it does where the branch was
not taken. All the entries have origins. -/
theorem attribute_entry_hides_object :
    (∀ e ∈ start.entries.toList ++ (written (.param 1)).entries.toList, e.2.isClean = false) ∧
      member.isPlain = true ∧ labelAt context default start member = .param 0 ∧
      labelAt context default ((written (.param 1)).merge start) member = .param 1 ∧
      ¬ Label.param 0 ≤ .param 1 := by
  refine ⟨by decide, rfl, by decide, by decide, fun h => ?_⟩
  have hmem : Origin.param 0 ∈ (Label.param 1).origins :=
    Label.origins_of_le h (Label.mem_origins_ofOrigin.mpr rfl)
  cases Label.mem_origins_ofOrigin.mp hmem

end Python

end TaintFlow
