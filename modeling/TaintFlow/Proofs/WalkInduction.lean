import TaintFlow.Python.Facts

/-!
# Induction over a walk

Many properties of a walk are shown the same way: they hold of every small computation that a walk is
put together from, and they pass from computations to their sequence. `WalkRules` lists what is to be
shown of a property for this, and then the property holds of every expression (`holds_eval`) and of
every block (`holds_walkBlock`), without another look at the syntax.

A property may rely on something about the taint of the variables, wherever the walk looks at it.
Then what a binding does to it matters. `Stmt.rebound` reads off a statement which variables it may
bind when it is walked, and whether a binding overwrites the variable or only adds to it; a property
that does not bear all bindings is shown of the statements which make only such as it bears.
-/

namespace TaintFlow.Python

/-! ## 1. Bindings in a text -/

/-- A variable that is bound; a weak binding only adds to it. -/
structure Rebound where
  var : String
  weak : Bool
  deriving DecidableEq

mutual

/-- What is bound when an expression is the target of a binding. -/
def Expr.boundAsTarget : Expr → List Rebound
  | .name id => [⟨id, false⟩]
  | .tuple elements => boundAsTargets elements
  | .list elements => boundAsTargets elements
  | .starred value => value.boundAsTarget
  | .attr start value field =>
    (Expr.attr start value field).dottedName?.toList.map fun path => ⟨path, false⟩
  | .subscript _ value _ => value.dottedName?.toList.map fun root => ⟨root, true⟩
  | _ => []

/-- What is bound by binding each target. -/
def boundAsTargets : List Expr → List Rebound
  | [] => []
  | e :: es => e.boundAsTarget ++ boundAsTargets es

end

mutual

/-- What is bound in the course of evaluating an expression. -/
def Expr.rebound : Expr → List Rebound
  | .name _ | .string _ | .bool _ | .constant | .lambda _ _ | .yield none => []
  | .attr _ value _ => value.rebound
  | .subscript _ value index => value.rebound ++ index.rebound
  | .call _ _ callee args keywords => reboundAmong args ++ (reboundOf keywords ++ callee.rebound)
  | .yield (some value) => value.rebound
  | .yieldFrom value => value.rebound
  | .named target value => value.rebound ++ target.boundAsTarget
  | .starred value => value.rebound
  | .tuple elements => reboundAmong elements
  | .list elements => reboundAmong elements
  | .compound _ parts => reboundAmong parts

/-- What is bound in the course of evaluating expressions. -/
def reboundAmong : List Expr → List Rebound
  | [] => []
  | e :: es => e.rebound ++ reboundAmong es

/-- What is bound in the course of evaluating keyword arguments. -/
def reboundOf : List Keyword → List Rebound
  | [] => []
  | .mk _ value :: rest => value.rebound ++ reboundOf rest

end

/-- The variable that an expression statement may sanitize. -/
def Expr.sanitizedInPlace : Expr → List Rebound
  | .call _ _ _ (.name var :: _) _ => [⟨var, false⟩]
  | _ => []

/-- What the items of a `with` bind. -/
def reboundByItems : List WithItem → List Rebound
  | [] => []
  | item :: rest =>
    item.context.rebound ++ (boundAsTargets item.target.toList ++ reboundByItems rest)

mutual

/-- What a statement binds, in nested statements too. -/
def Stmt.rebound : Stmt → List Rebound
  | .assign _ targets value => value.rebound ++ boundAsTargets targets
  | .annAssign target _ (some value) => value.rebound ++ target.boundAsTarget
  | .augAssign target value => value.rebound ++ (target.rebound ++ target.boundAsTarget)
  | .expr value => value.rebound ++ value.sanitizedInPlace
  | .ret (some value) => value.rebound
  | .raise exception cause => reboundAmong exception.toList ++ reboundAmong cause.toList
  | .assert test message => test.rebound ++ reboundAmong message.toList
  | .ifElse test body clauses => test.rebound ++ (reboundIn body ++ reboundInClauses clauses)
  | .forLoop target iter body orelse =>
    iter.rebound ++ (target.boundAsTarget ++ (reboundIn body ++ reboundIn orelse))
  | .whileLoop test body orelse => test.rebound ++ (reboundIn body ++ reboundIn orelse)
  | .withItems items body => reboundByItems items ++ reboundIn body
  | .tryExcept body handlers orelse final =>
    reboundIn body ++ (reboundIn orelse ++ (reboundInHandlers handlers ++ reboundIn final))
  | .matchOn subject cases => subject.rebound ++ reboundInCases cases
  | .delete targets => (targets.filterMap Expr.dottedName?).map fun path => ⟨path, false⟩
  | _ => []

/-- What a block binds. -/
def reboundIn : List Stmt → List Rebound
  | [] => []
  | s :: ss => s.rebound ++ reboundIn ss

/-- What the clauses of an `if` bind. -/
def reboundInClauses : List Clause → List Rebound
  | [] => []
  | .mk test body :: rest =>
    reboundAmong test.toList ++ (reboundIn body ++ reboundInClauses rest)

/-- What exception handlers bind. -/
def reboundInHandlers : List Handler → List Rebound
  | [] => []
  | .mk type body :: rest =>
    reboundAmong type.toList ++ (reboundIn body ++ reboundInHandlers rest)

/-- What the cases of a `match` bind. -/
def reboundInCases : List Case → List Rebound
  | [] => []
  | .mk _ guard body :: rest =>
    reboundAmong guard.toList ++ (reboundIn body ++ reboundInCases rest)

end

/-! ## 2. Rules -/

/-- What is noted of a call once its arguments have labels. -/
def LabelledCall.note (cx : FactContext) (c : LabelledCall) (receiver : Walking Label) :
    Walking Label := do
  let role ← c.noteSink cx
  match cx.registry.source? c.name .call with
  | some source => c.noteSource role source
  | none => c.noteCall cx role (← receiver)

/-- Rules by which a property `P` of computations passes from the parts of a walk to the whole. Where
the taint of the variables is looked at it has the property `Q`, and `allowed` are the bindings that
keep it so. -/
structure WalkRules (cx : FactContext) (allowed : Rebound → Prop) (Q : TaintState → Prop)
    (P : (α : Type) → Walking α → Prop) : Prop where
  give {α : Type} (a : α) : P α (pure a)
  seq {α β : Type} {m : Walking α} {k : α → Walking β} (hm : P α m) (hk : ∀ a, P β (k a)) :
    P β (m >>= k)
  forget {α : Type} {m : Walking α} (hm : P α m) : P Unit (discard m)
  look {β : Type} {k : TaintState → Walking β} (hk : ∀ s, Q s → P β (k s)) :
    P β (currentState >>= k)
  reset {s : TaintState} (hs : Q s) : P Unit (setState s)
  change {f : TaintState → TaintState} (hf : ∀ s, Q s → Q (f s)) : P Unit (modifyState f)
  addReturn (label : Label) : P Unit (modify (·.addReturn label))
  readSource (path : String) (access : Source.Access) (offset : Nat) :
    P (Option Label) (readSource? cx path access offset)
  note (c : LabelledCall) {receiver : Walking Label} (hreceiver : P Label receiver) :
    P Label (c.note cx receiver)
  merge {s t : TaintState} (hs : Q s) (ht : Q t) : Q (s.merge t)
  assign {s : TaintState} {var : String} (label : Label) (hvar : allowed ⟨var, false⟩) (hs : Q s) :
    Q (s.assign var label)
  taintWeakly {s : TaintState} {var : String} (label : Label) (hvar : allowed ⟨var, true⟩)
    (hs : Q s) : Q (s.taintWeakly var label)
  sanitize {s : TaintState} {var : String} (name : String) (hvar : allowed ⟨var, false⟩)
    (hs : Q s) : Q (s.sanitize var name)

/-- Whether all of some bindings are allowed. -/
def Bears (allowed : Rebound → Prop) (bs : List Rebound) : Prop := ∀ b ∈ bs, allowed b

theorem bears_append {allowed : Rebound → Prop} {bs bs' : List Rebound} :
    Bears allowed (bs ++ bs') ↔ Bears allowed bs ∧ Bears allowed bs' := List.forall_mem_append

section Holds

variable {cx : FactContext} {allowed : Rebound → Prop} {Q : TaintState → Prop}
  {P : (α : Type) → Walking α → Prop}

/-! ## 3. Targets -/

mutual

theorem holds_bindTarget (r : WalkRules cx allowed Q P) (label : Label) :
    (e : Expr) → Bears allowed e.boundAsTarget → (s : TaintState) → Q s →
      Q (bindTarget label e s)
  | .name id, h, s, hs => by
    rw [bindTarget]
    exact r.assign label (h _ (List.mem_singleton_self _)) hs
  | .tuple elements, h, s, hs => by
    rw [bindTarget]
    exact holds_bindTargets r label elements h s hs
  | .list elements, h, s, hs => by
    rw [bindTarget]
    exact holds_bindTargets r label elements h s hs
  | .starred value, h, s, hs => by
    rw [bindTarget]
    exact holds_bindTarget r label value h s hs
  | .attr start value field, h, s, hs => by
    rw [Expr.boundAsTarget] at h
    rw [bindTarget]
    cases hpath : (Expr.attr start value field).dottedName? with
    | none => exact hs
    | some path =>
      rw [hpath] at h
      exact r.assign label (h _ (List.mem_singleton_self _)) hs
  | .subscript start value index, h, s, hs => by
    rw [Expr.boundAsTarget] at h
    rw [bindTarget]
    cases hroot : value.dottedName? with
    | none => exact hs
    | some root =>
      rw [hroot] at h
      exact r.taintWeakly label (h _ (List.mem_singleton_self _)) hs
  | .string _, _, _, hs | .bool _, _, _, hs | .constant, _, _, hs | .call .., _, _, hs
  | .lambda .., _, _, hs | .yield _, _, _, hs | .yieldFrom _, _, _, hs | .named .., _, _, hs
  | .compound .., _, _, hs => by
    rw [bindTarget]
    · exact hs
    all_goals exact nofun

theorem holds_bindTargets (r : WalkRules cx allowed Q P) (label : Label) :
    (es : List Expr) → Bears allowed (boundAsTargets es) → (s : TaintState) → Q s →
      Q (bindTargets label es s)
  | [], _, s, hs => by
    rw [bindTargets]
    exact hs
  | e :: es, h, s, hs => by
    rw [boundAsTargets, bears_append] at h
    rw [bindTargets]
    exact holds_bindTargets r label es h.2 _ (holds_bindTarget r label e h.1 s hs)

end

theorem holds_deleteTargets (r : WalkRules cx allowed Q P) {targets : List Expr} {s : TaintState}
    (h : Bears allowed ((targets.filterMap Expr.dottedName?).map fun path => ⟨path, false⟩))
    (hs : Q s) : Q (deleteTargets targets s) := by
  rw [deleteTargets]
  generalize targets.filterMap Expr.dottedName? = paths at h ⊢
  induction paths generalizing s with
  | nil => exact hs
  | cons path paths ih =>
    rw [List.map_cons] at h
    exact ih (r.assign .clean (h _ List.mem_cons_self) hs) fun b hb =>
      h b (List.mem_cons_of_mem _ hb)

/-! ## 4. Expressions -/

mutual

/-- **What follows the rules holds of every expression** that makes allowed bindings only. -/
theorem holds_eval (r : WalkRules cx allowed Q P) :
    (e : Expr) → Bears allowed e.rebound → P Label (eval cx e)
  | .name id, _ => by
    rw [eval]
    exact r.look fun _ _ => r.give _
  | .string _, _ | .bool _, _ | .constant, _ | .lambda _ _, _ | .yield none, _ => by
    rw [eval]
    exact r.give _
  | .attr start value field, h => by
    rw [Expr.rebound] at h
    have hvalue := holds_eval r value h
    rw [eval]
    cases (Expr.attr start value field).dottedName? with
    | none => exact hvalue
    | some path =>
      refine r.look fun state _ => ?_
      split
      · exact r.give _
      · refine r.seq (r.readSource path .read start) fun read => ?_
        split
        · exact r.give _
        · exact hvalue
  | .subscript start value index, h => by
    rw [Expr.rebound, bears_append] at h
    have hrest : ∀ read : Option Label, P Label (match read with
        | some label => pure label
        | none => do
          let container ← eval cx value
          let key ← eval cx index
          pure (container.combine key)) := by
      intro read
      cases read with
      | some label => exact r.give label
      | none =>
        exact r.seq (holds_eval r value h.1) fun _ =>
          r.seq (holds_eval r index h.2) fun _ => r.give _
    rw [eval]
    cases value.dottedName? with
    | none => exact r.seq (r.give none) hrest
    | some path => exact r.seq (r.readSource path .subscript start) hrest
  | .call start stop callee args keywords, h => by
    rw [Expr.rebound, bears_append, bears_append] at h
    have hcallee := holds_eval r callee h.2.2
    have hreceiver := holds_evalReceiver r callee h.2.2
    rw [eval]
    refine r.seq (holds_evalArgs r 0 args h.1) fun positional =>
      r.seq (holds_evalKeywords r keywords h.2.1) fun named => ?_
    cases callee.callName? with
    | none => exact r.seq hcallee fun _ => r.give _
    | some name => exact r.note _ hreceiver
  | .yield (some value), h => by
    rw [Expr.rebound] at h
    rw [eval]
    exact r.seq (holds_eval r value h) fun label => r.seq (r.addReturn label) fun _ => r.give _
  | .yieldFrom value, h => by
    rw [Expr.rebound] at h
    rw [eval]
    exact r.seq (holds_eval r value h) fun label => r.seq (r.addReturn label) fun _ => r.give _
  | .named target value, h => by
    rw [Expr.rebound, bears_append] at h
    rw [eval]
    exact r.seq (holds_eval r value h.1) fun label =>
      r.seq (r.change (holds_bindTarget r label target h.2)) fun _ => r.give label
  | .starred value, h => by
    rw [Expr.rebound] at h
    rw [eval]
    exact holds_eval r value h
  | .tuple elements, h => by
    rw [Expr.rebound] at h
    rw [eval]
    exact holds_evalAll r .clean elements h
  | .list elements, h => by
    rw [Expr.rebound] at h
    rw [eval]
    exact holds_evalAll r .clean elements h
  | .compound kind parts, h => by
    rw [Expr.rebound] at h
    rw [eval]
    exact holds_evalAll r .clean parts h

theorem holds_evalAll (r : WalkRules cx allowed Q P) (label : Label) :
    (es : List Expr) → Bears allowed (reboundAmong es) → P Label (evalAll cx label es)
  | [], _ => by
    rw [evalAll]
    exact r.give _
  | e :: es, h => by
    rw [reboundAmong, bears_append] at h
    rw [evalAll]
    exact r.seq (holds_eval r e h.1) fun part => holds_evalAll r (label.combine part) es h.2

theorem holds_evalArgs (r : WalkRules cx allowed Q P) (index : Nat) :
    (args : List Expr) → Bears allowed (reboundAmong args) →
      P (List Argument) (evalArgs cx index args)
  | [], _ => by
    rw [evalArgs]
    exact r.give _
  | e :: rest, h => by
    rw [reboundAmong, bears_append] at h
    have he := holds_eval r e h.1
    have hrest := fun index => holds_evalArgs r index rest h.2
    rw [evalArgs.eq_def]
    split
    · exact absurd ‹_› (List.cons_ne_nil _ _)
    · rename_i heq
      cases heq
      rw [eval] at he
      exact r.seq he fun _ => r.seq (hrest _) fun _ => r.give _
    · rename_i heq
      cases heq
      exact r.seq he fun _ => r.seq (hrest _) fun _ => r.give _

theorem holds_evalKeywords (r : WalkRules cx allowed Q P) :
    (keywords : List Keyword) → Bears allowed (reboundOf keywords) →
      P (List Argument) (evalKeywords cx keywords)
  | [], _ => by
    rw [evalKeywords]
    exact r.give _
  | .mk name value :: rest, h => by
    rw [reboundOf, bears_append] at h
    rw [evalKeywords]
    exact r.seq (holds_eval r value h.1) fun _ =>
      r.seq (holds_evalKeywords r rest h.2) fun _ => r.give _

theorem holds_evalReceiver (r : WalkRules cx allowed Q P) :
    (callee : Expr) → Bears allowed callee.rebound → P Label (evalReceiver cx callee)
  | .attr start value field, h => by
    rw [Expr.rebound] at h
    rw [evalReceiver]
    exact holds_eval r value h
  | .name _, _ | .string _, _ | .bool _, _ | .constant, _ | .subscript .., _ | .call .., _
  | .lambda .., _ | .yield _, _ | .yieldFrom _, _ | .named .., _ | .starred _, _ | .tuple _, _
  | .list _, _ | .compound .., _ => by
    rw [evalReceiver]
    · exact r.give _
    · exact nofun

end

theorem holds_evalOption (r : WalkRules cx allowed Q P) (e : Option Expr)
    (h : Bears allowed (reboundAmong e.toList)) : P Unit (evalOption cx e) := by
  cases e with
  | none => exact r.give _
  | some e =>
    rw [Option.toList_some, reboundAmong, bears_append] at h
    exact r.forget (holds_eval r e h.1)

/-! ## 5. Statements -/

theorem holds_sanitizeInPlace (r : WalkRules cx allowed Q P) (e : Expr)
    (h : Bears allowed e.sanitizedInPlace) : P Unit (sanitizeInPlace cx e) := by
  rw [sanitizeInPlace.eq_def]
  split
  · rename_i callee var args keywords
    have hvar : allowed ⟨var, false⟩ := h _ (List.mem_singleton_self _)
    split
    · split
      · exact r.change fun s hs => r.sanitize _ hvar hs
      · exact r.give _
    · exact r.give _
  · exact r.give _

theorem holds_walkItems (r : WalkRules cx allowed Q P) (items : List WithItem)
    (h : Bears allowed (reboundByItems items)) : P Unit (walkItems cx items) := by
  induction items with
  | nil => exact r.give _
  | cons item rest ih =>
    rw [reboundByItems, bears_append, bears_append] at h
    rw [walkItems]
    refine r.seq (holds_eval r item.context h.1) fun label => ?_
    cases htarget : item.target with
    | none => exact r.seq (r.give ()) fun _ => ih h.2.2
    | some target =>
      rw [htarget, Option.toList_some, boundAsTargets, bears_append] at h
      exact r.seq (r.change (holds_bindTarget r label target h.2.1.1)) fun _ => ih h.2.2

/-- A branch starts from a state that was looked at before. -/
theorem holds_branch (r : WalkRules cx allowed Q P) {start : TaintState} {test : Option Expr}
    {body : Walking Unit} {k : TaintState → Walking Unit} (hstart : Q start)
    (htest : Bears allowed (reboundAmong test.toList)) (hbody : P Unit body)
    (hk : ∀ after, Q after → P Unit (k after)) :
    P Unit (do setState start; evalOption cx test; body; k (← currentState)) :=
  r.seq (r.reset hstart) fun _ =>
  r.seq (holds_evalOption r test htest) fun _ =>
  r.seq hbody fun _ => r.look hk

mutual

/-- **What follows the rules holds of every block** that makes allowed bindings only. -/
theorem holds_walkBlock (r : WalkRules cx allowed Q P) :
    (block : List Stmt) → Bears allowed (reboundIn block) → P Unit (walkBlock cx block)
  | [], _ => by
    rw [walkBlock]
    exact r.give _
  | s :: ss, h => by
    rw [reboundIn, bears_append] at h
    rw [walkBlock]
    exact r.seq (holds_walkStmt r s h.1) fun _ => holds_walkBlock r ss h.2

theorem holds_walkStmt (r : WalkRules cx allowed Q P) :
    (s : Stmt) → Bears allowed s.rebound → P Unit (walkStmt cx s)
  | .assign start targets value, h => by
    rw [Stmt.rebound, bears_append] at h
    rw [walkStmt]
    exact r.seq (holds_eval r value h.1) fun label =>
      r.change (holds_bindTargets r label targets h.2)
  | .annAssign target hint (some value), h => by
    rw [Stmt.rebound, bears_append] at h
    rw [walkStmt]
    exact r.seq (holds_eval r value h.1) fun label =>
      r.change (holds_bindTarget r label target h.2)
  | .augAssign target value, h => by
    rw [Stmt.rebound, bears_append, bears_append] at h
    rw [walkStmt]
    exact r.seq (holds_eval r value h.1) fun added =>
      r.seq (holds_eval r target h.2.1) fun held =>
      r.change (holds_bindTarget r (added.combine held) target h.2.2)
  | .expr value, h => by
    rw [Stmt.rebound, bears_append] at h
    rw [walkStmt]
    exact r.seq (r.forget (holds_eval r value h.1)) fun _ => holds_sanitizeInPlace r value h.2
  | .ret (some value), h => by
    rw [Stmt.rebound] at h
    rw [walkStmt]
    exact r.seq (holds_eval r value h) fun label => r.addReturn label
  | .raise exception cause, h => by
    rw [Stmt.rebound, bears_append] at h
    rw [walkStmt]
    exact r.seq (holds_evalOption r exception h.1) fun _ => holds_evalOption r cause h.2
  | .assert test message, h => by
    rw [Stmt.rebound, bears_append] at h
    rw [walkStmt]
    exact r.seq (r.forget (holds_eval r test h.1)) fun _ => holds_evalOption r message h.2
  | .ifElse test body clauses, h => by
    rw [Stmt.rebound, bears_append, bears_append] at h
    rw [walkStmt]
    exact r.seq (r.forget (holds_eval r test h.1)) fun _ =>
      r.look fun before hbefore =>
      r.seq (holds_walkBlock r body h.2.1) fun _ =>
      r.look fun after hafter => holds_walkClauses r hbefore hafter false clauses h.2.2
  | .forLoop target iter body orelse, h => by
    rw [Stmt.rebound, bears_append, bears_append, bears_append] at h
    rw [walkStmt]
    exact r.seq (holds_eval r iter h.1) fun label =>
      r.look fun before hbefore =>
      r.seq (r.change (holds_bindTarget r label target h.2.1)) fun _ =>
      r.seq (holds_walkBlock r body h.2.2.1) fun _ =>
      r.seq (r.change fun _ hs => r.merge hs hbefore) fun _ => holds_walkBlock r orelse h.2.2.2
  | .whileLoop test body orelse, h => by
    rw [Stmt.rebound, bears_append, bears_append] at h
    rw [walkStmt]
    exact r.seq (r.forget (holds_eval r test h.1)) fun _ =>
      r.look fun before hbefore =>
      r.seq (holds_walkBlock r body h.2.1) fun _ =>
      r.seq (r.change fun _ hs => r.merge hs hbefore) fun _ => holds_walkBlock r orelse h.2.2
  | .withItems items body, h => by
    rw [Stmt.rebound, bears_append] at h
    rw [walkStmt]
    exact r.seq (holds_walkItems r items h.1) fun _ => holds_walkBlock r body h.2
  | .tryExcept body handlers orelse final, h => by
    rw [Stmt.rebound, bears_append, bears_append, bears_append] at h
    rw [walkStmt]
    exact r.look fun before hbefore =>
      r.seq (holds_walkBlock r body h.1) fun _ =>
      r.look fun ended hended =>
      r.seq (holds_walkBlock r orelse h.2.1) fun _ =>
      r.look fun after hafter =>
      r.seq (holds_walkHandlers r (r.merge hbefore hended) hafter handlers h.2.2.1) fun _ =>
      holds_walkBlock r final h.2.2.2
  | .matchOn subject cases, h => by
    rw [Stmt.rebound, bears_append] at h
    rw [walkStmt]
    exact r.seq (r.forget (holds_eval r subject h.1)) fun _ =>
      r.look fun before hbefore => holds_walkCases r hbefore hbefore cases h.2
  | .delete targets, h => by
    rw [Stmt.rebound] at h
    rw [walkStmt]
    exact r.change fun _ hs => holds_deleteTargets r h hs
  | .annAssign _ _ none, _ | .ret none, _ | .functionDef .., _ | .classDef .., _
  | .typeAlias .., _ | .importModules .., _ | .importFrom .., _ | .plain, _ => by
    rw [walkStmt]
    · exact r.give _
    all_goals exact nofun

theorem holds_walkClauses (r : WalkRules cx allowed Q P) {before merged : TaintState}
    (hbefore : Q before) (hmerged : Q merged) (hasElse : Bool) :
    (clauses : List Clause) → Bears allowed (reboundInClauses clauses) →
      P Unit (walkClauses cx before merged hasElse clauses)
  | [], _ => by
    rw [walkClauses]
    refine r.reset ?_
    split
    · exact hmerged
    · exact r.merge hmerged hbefore
  | .mk test body :: rest, h => by
    rw [reboundInClauses, bears_append, bears_append] at h
    rw [walkClauses]
    exact holds_branch r hbefore h.1 (holds_walkBlock r body h.2.1) fun after hafter =>
      holds_walkClauses r hbefore (r.merge hmerged hafter) _ rest h.2.2

theorem holds_walkHandlers (r : WalkRules cx allowed Q P) {entry merged : TaintState}
    (hentry : Q entry) (hmerged : Q merged) :
    (handlers : List Handler) → Bears allowed (reboundInHandlers handlers) →
      P Unit (walkHandlers cx entry merged handlers)
  | [], _ => by
    rw [walkHandlers]
    exact r.reset hmerged
  | .mk type body :: rest, h => by
    rw [reboundInHandlers, bears_append, bears_append] at h
    rw [walkHandlers]
    exact holds_branch r hentry h.1 (holds_walkBlock r body h.2.1) fun after hafter =>
      holds_walkHandlers r hentry (r.merge hmerged hafter) rest h.2.2

theorem holds_walkCases (r : WalkRules cx allowed Q P) {before merged : TaintState}
    (hbefore : Q before) (hmerged : Q merged) :
    (cases : List Case) → Bears allowed (reboundInCases cases) →
      P Unit (walkCases cx before merged cases)
  | [], _ => by
    rw [walkCases]
    exact r.reset hmerged
  | .mk pattern guard body :: rest, h => by
    rw [reboundInCases, bears_append, bears_append] at h
    rw [walkCases]
    exact holds_branch r hbefore h.1 (holds_walkBlock r body h.2.1) fun after hafter =>
      holds_walkCases r hbefore (r.merge hmerged hafter) rest h.2.2

end

end Holds

end TaintFlow.Python
