import Mathlib.Data.List.Perm.Basic
import TaintFlow.Python.Facts

/-!
# Which calls a walk records

A call whose callee has a name should be recorded wherever it stands in an expression, once and at the
place where it starts. `Expr.namedCalls` reads these calls off the text, and `Expr.passedOver` the parts
that are not looked at when the expression is evaluated. `Records` says of a computation that the calls
it adds and the calls in parts passed over make up the named calls, up to order. This is shown for each
form of expression (`records_eval`) and of statement (`evaluates_walkStmt`), and so for the body of a
module or a function (`calls_recorded_unless_passed_over`).

Parts are passed over where a source has been found: the index of a subscript that reads it, and what
the callee is taken from in a call of it. A call that stands there leaves no trace
(`fetch_receiver_unrecorded`).
-/

namespace TaintFlow.Python

/-! ## 1. Calls in a text -/

/-- A call by the name of its callee and the place where it starts. -/
structure NamedCall where
  name : String
  start : Nat
  deriving DecidableEq, Repr

mutual

/-- The calls in an expression whose callee has a name, but for those below a lambda. -/
def Expr.namedCalls : Expr → List NamedCall
  | .name _ | .string _ | .bool _ | .constant => []
  | .attr _ value _ => value.namedCalls
  | .subscript _ value index => value.namedCalls ++ index.namedCalls
  | .call start _ callee args keywords =>
    namedCallsAmong args ++ (namedCallsOf keywords ++
      (callee.namedCalls ++ callee.callName?.toList.map fun name => ⟨name, start⟩))
  | .lambda _ _ => []
  | .yield none => []
  | .yield (some value) => value.namedCalls
  | .yieldFrom value => value.namedCalls
  | .named target value => value.namedCalls ++ target.namedCalls
  | .starred value => value.namedCalls
  | .tuple elements => namedCallsAmong elements
  | .list elements => namedCallsAmong elements
  | .compound _ parts => namedCallsAmong parts

/-- The named calls in expressions. -/
def namedCallsAmong : List Expr → List NamedCall
  | [] => []
  | e :: es => e.namedCalls ++ namedCallsAmong es

/-- The named calls in keyword arguments. -/
def namedCallsOf : List Keyword → List NamedCall
  | [] => []
  | .mk _ value :: rest => value.namedCalls ++ namedCallsOf rest

end

/-- Whether subscripting a value reads a source. -/
def Expr.isSourceContainer (registry : Registry) (value : Expr) : Bool :=
  value.dottedName?.any fun path => (registry.source? path .subscript).isSome

/-- Whether calling a callee calls a source. -/
def Expr.isSourceCallee (registry : Registry) (callee : Expr) : Bool :=
  callee.callName?.any fun name => (registry.source? name .call).isSome

mutual

/-- The parts of an expression that are passed over when it is evaluated: the index of a subscript
that reads a source, what the callee of a source is taken from, and the target of a binding. -/
def Expr.passedOver (registry : Registry) : Expr → List Expr
  | .name _ | .string _ | .bool _ | .constant => []
  | .attr _ value _ => value.passedOver registry
  | .subscript _ value index =>
    if value.isSourceContainer registry then [index]
    else value.passedOver registry ++ index.passedOver registry
  | .call _ _ callee args keywords =>
    passedOverAmong registry args ++ (passedOverIn registry keywords ++
      if callee.isSourceCallee registry then [callee] else callee.passedOver registry)
  | .lambda _ _ => []
  | .yield none => []
  | .yield (some value) => value.passedOver registry
  | .yieldFrom value => value.passedOver registry
  | .named target value => value.passedOver registry ++ [target]
  | .starred value => value.passedOver registry
  | .tuple elements => passedOverAmong registry elements
  | .list elements => passedOverAmong registry elements
  | .compound _ parts => passedOverAmong registry parts

/-- The parts of expressions that are passed over. -/
def passedOverAmong (registry : Registry) : List Expr → List Expr
  | [] => []
  | e :: es => e.passedOver registry ++ passedOverAmong registry es

/-- The parts of keyword arguments that are passed over. -/
def passedOverIn (registry : Registry) : List Keyword → List Expr
  | [] => []
  | .mk _ value :: rest => value.passedOver registry ++ passedOverIn registry rest

end

/-- A chain of names holds no call, and nothing of it is passed over. -/
theorem Expr.calls_of_dottedName? (registry : Registry) {e : Expr} {path : String}
    (h : e.dottedName? = some path) : e.namedCalls = [] ∧ e.passedOver registry = [] := by
  fun_induction Expr.dottedName? e generalizing path with
  | case1 id => exact ⟨rfl, rfl⟩
  | case2 start value field ih =>
    obtain ⟨base, hbase, _⟩ := Option.map_eq_some_iff.mp h
    exact ih hbase
  | case3 => cases h

/-! ## 2. What a computation records -/

section Records

variable {cx : FactContext} {α β : Type} {m : Walking α} {k : α → Walking β}
  {named named' passed passed' : List NamedCall}

/-- The place of a call in a text, with the name of its callee. -/
def FactContext.place (cx : FactContext) (c : NamedCall) : String × Location :=
  (c.name, cx.locate c.start)

/-- Whether a computation records, each once and at its place, the calls listed first but for those
listed second. -/
def Records (cx : FactContext) (m : Walking α) (named passed : List NamedCall) : Prop :=
  ∀ w : Walk, ∃ added : List CallSite, (m.run w).2.facts.calls = w.facts.calls ++ added ∧
    ((added.map fun c => (c.callee, c.location)) ++ passed.map cx.place).Perm (named.map cx.place)

/-- Whether a computation records no call. -/
def Quiet (m : Walking α) : Prop := ∀ w : Walk, (m.run w).2.facts.calls = w.facts.calls

/-- A computation that records nothing passes over whatever it is said to. -/
theorem Quiet.records (h : Quiet m) (cx : FactContext) (named : List NamedCall) :
    Records cx m named named :=
  fun w => ⟨[], by rw [h w, List.append_nil], List.Perm.refl _⟩

theorem quiet_pure (a : α) : Quiet (pure a) := fun _ => rfl

theorem Records.bind (hm : Records cx m named passed) (hk : ∀ a, Records cx (k a) named' passed') :
    Records cx (m >>= k) (named ++ named') (passed ++ passed') := by
  intro w
  obtain ⟨added, hcalls, hperm⟩ := hm w
  obtain ⟨added', hcalls', hperm'⟩ := hk (m.run w).1 (m.run w).2
  refine ⟨added ++ added', ?_, ?_⟩
  · show ((k (m.run w).1).run (m.run w).2).2.facts.calls = _
    rw [hcalls', hcalls, List.append_assoc]
  · rw [List.map_append, List.map_append, List.map_append]
    refine List.Perm.trans ?_ (hperm.append hperm')
    rw [List.append_assoc, List.append_assoc]
    exact (List.perm_append_comm_assoc _ _ _).append_left _

theorem Records.bind_whole (hm : Records cx m named passed) (hk : ∀ a, Records cx (k a) named' []) :
    Records cx (m >>= k) (named ++ named') passed := by
  have h := hm.bind hk
  rwa [List.append_nil] at h

theorem Records.bind_quiet (hm : Records cx m named passed) (hk : ∀ a, Quiet (k a)) :
    Records cx (m >>= k) named passed := by
  have h := hm.bind fun a => (hk a).records cx []
  rwa [List.append_nil, List.append_nil] at h

theorem Quiet.bind_records (hm : Quiet m) (hk : ∀ a, Records cx (k a) named passed) :
    Records cx (m >>= k) named passed :=
  (hm.records cx []).bind hk

end Records

/-! ## 3. Calls and sources -/

section Calls

variable (cx : FactContext)

theorem quiet_readSource? (path : String) (access : Source.Access) (offset : Nat) :
    Quiet (readSource? cx path access offset) := by
  intro w
  rw [readSource?]
  split <;> rfl

theorem quiet_noteSink (c : LabelledCall) : Quiet (c.noteSink cx) := by
  intro w
  rw [LabelledCall.noteSink]
  split <;> rfl

/-- Noting the call of a source records that call, and passes over what is said to come before. -/
theorem records_noteSource {c : LabelledCall} {start : Nat} (hc : c.location = cx.locate start)
    (role : Option CallRole) (source : Source) (before : List NamedCall) :
    Records cx (c.noteSource role source) (before ++ [⟨c.name, start⟩]) before := by
  intro w
  refine ⟨[_], rfl, ?_⟩
  rw [List.map_append, List.map_singleton, List.map_singleton, FactContext.place, ← hc]
  exact List.perm_append_comm

/-- Noting any other call records it. -/
theorem records_noteCall {c : LabelledCall} {start : Nat} (hc : c.location = cx.locate start)
    (role : Option CallRole) (receiver : Label) :
    Records cx (c.noteCall cx role receiver) [⟨c.name, start⟩] [] := by
  intro w
  rw [LabelledCall.noteCall]
  cases cx.registry.isSanitizer c.name with
  | true => exact ⟨[_], rfl, by simp [FactContext.place, hc]⟩
  | false => exact ⟨[_], rfl, by simp [FactContext.place, hc]⟩

end Calls

/-! ## 4. Expressions -/

/-- The named calls in the parts of an expression that are passed over. -/
def Expr.unseenCalls (registry : Registry) (e : Expr) : List NamedCall :=
  (e.passedOver registry).flatMap Expr.namedCalls

theorem Expr.unseenCalls_of_dottedName? (registry : Registry) {e : Expr} {path : String}
    (h : e.dottedName? = some path) : e.unseenCalls registry = [] := by
  rw [Expr.unseenCalls, (Expr.calls_of_dottedName? registry h).2]
  rfl

mutual

/-- **An expression's calls are recorded, each once, but for those in parts passed over.** -/
theorem records_eval (cx : FactContext) :
    (e : Expr) → Records cx (eval cx e) e.namedCalls (e.unseenCalls cx.registry)
  | .name id => by
    rw [eval]
    exact Quiet.records (fun _ => rfl) cx []
  | .string value => by
    rw [eval]
    exact (quiet_pure _).records cx []
  | .bool value => by
    rw [eval]
    exact (quiet_pure _).records cx []
  | .constant => by
    rw [eval]
    exact (quiet_pure _).records cx []
  | .attr start value field => by
    have hvalue := records_eval cx value
    rw [eval]
    cases hpath : (Expr.attr start value field).dottedName? with
    | none => exact hvalue
    | some path =>
      obtain ⟨base, hbase, _⟩ := Option.map_eq_some_iff.mp hpath
      show Records cx _ value.namedCalls (value.unseenCalls cx.registry)
      rw [(Expr.calls_of_dottedName? cx.registry hbase).1,
        Expr.unseenCalls_of_dottedName? cx.registry hbase] at hvalue ⊢
      refine Quiet.bind_records (fun _ => rfl) fun state => ?_
      split
      · exact (quiet_pure _).records cx []
      · refine (quiet_readSource? cx path .read start).bind_records fun read => ?_
        split
        · exact (quiet_pure _).records cx []
        · exact hvalue
  | .subscript start value index => by
    have hparts := (records_eval cx value).bind fun container =>
      (records_eval cx index).bind_quiet fun key => quiet_pure (container.combine key)
    rw [eval, Expr.namedCalls, Expr.unseenCalls, Expr.passedOver, Expr.isSourceContainer]
    cases hpath : value.dottedName? with
    | none =>
      rw [Option.any_none, if_neg Bool.false_ne_true, List.flatMap_append]
      exact hparts
    | some path =>
      rw [Option.any_some]
      cases hsource : cx.registry.source? path .subscript with
      | none =>
        dsimp only
        rw [readSource?, hsource, Option.isSome_none, if_neg Bool.false_ne_true,
          List.flatMap_append]
        exact hparts
      | some source =>
        -- the value is a chain of names; the index is passed over
        dsimp only
        rw [(Expr.calls_of_dottedName? cx.registry hpath).1, Option.isSome_some, if_pos rfl,
          List.flatMap_singleton, readSource?, hsource]
        exact Quiet.records (fun _ => rfl) cx index.namedCalls
  | .call start stop callee args keywords => by
    have hcallee := records_eval cx callee
    have hreceiver := records_evalReceiver cx callee
    rw [eval, Expr.namedCalls, Expr.unseenCalls, Expr.passedOver, List.flatMap_append,
      List.flatMap_append, Expr.isSourceCallee]
    refine (records_evalArgs cx 0 args).bind fun positional =>
      (records_evalKeywords cx keywords).bind fun named => ?_
    cases hname : callee.callName? with
    | none =>
      rw [Option.toList_none, List.map_nil, List.append_nil]
      exact hcallee.bind_quiet fun _ => quiet_pure _
    | some name =>
      refine (quiet_noteSink cx _).bind_records fun role => ?_
      rw [Option.any_some]
      cases hsource : cx.registry.source? name .call with
      | some source =>
        -- the callee is passed over with all that it is computed by
        rw [Option.isSome_some, if_pos rfl, List.flatMap_singleton]
        exact records_noteSource cx rfl role source callee.namedCalls
      | none =>
        rw [Option.isSome_none, if_neg Bool.false_ne_true]
        exact (hreceiver (hname ▸ rfl)).bind_whole fun receiver =>
          records_noteCall cx rfl role receiver
  | .lambda defaults body => by
    rw [eval]
    exact (quiet_pure _).records cx []
  | .yield none => by
    rw [eval]
    exact (quiet_pure _).records cx []
  | .yield (some value) => by
    rw [eval]
    exact (records_eval cx value).bind_quiet fun _ _ => rfl
  | .yieldFrom value => by
    rw [eval]
    exact (records_eval cx value).bind_quiet fun _ _ => rfl
  | .named target value => by
    rw [eval, Expr.namedCalls, Expr.unseenCalls, Expr.passedOver, List.flatMap_append,
      List.flatMap_singleton]
    exact (records_eval cx value).bind fun _ =>
      Quiet.records (fun _ => rfl) cx target.namedCalls
  | .starred value => by
    rw [eval]
    exact records_eval cx value
  | .tuple elements => by
    rw [eval]
    exact records_evalAll cx .clean elements
  | .list elements => by
    rw [eval]
    exact records_evalAll cx .clean elements
  | .compound kind parts => by
    rw [eval]
    exact records_evalAll cx .clean parts

theorem records_evalAll (cx : FactContext) (label : Label) :
    (es : List Expr) → Records cx (evalAll cx label es) (namedCallsAmong es)
      ((passedOverAmong cx.registry es).flatMap Expr.namedCalls)
  | [] => by
    rw [evalAll]
    exact (quiet_pure _).records cx []
  | e :: es => by
    rw [evalAll, namedCallsAmong, passedOverAmong, List.flatMap_append]
    exact (records_eval cx e).bind fun part => records_evalAll cx (label.combine part) es

theorem records_evalArgs (cx : FactContext) (index : Nat) :
    (args : List Expr) → Records cx (evalArgs cx index args) (namedCallsAmong args)
      ((passedOverAmong cx.registry args).flatMap Expr.namedCalls)
  | [] => by
    rw [evalArgs]
    exact (quiet_pure _).records cx []
  | e :: rest => by
    rw [evalArgs.eq_def, namedCallsAmong, passedOverAmong, List.flatMap_append]
    have he := records_eval cx e
    have hrest := fun index => records_evalArgs cx index rest
    split
    · exact absurd ‹_› (List.cons_ne_nil _ _)
    · rename_i value _ heq
      cases heq
      rw [eval] at he
      exact he.bind fun _ => (hrest _).bind_quiet fun _ => quiet_pure _
    · rename_i heq
      cases heq
      exact he.bind fun _ => (hrest _).bind_quiet fun _ => quiet_pure _

theorem records_evalKeywords (cx : FactContext) :
    (keywords : List Keyword) → Records cx (evalKeywords cx keywords) (namedCallsOf keywords)
      ((passedOverIn cx.registry keywords).flatMap Expr.namedCalls)
  | [] => by
    rw [evalKeywords]
    exact (quiet_pure _).records cx []
  | .mk name value :: rest => by
    rw [evalKeywords, namedCallsOf, passedOverIn, List.flatMap_append]
    exact (records_eval cx value).bind fun label =>
      (records_evalKeywords cx rest).bind_quiet fun _ => quiet_pure _

theorem records_evalReceiver (cx : FactContext) :
    (callee : Expr) → callee.callName?.isSome = true →
      Records cx (evalReceiver cx callee) callee.namedCalls (callee.unseenCalls cx.registry)
  | .attr start value field, _ => by
    rw [evalReceiver]
    exact records_eval cx value
  | .name id, _ => by
    rw [evalReceiver]
    · exact (quiet_pure _).records cx []
    · exact nofun
  | .string _, h | .bool _, h | .constant, h | .subscript .., h | .call .., h | .lambda .., h
  | .yield _, h | .yieldFrom _, h | .named .., h | .starred _, h | .tuple _, h | .list _, h
  | .compound .., h => by cases h

end

/-! ## 5. Statements -/

mutual

/-- The expressions that a statement evaluates, in order. -/
def Stmt.evaluated : Stmt → List Expr
  | .assign _ _ value => [value]
  | .annAssign _ _ value => value.toList
  | .augAssign target value => [value, target]
  | .expr value => [value]
  | .ret value => value.toList
  | .raise exception cause => exception.toList ++ cause.toList
  | .assert test message => test :: message.toList
  | .ifElse test body clauses => test :: (evaluatedIn body ++ evaluatedInClauses clauses)
  | .forLoop _ iter body orelse => iter :: (evaluatedIn body ++ evaluatedIn orelse)
  | .whileLoop test body orelse => test :: (evaluatedIn body ++ evaluatedIn orelse)
  | .withItems items body => items.map (·.context) ++ evaluatedIn body
  | .tryExcept body handlers orelse final =>
    evaluatedIn body ++ (evaluatedIn orelse ++ (evaluatedInHandlers handlers ++ evaluatedIn final))
  | .matchOn subject cases => subject :: evaluatedInCases cases
  | _ => []

/-- The expressions that a block evaluates. -/
def evaluatedIn : List Stmt → List Expr
  | [] => []
  | s :: ss => s.evaluated ++ evaluatedIn ss

/-- The expressions that the clauses of an `if` evaluate. -/
def evaluatedInClauses : List Clause → List Expr
  | [] => []
  | .mk test body :: rest => test.toList ++ (evaluatedIn body ++ evaluatedInClauses rest)

/-- The expressions that exception handlers evaluate. -/
def evaluatedInHandlers : List Handler → List Expr
  | [] => []
  | .mk type body :: rest => type.toList ++ (evaluatedIn body ++ evaluatedInHandlers rest)

/-- The expressions that the cases of a `match` evaluate. -/
def evaluatedInCases : List Case → List Expr
  | [] => []
  | .mk _ guard body :: rest => guard.toList ++ (evaluatedIn body ++ evaluatedInCases rest)

end

/-- Whether a computation records the calls of expressions as evaluating them in turn does. -/
def Evaluates (cx : FactContext) {α : Type} (m : Walking α) (es : List Expr) : Prop :=
  Records cx m (es.flatMap Expr.namedCalls) (es.flatMap (Expr.unseenCalls cx.registry))

section Evaluates

variable {cx : FactContext} {α β : Type} {m : Walking α} {k : α → Walking β} {es es' : List Expr}

theorem Evaluates.bind (hm : Evaluates cx m es) (hk : ∀ a, Evaluates cx (k a) es') :
    Evaluates cx (m >>= k) (es ++ es') := by
  rw [Evaluates, List.flatMap_append, List.flatMap_append]
  exact Records.bind hm hk

theorem Evaluates.bind_quiet (hm : Evaluates cx m es) (hk : ∀ a, Quiet (k a)) :
    Evaluates cx (m >>= k) es := Records.bind_quiet hm hk

theorem Quiet.evaluates (hm : Quiet m) (cx : FactContext) : Evaluates cx m [] := hm.records cx []

theorem Quiet.bind_evaluates (hm : Quiet m) (hk : ∀ a, Evaluates cx (k a) es) :
    Evaluates cx (m >>= k) es := Quiet.bind_records hm hk

end Evaluates

theorem evaluates_eval (cx : FactContext) (e : Expr) : Evaluates cx (eval cx e) [e] := by
  rw [Evaluates, List.flatMap_singleton, List.flatMap_singleton]
  exact records_eval cx e

theorem evaluates_discard (cx : FactContext) (e : Expr) : Evaluates cx (discard (eval cx e)) [e] :=
  fun w => evaluates_eval cx e w

theorem evaluates_evalOption (cx : FactContext) (e : Option Expr) :
    Evaluates cx (evalOption cx e) e.toList := by
  cases e with
  | none => exact (quiet_pure _).evaluates cx
  | some e => exact evaluates_discard cx e

theorem quiet_sanitizeInPlace (cx : FactContext) (e : Expr) : Quiet (sanitizeInPlace cx e) := by
  rw [sanitizeInPlace.eq_def]
  split
  · split
    · split
      · exact fun _ => rfl
      · exact quiet_pure _
    · exact quiet_pure _
  · exact quiet_pure _

theorem evaluates_walkItems (cx : FactContext) (items : List WithItem) :
    Evaluates cx (walkItems cx items) (items.map (·.context)) := by
  induction items with
  | nil => exact (quiet_pure _).evaluates cx
  | cons item rest ih =>
    rw [walkItems]
    refine (evaluates_eval cx item.context).bind fun label => ?_
    cases item.target with
    | none => exact (quiet_pure ()).bind_evaluates fun _ => ih
    | some target => exact Quiet.bind_evaluates (fun _ => rfl) fun _ => ih

/-- A branch evaluates its test and its body before what follows. -/
theorem evaluates_branch (cx : FactContext) (start : TaintState) (test : Option Expr)
    {body : Walking Unit} {k : TaintState → Walking Unit} {es rest : List Expr}
    (hbody : Evaluates cx body es) (hk : ∀ after, Evaluates cx (k after) rest) :
    Evaluates cx (do setState start; evalOption cx test; body; k (← currentState))
      (test.toList ++ (es ++ rest)) :=
  Quiet.bind_evaluates (fun _ => rfl) fun _ =>
  (evaluates_evalOption cx test).bind fun _ =>
  hbody.bind fun _ => Quiet.bind_evaluates (fun _ => rfl) hk

mutual

theorem evaluates_walkBlock (cx : FactContext) :
    (block : List Stmt) → Evaluates cx (walkBlock cx block) (evaluatedIn block)
  | [] => by
    rw [walkBlock]
    exact (quiet_pure _).evaluates cx
  | s :: ss => by
    rw [walkBlock, evaluatedIn]
    exact (evaluates_walkStmt cx s).bind fun _ => evaluates_walkBlock cx ss

/-- **A statement records the calls of the expressions that it evaluates.** -/
theorem evaluates_walkStmt (cx : FactContext) :
    (s : Stmt) → Evaluates cx (walkStmt cx s) s.evaluated
  | .assign start targets value => by
    rw [walkStmt, Stmt.evaluated]
    exact (evaluates_eval cx value).bind_quiet fun _ _ => rfl
  | .annAssign target hint none => by
    rw [walkStmt]
    · exact (quiet_pure _).evaluates cx
    all_goals exact nofun
  | .annAssign target hint (some value) => by
    rw [walkStmt, Stmt.evaluated]
    exact (evaluates_eval cx value).bind_quiet fun _ _ => rfl
  | .augAssign target value => by
    rw [walkStmt, Stmt.evaluated]
    exact (evaluates_eval cx value).bind fun _ =>
      (evaluates_eval cx target).bind_quiet fun _ _ => rfl
  | .expr value => by
    rw [walkStmt, Stmt.evaluated]
    exact (evaluates_discard cx value).bind_quiet fun _ => quiet_sanitizeInPlace cx value
  | .ret none => by
    rw [walkStmt]
    · exact (quiet_pure _).evaluates cx
    all_goals exact nofun
  | .ret (some value) => by
    rw [walkStmt, Stmt.evaluated]
    exact (evaluates_eval cx value).bind_quiet fun _ _ => rfl
  | .raise exception cause => by
    rw [walkStmt, Stmt.evaluated]
    exact (evaluates_evalOption cx exception).bind fun _ => evaluates_evalOption cx cause
  | .assert test message => by
    rw [walkStmt, Stmt.evaluated]
    exact (evaluates_discard cx test).bind fun _ => evaluates_evalOption cx message
  | .ifElse test body clauses => by
    rw [walkStmt, Stmt.evaluated]
    exact (evaluates_discard cx test).bind fun _ =>
      Quiet.bind_evaluates (fun _ => rfl) fun before =>
      (evaluates_walkBlock cx body).bind fun _ =>
      Quiet.bind_evaluates (fun _ => rfl) fun after =>
      evaluates_walkClauses cx before after false clauses
  | .forLoop target iter body orelse => by
    rw [walkStmt, Stmt.evaluated]
    exact (evaluates_eval cx iter).bind fun _ =>
      Quiet.bind_evaluates (fun _ => rfl) fun before =>
      Quiet.bind_evaluates (fun _ => rfl) fun _ =>
      (evaluates_walkBlock cx body).bind fun _ =>
      Quiet.bind_evaluates (fun _ => rfl) fun _ => evaluates_walkBlock cx orelse
  | .whileLoop test body orelse => by
    rw [walkStmt, Stmt.evaluated]
    exact (evaluates_discard cx test).bind fun _ =>
      Quiet.bind_evaluates (fun _ => rfl) fun before =>
      (evaluates_walkBlock cx body).bind fun _ =>
      Quiet.bind_evaluates (fun _ => rfl) fun _ => evaluates_walkBlock cx orelse
  | .withItems items body => by
    rw [walkStmt, Stmt.evaluated]
    exact (evaluates_walkItems cx items).bind fun _ => evaluates_walkBlock cx body
  | .tryExcept body handlers orelse final => by
    rw [walkStmt, Stmt.evaluated]
    exact Quiet.bind_evaluates (fun _ => rfl) fun before =>
      (evaluates_walkBlock cx body).bind fun _ =>
      Quiet.bind_evaluates (fun _ => rfl) fun _ =>
      (evaluates_walkBlock cx orelse).bind fun _ =>
      Quiet.bind_evaluates (fun _ => rfl) fun after =>
      (evaluates_walkHandlers cx _ after handlers).bind fun _ => evaluates_walkBlock cx final
  | .matchOn subject cases => by
    rw [walkStmt, Stmt.evaluated]
    exact (evaluates_discard cx subject).bind fun _ =>
      Quiet.bind_evaluates (fun _ => rfl) fun before => evaluates_walkCases cx before before cases
  | .delete targets => by
    rw [walkStmt]
    exact Quiet.evaluates (fun _ => rfl) cx
  | .functionDef .. | .classDef .. | .typeAlias .. | .importModules .. | .importFrom ..
  | .plain => by
    rw [walkStmt]
    · exact (quiet_pure _).evaluates cx
    all_goals exact nofun

theorem evaluates_walkClauses (cx : FactContext) (before merged : TaintState) (hasElse : Bool) :
    (clauses : List Clause) →
      Evaluates cx (walkClauses cx before merged hasElse clauses) (evaluatedInClauses clauses)
  | [] => by
    rw [walkClauses]
    exact Quiet.evaluates (fun _ => rfl) cx
  | .mk test body :: rest => by
    rw [walkClauses, evaluatedInClauses]
    exact evaluates_branch cx _ test (evaluates_walkBlock cx body) fun _ => evaluates_walkClauses cx before _ _ rest

theorem evaluates_walkHandlers (cx : FactContext) (entry merged : TaintState) :
    (handlers : List Handler) →
      Evaluates cx (walkHandlers cx entry merged handlers) (evaluatedInHandlers handlers)
  | [] => by
    rw [walkHandlers]
    exact Quiet.evaluates (fun _ => rfl) cx
  | .mk type body :: rest => by
    rw [walkHandlers, evaluatedInHandlers]
    exact evaluates_branch cx _ type (evaluates_walkBlock cx body) fun _ => evaluates_walkHandlers cx entry _ rest

theorem evaluates_walkCases (cx : FactContext) (before merged : TaintState) :
    (cases : List Case) →
      Evaluates cx (walkCases cx before merged cases) (evaluatedInCases cases)
  | [] => by
    rw [walkCases]
    exact Quiet.evaluates (fun _ => rfl) cx
  | .mk pattern guard body :: rest => by
    rw [walkCases, evaluatedInCases]
    exact evaluates_branch cx _ guard (evaluates_walkBlock cx body) fun _ => evaluates_walkCases cx before _ rest

end

/-! ## 6. Functions -/

/-- Whether the calls of a function are the named calls of what its body evaluates, each recorded
once and at its place, but for those in parts passed over. -/
def Accounted (cx : FactContext) (body : List Stmt) (f : FunctionFacts) : Prop :=
  ((f.calls.map fun c => (c.callee, c.location)) ++
      ((evaluatedIn body).flatMap (Expr.unseenCalls cx.registry)).map cx.place).Perm
    (((evaluatedIn body).flatMap Expr.namedCalls).map cx.place)

theorem accounted_walkBlock (cx : FactContext) (body : List Stmt) {w : Walk}
    (hw : w.facts.calls = []) : Accounted cx body ((walkBlock cx body).run w).2.facts := by
  obtain ⟨added, hcalls, hperm⟩ := evaluates_walkBlock cx body w
  rw [Accounted, hcalls, hw, List.nil_append]
  exact hperm

theorem calls_declareParams (at_ : Location) (ps : List DeclaredParam) (w : Walk) (index : Nat) :
    (declareParams at_ w index ps).facts.calls = w.facts.calls := by
  induction ps generalizing w index with
  | nil => rfl
  | cons p ps ih =>
    rw [declareParams, ih, declareParam]
    split <;> rfl

/-- **Every named call of a body is recorded once and at its place, unless a source hides it.** What
is passed over is the index of a subscript that reads a source and the receiver of a call of a source
(and the target of a binding, which is a name). -/
theorem calls_recorded_unless_passed_over (cx : FactContext) (module : String) (m : Module)
    (d : FunctionDef) :
    Accounted cx m.body (m.bodyFacts cx module) ∧ Accounted cx d.body (d.facts cx module) :=
  ⟨accounted_walkBlock cx m.body rfl,
    accounted_walkBlock cx d.body (calls_declareParams _ _ _ _)⟩

/-- `def fetch(p): return connect(p).read()` -/
def fetch : FunctionDef where
  qualname := "fetch"
  owner := none
  start := 0
  params := { positional := [{ name := "p" }] }
  body :=
    [.ret (some (.call 25 42 (.attr 25 (.call 25 35 (.name "connect") [.name "p"] []) "read") [] []))]

def fetchContext : FactContext where
  registry := .builtin
  file := ⟨"app.py"⟩
  lines := .ofText "def fetch(p):\n    return connect(p).read()\n"

/-- **The receiver of a call of a source is lost**: `connect(p)` is a named call, and it is not
recorded. -/
theorem fetch_receiver_unrecorded :
    (evaluatedIn fetch.body).flatMap Expr.namedCalls = [⟨"connect", 25⟩, ⟨".read", 25⟩] ∧
      (fetch.facts fetchContext "app").calls.map (fun c => (c.callee, c.location)) =
        [(".read", ⟨⟨"app.py"⟩, 2, 12⟩)] := by
  decide

end TaintFlow.Python
