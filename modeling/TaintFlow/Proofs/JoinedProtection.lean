import TaintFlow.Proofs.FlowStep
import TaintFlow.Proofs.LabelOrder
import TaintFlow.Proofs.NotedFacts
import TaintFlow.Proofs.RecordedCalls

/-!
# Protection of joined values

A value is protected against a weakness if it went through a sanitizer that covers it. A join keeps
the names that all tainted parts have, and only after that is asked what the names cover. So parts
that went through different sanitizers leave a join without protection, whatever these cover
(`quotes_of_two_kinds_lost`): a join is protected if and only if one sanitizer that covers the weakness
is on every tainted part.

The label of an expression is the join of the labels of its parts, evaluated in order
(`joins_eval`). Hence the hits of a sink call stand one by one for those of its dangerous arguments
that have a tainted part, and a hit is flagged exactly if the parts of its argument share their
protection (`join_protected_iff_shared`).
-/

namespace TaintFlow

/-! ## 1. Shared protection -/

/-- Whether one sanitizer that covers a weakness is on every tainted label. -/
def SharedProtection (registry : Registry) (weakness : Weakness) (ls : List Label) : Prop :=
  ∃ s, registry.covers s weakness = true ∧ ∀ l ∈ ls, l.isClean = false → s ∈ l.sanitizers

/-- A tainted join is protected if its parts share their protection. -/
theorem protected_iff_of_isLUB {registry : Registry} {weakness : Weakness} {ls : List Label}
    {l : Label} (h : IsLUB {part | part ∈ ls} l) (hl : l.isClean = false) :
    (∃ s ∈ l.sanitizers, registry.covers s weakness = true) ↔
      SharedProtection registry weakness ls := by
  constructor
  · rintro ⟨s, hs, hcovers⟩
    exact ⟨s, hcovers, (Label.mem_sanitizers_of_isLUB h hl).mp hs⟩
  · rintro ⟨s, hcovers, hs⟩
    exact ⟨s, (Label.mem_sanitizers_of_isLUB h hl).mpr hs, hcovers⟩

namespace Python

/-! ## 2. Parts of an expression -/

mutual

/-- The parts whose labels an expression joins, in the order in which they are evaluated. A chain of
names and a subscript that reads a source are parts of their own. -/
def Expr.parts (registry : Registry) : Expr → List Expr
  | .attr start value field =>
    match (Expr.attr start value field).dottedName? with
    | some _ => [.attr start value field]
    | none => value.parts registry
  | .subscript start value index =>
    if value.isSourceContainer registry then [.subscript start value index]
    else value.parts registry ++ index.parts registry
  | .starred value => value.parts registry
  | .tuple elements => partsAmong registry elements
  | .list elements => partsAmong registry elements
  | .compound _ parts => partsAmong registry parts
  | e => [e]

/-- The parts of expressions. -/
def partsAmong (registry : Registry) : List Expr → List Expr
  | [] => []
  | e :: es => e.parts registry ++ partsAmong registry es

end

/-- The labels of the parts of an expression. -/
def evalParts (cx : FactContext) (parts : List Expr) : Walking (List Label) := parts.mapM (eval cx)

/-- Whether a label is computed as the join of some first labels and of those of parts. -/
structure JoinsFrom (cx : FactContext) (w : Walk) (first : List Label) (parts : List Expr)
    (m : Walking Label) : Prop where
  walk : (m.run w).2 = ((evalParts cx parts).run w).2
  label : IsLUB {l | l ∈ first ++ ((evalParts cx parts).run w).1} (m.run w).1

section Joins

variable {cx : FactContext} {w : Walk} {first : List Label} {ps qs : List Expr} {m : Walking Label}

theorem evalParts_append (cx : FactContext) (ps qs : List Expr) (w : Walk) :
    (evalParts cx (ps ++ qs)).run w =
      (((evalParts cx ps).run w).1 ++
          ((evalParts cx qs).run ((evalParts cx ps).run w).2).1,
        ((evalParts cx qs).run ((evalParts cx ps).run w).2).2) := by
  rw [evalParts, List.mapM_append]
  rfl

theorem joinsFrom_nil {label : Label} (h : IsLUB {l | l ∈ first} label) :
    JoinsFrom cx w first [] (pure label) := by
  refine ⟨rfl, ?_⟩
  show IsLUB {l | l ∈ first ++ []} label
  rw [List.append_nil]
  exact h

/-- An expression that joins nothing is a part of its own. -/
theorem joinsFrom_self (cx : FactContext) (w : Walk) (e : Expr) :
    JoinsFrom cx w [] [e] (eval cx e) := by
  have hparts : evalParts cx [e] = do return [← eval cx e] := by
    rw [evalParts, List.mapM_cons, List.mapM_nil]
    rfl
  refine ⟨by rw [hparts]; rfl, ?_⟩
  rw [hparts]
  show IsLUB {l | l ∈ [((eval cx e).run w).1]} _
  simp only [List.mem_singleton]
  exact isLUB_singleton

theorem JoinsFrom.isLUB (h : JoinsFrom cx w [] ps m) :
    IsLUB {l | l ∈ ((evalParts cx ps).run w).1} (m.run w).1 := h.label

/-- Joining the label of an expression onto what is there joins those of its parts. -/
theorem JoinsFrom.isLUB_combine (h : JoinsFrom cx w [] ps m) {label : Label}
    (hlabel : IsLUB {l | l ∈ first} label) :
    IsLUB {l | l ∈ first ++ ((evalParts cx ps).run w).1} (label.combine (m.run w).1) := by
  have hunion := Label.isLUB_combine hlabel h.isLUB
  simp only [List.mem_append]
  exact hunion

/-- Parts evaluated first come before those that follow. -/
theorem JoinsFrom.append {k : Label → Walking Label} (hm : JoinsFrom cx w [] ps m)
    (hk : JoinsFrom cx (m.run w).2 (first ++ ((evalParts cx ps).run w).1) qs (k (m.run w).1)) :
    JoinsFrom cx w first (ps ++ qs) (m >>= k) := by
  obtain ⟨hwalk, hlabel⟩ := hk
  rw [hm.walk] at hwalk hlabel
  constructor
  · rw [evalParts_append]
    show ((k (m.run w).1).run (m.run w).2).2 = _
    rw [hm.walk, hwalk]
  · rw [evalParts_append]
    show IsLUB _ ((k (m.run w).1).run (m.run w).2).1
    rw [hm.walk, ← List.append_assoc]
    exact hlabel

end Joins

/-- A subscript of what is no source is evaluated from container and index. -/
theorem eval_subscript_parts (cx : FactContext) {start : Nat} {value index : Expr}
    (h : value.isSourceContainer cx.registry = false) :
    eval cx (.subscript start value index) = do
      let container ← eval cx value
      let key ← eval cx index
      return container.combine key := by
  rw [eval]
  rw [Expr.isSourceContainer] at h
  cases hpath : value.dottedName? with
  | none => rfl
  | some path =>
    rw [hpath, Option.any_some, Option.isSome_eq_false_iff, Option.isNone_iff_eq_none] at h
    simp only [readSource?, h]
    rfl

mutual

/-- **The label of an expression is the join of those of its parts**, and nothing else is done in the
course of its evaluation than to evaluate them. -/
theorem joins_eval (cx : FactContext) :
    (e : Expr) → (w : Walk) → JoinsFrom cx w [] (e.parts cx.registry) (eval cx e)
  | .attr start value field, w => by
    have hvalue := joins_eval cx value w
    rw [Expr.parts]
    cases h : (Expr.attr start value field).dottedName? with
    | some path => exact joinsFrom_self cx w _
    | none =>
      rw [eval]
      simp only [h]
      exact hvalue
  | .subscript start value index, w => by
    have hvalue := joins_eval cx value
    have hindex := joins_eval cx index
    rw [Expr.parts]
    cases h : value.isSourceContainer cx.registry with
    | true => exact joinsFrom_self cx w _
    | false =>
      rw [eval_subscript_parts cx h]
      refine (hvalue w).append ?_
      have hkey := hindex ((eval cx value).run w).2
      exact ⟨hkey.walk, hkey.isLUB_combine (hvalue w).isLUB⟩
  | .starred value, w => by
    rw [Expr.parts, eval]
    exact joins_eval cx value w
  | .tuple elements, w => by
    rw [Expr.parts, eval]
    exact joins_evalAll cx elements w Label.isLUB_clean
  | .list elements, w => by
    rw [Expr.parts, eval]
    exact joins_evalAll cx elements w Label.isLUB_clean
  | .compound kind parts, w => by
    rw [Expr.parts, eval]
    exact joins_evalAll cx parts w Label.isLUB_clean
  | .name _, w | .string _, w | .bool _, w | .constant, w | .call .., w | .lambda .., w
  | .yield _, w | .yieldFrom _, w | .named .., w => joinsFrom_self cx w _

theorem joins_evalAll (cx : FactContext) {first : List Label} {label : Label} :
    (es : List Expr) → (w : Walk) → IsLUB {l | l ∈ first} label →
      JoinsFrom cx w first (partsAmong cx.registry es) (evalAll cx label es)
  | [], w, h => by
    rw [partsAmong, evalAll]
    exact joinsFrom_nil h
  | e :: es, w, h => by
    rw [partsAmong, evalAll]
    have he := joins_eval cx e w
    exact he.append (joins_evalAll cx es _ (he.isLUB_combine h))

end

/-! ## 3. Parts of arguments -/

/-- An argument by its place in a call and the labels of its parts. -/
structure ArgumentParts where
  position : ArgPosition
  labels : List Label
  deriving DecidableEq

/-- The parts of positional and `*` arguments; the latter take up no position. -/
def partsOfArgs (cx : FactContext) (index : Nat) : List Expr → Walking (List ArgumentParts)
  | [] => return []
  | .starred value :: rest => do
    let labels ← evalParts cx (value.parts cx.registry)
    return ⟨.keyword "*", labels⟩ :: (← partsOfArgs cx index rest)
  | e :: rest => do
    let labels ← evalParts cx (e.parts cx.registry)
    return ⟨.positional index, labels⟩ :: (← partsOfArgs cx (index + 1) rest)

/-- The parts of keyword and `**` arguments. -/
def partsOfKeywords (cx : FactContext) : List Keyword → Walking (List ArgumentParts)
  | [] => return []
  | .mk name value :: rest => do
    let labels ← evalParts cx (value.parts cx.registry)
    return ⟨.keyword (name.getD "**"), labels⟩ :: (← partsOfKeywords cx rest)

/-- The parts of all arguments of a call. -/
def partsOfCall (cx : FactContext) (args : List Expr) (keywords : List Keyword) :
    Walking (List ArgumentParts) := do
  let positional ← partsOfArgs cx 0 args
  let named ← partsOfKeywords cx keywords
  return positional ++ named

/-- Whether the label of an argument is the join of its parts. -/
def ArgumentParts.JoinTo (p : ArgumentParts) (a : Argument) : Prop :=
  a.position = p.position ∧ IsLUB {l | l ∈ p.labels} a.label

/-- Whether two computations do the same, where the first gives the parts of what the second
gives. -/
def PartsOf (m : Walking (List ArgumentParts)) (m' : Walking (List Argument)) : Prop :=
  ∀ w : Walk, (m'.run w).2 = (m.run w).2 ∧
    List.Forall₂ ArgumentParts.JoinTo (m.run w).1 (m'.run w).1

section PartsOf

variable {m : Walking (List ArgumentParts)} {m' : Walking (List Argument)}

theorem partsOf_nil : PartsOf (pure []) (pure []) := fun _ => ⟨rfl, .nil⟩

/-- One more argument in front. -/
theorem PartsOf.cons (h : PartsOf m m') (cx : FactContext) (e : Expr) (position : ArgPosition) :
    PartsOf (do return ⟨position, ← evalParts cx (e.parts cx.registry)⟩ :: (← m))
      (do return ⟨position, ← eval cx e⟩ :: (← m')) := by
  intro w
  have he := joins_eval cx e w
  obtain ⟨hwalk, hparts⟩ := h ((evalParts cx (e.parts cx.registry)).run w).2
  constructor
  · show (m'.run ((eval cx e).run w).2).2 = _
    rw [he.walk, hwalk]
    rfl
  · show List.Forall₂ _ _ (_ :: (m'.run ((eval cx e).run w).2).1)
    rw [he.walk]
    exact .cons ⟨rfl, he.isLUB⟩ hparts

end PartsOf

theorem partsOf_evalArgs (cx : FactContext) (index : Nat) (args : List Expr) :
    PartsOf (partsOfArgs cx index args) (evalArgs cx index args) := by
  fun_induction partsOfArgs cx index args with
  | case1 =>
    rw [evalArgs]
    exact partsOf_nil
  | case2 index value rest ih =>
    rw [evalArgs]
    exact ih.cons cx value _
  | case3 index e rest hstarred ih =>
    rw [evalArgs]
    · exact ih.cons cx e _
    · exact hstarred

theorem partsOf_evalKeywords (cx : FactContext) (keywords : List Keyword) :
    PartsOf (partsOfKeywords cx keywords) (evalKeywords cx keywords) := by
  fun_induction partsOfKeywords cx keywords with
  | case1 =>
    rw [evalKeywords]
    exact partsOf_nil
  | case2 name value rest ih =>
    rw [evalKeywords]
    exact ih.cons cx value _

/-- The arguments of a call have the joins of their parts as labels. -/
theorem partsOf_call (cx : FactContext) (args : List Expr) (keywords : List Keyword) :
    PartsOf (partsOfCall cx args keywords)
      (do return (← evalArgs cx 0 args) ++ (← evalKeywords cx keywords)) := by
  intro w
  obtain ⟨hwalk, hargs⟩ := partsOf_evalArgs cx 0 args w
  obtain ⟨hwalk', hkeywords⟩ := partsOf_evalKeywords cx keywords ((partsOfArgs cx 0 args).run w).2
  constructor
  · show ((evalKeywords cx keywords).run ((evalArgs cx 0 args).run w).2).2 = _
    rw [hwalk, hwalk']
    rfl
  · show List.Forall₂ _ _
      (_ ++ ((evalKeywords cx keywords).run ((evalArgs cx 0 args).run w).2).1)
    rw [hwalk]
    exact List.rel_append hargs hkeywords

/-! ## 4. Hits of a call -/

/-- Whether taint in some part of an argument reaches a sink. -/
def ArgumentParts.reaches (sink : Sink) (p : ArgumentParts) : Bool :=
  p.labels.any (fun l => !l.isClean) && isDangerous sink p.position

theorem ArgumentParts.JoinTo.isClean_eq_false_iff {p : ArgumentParts} {a : Argument}
    (h : p.JoinTo a) : a.label.isClean = false ↔ ∃ l ∈ p.labels, l.isClean = false :=
  Label.isClean_eq_false_of_isLUB h.2

/-- Whether a hit of a call stands for an argument with these parts, and is flagged exactly if they
share their protection. -/
structure Judges (registry : Registry) (sink : Sink) (location : Location) (p : ArgumentParts)
    (hit : SinkHit) : Prop where
  sanitized : hit.sanitized = true ↔ SharedProtection registry sink.weakness p.labels
  sink : hit.sink = sink
  location : hit.location = location
  argument : hit.argument = p.position

/-- **The hits of a sink call stand one by one for the arguments that reach it.** -/
theorem sinkHitsOf_judge (registry : Registry) (sink : Sink) (location : Location)
    {ps : List ArgumentParts} {args : List Argument} (h : List.Forall₂ ArgumentParts.JoinTo ps args) :
    List.Forall₂ (Judges registry sink location) (ps.filter (·.reaches sink))
      (sinkHitsOf registry sink location args) := by
  rw [sinkHitsOf, List.forall₂_map_right_iff]
  -- a hit's argument is tainted, which its judgement needs and the pairing alone does not say
  have hkept : List.Forall₂ (fun p a => p.JoinTo a) (ps.filter (·.reaches sink))
      (args.filter fun a => !a.label.isClean && isDangerous sink a.position) := by
    refine List.rel_filter (fun p a hpa => ?_) h
    simp [ArgumentParts.reaches, hpa.1, hpa.isClean_eq_false_iff]
  have hdirty : ∀ p ∈ ps.filter (·.reaches sink), ∃ l ∈ p.labels, l.isClean = false := by
    intro p hp
    have hreaches := (List.mem_filter.mp hp).2
    simpa using (Bool.and_eq_true_iff.mp hreaches).1
  refine (List.forall₂_and_left _ _ |>.mpr ⟨hdirty, hkept⟩).imp fun p a ⟨hp, hpa⟩ => ?_
  have ha := hpa.isClean_eq_false_iff.mpr hp
  exact ⟨SortedSet.any_eq_true.trans (protected_iff_of_isLUB hpa.2 ha), rfl, rfl, hpa.1⟩

/-- A named call is noted once its arguments have labels. -/
theorem run_eval_call (cx : FactContext) (start stop : Nat) (callee : Expr) (args : List Expr)
    (keywords : List Keyword) (w : Walk) {name : String} (hname : callee.callName? = some name) :
    (eval cx (.call start stop callee args keywords)).run w =
      let labelled : Walking (List Argument) :=
        do return (← evalArgs cx 0 args) ++ (← evalKeywords cx keywords)
      (LabelledCall.note cx
        ⟨name, callShape name args keywords, cx.locate start, (labelled.run w).1,
          isSpreadCall args keywords⟩ (evalReceiver cx callee)).run (labelled.run w).2 := by
  rw [eval]
  simp only [hname]
  rfl

/-- **A join is protected if and only if its tainted parts share their protection**: for two labels
with taint, and for each argument of a call of a sink that has a part with taint. -/
theorem join_protected_iff_shared :
    (∀ (registry : Registry) (weakness : Weakness) (a b : Label),
      a.isClean = false → b.isClean = false →
        ((∃ s ∈ (a.combine b).sanitizers, registry.covers s weakness = true) ↔
          SharedProtection registry weakness [a, b])) ∧
    ∀ (cx : FactContext) (start stop : Nat) (callee : Expr) (args : List Expr)
      (keywords : List Keyword) (name : String) (sink : Sink) (w : Walk),
      callee.callName? = some name → cx.registry.sink? (callShape name args keywords) = some sink →
        ∃ hits : List SinkHit,
          ((partsOfCall cx args keywords).run w).2.facts.sinkHits ++ hits <+:
            ((eval cx (.call start stop callee args keywords)).run w).2.facts.sinkHits ∧
          List.Forall₂ (Judges cx.registry sink (cx.locate start))
            (((partsOfCall cx args keywords).run w).1.filter (·.reaches sink)) hits := by
  constructor
  · intro registry weakness a b ha _
    have hlub : IsLUB {l | l ∈ [a, b]} (a.combine b) := by
      have hunion := Label.isLUB_combine (isLUB_singleton (a := a)) (isLUB_singleton (a := b))
      simp only [List.mem_cons, List.not_mem_nil, or_false]
      exact hunion
    exact protected_iff_of_isLUB hlub (Label.isClean_eq_false_of_le (Label.le_combine_left a b) ha)
  · intro cx start stop callee args keywords name sink w hname hsink
    obtain ⟨hwalk, hparts⟩ := partsOf_call cx args keywords w
    rw [run_eval_call cx start stop callee args keywords w hname]
    refine ⟨_, ?_, sinkHitsOf_judge cx.registry sink (cx.locate start) hparts⟩
    obtain ⟨site, g, _, hnotes, hfacts⟩ := LabelledCall.run_note _ (notes_evalReceiver cx callee) _
    rw [hfacts]
    have hhits := hnotes.sinkHits_extended
    rw [LabelledCall.sinkHits, hsink, hwalk] at hhits
    exact hhits

namespace Quoted

/-- The quoted value of a parameter of `def run(a, b)`. -/
def quoted (quote : String) (param : Nat) : Label := (Label.param param).sanitize quote

/-- `module.quote(x)` -/
def quote (module x : String) : Expr := .call 0 0 (.attr 0 (.name module) "quote") [.name x] []

/-- `shlex.quote(a) + module.quote(b)` -/
def concatenation (module : String) : Expr :=
  .compound .binary [quote "shlex" "a", quote module "b"]

/-- `os.system(shlex.quote(a) + module.quote(b))` -/
def command (module : String) : Expr :=
  .call 0 0 (.attr 0 (.name "os") "system") [concatenation module] []

def start : Walk where
  facts := default
  state := ⟨.ofList [("a", .param 0), ("b", .param 1)]⟩

def context : FactContext where
  registry := .builtin
  file := ⟨"app.py"⟩
  lines := .ofText ""

end Quoted

open Quoted

/-- One kind of quotes on both sides is shared, and the one argument of the call is judged so. -/
theorem same_quotes_shared :
    SharedProtection .builtin .commandInjection [quoted "shlex.quote" 0, quoted "shlex.quote" 1] ∧
    ∃ sink hits, Registry.builtin.sink? (callShape "os.system" [concatenation "shlex"] []) = some sink ∧
      hits <+: ((eval context (command "shlex")).run start).2.facts.sinkHits ∧
      List.Forall₂ (Judges .builtin sink (context.locate 0))
        [⟨.positional 0, [quoted "shlex.quote" 0, quoted "shlex.quote" 1]⟩] hits := by
  constructor
  · refine (join_protected_iff_shared.1 .builtin .commandInjection _ _ rfl rfl).mp ?_
    exact ⟨"shlex.quote", by decide, by decide⟩
  · obtain ⟨sink, hsink, hdangerous⟩ := Option.any_eq_true _ _ |>.mp
      (show (Registry.builtin.sink? (callShape "os.system" [concatenation "shlex"] [])).any
        (isDangerous · (.positional 0)) = true by decide)
    have hparts : ((partsOfCall context [concatenation "shlex"] []).run start).1 =
        [⟨.positional 0, [quoted "shlex.quote" 0, quoted "shlex.quote" 1]⟩] := by decide
    obtain ⟨hits, hextended, hjudged⟩ := join_protected_iff_shared.2 context 0 0
      (.attr 0 (.name "os") "system") [concatenation "shlex"] [] "os.system" sink start (by decide)
      hsink
    rw [hparts, List.filter_singleton, ArgumentParts.reaches, hdangerous] at hjudged
    exact ⟨sink, hits, hsink, hextended, hjudged⟩

/-- **Different sanitizers are lost in a join**, also if both cover the weakness: the one argument of
the call is not flagged. -/
theorem quotes_of_two_kinds_lost :
    (∀ l ∈ [quoted "shlex.quote" 0, quoted "pipes.quote" 1], l.isClean = false ∧
      ∃ s ∈ l.sanitizers, Registry.builtin.covers s .commandInjection = true) ∧
    ((quoted "shlex.quote" 0).combine (quoted "pipes.quote" 1)).sanitizers = ∅ ∧
    ((eval context (command "shlex")).run start).2.facts.sinkHits.map (·.sanitized) = [true] ∧
    ((eval context (command "pipes")).run start).2.facts.sinkHits.map (·.sanitized) = [false] := by
  decide

end Python

end TaintFlow
