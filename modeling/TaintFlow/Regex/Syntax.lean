import TaintFlow.Regex.CharSet

/-!
# Regular expressions

What a pattern written `regex:` in a configuration means. Only whether a name matches is asked, so
a numbered group is its content, and greedy and lazy repetition are the same thing.

A match is followed through sets of positions: `Regex.reach` gives every position at which a match
that starts in a set of positions can end. A set of positions is an ascending list.
-/

namespace TaintFlow

/-! ## 1. Expressions -/

/-- Where a position stands in relation to a word. -/
inductive WordEdge where
  /-- A word starts or ends here. -/
  | some
  /-- No word starts or ends here. -/
  | none
  | start
  | finish
  /-- No word character stands before. -/
  | startHalf
  /-- No word character follows. -/
  | finishHalf
  deriving DecidableEq, Repr

/-- A condition on a position that takes no characters. -/
inductive Anchor where
  | textStart
  | textEnd
  /-- A line starts; `returns` says that a carriage return ends a line too. -/
  | lineStart (returns : Bool)
  | lineEnd (returns : Bool)
  /-- An edge of words, which are made of all characters of words or of the ASCII ones. -/
  | word (edge : WordEdge) (ascii : Bool)
  deriving DecidableEq, Repr

/-- A regular expression. -/
inductive Regex where
  | empty
  | chars (set : CharSet)
  | anchor (a : Anchor)
  | seq (a b : Regex)
  | alt (a b : Regex)
  /-- An expression at least `lo` times, and at most `hi` times if there is a bound. -/
  | times (r : Regex) (lo : Nat) (hi : Option Nat)
  /-- A group with a number. -/
  | group (r : Regex)
  deriving Repr, Inhabited

/-- Whether a character belongs to words. -/
def isWordChar (ascii : Bool) (c : Char) : Bool :=
  if ascii then c.isAlphanum || c == '_' else CharClass.isWord c

/-- Whether an edge lies between a word character or none before and one or none after. -/
def WordEdge.holds (edge : WordEdge) (before after : Bool) : Bool :=
  match edge with
  | .some => before != after
  | .none => before == after
  | start => !before && after
  | finish => before && !after
  | startHalf => !before
  | finishHalf => !after

/-- Whether the condition holds between a character before and one after. A carriage return and the
line feed behind it are one line end, so no line starts or ends between them. -/
def Anchor.holds (a : Anchor) (before after : Option Char) : Bool :=
  match a with
  | textStart => before.isNone
  | textEnd => after.isNone
  | lineStart returns =>
    before.isNone || before == some '\n' || (returns && before == some '\r' && after != some '\n')
  | lineEnd returns =>
    after.isNone ||
      (if returns then after == some '\r' || (after == some '\n' && before != some '\r')
        else after == some '\n')
  | word edge ascii =>
    edge.holds (before.elim false (isWordChar ascii)) (after.elim false (isWordChar ascii))

namespace Regex

/-- The expressions one after the other. -/
def seqAll : List Regex → Regex
  | [] => empty
  | [r] => r
  | r :: rs => seq r (seqAll rs)

/-- Any of the expressions. -/
def altAll : List Regex → Regex
  | [] => empty
  | [r] => r
  | r :: rs => alt r (altAll rs)

/-- An expression any number of times. -/
def star (r : Regex) : Regex := times r 0 none

/-! ## 2. Matching -/

/-- The positions in either of two sets. -/
def joinPositions : List Nat → List Nat → List Nat
  | [], bs => bs
  | a :: as, [] => a :: as
  | a :: as, b :: bs =>
    if a < b then a :: joinPositions as (b :: bs)
    else if b < a then b :: joinPositions (a :: as) bs
    else a :: joinPositions as bs
termination_by as bs => as.length + bs.length

/-- Takes a step a number of times. A step that changes nothing ends it: no later one would. -/
def iterate (step : List Nat → List Nat) : (count : Nat) → List Nat → List Nat
  | 0, ps => ps
  | n + 1, ps =>
    let next := step ps
    if next = ps then ps else iterate step n next

/-- The positions reached from `ps` by up to `rounds` steps. A text with `n` characters has `n + 1`
positions, so `n + 1` rounds reach all that any number of steps reaches. -/
def closure (step : List Nat → List Nat) (rounds : Nat) (ps : List Nat) : List Nat :=
  iterate (fun ps => joinPositions ps (step ps)) rounds ps

/-- The positions at which a match starting at one of `starts` can end. -/
def reach (text : Array Char) : Regex → (starts : List Nat) → List Nat
  | empty, ps => ps
  | chars set, ps =>
    ps.filterMap fun p => text[p]?.bind fun c => if set.contains c then some (p + 1) else none
  | anchor a, ps =>
    ps.filter fun p => a.holds (if p = 0 then none else text[p - 1]?) text[p]?
  | seq a b, ps => reach text b (reach text a ps)
  | alt a b, ps => joinPositions (reach text a ps) (reach text b ps)
  | times r lo hi, ps =>
    closure (reach text r) ((hi.map (· - lo)).getD (text.size + 1))
      (iterate (reach text r) lo ps)
  | group r, ps => reach text r ps

/-- Whether an expression matches somewhere in a text. -/
def matchesIn (r : Regex) (text : String) : Bool :=
  let chars := text.toList.toArray
  !(r.reach chars (List.range (chars.size + 1))).isEmpty

end Regex

end TaintFlow
