import TaintFlow.Text.Decomposition

/-!
# Normal forms

Two texts that differ only in how their characters are written have one normal form: every
character is taken apart into those it stands for, marks are put into a fixed order, and what fits
together is put together again. The letters of Hangul follow from their numbers.
-/

namespace TaintFlow.Normalization

/-! ## 1. Single characters -/

/-- The combining class of a code point. Marks of different classes do not meet, so their order
means nothing; zero is the class of characters that start a group. -/
def combiningClass (n : Nat) : Nat :=
  if n < 0x300 then 0
  else (Decomposition.classes.find? fun r => r.1 ≤ n && n ≤ r.2.1).elim 0 fun r => r.2.2

/-- The letters of a Hangul syllable. -/
def hangulLetters (n : Nat) : List Nat :=
  let i := n - 0xAC00
  let last := i % 28
  [0x1100 + i / 588, 0x1161 + i % 588 / 28] ++ (if last = 0 then [] else [0x11A7 + last])

/-- The code points that one stands for. -/
def takeApart (n : Nat) : List Nat :=
  if n < 0x80 then [n]
  else if 0xAC00 ≤ n ∧ n ≤ 0xD7A3 then hangulLetters n
  else match Decomposition.singles.find? fun r => r.1 ≤ n && n ≤ r.2.1 with
    | some (lo, _, target) => [target + (n - lo)]
    | none => (Decomposition.expansions.lookup n).getD [n]

/-- The Hangul syllable of two letters, or of a syllable and a last letter. -/
def hangulPair? (a b : Nat) : Option Nat :=
  if 0x1100 ≤ a ∧ a ≤ 0x1112 ∧ 0x1161 ≤ b ∧ b ≤ 0x1175 then
    some (0xAC00 + (a - 0x1100) * 588 + (b - 0x1161) * 28)
  else if 0xAC00 ≤ a ∧ a ≤ 0xD7A3 ∧ (a - 0xAC00) % 28 = 0 ∧ 0x11A8 ≤ b ∧ b ≤ 0x11C2 then
    some (a + (b - 0x11A7))
  else none

/-- The code point that two make together. -/
def pair? (a b : Nat) : Option Nat :=
  (hangulPair? a b).or
    ((Decomposition.pairs.find? fun r => r.1 == a && r.2.1 == b).map fun r => r.2.2)

/-! ## 2. Texts -/

/-- Puts a code point in front, behind the marks of lower classes. -/
def place (c : Nat) : List Nat → List Nat
  | [] => [c]
  | d :: ds =>
    if 0 < combiningClass d ∧ combiningClass d < combiningClass c then d :: place c ds
    else c :: d :: ds

/-- Marks in the order of their classes; those of one class keep theirs. -/
def order (cs : List Nat) : List Nat := cs.foldr place []

/-- Joins what follows a starter with it. `waiting` holds the marks, last first, that did not fit;
a mark behind one of the same or a higher class cannot reach the starter. -/
def joinWith : (starter : Nat) → (waiting : List Nat) → List Nat → List Nat
  | s, waiting, [] => s :: waiting.reverse
  | s, waiting, c :: cs =>
    let free := waiting.head?.all fun w => combiningClass w < combiningClass c
    match if free then pair? s c else none with
    | some joined => joinWith joined waiting cs
    | none =>
      if combiningClass c = 0 then s :: waiting.reverse ++ joinWith c [] cs
      else joinWith s (c :: waiting) cs

/-- Joins marks with the starters before them. -/
def join : List Nat → List Nat
  | [] => []
  | c :: cs => if combiningClass c = 0 then joinWith c [] cs else c :: join cs

/-- The normal form of a text. -/
def normalize (s : String) : String :=
  let parts := s.toList.flatMap fun c => takeApart c.toNat
  String.ofList ((join (order parts)).map Char.ofNat)

end TaintFlow.Normalization
