import TaintFlow.Text
import TaintFlow.Text.CharClass

/-!
# Sets of characters

What a class of a regular expression stands for. `CharSet.contains` says which characters are in a
set; `CharSet.ranges` lists the same set as ranges of code points, which is what a program for it is
made from.
-/

namespace TaintFlow

/-! ## 1. Sets -/

/-- A set of characters. -/
inductive CharSet where
  /-- Code points between two bounds, both included. -/
  | range (lo hi : Nat)
  | digit
  | word
  | blank
  | union (a b : CharSet)
  | inter (a b : CharSet)
  | compl (a : CharSet)
  /-- The characters of which some ASCII case is in the set. -/
  | anyCase (a : CharSet)
  deriving Repr, Inhabited

namespace CharSet

/-- The set without characters. -/
def none : CharSet := range 1 0

/-- All characters. -/
def all : CharSet := range 0 0x10FFFF

/-- The set of one character. -/
def single (c : Char) : CharSet := range c.toNat c.toNat

/-- The union of some sets. -/
def unionAll : List CharSet → CharSet
  | [] => none
  | [a] => a
  | a :: as => union a (unionAll as)

/-- Whether a character is in the set. -/
def contains : CharSet → Char → Bool
  | range lo hi, c => lo ≤ c.toNat && c.toNat ≤ hi
  | digit, c => CharClass.isDigit c
  | word, c => CharClass.isWord c
  | blank, c => Text.isBlank c
  | union a b, c => a.contains c || b.contains c
  | inter a b, c => a.contains c && b.contains c
  | compl a, c => !a.contains c
  | anyCase a, c => a.contains c || a.contains c.toLower || a.contains c.toUpper

/-- The characters in one set and not in another. -/
def diff (a b : CharSet) : CharSet := inter a (compl b)

/-- The characters in exactly one of two sets. -/
def symmDiff (a b : CharSet) : CharSet := union (diff a b) (diff b a)

end CharSet

/-! ## 2. Ranges in order -/

namespace CharClass.Ranges

/-- Puts a range in front of ranges that start no earlier, joining it with those it meets. -/
def push (r : Nat × Nat) : Ranges → Ranges
  | [] => [r]
  | s :: rest => if s.1 ≤ r.2 + 1 then push (r.1, max r.2 s.2) rest else r :: s :: rest

/-- The ranges in ascending order, apart from each other. -/
def normalize (ranges : Ranges) : Ranges :=
  ((ranges.filter fun r => r.1 ≤ r.2).mergeSort fun a b => a.1 ≤ b.1).foldr push []

/-- What ascending ranges leave out of the code points from `lo` on. -/
def gaps (lo : Nat) : Ranges → Ranges
  | [] => if lo ≤ 0x10FFFF then [(lo, 0x10FFFF)] else []
  | (a, b) :: rest => if lo < a then (lo, a - 1) :: gaps (b + 1) rest else gaps (b + 1) rest

/-- The part of ranges between two bounds. -/
def within (lo hi : Nat) (ranges : Ranges) : Ranges :=
  ranges.filterMap fun (a, b) => if max a lo ≤ min b hi then some (max a lo, min b hi) else none

end CharClass.Ranges

namespace CharSet

open CharClass (Ranges digitRanges wordRanges)

/-- The ranges of a set, in ascending order. -/
def ranges : CharSet → Ranges
  | range lo hi => if lo ≤ hi then [(lo, hi)] else []
  | digit => (48, 57) :: digitRanges
  | word => [(48, 57), (65, 90), (95, 95), (97, 122)] ++ wordRanges
  | blank => Text.blankRanges
  | union a b => Ranges.normalize (a.ranges ++ b.ranges)
  | inter a b =>
    Ranges.gaps 0 (Ranges.normalize (Ranges.gaps 0 a.ranges ++ Ranges.gaps 0 b.ranges))
  | compl a => Ranges.gaps 0 a.ranges
  | anyCase a =>
    let rs := a.ranges
    let upper := (rs.within 65 90).map fun (lo, hi) => (lo + 32, hi + 32)
    let lower := (rs.within 97 122).map fun (lo, hi) => (lo - 32, hi - 32)
    Ranges.normalize (rs ++ upper ++ lower)

end CharSet

end TaintFlow
