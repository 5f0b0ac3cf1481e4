import TaintFlow.Text

/-!
# Lines and columns

Positions in a text are byte offsets; reports speak of lines and columns. Both start at one, lines
end at the newline byte only, and columns count bytes.
-/

namespace TaintFlow

/-- The byte offsets at which the lines of a text start. -/
structure LineIndex where
  starts : List Nat
  deriving DecidableEq, Repr, Inhabited

namespace LineIndex

/-- The offsets after each newline, when the text starts at an offset. -/
def startsAfter : (offset : Nat) → List Char → List Nat
  | _, [] => []
  | offset, c :: cs =>
    let next := offset + c.utf8Size
    if c = '\n' then next :: startsAfter next cs else startsAfter next cs

/-- The lines of a text. -/
def ofText (text : String) : LineIndex := ⟨0 :: startsAfter 0 text.toList⟩

/-- The line and column of an offset: the last line that starts at or before it. -/
def position (index : LineIndex) (offset : Nat) : Nat × Nat :=
  let before := index.starts.takeWhile (· ≤ offset)
  (before.length, offset - before.getLastD 0 + 1)

/-- The line of an offset. -/
def line (index : LineIndex) (offset : Nat) : Nat := (index.position offset).1

end LineIndex

end TaintFlow
