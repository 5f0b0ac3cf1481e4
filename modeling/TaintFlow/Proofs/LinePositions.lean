import Mathlib.Data.Prod.Lex
import Mathlib.Order.Bounds.Basic
import TaintFlow.Python.Facts

/-!
# Lines and columns are exact

An index is made character by character, while offsets count bytes. A newline is one byte and no other
character has that byte in its encoding (`newline_mem_utf8EncodeChar`), so the index lists the ends of
the newline bytes (`ofText_eq`). Up to an offset it lists those of the bytes before the offset
(`takeWhile_newlineEnds`): their number is the line and the last of them is where the line starts.

Hence a position says how many newline bytes stand before an offset and how far the last of them is
away, also past the end of the text, and no two offsets have one position (`positions_exact`).

The line of an offset can also be looked up: line starts ascend, so the offset is one of them or has a
place between them. A hit starts the line after those before it, a miss lies in the last of those, and
both give the line of the scan (`Lookup.line_eq`).
-/

namespace TaintFlow.LineIndex

/-! ## 1. Newline bytes -/

/-- The bytes of a text. -/
def bytesOf (text : String) : List UInt8 := text.toByteArray.data.toList

/-- The byte that ends a line. -/
def newline : UInt8 := 10

/-- The offsets after each newline byte, when the bytes start at an offset. -/
def newlineEnds : (offset : Nat) → List UInt8 → List Nat
  | _, [] => []
  | offset, b :: bs =>
    if b = newline then (offset + 1) :: newlineEnds (offset + 1) bs else newlineEnds (offset + 1) bs

theorem newlineEnds_append_of_not_mem {bs : List UInt8} (h : newline ∉ bs) (offset : Nat)
    (rest : List UInt8) :
    newlineEnds offset (bs ++ rest) = newlineEnds (offset + bs.length) rest := by
  induction bs generalizing offset with
  | nil => rfl
  | cons b bs ih =>
    have hb : b ≠ newline := fun e => h (e ▸ List.mem_cons_self)
    have hbs : newline ∉ bs := fun hmem => h (List.mem_cons_of_mem _ hmem)
    rw [List.cons_append, newlineEnds, if_neg hb, ih hbs, List.length_cons, Nat.add_right_comm]
    rfl

/-- **A newline is the only character with a newline byte.** The bytes of a longer encoding are all
above those of one-byte characters. -/
theorem newline_mem_utf8EncodeChar {c : Char} : newline ∈ String.utf8EncodeChar c ↔ c = '\n' := by
  have hvalue : c = '\n' ↔ c.val.toNat = 10 :=
    ⟨fun h => by rw [h]; rfl, fun h => Char.ext (UInt32.toNat_inj.mp h)⟩
  have hbyte : ∀ n, newline = UInt8.ofNat n ↔ n % 256 = 10 := by
    intro n
    rw [newline, ← UInt8.toNat_inj, UInt8.toNat_ofNat']
    exact eq_comm
  rw [hvalue, String.utf8EncodeChar]
  split
  · rw [List.mem_singleton, hbyte]
    omega
  · split
    · simp only [List.mem_cons, hbyte, List.not_mem_nil, or_false]
      omega
    · split
      · simp only [List.mem_cons, hbyte, List.not_mem_nil, or_false]
        omega
      · simp only [List.mem_cons, hbyte, List.not_mem_nil, or_false]
        omega

theorem utf8EncodeChar_newline : String.utf8EncodeChar '\n' = [newline] := by decide

/-- Characters and bytes have the same line ends. -/
theorem startsAfter_eq (offset : Nat) (cs : List Char) :
    startsAfter offset cs = newlineEnds offset (cs.flatMap String.utf8EncodeChar) := by
  induction cs generalizing offset with
  | nil => rfl
  | cons c cs ih =>
    rw [startsAfter, List.flatMap_cons]
    by_cases hc : c = '\n'
    · subst hc
      rw [if_pos rfl, ih, utf8EncodeChar_newline]
      rfl
    · have hbytes : newline ∉ String.utf8EncodeChar c := fun h => hc (newline_mem_utf8EncodeChar.mp h)
      rw [if_neg hc, ih, newlineEnds_append_of_not_mem hbytes, String.length_utf8EncodeChar]

/-- **The lines of a text start at its first byte and after each newline byte.** -/
theorem ofText_eq (text : String) : ofText text = ⟨0 :: newlineEnds 0 (bytesOf text)⟩ := by
  have hbytes : bytesOf text = text.toList.flatMap String.utf8EncodeChar := by
    rw [bytesOf, ← String.utf8Encode_toList, List.utf8Encode, List.data_toByteArray]
  rw [ofText, startsAfter_eq, hbytes]

/-! ## 2. Line starts up to an offset -/

theorem mem_newlineEnds {s offset : Nat} {bs : List UInt8} :
    s ∈ newlineEnds offset bs ↔ ∃ i, bs[i]? = some newline ∧ s = offset + i + 1 := by
  induction bs generalizing offset with
  | nil => simp [newlineEnds]
  | cons b bs ih =>
    have hrest : (∃ i, (b :: bs)[i]? = some newline ∧ s = offset + i + 1) ↔
        (b = newline ∧ s = offset + 1) ∨ s ∈ newlineEnds (offset + 1) bs := by
      rw [ih]
      constructor
      · rintro ⟨i, hi, hs⟩
        cases i with
        | zero => exact Or.inl ⟨by simpa using hi, hs⟩
        | succ i => exact Or.inr ⟨i, by simpa using hi, by omega⟩
      · rintro (⟨hb, hs⟩ | ⟨i, hi, hs⟩)
        · exact ⟨0, by simpa using hb, hs⟩
        · exact ⟨i + 1, by simpa using hi, by omega⟩
    rw [hrest, newlineEnds]
    by_cases hb : b = newline <;> simp [hb]

theorem newlineEnds_ascending (offset : Nat) (bs : List UInt8) :
    (newlineEnds offset bs).Pairwise (· < ·) := by
  induction bs generalizing offset with
  | nil => exact .nil
  | cons b bs ih =>
    rw [newlineEnds]
    split
    · refine List.pairwise_cons.mpr ⟨fun s hs => ?_, ih (offset + 1)⟩
      obtain ⟨i, _, rfl⟩ := mem_newlineEnds.mp hs
      omega
    · exact ih (offset + 1)

/-- Line starts ascend from the first byte on. -/
theorem zero_cons_newlineEnds_ascending (bs : List UInt8) :
    (0 :: newlineEnds 0 bs).Pairwise (· < ·) := by
  refine List.pairwise_cons.mpr ⟨fun s hs => ?_, newlineEnds_ascending 0 bs⟩
  obtain ⟨i, _, rfl⟩ := mem_newlineEnds.mp hs
  omega

theorem length_newlineEnds (offset : Nat) (bs : List UInt8) :
    (newlineEnds offset bs).length = bs.count newline := by
  induction bs generalizing offset with
  | nil => rfl
  | cons b bs ih =>
    rw [newlineEnds, List.count_cons]
    by_cases hb : b = newline <;> simp [hb, ih]

/-- **The line ends up to an offset are those of the bytes before it.** -/
theorem takeWhile_newlineEnds (offset n : Nat) (bs : List UInt8) :
    (newlineEnds offset bs).takeWhile (· ≤ offset + n) = newlineEnds offset (bs.take n) := by
  induction bs generalizing offset n with
  | nil => simp [newlineEnds]
  | cons b bs ih =>
    cases n with
    | zero =>
      -- every line end lies beyond the first byte
      cases hends : newlineEnds offset (b :: bs) with
      | nil => rfl
      | cons s rest =>
        obtain ⟨i, _, hs⟩ := mem_newlineEnds.mp (hends ▸ List.mem_cons_self (a := s))
        rw [List.takeWhile_cons_of_neg (by simp; omega)]
        rfl
    | succ n =>
      have hnext := ih (offset + 1) n
      rw [Nat.add_right_comm] at hnext
      rw [List.take_succ_cons, newlineEnds, newlineEnds]
      split
      · rw [List.takeWhile_cons_of_pos (by simp), ← hnext]
        rfl
      · exact hnext

/-! ## 3. Positions -/

/-- Whether a line of a text starts at an offset: the first line does at zero, the others right after
a newline byte. -/
def StartsLine (text : String) (s : Nat) : Prop :=
  s = 0 ∨ ∃ i, (bytesOf text)[i]? = some newline ∧ s = i + 1

/-- How many newline bytes stand before an offset. -/
def newlinesBefore (text : String) (offset : Nat) : Nat := ((bytesOf text).take offset).count newline

/-- Where lines start up to an offset: at the first byte and after the newline bytes before it. -/
def startsUpTo (text : String) (offset : Nat) : List Nat :=
  0 :: newlineEnds 0 ((bytesOf text).take offset)

/-- The start of the line that an offset is in. -/
def lineStart (text : String) (offset : Nat) : Nat :=
  (startsUpTo text offset).getLastD 0

section Positions

variable (text : String) (offset : Nat)

theorem takeWhile_starts : (ofText text).starts.takeWhile (· ≤ offset) = startsUpTo text offset := by
  have hends := takeWhile_newlineEnds 0 offset (bytesOf text)
  rw [Nat.zero_add] at hends
  rw [ofText_eq, List.takeWhile_cons_of_pos (by simp), hends]
  rfl

theorem mem_startsUpTo {s : Nat} : s ∈ startsUpTo text offset ↔ StartsLine text s ∧ s ≤ offset := by
  rw [startsUpTo, List.mem_cons, mem_newlineEnds, StartsLine]
  constructor
  · rintro (rfl | ⟨i, hi, rfl⟩)
    · exact ⟨Or.inl rfl, Nat.zero_le _⟩
    · rw [List.getElem?_take] at hi
      obtain ⟨hlt, hi⟩ := Option.ite_none_right_eq_some.mp hi
      exact ⟨Or.inr ⟨i, hi, by omega⟩, by omega⟩
  · rintro ⟨rfl | ⟨i, hi, rfl⟩, hle⟩
    · exact Or.inl rfl
    · refine Or.inr ⟨i, ?_, by omega⟩
      rw [List.getElem?_take_of_lt (by omega), hi]

theorem startsUpTo_ascending : (startsUpTo text offset).Pairwise (· < ·) :=
  zero_cons_newlineEnds_ascending _

theorem starts_ascending : (ofText text).starts.Pairwise (· < ·) := by
  rw [ofText_eq]
  exact zero_cons_newlineEnds_ascending _

theorem length_startsUpTo : (startsUpTo text offset).length = newlinesBefore text offset + 1 := by
  rw [startsUpTo, List.length_cons, length_newlineEnds]
  rfl

theorem getLast?_startsUpTo : (startsUpTo text offset).getLast? = some (lineStart text offset) := by
  rw [lineStart, List.getLastD_eq_getLast?, startsUpTo, List.getLast?_cons]
  rfl

/-- **The line of an offset starts at the last line start up to it.** -/
theorem isGreatest_lineStart :
    IsGreatest {s | StartsLine text s ∧ s ≤ offset} (lineStart text offset) := by
  have hlast := getLast?_startsUpTo text offset
  refine ⟨(mem_startsUpTo text offset).mp (List.mem_of_getLast? hlast), fun s hs => ?_⟩
  obtain ⟨before, hbefore⟩ := List.getLast?_eq_some_iff.mp hlast
  have hascending := startsUpTo_ascending text offset
  have hmem := (mem_startsUpTo text offset).mpr hs
  rw [hbefore] at hascending hmem
  rcases List.mem_append.mp hmem with hmem | hmem
  · exact Nat.le_of_lt ((List.pairwise_append.mp hascending).2.2 s hmem _ List.mem_cons_self)
  · rw [List.mem_singleton.mp hmem]

theorem lineStart_le : lineStart text offset ≤ offset := (isGreatest_lineStart text offset).1.2

/-- The index has the start of the line of every offset. -/
theorem starts_newlinesBefore :
    (ofText text).starts[newlinesBefore text offset]? = some (lineStart text offset) := by
  have hprefix := List.takeWhile_prefix (l := (ofText text).starts) (· ≤ offset)
  rw [takeWhile_starts] at hprefix
  obtain ⟨rest, hrest⟩ := hprefix
  have hlength := length_startsUpTo text offset
  rw [← hrest, List.getElem?_append_left (by omega), ← getLast?_startsUpTo,
    List.getLast?_eq_getElem?, hlength, Nat.add_sub_cancel]

theorem position_ofText : (ofText text).position offset =
    (1 + newlinesBefore text offset, 1 + (offset - lineStart text offset)) := by
  rw [position, takeWhile_starts]
  show ((startsUpTo text offset).length, offset - lineStart text offset + 1) = _
  rw [length_startsUpTo, Nat.add_comm, Nat.add_comm _ 1]

end Positions

/-- A later offset is on a later line, or on the same line with the same start. -/
theorem newlinesBefore_lt_or_eq (text : String) {a b : Nat} (h : a ≤ b) :
    newlinesBefore text a < newlinesBefore text b ∨
      newlinesBefore text a = newlinesBefore text b ∧ lineStart text a = lineStart text b := by
  have hle : newlinesBefore text a ≤ newlinesBefore text b :=
    ((List.take_prefix_take_left h).sublist).count_le newline
  rcases Nat.lt_or_eq_of_le hle with hlt | heq
  · exact Or.inl hlt
  · have hstart := starts_newlinesBefore text a
    rw [heq, starts_newlinesBefore] at hstart
    exact Or.inr ⟨heq, (Option.some.inj hstart).symm⟩

/-- **Positions ascend with the offset**, by line and then by column. -/
theorem position_strictMono (text : String) :
    StrictMono fun offset => toLex ((ofText text).position offset) := by
  intro a b hab
  have hle := lineStart_le text a
  rw [Prod.Lex.toLex_lt_toLex, position_ofText, position_ofText]
  rcases newlinesBefore_lt_or_eq text (Nat.le_of_lt hab) with hline | ⟨hline, hstart⟩
  · exact Or.inl (Nat.add_lt_add_left hline 1)
  · refine Or.inr ⟨congrArg (1 + ·) hline, ?_⟩
    show 1 + (a - lineStart text a) < 1 + (b - lineStart text b)
    omega

/-- Two offsets of a file are at one place if they have one position. -/
theorem same_locate_iff (cx : Python.FactContext) (a b : Nat) :
    (cx.locate a).same (cx.locate b) = true ↔ cx.lines.position a = cx.lines.position b := by
  have hcompare : compare (cx.locate a) (cx.locate b) = .eq ↔
      compare cx.file cx.file = .eq ∧
        compare (cx.lines.position a).1 (cx.lines.position b).1 = .eq ∧
        compare (cx.lines.position a).2 (cx.lines.position b).2 = .eq :=
    compareLex_eq_eq.trans (and_congr_right fun _ => compareLex_eq_eq)
  rw [Location.same, beq_iff_eq, hcompare, and_iff_right Std.ReflOrd.compare_self,
    Nat.compare_eq_eq, Nat.compare_eq_eq, Prod.ext_iff]

/-! ## 4. Lookups -/

/-- The answer of a lookup: a value is found at a place, or is missing and belongs at one. -/
inductive Lookup where
  | found (place : Nat)
  | missing (place : Nat)

namespace Lookup

/-- Whether this is an answer for a value in an ascending list: it stands at the place where it is
found, and all before the place where it is missing is smaller and all from there on is larger. -/
def IsFor (l : List Nat) (x : Nat) : Lookup → Prop
  | found i => l[i]? = some x
  | missing i => i ≤ l.length ∧ (∀ s ∈ l.take i, s < x) ∧ ∀ s ∈ l.drop i, x < s

/-- The line of an offset that was looked up among the line starts. -/
def line : Lookup → Nat
  | found i => i + 1
  | missing i => i

/-- Past the elements up to a value an ascending list is larger. -/
theorem lt_of_mem_dropWhile {l : List Nat} (hl : l.Pairwise (· < ·)) {x s : Nat}
    (hs : s ∈ l.dropWhile (· ≤ x)) : x < s := by
  induction l with
  | nil => cases hs
  | cons a l ih =>
    obtain ⟨hfirst, hl⟩ := List.pairwise_cons.mp hl
    rw [List.dropWhile_cons] at hs
    split at hs
    · exact ih hl hs
    · rename_i ha
      have ha : x < a := by simpa using ha
      rcases List.mem_cons.mp hs with rfl | hs
      · exact ha
      · exact Nat.lt_trans ha (hfirst s hs)

/-- Every value has an answer. -/
theorem exists_isFor {l : List Nat} (hl : l.Pairwise (· < ·)) (x : Nat) :
    ∃ answer : Lookup, answer.IsFor l x := by
  by_cases hx : x ∈ l
  · obtain ⟨i, hi⟩ := List.getElem?_of_mem hx
    exact ⟨found i, hi⟩
  · have hbefore : ∀ s ∈ l.takeWhile (· ≤ x), s < x := by
      intro s hs
      have hle : s ≤ x := of_decide_eq_true (List.all_eq_true.mp List.all_takeWhile s hs)
      have hmem : s ∈ l := (List.takeWhile_prefix _).subset hs
      exact Nat.lt_of_le_of_ne hle fun e => hx (e ▸ hmem)
    have hafter : ∀ s ∈ l.dropWhile (· ≤ x), x < s := fun s hs => lt_of_mem_dropWhile hl hs
    have hcut : l.takeWhile (· ≤ x) ++ l.dropWhile (· ≤ x) = l := List.takeWhile_append_dropWhile
    generalize l.takeWhile (· ≤ x) = before at hbefore hcut
    generalize l.dropWhile (· ≤ x) = after at hafter hcut
    subst hcut
    refine ⟨missing before.length, ?_, ?_, ?_⟩
    · rw [List.length_append]
      exact Nat.le_add_right _ _
    · rw [List.take_left]
      exact hbefore
    · rw [List.drop_left]
      exact hafter

theorem takeWhile_eq_take {l : List Nat} {x n : Nat} (hbefore : ∀ s ∈ l.take n, s ≤ x)
    (hafter : ∀ s ∈ l.drop n, x < s) : l.takeWhile (· ≤ x) = l.take n := by
  have hnone : (l.drop n).takeWhile (· ≤ x) = [] := by
    cases hrest : l.drop n with
    | nil => rfl
    | cons s rest =>
      have hs := hafter s (hrest ▸ List.mem_cons_self)
      exact List.takeWhile_cons_of_neg (by simpa using hs)
  conv => lhs; rw [← List.take_append_drop n l]
  rw [List.takeWhile_append_of_pos (by simpa using hbefore), hnone, List.append_nil]

/-- The elements up to a value are as many as its line. -/
theorem IsFor.takeWhile_eq {l : List Nat} (hl : l.Pairwise (· < ·)) {x : Nat} {answer : Lookup}
    (h : answer.IsFor l x) :
    answer.line ≤ l.length ∧ l.takeWhile (· ≤ x) = l.take answer.line := by
  cases answer with
  | found i =>
    obtain ⟨hi, hx⟩ := List.getElem?_eq_some_iff.mp h
    have hsplit : l.take (i + 1) = l.take i ++ [x] := by rw [List.take_succ_eq_append_getElem hi, hx]
    rw [← List.take_append_drop (i + 1) l, hsplit, List.append_assoc, List.pairwise_append] at hl
    obtain ⟨_, hlater, hearlier⟩ := hl
    have hbefore : ∀ s ∈ l.take (i + 1), s ≤ x := by
      intro s hs
      rw [hsplit] at hs
      rcases List.mem_append.mp hs with hs | hs
      · exact Nat.le_of_lt (hearlier s hs x List.mem_cons_self)
      · exact Nat.le_of_eq (List.mem_singleton.mp hs)
    exact ⟨hi, takeWhile_eq_take hbefore (List.pairwise_cons.mp hlater).1⟩
  | missing i =>
    obtain ⟨hle, hbefore, hafter⟩ := h
    exact ⟨hle, takeWhile_eq_take (fun s hs => Nat.le_of_lt (hbefore s hs)) hafter⟩

/-- **A lookup gives the line of an offset**, whether it hits or misses. -/
theorem line_eq {text : String} {offset : Nat} {answer : Lookup}
    (h : answer.IsFor (ofText text).starts offset) : answer.line = newlinesBefore text offset + 1 := by
  obtain ⟨hle, htake⟩ := h.takeWhile_eq (starts_ascending text)
  rw [takeWhile_starts] at htake
  rw [← length_startsUpTo, htake, List.length_take, Nat.min_eq_left hle]

end Lookup

/-! ## 5. Exact positions -/

/-- **Positions are exact and distinct.** In every text and for every offset, also past the end, the
line is one more than the number of newline bytes before the offset. The column is one more than the
distance from the last line start up to the offset; the index has it, so the difference never falls
below zero. Positions ascend strictly with the offset, so two offsets of a file are at one place only
if they are equal. Whatever answers a lookup of the offset among the line starts gives this position: a
hit by the line that it starts, a miss by the line before it. -/
theorem positions_exact (text : String) :
    (∀ offset, ∃ start, IsGreatest {s | StartsLine text s ∧ s ≤ offset} start ∧
      (ofText text).starts[newlinesBefore text offset]? = some start ∧
      (ofText text).position offset =
        (1 + newlinesBefore text offset, 1 + (offset - start))) ∧
    (StrictMono fun offset => toLex ((ofText text).position offset)) ∧
    (∀ (registry : Registry) (file : Path) (a b : Nat),
      ((Python.FactContext.mk registry file (ofText text)).locate a).same
        ((Python.FactContext.mk registry file (ofText text)).locate b) = true ↔ a = b) ∧
    ∀ offset, (∃ answer : Lookup, answer.IsFor (ofText text).starts offset) ∧
      ∀ answer : Lookup, answer.IsFor (ofText text).starts offset →
        0 < answer.line ∧ ∃ start ≤ offset, (ofText text).starts[answer.line - 1]? = some start ∧
          (ofText text).position offset = (answer.line, offset - start + 1) := by
  refine ⟨fun offset => ⟨lineStart text offset, isGreatest_lineStart text offset,
    starts_newlinesBefore text offset, position_ofText text offset⟩, position_strictMono text, ?_, ?_⟩
  · intro registry file a b
    rw [same_locate_iff]
    exact (position_strictMono text).injective.eq_iff (a := a) (b := b)
  · intro offset
    refine ⟨Lookup.exists_isFor (starts_ascending text) offset, fun answer hanswer => ?_⟩
    have hline := Lookup.line_eq hanswer
    refine ⟨by omega, lineStart text offset, lineStart_le text offset, ?_, ?_⟩
    · rw [hline, Nat.add_sub_cancel]
      exact starts_newlinesBefore text offset
    · rw [position_ofText, hline, Nat.add_comm 1, Nat.add_comm 1]

example : [0, 2, 3, 4, 9].map (ofText "é\n\nx").position =
    [(1, 1), (1, 3), (2, 1), (3, 1), (3, 6)] := by decide

end TaintFlow.LineIndex
