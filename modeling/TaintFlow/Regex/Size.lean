import TaintFlow.Regex.Syntax

/-!
# How large an expression is

An expression is carried out by a program over bytes that has one state for each byte to read and
one for each branch. A repetition with a count writes its content out as often as the count says, so
a short expression can have a large program. There are two programs, one that reads forwards and one
that reads backwards, and an expression is refused if either passes `Footprint.limit` bytes.
-/

namespace TaintFlow

/-! ## 1. Byte sequences -/

/-- Ranges of bytes that are read one after the other. -/
abbrev ByteRanges := List (Nat × Nat)

namespace ByteRanges

/-- The bytes of a code point. -/
def bytesOf (n : Nat) : List Nat :=
  if n < 0x80 then [n]
  else if n < 0x800 then [0xC0 + n / 64, 0x80 + n % 64]
  else if n < 0x10000 then [0xE0 + n / 4096, 0x80 + n / 64 % 64, 0x80 + n % 64]
  else [0xF0 + n / 262144, 0x80 + n / 4096 % 64, 0x80 + n / 64 % 64, 0x80 + n % 64]

/-- The first place at which a range has to be cut so that its parts are rectangles of bytes: at
the surrogates, where the number of bytes changes, or where a later byte does not run from its first
to its last value. The second part starts at the place, and the first part ends `skip` before it. -/
def cut? (lo hi : Nat) : Option (Nat × Nat) :=
  let atLength := [0x7F, 0x7FF, 0xFFFF].find? fun m => lo ≤ m && m < hi
  let atBlock := [64, 4096, 262144].findSome? fun b =>
    if hi < 0x80 || lo / b == hi / b then none
    else if lo % b ≠ 0 then some ((lo / b + 1) * b)
    else if hi % b ≠ b - 1 then some (hi / b * b)
    else none
  if lo < 0xE000 && 0xD7FF < hi then some (0xE000, 0x801)
  else match atLength with
    | some m => some (m + 1, 1)
    | none => atBlock.map (·, 1)

/-- The sequences of byte ranges that make up a range of code points, in ascending order. Each cut
leaves fewer byte positions uneven; no range needs more than `fuel` cuts in a row. -/
def ofRange : (fuel : Nat) → (lo hi : Nat) → List ByteRanges
  | 0, _, _ => []
  | fuel + 1, lo, hi =>
    if hi < lo then []
    else match cut? lo hi with
      | some (mid, skip) => ofRange fuel lo (mid - skip) ++ ofRange fuel mid hi
      | none => [(bytesOf lo).zip (bytesOf hi)]

/-- The sequences of a set. -/
def ofSet (ranges : CharClass.Ranges) : List ByteRanges :=
  ranges.flatMap fun (lo, hi) => ofRange 32 lo hi

/-- How many places at their start two sequences share. -/
def shared : ByteRanges → ByteRanges → Nat
  | a :: as, b :: bs => if a = b then shared as bs + 1 else 0
  | _, _ => 0

/-- The number of different starts that ascending sequences have. -/
def starts : ByteRanges → List ByteRanges → Nat
  | _, [] => 0
  | before, s :: rest => s.length - shared before s + starts s rest

end ByteRanges

/-! ## 2. Sharing of ends -/

/-- The choices of a state that reads one byte: for each range of bytes the number of the state that
follows. State `0` is the end. -/
abbrev Choices := List (Nat × Nat × Nat)

namespace Choices

/-- Sequences put together by their first range; those with one first range stand together. -/
def byFirst : List ByteRanges → List ((Nat × Nat) × List ByteRanges)
  | [] => []
  | [] :: rest => byFirst rest
  | (r :: later) :: rest =>
    match byFirst rest with
    | (s, group) :: groups =>
      if r = s then (r, later :: group) :: groups else (r, [later]) :: (s, group) :: groups
    | [] => [(r, [later])]

/-- Adds the states that read some sequences to those there are, the newest first, and gives the
number of the first of them. A state with the same choices as one that is there is not added. The
fuel bounds the length of the sequences. -/
def share : (fuel : Nat) → List Choices → List ByteRanges → Nat × List Choices
  | 0, states, _ => (0, states)
  | fuel + 1, states, seqs =>
    match byFirst seqs with
    | [] => (0, states)
    | groups =>
      let (choices, states) := groups.foldl (fun (choices, states) ((lo, hi), later) =>
        let (next, states) := share fuel states later
        ((lo, hi, next) :: choices, states)) ([], states)
      match states.idxOf? choices with
      | some i => (states.length - i, states)
      | none => (states.length + 1, choices :: states)

end Choices

/-! ## 3. Programs -/

/-- The bytes that the two programs of an expression take. -/
structure Footprint where
  forward : Nat
  backward : Nat
  deriving DecidableEq, Repr, Inhabited

namespace Footprint

/-- The bytes of a state; a choice of a byte range takes eight more, and a branch four. -/
def state : Nat := 32

/-- The largest program. -/
def limit : Nat := 10 * 1024 * 1024

/-- The same number of bytes in both programs. -/
def both (n : Nat) : Footprint := ⟨n, n⟩

def add (a b : Footprint) : Footprint := ⟨a.forward + b.forward, a.backward + b.backward⟩

def scale (n : Nat) (a : Footprint) : Footprint := ⟨n * a.forward, n * a.backward⟩

/-- The programs that read one character of a set. Forwards, states with the same choices are one;
backwards, only the states for the same first bytes are. -/
def ofSet (set : CharSet) : Footprint :=
  let ranges := set.ranges
  let seqs := ByteRanges.ofSet ranges
  match ranges with
  | [] => both state
  | [(lo, hi)] =>
    if lo = hi then both (state * (ByteRanges.bytesOf lo).length) else general ranges seqs
  | _ => general ranges seqs
where
  /-- A set of more than one character. -/
  general (ranges : CharClass.Ranges) (seqs : List ByteRanges) : Footprint :=
    if ranges.all fun r => r.2 < 0x80 then both (2 * state + 8 * ranges.length)
    else
      let states := (Choices.share 5 [] seqs).2
      ⟨states.foldl (fun n choices => n + state + 8 * choices.length) state,
        2 * state + state * ByteRanges.starts [] seqs + 4 * seqs.length⟩

end Footprint

namespace Regex

/-- Whether an expression matches nothing but the empty text. -/
def onlyEmpty : Regex → Bool
  | empty | anchor _ => true
  | chars _ => false
  | seq a b | alt a b => a.onlyEmpty && b.onlyEmpty
  | times r _ hi => r.onlyEmpty || hi == some 0
  | group r => r.onlyEmpty

/-- Whether an expression can match the empty text, as far as its shape says. -/
def canBeEmpty : Regex → Bool
  | empty | anchor _ => true
  | chars _ => false
  | seq a b => a.canBeEmpty && b.canBeEmpty
  | alt a b => a.canBeEmpty || b.canBeEmpty
  | times r lo _ => lo == 0 || r.canBeEmpty
  | group r => r.canBeEmpty

/-- The set of an expression that reads one character, also as a choice between such. -/
def asSet? : Regex → Option CharSet
  | chars set => some set
  | alt a b =>
    match a.asSet?, b.asSet? with
    | some a, some b => some (.union a b)
    | _, _ => none
  | _ => none

/-- The programs of a repetition, given those of what is repeated. -/
def repetitionFootprint (r : Regex) (lo : Nat) (hi : Option Nat) (one : Footprint) : Footprint :=
  let (lo, hi) := if r.onlyEmpty then (min lo 1, some (min (hi.getD 1) 1)) else (lo, hi)
  let branch := Footprint.state + 8
  match lo, hi with
  | 0, some 0 => .both Footprint.state
  | 1, some 1 => one
  | 0, some 1 => one.add (.both (branch + Footprint.state))
  | 0, none =>
    one.add (.both (if r.canBeEmpty then 2 * branch + Footprint.state else branch))
  | lo, none => (one.scale lo).add (.both branch)
  | lo, some hi =>
    if lo = hi then one.scale lo
    else (one.scale hi).add (.both (Footprint.state + (hi - lo) * branch))

/-- The programs of an expression. -/
def footprint : Regex → Footprint
  | empty | anchor _ => .both Footprint.state
  | chars set => .ofSet set
  | seq a b => a.footprint.add b.footprint
  | alt a b =>
    match (alt a b).asSet? with
    | some set => .ofSet set
    | none =>
      let join := match b with
        | alt _ _ => 0
        | _ => 2 * Footprint.state + 4
      (a.footprint.add b.footprint).add (.both (join + 4))
  | times r lo hi => repetitionFootprint r lo hi r.footprint
  | group r => r.footprint.add ⟨2 * Footprint.state, 0⟩

/-- Whether both programs of an expression are small enough. Around the expression there are a few
more states. -/
def fits (r : Regex) : Bool :=
  let all := r.footprint.add ⟨208, 144⟩
  all.forward ≤ Footprint.limit && all.backward ≤ Footprint.limit

end Regex

end TaintFlow
