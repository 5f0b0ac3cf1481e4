import TaintFlow.Text
import TaintFlow.Text.CharClass
import TaintFlow.Text.CharacterName.Aliases
import TaintFlow.Text.CharacterName.Alphabets
import TaintFlow.Text.CharacterName.Historic
import TaintFlow.Text.CharacterName.Pictures
import TaintFlow.Text.CharacterName.Symbols
import TaintFlow.Text.CharacterName.Words

/-!
# Names of characters

The character that a name belongs to. Case, spaces, underscores and hyphens inside a word do not
count, so a name is compared in its bare form. Most names stand in tables; those of Korean syllables
and of ideographs are made by a rule.
-/

namespace TaintFlow.CharacterName

/-! ## 1. Bare names -/

/-- Blanks and underscores, which never count. -/
def isGap (c : Char) : Bool := c = ' ' || c = '_' || c = '\n' || c = '\t' || c = '\r' || c = '\x0c'

/-- A name without what does not count, in capitals. `before` is the character that stands before:
only a hyphen between two letters or digits is left out. -/
def bareAfter (before : Option Char) : List Char → List Char
  | [] => []
  | c :: cs =>
    let rest := bareAfter (some c) cs
    if isGap c || (c = '-' && before.any Char.isAlphanum && cs.head?.any Char.isAlphanum) then rest
    else c.toUpper :: rest

/-- The bare form of a name. -/
def bare (name : List Char) : List Char := bareAfter none name

/-- Two Korean vowels have names that differ by a hyphen alone; this tells whether a name is that of
the one with the hyphen. -/
def isHyphenatedVowel (name : List Char) : Bool :=
  bare name = "HANGULJUNGSEONGOE".toList && (name.filter (!isGap ·)).reverse[1]? = some '-'

/-! ## 2. Names by rule -/

/-- The longest of some spellings that the text starts with: its place among them and what follows. -/
def longest? (spellings : List String) (cs : List Char) : Option (Nat × List Char) :=
  let found := spellings.zipIdx.filter fun (s, _) => s.toList.isPrefixOf cs
  let best := found.foldl (fun (b : Option (String × Nat)) s =>
    if b.any fun b => s.1.length < b.1.length then b else some s) none
  best.map fun (s, i) => (i, cs.drop s.length)

/-- The spellings of the first consonant of a Korean syllable. -/
def initials : List String :=
  ["G", "GG", "N", "D", "DD", "R", "M", "B", "BB", "S", "SS", "", "J", "JJ", "C", "K", "T", "P", "H"]

/-- The spellings of its vowel. -/
def vowels : List String :=
  ["A", "AE", "YA", "YAE", "EO", "E", "YEO", "YE", "O", "WA", "WAE", "OE", "YO", "U", "WEO", "WE",
   "WI", "YU", "EU", "YI", "I"]

/-- The spellings of its last consonants. -/
def finals : List String :=
  ["", "G", "GG", "GS", "N", "NJ", "NH", "D", "L", "LG", "LM", "LB", "LS", "LT", "LP", "LH", "M", "B",
   "BS", "S", "SS", "NG", "J", "C", "K", "T", "P", "H"]

/-- The Korean syllable of a spelling. -/
def syllable? (spelling : List Char) : Option Char := do
  let (initial, cs) ← longest? initials spelling
  let (vowel, cs) ← longest? vowels cs
  let (final, cs) ← longest? finals cs
  if cs.isEmpty then some (Char.ofNat (0xAC00 + (initial * 21 + vowel) * 28 + final)) else none

/-- The unified ideographs. -/
def ideographRanges : CharClass.Ranges :=
  [(0x3400, 0x4DBF), (0x4E00, 0x9FFF), (0x20000, 0x2A6DF), (0x2A700, 0x2B739), (0x2B740, 0x2B81D),
   (0x2B820, 0x2CEA1), (0x2CEB0, 0x2EBE0), (0x2EBF0, 0x2EE5D), (0x30000, 0x3134A),
   (0x31350, 0x323AF)]

/-- The unified ideograph of a number of at most five digits. -/
def ideograph? (digits : List Char) : Option Char := do
  let n ← Text.hexNumber? digits
  if digits.length ≤ 5 && CharClass.inRanges ideographRanges n then some (Char.ofNat n) else none

/-- Characters named by a word for their kind and their number. -/
def numberedKinds : List (String × CharClass.Ranges) :=
  [("CJKCOMPATIBILITYIDEOGRAPH", [(0xF900, 0xFA6D), (0xFA70, 0xFAD9), (0x2F800, 0x2FA1D)]),
   ("EGYPTIANHIEROGLYPH", [(0x13460, 0x143FA)]),
   ("KHITANSMALLSCRIPTCHARACTER", [(0x18B00, 0x18CD5), (0x18CFF, 0x18CFF)]),
   ("NUSHUCHARACTER", [(0x1B170, 0x1B2FB)])]

/-- The character of a kind and a number without leading zeros. -/
def numbered? (name : List Char) : Option Char :=
  numberedKinds.findSome? fun (kind, ranges) => do
    let digits ← kind.toList.isPrefixOf? name
    let n ← Text.hexNumber? digits
    if CharClass.inRanges ranges n && digits.head? ≠ some '0' then some (Char.ofNat n) else none

/-! ## 3. Names in tables -/

/-- An entry of a table of names. -/
inductive Entry where
  /-- The entry after this one names the character of this number. -/
  | place (code : Nat)
  /-- A name: how many words it shares with the name before, and its other words. -/
  | name (shared : Nat) (words : List (List Char))
  deriving Repr

/-- The entry that a text writes. -/
def Entry.ofText (text : String) : Entry :=
  match text.toList with
  | '=' :: digits => .place ((Text.hexNumber? digits).getD 0)
  | shared :: words =>
    .name (shared.toNat - '0'.toNat)
      (if words.isEmpty then [] else (Text.splitChars ' ' words).map wordOf)
  | [] => .name 0 []

/-- What is left of a wanted name behind each word of a name: the whole of it at the end of the list,
and at its head what is left behind the last word. A word that differs leaves nothing to go on
with. -/
def leftBehind (left : List (Option (List Char))) (words : List (List Char)) :
    List (Option (List Char)) :=
  words.foldl (fun left word => (left.head?.join.bind (bare word).isPrefixOf?) :: left) left

/-- Looks for a bare name. The words that a name shares with the one before it have been compared
already. -/
def search : (entries : List Entry) → (code : Nat) → (left : List (Option (List Char))) → Option Nat
  | [], _, _ => none
  | .place code :: rest, _, left => search rest code left
  | .name shared words :: rest, code, left =>
    let left := leftBehind (left.drop (left.length - (shared + 1))) words
    if left.head? = some (some []) then some code else search rest (code + 1) left

/-- All tables, each a list of lines. -/
def tables : List (List String) :=
  [europeanNames, indicNames, asianNames, islandNames, signNames, shapeNames, kanaNames,
   syllableNames, formNames, ancientNames, brahmicNames, cuneiformNames, largeScriptNames,
   notationNames, mathematicalNames, laterNames, pictureNames, otherNames]

/-- Looks for a bare name in a table. -/
def inTable? (name : List Char) (lines : List String) : Option Char :=
  (search ((lines.flatMap (Text.split ',')).map Entry.ofText) 0 [some name]).map Char.ofNat

/-! ## 4. Looking up -/

/-- The character with this name. -/
def find? (name : String) : Option Char :=
  let wanted := bare name.toList
  if isHyphenatedVowel name.toList then some (Char.ofNat 0x1180)
  else if let some spelling := "HANGULSYLLABLE".toList.isPrefixOf? wanted then syllable? spelling
  else if let some digits := "CJKUNIFIEDIDEOGRAPH".toList.isPrefixOf? wanted then ideograph? digits
  else (numbered? wanted).orElse fun _ => tables.findSome? (inTable? wanted)

end TaintFlow.CharacterName
