import TaintFlow.Text

/-!
# JSON values

Numbers are kept as written, so that whole numbers and decimals stay apart and nothing is rounded.
Objects keep their members in order.
-/

namespace TaintFlow

/-- A JSON value. -/
inductive Json where
  | null
  | bool (value : Bool)
  | number (numeral : String)
  | string (value : String)
  | array (elements : List Json)
  | object (members : List (String × Json))
  deriving Repr, Inhabited

namespace Json

/-- A natural number. -/
def nat (n : Nat) : Json := number (toString n)

/-- A value or null. -/
def ofOption {α : Type} (f : α → Json) : Option α → Json
  | none => null
  | some a => f a

/-- A list of values. -/
def ofList {α : Type} (f : α → Json) (xs : List α) : Json := array (xs.map f)

/-- A list of strings. -/
def strings (xs : List String) : Json := ofList string xs

def isNull : Json → Bool
  | null => true
  | _ => false

/-- The member of an object; of several with one key, the last. -/
def member? (key : String) : Json → Option Json
  | object members => (members.reverse.find? fun m => m.1 == key).map (·.2)
  | _ => none

/-- The member of an object unless it is null. -/
def given? (key : String) (j : Json) : Option Json :=
  match j.member? key with
  | none | some null => none
  | some v => some v

def string? : Json → Option String
  | string s => some s
  | _ => none

def bool? : Json → Option Bool
  | bool b => some b
  | _ => none

def array? : Json → Option (List Json)
  | array xs => some xs
  | _ => none

def members? : Json → Option (List (String × Json))
  | object ms => some ms
  | _ => none

/-- The first whole number that is out of range. -/
def natLimit : Nat := Nat.pow 2 64

/-- The value of decimal digits. -/
def digitsValue (digits : List Char) : Nat := digits.foldl (fun n c => n * 10 + (c.toNat - 48)) 0

/-- A whole number in range, written without sign, fraction or exponent. -/
def nat? : Json → Option Nat
  | number numeral =>
    let cs := numeral.toList
    if cs.isEmpty || !cs.all Char.isDigit then none
    else
      let n := digitsValue cs
      if n < natLimit then some n else none
  | _ => none

/-- A required member, decoded. -/
def field? {α : Type} (j : Json) (key : String) (decode : Json → Option α) : Option α :=
  (j.member? key).bind decode

/-- An optional member, decoded: absent and null are the same, and a member that cannot be decoded
is an error. -/
def optional? {α : Type} (j : Json) (key : String) (decode : Json → Option α) : Option (Option α) :=
  match j.given? key with
  | none => some none
  | some v => (decode v).map some

/-- An optional member with a value for its absence. -/
def fieldD? {α : Type} (j : Json) (key : String) (decode : Json → Option α) (absent : α) :
    Option α :=
  (j.optional? key decode).map (·.getD absent)

/-- A list, decoded. -/
def listOf? {α : Type} (decode : Json → Option α) (j : Json) : Option (List α) :=
  j.array?.bind fun xs => xs.mapM decode

/-- Puts a value at a path of keys and indices, where there is a value already. -/
def replaceAt? : (path : List String) → (value : Json) → Json → Option Json
  | [], value, _ => some value
  | key :: path, value, object members => do
    let old ← (object members).member? key
    let new ← replaceAt? path value old
    return object (members.map fun m => if m.1 == key then (m.1, new) else m)
  | key :: path, value, array elements => do
    let index ← (number key).nat?
    let old ← elements[index]?
    let new ← replaceAt? path value old
    return array (elements.set index new)
  | _ :: _, _, _ => none

end Json

end TaintFlow
