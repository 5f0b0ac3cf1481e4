import TaintFlow.Entries

/-!
# TOML documents

The values of the configuration language. A document is a table that statements build up: a header
opens a table or adds one to a list of tables, and an entry sets a value under a dotted key. Every
table remembers how it came to be, because that decides who may still add to it: a header may open
a table once, a dotted key adds only to tables that dotted keys made, and nobody adds to a table
written inline.
-/

namespace TaintFlow

/-- How a table came to be. -/
inductive TableOrigin where
  /-- Its own header, or it is the document. -/
  | header
  /-- A longer header passed through it. -/
  | implied
  /-- A dotted key passed through it. -/
  | dotted
  /-- It is written in braces. -/
  | inline
  deriving DecidableEq, Repr, Inhabited

/-- A value. Numbers with a point, dates and times keep no content: no setting has one. -/
inductive Toml where
  | string (text : String)
  | integer (value : Int)
  | float
  | boolean (value : Bool)
  | moment
  | array (items : List Toml)
  /-- The tables of one list header, in order. -/
  | tables (items : List Toml)
  | table (origin : TableOrigin) (entries : List (String × Toml))
  deriving Repr, Inhabited

namespace Toml

/-- A part of a document. -/
inductive Statement where
  | header (path : List String) (key : String)
  | listHeader (path : List String) (key : String)
  | entry (path : List String) (key : String) (value : Toml)
  deriving Repr, Inhabited

/-- Changes the table that keys lead to. Tables that are missing on the way are made; a list of
tables leads to its last. -/
def descend (byKey : Bool) (change : Toml → Option Toml) : List String → Toml → Option Toml
  | [], t => change t
  | key :: rest, table origin entries => do
    let value ←
      match entries.lookup key with
      | none => descend byKey change rest (table (if byKey then .dotted else .implied) [])
      | some (tables items) => do
        let last ← descend byKey change rest (← items.getLast?)
        some (tables (items.dropLast ++ [last]))
      | some (table .inline _) => none
      | some (table .header inner) =>
        if byKey then none else descend byKey change rest (table .header inner)
      | some (table origin inner) => descend byKey change rest (table origin inner)
      | some _ => none
    return table origin (setEntry key value entries)
  | _ :: _, _ => none

/-- Sets a value under a dotted key. A key is set once, and the last table on the way has to be one
that dotted keys made, unless the key has one part. -/
def addEntry (path : List String) (key : String) (value : Toml) (t : Toml) : Option Toml :=
  descend true (fun
    | table origin entries =>
      if (origin == .dotted) == path.isEmpty || (entries.lookup key).isSome then none
      else some (table origin (entries ++ [(key, value)]))
    | _ => none) path t

/-- Opens the table of a header. -/
def openTable (path : List String) (key : String) (t : Toml) : Option Toml :=
  descend false (fun
    | table origin entries =>
      match entries.lookup key with
      | none => some (table origin (entries ++ [(key, table .header [])]))
      | some (table .implied inner) =>
        some (table origin (setEntry key (table .header inner) entries))
      | some _ => none
    | _ => none) path t

/-- Adds a table to the list of a header. -/
def addTable (path : List String) (key : String) (t : Toml) : Option Toml :=
  descend false (fun
    | table origin entries =>
      match entries.lookup key with
      | none => some (table origin (entries ++ [(key, tables [table .header []])]))
      | some (tables items) =>
        some (table origin (setEntry key (tables (items ++ [table .header []])) entries))
      | some _ => none
    | _ => none) path t

/-- Carries out a statement, given the table that the last header opened. -/
def apply (opened : List String) (t : Toml) : Statement → Option (List String × Toml)
  | .header path key => (openTable path key t).map (path ++ [key], ·)
  | .listHeader path key => (addTable path key t).map (path ++ [key], ·)
  | .entry path key value => (descend false (addEntry path key value) opened t).map (opened, ·)

/-- The document of statements. -/
def build? (statements : List Statement) : Option Toml :=
  (statements.foldlM (fun (opened, t) s => apply opened t s)
    (([] : List String), table .header [])).map Prod.snd

/-- The table written in braces with given entries. -/
def inlineTable? (entries : List (List String × String × Toml)) : Option Toml := do
  let t ← entries.foldlM (fun t (path, key, value) => addEntry path key value t) (table .header [])
  match t with
  | table _ entries => some (table .inline entries)
  | _ => none

/-! ## Reading values -/

/-- The entries of a table. -/
def entries? : Toml → Option (List (String × Toml))
  | table _ entries => some entries
  | _ => none

/-- The items of an array or a list of tables. -/
def items? : Toml → Option (List Toml)
  | array items => some items
  | tables items => some items
  | _ => none

/-- The name of the one entry of a date that is read as a table. No setting has it. -/
def momentKey : String := "date"

/-- The entries of a record: those of a table, or the items of an array in the order of the names.
Of the names the first `required` have to be there, and items past the last name say nothing. A
date is a record of one entry. -/
def fields? (names : List String) (required : Nat) : Toml → Option (List (String × Toml))
  | array items | tables items =>
    if required ≤ items.length then some (names.zip items) else none
  | table _ entries => some entries
  | moment => some [(momentKey, moment)]
  | _ => none

/-- A text. -/
def string? : Toml → Option String
  | string text => some text
  | _ => none

/-- A number that fits 64 bits. -/
def nat? : Toml → Option Nat
  | integer value => if 0 ≤ value ∧ value < Nat.pow 2 64 then some value.toNat else none
  | _ => none

/-- A list of texts. -/
def strings? (t : Toml) : Option (List String) := do (← t.items?).mapM string?

/-- A word for one of some cases: the word itself, or a table whose one key is the word and whose
value is empty. -/
def word? : Toml → Option String
  | string text => some text
  | table _ [(key, table _ [])] => some key
  | table _ [(key, array [])] => some key
  | _ => none

end Toml

end TaintFlow
