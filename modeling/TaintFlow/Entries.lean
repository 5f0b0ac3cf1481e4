/-!
# Named entries

Lists of named values in the order in which the names came up.
-/

namespace TaintFlow

/-- Entries with one of them set; a new name comes last. -/
def setEntry {α : Type} (name : String) (value : α) : List (String × α) → List (String × α)
  | [] => [(name, value)]
  | (n, present) :: rest =>
    if n = name then (n, value) :: rest else (n, present) :: setEntry name value rest

end TaintFlow
