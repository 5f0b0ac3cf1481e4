import TaintFlow.Python.Grammar.Statements
import TaintFlow.Python.Lexer

/-!
# Reading a module
-/

namespace TaintFlow.Python

/-- Reads a source text as a Python module. -/
def Module.parse (source : String) : Except SyntaxError Module := do
  let tokens ← tokenize source
  let body ← Grammar.moduleBody tokens
  return { source, body }

end TaintFlow.Python
