import OrderedLexer.Regex.Expr.OfTree
import OrderedLexer.Regex.Expr.Weight
import OrderedLexer.Regex.Program
import OrderedLexer.Regex.Tree.Reader

/-!
# Compiled patterns

`Regex.compile` compiles the text of a pattern, `Regex.matchLength?` matches it at the start of a
text. What stands before that text plays no part: its start is where `^` holds.
-/

namespace OrderedLexer

/-- A compiled pattern. -/
structure Regex where
  program : Regex.Program
deriving DecidableEq

namespace Regex

/-- Compile a pattern. -/
def compile (pattern : String) : Except Fault Regex := do
  let e ← Expr.ofTree (← Tree.read pattern.toList)
  if e.fits then return ⟨Program.ofExpr e⟩ else throw .tooBig

/-- The number of characters of the preferred match at the start of a text. -/
def matchLength? (r : Regex) (text : List Char) : Option Nat := r.program.matchLength? text

end Regex
end OrderedLexer
