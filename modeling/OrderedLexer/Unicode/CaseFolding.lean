import OrderedLexer.Unicode.CharSet
import OrderedLexer.Unicode.Tables.CaseFolding

/-!
# Sets closed under simple case folding

* `foldCase` adds to a set every character that folds to the same as one of its members.
* `foldAsciiCase` does so for the ASCII letters alone.
-/

namespace OrderedLexer.Unicode

/-- The code point that upper-case hexadecimal digits write. -/
def hexNumber (cs : List Char) : Nat := cs.foldl (fun n c => n * 16 + CharSet.hexDigit c) 0

/-- The classes of code points that fold to the same. -/
def caseClasses : List (List Nat) :=
  let classes := (caseFoldingTable.splitOn "\n").flatMap (·.splitOn " ")
  (classes.filter (!·.isEmpty)).map fun cls => (cls.splitOn ",").map fun n => hexNumber n.toList

/-- Each character that has case variants, with the class it is in, in ascending order. -/
def caseTable : List (Nat × List Nat) :=
  (caseClasses.flatMap fun cls => cls.map (·, cls)).mergeSort fun a b => a.1 ≤ b.1

/-- Whether a character has case variants. -/
def hasCaseVariants (c : Char) : Bool := caseTable.any (·.1 = c.toNat)

/-- The set with all case variants of its characters. -/
def foldCase (s : CharSet) : CharSet :=
  s.union ⟨caseTable.filterMap fun (n, cls) =>
    if cls.any (CharSet.covers s.ranges) then some (n, n) else none⟩

/-- The upper-case and the lower-case ASCII letters as code points. -/
def asciiCasePairs : List (Nat × Nat) := (List.range 26).map fun k => (0x41 + k, 0x61 + k)

/-- The set with the other case of its ASCII letters. -/
def foldAsciiCase (s : CharSet) : CharSet :=
  s.union (CharSet.ofRanges (asciiCasePairs.flatMap fun (upper, lower) =>
    (if CharSet.covers s.ranges lower then [(upper, upper)] else []) ++
      if CharSet.covers s.ranges upper then [(lower, lower)] else []))

end OrderedLexer.Unicode
