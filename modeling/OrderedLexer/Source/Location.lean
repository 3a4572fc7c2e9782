import OrderedLexer.Text.Bytes

/-!
# Locations

* `Place` is a line and a column, both from 0; columns count characters.
* `LineIndex.place` finds the place of a byte position by binary search over the line feeds. A
  position behind the end counts as the end; inside a character the column counts bytes.
* `Location` is a span of a named text.
-/

namespace OrderedLexer

/-- A line and a column. -/
structure Place where
  line : Nat
  column : Nat
deriving DecidableEq

/-- A span of a named text, from its first place to the place behind it. -/
structure Location where
  file : String
  start : Place
  stop : Place
deriving DecidableEq

/-- The location in words. Lines are told from 1. -/
def Location.display (l : Location) : String :=
  let startLine := l.start.line + 1
  let stopLine := l.stop.line + 1
  let span :=
    if l.start = l.stop then s!"at character {l.start.column} of line {startLine}"
    else if l.start.line = l.stop.line then
      s!"at characters {l.start.column}-{l.stop.column} of line {startLine}"
    else s!"from character {l.start.column} of line {startLine} " ++
      s!"to character {l.stop.column} of line {stopLine}"
  s!"in file {l.file}, {span}"

/-- A named text with the positions of its line feeds. -/
structure LineIndex where
  file : String
  text : List Char
  lineFeeds : Array Nat

namespace LineIndex

/-- The byte positions of the line feeds of a text that starts at position `pos`. -/
def lineFeedsFrom (pos : Nat) : List Char → List Nat
  | [] => []
  | c :: cs =>
    let rest := lineFeedsFrom (pos + c.utf8Size) cs
    if c = '\n' then pos :: rest else rest

def ofText (file : String) (text : List Char) : LineIndex :=
  ⟨file, text, (lineFeedsFrom 0 text).toArray⟩

/-- The number of entries below `x` in an ascending array, searched between `lo` and `hi`. -/
def lowerBound (a : Array Nat) (x lo hi : Nat) : Nat :=
  if lo < hi then
    let mid := (lo + hi) / 2
    if a.getD mid 0 < x then lowerBound a x (mid + 1) hi else lowerBound a x lo mid
  else lo
termination_by hi - lo

/-- The place of a byte position. -/
def place (ix : LineIndex) (pos : Nat) : Place :=
  let pos := min pos (Text.byteLength ix.text)
  let line := lowerBound ix.lineFeeds pos 0 ix.lineFeeds.size
  let lineStart := if line = 0 then 0 else ix.lineFeeds.getD (line - 1) 0 + 1
  let column := (Text.dropBytes? lineStart ix.text).bind (Text.charCount? (pos - lineStart))
  ⟨line, column.getD (pos - lineStart)⟩

/-- The location between two byte positions. -/
def span (ix : LineIndex) (start stop : Nat) : Location :=
  ⟨ix.file, ix.place start, ix.place stop⟩

/-- The empty location at a byte position. -/
def point (ix : LineIndex) (pos : Nat) : Location := ix.span pos pos

end LineIndex
end OrderedLexer
