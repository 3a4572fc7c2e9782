/-!
# Paths

A path is a text. Its parts stand between slashes; empty parts and parts that are a single point
count for nothing, but for a point at the very start.

* `fileName?` is the last part, unless the path ends in two points or has no part.
* `extension?` is what follows the last point of the file name; a point at its start does not count.
* `withExtension?` puts another extension in its place; no extension has a slash.
-/

namespace OrderedLexer.Disk.Path

/-- The part after the last slash of a reversed path, which does not start with a slash,
    reversed. -/
def lastPart (reversed : List Char) : List Char := reversed.takeWhile (· ≠ '/')

/-- A reversed path without the slashes and the points between slashes at its end. -/
def trimEnd : List Char → List Char
  | '/' :: cs => trimEnd cs
  | '.' :: '/' :: cs => trimEnd cs
  | cs => cs

/-- The file name of a path, with the path up to its end. -/
def fileName? (path : String) : Option (List Char × List Char) :=
  let trimmed := trimEnd path.toList.reverse
  let name := (lastPart trimmed).reverse
  if name = [] || name = ['.'] || name = ['.', '.'] then none else some (name, trimmed.reverse)

/-- A file name cut at its last point, unless that is its first character. -/
def splitName (name : List Char) : List Char × Option (List Char) :=
  let extension := (name.reverse.takeWhile (· ≠ '.')).reverse
  let stem := (name.reverse.dropWhile (· ≠ '.')).drop 1
  if stem = [] then (name, none) else (stem.reverse, some extension)

/-- The extension of a path; a path may have an empty one. -/
def extension? (path : String) : Option String :=
  (fileName? path).bind fun (name, _) => (splitName name).2.map String.ofList

/-- A path with another extension; an empty one leaves the file name without a point. With a slash
    in it, it is no extension. -/
def withExtension? (path extension : String) : Option String :=
  if extension.toList.contains '/' then none
  else match fileName? path with
    | none => some path
    | some (name, upToName) =>
      let kept := upToName.take (upToName.length - (name.length - (splitName name).1.length))
      some (if extension.isEmpty then String.ofList kept
        else String.ofList kept ++ "." ++ extension)

end OrderedLexer.Disk.Path
