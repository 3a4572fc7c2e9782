import OrderedLexer.Disk.Basic
import OrderedLexer.Disk.Path

/-!
# Selection of a file by its extension

`Disk.select` picks the format that goes with the extension of a path. For a path without an
extension it tries each extension in turn, each of them without a slash, and picks the file that
was changed last, of several the first. It opens none of them.
-/

namespace OrderedLexer.Disk

/-- What comes of a selection. -/
inductive Selection (α : Type) where
  | valid (path : String) (format : α)
  | wrongExtension (extension : String)
  | nonExisting
deriving DecidableEq

/-- A file that may be selected. -/
structure Candidate (α : Type) where
  path : String
  format : α
  modified? : Option Int
deriving DecidableEq

/-- The later of two candidates; the first if they are of the same time, or if the time of one of
    them is not known. -/
def Candidate.later (a b : Candidate α) : Candidate α :=
  match a.modified?, b.modified? with
  | some old, some new => if old < new then b else a
  | _, _ => a

/-- The files that stand among a path with each of the extensions. -/
def candidates (disk : Disk) (path : String) (formats : List (String × α)) :
    List (Candidate α) :=
  formats.filterMap fun (extension, format) =>
    (Path.withExtension? path extension).bind fun file =>
      if disk.stands file then some ⟨file, format, disk.modified? file⟩ else none

/-- The first of the candidates that are latest. -/
def latest? : List (Candidate α) → Option (Candidate α)
  | [] => none
  | c :: cs => some (cs.foldl Candidate.later c)

/-- Select a file by extensions with their formats. -/
def select (disk : Disk) (path : String) (formats : List (String × α)) : Selection α :=
  match Path.extension? path with
  | some extension =>
    match formats.lookup extension with
    | some format => .valid path format
    | none => .wrongExtension extension
  | none =>
    match latest? (disk.candidates path formats) with
    | some c => .valid c.path c.format
    | none => .nonExisting

end OrderedLexer.Disk
