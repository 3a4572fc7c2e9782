/-!
# Disks

A `Disk` tells what stands at each path, if anything does: when it was changed, and what one gets
by opening it. The two are apart: what cannot be opened stands there all the same, with its time.

* `Disk.stands`, `Disk.modified?` — what is known of a path without opening it;
* `Disk.readText?` — the text of a file.
-/

namespace OrderedLexer

namespace Disk

/-- Why a path cannot be opened or read. -/
inductive Fault where
  | notFound
  | isDirectory
  | notDirectory
  /-- The file is not valid UTF-8. -/
  | invalidText
  | other (message : String)
deriving DecidableEq

def Fault.message : Fault → String
  | .notFound => "No such file or directory (os error 2)"
  | .isDirectory => "Is a directory (os error 21)"
  | .notDirectory => "Not a directory (os error 20)"
  | .invalidText => "stream did not contain valid UTF-8"
  | .other message => message

/-- What a path leads to. -/
inductive Content where
  | file (bytes : ByteArray)
  | directory

/-- What stands at a path. -/
structure Entry where
  /-- When it was last changed, if that is known. -/
  modified? : Option Int
  /-- What it leads to, if it can be opened. -/
  content : Except Fault Content

/-- What a path leads to, and when it was last changed. -/
structure Node where
  content : Content
  modified : Int

/-- What can be opened, and has a time. -/
def Entry.ofNode (node : Node) : Entry := ⟨some node.modified, .ok node.content⟩

end Disk

/-- What stands at each path, or why nothing is found there. -/
structure Disk where
  entry? : String → Except Disk.Fault Disk.Entry

namespace Disk

/-- The disk on which nothing stands but what is listed. -/
def ofEntries (entries : List (String × Except Fault Entry)) : Disk where
  entry? path := (entries.lookup path).getD (.error .notFound)

/-- The disk on which nothing stands but what is listed, and all of it can be opened. -/
def ofList (nodes : List (String × Except Fault Node)) : Disk :=
  ofEntries (nodes.map fun (path, node?) => (path, node?.map Entry.ofNode))

/-- Whether anything stands at a path. -/
def stands (disk : Disk) (path : String) : Bool := (disk.entry? path).isOk

/-- When what stands at a path was last changed, if that is known. -/
def modified? (disk : Disk) (path : String) : Option Int :=
  (disk.entry? path).toOption.bind (·.modified?)

/-- The text of some bytes. -/
def decode? (bytes : ByteArray) : Except Fault String :=
  match String.fromUTF8? bytes with
  | some text => .ok text
  | none => .error .invalidText

/-- The text of a file. -/
def readText? (disk : Disk) (path : String) : Except Fault String := do
  match ← (← disk.entry? path).content with
  | .file bytes => decode? bytes
  | .directory => .error .isDirectory

end Disk
end OrderedLexer
