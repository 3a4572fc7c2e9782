import OrderedLexer.CommandLine.Run

/-!
# The program

Looks up on the disk what a command may open, reads the standard input if the command does, and
writes the outcome.
-/

namespace OrderedLexer.CommandLine

/-- The fault that an operation on the disk ran into. -/
def diskFault : IO.Error → Disk.Fault
  | .noFileOrDirectory _ _ _ => .notFound
  | .inappropriateType _ _ _ => .notDirectory
  | .permissionDenied _ _ _ => .other "Permission denied (os error 13)"
  | e => .other (toString e)

/-- What stands at a path. It is opened once its time is known. -/
def look (path : String) : IO (Except Disk.Fault Disk.Entry) := do
  if path.isEmpty then return .error .notFound
  try
    let target := (← IO.currentDir) / path
    let metadata ← target.metadata
    let modified := metadata.modified.sec * 1000000000 + metadata.modified.nsec.toNat
    let content ← try
      let handle ← IO.FS.Handle.mk target .read
      match metadata.type with
      | .dir => pure (.ok Disk.Content.directory)
      | _ => pure (.ok (Disk.Content.file (← handle.readBinToEnd)))
    catch e => pure (.error (diskFault e))
    return .ok ⟨some modified, content⟩
  catch e => return .error (diskFault e)

/-- Read all that is left of a stream. -/
partial def readAll (stream : IO.FS.Stream) (bytes : ByteArray) : IO ByteArray := do
  let more ← stream.read 65536
  if more.isEmpty then return bytes else readAll stream (bytes ++ more)

/-- The disk that a command sees. -/
def diskOf (command : Command) : IO Disk := do
  return Disk.ofEntries (← command.paths.mapM fun path => return (path, ← look path))

/-- What a request comes to on this disk. -/
def perform (request : Request) : IO Outcome := do
  match request with
  | .run verbosity command =>
    let disk ← diskOf command
    let input ←
      if command.readsInput disk then readAll (← IO.getStdin) ByteArray.empty
      else pure ByteArray.empty
    return command.run verbosity disk input
  | request => return request.outcome (Disk.ofList []) ByteArray.empty

/-- Do what the arguments ask for, and give the exit status. -/
def program (arguments : List String) : IO UInt32 := do
  let outcome ← perform (Request.ofArguments arguments)
  (← IO.getStdout).putStr outcome.output
  (← IO.getStderr).putStr outcome.errors
  return outcome.status.toUInt32

end OrderedLexer.CommandLine

def main (arguments : List String) : IO UInt32 := OrderedLexer.CommandLine.program arguments
