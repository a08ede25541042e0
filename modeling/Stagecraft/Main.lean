import Stagecraft.Command.Run

namespace Stagecraft.Command

def fileError : IO.Error → FileError
  | .noFileOrDirectory .. => .notFound
  | .alreadyExists .. => .alreadyExists
  | .inappropriateType _ 20 _ => .notDirectory
  | .inappropriateType _ 21 _ => .isDirectory
  | e => .other (toString e)

def attempt {α : Type} (act : IO α) : BaseIO (Except FileError α) := do
  match ← act.toBaseIO with
  | .ok a => return .ok a
  | .error e => return .error (fileError e)

def realPath (path : String) : BaseIO (Except FileError String) :=
  attempt do return (← IO.FS.realPath path).toString

def readText (path : String) : BaseIO (Except FileError String) := do
  match ← attempt (IO.FS.readBinFile path) with
  | .error e => return .error e
  | .ok bytes =>
    match String.fromUTF8? bytes with
    | some s => return .ok s
    | none => return .error .notUtf8

/-- The machine. It starts no other program, so that no script is compiled here. -/
instance : Host IO where
  workingDirectory := do return ((← realPath ".").toOption).getD "/"
  doesExist path := do return (← realPath path).isOk
  isDirectory path := do return (← realPath (Path.join path ".")).isOk
  read path := readText path
  canonical path := realPath path
  makeDirectories path := attempt (IO.FS.createDirAll path)
  write path content := attempt (IO.FS.writeFile path content)
  run _ := return .notStarted .notFound
  print text := do (← IO.getStdout).putStr text
  complain text := do (← IO.getStderr).putStr text

def usage : String :=
  "Usage:\n" ++
  "  info [--manifest FILE]\n" ++
  "  convert [--manifest FILE] [-o FILE]\n" ++
  "  emit [--manifest FILE] [--ir FILE]\n" ++
  "  print-ir [--no-closures] FILE\n" ++
  "  compile FILE --name NAME [--library FILE] [--tsc PROGRAM]\n"

def runProgram (args : List String) : IO UInt32 := do
  match readRequest args with
  | .ok request => return (← runRequest request).code.toUInt32
  | .error .help =>
    IO.print usage
    return 0
  | .error .invalid =>
    IO.eprint usage
    return 2

end Stagecraft.Command

def main (args : List String) : IO UInt32 := Stagecraft.Command.runProgram args
