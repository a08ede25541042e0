import Stagecraft.Script.CompilerOutput
import Stagecraft.Files.Basic
import Stagecraft.Json.Basic

namespace Stagecraft.Script

structure Compiled where
  code : String
  diagnostics : List ScriptDiagnostic
  deriving DecidableEq

structure ExitStatus where
  code : Nat
  deriving DecidableEq

def ExitStatus.isSuccess (s : ExitStatus) : Bool := s.code = 0

def ExitStatus.message (s : ExitStatus) : String :=
  "exit status: " ++ String.ofList (Numeral.digits s.code)

/-- The outcome of running a program: it could not be started, or it ended with a status, having
written its output, and perhaps the compiled script. -/
inductive ProgramRun where
  | notStarted (error : FileError)
  | ended (status : ExitStatus) (stdout stderr : String) (result : Except FileError String)

structure Invocation where
  program : String
  arguments : List String
  files : List (String × String)

inductive CompilerFailure where
  | notStarted (program : String) (error : FileError)
  | failed (program : String) (status : ExitStatus) (stderr : String)
  | noResult (program : String) (error : FileError)
  /-- Any other reason, in words. -/
  | other (reason : String)

def scriptName : String := "source.ts"

def libraryName : String := "lib.d.ts"

def resultName : String := "source.js"

def CompilerFailure.message : CompilerFailure → String
  | notStarted program e =>
    "failed to run " ++ program ++ ": " ++ e.message ++ " (is TypeScript installed?)"
  | failed program status stderr =>
    program ++ " exited with " ++ status.message ++ " without diagnostics: " ++
      String.ofList (Text.trim stderr.toList)
  | noResult program e => program ++ " produced no " ++ resultName ++ ": " ++ e.message
  | other reason => reason

structure CompilerConfig where
  program : String
  arguments : List String

def CompilerConfig.standard : CompilerConfig := ⟨"tsc", []⟩

def settings : String :=
  Json.pretty (.object [
    ("compilerOptions", .object [("newLine", .text "lf"), ("noLib", .boolean true),
      ("strict", .boolean true), ("target", .text "ES2017")]),
    ("files", .array [.text libraryName, .text scriptName])])

def CompilerConfig.invocation (c : CompilerConfig) (source library : String) : Invocation where
  program := c.program
  arguments := c.arguments ++ ["--pretty", "false", "-p", "tsconfig.json"]
  files := [(scriptName, source), (libraryName, library), ("tsconfig.json", settings)]

/-- What the run of a compiler means. A failure or a missing result is accepted only if there are
diagnostics to explain it. -/
def compiledBy (program : String) : ProgramRun → Except CompilerFailure Compiled
  | .notStarted e => .error (.notStarted program e)
  | .ended status stdout stderr result =>
    let diagnostics := readOutput stdout
    if ¬status.isSuccess ∧ diagnostics = [] then .error (.failed program status stderr)
    else match result with
      | .ok code => .ok ⟨code, diagnostics⟩
      | .error e =>
        if diagnostics = [] then .error (.noResult program e) else .ok ⟨"", diagnostics⟩

def CompilerConfig.compile (c : CompilerConfig) (run : Invocation → ProgramRun)
    (source library : String) : Except CompilerFailure Compiled :=
  compiledBy c.program (run (c.invocation source library))

end Stagecraft.Script
