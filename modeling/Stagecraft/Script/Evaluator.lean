import Stagecraft.Script.Compiler
import Stagecraft.Script.Library

namespace Stagecraft.Script

abbrev ScriptCompiler := String → String → Except CompilerFailure Compiled

structure Evaluator where
  library : String
  /-- The code by name; no name occurs twice. -/
  compiled : List (String × String)

namespace Evaluator

def ofLibrary (library : String) : Evaluator := ⟨library, []⟩

def get? (e : Evaluator) (name : String) : Option String := e.compiled.lookup name

def contains (e : Evaluator) (name : String) : Bool := (e.get? name).isSome

def size (e : Evaluator) : Nat := e.compiled.length

def insert (e : Evaluator) (name code : String) : Evaluator :=
  { e with compiled := e.compiled ++ [(name, code)] }

end Evaluator

/-- A compiler's diagnostic in a script that begins at `origin`. One outside the script points at
the script's beginning and names its own place in its text. -/
def ScriptDiagnostic.located (d : ScriptDiagnostic) (origin : TextPosition) : Diagnostic :=
  let text := d.code ++ ": " ++ d.message
  let (offset, detail) := match d.file with
    | some file =>
      if (Text.after? scriptName.toList.reverse file.toList.reverse).isSome then (d.position, text)
      else (TextPosition.unknown, file ++ "(" ++ d.position.message ++ "): " ++ text)
    | none => (TextPosition.unknown, text)
  ⟨.literal origin offset, d.severity, ⟨.typeScriptError, detail⟩⟩

def unavailable (e : CompilerFailure) (origin : TextPosition) : Diagnostic :=
  .error (.literal origin .unknown) .compilerUnavailable ("evaluator error: " ++ e.message)

structure Compilation where
  evaluator : Evaluator
  diagnostics : List Diagnostic
  asked : Bool

/-- Compiles a function under a name, unless there is code for it already. Asking the compiler may
have effects. -/
def Evaluator.compileM {m : Type → Type} [Monad m] (e : Evaluator)
    (ask : String → String → m (Except CompilerFailure Compiled)) (name source : String)
    (origin : TextPosition) : m (Evaluator × List Diagnostic) := do
  if e.contains name then return (e, [])
  match ← ask source e.library with
  | .error problem => return (e, [unavailable problem origin])
  | .ok t => return (e.insert name t.code, t.diagnostics.map (·.located origin))

def Evaluator.compile (e : Evaluator) (compiler : ScriptCompiler) (name source : String)
    (origin : TextPosition) : Compilation :=
  let ask (source library : String) : StateM Bool (Except CompilerFailure Compiled) := do
    set true
    return compiler source library
  let ((evaluator, diagnostics), asked) := (e.compileM ask name source origin).run false
  ⟨evaluator, diagnostics, asked⟩

end Stagecraft.Script
