import Stagecraft.Manifest
import Stagecraft.Text.Lines

namespace Stagecraft.Command

inductive Request where
  | info (manifest : String)
  | convert (manifest : String) (output : Option String)
  | emit (manifest : String) (story : Option String)
  | printStory (file : String) (closures : Bool)
  | compile (script name : String) (library : Option String) (compiler : String)

inductive UsageError where
  | help
  | invalid

/-- An option with a value. Paths must not be empty. -/
structure ValueOption where
  long : String
  short : Option Char
  isPath : Bool

structure Grammar where
  options : List ValueOption
  switches : List String
  arity : Nat

structure Given where
  values : List (String × String)
  switches : List String
  arguments : List String

namespace Given

def empty : Given := ⟨[], [], []⟩

def value? (g : Given) (name : String) : Option String := g.values.lookup name

end Given

def setValue (o : ValueOption) (value : String) (g : Given) : Except UsageError Given :=
  if (g.value? o.long).isSome ∨ (o.isPath ∧ value = "") then .error .invalid
  else .ok { g with values := (o.long, value) :: g.values }

def setSwitch (name : String) (g : Given) : Except UsageError Given :=
  if name ∈ g.switches then .error .invalid else .ok { g with switches := name :: g.switches }

def addArgument (grammar : Grammar) (value : String) (g : Given) : Except UsageError Given :=
  if value = "" ∨ grammar.arity ≤ g.arguments.length then .error .invalid
  else .ok { g with arguments := g.arguments ++ [value] }

def looksLikeOption (arg : String) : Bool :=
  match arg.toList with
  | '-' :: _ :: _ => true
  | _ => false

inductive OptionForm where
  | done (given : Given)
  | awaiting (option : ValueOption)

def readLong (grammar : Grammar) (cs : List Char) (g : Given) : Except UsageError OptionForm :=
  let (name, value) := match Text.splitAt? '=' cs with
    | some (name, value) => (String.ofList name, some (String.ofList value))
    | none => (String.ofList cs, none)
  match grammar.options.find? (·.long = name), value with
  | some o, some v => (setValue o v g).map .done
  | some o, none => .ok (.awaiting o)
  | none, some _ => .error .invalid
  | none, none =>
    if name = "help" then .error .help
    else if name = "verbose" then .ok (.done g)
    else if name ∈ grammar.switches then (setSwitch name g).map .done
    else .error .invalid

def readShort (grammar : Grammar) (g : Given) : List Char → Except UsageError OptionForm
  | [] => .ok (.done g)
  | c :: cs =>
    match grammar.options.find? (·.short = some c) with
    | some o =>
      match cs with
      | [] => .ok (.awaiting o)
      | '=' :: value => (setValue o (String.ofList value) g).map .done
      | value => (setValue o (String.ofList value) g).map .done
    | none =>
      if c = 'h' then .error .help
      else if c = 'v' then readShort grammar g cs
      else .error .invalid

/-- Reads the arguments of a command. `awaiting` is an option whose value comes next, and behind
`--` every argument stands for itself. -/
def readArguments (grammar : Grammar) (awaiting : Option ValueOption) (plain : Bool) (g : Given) :
    List String → Except UsageError Given
  | [] => if awaiting.isSome then .error .invalid else .ok g
  | arg :: rest =>
    match awaiting with
    | some o =>
      if looksLikeOption arg then .error .invalid
      else do readArguments grammar none plain (← setValue o arg g) rest
    | none =>
      if plain || !looksLikeOption arg then do
        readArguments grammar none plain (← addArgument grammar arg g) rest
      else if arg = "--" then readArguments grammar none true g rest
      else
        let form := match arg.toList with
          | '-' :: '-' :: cs => readLong grammar cs g
          | '-' :: cs => readShort grammar g cs
          | _ => .error .invalid
        match form with
        | .error e => .error e
        | .ok (.done g) => readArguments grammar none plain g rest
        | .ok (.awaiting o) => readArguments grammar (some o) plain g rest

def commandNames : List String := ["info", "convert", "emit", "print-ir", "compile", "help"]

def manifestOption : ValueOption := ⟨"manifest", none, true⟩

def manifestOf (g : Given) : String := (g.value? "manifest").getD Manifest.fileName

def ofOption {α : Type} : Option α → Except UsageError α
  | some a => .ok a
  | none => .error .invalid

def readCommand (name : String) (args : List String) : Except UsageError Request :=
  let read (grammar : Grammar) := readArguments grammar none false .empty args
  match name with
  | "info" => do
    let g ← read ⟨[manifestOption], [], 0⟩
    return .info (manifestOf g)
  | "convert" => do
    let g ← read ⟨[manifestOption, ⟨"output", some 'o', true⟩], [], 0⟩
    return .convert (manifestOf g) (g.value? "output")
  | "emit" => do
    let g ← read ⟨[manifestOption, ⟨"ir", none, true⟩], [], 0⟩
    return .emit (manifestOf g) (g.value? "ir")
  | "print-ir" => do
    let g ← read ⟨[], ["no-closures"], 1⟩
    return .printStory (← ofOption g.arguments.head?) ("no-closures" ∉ g.switches)
  | "compile" => do
    let options := [⟨"name", none, false⟩, ⟨"library", none, true⟩, ⟨"tsc", none, false⟩]
    let g ← read ⟨options, [], 1⟩
    return .compile (← ofOption g.arguments.head?) (← ofOption (g.value? "name"))
      (g.value? "library") ((g.value? "tsc").getD "tsc")
  | "help" => .error (if args.length ≤ 1 ∧ args.all (· ∈ commandNames) then .help else .invalid)
  | _ => .error .invalid

def readRequest : List String → Except UsageError Request
  | [] => .error .invalid
  | arg :: rest =>
    if looksLikeOption arg then
      let form := match arg.toList with
        | '-' :: '-' :: cs => readLong ⟨[], [], 0⟩ cs .empty
        | '-' :: cs => readShort ⟨[], [], 0⟩ .empty cs
        | _ => .error .invalid
      match form with
      | .error e => .error e
      | .ok _ => readRequest rest
    else readCommand arg rest

end Stagecraft.Command
