import Stagecraft.Command.Usage
import Stagecraft.Command.Host
import Stagecraft.Command.Report
import Stagecraft.Writer
import Stagecraft.Asset.Loading
import Stagecraft.Script.Evaluator

namespace Stagecraft.Command

open Script (Evaluator CompilerConfig)

inductive Status where
  | success
  | failure
  deriving DecidableEq

def Status.code : Status → Nat
  | success => 0
  | failure => 1

variable {m : Type → Type} [Monad m] [Host m]

abbrev CommandM (m : Type → Type) (α : Type) := ExceptT Report m α

def ask {α : Type} (x : m α) : CommandM m α := ExceptT.lift x

def report {α : Type} (r : Report) : CommandM m α := throw r

def orReport {α : Type} (context : String) : Except FileError α → CommandM m α
  | .ok a => return a
  | .error e => report ((Report.ofMessage e.message).within context)

def printLine (s : String) : CommandM m Unit := ask (Host.print (s ++ "\n"))

def complainLine (s : String) : CommandM m Unit := ask (Host.complain (s ++ "\n"))

def searchUp : Nat → String → m (Option String)
  | 0, _ => return none
  | fuel + 1, directory => do
    let candidate := Path.join directory Manifest.fileName
    if ← Host.doesExist candidate then return some candidate
    else match Path.parent? directory with
      | none => return none
      | some above => searchUp fuel above

/-- The manifest meant by a path: the path itself, or if there is nothing and the file has the usual
name, the nearest manifest in the working directory and those above it. -/
def findManifest (path : String) : CommandM m String := do
  if ← ask (Host.doesExist path) then return path
  if Path.fileName? path = some Manifest.fileName then
    let directory ← ask Host.workingDirectory
    match ← ask (searchUp (directory.length + 1) directory) with
    | some found => return found
    | none => pure ()
  report (.ofMessage ("manifest not found: " ++ path))

/-- Reads a file and decodes it. A directory can be opened but not read. -/
def readDecoded {α : Type} (what path : String) (decode : String → Except Json.DecodeError α) :
    CommandM m α := do
  let failed := "failed to parse " ++ what ++ ": " ++ path
  match ← ask (Host.read path) with
  | .error .isDirectory => report ((Report.ofMessage FileError.isDirectory.message).within failed)
  | .error e =>
    report ((Report.ofMessage e.message).within ("failed to open " ++ what ++ ": " ++ path))
  | .ok text =>
    match decode text with
    | .ok a => return a
    | .error e => report ((Report.ofMessage e.message).within failed)

def openManifest (path : String) : CommandM m Manifest := do
  let path ← findManifest path
  let manifest ← readDecoded "manifest" path Manifest.ofText
  match ← ask (Host.canonical path) with
  | .error e => report (.ofMessage e.message)
  | .ok full =>
    match Path.parent? full with
    | some base => return manifest.resolve base
    | none => return manifest

def readStory (path : String) : CommandM m Story := readDecoded "IR file" path Story.ofText

def save (path content : String) : CommandM m Unit := do
  match Path.parent? path with
  | none => pure ()
  | some parent =>
    if parent ≠ "" then
      orReport ("failed to create " ++ parent) (← ask (Host.makeDirectories parent))
  orReport ("failed to write " ++ path) (← ask (Host.write path content))

def convertAsset (manifest : Manifest) : CommandM m Conversion := do
  match manifest.format with
  | .other _ =>
    report (.ofMessage ("no frontend available for format " ++ manifest.format.display))
  | .bandori =>
    let file ← ask (Host.read manifest.source)
    match Asset.load manifest.options manifest.locale manifest.source file with
    | .ok c => return c
    | .error p => report ((Report.ofProblem p).within ("failed to convert " ++ manifest.source))

/-- Converts the asset of a manifest and prints the diagnostics. No story comes back if one of them
is an error. -/
def storyOfAsset (manifest : Manifest) : CommandM m (Option Story) := do
  let c ← convertAsset manifest
  c.diagnostics.forM fun d ↦ complainLine d.display
  if Diagnostic.hasErrors c.diagnostics then
    let errors := c.diagnostics.countP Diagnostic.isError
    complainLine ("conversion failed with " ++ String.ofList (Numeral.digits errors) ++ " error(s)")
    return none
  return some c.story

def info (path : String) : CommandM m Status := do
  let manifest ← openManifest path
  printLine ("Project: " ++ manifest.name)
  printLine ("Locale:  " ++ manifest.locale.name)
  printLine ("Format:  " ++ manifest.format.display)
  printLine ("Source:  " ++ manifest.source)
  printLine "Targets:"
  manifest.targets.forM fun t ↦ printLine ("  - " ++ t.format.display ++ " -> " ++ t.output)
  return .success

def convert (path : String) (output : Option String) : CommandM m Status := do
  let manifest ← openManifest path
  match ← storyOfAsset manifest with
  | none => return .failure
  | some story =>
    let json := story.toJson.pretty
    match output with
    | some path =>
      save path json
      printLine ("Wrote IR to " ++ path)
    | none => printLine json
    return .success

/-- The file of a target: its path, or a file named for the project if the path is a directory. -/
def destination (target : Target) (project : String) : CommandM m String := do
  if ← ask (Host.isDirectory target.output) then
    return Path.join target.output (project ++ "." ++ target.format.fileExtension)
  return target.output

def writeTarget (project : String) (story : Story) (target : Target) : CommandM m Unit := do
  let writer ← match Writer.ofOptions target.format target.options with
    | .ok w => pure w
    | .error p => report (.ofProblem p)
  let text ← match writer.write story with
    | .ok text => pure text
    | .error p => report ((Report.ofProblem p).within (target.format.name ++ " backend failed"))
  let path ← destination target project
  save path text
  printLine ("Emitted " ++ target.format.name ++ " output to " ++ path)

def storyToEmit (manifest : Manifest) : Option String → CommandM m (Option Story)
  | some file => do return some (← readStory file)
  | none => storyOfAsset manifest

def emit (path : String) (file : Option String) : CommandM m Status := do
  let manifest ← openManifest path
  match ← storyToEmit manifest file with
  | none => return .failure
  | some story =>
    manifest.targets.forM (writeTarget manifest.name story)
    return .success

def printStory (file : String) (closures : Bool) : CommandM m Status := do
  let story ← readStory file
  printLine (Outline.render story closures)
  return .success

def libraryText : Option String → CommandM m String
  | none => return Script.standardLibrary
  | some path => do orReport ("failed to read library: " ++ path) (← ask (Host.read path))

def compile (script name : String) (library : Option String) (compiler : String) :
    CommandM m Status := do
  let source ← orReport ("failed to read script: " ++ script) (← ask (Host.read script))
  let evaluator := Evaluator.ofLibrary (← libraryText library)
  let config : CompilerConfig := ⟨compiler, []⟩
  let run ← ask (Host.run (config.invocation source evaluator.library))
  let c := evaluator.compile (fun _ _ ↦ Script.compiledBy compiler run) name source ⟨1, 1⟩
  c.diagnostics.forM fun d ↦ complainLine (script ++ ":" ++ d.display)
  match c.evaluator.get? name with
  | some code => ask (Host.print code)
  | none => pure ()
  return if Diagnostic.hasErrors c.diagnostics then .failure else .success

def perform : Request → CommandM m Status
  | .info manifest => info manifest
  | .convert manifest output => convert manifest output
  | .emit manifest story => emit manifest story
  | .printStory file closures => printStory file closures
  | .compile script name library compiler => compile script name library compiler

def runRequest (r : Request) : m Status := do
  match ← (perform r).run with
  | .ok status => return status
  | .error e =>
    Host.complain e.text
    return .failure

end Stagecraft.Command
