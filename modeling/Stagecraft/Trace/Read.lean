import Stagecraft.Trace.Argument
import Stagecraft.Trace.Table

namespace Stagecraft.Trace

open Text (Line)

inductive LineError where
  | wrongHeader (wanted : String) (found : List Char)
  | wrongEntry (label : List Char)
  | unterminated
  | wrongLabel (found : List Char)
  | outOfOrder (sub : Nat)
  | argument (error : ArgumentError)
  | unknownOpcode (opcode : List Char)
  | wrongArgument (opcode : List Char) (wanted : String)
  | tooManyArguments (opcode : List Char)
  | undefinedText (index : Nat)
  | undefinedPath (index : Nat)
  | invalidAnchor (number : Binary64)

inductive ReadError where
  | line (number : Nat) (error : LineError)
  | missingSection (header : String)
  | unknownSub (index : Nat)

def decimalText (n : Nat) : String := String.ofList (Numeral.digits n)

def LineError.message : LineError → String
  | wrongHeader wanted found => "expected " ++ Text.quoted wanted ++ ", found " ++ quote found
  | wrongEntry label => "expected entry " ++ quote label
  | unterminated => "unterminated literal"
  | wrongLabel found => "expected a sub-block label, found " ++ quote found
  | outOfOrder n => "sub-block sub_" ++ decimalText n ++ " is out of order"
  | argument e => e.message
  | unknownOpcode opcode => "unknown opcode " ++ quote opcode
  | wrongArgument opcode wanted =>
    String.ofList opcode ++ ": expected " ++ wanted ++ " argument"
  | tooManyArguments opcode => "too many arguments for " ++ String.ofList opcode
  | undefinedText i => "undefined text t" ++ decimalText i
  | undefinedPath i => "undefined path p" ++ decimalText i
  | invalidAnchor x => "invalid position base " ++ String.ofList (Numeral.plain.write x)

def ReadError.message : ReadError → String
  | line n e => "line " ++ decimalText n ++ ": " ++ e.message
  | missingSection header => "missing section " ++ header
  | unknownSub n => "unknown sub-block $sub_" ++ decimalText n

def readHeader (wanted : String) : List Line → Except ReadError (List Line)
  | [] => .error (.missingSection wanted)
  | l :: rest =>
    if l.text = wanted.toList then .ok rest
    else .error (.line l.number (.wrongHeader wanted l.text))

/-- Whether a literal is complete: it ends in a semicolon that no backslash precedes. -/
def endsLiteral (body : List Char) : Bool :=
  match body.reverse with
  | ';' :: '\\' :: _ => false
  | ';' :: _ => true
  | _ => false

def literal (body : List Char) : String := String.ofList (unescape body.dropLast)

/-- Reads the entries of a table up to an empty line or the end of the text. `entry` is the entry
being read, with the number of its first line. -/
def readEntries (tag : Char) (done : Table) (entry : Option (Nat × List Char)) :
    List Line → Except ReadError (Table × List Line)
  | [] =>
    match entry with
    | none => .ok (done, [])
    | some (n, _) => .error (.line n .unterminated)
  | l :: rest =>
    match entry with
    | some (n, body) =>
      -- In an open entry even an empty line is part of the literal.
      let body := body ++ '\n' :: l.text
      if endsLiteral body then readEntries tag (done ++ [literal body]) none rest
      else readEntries tag done (some (n, body)) rest
    | none =>
      if l.text = [] then .ok (done, rest)
      else match Text.after? (label tag done.length) l.text with
        | none => .error (.line l.number (.wrongEntry (label tag done.length)))
        | some body =>
          if endsLiteral body then readEntries tag (done ++ [literal body]) none rest
          else readEntries tag done (some (l.number, body)) rest

def readTable (tag : Char) (ls : List Line) : Except ReadError (Table × List Line) :=
  readEntries tag [] none ls

def labelNumber? (cs : List Char) : Option Nat := do
  reference? (← Text.before? ':' (← Text.after? "sub_".toList cs))

def readBlocks (done : List (List Line)) (current : Option (List Line)) :
    List Line → Except ReadError (List (List Line))
  | [] => .ok (done ++ current.toList)
  | l :: rest =>
    match current with
    | some b =>
      if l.text = [] then readBlocks (done ++ [b]) none rest
      else readBlocks done (some (b ++ [l])) rest
    | none =>
      if l.text = [] then readBlocks done none rest
      else match labelNumber? l.text with
        | none => .error (.line l.number (.wrongLabel l.text))
        | some n =>
          if n = done.length then readBlocks done (some []) rest
          else .error (.line l.number (.outOfOrder n))

structure Sections where
  texts : Table
  paths : Table
  main : List Line
  subs : List (List Line)

def readSections (ls : List Line) : Except ReadError Sections := do
  let (texts, ls) ← readTable 't' (← readHeader ".text" ls)
  let (paths, ls) ← readTable 'p' (← readHeader ".path" ls)
  let ls ← readHeader ".code" ls
  let main := ls.takeWhile (·.text ≠ [])
  let subs ← readBlocks [] none ((ls.dropWhile (·.text ≠ [])).drop 1)
  return ⟨texts, paths, main, subs⟩

structure LineContext where
  sections : Sections
  line : Nat
  opcode : List Char

namespace LineContext

def fail {α : Type} (c : LineContext) (e : LineError) : Except ReadError α :=
  .error (.line c.line e)

def wrong {α : Type} (c : LineContext) (wanted : String) : Except ReadError α :=
  c.fail (.wrongArgument c.opcode wanted)

def asInteger (c : LineContext) : Argument → Except ReadError Int
  | .number x => if x.isIntegral then .ok x.toId else c.wrong "integer"
  | _ => c.wrong "integer"

def asText (c : LineContext) : Argument → Except ReadError String
  | .text i =>
    match c.sections.texts[i]? with
    | some s => .ok s
    | none => c.fail (.undefinedText i)
  | _ => c.wrong "text"

def asPath (c : LineContext) : Argument → Except ReadError String
  | .path i =>
    match c.sections.paths[i]? with
    | some s => .ok s
    | none => c.fail (.undefinedPath i)
  | _ => c.wrong "path"

def asNumber (c : LineContext) : Argument → Except ReadError Binary64
  | .number x => .ok x
  | _ => c.wrong "number"

def asList (c : LineContext) : Argument → Except ReadError (List Argument)
  | .list items => .ok items
  | _ => c.wrong "list"

def anchor? (x : Binary64) : Option Anchor :=
  match x.truncate? with
  | some (.ofNat n) => if x.isIntegral then Anchor.ofNumber? n else none
  | _ => none

def asPosition (c : LineContext) : Argument → Except ReadError Position
  | .position [.number base, .number offset] =>
    match anchor? base with
    | some a => .ok ⟨a, offset⟩
    | none => c.fail (.invalidAnchor base)
  | _ => c.wrong "position"

def asGroup (c : LineContext) (group : Nat → Except ReadError (List Action)) :
    Argument → Except ReadError (List Action)
  | .sub n => group n
  | _ => c.wrong "sub-block"

def take {α : Type} (c : LineContext) (wanted : String) (read : Argument → Except ReadError α) :
    StateT (List Argument) (Except ReadError) α := fun args ↦
  match args with
  | [] => c.wrong wanted
  | a :: rest => (read a).map fun x ↦ (x, rest)

abbrev Taking := StateT (List Argument) (Except ReadError)

def integer (c : LineContext) : Taking Int := c.take "integer" c.asInteger

def number (c : LineContext) : Taking Binary64 := c.take "number" c.asNumber

def text (c : LineContext) : Taking String := c.take "text" c.asText

def path (c : LineContext) : Taking String := c.take "path" c.asPath

def position (c : LineContext) : Taking Position := c.take "position" c.asPosition

def list {α : Type} (c : LineContext) (read : Argument → Except ReadError α) : Taking (List α) :=
  c.take "list" fun a ↦ do (← c.asList a).mapM read

def optionalPath (c : LineContext) : Taking (Option String) := do
  if (← get).isEmpty then return none else return some (← c.path)

def group (c : LineContext) (group : Nat → Except ReadError (List Action)) :
    Taking (List Action) :=
  c.take "sub-block" (c.asGroup group)

def action (c : LineContext) (groups : Nat → Except ReadError (List Action)) : Taking Action :=
  match String.ofList c.opcode with
  | "tlk" => do
    let text ← c.text
    let characters ← c.list c.asInteger
    let names ← c.list c.asText
    return .talk text characters names (← c.optionalPath)
  | "tlp" => return .telop (← c.text)
  | "mds" => return .showModel (← c.integer) (← c.path) (← c.position)
  | "mdh" => return .hideModel (← c.integer)
  | "mdm" => return .moveModel (← c.integer) (← c.position)
  | "act" => return .act (← c.integer) (← c.text)
  | "exp" => return .express (← c.integer) (← c.text)
  | "hsk" => return .horizontalShake (← c.integer)
  | "vsk" => return .verticalShake (← c.integer)
  | "bcs" => return .showBlackCover (← c.number)
  | "bch" => return .hideBlackCover (← c.number)
  | "wcs" => return .showWhiteCover (← c.number)
  | "wch" => return .hideWhiteCover (← c.number)
  | "ssc" => return .shakeScreen (← c.number)
  | "sdb" => return .shakeDialogBox (← c.number)
  | "cbg" => return .changeBackground (← c.path)
  | "cbm" => return .changeBgm (← c.path)
  | "cse" => return .changeSe (← c.path)
  | "slp" => return .delay (← c.number)
  | "blk" => return .blocking (← c.group groups)
  | "tsk" => return .forkTask (← c.group groups)
  | "wfa" => return .waitForAll
  | "wft" => return .waitForTap
  | _ => fun _ ↦ c.fail (.unknownOpcode c.opcode)

end LineContext

def splitOpcode (cs : List Char) : List Char × List Char :=
  match Text.splitAt? ' ' cs with
  | some (opcode, rest) => (opcode, Text.trim rest)
  | none => (cs, [])

def readAction (s : Sections) (groups : Nat → Except ReadError (List Action)) (l : Line) :
    Except ReadError Action :=
  let (opcode, rest) := splitOpcode l.text
  let c : LineContext := ⟨s, l.number, opcode⟩
  match readArguments rest with
  | .error e => c.fail (.argument e)
  | .ok args =>
    match c.action groups args with
    | .error e => .error e
    | .ok (a, left) => if left.isEmpty then .ok a else c.fail (.tooManyArguments opcode)

/-- The actions of a sub-block below `limit`; a reference to any other is an error. -/
def readGroup (s : Sections) : Nat → Nat → Except ReadError (List Action)
  | 0, n => .error (.unknownSub n)
  | limit + 1, n =>
    if n = limit then (s.subs.getD n []).mapM (readAction s (readGroup s limit))
    else readGroup s limit n

def readCode (s : Sections) : Except ReadError (List Action) :=
  s.main.mapM (readAction s (readGroup s s.subs.length))

/-- A trace does not say its locale, so the caller gives it. -/
def read (text : String) (locale : Locale) : Except ReadError Story := do
  let sections ← readSections (Text.numberedLines text.toList)
  let actions ← readCode sections
  return ⟨locale, actions⟩

end Stagecraft.Trace
