import Stagecraft.Diagnostic
import Stagecraft.Text.Blank
import Stagecraft.Text.Lines

namespace Stagecraft.Script

structure ScriptDiagnostic where
  file : Option String
  position : TextPosition
  /-- A code such as `TS2304`. -/
  code : String
  severity : Severity
  message : String
  deriving DecidableEq

def splitOnce? (sep : List Char) : List Char → Option (List Char × List Char)
  | [] => if sep = [] then some ([], []) else none
  | c :: cs =>
    match Text.after? sep (c :: cs) with
    | some rest => some ([], rest)
    | none => (splitOnce? sep cs).map fun (a, b) ↦ (c :: a, b)

/-- A natural number below `2 ^ 32`: digits, with or without a plus sign before them. -/
def coordinate? (cs : List Char) : Option Nat := do
  let n ← Numeral.natural? (match cs with
    | '+' :: ds => ds
    | ds => ds)
  if n < Nat.pow 2 32 then n else none

def place? (cs : List Char) : Option (String × TextPosition) := do
  let (file, inner) ← Text.splitAtLast? '(' cs
  let (line, column) ← Text.splitAt? ',' inner
  return (String.ofList file, ⟨← coordinate? line, ← coordinate? column⟩)

def severity? (cs : List Char) : Option Severity :=
  if cs = "error".toList then some .error
  else if cs = "warning".toList then some .warning
  else if cs = "message".toList then some .note
  else none

def readStatement? (file : Option String) (position : TextPosition) (cs : List Char) :
    Option ScriptDiagnostic := do
  let (header, message) ← splitOnce? [':', ' '] cs
  let (severity, code) ← Text.splitAt? ' ' header
  let severity ← severity? severity
  let _ ← Text.after? ['T', 'S'] code
  return ⟨file, position, String.ofList code, severity, String.ofList message⟩

def endsInDigit (cs : List Char) : Bool := (cs.getLast?.map Char.isDigit).getD false

/-- Reads a line as a diagnostic. What stands before the first `): ` is a place if it ends in a
digit. -/
def readLine? (cs : List Char) : Option ScriptDiagnostic :=
  match splitOnce? [')', ':', ' '] cs with
  | some (before, rest) =>
    if endsInDigit before then do
      let (file, position) ← place? before
      readStatement? (some file) position rest
    else readStatement? none .unknown cs
  | none => readStatement? none .unknown cs

def isContinuation (cs : List Char) : Bool := cs.head? = some ' ' && Text.trim cs ≠ []

def ScriptDiagnostic.continued (d : ScriptDiagnostic) (cs : List Char) : ScriptDiagnostic :=
  { d with message := d.message ++ "\n" ++ String.ofList (Text.trim cs) }

/-- The diagnostics of some lines behind an open one, whose message may still be continued. -/
def readLines (last : Option ScriptDiagnostic) : List (List Char) → List ScriptDiagnostic
  | [] => last.toList
  | l :: rest =>
    match readLine? l with
    | some d => last.toList ++ readLines (some d) rest
    | none =>
      if isContinuation l then readLines (last.map (·.continued l)) rest
      else readLines last rest

/-- Lines that end at a line feed, with or without a carriage return before it. -/
def outputLines (cs : List Char) : List (List Char) :=
  let ps := Text.pieces cs
  let ended := ps.dropLast.map fun p ↦ (Text.before? '\r' p).getD p
  match ps.getLast? with
  | none => ended
  | some [] => ended
  | some p => ended ++ [p]

def readOutput (output : String) : List ScriptDiagnostic :=
  readLines none (outputLines output.toList)

end Stagecraft.Script
