import Stagecraft.Trace.Operand
import Stagecraft.Text.Blank
import Stagecraft.Text.Quoted

namespace Stagecraft.Trace

/-- An argument as it was read. Whole numbers are numbers here. -/
inductive Argument where
  | number (value : Binary64)
  | text (index : Nat)
  | path (index : Nat)
  | sub (index : Nat)
  | list (items : List Argument)
  | position (parts : List Argument)

inductive ArgumentError where
  | unbalanced (bracket : Char) (text : List Char)
  | unclosed (text : List Char)
  | invalidReference (text : List Char)
  | invalidNumber (text : List Char)
  | unrecognized (text : List Char)

def quote (cs : List Char) : String := Text.quoted (String.ofList cs)

def ArgumentError.message : ArgumentError → String
  | unbalanced c text => "unbalanced " ++ Text.quotedChar c ++ " in " ++ quote text
  | unclosed text => "unclosed bracket in " ++ quote text
  | invalidReference text => "invalid reference " ++ quote text
  | invalidNumber text => "invalid number " ++ quote text
  | unrecognized text => "unrecognized argument " ++ quote text

def referenceBound : Nat := Nat.pow 2 64

/-- A reference's number: digits, with or without a plus sign before them. -/
def reference? (cs : List Char) : Option Nat := do
  let n ← Numeral.natural? (match cs with
    | '+' :: ds => ds
    | ds => ds)
  if n < referenceBound then n else none

def depthAfter (depth : Nat) (c : Char) : Option Nat :=
  if c = '[' ∨ c = '\x7b' then some (depth + 1)
  else if c = ']' ∨ c = '\x7d' then if depth = 0 then none else some (depth - 1)
  else some depth

def consFirst (c : Char) : List (List Char) → List (List Char)
  | [] => [[c]]
  | p :: ps => (c :: p) :: ps

/-- The parts of a text between the commas outside all brackets. The error is the bracket that
closes none, or nothing if brackets are left open. -/
def splitOutside : Nat → List Char → Except (Option Char) (List (List Char))
  | depth, [] => if depth = 0 then .ok [[]] else .error none
  | depth, c :: cs =>
    if c = ',' ∧ depth = 0 then (splitOutside 0 cs).map ([] :: ·)
    else match depthAfter depth c with
      | none => .error (some c)
      | some d => (splitOutside d cs).map (consFirst c)

def splitArguments (cs : List Char) : Except ArgumentError (List (List Char)) :=
  match splitOutside 0 cs with
  | .ok parts => .ok (parts.map Text.trim)
  | .error (some c) => .error (.unbalanced c cs)
  | .error none => .error (.unclosed cs)

def inside? (opening closing : Char) : List Char → Option (List Char)
  | c :: cs => if c = opening then Text.before? closing cs else none
  | [] => none

def readReference (whole cs : List Char) (make : Nat → Argument) : Except ArgumentError Argument :=
  match reference? cs with
  | some n => .ok (make n)
  | none => .error (.invalidReference whole)

def readSimple (cs : List Char) : Except ArgumentError Argument :=
  match Text.after? ['#'] cs with
  | some rest =>
    match Numeral.read? rest with
    | some x => .ok (.number x)
    | none => .error (.invalidNumber cs)
  | none =>
    match Text.after? "$sub_".toList cs with
    | some rest => readReference cs rest .sub
    | none =>
      match Text.after? ['t'] cs with
      | some rest => readReference cs rest .text
      | none =>
        match Text.after? ['p'] cs with
        | some rest => readReference cs rest .path
        | none => .error (.unrecognized cs)

mutual

def readArgument : Nat → List Char → Except ArgumentError Argument
  | 0, cs => .error (.unrecognized cs)
  | depth + 1, cs =>
    match inside? '[' ']' cs with
    | some inner => (readWithin depth (Text.trim inner)).map .list
    | none =>
      match inside? '\x7b' '\x7d' cs with
      | some inner => (readWithin depth (Text.trim inner)).map .position
      | none => readSimple cs

def readWithin : Nat → List Char → Except ArgumentError (List Argument)
  | depth, cs =>
    if cs = [] then .ok []
    else match splitArguments cs with
      | .error e => .error e
      | .ok parts => parts.mapM (readArgument depth)

end

/-- Reads a trimmed text of arguments. Each level of brackets takes two characters. -/
def readArguments (cs : List Char) : Except ArgumentError (List Argument) :=
  readWithin (cs.length + 1) cs

end Stagecraft.Trace
