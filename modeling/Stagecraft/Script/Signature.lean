import Stagecraft.Text.Identifier
import Stagecraft.Text.Lines
import Stagecraft.Text.Quoted
import Stagecraft.Binary64.Numeral

namespace Stagecraft.Script

open Text (Alphabet)

structure Parameter where
  label : String
  type : String
  deriving DecidableEq

structure Signature where
  /-- The type the function belongs to, if any. -/
  parent : Option String
  name : String
  parameters : List Parameter
  /-- Absent for a function that returns nothing. -/
  returnType : Option String
  isAsync : Bool
  isStatic : Bool
  deriving DecidableEq

structure InvalidIdentifier where
  name : String
  deriving DecidableEq

def InvalidIdentifier.message (e : InvalidIdentifier) : String :=
  Text.quoted e.name ++ " is not a valid identifier"

def writeName (a : Alphabet) (s : String) : Except InvalidIdentifier (List Char) :=
  let cs := s.toList
  if a.isIdentifier cs then .ok (Numeral.digits cs.length ++ cs) else .error ⟨s⟩

def writeParameters (a : Alphabet) : List Parameter → Except InvalidIdentifier (List Char)
  | [] => .ok []
  | p :: rest => do
    let label ← writeName a p.label
    let type ← writeName a p.type
    return label ++ type ++ (← writeParameters a rest)

def writeParent (a : Alphabet) : Option String → Except InvalidIdentifier (List Char)
  | none => .ok []
  | some s => do return 'p' :: (← writeName a s)

def writeEffects (isAsync isStatic : Bool) : List Char :=
  if isAsync || isStatic then
    'e' :: (if isAsync then ['A'] else []) ++ (if isStatic then ['s'] else [])
  else []

def writeReturn (a : Alphabet) : Option String → Except InvalidIdentifier (List Char)
  | none => .ok ['V']
  | some s => writeName a s

/-- A mangled name: `$z`, the parent behind `p` if there is one, `f` and the name, label and type of
every parameter, the effects behind `e` if there are any, and behind `r` the return type or `V`. -/
def Signature.write (a : Alphabet) (s : Signature) : Except InvalidIdentifier (List Char) := do
  let parent ← writeParent a s.parent
  let name ← writeName a s.name
  let parameters ← writeParameters a s.parameters
  let result ← writeReturn a s.returnType
  return ['$', 'z'] ++ parent ++ 'f' :: name ++ parameters ++
    writeEffects s.isAsync s.isStatic ++ 'r' :: result

def Signature.mangleWith (a : Alphabet) (s : Signature) : Except InvalidIdentifier String :=
  (s.write a).map String.ofList

/-- The mangled name of a function, or the first of its names that is no identifier. -/
def Signature.mangle (s : Signature) : Except InvalidIdentifier String := s.mangleWith .unicode

/-- Takes a name and its count off the front of a text. A count beyond the end of the text is
refused, and with it every count that no machine word can hold. -/
def readName (a : Alphabet) (cs : List Char) : Option (String × List Char) := do
  let n ← Numeral.natural? (cs.takeWhile Char.isDigit)
  let tail := cs.dropWhile Char.isDigit
  if n ≤ tail.length ∧ a.isIdentifier (tail.take n) then
    some (String.ofList (tail.take n), tail.drop n)
  else none

/-- Takes parameters off the front of a text, as long as it begins with a digit. A parameter has at
least two characters, so their number is bounded by that of the characters. -/
def takeParameters (a : Alphabet) : Nat → List Char → Option (List Parameter × List Char)
  | 0, cs => some ([], cs)
  | fuel + 1, cs =>
    if (cs.head?.map Char.isDigit).getD false then do
      let (label, rest) ← readName a cs
      let (type, rest) ← readName a rest
      let (ps, rest) ← takeParameters a fuel rest
      return (⟨label, type⟩ :: ps, rest)
    else some ([], cs)

def takeParent (a : Alphabet) : List Char → Option (Option String × List Char)
  | 'p' :: cs => (readName a cs).map fun (s, rest) ↦ (some s, rest)
  | cs => some (none, cs)

def takeEffects : List Char → Option ((Bool × Bool) × List Char)
  | 'e' :: 'A' :: 's' :: rest => some ((true, true), rest)
  | 'e' :: 'A' :: rest => some ((true, false), rest)
  | 'e' :: 's' :: rest => some ((false, true), rest)
  | 'e' :: _ => none
  | cs => some ((false, false), cs)

def readReturn (a : Alphabet) (cs : List Char) : Option (Option String) :=
  if cs = ['V'] then some none
  else match readName a cs with
    | some (s, []) => some (some s)
    | _ => none

def Signature.read? (a : Alphabet) (cs : List Char) : Option Signature := do
  let cs ← Text.after? ['$', 'z'] cs
  let (parent, cs) ← takeParent a cs
  let cs ← Text.after? ['f'] cs
  let (name, cs) ← readName a cs
  let (parameters, cs) ← takeParameters a cs.length cs
  let ((isAsync, isStatic), cs) ← takeEffects cs
  let cs ← Text.after? ['r'] cs
  let returnType ← readReturn a cs
  return ⟨parent, name, parameters, returnType, isAsync, isStatic⟩

def Signature.demangleWith? (a : Alphabet) (s : String) : Option Signature :=
  Signature.read? a s.toList

def Signature.demangle? (s : String) : Option Signature := demangleWith? .unicode s

end Stagecraft.Script
