import Stagecraft.Binary64.Numeral

namespace Stagecraft

/-- The fields of an object are in reading order, and a name may occur more than once. -/
inductive Json where
  | null
  | boolean (value : Bool)
  | integer (value : Int)
  | decimal (value : Binary64)
  | text (value : String)
  | array (items : List Json)
  | object (fields : List (String × Json))

namespace Json

def insertField (key : String) (value : Json) : List (String × Json) → List (String × Json)
  | [] => [(key, value)]
  | (k, v) :: rest =>
    if key = k then (key, value) :: rest
    else if key < k then (key, value) :: (k, v) :: rest
    else (k, v) :: insertField key value rest

mutual

/-- The value with the fields of every object in increasing order of their names, of fields with one
name only the last. -/
def sorted : Json → Json
  | .array items => .array (sortedItems items)
  | .object fields => .object (sortedFields [] fields)
  | j => j

def sortedItems : List Json → List Json
  | [] => []
  | j :: rest => sorted j :: sortedItems rest

def sortedFields (done : List (String × Json)) : List (String × Json) → List (String × Json)
  | [] => done
  | (k, v) :: rest => sortedFields (insertField k (sorted v) done) rest

end

def escape (c : Char) : List Char :=
  if c = '"' then ['\\', '"']
  else if c = '\\' then ['\\', '\\']
  else if c = '\n' then ['\\', 'n']
  else if c = '\r' then ['\\', 'r']
  else if c = '\t' then ['\\', 't']
  else if c = '\x08' then ['\\', 'b']
  else if c = '\x0c' then ['\\', 'f']
  else if c.toNat < 0x20 then
    ['\\', 'u', '0', '0', Nat.digitChar (c.toNat / 16), Nat.digitChar (c.toNat % 16)]
  else [c]

def writeText (s : String) : List Char := '"' :: s.toList.flatMap escape ++ ['"']

/-- A number that is not finite has no JSON form and is written as `null`. -/
def writeDecimal (x : Binary64) : List Char :=
  if x.isFinite then Numeral.json.write x else ['n', 'u', 'l', 'l']

def writeScalar : Json → List Char
  | .null => ['n', 'u', 'l', 'l']
  | .boolean true => ['t', 'r', 'u', 'e']
  | .boolean false => ['f', 'a', 'l', 's', 'e']
  | .integer n => Numeral.integer n
  | .decimal x => writeDecimal x
  | .text s => writeText s
  | .array _ => ['[', ']']
  | .object _ => ['\x7b', '\x7d']

mutual

def write : Json → List Char
  | .array items => '[' :: writeItems items ++ [']']
  | .object fields => '\x7b' :: writeFields fields ++ ['\x7d']
  | j => writeScalar j

def writeItems : List Json → List Char
  | [] => []
  | [j] => write j
  | j :: rest => write j ++ ',' :: writeItems rest

def writeFields : List (String × Json) → List Char
  | [] => []
  | [(k, v)] => writeText k ++ ':' :: write v
  | (k, v) :: rest => writeText k ++ ':' :: write v ++ ',' :: writeFields rest

end

def newline (depth : Nat) : List Char := '\n' :: List.replicate (2 * depth) ' '

mutual

/-- The indented form: every item and field on a line of its own; empty containers stay closed. -/
def writeIndented (depth : Nat) : Json → List Char
  | .array [] => ['[', ']']
  | .array items => '[' :: indentedItems (depth + 1) items ++ newline depth ++ [']']
  | .object [] => ['\x7b', '\x7d']
  | .object fields => '\x7b' :: indentedFields (depth + 1) fields ++ newline depth ++ ['\x7d']
  | j => writeScalar j

def indentedItems (depth : Nat) : List Json → List Char
  | [] => []
  | [j] => newline depth ++ writeIndented depth j
  | j :: rest => newline depth ++ writeIndented depth j ++ ',' :: indentedItems depth rest

def indentedFields (depth : Nat) : List (String × Json) → List Char
  | [] => []
  | [(k, v)] => newline depth ++ writeText k ++ ':' :: ' ' :: writeIndented depth v
  | (k, v) :: rest =>
    newline depth ++ writeText k ++ ':' :: ' ' :: writeIndented depth v ++
      ',' :: indentedFields depth rest

end

def compact (j : Json) : String := String.ofList j.write

def pretty (j : Json) : String := String.ofList (j.writeIndented 0)

end Json

end Stagecraft
