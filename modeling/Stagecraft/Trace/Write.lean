import Stagecraft.Trace.Table
import Stagecraft.Text.Quoted

namespace Stagecraft.Trace

inductive WriteError where
  | missingText (text : String)
  | missingPath (path : String)

def WriteError.message : WriteError → String
  | missingText s => "text " ++ Text.quoted s ++ " missing from table"
  | missingPath s => "path " ++ Text.quoted s ++ " missing from table"

structure Code where
  main : List Instruction
  subs : List (List Instruction)

namespace Tables

def text (t : Tables) (s : String) : Except WriteError Operand :=
  match t.texts.index? s with
  | some i => .ok (.text i)
  | none => .error (.missingText s)

def path (t : Tables) (s : String) : Except WriteError Operand :=
  match t.paths.index? s with
  | some i => .ok (.path i)
  | none => .error (.missingPath s)

end Tables

def opcode : Action → String
  | .talk .. => "tlk"
  | .telop .. => "tlp"
  | .showModel .. => "mds"
  | .hideModel .. => "mdh"
  | .moveModel .. => "mdm"
  | .act .. => "act"
  | .express .. => "exp"
  | .horizontalShake .. => "hsk"
  | .verticalShake .. => "vsk"
  | .showBlackCover .. => "bcs"
  | .hideBlackCover .. => "bch"
  | .showWhiteCover .. => "wcs"
  | .hideWhiteCover .. => "wch"
  | .shakeScreen .. => "ssc"
  | .shakeDialogBox .. => "sdb"
  | .changeBackground .. => "cbg"
  | .changeBgm .. => "cbm"
  | .changeSe .. => "cse"
  | .blocking .. => "blk"
  | .delay .. => "slp"
  | .forkTask .. => "tsk"
  | .waitForTap => "wft"
  | .waitForAll => "wfa"

def operands (t : Tables) : Action → Except WriteError (List Operand)
  | .talk text characters names voice => do
    let names ← names.mapM t.text
    let text ← t.text text
    let voice ← voice.toList.mapM t.path
    return text :: .list (characters.map .integer) :: .list names :: voice
  | .telop text => return [← t.text text]
  | .showModel c model p => return [.integer c, ← t.path model, .ofPosition p]
  | .hideModel c => return [.integer c]
  | .moveModel c p => return [.integer c, .ofPosition p]
  | .act c motion => return [.integer c, ← t.text motion]
  | .express c expression => return [.integer c, ← t.text expression]
  | .horizontalShake c => return [.integer c]
  | .verticalShake c => return [.integer c]
  | .showBlackCover d => return [.number d]
  | .hideBlackCover d => return [.number d]
  | .showWhiteCover d => return [.number d]
  | .hideWhiteCover d => return [.number d]
  | .shakeScreen d => return [.number d]
  | .shakeDialogBox d => return [.number d]
  | .changeBackground path => return [← t.path path]
  | .changeBgm path => return [← t.path path]
  | .changeSe path => return [← t.path path]
  | .blocking _ => return []
  | .delay s => return [.number s]
  | .forkTask _ => return []
  | .waitForTap => return []
  | .waitForAll => return []

mutual

/-- The instruction of an action, and the sub-blocks with those of the action added. -/
def instruction (t : Tables) (subs : List (List Instruction)) (a : Action) :
    Except WriteError (Instruction × List (List Instruction)) :=
  match a with
  | .blocking actions => do
    let (body, subs) ← block t subs actions
    return (⟨"blk", [.sub subs.length]⟩, subs ++ [body])
  | .forkTask actions => do
    let (body, subs) ← block t subs actions
    return (⟨"tsk", [.sub subs.length]⟩, subs ++ [body])
  | a => do
    let operands ← operands t a
    return (⟨opcode a, operands⟩, subs)

def block (t : Tables) (subs : List (List Instruction)) (actions : List Action) :
    Except WriteError (List Instruction × List (List Instruction)) :=
  match actions with
  | [] => .ok ([], subs)
  | a :: rest => do
    let (i, subs) ← instruction t subs a
    let (is, subs) ← block t subs rest
    return (i :: is, subs)

end

def Code.ofStory (t : Tables) (s : Story) : Except WriteError Code := do
  let (main, subs) ← block t [] s.actions
  return ⟨main, subs⟩

def writeBlock (is : List Instruction) : List Char := is.flatMap fun i ↦ i.write ++ ['\n']

def writeSubs : Nat → List (List Instruction) → List (List Char)
  | _, [] => []
  | n, b :: rest =>
    ("sub_".toList ++ Numeral.digits n ++ [':', '\n'] ++ writeBlock b) :: writeSubs (n + 1) rest

def writeTrace (t : Tables) (code : Code) : List Char :=
  writeTable ".text" 't' t.texts ++ writeTable ".path" 'p' t.paths ++
    ".code\n".toList ++ writeBlock code.main ++ '\n' :: Text.joined ['\n'] (writeSubs 0 code.subs)

def write (s : Story) : Except WriteError String := do
  let t := Tables.ofStory s
  let code ← Code.ofStory t s
  return String.ofList (writeTrace t code)

end Stagecraft.Trace
