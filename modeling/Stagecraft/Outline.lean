import Stagecraft.Story.Basic
import Stagecraft.Binary64.Numeral
import Stagecraft.Text.Lines

namespace Stagecraft.Outline

def heading : Action → String
  | .talk .. => "Talk"
  | .telop .. => "Telop"
  | .showModel .. => "ShowModel"
  | .hideModel .. => "HideModel"
  | .moveModel .. => "MoveModel"
  | .act .. => "Act"
  | .express .. => "Express"
  | .horizontalShake .. => "HorizontalShake"
  | .verticalShake .. => "VerticalShake"
  | .showBlackCover .. => "ShowBlackCover"
  | .hideBlackCover .. => "HideBlackCover"
  | .showWhiteCover .. => "ShowWhiteCover"
  | .hideWhiteCover .. => "HideWhiteCover"
  | .shakeScreen .. => "ShakeScreen"
  | .shakeDialogBox .. => "ShakeDialogBox"
  | .changeBackground .. => "ChangeBackground"
  | .changeBgm .. => "ChangeBGM"
  | .changeSe .. => "ChangeSE"
  | .blocking .. => "Blocking"
  | .delay .. => "Delay"
  | .forkTask .. => "ForkTask"
  | .waitForTap => "WaitForTap"
  | .waitForAll => "WaitForAll"

def flatten (s : String) : List Char :=
  s.toList.flatMap fun c ↦ if c = '\n' then ['\\', 'n'] else [c]

def commaJoined (parts : List (List Char)) : List Char := Text.joined [',', ' '] parts

def bracketed (parts : List (List Char)) : List Char := '[' :: commaJoined parts ++ [']']

def ofPosition (p : Position) : List Char :=
  '\x7b' :: "base: ".toList ++ p.anchor.name.toList ++ ", offsetX: ".toList ++
    Numeral.argument.write p.offset ++ ['\x7d']

structure Parameter where
  key : String
  value : List Char

def Parameter.write (p : Parameter) : List Char :=
  if p.key = "" then p.value else p.key.toList ++ ':' :: ' ' :: p.value

def call (name : String) (ps : List Parameter) : List Char :=
  if ps.isEmpty then name.toList
  else name.toList ++ '(' :: commaJoined (ps.map Parameter.write) ++ [')']

def ofInt (n : Int) : List Char := Numeral.integer n

def ofNumber (x : Binary64) : List Char := Numeral.argument.write x

/-- The parameters of an action in the order of their keys. The members of a group are not among
them. -/
def parameters : Action → List Parameter
  | .talk text characters names voice =>
    [⟨"", flatten text⟩,
      ⟨"charID", bracketed (characters.map ofInt)⟩,
      ⟨"charName", bracketed (names.map fun s ↦ (Text.quoted s).toList)⟩,
      ⟨"voicePath", (voice.getD "nil").toList⟩]
  | .telop text => [⟨"", text.toList⟩]
  | .showModel c model p =>
    [⟨"charID", ofInt c⟩, ⟨"modelPath", model.toList⟩, ⟨"position", ofPosition p⟩]
  | .moveModel c p => [⟨"charID", ofInt c⟩, ⟨"position", ofPosition p⟩]
  | .hideModel c => [⟨"charID", ofInt c⟩]
  | .horizontalShake c => [⟨"charID", ofInt c⟩]
  | .verticalShake c => [⟨"charID", ofInt c⟩]
  | .act c motion => [⟨"charID", ofInt c⟩, ⟨"motionName", motion.toList⟩]
  | .express c expression => [⟨"charID", ofInt c⟩, ⟨"expressionName", expression.toList⟩]
  | .showBlackCover d => [⟨"duration", ofNumber d⟩]
  | .hideBlackCover d => [⟨"duration", ofNumber d⟩]
  | .showWhiteCover d => [⟨"duration", ofNumber d⟩]
  | .hideWhiteCover d => [⟨"duration", ofNumber d⟩]
  | .shakeScreen d => [⟨"duration", ofNumber d⟩]
  | .shakeDialogBox d => [⟨"duration", ofNumber d⟩]
  | .changeBackground path => [⟨"path", path.toList⟩]
  | .changeBgm path => [⟨"path", path.toList⟩]
  | .changeSe path => [⟨"path", path.toList⟩]
  | .delay s => [⟨"seconds", ofNumber s⟩]
  | .blocking _ => []
  | .forkTask _ => []
  | .waitForTap => []
  | .waitForAll => []

mutual

def inline (a : Action) : List Char :=
  match a with
  | .blocking actions => call "Blocking" [⟨"array", bracketed (inlineAll actions)⟩]
  | .forkTask actions => call "ForkTask" [⟨"array", bracketed (inlineAll actions)⟩]
  | a => call (heading a) (parameters a)

def inlineAll (actions : List Action) : List (List Char) :=
  match actions with
  | [] => []
  | a :: rest => inline a :: inlineAll rest

end

structure Row where
  depth : Nat
  text : List Char

def Row.write (r : Row) : List Char := List.replicate (2 * r.depth) ' ' ++ r.text ++ ['\n']

def indexed (index : Nat) (text : List Char) : List Char := Numeral.digits index ++ ' ' :: text

def closure (depth index : Nat) (name : String) (members : List Row) : List Row :=
  match members with
  | [] => [⟨depth, indexed index (name.toList ++ [' ', '\x7b', '\x7d'])⟩]
  | members =>
    ⟨depth, indexed index (name.toList ++ [' ', '\x7b'])⟩ :: members ++ [⟨depth, ['\x7d']⟩]

mutual

def rows (depth index : Nat) (a : Action) : List Row :=
  match a with
  | .blocking actions => closure depth index "Blocking" (rowsFrom (depth + 1) 0 actions)
  | .forkTask actions => closure depth index "ForkTask" (rowsFrom (depth + 1) 0 actions)
  | a => [⟨depth, indexed index (call (heading a) (parameters a))⟩]

def rowsFrom (depth index : Nat) (actions : List Action) : List Row :=
  match actions with
  | [] => []
  | a :: rest => rows depth index a ++ rowsFrom depth (index + 1) rest

end

def flatRows : Nat → List Action → List Row
  | _, [] => []
  | index, a :: rest => ⟨0, indexed index (inline a)⟩ :: flatRows (index + 1) rest

/-- Two header lines, the rows, an empty line, and the last line. -/
def text (s : Story) (closures : Bool) : List Char :=
  let body := if closures then rowsFrom 0 0 s.actions else flatRows 0 s.actions
  "# LOCALE: ".toList ++ s.locale.capitals.toList ++ ['\n', '\n'] ++
    body.flatMap Row.write ++ '\n' :: "EOF.".toList

def render (s : Story) (closures : Bool) : String := String.ofList (text s closures)

end Stagecraft.Outline
