import Stagecraft.Story.Basic
import Stagecraft.Json.Decode

namespace Stagecraft

open Json

def Position.toJson (p : Position) : Json :=
  .object [("base", .text p.anchor.name), ("offsetX", .decimal p.offset)]

def Position.decoder : Decoder Position :=
  .record "struct Position"
    (Position.mk <$> .required "base" (.name Anchor.table) <*> .required "offsetX" .number)

namespace Action

def tagged (a : Action) (fields : List (String × Json)) : Json :=
  .object (("action", .text a.name) :: fields)

mutual

def toJson : Action → Json
  | talk t cs ns v =>
    let voice := match v with
      | some path => [("voicePath", Json.text path)]
      | none => []
    tagged (talk t cs ns v)
      ([("text", .text t), ("characterIds", .array (cs.map .integer)),
        ("characterNames", .array (ns.map .text))] ++ voice)
  | telop t => tagged (telop t) [("text", .text t)]
  | showModel c m p =>
    tagged (showModel c m p)
      [("characterId", .integer c), ("modelPath", .text m), ("position", p.toJson)]
  | hideModel c => tagged (hideModel c) [("characterId", .integer c)]
  | moveModel c p => tagged (moveModel c p) [("characterId", .integer c), ("position", p.toJson)]
  | act c m => tagged (act c m) [("characterId", .integer c), ("motionName", .text m)]
  | express c e => tagged (express c e) [("characterId", .integer c), ("expressionName", .text e)]
  | horizontalShake c => tagged (horizontalShake c) [("characterId", .integer c)]
  | verticalShake c => tagged (verticalShake c) [("characterId", .integer c)]
  | showBlackCover d => tagged (showBlackCover d) [("duration", .decimal d)]
  | hideBlackCover d => tagged (hideBlackCover d) [("duration", .decimal d)]
  | showWhiteCover d => tagged (showWhiteCover d) [("duration", .decimal d)]
  | hideWhiteCover d => tagged (hideWhiteCover d) [("duration", .decimal d)]
  | shakeScreen d => tagged (shakeScreen d) [("duration", .decimal d)]
  | shakeDialogBox d => tagged (shakeDialogBox d) [("duration", .decimal d)]
  | changeBackground p => tagged (changeBackground p) [("path", .text p)]
  | changeBgm p => tagged (changeBgm p) [("path", .text p)]
  | changeSe p => tagged (changeSe p) [("path", .text p)]
  | blocking as => tagged (blocking as) [("actions", .array (toJsonAll as))]
  | delay s => tagged (delay s) [("seconds", .decimal s)]
  | forkTask as => tagged (forkTask as) [("actions", .array (toJsonAll as))]
  | waitForTap => tagged waitForTap []
  | waitForAll => tagged waitForAll []

def toJsonAll : List Action → List Json
  | [] => []
  | a :: rest => toJson a :: toJsonAll rest

end

def fieldsOf (kind : String) (fields : Fields Action) : Decoder Action :=
  .record ("struct variant StepAction::" ++ kind) fields

def character : Fields Int := .required "characterId" .integer

def duration : Fields Binary64 := .required "duration" .number

def path : Fields String := .required "path" .string

def kinds (nested : Decoder Action) : List (String × Decoder Action) :=
  let members : Fields (List Action) := .required "actions" (.list nested)
  [("talk", fieldsOf "Talk"
      (talk <$> .required "text" .string <*> .required "characterIds" (.list .integer) <*>
        .required "characterNames" (.list .string) <*>
        .defaulted "voicePath" (.optional .string) none)),
    ("telop", fieldsOf "Telop" (telop <$> .required "text" .string)),
    ("showModel", fieldsOf "ShowModel"
      (showModel <$> character <*> .required "modelPath" .string <*>
        .required "position" Position.decoder)),
    ("hideModel", fieldsOf "HideModel" (hideModel <$> character)),
    ("moveModel", fieldsOf "MoveModel"
      (moveModel <$> character <*> .required "position" Position.decoder)),
    ("act", fieldsOf "Act" (act <$> character <*> .required "motionName" .string)),
    ("express", fieldsOf "Express" (express <$> character <*> .required "expressionName" .string)),
    ("horizontalShake", fieldsOf "HorizontalShake" (horizontalShake <$> character)),
    ("verticalShake", fieldsOf "VerticalShake" (verticalShake <$> character)),
    ("showBlackCover", fieldsOf "ShowBlackCover" (showBlackCover <$> duration)),
    ("hideBlackCover", fieldsOf "HideBlackCover" (hideBlackCover <$> duration)),
    ("showWhiteCover", fieldsOf "ShowWhiteCover" (showWhiteCover <$> duration)),
    ("hideWhiteCover", fieldsOf "HideWhiteCover" (hideWhiteCover <$> duration)),
    ("shakeScreen", fieldsOf "ShakeScreen" (shakeScreen <$> duration)),
    ("shakeDialogBox", fieldsOf "ShakeDialogBox" (shakeDialogBox <$> duration)),
    ("changeBackground", fieldsOf "ChangeBackground" (changeBackground <$> path)),
    ("changeBGM", fieldsOf "ChangeBgm" (changeBgm <$> path)),
    ("changeSE", fieldsOf "ChangeSe" (changeSe <$> path)),
    ("blocking", fieldsOf "Blocking" (blocking <$> members)),
    ("delay", fieldsOf "Delay" (delay <$> .required "seconds" .number)),
    ("forkTask", fieldsOf "ForkTask" (forkTask <$> members)),
    ("waitForTap", .tagOnly waitForTap),
    ("waitForAll", .tagOnly waitForAll)]

def decoderWithin : Nat → Decoder Action
  | 0 => fun _ _ ↦ .error (.fault .malformed)
  | depth + 1 => .tagged "internally tagged enum StepAction" "action" (kinds (decoderWithin depth))

/-- Groups cannot be nested deeper than the containers of the text they come from. -/
def decoder : Decoder Action := decoderWithin (maxDepth + 1)

end Action

namespace Story

def toJson (s : Story) : Json :=
  .object [("locale", .text s.locale.name), ("actions", .array (Action.toJsonAll s.actions))]

def decoder : Decoder Story :=
  .record "struct Story"
    (Story.mk <$> .required "locale" (.name Locale.table) <*>
      .defaulted "actions" (.list Action.decoder) [])

def ofText (s : String) : Except DecodeError Story := decodeText decoder s

end Story

end Stagecraft
