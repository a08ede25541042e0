import Stagecraft.Scenario.Reference
import Stagecraft.Story.Basic

namespace Stagecraft

namespace Scenario

inductive LayoutKind where
  | appear
  | hide
  | move
  | shakeX
  | shakeY
  deriving DecidableEq

def LayoutKind.name : LayoutKind → String
  | appear => "appear"
  | hide => "hide"
  | move => "move"
  | shakeX => "shakeX"
  | shakeY => "shakeY"

inductive Slot where
  | leftOver
  | leftInside
  | center
  | rightInside
  | rightOver
  deriving DecidableEq

def Slot.name : Slot → String
  | leftOver => "leftOver"
  | leftInside => "leftInside"
  | center => "center"
  | rightInside => "rightInside"
  | rightOver => "rightOver"

/-- The slot of an anchor. Five slots stand for twelve anchors. -/
def Slot.ofAnchor : Anchor → Slot
  | .leftOutside => leftOver
  | .left => leftInside
  | .leftInside => leftInside
  | .leftBottom => leftInside
  | .leftInsideBottom => leftInside
  | .center => center
  | .centerBottom => center
  | .rightOutside => rightOver
  | .right => rightInside
  | .rightInside => rightInside
  | .rightBottom => rightInside
  | .rightInsideBottom => rightInside

structure Place where
  slot : Slot
  offset : Int
  deriving DecidableEq

def Place.ofPosition (p : Position) : Place := ⟨.ofAnchor p.anchor, p.offset.toId⟩

inductive Effect where
  | blackIn (duration : Binary64)
  | blackOut (duration : Binary64)
  | whiteIn (duration : Binary64)
  | whiteOut (duration : Binary64)
  | shakeScreen (duration : Binary64)
  | shakeWindow (duration : Binary64)
  | telop (text : String)
  | changeBackground (background : Reference)

inductive Body where
  | talk (characters : List Int) (name : String) (text : String)
  | layout (kind : LayoutKind) (character : Int) (costume : String) (start target : Place)
  | motion (character : Int) (costume motion expression : String)
  | effect (effect : Effect)
  | sound (bgm se : Option Reference)

structure Record where
  /-- Whole seconds before the record starts. -/
  delay : Int
  /-- Whether the player waits for the record to finish. -/
  wait : Bool
  body : Body

end Scenario

structure Scenario where
  server : Int
  background : Option Scenario.Reference
  bgm : Option Scenario.Reference
  records : List Scenario.Record

namespace Scenario

namespace Effect

def name : Effect → String
  | blackIn _ => "blackIn"
  | blackOut _ => "blackOut"
  | whiteIn _ => "whiteIn"
  | whiteOut _ => "whiteOut"
  | shakeScreen _ => "shakeScreen"
  | shakeWindow _ => "shakeWindow"
  | telop _ => "telop"
  | changeBackground _ => "changeBackground"

def detail : Effect → String × Json
  | blackIn d => ("duration", .decimal d)
  | blackOut d => ("duration", .decimal d)
  | whiteIn d => ("duration", .decimal d)
  | whiteOut d => ("duration", .decimal d)
  | shakeScreen d => ("duration", .decimal d)
  | shakeWindow d => ("duration", .decimal d)
  | telop text => ("text", .text text)
  | changeBackground r => ("background", r.toJson)

end Effect

def referenceField (name : String) (r : Option Reference) : List (String × Json) :=
  (r.map fun r ↦ (name, r.toJson)).toList

def Body.fields : Body → List (String × Json)
  | talk characters name text =>
    [("type", .text "talk"), ("characters", .array (characters.map .integer)),
      ("name", .text name), ("body", .text text), ("motions", .array []), ("voices", .array []),
      ("close", .boolean false)]
  | layout kind character costume start target =>
    [("type", .text "layout"), ("layoutType", .text kind.name), ("character", .integer character),
      ("costume", .text costume), ("motion", .text ""), ("expression", .text ""),
      ("sideFrom", .text start.slot.name), ("sideFromOffsetX", .integer start.offset),
      ("sideTo", .text target.slot.name), ("sideToOffsetX", .integer target.offset)]
  | motion character costume gesture expression =>
    [("type", .text "motion"), ("character", .integer character), ("costume", .text costume),
      ("motion", .text gesture), ("expression", .text expression)]
  | effect e => [("type", .text "effect"), ("effectType", .text e.name), e.detail]
  | sound bgm se => ("type", .text "sound") :: referenceField "bgm" bgm ++ referenceField "se" se

def Record.toJson (r : Record) : Json :=
  .object (("delay", .integer r.delay) :: ("wait", .boolean r.wait) :: r.body.fields)

/-- The JSON form of a scenario. Voices are not carried over. -/
def toJson (s : Scenario) : Json :=
  .object ([("server", .integer s.server), ("voice", .text "")] ++
    referenceField "background" s.background ++ referenceField "bgm" s.bgm ++
    [("actions", .array (s.records.map Record.toJson))])

end Scenario

end Stagecraft
