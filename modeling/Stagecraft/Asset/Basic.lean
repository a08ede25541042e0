import Stagecraft.Binary64.Basic

namespace Stagecraft

inductive SnippetKind where
  | none
  | talk
  | layout
  | input
  | motion
  | selectable
  | effect
  | sound
  deriving DecidableEq

inductive LayoutKind where
  | none
  | move
  | appear
  | hide
  | shakeX
  | shakeY
  deriving DecidableEq

inductive StageSide where
  | none
  | left
  | leftOver
  | leftInside
  | center
  | right
  | rightOver
  | rightInside
  | leftUnder
  | leftInsideUnder
  | centerUnder
  | rightUnder
  | rightInsideUnder
  deriving DecidableEq

inductive EffectKind where
  | none
  | blackIn
  | blackOut
  | whiteIn
  | whiteOut
  | shakeScreen
  | shakeWindow
  | changeBackground
  | telop
  | flashbackIn
  | flashbackOut
  | changeCardStill
  | ambientColorNormal
  | ambientColorEvening
  | ambientColorNight
  | playScenarioEffect
  | stopScenarioEffect
  | changeBackgroundStill
  deriving DecidableEq

/-- The kinds in the order of their codes, each with its name. The first stands for no kind. -/
def SnippetKind.table : List (String × SnippetKind) :=
  [("None", none), ("Talk", talk), ("Layout", layout), ("Input", input), ("Motion", motion),
    ("Selectable", selectable), ("Effect", effect), ("Sound", sound)]

def LayoutKind.table : List (String × LayoutKind) :=
  [("None", none), ("Move", move), ("Appear", appear), ("Hide", hide), ("ShakeX", shakeX),
    ("ShakeY", shakeY)]

def StageSide.table : List (String × StageSide) :=
  [("None", none), ("Left", left), ("LeftOver", leftOver), ("LeftInside", leftInside),
    ("Center", center), ("Right", right), ("RightOver", rightOver), ("RightInside", rightInside),
    ("LeftUnder", leftUnder), ("LeftInsideUnder", leftInsideUnder), ("CenterUnder", centerUnder),
    ("RightUnder", rightUnder), ("RightInsideUnder", rightInsideUnder)]

def EffectKind.table : List (String × EffectKind) :=
  [("None", none), ("BlackIn", blackIn), ("BlackOut", blackOut), ("WhiteIn", whiteIn),
    ("WhiteOut", whiteOut), ("ShakeScreen", shakeScreen), ("ShakeWindow", shakeWindow),
    ("ChangeBackground", changeBackground), ("Telop", telop), ("FlashbackIn", flashbackIn),
    ("FlashbackOut", flashbackOut), ("ChangeCardStill", changeCardStill),
    ("AmbientColorNormal", ambientColorNormal), ("AmbientColorEvening", ambientColorEvening),
    ("AmbientColorNight", ambientColorNight), ("PlayScenarioEffect", playScenarioEffect),
    ("StopScenarioEffect", stopScenarioEffect), ("ChangeBackgroundStill", changeBackgroundStill)]

/-- The kind with a code, the first one if there is none. -/
def kindOfCode {κ : Type} (table : List (String × κ)) (first : κ) (code : Int) : κ :=
  match code with
  | .ofNat n => (table[n]?.map Prod.snd).getD first
  | .negSucc _ => first

def kindName {κ : Type} [DecidableEq κ] (table : List (String × κ)) (k : κ) : String :=
  match table.find? (·.2 = k) with
  | some (name, _) => name
  | Option.none => ""

structure Snippet where
  kind : SnippetKind
  progress : Int
  /-- The place of the record in its table. -/
  reference : Int
  /-- Seconds since the last gating snippet. -/
  delay : Binary64

def Snippet.isGating (s : Snippet) : Bool := s.progress = 1

structure TalkMotion where
  character : Int
  motion : String
  expression : String

structure TalkVoice where
  character : Int
  voice : String

structure TalkRecord where
  characters : List Int
  windowName : String
  body : String
  motions : List TalkMotion
  voices : List TalkVoice

structure LayoutRecord where
  kind : LayoutKind
  sideFrom : StageSide
  offsetFrom : Int
  sideTo : StageSide
  offsetTo : Int
  character : Int
  costume : String
  motion : String
  expression : String

structure EffectRecord where
  kind : EffectKind
  value : String
  subvalue : String
  duration : Binary64

structure SoundRecord where
  bgm : String
  se : String
  seBundle : String

structure Asset where
  sceneId : String
  firstBgm : String
  firstBackground : String
  firstBackgroundBundle : String
  snippets : List Snippet
  talks : List TalkRecord
  layouts : List LayoutRecord
  effects : List EffectRecord
  sounds : List SoundRecord

end Stagecraft
