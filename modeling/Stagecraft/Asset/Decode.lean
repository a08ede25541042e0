import Stagecraft.Asset.Basic
import Stagecraft.Json.Decode

namespace Stagecraft

open Json

def codeDecoder {κ : Type} (table : List (String × κ)) (first : κ) : Decoder κ :=
  Decoder.integer.map (kindOfCode table first)

namespace Json.Fields

def text (name : String) : Fields String := .defaulted name .string ""

def integer (name : String) : Fields Int := .defaulted name .integer 0

def number (name : String) : Fields Binary64 := .defaulted name .number .zero

def list {α : Type} (name : String) (dec : Decoder α) : Fields (List α) :=
  .defaulted name (.list dec) []

def kind {κ : Type} (name : String) (table : List (String × κ)) (first : κ) : Fields κ :=
  .defaulted name (codeDecoder table first) first

end Json.Fields

def Snippet.decoder : Decoder Snippet :=
  .record "struct Snippet"
    (Snippet.mk <$> Fields.kind "actionType" SnippetKind.table .none <*>
      Fields.integer "progressType" <*> Fields.integer "referenceIndex" <*> Fields.number "delay")

def TalkMotion.decoder : Decoder TalkMotion :=
  .record "struct TalkMotion"
    (TalkMotion.mk <$> Fields.integer "characterId" <*> Fields.text "motionName" <*>
      Fields.text "expressionName")

def TalkVoice.decoder : Decoder TalkVoice :=
  .record "struct TalkVoice"
    (TalkVoice.mk <$> Fields.integer "characterId" <*> Fields.text "voiceId")

def speakerDecoder : Decoder Int :=
  .record "struct TalkCharacter" (Fields.integer "characterId")

def TalkRecord.decoder : Decoder TalkRecord :=
  .record "struct TalkData"
    (TalkRecord.mk <$> Fields.list "talkCharacters" speakerDecoder <*>
      Fields.text "windowDisplayName" <*> Fields.text "body" <*>
      Fields.list "motions" TalkMotion.decoder <*> Fields.list "voices" TalkVoice.decoder)

def LayoutRecord.decoder : Decoder LayoutRecord :=
  .record "struct LayoutData"
    (LayoutRecord.mk <$> Fields.kind "type" LayoutKind.table .none <*>
      Fields.kind "sideFrom" StageSide.table .none <*> Fields.integer "sideFromOffsetX" <*>
      Fields.kind "sideTo" StageSide.table .none <*> Fields.integer "sideToOffsetX" <*>
      Fields.integer "characterId" <*> Fields.text "costumeType" <*> Fields.text "motionName" <*>
      Fields.text "expressionName")

def EffectRecord.decoder : Decoder EffectRecord :=
  .record "struct SpecialEffectData"
    (EffectRecord.mk <$> Fields.kind "effectType" EffectKind.table .none <*>
      Fields.text "stringVal" <*> Fields.text "stringValSub" <*> Fields.number "duration")

def SoundRecord.decoder : Decoder SoundRecord :=
  .record "struct SoundData"
    (SoundRecord.mk <$> Fields.text "bgm" <*> Fields.text "se" <*> Fields.text "seBundleName")

namespace Asset

def bareDecoder : Decoder Asset :=
  .record "struct StoryAsset"
    (Asset.mk <$> Fields.text "scenarioSceneId" <*> Fields.text "firstBgm" <*>
      Fields.text "firstBackground" <*> Fields.text "firstBackgroundBundleName" <*>
      Fields.list "snippets" Snippet.decoder <*> Fields.list "talkData" TalkRecord.decoder <*>
      Fields.list "layoutData" LayoutRecord.decoder <*>
      Fields.list "specialEffectData" EffectRecord.decoder <*>
      Fields.list "soundData" SoundRecord.decoder)

def wrappedDecoder : Decoder Asset
  | o, .object fs ending => Decoder.ofObject (.required "Base" bareDecoder) o fs ending
  | _, d => reject "struct variant Envelope::Wrapped" d

/-- An asset in either form. The whole value is read first; then the wrapped form is tried, and if
it does not fit, the bare form. -/
def decoder : Decoder Asset := fun _ d ↦ do
  let j ← ofFault d.read
  match wrappedDecoder .setAside (Draft.ofJson j) with
  | .ok a => return a
  | .error _ =>
    match bareDecoder .setAside (Draft.ofJson j) with
    | .ok a => return a
    | .error _ => throw (.noFormMatches "untagged enum Envelope")

def ofText (s : String) : Except DecodeError Asset := decodeText decoder s

end Asset

end Stagecraft
