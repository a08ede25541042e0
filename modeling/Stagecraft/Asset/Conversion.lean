import Stagecraft.Asset.Staging
import Stagecraft.Text.Lowercase
import Stagecraft.Text.Lines

namespace Stagecraft

structure Conversion where
  story : Story
  diagnostics : List Diagnostic

namespace Asset

structure Setting where
  asset : Asset
  locale : Locale
  voiceBundle : String

def commonSeBase : String := "https://bestdori.com/res/CommonSE"

def musicPath (locale : Locale) (bgm : String) : String :=
  locale.name ++ "/sound/scenario/bgm/" ++ Text.lowercase bgm ++ "/" ++ bgm ++ ".mp3"

def backgroundPath (locale : Locale) (bundle background : String) : String :=
  locale.name ++ "/" ++ bundle ++ "/" ++ background ++ ".png"

def sePath (locale : Locale) (bundle se : String) : String :=
  if bundle = "" then commonSeBase ++ "/" ++ se ++ ".mp3"
  else locale.name ++ "/sound/se/" ++ bundle ++ "/" ++ se ++ ".mp3"

def voicePath (bundle voice : String) : String :=
  if bundle = "" then voice ++ ".mp3" else bundle ++ "/" ++ voice ++ ".mp3"

def gestures (character : Int) (motion expression : String) : List Action :=
  (if motion = "" then [] else [.act character motion]) ++
    (if expression = "" then [] else [.express character expression])

def talkActions (voiceBundle : String) (r : TalkRecord) : List Action :=
  let voice := r.voices.head?.map fun v ↦ voicePath voiceBundle v.voice
  .talk r.body r.characters [r.windowName] voice ::
    r.motions.flatMap fun m ↦ gestures m.character m.motion m.expression

def staging (locale : Locale) (index : Nat) (earlier : List LayoutRecord) (r : LayoutRecord) :
    Output :=
  match r.kind with
  | .none => .nothing
  | .move =>
    let (position, warnings) := placement index r.sideTo r.offsetTo
    warnings ++ .ofActions [.moveModel r.character position]
  | .appear => appearance locale index earlier r
  | .hide => .ofActions [.hideModel r.character]
  | .shakeX => .ofActions [.horizontalShake r.character]
  | .shakeY => .ofActions [.verticalShake r.character]

/-- A layout record. A snippet of kind motion takes the gestures only; one of kind layout takes
both, but no gestures of a character that leaves. -/
def layoutOutput (locale : Locale) (index : Nat) (kind : SnippetKind)
    (earlier : List LayoutRecord) (r : LayoutRecord) : Output :=
  let staged := if kind = .layout then staging locale index earlier r else .nothing
  let moved :=
    if r.kind ≠ .hide ∨ kind = .motion then gestures r.character r.motion r.expression else []
  staged ++ .ofActions moved

def isBackgroundEffect (value : String) : Bool :=
  (Text.after? "bgchange".toList value.toList).isSome

/-- The action of an effect record. Effects that only the engine knows have none. -/
def effectActions (locale : Locale) (r : EffectRecord) : List Action :=
  match r.kind with
  | .blackIn => [.hideBlackCover r.duration]
  | .blackOut => [.showBlackCover r.duration]
  | .whiteIn => [.hideWhiteCover r.duration]
  | .whiteOut => [.showWhiteCover r.duration]
  | .shakeScreen => [.shakeScreen r.duration]
  | .shakeWindow => [.shakeDialogBox r.duration]
  | .changeBackground => [.changeBackground (backgroundPath locale r.value r.subvalue)]
  | .changeBackgroundStill => [.changeBackground (backgroundPath locale r.value r.subvalue)]
  | .changeCardStill => [.changeBackground (backgroundPath locale r.value r.subvalue)]
  | .telop => [.telop r.value]
  | .playScenarioEffect =>
    if isBackgroundEffect r.value then
      [.changeBackground (backgroundPath locale r.subvalue "bg")]
    else []
  | _ => []

def soundActions (locale : Locale) (r : SoundRecord) : List Action :=
  (if r.bgm = "" then [] else [.changeBgm (musicPath locale r.bgm)]) ++
    (if r.se = "" then [] else [.changeSe (sePath locale r.seBundle r.se)])

def place? (reference : Int) : Option Nat :=
  match reference with
  | .ofNat n => some n
  | .negSucc _ => none

/-- Looks up the record that a snippet refers to and converts it, or reports that there is none. The
conversion gets the rows before the record, latest first, and the record. -/
def resolve {α : Type} (table : List α) (what : String) (index : Nat) (reference : Int)
    (convert : List α → α → Output) : Output :=
  match (place? reference).bind fun n ↦ table[n]?.map fun r ↦ (n, r) with
  | some (n, r) => convert (table.take n).reverse r
  | none =>
    .ofDiagnostic (.warning (.snippet index) .unresolvedReference
      (what ++ " record " ++ String.ofList (Numeral.integer reference) ++ " does not exist (" ++
        String.ofList (Numeral.digits table.length) ++ " records)"))

def leftOut (index : Nat) (kind : String) : Output :=
  .ofDiagnostic (.warning (.snippet index) .unsupportedSnippet
    ("'" ++ kind ++ "' snippets are not supported"))

def recordOutput (c : Setting) (index : Nat) (s : Snippet) : Output :=
  match s.kind with
  | .none => .nothing
  | .talk =>
    resolve c.asset.talks "talk" index s.reference fun _ r ↦
      .ofActions (talkActions c.voiceBundle r)
  | .layout =>
    resolve c.asset.layouts "layout" index s.reference (layoutOutput c.locale index .layout)
  | .motion =>
    resolve c.asset.layouts "layout" index s.reference (layoutOutput c.locale index .motion)
  | .input => leftOut index "input"
  | .selectable => leftOut index "selectable"
  | .effect =>
    resolve c.asset.effects "effect" index s.reference fun _ r ↦
      .ofActions (effectActions c.locale r)
  | .sound =>
    resolve c.asset.sounds "sound" index s.reference fun _ r ↦
      .ofActions (soundActions c.locale r)

/-- The delay from which the next snippet counts: that of the latest earlier snippet with one,
unless a gating snippet comes first. The latest snippet comes first in the list. -/
def baseline : List Snippet → Binary64
  | [] => .zero
  | s :: rest =>
    if s.isGating then .zero
    else if s.delay.isPositive then s.delay
    else baseline rest

def delayActions (earlier : List Snippet) (s : Snippet) : List Action :=
  if s.delay.isPositive then [.delay (s.delay.sub (baseline earlier))] else []

def gateActions (s : Snippet) : List Action := if s.isGating then [.waitForAll] else []

def snippetOutput (c : Setting) (index : Nat) (earlier : List Snippet) (s : Snippet) : Output :=
  .ofActions (delayActions earlier s ++ gateActions s) ++ recordOutput c index s

/-- The snippets from an index on; `earlier` has those before it, latest first. -/
def snippetsOutput (c : Setting) : Nat → List Snippet → List Snippet → Output
  | _, _, [] => .nothing
  | index, earlier, s :: rest =>
    snippetOutput c index earlier s ++ snippetsOutput c (index + 1) (s :: earlier) rest

def openingActions (c : Setting) : List Action :=
  (if c.asset.firstBgm = "" then [] else [.changeBgm (musicPath c.locale c.asset.firstBgm)]) ++
    (if c.asset.firstBackground = "" then []
      else [.changeBackground
        (backgroundPath c.locale c.asset.firstBackgroundBundle c.asset.firstBackground)])

/-- The story of an asset for a locale, with voice lines in the given directory. -/
def convert (asset : Asset) (locale : Locale) (voiceBundle : String) : Conversion :=
  let c : Setting := ⟨asset, locale, voiceBundle⟩
  let output := .ofActions (openingActions c) ++ snippetsOutput c 0 [] asset.snippets
  ⟨⟨locale, output.actions⟩, output.diagnostics⟩

end Asset

end Stagecraft
