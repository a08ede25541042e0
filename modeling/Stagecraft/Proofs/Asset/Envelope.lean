import Stagecraft.Asset.Loading
import Stagecraft.Proofs.Json.Decoding

namespace Stagecraft

open Json Draft Outcome

section Uniform

variable {name : String}

theorem Json.Fields.Uniform.text : (Fields.text name).Uniform :=
  .field .string name (some "")

theorem Json.Fields.Uniform.integer : (Fields.integer name).Uniform :=
  .field .integer name (some 0)

theorem Json.Fields.Uniform.number : (Fields.number name).Uniform :=
  .field .number name (some .zero)

theorem Json.Fields.Uniform.list {α : Type} {dec : Decoder α} (h : dec.Uniform) :
    (Fields.list name dec).Uniform :=
  .field h.list name (some [])

theorem Json.Fields.Uniform.kind {κ : Type} {table : List (String × κ)} {first : κ} :
    (Fields.kind name table first).Uniform :=
  .field (Decoder.Uniform.integer.map (kindOfCode table first)) name (some first)

end Uniform

theorem Snippet.uniform_decoder : Snippet.decoder.Uniform :=
  .record (.seq (.seq (.seq (.map .kind _) .integer) .integer) .number) _

theorem TalkMotion.uniform_decoder : TalkMotion.decoder.Uniform :=
  .record (.seq (.seq (.map .integer _) .text) .text) _

theorem TalkVoice.uniform_decoder : TalkVoice.decoder.Uniform :=
  .record (.seq (.map .integer _) .text) _

theorem uniform_speakerDecoder : speakerDecoder.Uniform := .record .integer _

theorem TalkRecord.uniform_decoder : TalkRecord.decoder.Uniform :=
  .record (.seq (.seq (.seq (.seq (.map (.list uniform_speakerDecoder) _) .text) .text)
    (.list TalkMotion.uniform_decoder)) (.list TalkVoice.uniform_decoder)) _

theorem LayoutRecord.uniform_decoder : LayoutRecord.decoder.Uniform :=
  .record (.seq (.seq (.seq (.seq (.seq (.seq (.seq (.seq (.map .kind _) .kind) .integer) .kind)
    .integer) .integer) .text) .text) .text) _

theorem EffectRecord.uniform_decoder : EffectRecord.decoder.Uniform :=
  .record (.seq (.seq (.seq (.map .kind _) .text) .text) .number) _

theorem SoundRecord.uniform_decoder : SoundRecord.decoder.Uniform :=
  .record (.seq (.seq (.map .text _) .text) .text) _

namespace Asset

variable {s : String} {o : Origin} {fs : List (String × Json)} {v : Json} {a : Asset}

def fieldNames : List String :=
  ["scenarioSceneId", "firstBgm", "firstBackground", "firstBackgroundBundleName", "snippets",
    "talkData", "layoutData", "specialEffectData", "soundData"]

def empty : Asset := ⟨"", "", "", "", [], [], [], [], []⟩

theorem exists_fields : ∃ x : Fields Asset,
    bareDecoder = .record "struct StoryAsset" x ∧ x.Uniform ∧ x.names = fieldNames := by
  refine ⟨_, rfl, ?_, rfl⟩
  exact .seq (.seq (.seq (.seq (.seq (.seq (.seq (.seq (.map .text _) .text) .text) .text)
    (.list Snippet.uniform_decoder)) (.list TalkRecord.uniform_decoder))
    (.list LayoutRecord.uniform_decoder)) (.list EffectRecord.uniform_decoder))
    (.list SoundRecord.uniform_decoder)

theorem uniform_bareDecoder : bareDecoder.Uniform := by
  obtain ⟨x, hx, hu, -⟩ := exists_fields
  rw [hx]
  exact Decoder.Uniform.record hu _

/-- Fields with other names than those of an asset do not matter. -/
theorem bareDecoder_filter {p : String → Bool} (hp : ∀ n ∈ fieldNames, p n) :
    bareDecoder o (ofJson (.object (fs.filter (p ·.1)))) = .ok a ↔
      bareDecoder o (ofJson (.object fs)) = .ok a := by
  obtain ⟨x, hx, hu, hn⟩ := exists_fields
  rw [hx]
  exact Decoder.record_filter hu (hn ▸ hp)

theorem wrappedDecoder_eq_ok (hv : fs.filter (·.1 = "Base") = [("Base", v)]) :
    wrappedDecoder .setAside (ofJson (.object fs)) = .ok a ↔ decodeValue bareDecoder v = .ok a := by
  have hp : ∀ n ∈ ["Base"], decide (n = "Base") = true := by simp
  have hnames : knownNames ["Base"] fs = ["Base"] := by
    rw [← knownNames_filter hp, hv]
    rfl
  have hlookup : fs.lookup "Base" = some v := by
    rw [← lookup_filter (p := fun n ↦ decide (n = "Base")) rfl, hv]
    rfl
  refine Decoder.ofObject_eq_ok.trans ?_
  rw [Fields.required, Fields.field_ofObject_eq_ok, hlookup]
  refine ⟨fun h ↦ uniform_bareDecoder _ _ v a h.2, fun h ↦ ⟨?_, uniform_bareDecoder _ _ v a h⟩⟩
  exact hnames ▸ List.nodup_singleton "Base"

structure Spells (s : String) (fs : List (String × Json)) : Prop where
  root : (Document.ofText s).root.read = .ok (.object fs)
  hasTail : (Document.ofText s).hasTail = false

/-- What stands beside the key `Base` in an object. -/
def beside (fs : List (String × Json)) : Json := .object (fs.filter (·.1 ≠ "Base"))

theorem bareDecoder_beside :
    bareDecoder .setAside (ofJson (.object fs)) = .ok a ↔
      decodeValue bareDecoder (beside fs) = .ok a := by
  have hp : ∀ n ∈ fieldNames, decide (n ≠ "Base") = true := by decide
  rw [← bareDecoder_filter (p := fun n ↦ decide (n ≠ "Base")) hp]
  exact uniform_bareDecoder.eq_ok_iff .setAside .value

theorem ofText_eq_decoder (hs : Spells s fs) : ofText s =
    match wrappedDecoder .setAside (ofJson (.object fs)) with
    | .ok a => .ok a
    | .error _ =>
      match bareDecoder .setAside (ofJson (.object fs)) with
      | .ok a => .ok a
      | .error _ => .error (.noFormMatches "untagged enum Envelope") := by
  rw [ofText, decodeText, decoder, hs.root, hs.hasTail, ofFault, ok_bind]
  cases wrappedDecoder .setAside (ofJson (.object fs)) with
  | ok a => rfl
  | error e => cases bareDecoder .setAside (ofJson (.object fs)) <;> rfl

/-- A value under the key `Base` that is no asset is not refused: the fields beside it are decoded in
its place. -/
theorem ofText_eq_match (hs : Spells s fs) (hv : fs.filter (·.1 = "Base") = [("Base", v)]) :
    ofText s =
      match decodeValue bareDecoder v, decodeValue bareDecoder (beside fs) with
      | .ok a, _ => .ok a
      | .error _, .ok a => .ok a
      | .error _, .error _ => .error (.noFormMatches "untagged enum Envelope") := by
  rw [ofText_eq_decoder hs]
  cases hw : wrappedDecoder .setAside (ofJson (.object fs)) with
  | ok a => rw [(wrappedDecoder_eq_ok hv).1 hw]
  | error e =>
    cases hbase : decodeValue bareDecoder v with
    | ok a => cases hw.symm.trans ((wrappedDecoder_eq_ok hv).2 hbase)
    | error e' =>
      cases hbare : bareDecoder .setAside (ofJson (.object fs)) with
      | ok a => rw [bareDecoder_beside.1 hbare]
      | error e'' =>
        cases hbeside : decodeValue bareDecoder (beside fs) with
        | ok a => cases hbare.symm.trans (bareDecoder_beside.2 hbeside)
        | error _ => rfl

theorem ofText_eq_ok_iff (hs : Spells s fs) (hv : fs.filter (·.1 = "Base") = [("Base", v)]) :
    ofText s = .ok a ↔ decodeValue bareDecoder v = .ok a ∨
      (∀ b, decodeValue bareDecoder v ≠ .ok b) ∧ decodeValue bareDecoder (beside fs) = .ok a := by
  rw [ofText_eq_match hs hv]
  cases decodeValue bareDecoder v with
  | ok b => simp
  | error e => cases decodeValue bareDecoder (beside fs) <;> simp

theorem load_eq_ok_iff {options : Json} {locale : Locale} {source content voiceBundle : String}
    {c : Conversion} (ho : voiceBundleOption options = .ok voiceBundle) :
    load options locale source (.ok content) = .ok c ↔
      ∃ a, ofText content = .ok a ∧ convert a locale voiceBundle = c := by
  rw [load, ho, ok_bind]
  dsimp only
  cases ofText content with
  | error e => exact ⟨nofun, fun ⟨_, h, _⟩ ↦ nomatch h⟩
  | ok a =>
    refine ⟨fun h ↦ ⟨a, rfl, Except.ok.inj h⟩, ?_⟩
    rintro ⟨_, ⟨⟩, h⟩
    exact congrArg _ h

def Faithful (s : String) (v : Json) : Prop :=
  ∀ a, ofText s = .ok a ↔ decodeValue bareDecoder v = .ok a

theorem faithful_iff (hs : Spells s fs) (hv : fs.filter (·.1 = "Base") = [("Base", v)]) :
    Faithful s v ↔ (∃ a, decodeValue bareDecoder v = .ok a) ∨
      ∀ a, decodeValue bareDecoder (beside fs) ≠ .ok a := by
  have h (a : Asset) := ofText_eq_ok_iff (a := a) hs hv
  constructor
  · intro hf
    by_contra! hn
    obtain ⟨hbase, a, hbeside⟩ := hn
    exact hbase a ((hf a).1 ((h a).2 (.inr ⟨hbase, hbeside⟩)))
  · rintro (⟨b, hb⟩ | hbeside) a
    · rw [h a]
      exact or_iff_left fun hn ↦ hn.1 b hb
    · rw [h a]
      exact or_iff_left fun hn ↦ hbeside a hn.2

/-- An object with one key `Base` is read as what stands under it exactly if that is an asset or the
fields beside it are none. Otherwise what stands beside it is read, also where the asset is loaded. -/
theorem ofText_base (hs : Spells s fs) (hv : fs.filter (·.1 = "Base") = [("Base", v)]) :
    (Faithful s v ↔ (∃ a, decodeValue bareDecoder v = .ok a) ∨
      ∀ a, decodeValue bareDecoder (beside fs) ≠ .ok a) ∧
    (ofText s =
      match decodeValue bareDecoder v, decodeValue bareDecoder (beside fs) with
      | .ok a, _ => .ok a
      | .error _, .ok a => .ok a
      | .error _, .error _ => .error (.noFormMatches "untagged enum Envelope")) ∧
    ∀ options locale source voiceBundle, voiceBundleOption options = .ok voiceBundle →
      ∀ c, load options locale source (.ok s) = .ok c ↔
        ∃ a, (decodeValue bareDecoder v = .ok a ∨ (∀ b, decodeValue bareDecoder v ≠ .ok b) ∧
          decodeValue bareDecoder (beside fs) = .ok a) ∧ convert a locale voiceBundle = c := by
  refine ⟨faithful_iff hs hv, ofText_eq_match hs hv, fun options locale source voiceBundle ho c ↦ ?_⟩
  rw [load_eq_ok_iff ho]
  simp only [ofText_eq_ok_iff hs hv]

def nullBody : Json :=
  .object [("firstBgm", .text "bgm01"), ("talkData", .array [.object [("body", .null)]])]

def nullBodyText : String :=
  "\x7b\"Base\":\x7b\"firstBgm\":\"bgm01\",\"talkData\":[\x7b\"body\":null\x7d]\x7d\x7d"

theorem toList_nullBodyText : nullBodyText.toList =
    ['\x7b', '"', 'B', 'a', 's', 'e', '"', ':', '\x7b', '"', 'f', 'i', 'r', 's', 't', 'B', 'g', 'm',
      '"', ':', '"', 'b', 'g', 'm', '0', '1', '"', ',', '"', 't', 'a', 'l', 'k', 'D', 'a', 't', 'a',
      '"', ':', '[', '\x7b', '"', 'b', 'o', 'd', 'y', '"', ':', 'n', 'u', 'l', 'l', '\x7d', ']',
      '\x7d', '\x7d'] := by
  decide +kernel

theorem spells_nullBodyText : Spells nullBodyText [("Base", nullBody)] := by
  constructor <;> rw [Document.ofText, toList_nullBodyText] <;> rfl

theorem decodeValue_nullBody :
    decodeValue bareDecoder nullBody = .error (.wrongKind .null "a string") := rfl

theorem not_faithful_nullBodyText : ¬ ∀ (s : String) (fs : List (String × Json)) (v : Json),
    Spells s fs → fs.filter (·.1 = "Base") = [("Base", v)] → Faithful s v := by
  intro h
  have hf := h nullBodyText _ nullBody spells_nullBodyText rfl empty
  have hempty : ofText nullBodyText = .ok empty := by
    rw [ofText_eq_match spells_nullBodyText rfl, decodeValue_nullBody]
    rfl
  cases decodeValue_nullBody.symm.trans (hf.1 hempty)

theorem ofText_nullBodyText : ofText nullBodyText = .ok empty ∧
    load .null .jp "scene.json" (.ok nullBodyText) = .ok (convert empty .jp "") := by
  obtain ⟨-, htext, hload⟩ := ofText_base spells_nullBodyText (v := nullBody) rfl
  have hbeside : decodeValue bareDecoder (beside [("Base", nullBody)]) = .ok empty := rfl
  have hbase (b : Asset) : decodeValue bareDecoder nullBody ≠ .ok b := by
    rw [decodeValue_nullBody]
    exact nofun
  rw [decodeValue_nullBody, hbeside] at htext
  exact ⟨htext, (hload .null .jp "scene.json" "" rfl _).2 ⟨empty, .inr ⟨hbase, hbeside⟩, rfl⟩⟩

end Asset

end Stagecraft
