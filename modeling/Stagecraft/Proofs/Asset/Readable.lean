import Stagecraft.Proofs.Asset.Timing
import Stagecraft.Proofs.Json.Finite
import Stagecraft.Proofs.Story.RoundTrip
import Stagecraft.Asset.Loading

namespace Stagecraft

open Json Draft
open Outcome (bind_eq_ok)

def IsId (n : ℤ) : Prop := Binary64.minId ≤ n ∧ n ≤ Binary64.maxId

instance (n : ℤ) : Decidable (IsId n) := inferInstanceAs (Decidable (_ ∧ _))

section Ensures

variable {α : Type} {name : String} {dec : Decoder α} {P : α → Prop}

theorem Json.Fields.Ensures.defaulted (h : dec.Ensures P) {a : α} (ha : P a) :
    (Fields.defaulted name dec a).Ensures P :=
  .field h name fun _ hb ↦ Option.some.inj hb ▸ ha

theorem Json.Fields.Ensures.text : (Fields.text name).Ensures fun _ ↦ True :=
  .defaulted (fun _ _ _ _ _ ↦ trivial) trivial

theorem Json.Fields.Ensures.kind {κ : Type} {table : List (String × κ)} {first : κ} :
    (Fields.kind name table first).Ensures fun _ ↦ True :=
  .defaulted (fun _ _ _ _ _ ↦ trivial) trivial

theorem Json.Fields.Ensures.integer : (Fields.integer name).Ensures IsId :=
  .defaulted .integer (by decide)

theorem Json.Fields.Ensures.number : (Fields.number name).Ensures fun x ↦ x.isFinite :=
  .defaulted .number rfl

theorem Json.Fields.Ensures.list (h : dec.Ensures P) :
    (Fields.list name dec).Ensures fun as ↦ ∀ a ∈ as, P a :=
  .defaulted h.list nofun

end Ensures

theorem Snippet.ensures_decoder : Snippet.decoder.Ensures fun s ↦ s.delay.isFinite := by
  refine .record ?_ _
  exact .seq (.seq (.seq (.map .kind fun _ _ _ _ _ _ _ h ↦ h) .integer) .integer) .number

theorem TalkMotion.ensures_decoder : TalkMotion.decoder.Ensures fun m ↦ IsId m.character := by
  refine .record ?_ _
  exact .seq (.seq (.map .integer fun _ h _ _ _ _ ↦ h) .text) .text

theorem ensures_speakerDecoder : speakerDecoder.Ensures IsId := .record .integer _

theorem TalkRecord.ensures_decoder : TalkRecord.decoder.Ensures fun r ↦
    ∀ c ∈ r.characters ++ r.motions.map TalkMotion.character, IsId c := by
  refine .record ?_ _
  refine .seq (.seq (.seq (.seq (.map (.list ensures_speakerDecoder) ?_) .text) .text)
    (.list TalkMotion.ensures_decoder)) (.list fun _ _ _ _ _ ↦ trivial)
  exact fun _ hcharacters _ _ _ _ _ hmotions _ _ ↦
    List.forall_mem_append.2 ⟨hcharacters, List.forall_mem_map.2 hmotions⟩

theorem LayoutRecord.ensures_decoder : LayoutRecord.decoder.Ensures fun r ↦
    IsId r.offsetTo ∧ IsId r.character := by
  refine .record ?_ _
  refine .seq (.seq (.seq (.seq (.seq (.seq (.seq (.seq (.map .kind ?_) .kind) .integer) .kind)
    .integer) .integer) .text) .text) .text
  exact fun _ _ _ _ _ _ _ _ _ hoffset _ hcharacter _ _ _ _ _ _ ↦ ⟨hoffset, hcharacter⟩

theorem EffectRecord.ensures_decoder : EffectRecord.decoder.Ensures fun r ↦ r.duration.isFinite := by
  refine .record ?_ _
  exact .seq (.seq (.seq (.map .kind fun _ _ _ _ _ _ _ h ↦ h) .text) .text) .number

namespace Asset

/-- The characters and offsets of the asset have 64 bits, and its times are finite. -/
structure InRange (asset : Asset) : Prop where
  characters : ∀ c ∈ asset.characters, IsId c
  offsets : ∀ n ∈ asset.offsets, IsId n
  delays : ∀ s ∈ asset.snippets, s.delay.isFinite
  durations : ∀ d ∈ asset.durations, d.isFinite

theorem ensures_bareDecoder : bareDecoder.Ensures InRange := by
  refine .record ?_ _
  refine .seq (.seq (.seq (.seq (.seq (.seq (.seq (.seq (.map .text ?_) .text) .text) .text)
    (.list Snippet.ensures_decoder)) (.list TalkRecord.ensures_decoder))
    (.list LayoutRecord.ensures_decoder)) (.list EffectRecord.ensures_decoder))
    (.list fun _ _ _ _ _ ↦ trivial)
  intro _ _ _ _ _ _ _ _ snippets hsnippets talks htalks layouts hlayouts effects heffects _ _
  refine ⟨?_, ?_, hsnippets, List.forall_mem_map.2 heffects⟩
  · refine List.forall_mem_append.2 ⟨List.forall_mem_flatMap.2 htalks, ?_⟩
    exact List.forall_mem_map.2 fun r hr ↦ (hlayouts r hr).2
  · exact List.forall_mem_map.2 fun r hr ↦ (hlayouts r hr).1

variable {asset : Asset} {s : String}

theorem ensures_wrappedDecoder : wrappedDecoder.Ensures InRange := by
  intro o j asset hj h
  have hbase : (Fields.required "Base" bareDecoder).Ensures InRange :=
    .field ensures_bareDecoder _ nofun
  cases hj with
  | object hfs => exact hbase.ofObject o _ asset hfs (Decoder.ofObject_eq_ok.1 h).2
  | _ => cases h

theorem inRange_of_ofText (h : ofText s = .ok asset) : asset.InRange := by
  obtain ⟨a, hdecode, hend⟩ := bind_eq_ok.1 h
  obtain rfl : a = asset := by
    split at hend
    · cases hend
    · exact Except.ok.inj hend
  obtain ⟨j, hread, hforms⟩ := bind_eq_ok.1 hdecode
  have hj : Finite j := by
    refine finite_of_ofText (s := s) ?_
    generalize (Document.ofText s).root.read = r at hread ⊢
    cases r with
    | error f => cases hread
    | ok i => exact congrArg _ (Except.ok.inj hread)
  split at hforms
  · next hwrapped =>
    cases hforms
    exact ensures_wrappedDecoder _ j a hj hwrapped
  · split at hforms
    · next hbare =>
      cases hforms
      exact ensures_bareDecoder _ j a hj hbare
    · cases hforms

end Asset

namespace Action

structure Plain (a : Action) : Prop where
  members : a.members? = none
  characters : ∀ c ∈ a.characters, IsId c
  numbers : ∀ x ∈ a.numbers, x.isFinite

end Action

namespace Asset

variable {asset : Asset} {a : Action} {locale : Locale} {voiceBundle : String}

theorem plain_of_isOpening (h : Scenario.isOpening a = true) : a.Plain := by
  cases a with
  | changeBackground path => exact ⟨rfl, List.forall_mem_nil _, List.forall_mem_nil _⟩
  | changeBgm path => exact ⟨rfl, List.forall_mem_nil _, List.forall_mem_nil _⟩
  | _ => cases h

theorem Made.plain (hasset : asset.InRange) (h : Made asset a) : a.Plain := by
  have hoffset {n : ℤ} (hn : n ∈ asset.offsets) : (Binary64.ofInt n).isFinite := by
    have hrange := hasset.offsets n hn
    refine Binary64.isFinite_ofInt (k := 20) (by decide) ?_
    simp only [IsId, Binary64.minId, Binary64.maxId] at hrange
    omega
  cases h with
  | talk text names voice hcs =>
    refine ⟨rfl, fun c hc ↦ ?_, ?_⟩
    · refine hasset.characters c (hcs c ?_)
      cases voice <;> simpa [Action.characters, Trace.values, Trace.Value.ids] using hc
    · cases voice <;> exact List.forall_mem_nil _
  | showModel model anchor hc hn | moveModel anchor hc hn =>
    -- The number stays behind a variable, so that no step computes its rounding.
    have hfinite := hoffset hn
    generalize Binary64.ofInt _ = x at hfinite ⊢
    exact ⟨rfl, List.forall_mem_singleton.2 (hasset.characters _ hc),
      List.forall_mem_singleton.2 hfinite⟩
  | hideModel hc | horizontalShake hc | verticalShake hc | act motion hc | express expression hc =>
    exact ⟨rfl, List.forall_mem_singleton.2 (hasset.characters _ hc), List.forall_mem_nil _⟩
  | showBlackCover hd | hideBlackCover hd | showWhiteCover hd | hideWhiteCover hd | shakeScreen hd
  | shakeDialogBox hd =>
    exact ⟨rfl, List.forall_mem_nil _, List.forall_mem_singleton.2 (hasset.durations _ hd)⟩
  | telop text | changeBackground path | changeBgm path | changeSe path =>
    exact ⟨rfl, List.forall_mem_nil _, List.forall_mem_nil _⟩

/-- Delays are counted from zero or from a positive delay. -/
theorem baseline_cases (earlier : List Snippet) : baseline earlier = .zero ∨
    ∃ s ∈ earlier, s.delay.isPositive ∧ baseline earlier = s.delay := by
  induction earlier with
  | nil => exact .inl rfl
  | cons s earlier ih =>
    rw [baseline]
    split
    · exact .inl rfl
    · split
      · next hpositive => exact .inr ⟨s, List.mem_cons_self, hpositive, rfl⟩
      · refine ih.imp_right ?_
        rintro ⟨t, ht, hdelay⟩
        exact ⟨t, List.mem_cons_of_mem s ht, hdelay⟩

theorem plain_of_mem_timing {earlier : List Snippet} {s : Snippet} (hs : s.delay.isFinite)
    (hearlier : ∀ s ∈ earlier, s.delay.isFinite) (h : a ∈ timing earlier s) : a.Plain := by
  rw [timing, delayActions, gateActions, List.mem_append] at h
  rcases h with h | h
  · split at h
    · next hpositive =>
      obtain rfl := List.mem_singleton.1 h
      refine ⟨rfl, List.forall_mem_nil _, List.forall_mem_singleton.2 ?_⟩
      have hnegative := Binary64.not_isNegative hpositive
      rcases baseline_cases earlier with hbase | ⟨t, ht, hpositive', hbase⟩
      · rw [hbase]
        exact Binary64.isFinite_sub hs rfl hnegative rfl
      · rw [hbase]
        exact Binary64.isFinite_sub hs (hearlier t ht) hnegative (Binary64.not_isNegative hpositive')
    · cases h
  · split at h
    · obtain rfl := List.mem_singleton.1 h
      exact ⟨rfl, List.forall_mem_nil _, List.forall_mem_nil _⟩
    · cases h

/-- Every action of a converted story is plain. -/
theorem plain_of_mem_convert (hasset : asset.InRange)
    (h : a ∈ (convert asset locale voiceBundle).story.actions) : a.Plain := by
  rw [actions_convert, List.mem_append] at h
  rcases h with h | h
  · exact plain_of_isOpening (isOpening_of_mem_opening h)
  · obtain ⟨p, hp, rfl⟩ := List.mem_map.1 h
    obtain ⟨q, hq, hp⟩ := List.mem_flatMap.1 hp
    obtain ⟨a, ha, rfl⟩ := List.mem_map.1 hp
    have hsnippet : q.1 ∈ asset.snippets := List.fst_mem_of_mem_zipIdx hq
    rw [actions_outputAt, List.mem_append] at ha
    rcases ha with ha | ha
    · refine plain_of_mem_timing (hasset.delays _ hsnippet) (fun s hs ↦ ?_) ha
      exact hasset.delays s (List.mem_of_mem_take (List.mem_reverse.1 hs))
    · exact (made_of_mem_record ha).plain hasset

end Asset

namespace Json

variable {α : Type} {js : List Json} {n : ℕ}

theorem nestingItems_le (h : ∀ j ∈ js, j.nesting ≤ n) : nestingItems js ≤ n := by
  induction js with
  | nil => exact Nat.zero_le n
  | cons j js ih =>
    obtain ⟨hj, hjs⟩ := List.forall_mem_cons.1 h
    rw [nestingItems]
    exact max_le hj (ih hjs)

theorem nestingItems_map {f : α → Json} (h : ∀ a, (f a).nesting = 0) (as : List α) :
    nestingItems (as.map f) = 0 :=
  Nat.le_zero.1 (nestingItems_le (List.forall_mem_map.2 fun a _ ↦ (h a).le))

end Json

namespace Action

variable {a : Action} {as : List Action}

theorem nesting_toJson (h : a.members? = none) : a.toJson.nesting ≤ 2 := by
  cases a with
  | blocking as | forkTask as => cases h
  | talk text characters names voice =>
    have hcharacters : nestingItems (characters.map .integer) = 0 := nestingItems_map (fun _ ↦ rfl) _
    have hnames : nestingItems (names.map .text) = 0 := nestingItems_map (fun _ ↦ rfl) _
    cases voice <;> simp [toJson, tagged, nesting, nestingFields, hcharacters, hnames]
  | _ => simp [toJson, tagged, Position.toJson, nesting, nestingFields]

theorem nestingItems_toJsonAll (h : ∀ a ∈ as, a.members? = none) : nestingItems (toJsonAll as) ≤ 2 := by
  induction as with
  | nil => exact Nat.zero_le 2
  | cons a as ih =>
    obtain ⟨ha, has⟩ := List.forall_mem_cons.1 h
    rw [toJsonAll, nestingItems]
    exact max_le (nesting_toJson ha) (ih has)

end Action

/-- A story of plain actions is read back from every text of its JSON form, if its numbers are. -/
theorem Story.ofText_plain {s : Story} {cs b : List Char} (hcs : Written s.toJson cs) (hb : Blank b)
    (hplain : ∀ a ∈ s.actions, a.Plain) (hback : ∀ x ∈ s.numbers, x.isFinite → x.ReadsBack) :
    Story.ofText (String.ofList (cs ++ b)) = .ok s := by
  have hleaves : ∀ a ∈ s.actions, a.members? = none := fun a ha ↦ (hplain a ha).members
  have hwalk : s.walk = s.actions := Action.walkAll_of_leaves hleaves
  have hnesting := Action.nestingItems_toJsonAll hleaves
  refine ofText_written hcs hb ?_ ?_ fun x hx ↦ hback x hx ?_
  · rw [hwalk]
    exact fun a ha ↦ (hplain a ha).characters
  · simp only [toJson, nesting, nestingFields, maxDepth]
    omega
  · obtain ⟨a, ha, hx⟩ := List.mem_flatMap.1 hx
    exact (hplain a (hwalk ▸ ha)).numbers x hx

theorem Asset.exists_of_load {options : Json} {locale : Locale} {source : String}
    {file : Except FileError String} {c : Conversion} (h : load options locale source file = .ok c) :
    ∃ s asset voiceBundle, ofText s = .ok asset ∧ convert asset locale voiceBundle = c := by
  obtain ⟨voiceBundle, -, h⟩ := bind_eq_ok.1 h
  cases file with
  | error e => cases h
  | ok s =>
    dsimp only at h
    cases hasset : ofText s with
    | error e =>
      rw [hasset] at h
      cases h
    | ok asset =>
      rw [hasset] at h
      exact ⟨s, asset, voiceBundle, hasset, Except.ok.inj h⟩

/-- The story of an asset that is loaded is read back from the indented text of its JSON form. -/
theorem Asset.ofText_load {options : Json} {locale : Locale} {source : String}
    {file : Except FileError String} {c : Conversion} (h : load options locale source file = .ok c)
    (hback : ∀ x ∈ c.story.numbers, x.isFinite → x.ReadsBack) :
    Story.ofText c.story.toJson.pretty = .ok c.story := by
  obtain ⟨s, asset, voiceBundle, hasset, rfl⟩ := exists_of_load h
  have hread := Story.ofText_plain (written_indented 0 _) .nil
    (fun a ↦ plain_of_mem_convert (inRange_of_ofText hasset)) hback
  rwa [List.append_nil] at hread

end Stagecraft
