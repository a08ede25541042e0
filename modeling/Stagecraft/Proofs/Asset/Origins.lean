import Stagecraft.Proofs.Asset.Stage

namespace Stagecraft.Asset

def characters (asset : Asset) : List Int :=
  asset.talks.flatMap (fun r ↦ r.characters ++ r.motions.map TalkMotion.character) ++
    asset.layouts.map LayoutRecord.character

def offsets (asset : Asset) : List Int := asset.layouts.map LayoutRecord.offsetTo

def durations (asset : Asset) : List Binary64 := asset.effects.map EffectRecord.duration

inductive Made (asset : Asset) : Action → Prop
  | talk (text : String) {cs : List Int} (names : List String) (voice : Option String)
      (hcs : ∀ c ∈ cs, c ∈ asset.characters) : Made asset (.talk text cs names voice)
  | telop (text : String) : Made asset (.telop text)
  | showModel {c n : Int} (model : String) (anchor : Anchor) (hc : c ∈ asset.characters)
      (hn : n ∈ asset.offsets) : Made asset (.showModel c model ⟨anchor, .ofInt n⟩)
  | moveModel {c n : Int} (anchor : Anchor) (hc : c ∈ asset.characters)
      (hn : n ∈ asset.offsets) : Made asset (.moveModel c ⟨anchor, .ofInt n⟩)
  | hideModel {c : Int} (hc : c ∈ asset.characters) : Made asset (.hideModel c)
  | horizontalShake {c : Int} (hc : c ∈ asset.characters) : Made asset (.horizontalShake c)
  | verticalShake {c : Int} (hc : c ∈ asset.characters) : Made asset (.verticalShake c)
  | act {c : Int} (motion : String) (hc : c ∈ asset.characters) : Made asset (.act c motion)
  | express {c : Int} (expression : String) (hc : c ∈ asset.characters) :
      Made asset (.express c expression)
  | showBlackCover {d : Binary64} (hd : d ∈ asset.durations) : Made asset (.showBlackCover d)
  | hideBlackCover {d : Binary64} (hd : d ∈ asset.durations) : Made asset (.hideBlackCover d)
  | showWhiteCover {d : Binary64} (hd : d ∈ asset.durations) : Made asset (.showWhiteCover d)
  | hideWhiteCover {d : Binary64} (hd : d ∈ asset.durations) : Made asset (.hideWhiteCover d)
  | shakeScreen {d : Binary64} (hd : d ∈ asset.durations) : Made asset (.shakeScreen d)
  | shakeDialogBox {d : Binary64} (hd : d ∈ asset.durations) : Made asset (.shakeDialogBox d)
  | changeBackground (path : String) : Made asset (.changeBackground path)
  | changeBgm (path : String) : Made asset (.changeBgm path)
  | changeSe (path : String) : Made asset (.changeSe path)

variable {asset : Asset} {a : Action} {index : ℕ} {locale : Locale}

theorem made_of_mem_gestures {c : Int} {motion expression : String} (hc : c ∈ asset.characters)
    (h : a ∈ gestures c motion expression) : Made asset a := by
  rw [gestures, List.mem_append] at h
  rcases h with h | h
  · split at h
    · cases h
    · exact List.mem_singleton.1 h ▸ .act motion hc
  · split at h
    · cases h
    · exact List.mem_singleton.1 h ▸ .express expression hc

theorem made_of_mem_talk {voiceBundle : String} {r : TalkRecord} (hr : r ∈ asset.talks)
    (h : a ∈ talkActions voiceBundle r) : Made asset a := by
  have hcharacters : ∀ c ∈ r.characters ++ r.motions.map TalkMotion.character,
      c ∈ asset.characters :=
    fun c hc ↦ List.mem_append_left _ (List.mem_flatMap.2 ⟨r, hr, hc⟩)
  rw [talkActions, List.mem_cons, List.mem_flatMap] at h
  obtain rfl | ⟨m, hm, h⟩ := h
  · exact .talk _ _ _ fun c hc ↦ hcharacters c (List.mem_append_left _ hc)
  · exact made_of_mem_gestures
      (hcharacters _ (List.mem_append_right _ (List.mem_map_of_mem hm))) h

section layout

variable {r : LayoutRecord} {earlier : List LayoutRecord}

theorem character_mem (hr : r ∈ asset.layouts) : r.character ∈ asset.characters :=
  List.mem_append_right _ (List.mem_map_of_mem hr)

theorem offset_placement (index : ℕ) (side : StageSide) (offset : Int) :
    ∃ anchor, (placement index side offset).1 = ⟨anchor, .ofInt offset⟩ := by
  rw [placement]
  cases side.anchor? with
  | none => exact ⟨.center, rfl⟩
  | some anchor => exact ⟨anchor, rfl⟩

theorem made_of_mem_appearance (hr : r ∈ asset.layouts)
    (h : a ∈ (appearance locale index earlier r).actions) : Made asset a := by
  obtain ⟨anchor, hanchor⟩ := offset_placement index r.sideTo r.offsetTo
  have hoffset : r.offsetTo ∈ asset.offsets := List.mem_map_of_mem hr
  rw [appearance, Output.actions_append, actions_placement, List.nil_append, hanchor] at h
  split at h
  · exact List.mem_singleton.1 h ▸ .moveModel anchor (character_mem hr) hoffset
  · split at h
    · exact List.mem_singleton.1 h ▸ .showModel _ anchor (character_mem hr) hoffset
    · cases h

theorem made_of_mem_staging (hr : r ∈ asset.layouts)
    (h : a ∈ (staging locale index earlier r).actions) : Made asset a := by
  rw [staging] at h
  split at h
  · cases h
  · obtain ⟨anchor, hanchor⟩ := offset_placement index r.sideTo r.offsetTo
    rw [Output.actions_append, actions_placement, List.nil_append, hanchor] at h
    exact List.mem_singleton.1 h ▸ .moveModel anchor (character_mem hr) (List.mem_map_of_mem hr)
  · exact made_of_mem_appearance hr h
  · exact List.mem_singleton.1 h ▸ .hideModel (character_mem hr)
  · exact List.mem_singleton.1 h ▸ .horizontalShake (character_mem hr)
  · exact List.mem_singleton.1 h ▸ .verticalShake (character_mem hr)

theorem made_of_mem_layout {kind : SnippetKind} (hr : r ∈ asset.layouts)
    (h : a ∈ (layoutOutput locale index kind earlier r).actions) : Made asset a := by
  rw [layoutOutput, Output.actions_append, List.mem_append] at h
  rcases h with h | h
  · split at h
    · exact made_of_mem_staging hr h
    · cases h
  · rw [Output.actions_ofActions] at h
    split at h
    · exact made_of_mem_gestures (character_mem hr) h
    · cases h

end layout

theorem made_of_mem_effect {r : EffectRecord} (hr : r ∈ asset.effects)
    (h : a ∈ effectActions locale r) : Made asset a := by
  have hd : r.duration ∈ asset.durations := List.mem_map_of_mem hr
  rw [effectActions] at h
  split at h
  · exact List.mem_singleton.1 h ▸ .hideBlackCover hd
  · exact List.mem_singleton.1 h ▸ .showBlackCover hd
  · exact List.mem_singleton.1 h ▸ .hideWhiteCover hd
  · exact List.mem_singleton.1 h ▸ .showWhiteCover hd
  · exact List.mem_singleton.1 h ▸ .shakeScreen hd
  · exact List.mem_singleton.1 h ▸ .shakeDialogBox hd
  · exact List.mem_singleton.1 h ▸ .changeBackground _
  · exact List.mem_singleton.1 h ▸ .changeBackground _
  · exact List.mem_singleton.1 h ▸ .changeBackground _
  · exact List.mem_singleton.1 h ▸ .telop _
  · split at h
    · exact List.mem_singleton.1 h ▸ .changeBackground _
    · cases h
  · cases h

theorem made_of_mem_sound {r : SoundRecord} (h : a ∈ soundActions locale r) : Made asset a := by
  rw [soundActions, List.mem_append] at h
  rcases h with h | h
  · split at h
    · cases h
    · exact List.mem_singleton.1 h ▸ .changeBgm _
  · split at h
    · cases h
    · exact List.mem_singleton.1 h ▸ .changeSe _

/-- What a snippet refers to becomes nothing but actions made from the asset. -/
theorem made_of_mem_record {c : Setting} {s : Snippet}
    (h : a ∈ (recordOutput c index s).actions) : Made c.asset a := by
  rw [recordOutput] at h
  split at h
  · cases h
  · obtain ⟨_, r, hr, h⟩ := mem_resolve _ h
    exact made_of_mem_talk hr h
  · obtain ⟨_, r, hr, h⟩ := mem_resolve _ h
    exact made_of_mem_layout hr h
  · obtain ⟨_, r, hr, h⟩ := mem_resolve _ h
    exact made_of_mem_layout hr h
  · cases h
  · cases h
  · obtain ⟨_, r, hr, h⟩ := mem_resolve _ h
    exact made_of_mem_effect hr h
  · obtain ⟨_, r, hr, h⟩ := mem_resolve _ h
    exact made_of_mem_sound h

end Stagecraft.Asset
