import Stagecraft.Proofs.Asset.Played

namespace Stagecraft

namespace LayoutRecord

def lastCostume? (c : Int) (rows : List LayoutRecord) : Option String :=
  (((rows.filter (·.character = c)).map costume).filter (· ≠ "")).getLast?

theorem lastCostume?_eq (c : Int) (rows : List LayoutRecord) :
    lastCostume? c rows = latestCostume? c rows.reverse := by
  rw [lastCostume?, latestCostume?, List.getLast?_filter, ← List.map_reverse, ← List.filter_reverse,
    List.find?_map, List.find?_filter]
  simp

end LayoutRecord

open LayoutRecord

namespace Asset

section order

variable (asset : Asset)

def layoutReferences : List Int :=
  (asset.snippets.filter (·.kind = .layout)).map Snippet.reference

/-- The layout snippets refer to the rows 0, 1, 2 and so on, in this order. -/
def PlaysInOrder : Prop :=
  asset.layoutReferences = (List.range asset.layoutReferences.length).map Int.ofNat

def cue (i : ℕ) : ℕ := ((asset.snippets.take i).filter (·.kind = .layout)).length

variable {asset} {i : ℕ} {s : Snippet}

theorem cue_succ (hs : asset.snippets[i]? = some s) :
    asset.cue (i + 1) = asset.cue i + if s.kind = .layout then 1 else 0 := by
  rw [cue, take_succ_of_getElem? hs, List.filter_append, List.length_append, ← cue]
  by_cases hkind : s.kind = .layout <;> simp [hkind]

theorem PlaysInOrder.reference_eq (h : asset.PlaysInOrder) (hs : asset.snippets[i]? = some s)
    (hkind : s.kind = .layout) : s.reference = asset.cue i := by
  obtain ⟨hi, hsi⟩ := List.getElem?_eq_some_iff.1 hs
  have hsplit : asset.snippets = asset.snippets.take i ++ s :: asset.snippets.drop (i + 1) := by
    rw [← hsi, ← List.drop_eq_getElem_cons hi, List.take_append_drop]
  have hget : asset.layoutReferences[asset.cue i]? = some s.reference := by
    rw [layoutReferences]
    conv_lhs => rw [hsplit]
    rw [List.filter_append, List.map_append, List.getElem?_append_right (by simp [cue])]
    simp [cue, hkind]
  rw [h, List.getElem?_map, Option.map_eq_some_iff] at hget
  obtain ⟨k, hk, hreference⟩ := hget
  obtain ⟨hlt, hk⟩ := List.getElem?_eq_some_iff.1 hk
  rw [← hreference, ← hk, List.getElem_range]
  rfl

/-- Before a snippet exactly the first rows of the table have been played. -/
theorem PlaysInOrder.played_upTo (h : asset.PlaysInOrder) (i : ℕ) :
    (asset.upTo i).played = asset.layouts.take (asset.cue i) := by
  induction i with
  | zero => rfl
  | succ i ih =>
    cases hs : asset.snippets[i]? with
    | none =>
      have htake : asset.snippets.take (i + 1) = asset.snippets.take i := by
        rw [List.take_add_one, hs, Option.toList_none, List.append_nil]
      rw [cue, upTo, htake]
      exact ih
    | some s =>
      rw [played_upTo_succ hs, cue_succ hs, ih]
      split
      · next hkind => rw [row?_eq (h.reference_eq hs hkind), List.take_add_one]
      · rw [List.append_nil, Nat.add_zero]

end order

section story

variable {asset : Asset} {locale : Locale} {voiceBundle : String} {i n : ℕ} {s : Snippet}
  {r : LayoutRecord}

theorem PlaysInOrder.eq_cue (horder : asset.PlaysInOrder) (h : asset.Refers i n r) :
    n = asset.cue i := by
  obtain ⟨s, hs, hkind, hreference⟩ := h.snippet
  rw [horder.reference_eq hs hkind] at hreference
  exact (Int.ofNat.inj hreference).symm

theorem PlaysInOrder.played_of_refers (horder : asset.PlaysInOrder) (h : asset.Refers i n r) :
    (asset.upTo i).played = asset.layouts.take n ∧
      (asset.upTo (i + 1)).played = asset.layouts.take n ++ [r] := by
  obtain rfl := horder.eq_cue h
  obtain ⟨s, hs, hkind, hrow⟩ := h.exists_row
  refine ⟨horder.played_upTo i, ?_⟩
  rw [played_upTo_succ hs, if_pos hkind, hrow, horder.played_upTo, Option.toList_some]

/-- An appearance moves who is on stage and shows who is not. -/
theorem exists_staged (horder : asset.PlaysInOrder)
    (hresolved : Resolved (convert asset locale voiceBundle).diagnostics)
    (hs : asset.snippets[i]? = some s) (hkind : s.kind = .layout)
    (hrow : asset.row? s = some r) (happear : r.kind = .appear) :
    ∃ before model position rest, Plays asset locale voiceBundle i r before ∧
      (convert asset locale voiceBundle).story.actions =
        before ++ (if Stage.empty.play before r.character then .moveModel r.character position
          else .showModel r.character model position) :: rest := by
  obtain ⟨n, hrefers, -⟩ := exists_refers hs hkind hrow
  obtain ⟨before, as, rest, hplays, henacts, hactions⟩ := hrefers.exists_enacts hresolved
  obtain ⟨model, position, has⟩ := henacts.eq_of_appear happear
  refine ⟨before, model, position, rest, hplays, ?_⟩
  -- In order, the rows before this one in the table are the rows played before it.
  rw [hactions, has, hplays.stage_eq hresolved, (horder.played_of_refers hrefers).1]
  rfl

/-- Every model is shown by an appearance, in the costume named last by the rows played. -/
theorem plays_of_showModel (horder : asset.PlaysInOrder)
    (hresolved : Resolved (convert asset locale voiceBundle).diagnostics) {before rest : List Action}
    {c : Int} {model : String} {position : Position}
    (h : (convert asset locale voiceBundle).story.actions =
      before ++ .showModel c model position :: rest) :
    ∃ i r, Plays asset locale voiceBundle i r before ∧ r.kind = .appear ∧ r.character = c ∧
      ∃ costume, lastCostume? c (asset.upTo (i + 1)).played = some costume ∧
        model = modelPath locale costume := by
  obtain ⟨i, n, r, hrefers, hplays, hshows⟩ := exists_shows hresolved h
  obtain ⟨costume, hcostume, hmodel⟩ := hshows.costume
  refine ⟨i, r, hplays, hshows.kind, hshows.character, costume, ?_, hmodel⟩
  rw [(horder.played_of_refers hrefers).2, lastCostume?_eq, List.reverse_concat, hcostume]

/-- If the layout snippets play the layout table in its order and every appearance has a costume, each
appearance moves a character who is on stage at that moment and shows one who is not, and every model
is shown in the costume that the rows of its character named last. -/
theorem staging_agrees (asset : Asset) (locale : Locale) (voiceBundle : String)
    (horder : asset.PlaysInOrder)
    (hresolved : Resolved (convert asset locale voiceBundle).diagnostics) :
    let actions := (convert asset locale voiceBundle).story.actions
    (∀ i s r, asset.snippets[i]? = some s → s.kind = .layout → asset.row? s = some r →
      r.kind = .appear → ∃ before model position rest,
        Plays asset locale voiceBundle i r before ∧
        actions = before ++ (if Stage.empty.play before r.character then
          .moveModel r.character position else .showModel r.character model position) :: rest) ∧
    ∀ before c model position rest, actions = before ++ .showModel c model position :: rest →
      ∃ i r, Plays asset locale voiceBundle i r before ∧ r.kind = .appear ∧ r.character = c ∧
        ∃ costume, lastCostume? c (asset.upTo (i + 1)).played = some costume ∧
          model = locale.name ++ "/live2d/chara/" ++ costume := by
  refine ⟨fun i s r hs hkind hrow happear ↦
    exists_staged horder hresolved hs hkind hrow happear, fun before c model position rest h ↦ ?_⟩
  exact plays_of_showModel horder hresolved h

end story

def layoutRow (kind : LayoutKind) (costume : String) : LayoutRecord :=
  ⟨kind, .none, 0, .center, 0, 2, costume, "", ""⟩

def reappearance : Asset where
  sceneId := ""
  firstBgm := ""
  firstBackground := ""
  firstBackgroundBundle := ""
  snippets := [⟨.motion, 0, 3, .zero⟩, ⟨.layout, 0, 0, .zero⟩, ⟨.layout, 1, 1, .zero⟩,
    ⟨.sound, 0, 7, .zero⟩, ⟨.layout, 0, 2, .zero⟩, ⟨.layout, 0, 3, .zero⟩]
  talks := []
  layouts := [layoutRow .appear "002_school", layoutRow .hide "", layoutRow .appear "",
    layoutRow .appear ""]
  effects := []
  sounds := []

theorem resolved_reappearance : Resolved (convert reappearance .jp "").diagnostics := by
  decide +kernel

theorem staging_agrees_reappearance :
    reappearance.PlaysInOrder ∧ Resolved (convert reappearance .jp "").diagnostics ∧
      ∃ before model position rest,
        Plays reappearance .jp "" 4 (layoutRow .appear "") before ∧
        (convert reappearance .jp "").story.actions =
          before ++ (if Stage.empty.play before 2 then .moveModel 2 position
            else .showModel 2 model position) :: rest :=
  have horder : reappearance.PlaysInOrder := rfl
  ⟨horder, resolved_reappearance,
    (staging_agrees reappearance .jp "" horder resolved_reappearance).1 4 _ _ rfl rfl rfl rfl⟩

end Asset

end Stagecraft
