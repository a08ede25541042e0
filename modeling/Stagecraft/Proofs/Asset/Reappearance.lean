import Stagecraft.Proofs.Asset.Playback
import Stagecraft.Proofs.Asset.Reports

namespace Stagecraft

open LayoutRecord

namespace LayoutRecord

def lastPresence? (c : Int) (rows : List LayoutRecord) : Option Bool :=
  ((rows.filter (·.character = c)).filterMap presence?).getLast?

theorem onStage_reverse (c : Int) (rows : List LayoutRecord) :
    onStage c rows.reverse = (lastPresence? c rows).getD false := by
  induction rows using List.reverseRecOn with
  | nil => rfl
  | append_singleton rows r ih =>
    rw [List.reverse_concat, onStage, ih, lastPresence?, lastPresence?, List.filter_append,
      List.filterMap_append]
    by_cases hc : r.character = c
    · cases hp : r.presence? <;> simp [hc, hp]
    · simp [hc]

theorem onStage_reverse_iff {c : Int} {rows : List LayoutRecord} :
    onStage c rows.reverse = true ↔ lastPresence? c rows = some true := by
  rw [onStage_reverse]
  cases lastPresence? c rows <;> simp

end LayoutRecord

namespace Asset

/-- A layout snippet refers to an appearance whose character is off stage in the rows before it in the
table, and on stage in the rows played before it. -/
def ShowsAgain (asset : Asset) (i : ℕ) : Prop :=
  ∃ n r, asset.Refers i n r ∧ r.kind = .appear ∧
    lastPresence? r.character (asset.layouts.take n) ≠ some true ∧
    lastPresence? r.character (asset.upTo i).played = some true

variable {asset : Asset}

/-- In the order of the table no model is shown twice. -/
theorem PlaysInOrder.not_showsAgain (h : asset.PlaysInOrder) (i : ℕ) : ¬asset.ShowsAgain i := by
  rintro ⟨n, r, hrefers, -, hoff, hon⟩
  rw [(h.played_of_refers hrefers).1] at hon
  exact hoff hon

/-- If there is no error, no model is shown of a character who is on stage already, unless a layout
snippet refers to an appearance that the table and the play see differently. -/
theorem not_shown_twice_iff (asset : Asset) (locale : Locale) (voiceBundle : String)
    (h : Diagnostic.hasErrors (convert asset locale voiceBundle).diagnostics = false) :
    (∀ before c model position rest, (convert asset locale voiceBundle).story.actions =
      before ++ .showModel c model position :: rest → Stage.empty.play before c = false) ↔
    ∀ i, ¬asset.ShowsAgain i := by
  have hresolved := resolved_of_not_hasErrors h
  constructor
  · rintro hnever i ⟨n, r, hrefers, happear, hoff, hon⟩
    obtain ⟨before, as, rest, hplays, henacts, hactions⟩ := hrefers.exists_enacts hresolved
    obtain ⟨model, position, has⟩ := henacts.eq_of_appear happear
    rw [if_neg (mt onStage_reverse_iff.1 hoff)] at has
    have hstage : Stage.empty.play before r.character = true := by
      rw [hplays.stage_eq hresolved]
      exact onStage_reverse_iff.2 hon
    rw [hnever before r.character model position rest (by rw [hactions, has]; rfl)] at hstage
    cases hstage
  · intro hagain before c model position rest hactions
    obtain ⟨i, n, r, hrefers, hplays, hshows⟩ := exists_shows hresolved hactions
    obtain rfl := hshows.character
    rw [hplays.stage_eq hresolved, Bool.eq_false_iff, Ne, onStage_reverse_iff]
    intro hon
    refine hagain i ⟨n, r, hrefers, hshows.kind, fun hoff ↦ ?_, hon⟩
    have hshown := hshows.off
    rw [onStage_reverse_iff.2 hoff] at hshown
    cases hshown

def playing (references : List Int) (layouts : List LayoutRecord) : Asset where
  sceneId := ""
  firstBgm := ""
  firstBackground := ""
  firstBackgroundBundle := ""
  snippets := references.map fun n ↦ ⟨.layout, 0, n, .zero⟩
  talks := []
  layouts := layouts
  effects := []
  sounds := []

/-- One row is played twice, but the character has left in between. -/
theorem not_shown_twice_returning :
    let asset := playing [0, 1, 0] [layoutRow .appear "002_school", layoutRow .hide ""]
    Diagnostic.hasErrors (convert asset .jp "").diagnostics = false ∧
      ∀ before c model position rest, (convert asset .jp "").story.actions =
        before ++ .showModel c model position :: rest → Stage.empty.play before c = false := by
  intro asset
  have herrors : Diagnostic.hasErrors (convert asset .jp "").diagnostics = false := by
    decide +kernel
  refine ⟨herrors, (not_shown_twice_iff asset .jp "" herrors).2 ?_⟩
  rintro i ⟨n, r, ⟨⟨s, hs, -, hreference⟩, hr⟩, happear, -, hon⟩
  match i with
  | 0 => cases hon
  | 1 =>
    cases hs
    cases hreference
    cases hr
    cases happear
  | 2 =>
    cases hs
    cases hreference
    cases hr
    revert hon
    decide
  | i + 3 => cases hs

/-- A row that is played twice in a row shows its model twice. -/
theorem not_never_shown_twice : ¬∀ (asset : Asset) (locale : Locale) (voiceBundle : String),
    Diagnostic.hasErrors (convert asset locale voiceBundle).diagnostics = false →
    ∀ before c model position rest, (convert asset locale voiceBundle).story.actions =
      before ++ .showModel c model position :: rest → Stage.empty.play before c = false := by
  intro h
  have hstage := h (playing [0, 0] [layoutRow .appear "002_school"]) .jp "" (by decide +kernel)
    [.showModel 2 "jp/live2d/chara/002_school" ⟨.center, .ofInt 0⟩] 2
    "jp/live2d/chara/002_school" ⟨.center, .ofInt 0⟩ [] rfl
  cases hstage

end Asset

end Stagecraft
