import Stagecraft.Proofs.Asset.Contribution
import Stagecraft.Proofs.Asset.Reappearance

namespace Stagecraft

open LayoutRecord

/-- How an appearance comes out behind some rows of the table. -/
inductive Settled (locale : Locale) (rows : List LayoutRecord) (r : LayoutRecord) (index : ℕ) :
    List Action → List Diagnostic → Prop
  | moved (position : Position) (hon : lastPresence? r.character rows = some true) :
      Settled locale rows r index [.moveModel r.character position] []
  | shown (costume : String) (position : Position)
      (hoff : lastPresence? r.character rows ≠ some true)
      (hcostume : lastCostume? r.character (rows ++ [r]) = some costume) :
      Settled locale rows r index
        [.showModel r.character (locale.name ++ "/live2d/chara/" ++ costume) position] []
  | reported (detail : String) (hoff : lastPresence? r.character rows ≠ some true)
      (hnone : lastCostume? r.character (rows ++ [r]) = none) :
      Settled locale rows r index [] [.error (.snippet index) .unresolvedCostume detail]

namespace Settled

variable {locale : Locale} {rows : List LayoutRecord} {r : LayoutRecord} {index : ℕ}
  {as : List Action} {ds : List Diagnostic}

theorem of_showModel {c : Int} {model : String} {position : Position}
    (h : Settled locale rows r index as ds) (hmem : .showModel c model position ∈ as) :
    r.character = c ∧ ∃ costume, lastCostume? r.character (rows ++ [r]) = some costume ∧
      model = locale.name ++ "/live2d/chara/" ++ costume := by
  cases h with
  | moved position hon => cases List.mem_singleton.1 hmem
  | shown costume position hoff hcostume =>
    cases List.mem_singleton.1 hmem
    exact ⟨rfl, costume, hcostume, rfl⟩
  | reported detail hoff hnone => cases hmem

theorem ne_nil_iff (h : Settled locale rows r index as ds) :
    ds ≠ [] ↔ lastPresence? r.character rows ≠ some true ∧
      lastCostume? r.character (rows ++ [r]) = none := by
  cases h with
  | moved position hon => simp [hon]
  | shown costume position hoff hcostume => simp [hcostume]
  | reported detail hoff hnone => simp [hoff, hnone]

end Settled

namespace LayoutRecord

variable {c : Int} {rows : List LayoutRecord} {costume : String}

theorem lastCostume?_eq_none_iff :
    lastCostume? c rows = none ↔ ∀ row ∈ rows, row.character = c → row.costume = "" := by
  rw [lastCostume?, List.getLast?_eq_none_iff, List.filter_eq_nil_iff, List.forall_mem_map]
  simp

theorem ne_empty_of_lastCostume? (h : lastCostume? c rows = some costume) : costume ≠ "" := by
  have hmem := List.mem_of_getLast? h
  exact of_decide_eq_true (List.mem_filter.1 hmem).2

end LayoutRecord

theorem Stage.filter_eq_nil {as : List Action} (h : ∀ a ∈ as, Stage.isStaging a = false) :
    as.filter Stage.isStaging = [] :=
  List.filter_eq_nil_iff.2 fun a ha ↦ Bool.eq_false_iff.1 (h a ha)

namespace Asset

section appearance

variable {locale : Locale} {rows : List LayoutRecord} {r : LayoutRecord} {index : ℕ}

theorem not_isError_placement {side : StageSide} {offset : Int} {d : Diagnostic}
    (h : d ∈ (placement index side offset).2.diagnostics) : d.isError = false := by
  rw [placement] at h
  cases ha : side.anchor? with
  | some a =>
    rw [ha] at h
    cases h
  | none =>
    rw [ha] at h
    cases List.mem_singleton.1 h
    rfl

theorem appearance_settles (locale : Locale) (rows : List LayoutRecord) (r : LayoutRecord)
    (index : ℕ) : Settled locale rows r index
      ((appearance locale index rows.reverse r).actions.filter Stage.isStaging)
      ((appearance locale index rows.reverse r).diagnostics.filter Diagnostic.isError) := by
  have hcostume : lastCostume? r.character (rows ++ [r]) =
      latestCostume? r.character (r :: rows.reverse) := by
    rw [lastCostume?_eq, List.reverse_concat]
  have herrors : (placement index r.sideTo r.offsetTo).2.diagnostics.filter Diagnostic.isError = [] :=
    List.filter_eq_nil_iff.2 fun d hd ↦ Bool.eq_false_iff.1 (not_isError_placement hd)
  rw [appearance, Output.actions_append, Output.diagnostics_append, List.filter_append,
    List.filter_append, herrors, actions_placement]
  cases hstage : onStage r.character rows.reverse with
  | true => exact .moved _ (onStage_reverse_iff.1 hstage)
  | false =>
    have hoff : lastPresence? r.character rows ≠ some true := by
      intro hon
      rw [onStage_reverse_iff.2 hon] at hstage
      cases hstage
    cases h : latestCostume? r.character (r :: rows.reverse) with
    | some costume => exact .shown costume _ hoff (hcostume.trans h)
    | none => exact .reported _ hoff (hcostume.trans h)

end appearance

section record

variable {c : Setting} {index : ℕ} {s : Snippet} {d : Diagnostic}

theorem not_isError_resolve {α : Type} {table : List α} {what : String} {reference : Int}
    {convert : List α → α → Output}
    (hconvert : ∀ earlier r, ∀ d ∈ (convert earlier r).diagnostics, d.isError = false)
    (h : d ∈ (resolve table what index reference convert).diagnostics) : d.isError = false := by
  obtain ⟨n, r, -, -, heq⟩ | ⟨-, detail, heq⟩ := resolve_cases index table what reference convert
  · rw [heq] at h
    exact hconvert _ r d h
  · rw [heq] at h
    cases List.mem_singleton.1 h
    rfl

theorem not_isError_record (hkind : s.kind ≠ .layout)
    (h : d ∈ (recordOutput c index s).diagnostics) : d.isError = false := by
  rw [recordOutput] at h
  cases hs : s.kind with
  | none =>
    rw [hs] at h
    cases h
  | layout => exact absurd hs hkind
  | input =>
    rw [hs] at h
    cases List.mem_singleton.1 h
    rfl
  | selectable =>
    rw [hs] at h
    cases List.mem_singleton.1 h
    rfl
  | _ =>
    rw [hs] at h
    exact not_isError_resolve (fun _ _ ↦ List.forall_mem_nil _) h

theorem not_isError_staging {locale : Locale} {earlier : List LayoutRecord} {r : LayoutRecord}
    (hkind : r.kind ≠ .appear) (h : d ∈ (staging locale index earlier r).diagnostics) :
    d.isError = false := by
  cases hr : r.kind with
  | appear => exact absurd hr hkind
  | move =>
    have hmove : (staging locale index earlier r).diagnostics =
        (placement index r.sideTo r.offsetTo).2.diagnostics := by
      rw [staging, hr]
      exact List.append_nil _
    exact not_isError_placement (hmove ▸ h)
  | _ =>
    have hnone : (staging locale index earlier r).diagnostics = [] := by
      rw [staging, hr]
      rfl
    rw [hnone] at h
    cases h

theorem kind_of_showModel {locale : Locale} {earlier : List LayoutRecord} {r : LayoutRecord}
    {character : Int} {model : String} {position : Position}
    (h : .showModel character model position ∈ (staging locale index earlier r).actions) :
    r.kind = .appear := by
  rw [staging] at h
  cases hr : r.kind with
  | appear => rfl
  | move =>
    rw [hr, Output.actions_append, actions_placement, List.nil_append] at h
    cases List.mem_singleton.1 h
  | _ => simp [hr] at h

end record

section story

variable {asset : Asset} {locale : Locale} {voiceBundle : String} {i n : ℕ} {s : Snippet}
  {r : LayoutRecord}

theorem Refers.take_succ (h : asset.Refers i n r) :
    asset.layouts.take (n + 1) = asset.layouts.take n ++ [r] := by
  rw [List.take_add_one, h.row, Option.toList_some]

theorem Refers.settles (locale : Locale) (voiceBundle : String) (h : asset.Refers i n r)
    (hkind : r.kind = .appear) : ∃ x, Contributes asset locale voiceBundle i x ∧
      Settled locale (asset.layouts.take n) r i (x.actions.filter Stage.isStaging)
        (x.diagnostics.filter Diagnostic.isError) := by
  obtain ⟨s, hs, hlayout, hreference⟩ := h.snippet
  obtain ⟨gs, hgs, hrecord⟩ :=
    recordOutput_row ⟨asset, locale, voiceBundle⟩ i hlayout hreference h.row
  rw [staging, hkind] at hrecord
  have htiming : (timing (asset.snippets.take i).reverse s).filter Stage.isStaging = [] :=
    Stage.filter_eq_nil fun a ha ↦ not_isStaging_of_isTiming (isTiming_of_mem_timing _ ha)
  have hactions : (outputAt asset locale voiceBundle i s).actions.filter Stage.isStaging =
      (appearance locale i (asset.layouts.take n).reverse r).actions.filter Stage.isStaging := by
    rw [actions_outputAt, List.filter_append, htiming, hrecord, Output.actions_append,
      List.filter_append, Output.actions_ofActions, Stage.filter_eq_nil hgs, List.append_nil,
      List.nil_append]
  have hdiagnostics : (outputAt asset locale voiceBundle i s).diagnostics =
      (appearance locale i (asset.layouts.take n).reverse r).diagnostics := by
    change (recordOutput ⟨asset, locale, voiceBundle⟩ i s).diagnostics = _
    rw [hrecord]
    exact List.append_nil _
  refine ⟨_, contributes_outputAt hs, ?_⟩
  rw [hactions, hdiagnostics]
  exact appearance_settles locale (asset.layouts.take n) r i

theorem layout_record (locale : Locale) (voiceBundle : String) (hs : asset.snippets[i]? = some s)
    (hkind : s.kind = .layout) :
    (∃ n r gs, asset.Refers i n r ∧ (∀ a ∈ gs, Stage.isStaging a = false) ∧
      recordOutput ⟨asset, locale, voiceBundle⟩ i s =
        staging locale i (asset.layouts.take n).reverse r ++ .ofActions gs) ∨
    ∃ detail, recordOutput ⟨asset, locale, voiceBundle⟩ i s =
      .ofDiagnostic (.warning (.snippet i) .unresolvedReference detail) := by
  obtain ⟨n, r, hreference, hr, -⟩ | ⟨-, detail, hreported⟩ :=
    resolve_cases i asset.layouts "layout" s.reference (layoutOutput locale i .layout)
  · obtain ⟨gs, hgs, hrecord⟩ :=
      recordOutput_row ⟨asset, locale, voiceBundle⟩ i hkind hreference hr
    exact .inl ⟨n, r, gs, ⟨⟨s, hs, hkind, hreference⟩, hr⟩, hgs, hrecord⟩
  · exact .inr ⟨detail, by rw [recordOutput, hkind, ← hreported]⟩

theorem refers_of_isError {d : Diagnostic} (hs : asset.snippets[i]? = some s)
    (h : d ∈ (outputAt asset locale voiceBundle i s).diagnostics) (herror : d.isError = true) :
    ∃ n r, asset.Refers i n r ∧ r.kind = .appear := by
  change d ∈ (recordOutput ⟨asset, locale, voiceBundle⟩ i s).diagnostics at h
  by_cases hkind : s.kind = .layout
  · obtain ⟨n, r, gs, hrefers, -, hrecord⟩ | ⟨detail, hrecord⟩ :=
      layout_record locale voiceBundle hs hkind
    · refine ⟨n, r, hrefers, by_contra fun happear ↦ ?_⟩
      rw [hrecord, Output.diagnostics_append, List.mem_append] at h
      rw [not_isError_staging happear (h.resolve_right nofun)] at herror
      cases herror
    · rw [hrecord] at h
      cases List.mem_singleton.1 h
      cases herror
  · rw [not_isError_record hkind h] at herror
    cases herror

theorem refers_of_showModel {c : Int} {model : String} {position : Position}
    (hs : asset.snippets[i]? = some s)
    (h : .showModel c model position ∈ (outputAt asset locale voiceBundle i s).actions) :
    ∃ n r, asset.Refers i n r ∧ r.kind = .appear := by
  rw [actions_outputAt, List.mem_append] at h
  have hrecord := h.resolve_left fun htiming ↦ by cases isTiming_of_mem_timing _ htiming
  by_cases hkind : s.kind = .layout
  · obtain ⟨n, r, gs, hrefers, hgs, heq⟩ | ⟨detail, heq⟩ :=
      layout_record locale voiceBundle hs hkind
    · rw [heq, Output.actions_append, List.mem_append] at hrecord
      have hstaged := hrecord.resolve_right fun hmem ↦ by cases hgs _ hmem
      exact ⟨n, r, hrefers, kind_of_showModel hstaged⟩
    · rw [heq] at hrecord
      cases hrecord
  · cases not_isStaging_record _ _ hkind hrecord

theorem exists_costume {c : Int} {model : String} {position : Position}
    (h : .showModel c model position ∈ (convert asset locale voiceBundle).story.actions) :
    ∃ i n r x costume, asset.Refers i n r ∧ r.kind = .appear ∧ r.character = c ∧
      Contributes asset locale voiceBundle i x ∧ .showModel c model position ∈ x.actions ∧
      lastCostume? c (asset.layouts.take (n + 1)) = some costume ∧
      model = locale.name ++ "/live2d/chara/" ++ costume := by
  obtain hopening | ⟨i, s, hs, hmem⟩ := mem_opening_or_contribution h
  · cases not_isStaging_opening _ hopening
  · obtain ⟨n, r, hrefers, hkind⟩ := refers_of_showModel hs hmem
    obtain ⟨x, hx, hsettled⟩ := hrefers.settles locale voiceBundle hkind
    obtain rfl := hx.eq (contributes_outputAt hs)
    obtain ⟨hc, costume, hcostume, hmodel⟩ :=
      hsettled.of_showModel (List.mem_filter.2 ⟨hmem, rfl⟩)
    rw [← hrefers.take_succ, hc] at hcostume
    exact ⟨i, n, r, _, costume, hrefers, hkind, hc, hx, hmem, hcostume, hmodel⟩

/-- A layout snippet that plays an appearance moves a model, shows one or reports an error, and does
just one of these. Every model in the story is shown by such a snippet, in the costume that the rows of
its character up to the referenced one named last. There is an error just if some appearance finds its
character off stage and no costume named up to it. -/
theorem appearances_settled (asset : Asset) (locale : Locale) (voiceBundle : String) :
    let conversion := convert asset locale voiceBundle
    (∀ i n r, asset.Refers i n r → r.kind = .appear →
      ∃ x, Contributes asset locale voiceBundle i x ∧
        Settled locale (asset.layouts.take n) r i (x.actions.filter Stage.isStaging)
          (x.diagnostics.filter Diagnostic.isError)) ∧
    (∀ c model position, .showModel c model position ∈ conversion.story.actions →
      ∃ i n r x costume, asset.Refers i n r ∧ r.kind = .appear ∧ r.character = c ∧
        Contributes asset locale voiceBundle i x ∧ .showModel c model position ∈ x.actions ∧
        lastCostume? c (asset.layouts.take (n + 1)) = some costume ∧ costume ≠ "" ∧
        model = locale.name ++ "/live2d/chara/" ++ costume) ∧
    (Diagnostic.hasErrors conversion.diagnostics = true ↔
      ∃ i n r, asset.Refers i n r ∧ r.kind = .appear ∧
        lastPresence? r.character (asset.layouts.take n) ≠ some true ∧
        ∀ row ∈ asset.layouts.take (n + 1), row.character = r.character → row.costume = "") := by
  refine ⟨fun i n r hrefers ↦ hrefers.settles locale voiceBundle, ?_, ?_, ?_⟩
  · intro c model position h
    obtain ⟨i, n, r, x, costume, hrefers, hkind, hc, hx, hmem, hcostume, hmodel⟩ := exists_costume h
    exact ⟨i, n, r, x, costume, hrefers, hkind, hc, hx, hmem, hcostume,
      ne_empty_of_lastCostume? hcostume, hmodel⟩
  · intro h
    obtain ⟨d, hd, herror⟩ := List.any_eq_true.1 h
    obtain ⟨i, s, hs, hmem⟩ := mem_contribution hd
    obtain ⟨n, r, hrefers, hkind⟩ := refers_of_isError hs hmem herror
    obtain ⟨x, hx, hsettled⟩ := hrefers.settles locale voiceBundle hkind
    obtain rfl := hx.eq (contributes_outputAt hs)
    obtain ⟨hoff, hnone⟩ :=
      hsettled.ne_nil_iff.1 (List.ne_nil_of_mem (List.mem_filter.2 ⟨hmem, herror⟩))
    rw [← hrefers.take_succ] at hnone
    exact ⟨i, n, r, hrefers, hkind, hoff, lastCostume?_eq_none_iff.1 hnone⟩
  · rintro ⟨i, n, r, hrefers, hkind, hoff, hunnamed⟩
    obtain ⟨x, hx, hsettled⟩ := hrefers.settles locale voiceBundle hkind
    have hnone := lastCostume?_eq_none_iff.2 hunnamed
    rw [hrefers.take_succ] at hnone
    obtain ⟨d, hd⟩ := List.exists_mem_of_ne_nil _ (hsettled.ne_nil_iff.2 ⟨hoff, hnone⟩)
    rw [hx.diagnostics_eq, List.mem_filter, List.mem_filter] at hd
    exact List.any_eq_true.2 ⟨d, hd.1.1, hd.2⟩

end story

def lateCostume : Asset :=
  playing [0, 2] [layoutRow .appear "", layoutRow .hide "", layoutRow .appear "002_school"]

theorem appearances_settled_lateCostume :
    lateCostume.Refers 1 2 (layoutRow .appear "002_school") ∧
    (∃ x, Contributes lateCostume .jp "" 1 x ∧
      Settled .jp (lateCostume.layouts.take 2) (layoutRow .appear "002_school") 1
        (x.actions.filter Stage.isStaging) (x.diagnostics.filter Diagnostic.isError)) ∧
    (∃ i n r costume, lateCostume.Refers i n r ∧
      lastCostume? 2 (lateCostume.layouts.take (n + 1)) = some costume ∧
      "jp/live2d/chara/002_school" = Locale.jp.name ++ "/live2d/chara/" ++ costume) ∧
    Diagnostic.hasErrors (convert lateCostume .jp "").diagnostics = true := by
  have hfirst : lateCostume.Refers 0 0 (layoutRow .appear "") := ⟨⟨_, rfl, rfl, rfl⟩, rfl⟩
  have hsecond : lateCostume.Refers 1 2 (layoutRow .appear "002_school") :=
    ⟨⟨_, rfl, rfl, rfl⟩, rfl⟩
  have hactions : (convert lateCostume .jp "").story.actions =
      [.showModel 2 "jp/live2d/chara/002_school" ⟨.center, .ofInt 0⟩] := rfl
  obtain ⟨hsettles, hshown, herrors⟩ := appearances_settled lateCostume .jp ""
  obtain ⟨i, n, r, x, costume, hrefers, -, -, -, -, hcostume, -, hmodel⟩ :=
    hshown _ _ _ (List.mem_of_mem_head? (congrArg List.head? hactions))
  exact ⟨hsecond, hsettles 1 2 _ hsecond rfl, ⟨i, n, r, costume, hrefers, hcostume, hmodel⟩,
    herrors.2 ⟨0, 0, _, hfirst, rfl, by decide, by decide⟩⟩

end Asset

end Stagecraft
