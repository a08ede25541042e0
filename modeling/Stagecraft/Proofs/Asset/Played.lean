import Stagecraft.Proofs.Asset.Stage

namespace Stagecraft

open LayoutRecord

namespace Asset

section rows

variable (asset : Asset)

def played : List LayoutRecord := (asset.snippets.filter (·.kind = .layout)).filterMap asset.row?

structure Refers (i n : ℕ) (r : LayoutRecord) : Prop where
  snippet : ∃ s, asset.snippets[i]? = some s ∧ s.kind = .layout ∧ s.reference = n
  row : asset.layouts[n]? = some r

variable {asset} {i : ℕ} {s : Snippet} {r : LayoutRecord}

theorem row?_eq {n : ℕ} (h : s.reference = n) : asset.row? s = asset.layouts[n]? := by
  rw [row?, h]
  rfl

theorem exists_refers (hs : asset.snippets[i]? = some s) (hkind : s.kind = .layout)
    (hrow : asset.row? s = some r) : ∃ n, asset.Refers i n r ∧ s.reference = n := by
  rw [row?] at hrow
  cases hreference : s.reference with
  | ofNat n =>
    rw [hreference] at hrow
    exact ⟨n, ⟨⟨s, hs, hkind, hreference⟩, hrow⟩, rfl⟩
  | negSucc n =>
    rw [hreference] at hrow
    cases hrow

theorem Refers.exists_row {n : ℕ} (h : asset.Refers i n r) :
    ∃ s, asset.snippets[i]? = some s ∧ s.kind = .layout ∧ asset.row? s = some r := by
  obtain ⟨⟨s, hs, hkind, hreference⟩, hr⟩ := h
  exact ⟨s, hs, hkind, (row?_eq hreference).trans hr⟩

theorem played_upTo_succ (hs : asset.snippets[i]? = some s) :
    (asset.upTo (i + 1)).played =
      (asset.upTo i).played ++ if s.kind = .layout then (asset.row? s).toList else [] := by
  change ((asset.snippets.take (i + 1)).filter (·.kind = .layout)).filterMap asset.row? = _
  rw [take_succ_of_getElem? hs, List.filter_append, List.filterMap_append]
  refine congrArg (_ ++ ·) ?_
  by_cases hkind : s.kind = .layout
  · cases hrow : asset.row? s <;> simp [hkind, hrow]
  · simp [hkind]

end rows

section story

variable {asset : Asset} {locale : Locale} {voiceBundle : String} {i : ℕ} {s : Snippet}
  {r : LayoutRecord} {before rest : List Action}

theorem not_isStaging_opening (c : Setting) {a : Action} (h : a ∈ openingActions c) :
    Stage.isStaging a = false := by
  rw [openingActions, List.mem_append] at h
  rcases h with h | h <;> split at h <;> simp_all [Stage.isStaging]

theorem resolved_record (h : Resolved (convert asset locale voiceBundle).diagnostics)
    (hs : asset.snippets[i]? = some s) :
    Resolved (recordOutput ⟨asset, locale, voiceBundle⟩ i s).diagnostics := by
  obtain ⟨rest, -, hdiagnostics⟩ := convert_eq locale voiceBundle hs
  intro d hd
  refine h d ?_
  rw [hdiagnostics]
  exact List.mem_append_right _ (List.mem_append_left _ hd)

/-- Before each snippet the stage is as the rows played so far leave it. -/
theorem play_told (hresolved : Resolved (convert asset locale voiceBundle).diagnostics)
    (hi : i ≤ asset.snippets.length) :
    Stage.empty.play (told asset locale voiceBundle i) =
      fun c ↦ onStage c (asset.upTo i).played.reverse := by
  induction i with
  | zero =>
    rw [told_eq, Stage.play_append]
    exact Stage.play_eq_self fun a ↦ not_isStaging_opening _
  | succ i ih =>
    have hs := List.getElem?_eq_getElem hi
    generalize asset.snippets[i] = s at hs
    have hrecord := resolved_record hresolved hs
    -- The timing of a snippet leaves the stage alone, so only what it refers to counts.
    rw [told_succ _ _ hs, actions_outputAt, Stage.play_append, Stage.play_append, ih (by omega),
      Stage.play_eq_self fun a ha ↦ not_isStaging_of_isTiming (isTiming_of_mem_timing _ ha),
      played_upTo_succ hs]
    by_cases hkind : s.kind = .layout
    · rw [if_pos hkind]
      cases hrow : asset.row? s with
      | none =>
        rw [recordOutput_dangling _ _ hkind hrow, Option.toList_none, List.append_nil]
        rfl
      | some r =>
        obtain ⟨n, hrefers, hreference⟩ := exists_refers hs hkind hrow
        obtain ⟨as, gs, hactions, hrow, hgs⟩ :=
          record_enacts _ _ hkind hreference hrefers.row hrecord
        rw [hactions, Stage.play_append, hrow.play_eq, Stage.play_eq_self hgs, Option.toList_some,
          List.reverse_concat]
    · rw [if_neg hkind, List.append_nil, Stage.play_eq_self fun a ↦ not_isStaging_record _ _ hkind]

variable (asset locale voiceBundle) in
/-- A layout snippet plays a row, and what it does begins behind the actions `before`. -/
structure Plays (i : ℕ) (r : LayoutRecord) (before : List Action) : Prop where
  row : ∃ s, asset.snippets[i]? = some s ∧ s.kind = .layout ∧ asset.row? s = some r
  before_eq : ∃ lead, (∀ a ∈ lead, isTiming a = true) ∧
    before = told asset locale voiceBundle i ++ lead

theorem Plays.stage_eq (h : Plays asset locale voiceBundle i r before)
    (hresolved : Resolved (convert asset locale voiceBundle).diagnostics) :
    Stage.empty.play before = fun c ↦ onStage c (asset.upTo i).played.reverse := by
  obtain ⟨⟨s, hs, -, -⟩, lead, hlead, rfl⟩ := h
  rw [Stage.play_append, play_told hresolved (List.getElem?_eq_some_iff.1 hs).1.le,
    Stage.play_eq_self fun a ha ↦ not_isStaging_of_isTiming (hlead a ha)]

/-- A layout snippet enacts its row by what the table says before the row, wherever in the story the
snippet is. -/
theorem Refers.exists_enacts {n : ℕ} (h : asset.Refers i n r)
    (hresolved : Resolved (convert asset locale voiceBundle).diagnostics) :
    ∃ before as rest, Plays asset locale voiceBundle i r before ∧
      Enacts locale (asset.layouts.take n).reverse r as ∧
      (convert asset locale voiceBundle).story.actions = before ++ (as ++ rest) := by
  obtain ⟨s, hs, hkind, hreference⟩ := h.snippet
  obtain ⟨as, gs, hrecord, henacts, -⟩ :=
    record_enacts _ _ hkind hreference h.row (resolved_record hresolved hs)
  obtain ⟨rest, hactions, -⟩ := convert_eq locale voiceBundle hs
  refine ⟨_, as, gs ++ rest.actions, ⟨h.exists_row, timing (asset.snippets.take i).reverse s,
    fun a ha ↦ isTiming_of_mem_timing _ ha, rfl⟩, henacts, ?_⟩
  rw [hactions, actions_outputAt, hrecord]
  simp

/-- A part of a list that begins with a given entry lies in the first half or begins in the second. -/
theorem append_eq_append_cons {α : Type} {xs ys before rest : List α} {a : α}
    (h : xs ++ ys = before ++ a :: rest) :
    (∃ rest', xs = before ++ a :: rest') ∨
      ∃ before', before = xs ++ before' ∧ ys = before' ++ a :: rest := by
  induction xs generalizing before with
  | nil => exact .inr ⟨before, rfl, h⟩
  | cons x xs ih =>
    cases before with
    | nil => exact .inl ⟨xs, congrArg (· :: xs) (List.cons.inj h).1⟩
    | cons b before =>
      obtain ⟨rfl, htail⟩ := List.cons.inj h
      rcases ih htail with ⟨rest', hxs⟩ | ⟨before', hbefore, hys⟩
      · exact .inl ⟨rest', congrArg (x :: ·) hxs⟩
      · exact .inr ⟨before', congrArg (x :: ·) hbefore, hys⟩

section showModel

variable {c : Int} {model : String} {position : Position}

/-- In what a snippet becomes, a model is shown only as the first action behind the snippet's timing,
and only by an appearance. -/
theorem showModel_of_outputAt
    (hresolved : Resolved (convert asset locale voiceBundle).diagnostics)
    (hs : asset.snippets[i]? = some s)
    (h : (outputAt asset locale voiceBundle i s).actions =
      before ++ .showModel c model position :: rest) :
    before = timing (asset.snippets.take i).reverse s ∧ ∃ n r, asset.Refers i n r ∧
      Shows locale (asset.layouts.take n).reverse r c model := by
  rw [actions_outputAt] at h
  rcases append_eq_append_cons h with ⟨rest', htiming⟩ | ⟨behind, rfl, hrecord⟩
  · exact absurd htiming (Stage.ne_of_not_isStaging fun a ha ↦
      not_isStaging_of_isTiming (isTiming_of_mem_timing _ ha))
  by_cases hkind : s.kind = .layout
  · cases hrow : asset.row? s with
    | none =>
      rw [recordOutput_dangling _ _ hkind hrow] at hrecord
      exact absurd hrecord (by simp)
    | some r =>
      obtain ⟨n, hrefers, hreference⟩ := exists_refers hs hkind hrow
      obtain ⟨as, gs, hactions, henacts, hgs⟩ :=
        record_enacts _ _ hkind hreference hrefers.row (resolved_record hresolved hs)
      rw [hactions] at hrecord
      rcases append_eq_append_cons hrecord with ⟨rest', has⟩ | ⟨behind', -, hgestures⟩
      · obtain ⟨rfl, hshows⟩ := henacts.of_showModel has
        exact ⟨List.append_nil _, n, r, hrefers, hshows⟩
      · exact absurd hgestures (Stage.ne_of_not_isStaging hgs)
  · exact absurd hrecord (Stage.ne_of_not_isStaging fun a ↦ not_isStaging_record _ _ hkind)

theorem exists_shows_told (hresolved : Resolved (convert asset locale voiceBundle).diagnostics)
    (hi : i ≤ asset.snippets.length)
    (h : told asset locale voiceBundle i = before ++ .showModel c model position :: rest) :
    ∃ j n r, asset.Refers j n r ∧ Plays asset locale voiceBundle j r before ∧
      Shows locale (asset.layouts.take n).reverse r c model := by
  induction i generalizing rest with
  | zero =>
    rw [told_eq] at h
    exact absurd h (Stage.ne_of_not_isStaging fun a ha ↦ not_isStaging_opening _
      ((List.append_nil (openingActions _)) ▸ ha))
  | succ i ih =>
    have hs := List.getElem?_eq_getElem hi
    generalize asset.snippets[i] = s at hs
    rw [told_succ _ _ hs] at h
    rcases append_eq_append_cons h with ⟨rest', htold⟩ | ⟨behind, rfl, houtput⟩
    · exact ih (by omega) htold
    · obtain ⟨rfl, n, r, hrefers, hshows⟩ := showModel_of_outputAt hresolved hs houtput
      exact ⟨i, n, r, hrefers,
        ⟨hrefers.exists_row, _, fun a ha ↦ isTiming_of_mem_timing _ ha, rfl⟩, hshows⟩

/-- Every model in a story is shown by a layout snippet that plays an appearance. -/
theorem exists_shows (hresolved : Resolved (convert asset locale voiceBundle).diagnostics)
    (h : (convert asset locale voiceBundle).story.actions =
      before ++ .showModel c model position :: rest) :
    ∃ i n r, asset.Refers i n r ∧ Plays asset locale voiceBundle i r before ∧
      Shows locale (asset.layouts.take n).reverse r c model := by
  rw [← told_length] at h
  exact exists_shows_told hresolved le_rfl h

end showModel

end story

end Asset

end Stagecraft
