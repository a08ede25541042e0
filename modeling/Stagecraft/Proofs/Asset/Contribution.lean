import Stagecraft.Proofs.Asset.Skipping

namespace Stagecraft.Asset

/-- What the snippet at a place contributes: it is told right behind what is told before the snippet,
and it reports all that is reported about the snippet. -/
structure Contributes (asset : Asset) (locale : Locale) (voiceBundle : String) (i : ℕ) (x : Output) :
    Prop where
  told_succ : told asset locale voiceBundle (i + 1) = told asset locale voiceBundle i ++ x.actions
  isPrefix : told asset locale voiceBundle (i + 1) <+: (convert asset locale voiceBundle).story.actions
  diagnostics_eq :
    x.diagnostics = (convert asset locale voiceBundle).diagnostics.filter (·.location = .snippet i)

variable {asset : Asset} {locale : Locale} {voiceBundle : String} {i j : ℕ} {s : Snippet}

theorem diagnostics_convert (hs : asset.snippets[i]? = some s) :
    (convert asset locale voiceBundle).diagnostics =
      (outputTo asset locale voiceBundle i).diagnostics ++
        ((outputAt asset locale voiceBundle i s).diagnostics ++
          (snippetsOutput ⟨asset, locale, voiceBundle⟩ (i + 1) (s :: (asset.snippets.take i).reverse)
            (asset.snippets.drop (i + 1))).diagnostics) := by
  obtain ⟨hi, hsi⟩ := List.getElem?_eq_some_iff.1 hs
  have hwhole := snippetsOutput_take_drop ⟨asset, locale, voiceBundle⟩ hi.le
  rw [List.drop_eq_getElem_cons hi, hsi, snippetsOutput] at hwhole
  rw [convert, hwhole]
  rfl

theorem Reported.filter_eq {ds : List Diagnostic} (h : ∀ d ∈ ds, ∃ k, k ≠ i ∧ Reported k d) :
    ds.filter (·.location = .snippet i) = [] := by
  rw [List.filter_eq_nil_iff]
  intro d hd hlocation
  obtain ⟨k, hk, hreported⟩ := h d hd
  rw [decide_eq_true_eq, hreported.location_eq] at hlocation
  exact hk (SourceLocation.snippet.inj hlocation)

/-- A snippet contributes what it is converted to at its place. -/
theorem contributes_outputAt (hs : asset.snippets[i]? = some s) :
    Contributes asset locale voiceBundle i (outputAt asset locale voiceBundle i s) := by
  refine ⟨told_succ locale voiceBundle hs, ?_, ?_⟩
  · obtain ⟨rest, hactions, -⟩ := convert_eq locale voiceBundle hs
    rw [hactions, told_succ locale voiceBundle hs]
    exact ⟨rest.actions, List.append_assoc _ _ _⟩
  · have hi : i ≤ asset.snippets.length := (List.getElem?_eq_some_iff.1 hs).1.le
    have hbefore : (outputTo asset locale voiceBundle i).diagnostics.filter
        (·.location = .snippet i) = [] := by
      apply Reported.filter_eq
      intro d hd
      obtain ⟨k, ⟨-, hk⟩, hreported⟩ := exists_reported_snippets _ _ _ _ hd
      rw [Nat.zero_add, List.length_take_of_le hi] at hk
      exact ⟨k, hk.ne, hreported⟩
    have hown : (outputAt asset locale voiceBundle i s).diagnostics.filter
        (·.location = .snippet i) = (outputAt asset locale voiceBundle i s).diagnostics := by
      apply List.filter_eq_self.2
      intro d hd
      exact decide_eq_true (reports_snippetOutput i _ _ s d hd).location_eq
    rw [diagnostics_convert hs, List.filter_append, List.filter_append, hbefore, hown,
      Reported.filter_eq, List.nil_append, List.append_nil]
    intro d hd
    obtain ⟨k, ⟨hk, -⟩, hreported⟩ := exists_reported_snippets _ _ _ _ hd
    exact ⟨k, by omega, hreported⟩

theorem Contributes.eq {x y : Output} (hx : Contributes asset locale voiceBundle i x)
    (hy : Contributes asset locale voiceBundle i y) : x = y := by
  have hactions : x.actions = y.actions :=
    List.append_cancel_left (hx.told_succ.symm.trans hy.told_succ)
  have hdiagnostics : x.diagnostics = y.diagnostics := hx.diagnostics_eq.trans hy.diagnostics_eq.symm
  exact congrArg₂ Output.mk hactions hdiagnostics

theorem mem_told {a : Action} (hi : i ≤ asset.snippets.length)
    (h : a ∈ told asset locale voiceBundle i) :
    a ∈ openingActions ⟨asset, locale, voiceBundle⟩ ∨
      ∃ j s, asset.snippets[j]? = some s ∧ a ∈ (outputAt asset locale voiceBundle j s).actions := by
  induction i with
  | zero =>
    rw [told_eq, List.mem_append] at h
    exact .inl (h.resolve_right nofun)
  | succ i ih =>
    have hs := List.getElem?_eq_getElem hi
    rw [told_succ _ _ hs, List.mem_append] at h
    rcases h with h | h
    · exact ih (by omega) h
    · exact .inr ⟨i, _, hs, h⟩

/-- A story has the opening scene and what the snippets contribute, and nothing else. -/
theorem mem_opening_or_contribution {a : Action}
    (h : a ∈ (convert asset locale voiceBundle).story.actions) :
    a ∈ openingActions ⟨asset, locale, voiceBundle⟩ ∨
      ∃ j s, asset.snippets[j]? = some s ∧ a ∈ (outputAt asset locale voiceBundle j s).actions := by
  rw [← told_length] at h
  exact mem_told le_rfl h

/-- A report has what the snippets contribute, and nothing else. -/
theorem mem_contribution {d : Diagnostic}
    (h : d ∈ (convert asset locale voiceBundle).diagnostics) :
    ∃ j s, asset.snippets[j]? = some s ∧
      d ∈ (outputAt asset locale voiceBundle j s).diagnostics := by
  obtain ⟨j, hj, hreported⟩ := exists_reported h
  have hs := List.getElem?_eq_getElem hj
  refine ⟨j, _, hs, ?_⟩
  rw [(contributes_outputAt hs).diagnostics_eq]
  exact List.mem_filter.2 ⟨h, decide_eq_true hreported.location_eq⟩

end Stagecraft.Asset
