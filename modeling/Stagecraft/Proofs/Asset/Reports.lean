import Stagecraft.Proofs.Asset.Stage

namespace Stagecraft

namespace Asset

inductive Reported (index : ℕ) : Diagnostic → Prop
  | unsupported (detail : String) :
      Reported index (.warning (.snippet index) .unsupportedSnippet detail)
  | unresolved (detail : String) :
      Reported index (.warning (.snippet index) .unresolvedReference detail)
  | noCostume (detail : String) :
      Reported index (.error (.snippet index) .unresolvedCostume detail)

def Reports (index : ℕ) (x : Output) : Prop := ∀ d ∈ x.diagnostics, Reported index d

variable {index : ℕ} {d : Diagnostic}

theorem Reported.isError_iff (h : Reported index d) :
    d.isError = true ↔ d.message.kind = .unresolvedCostume := by
  cases h with
  | unsupported detail => exact iff_of_false Bool.false_ne_true nofun
  | unresolved detail => exact iff_of_false Bool.false_ne_true nofun
  | noCostume detail => exact iff_of_true rfl rfl

namespace Reports

theorem ofActions (as : List Action) : Reports index (.ofActions as) := List.forall_mem_nil _

theorem ofDiagnostic (h : Reported index d) : Reports index (.ofDiagnostic d) :=
  List.forall_mem_singleton.2 h

theorem append {x y : Output} (hx : Reports index x) (hy : Reports index y) :
    Reports index (x ++ y) :=
  List.forall_mem_append.2 ⟨hx, hy⟩

end Reports

section snippet

variable (index)

theorem reports_placement (side : StageSide) (offset : Int) :
    Reports index (placement index side offset).2 := by
  rw [placement]
  cases side.anchor? with
  | none => exact .ofDiagnostic (.unresolved _)
  | some a => exact .ofActions []

theorem reports_appearance (locale : Locale) (earlier : List LayoutRecord) (r : LayoutRecord) :
    Reports index (appearance locale index earlier r) := by
  rw [appearance]
  refine (reports_placement index _ _).append ?_
  split
  · exact .ofActions _
  · split
    · exact .ofActions _
    · exact .ofDiagnostic (.noCostume _)

theorem reports_staging (locale : Locale) (earlier : List LayoutRecord) (r : LayoutRecord) :
    Reports index (staging locale index earlier r) := by
  rw [staging]
  cases r.kind with
  | none => exact .ofActions []
  | move => exact (reports_placement index _ _).append (.ofActions _)
  | appear => exact reports_appearance index locale earlier r
  | hide => exact .ofActions _
  | shakeX => exact .ofActions _
  | shakeY => exact .ofActions _

theorem reports_layoutOutput (locale : Locale) (kind : SnippetKind) (earlier : List LayoutRecord)
    (r : LayoutRecord) : Reports index (layoutOutput locale index kind earlier r) := by
  rw [layoutOutput]
  refine Reports.append ?_ (.ofActions _)
  split
  · exact reports_staging index locale earlier r
  · exact .ofActions []

theorem reports_resolve {α : Type} (table : List α) (what : String) (reference : Int)
    {convert : List α → α → Output} (h : ∀ earlier r, Reports index (convert earlier r)) :
    Reports index (resolve table what index reference convert) := by
  rw [resolve]
  split
  · exact h _ _
  · exact .ofDiagnostic (.unresolved _)

theorem reports_recordOutput (c : Setting) (s : Snippet) : Reports index (recordOutput c index s) := by
  rw [recordOutput]
  cases s.kind with
  | none => exact .ofActions []
  | talk => exact reports_resolve index _ _ _ fun _ _ ↦ .ofActions _
  | layout => exact reports_resolve index _ _ _ fun _ _ ↦ reports_layoutOutput index _ _ _ _
  | motion => exact reports_resolve index _ _ _ fun _ _ ↦ reports_layoutOutput index _ _ _ _
  | input => exact .ofDiagnostic (.unsupported _)
  | selectable => exact .ofDiagnostic (.unsupported _)
  | effect => exact reports_resolve index _ _ _ fun _ _ ↦ .ofActions _
  | sound => exact reports_resolve index _ _ _ fun _ _ ↦ .ofActions _

theorem reports_snippetOutput (c : Setting) (earlier : List Snippet) (s : Snippet) :
    Reports index (snippetOutput c index earlier s) :=
  .append (.ofActions _) (reports_recordOutput index c s)

end snippet

theorem exists_reported_snippets (c : Setting) (index : ℕ) (earlier xs : List Snippet)
    (hd : d ∈ (snippetsOutput c index earlier xs).diagnostics) :
    ∃ i, (index ≤ i ∧ i < index + xs.length) ∧ Reported i d := by
  induction xs generalizing index earlier with
  | nil => cases hd
  | cons s xs ih =>
    rw [snippetsOutput, Output.diagnostics_append, List.mem_append] at hd
    rw [List.length_cons]
    rcases hd with hd | hd
    · exact ⟨index, by omega, reports_snippetOutput index c earlier s d hd⟩
    · obtain ⟨i, hi, hreported⟩ := ih (index + 1) (s :: earlier) hd
      exact ⟨i, by omega, hreported⟩

section convert

variable {asset : Asset} {locale : Locale} {voiceBundle : String}

/-- Every diagnostic of a conversion is about one of the snippets. -/
theorem exists_reported (hd : d ∈ (convert asset locale voiceBundle).diagnostics) :
    ∃ i < asset.snippets.length, Reported i d := by
  obtain ⟨i, ⟨-, hi⟩, hreported⟩ :=
    exists_reported_snippets ⟨asset, locale, voiceBundle⟩ 0 [] asset.snippets hd
  exact ⟨i, by rwa [Nat.zero_add] at hi, hreported⟩

theorem resolved_of_not_hasErrors
    (h : Diagnostic.hasErrors (convert asset locale voiceBundle).diagnostics = false) :
    Resolved (convert asset locale voiceBundle).diagnostics := by
  intro d hd hkind
  obtain ⟨i, -, hreported⟩ := exists_reported hd
  exact List.any_eq_false.1 h d hd (hreported.isError_iff.2 hkind)

end convert

end Asset

end Stagecraft
