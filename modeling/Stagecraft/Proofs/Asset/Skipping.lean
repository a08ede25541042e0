import Stagecraft.Proofs.Asset.Reports

namespace Stagecraft

namespace SourceLocation

def renumber (f : ℕ → ℕ) : SourceLocation → SourceLocation
  | snippet index => snippet (f index)
  | location => location

end SourceLocation

namespace Diagnostic

def renumber (f : ℕ → ℕ) (d : Diagnostic) : Diagnostic :=
  { d with location := d.location.renumber f }

end Diagnostic

namespace Output

def renumber (f : ℕ → ℕ) (x : Output) : Output :=
  ⟨x.actions, x.diagnostics.map (.renumber f)⟩

variable (f : ℕ → ℕ) (x y : Output)

theorem renumber_append : (x ++ y).renumber f = x.renumber f ++ y.renumber f :=
  congrArg (mk _) List.map_append

theorem renumber_ofActions (as : List Action) : (ofActions as).renumber f = ofActions as := rfl

end Output

namespace Asset

section renumber

variable (f : ℕ → ℕ) (index : ℕ)

theorem placement_renumber (side : StageSide) (offset : Int) : placement (f index) side offset =
    ((placement index side offset).1, (placement index side offset).2.renumber f) := by
  rw [placement, placement]
  cases side.anchor? with
  | none => rfl
  | some a => rfl

theorem appearance_renumber (locale : Locale) (earlier : List LayoutRecord) (r : LayoutRecord) :
    appearance locale (f index) earlier r = (appearance locale index earlier r).renumber f := by
  rw [appearance, appearance, placement_renumber, Output.renumber_append]
  refine congrArg (Output.append _) ?_
  cases LayoutRecord.onStage r.character earlier with
  | true => rfl
  | false =>
    cases LayoutRecord.latestCostume? r.character (r :: earlier) with
    | none => rfl
    | some costume => rfl

theorem staging_renumber (locale : Locale) (earlier : List LayoutRecord) (r : LayoutRecord) :
    staging locale (f index) earlier r = (staging locale index earlier r).renumber f := by
  rw [staging, staging]
  cases r.kind with
  | move => rw [placement_renumber, Output.renumber_append, Output.renumber_ofActions]
  | appear => exact appearance_renumber f index locale earlier r
  | _ => rfl

theorem layoutOutput_renumber (locale : Locale) (kind : SnippetKind) (earlier : List LayoutRecord)
    (r : LayoutRecord) : layoutOutput locale (f index) kind earlier r =
      (layoutOutput locale index kind earlier r).renumber f := by
  rw [layoutOutput, layoutOutput, Output.renumber_append, Output.renumber_ofActions]
  split
  · rw [staging_renumber]
  · rfl

theorem resolve_renumber {α : Type} {table : List α} {what : String} {reference : Int}
    {convert convert' : List α → α → Output}
    (h : ∀ earlier r, convert' earlier r = (convert earlier r).renumber f) :
    resolve table what (f index) reference convert' =
      (resolve table what index reference convert).renumber f := by
  rw [resolve, resolve]
  split
  · exact h _ _
  · rfl

theorem recordOutput_renumber (c : Setting) (s : Snippet) :
    recordOutput c (f index) s = (recordOutput c index s).renumber f := by
  rw [recordOutput, recordOutput]
  cases s.kind with
  | none => rfl
  | input => rfl
  | selectable => rfl
  | layout => exact resolve_renumber f index (layoutOutput_renumber f index c.locale .layout)
  | motion => exact resolve_renumber f index (layoutOutput_renumber f index c.locale .motion)
  | talk => exact resolve_renumber f index fun _ _ ↦ rfl
  | effect => exact resolve_renumber f index fun _ _ ↦ rfl
  | sound => exact resolve_renumber f index fun _ _ ↦ rfl

theorem snippetOutput_renumber {earlier earlier' : List Snippet} (c : Setting) (s : Snippet)
    (h : baseline earlier' = baseline earlier) :
    snippetOutput c (f index) earlier' s = (snippetOutput c index earlier s).renumber f := by
  rw [snippetOutput, snippetOutput, Output.renumber_append, Output.renumber_ofActions,
    ← recordOutput_renumber, delayActions, delayActions, h]

end renumber

/-- Snippets are converted alike behind others from which all delays are counted alike, but for the
numbers of the snippets. -/
theorem snippetsOutput_renumber (f : ℕ → ℕ) (c : Setting) {index index' : ℕ}
    {earlier earlier' : List Snippet}
    (h : ∀ later, baseline (later ++ earlier') = baseline (later ++ earlier))
    (hf : ∀ k, f (index + k) = index' + k) (rest : List Snippet) :
    snippetsOutput c index' earlier' rest = (snippetsOutput c index earlier rest).renumber f := by
  induction rest generalizing index index' earlier earlier' with
  | nil => rfl
  | cons t rest ih =>
    have hindex : f index = index' := hf 0
    have hrest : snippetsOutput c (index' + 1) (t :: earlier') rest =
        (snippetsOutput c (index + 1) (t :: earlier) rest).renumber f := by
      refine ih (fun later ↦ ?_) fun k ↦ ?_
      · rw [List.append_cons, List.append_cons later t earlier, h]
      · rw [Nat.add_assoc, hf, Nat.add_assoc]
    rw [snippetsOutput, snippetsOutput, Output.renumber_append, hrest, ← hindex]
    exact congrArg (· ++ _) (snippetOutput_renumber f index c t (h []))

def recordCount? (asset : Asset) : SnippetKind → Option ℕ
  | .talk => some asset.talks.length
  | .layout => some asset.layouts.length
  | .motion => some asset.layouts.length
  | .effect => some asset.effects.length
  | .sound => some asset.sounds.length
  | .none => none
  | .input => none
  | .selectable => none

/-- A snippet that lets no time pass and has nothing to tell: of a kind that stories do not know, or
with a reference outside its table. -/
structure Skipped (asset : Asset) (s : Snippet) : Prop where
  not_gating : s.isGating = false
  no_delay : s.delay.isPositive = false
  outside : ∀ n, asset.recordCount? s.kind = some n → s.reference < 0 ∨ n ≤ s.reference

def skipReason : SnippetKind → DiagnosticKind
  | .input => .unsupportedSnippet
  | .selectable => .unsupportedSnippet
  | _ => .unresolvedReference

section skipped

variable {c : Setting} {index : ℕ} {s : Snippet}

theorem resolve_outside {α : Type} {table : List α} {what : String} {reference : Int}
    {convert : List α → α → Output} (h : reference < 0 ∨ table.length ≤ reference) :
    ∃ detail, resolve table what index reference convert =
      .ofDiagnostic (.warning (.snippet index) .unresolvedReference detail) := by
  obtain ⟨n, r, rfl, hr, -⟩ | ⟨-, hreported⟩ := resolve_cases index table what reference convert
  · have hn := (List.getElem?_eq_some_iff.1 hr).1
    omega
  · exact hreported

theorem recordOutput_of_none (c : Setting) (index : ℕ) (hkind : s.kind = .none) :
    recordOutput c index s = .nothing := by
  rw [recordOutput, hkind]

/-- A snippet of a kind that stories do not know, or with a reference outside its table, is reported,
and that is all that comes of it. -/
theorem recordOutput_outside (c : Setting) (index : ℕ) (hkind : s.kind ≠ .none)
    (houtside : ∀ n, c.asset.recordCount? s.kind = some n → s.reference < 0 ∨ n ≤ s.reference) :
    ∃ detail, recordOutput c index s =
      .ofDiagnostic (.warning (.snippet index) (skipReason s.kind) detail) := by
  rw [recordOutput]
  cases hs : s.kind with
  | none => exact absurd hs hkind
  | input => exact ⟨_, rfl⟩
  | selectable => exact ⟨_, rfl⟩
  | talk => exact resolve_outside (houtside _ (by rw [hs, recordCount?]))
  | layout => exact resolve_outside (houtside _ (by rw [hs, recordCount?]))
  | motion => exact resolve_outside (houtside _ (by rw [hs, recordCount?]))
  | effect => exact resolve_outside (houtside _ (by rw [hs, recordCount?]))
  | sound => exact resolve_outside (houtside _ (by rw [hs, recordCount?]))

theorem Skipped.actions_eq (h : Skipped c.asset s) (index : ℕ) :
    (recordOutput c index s).actions = [] := by
  by_cases hkind : s.kind = .none
  · rw [recordOutput_of_none c index hkind, Output.actions_nothing]
  · obtain ⟨detail, hrecord⟩ := recordOutput_outside c index hkind h.outside
    rw [hrecord, Output.actions_ofDiagnostic]

theorem Skipped.diagnostics_eq (h : Skipped c.asset s) (index : ℕ) :
    if s.kind = .none then (recordOutput c index s).diagnostics = []
    else ∃ detail, (recordOutput c index s).diagnostics =
      [.warning (.snippet index) (skipReason s.kind) detail] := by
  split_ifs with hkind
  · rw [recordOutput_of_none c index hkind]
    rfl
  · obtain ⟨detail, hrecord⟩ := recordOutput_outside c index hkind h.outside
    exact ⟨detail, by rw [hrecord]; rfl⟩

theorem Skipped.snippetOutput_eq (h : Skipped c.asset s) (earlier : List Snippet) :
    snippetOutput c index earlier s = recordOutput c index s := by
  rw [snippetOutput, delayActions, gateActions, h.no_delay, h.not_gating]
  rfl

/-- The delays of later snippets are not counted from a skipped one. -/
theorem Skipped.baseline_eq {asset : Asset} (h : Skipped asset s) (later earlier : List Snippet) :
    baseline (later ++ s :: earlier) = baseline (later ++ earlier) := by
  induction later with
  | nil =>
    rw [List.nil_append, baseline, h.not_gating, h.no_delay]
    rfl
  | cons t later ih => rw [List.cons_append, List.cons_append, baseline, baseline, ih]

def raised (i n : ℕ) : ℕ := if n < i then n else n + 1

theorem snippetsOutput_behind {i : ℕ} (h : Skipped c.asset s) (hi : i ≤ index)
    (earlier rest : List Snippet) :
    snippetsOutput c (index + 1) (s :: earlier) rest =
      (snippetsOutput c index earlier rest).renumber (raised i) := by
  refine snippetsOutput_renumber (raised i) c (fun later ↦ h.baseline_eq later earlier) (fun k ↦ ?_) rest
  rw [raised, if_neg (Nat.le_add_right_of_le hi).not_gt, Nat.add_right_comm]

end skipped

section insert

def insert (asset : Asset) (i : ℕ) (s : Snippet) : Asset :=
  { asset with snippets := asset.snippets.insertIdx i s }

theorem insertIdx_length {α : Type} (before rest : List α) (a : α) :
    (before ++ rest).insertIdx before.length a = before ++ a :: rest := by
  induction before with
  | nil => rfl
  | cons b before ih =>
    rw [List.cons_append, List.length_cons, List.insertIdx_succ_cons, ih, List.cons_append]

variable {asset : Asset} {i : ℕ} {s : Snippet} {d : Diagnostic}

theorem Reported.location_eq {index : ℕ} (h : Reported index d) : d.location = .snippet index := by
  cases h <;> rfl

theorem Reported.renumber_eq {index : ℕ} (h : Reported index d) (hindex : index < i) :
    d.renumber (raised i) = d := by
  have hraised : raised i index = index := if_pos hindex
  rw [Diagnostic.renumber, h.location_eq, SourceLocation.renumber, hraised, ← h.location_eq]

theorem snippets_insert (hi : i ≤ asset.snippets.length) :
    (asset.insert i s).snippets = asset.snippets.take i ++ s :: asset.snippets.drop i := by
  have hlength : (asset.snippets.take i).length = i := List.length_take_of_le hi
  have h := insertIdx_length (asset.snippets.take i) (asset.snippets.drop i) s
  rwa [List.take_append_drop, hlength] at h

theorem snippetsOutput_take_drop (c : Setting) (hi : i ≤ asset.snippets.length) :
    snippetsOutput c 0 [] asset.snippets = snippetsOutput c 0 [] (asset.snippets.take i) ++
      snippetsOutput c i (asset.snippets.take i).reverse (asset.snippets.drop i) := by
  have hlength : (asset.snippets.take i).length = i := List.length_take_of_le hi
  have h := snippetsOutput_append c 0 [] (asset.snippets.take i) (asset.snippets.drop i)
  rwa [List.take_append_drop, hlength, Nat.zero_add, List.append_nil] at h

theorem snippetsOutput_insert (hi : i ≤ asset.snippets.length) (h : Skipped asset s)
    (locale : Locale) (voiceBundle : String) :
    snippetsOutput ⟨asset.insert i s, locale, voiceBundle⟩ 0 [] (asset.insert i s).snippets =
      snippetsOutput ⟨asset, locale, voiceBundle⟩ 0 [] (asset.snippets.take i) ++
        (recordOutput ⟨asset, locale, voiceBundle⟩ i s ++
          (snippetsOutput ⟨asset, locale, voiceBundle⟩ i (asset.snippets.take i).reverse
            (asset.snippets.drop i)).renumber (raised i)) := by
  have hlength : (asset.snippets.take i).length = i := List.length_take_of_le hi
  have hskipped : Skipped (Setting.mk asset locale voiceBundle).asset s := h
  rw [snippets_insert hi, insert, snippetsOutput_with, snippetsOutput_append, hlength, Nat.zero_add,
    List.append_nil, snippetsOutput, hskipped.snippetOutput_eq]
  exact congrArg (_ ++ ·) (congrArg (_ ++ ·) (snippetsOutput_behind hskipped le_rfl _ _))

/-- A conversion with a skipped snippet put in tells the same story. It reports the same as before,
with the numbers of the snippets behind raised by one, and between what is about the snippets before
and behind the place one more warning, of the snippet put in; none if that is of no kind. -/
theorem convert_insert (hi : i ≤ asset.snippets.length) (h : Skipped asset s) (locale : Locale)
    (voiceBundle : String) :
    (convert (asset.insert i s) locale voiceBundle).story =
      (convert asset locale voiceBundle).story ∧
    ∃ before new behind, (convert asset locale voiceBundle).diagnostics = before ++ behind ∧
      (convert (asset.insert i s) locale voiceBundle).diagnostics =
        before.map (.renumber (raised i)) ++ (new ++ behind.map (.renumber (raised i))) ∧
      (∀ d ∈ before, ∃ n < i, d.location = .snippet n) ∧
      (∀ d ∈ behind, ∃ n ≥ i, d.location = .snippet n) ∧
      if s.kind = .none then new = []
      else ∃ detail, new = [.warning (.snippet i) (skipReason s.kind) detail] := by
  let c : Setting := ⟨asset, locale, voiceBundle⟩
  have hold := snippetsOutput_take_drop c hi
  have hnew := snippetsOutput_insert hi h locale voiceBundle
  have hbefore : ∀ d ∈ (snippetsOutput c 0 [] (asset.snippets.take i)).diagnostics,
      ∃ n < i, Reported n d := by
    intro d hd
    obtain ⟨n, ⟨-, hn⟩, hreported⟩ := exists_reported_snippets c 0 [] _ hd
    rw [Nat.zero_add, List.length_take_of_le hi] at hn
    exact ⟨n, hn, hreported⟩
  refine ⟨?_, (snippetsOutput c 0 [] (asset.snippets.take i)).diagnostics,
    (recordOutput c i s).diagnostics,
    (snippetsOutput c i (asset.snippets.take i).reverse (asset.snippets.drop i)).diagnostics,
    ?_, ?_, ?_, ?_, h.diagnostics_eq (c := c) i⟩
  · have hactions := h.actions_eq (c := c) i
    rw [convert, convert, hold, hnew]
    refine congrArg (Story.mk locale) (congrArg (_ ++ ·) (congrArg (_ ++ ·) ?_))
    rw [Output.actions_append, hactions, List.nil_append]
    rfl
  · rw [convert, hold]
    rfl
  · have hsame : (snippetsOutput c 0 [] (asset.snippets.take i)).diagnostics.map
        (.renumber (raised i)) = (snippetsOutput c 0 [] (asset.snippets.take i)).diagnostics := by
      refine (List.map_congr_left fun d hd ↦ ?_).trans (List.map_id _)
      obtain ⟨n, hn, hreported⟩ := hbefore d hd
      exact hreported.renumber_eq hn
    rw [convert, hnew, hsame]
    rfl
  · intro d hd
    obtain ⟨n, hn, hreported⟩ := hbefore d hd
    exact ⟨n, hn, hreported.location_eq⟩
  · intro d hd
    obtain ⟨n, ⟨hn, -⟩, hreported⟩ := exists_reported_snippets c i _ _ hd
    exact ⟨n, hn, hreported.location_eq⟩

def doors : Asset where
  sceneId := ""
  firstBgm := ""
  firstBackground := ""
  firstBackgroundBundle := ""
  snippets := [⟨.sound, 0, 0, .ofInt 2⟩, ⟨.talk, 1, 7, .zero⟩, ⟨.sound, 0, 0, .ofInt 5⟩]
  talks := []
  layouts := []
  effects := []
  sounds := [⟨"", "se_door", ""⟩]

theorem skipped_menu : Skipped doors ⟨.selectable, 0, 0, .zero⟩ :=
  ⟨by decide, by decide, nofun⟩

theorem convert_insert_menu :
    let doors' := doors.insert 1 ⟨.selectable, 0, 0, .zero⟩
    1 ≤ doors.snippets.length ∧ Skipped doors ⟨.selectable, 0, 0, .zero⟩ ∧
    (convert doors' .jp "").story = (convert doors .jp "").story ∧
    ∃ before behind detail, (convert doors .jp "").diagnostics = before ++ behind ∧
      (convert doors' .jp "").diagnostics = before.map (.renumber (raised 1)) ++
        (.warning (.snippet 1) .unsupportedSnippet detail :: behind.map (.renumber (raised 1))) ∧
      (∀ d ∈ before, ∃ n < 1, d.location = .snippet n) ∧
      ∀ d ∈ behind, ∃ n ≥ 1, d.location = .snippet n := by
  have hlength : 1 ≤ doors.snippets.length := by decide
  obtain ⟨hstory, before, new, behind, hold, hnew, hbefore, hbehind, detail, rfl⟩ :=
    convert_insert hlength skipped_menu .jp ""
  exact ⟨hlength, skipped_menu, hstory, before, behind, detail, hold, hnew, hbefore, hbehind⟩

end insert

end Asset

end Stagecraft
