import Stagecraft.Proofs.Script.CompilerLine

namespace Stagecraft.Script

variable {l cs : List Char} {ls out : List (List Char)}

def outputOf (ls : List (List Char)) : String := String.ofList (ls.flatMap (· ++ ['\n']))

def withoutReturn (l : List Char) : List Char := (Text.before? '\r' l).getD l

theorem withoutReturn_of_getLast? (h : l.getLast? ≠ some '\r') : withoutReturn l = l := by
  rw [withoutReturn, Text.before?, if_neg h, Option.getD_none]

theorem pieces_flatMap (h : ∀ l ∈ ls, '\n' ∉ l) :
    Text.pieces (ls.flatMap (· ++ ['\n'])) = ls ++ [[]] := by
  induction ls with
  | nil => rfl
  | cons l ls ih =>
    obtain ⟨hl, hls⟩ := List.forall_mem_cons.1 h
    rw [List.flatMap_cons, List.append_assoc, List.singleton_append, Text.pieces_append,
      Text.pieces_of_not_mem hl, ih hls]
    rfl

theorem outputLines_outputOf (h : ∀ l ∈ ls, '\n' ∉ l) :
    outputLines (outputOf ls).toList = ls.map withoutReturn := by
  rw [outputOf, String.toList_ofList, outputLines, pieces_flatMap h, List.getLast?_concat,
    List.dropLast_concat]
  rfl

/-- A line that is no diagnostic and continues none. -/
structure IsNoise (l : List Char) : Prop where
  noSpace : l.head? ≠ some ' '
  unread : readLine? l = none
  noFeed : '\n' ∉ l

inductive WithNoise : List (List Char) → List (List Char) → Prop
  | nil : WithNoise [] []
  | line (l : List Char) {ls out : List (List Char)} (h : WithNoise ls out) :
      WithNoise (l :: ls) (l :: out)
  | noise {l : List Char} {ls out : List (List Char)} (hl : IsNoise l) (h : WithNoise ls out) :
      WithNoise ls (l :: out)

theorem WithNoise.noFeed (h : WithNoise ls out) (hls : ∀ l ∈ ls, '\n' ∉ l) :
    ∀ l ∈ out, '\n' ∉ l := by
  induction h with
  | nil => exact hls
  | line l h ih =>
    obtain ⟨hl, hls⟩ := List.forall_mem_cons.1 hls
    exact List.forall_mem_cons.2 ⟨hl, ih hls⟩
  | noise hl h ih => exact List.forall_mem_cons.2 ⟨hl.noFeed, ih hls⟩

theorem IsNoise.withoutReturn (h : IsNoise l) : IsNoise (withoutReturn l) := by
  rcases List.eq_nil_or_concat' l with rfl | ⟨l, c, rfl⟩
  · exact h
  · by_cases hc : c = '\r'
    · subst hc
      rw [Script.withoutReturn, Text.before?_concat, Option.getD_some]
      refine ⟨?_, ?_, fun hfeed ↦ h.noFeed (List.mem_append_left _ hfeed)⟩
      · cases l with
        | nil => exact nofun
        | cons c l => exact h.noSpace
      · refine Option.not_isSome_iff_eq_none.1 fun hread ↦ ?_
        have hsome := isSome_readLine?_concat (by decide : '\r' ∉ [')', ':', ' ']) hread
        rw [h.unread] at hsome
        cases hsome
    · rwa [withoutReturn_of_getLast? (by simpa using hc)]

/-- Noise is passed over. -/
theorem readLines_withNoise (h : WithNoise ls out) (hends : ∀ l ∈ ls, l.getLast? ≠ some '\r')
    (last : Option ScriptDiagnostic) :
    readLines last (out.map withoutReturn) = readLines last ls := by
  induction h generalizing last with
  | nil => rfl
  | line l h ih =>
    obtain ⟨hl, hls⟩ := List.forall_mem_cons.1 hends
    rw [List.map_cons, withoutReturn_of_getLast? hl, readLines, readLines]
    simp only [ih hls]
  | noise hl h ih =>
    rw [List.map_cons, readLines, hl.withoutReturn.unread]
    simp only [isContinuation, decide_eq_false hl.withoutReturn.noSpace, Bool.false_and]
    exact ih hends last

theorem readLine?_detailLine {q : ℕ × String} (h : IsDetail q.2) :
    readLine? (detailLine q) = none := by
  have hspaces : ')' ∉ List.replicate q.1 ' ' := fun hmem ↦ by
    cases List.eq_of_mem_replicate hmem
  exact readLine?_of_space fun hinfix ↦ h.noMark (infix_of_infix_behind hspaces hinfix)

theorem trim_detailLine {q : ℕ × String} (h : IsDetail q.2) :
    Text.trim (detailLine q) = q.2.toList := by
  have hspaces : (List.replicate (q.1 + 1) ' ').all Text.isBlank = true := by
    rw [List.all_replicate]
    rfl
  rw [detailLine, Text.trim_append hspaces, h.trimmed]

theorem isContinuation_detailLine {q : ℕ × String} (h : IsDetail q.2) :
    isContinuation (detailLine q) = true := by
  have hne : q.2.toList ≠ [] := fun hnil ↦ h.ne_empty (String.toList_inj.1 hnil)
  rw [isContinuation, trim_detailLine h, decide_eq_true hne, Bool.and_true]
  rfl

/-- The further lines of a message are joined to it. -/
theorem readLines_details {qs : List (ℕ × String)} (h : ∀ q ∈ qs, IsDetail q.2)
    (e : ScriptDiagnostic) (rest : List (List Char)) :
    readLines (some e) (qs.map detailLine ++ rest) =
      readLines (some { e with message := "\n".intercalate (e.message :: qs.map Prod.snd) }) rest := by
  induction qs generalizing e with
  | nil => rfl
  | cons q qs ih =>
    obtain ⟨hq, hqs⟩ := List.forall_mem_cons.1 h
    rw [List.map_cons, List.cons_append, readLines, readLine?_detailLine hq]
    dsimp only
    rw [isContinuation_detailLine hq, if_pos rfl, Option.map_some, ih hqs,
      ScriptDiagnostic.continued, trim_detailLine hq, String.ofList_toList]
    rfl

variable {ds : List Printed}

theorem readLines_printed (h : ∀ d ∈ ds, d.Proper) (hmistakable : ∀ d ∈ ds, ¬d.IsMistakable)
    (last : Option ScriptDiagnostic) :
    readLines last (ds.flatMap Printed.lines) = last.toList ++ ds.map Printed.diagnostic := by
  induction ds generalizing last with
  | nil => simp [readLines]
  | cons d ds ih =>
    obtain ⟨hd, hds⟩ := List.forall_mem_cons.1 h
    obtain ⟨hd', hds'⟩ := List.forall_mem_cons.1 hmistakable
    rw [List.flatMap_cons, Printed.lines, List.cons_append, readLines, hd.readLine?_heading hd']
    dsimp only
    rw [readLines_details hd.details, ih hds hds']
    rfl

/-- The files of the diagnostics that are read are those of the lines that are read. -/
theorem map_file_readLines (last : Option ScriptDiagnostic) (ls : List (List Char)) :
    (readLines last ls).map (·.file) =
      last.toList.map (·.file) ++ (ls.filterMap readLine?).map (·.file) := by
  induction ls generalizing last with
  | nil => simp [readLines]
  | cons l ls ih =>
    rw [readLines, List.filterMap_cons]
    cases readLine? l with
    | some d => simp [ih]
    | none =>
      dsimp only
      split
      · rw [ih]
        cases last <;> rfl
      · exact ih last

theorem filterMap_lines (h : ∀ d ∈ ds, d.Proper) :
    (ds.flatMap Printed.lines).filterMap readLine? = ds.filterMap (readLine? ·.heading) := by
  induction ds with
  | nil => rfl
  | cons d ds ih =>
    obtain ⟨hd, hds⟩ := List.forall_mem_cons.1 h
    have hdetails : (d.details.map detailLine).filterMap readLine? = [] :=
      List.filterMap_eq_nil_iff.2
        (List.forall_mem_map.2 fun q hq ↦ readLine?_detailLine (hd.details q hq))
    rw [List.flatMap_cons, List.filterMap_append, ih hds, Printed.lines, List.filterMap_cons,
      List.filterMap_cons, hdetails]
    cases readLine? d.heading <;> rfl

/-- Where a diagnostic can be mistaken, too few are read, or one with a wrong file. -/
theorem not_isMistakable_of_files (h : ∀ d ∈ ds, d.Proper)
    (hfiles : (ds.filterMap (readLine? ·.heading)).map (·.file) = ds.map (·.first.file)) :
    ∀ d ∈ ds, ¬d.IsMistakable := by
  induction ds with
  | nil => exact nofun
  | cons d ds ih =>
    obtain ⟨hd, hds⟩ := List.forall_mem_cons.1 h
    rw [List.filterMap_cons] at hfiles
    cases hread : readLine? d.heading with
    | none =>
      rw [hread] at hfiles
      have hlength := congrArg List.length hfiles
      have hle := List.length_filterMap_le (readLine? ·.heading) ds
      simp only [List.length_map, List.length_cons] at hlength
      omega
    | some e =>
      rw [hread] at hfiles
      obtain ⟨hfile, hfiles⟩ := List.cons.inj hfiles
      exact List.forall_mem_cons.2 ⟨fun hmistakable ↦ hd.file_of_isMistakable hmistakable hread hfile,
        ih hds hfiles⟩

theorem Printed.Proper.noFeed {d : Printed} (h : d.Proper) : ∀ l ∈ d.lines, '\n' ∉ l := by
  have hword : '\n' ∉ severityWord d.severity := not_mem_severityWord rfl d.severity
  have hstatement : '\n' ∉ d.statement := by
    simp [statement, header, hword, h.code.2.2, h.headline.1]
  refine List.forall_mem_cons.2 ⟨?_, List.forall_mem_map.2 fun q hq ↦ ?_⟩
  · cases hplace : d.place with
    | none => rwa [heading_of_none hplace]
    | some q =>
      have hfile := (h.place q hplace).2.1
      have hposition := not_mem_position (x := '\n') rfl (by decide) q.2
      rw [heading_of_some hplace]
      simpa [placeText, hfile, hstatement] using hposition
  · have hdetail := (h.details q hq).noFeed
    simp [detailLine, hdetail]

/-- Diagnostics that are printed, with noise anywhere between their lines, are read back as they are
just if none of them can be mistaken. -/
theorem readOutput_printed_iff (h : ∀ d ∈ ds, d.Proper)
    (hout : WithNoise (ds.flatMap Printed.lines) out) :
    readOutput (outputOf out) = ds.map Printed.diagnostic ↔ ∀ d ∈ ds, ¬d.IsMistakable := by
  have hfeed : ∀ l ∈ out, '\n' ∉ l :=
    hout.noFeed (List.forall_mem_flatMap.2 fun d hd ↦ (h d hd).noFeed)
  have hends : ∀ l ∈ ds.flatMap Printed.lines, l.getLast? ≠ some '\r' :=
    List.forall_mem_flatMap.2 fun d hd ↦ (h d hd).ends
  rw [readOutput, outputLines_outputOf hfeed, readLines_withNoise hout hends]
  constructor
  · intro hread
    -- The files alone show that every heading was read, and none of them with a place too many.
    have hfiles := congrArg (List.map (·.file)) hread
    rw [map_file_readLines, filterMap_lines h, List.map_map] at hfiles
    exact not_isMistakable_of_files h hfiles
  · exact fun hmistakable ↦ readLines_printed h hmistakable none

def located : Printed where
  place := some ("a(1,2) (copy)/b.ts", ⟨3, 4294967295⟩)
  severity := .error
  code := "TS2322"
  headline := "Not here: a(5,6): error TS1: x"
  details := [(1, "The types do not match.")]

def unlocated : Printed where
  place := none
  severity := .warning
  code := "TS)"
  headline := "No inputs: none"
  details := []

def noisy : List (List Char) :=
  [['\r'], located.heading, "Found 2 errors.\r".toList, detailLine (1, "The types do not match."),
    unlocated.heading, []]

theorem proper_located : located.Proper where
  place q hq := by
    obtain rfl := Option.some.inj hq
    decide +kernel
  code := by decide +kernel
  headline := by decide +kernel
  details q hq := by
    obtain rfl := List.mem_singleton.1 hq
    constructor <;> decide +kernel
  ends := by decide +kernel

theorem proper_unlocated : unlocated.Proper where
  place := nofun
  code := by decide +kernel
  headline := by decide +kernel
  details := nofun
  ends := by decide +kernel

theorem not_isMistakable_unlocated : ¬unlocated.IsMistakable := by
  rintro ⟨-, start, digit, hcode, hdigit⟩
  have hlast := congrArg (fun cs : List Char ↦ cs.dropLast.getLast?) hcode
  obtain rfl : digit = 'S' := by simpa [unlocated] using hlast.symm
  cases hdigit

theorem withNoise_noisy : WithNoise ([located, unlocated].flatMap Printed.lines) noisy := by
  have hreturn : IsNoise ['\r'] := by constructor <;> decide +kernel
  have hsummary : IsNoise "Found 2 errors.\r".toList := by constructor <;> decide +kernel
  have hempty : IsNoise [] := by constructor <;> decide +kernel
  exact .noise hreturn (.line _ (.noise hsummary (.line _ (.line _ (.noise hempty .nil)))))

theorem readOutput_printed_noisy :
    (∀ d ∈ [located, unlocated], d.Proper) ∧
      WithNoise ([located, unlocated].flatMap Printed.lines) noisy ∧
      readOutput (outputOf noisy) = [located.diagnostic, unlocated.diagnostic] := by
  have hproper : ∀ d ∈ [located, unlocated], d.Proper :=
    List.forall_mem_cons.2 ⟨proper_located, List.forall_mem_singleton.2 proper_unlocated⟩
  have hmistakable : ∀ d ∈ [located, unlocated], ¬d.IsMistakable :=
    List.forall_mem_cons.2 ⟨nofun, List.forall_mem_singleton.2 not_isMistakable_unlocated⟩
  exact ⟨hproper, withNoise_noisy, (readOutput_printed_iff hproper withNoise_noisy).2 hmistakable⟩

def mistakable : Printed where
  place := none
  severity := .error
  code := "TS1)"
  headline := "x"
  details := []

/-- Not all printed diagnostics are read back. -/
theorem not_readOutput_printed : ¬∀ (ds : List Printed) (out : List (List Char)),
    (∀ d ∈ ds, d.Proper) → WithNoise (ds.flatMap Printed.lines) out →
      readOutput (outputOf out) = ds.map Printed.diagnostic := by
  intro h
  have hproper : mistakable.Proper :=
    ⟨nofun, by decide +kernel, by decide +kernel, nofun, by decide +kernel⟩
  have hread := h [mistakable] [mistakable.heading] (List.forall_mem_singleton.2 hproper)
    (.line mistakable.heading .nil)
  revert hread
  decide +kernel

end Stagecraft.Script
