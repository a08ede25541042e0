import Stagecraft.Proofs.Script.CompilerLine

namespace Stagecraft.Script

variable {cs a b : List Char} {d : Printed}

/-- The first mark in the text stands behind a digit, as it does at the end of a place. -/
def FeignsPlace (cs : List Char) : Prop :=
  ∃ start digit rest, cs = start ++ [digit] ++ [')', ':', ' '] ++ rest ∧ digit.isDigit = true ∧
    ¬[')', ':', ' '] <:+: start ++ [digit]

theorem feignsPlace_iff : FeignsPlace cs ↔
    ∃ a b, splitOnce? [')', ':', ' '] cs = some (a, b) ∧ endsInDigit a = true := by
  constructor
  · intro h
    obtain ⟨start, digit, rest, hcs, hdigit, hfirst⟩ := h
    refine ⟨start ++ [digit], rest, (splitOnce?_eq_some isSeparator_mark).2 ⟨hcs, hfirst⟩, ?_⟩
    rw [endsInDigit_concat, hdigit]
  · intro h
    obtain ⟨a, b, hsplit, hends⟩ := h
    obtain ⟨hcs, hfirst⟩ := (splitOnce?_eq_some isSeparator_mark).1 hsplit
    rcases List.eq_nil_or_concat' a with rfl | ⟨start, digit, rfl⟩
    · cases hends
    · rw [endsInDigit_concat] at hends
      exact ⟨start, digit, b, hcs, hends, hfirst⟩

theorem feignsPlace_of_split (h : splitOnce? [')', ':', ' '] cs = some (a, b)) :
    FeignsPlace cs ↔ endsInDigit a = true := by
  rw [feignsPlace_iff, h]
  simp

theorem not_feignsPlace_of_split (h : splitOnce? [')', ':', ' '] cs = none) : ¬FeignsPlace cs := by
  rw [feignsPlace_iff, h]
  simp

namespace Printed

def IsMisleading (d : Printed) : Prop :=
  d.EndsAsPlace ∨ d.code.toList.getLast? ≠ some ')' ∧ FeignsPlace d.headline.toList

theorem getLast?_header (h : d.IsCoded) : d.header.getLast? = d.code.toList.getLast? := by
  have hcode : d.code.toList ≠ [] := by
    intro hnil
    have hprefix := h.begins
    rw [hnil] at hprefix
    exact absurd (List.prefix_nil.1 hprefix) (by decide)
  have hheader : d.header = (severityWord d.severity ++ [' ']) ++ d.code.toList := by
    simp [header]
  rw [hheader, List.getLast?_append_of_ne_nil _ hcode]

theorem EndsAsPlace.getLast? (h : d.EndsAsPlace) : d.code.toList.getLast? = some ')' := by
  obtain ⟨start, digit, hcode, -⟩ := h
  rw [hcode]
  simp

/-- Behind a header that does not end in a parenthesis, the first mark is that of the text. -/
theorem IsCoded.splitOnce?_behind (h : d.IsCoded) (hlast : d.header.getLast? ≠ some ')')
    (cs : List Char) : splitOnce? [')', ':', ' '] (d.header ++ [':', ' '] ++ cs) =
      (splitOnce? [')', ':', ' '] cs).map fun p ↦ (d.header ++ [':', ' '] ++ p.1, p.2) := by
  have hbehind : ∀ text, [')', ':', ' '] <:+: d.header ++ [':', ' '] ++ text →
      [')', ':', ' '] <:+: text := by
    intro text hmark
    refine (h.header_of_infix hmark).resolve_left ?_
    intro hheader
    obtain ⟨start, hheader⟩ := hheader
    exact hlast (by rw [hheader, List.getLast?_concat])
  cases hsplit : splitOnce? [')', ':', ' '] cs with
  | none =>
    rw [splitOnce?_eq_none isSeparator_mark] at hsplit
    rw [Option.map_none, splitOnce?_eq_none isSeparator_mark]
    intro hmark
    exact hsplit (hbehind cs hmark)
  | some p =>
    obtain ⟨a, b⟩ := p
    obtain ⟨rfl, hfirst⟩ := (splitOnce?_eq_some isSeparator_mark).1 hsplit
    rw [Option.map_some, splitOnce?_eq_some isSeparator_mark]
    refine ⟨by simp, ?_⟩
    intro hmark
    exact hfirst (hbehind a hmark)

theorem endsInDigit_behind (start a : List Char) :
    endsInDigit (start ++ [':', ' '] ++ a) = endsInDigit a := by
  rcases List.eq_nil_or_concat' a with rfl | ⟨a, c, rfl⟩
  · have hspace : start ++ [':', ' '] ++ [] = (start ++ [':']) ++ [' '] := by simp
    rw [hspace, endsInDigit_concat]
    rfl
  · rw [← List.append_assoc, endsInDigit_concat, endsInDigit_concat]

theorem feignsPlace_statement (h : d.IsCoded) : FeignsPlace d.statement ↔ d.IsMisleading := by
  by_cases hlast : d.header.getLast? = some ')'
  · -- The code itself ends where the first mark begins.
    obtain ⟨start, hheader⟩ := List.getLast?_eq_some_iff.1 hlast
    rw [feignsPlace_of_split (h.splitOnce?_statement hheader), ← endsAsPlace_iff hheader]
    rw [getLast?_header h] at hlast
    simp [IsMisleading, hlast]
  · have hsplit := h.splitOnce?_behind hlast d.headline.toList
    rw [getLast?_header h] at hlast
    have hcode : ¬d.EndsAsPlace := fun hends ↦ hlast hends.getLast?
    have hmessage : FeignsPlace d.statement ↔ FeignsPlace d.headline.toList := by
      rw [statement]
      cases hheadline : splitOnce? [')', ':', ' '] d.headline.toList with
      | none =>
        rw [hheadline, Option.map_none] at hsplit
        exact iff_of_false (not_feignsPlace_of_split hsplit) (not_feignsPlace_of_split hheadline)
      | some p =>
        rw [hheadline, Option.map_some] at hsplit
        rw [feignsPlace_of_split hsplit, feignsPlace_of_split hheadline, endsInDigit_behind]
    rw [hmessage, IsMisleading]
    simp [hcode, hlast]

end Printed

theorem readLine?_of_not_feignsPlace (h : ¬FeignsPlace cs) :
    readLine? cs = readStatement? none .unknown cs := by
  rw [readLine?]
  cases hsplit : splitOnce? [')', ':', ' '] cs with
  | none => rfl
  | some p =>
    rw [feignsPlace_of_split hsplit] at h
    exact if_neg h

/-- Without a place, a diagnostic is read as it is, whatever its message, unless its code or the first
mark in its message looks like the end of a place. Then it is lost or gets a file. -/
theorem readLine?_statement_iff (h : d.IsCoded) :
    (readLine? d.statement = some ⟨none, .unknown, d.code, d.severity, d.headline⟩ ↔
      ¬d.IsMisleading) ∧
    (d.IsMisleading → ∀ e, readLine? d.statement = some e → e.file ≠ none) := by
  have hlost : d.IsMisleading → ∀ e, readLine? d.statement = some e → e.file ≠ none := by
    intro hmisleading e hread
    rw [← Printed.feignsPlace_statement h] at hmisleading
    obtain ⟨a, b, hsplit, hends⟩ := feignsPlace_iff.1 hmisleading
    exact Printed.file_of_splitOnce? hsplit hends hread
  refine ⟨⟨?_, ?_⟩, hlost⟩
  · intro hread hmisleading
    exact hlost hmisleading _ hread rfl
  · intro hmisleading
    rw [← Printed.feignsPlace_statement h] at hmisleading
    rw [readLine?_of_not_feignsPlace hmisleading, h.readStatement?]

def quoting : Printed where
  place := none
  severity := .error
  code := "TS6059)x"
  headline := "Not found (see a): b.ts(3,4): error TS1005: ';' expected."
  details := []

theorem isCoded_quoting : quoting.IsCoded := by
  constructor <;> decide +kernel

theorem not_isMisleading_quoting : ¬quoting.IsMisleading := by
  have hcode : quoting.code.toList.getLast? ≠ some ')' := by decide +kernel
  have hsplit : splitOnce? [')', ':', ' '] quoting.headline.toList =
      some ("Not found (see a".toList, "b.ts(3,4): error TS1005: ';' expected.".toList) := by
    decide +kernel
  intro hmisleading
  rcases hmisleading with hends | ⟨-, hmessage⟩
  · exact hcode hends.getLast?
  · rw [feignsPlace_of_split hsplit] at hmessage
    exact absurd hmessage (by decide +kernel)

theorem readLine?_statement_quoting : quoting.IsCoded ∧ ¬quoting.IsMisleading ∧
    readLine? quoting.statement =
      some ⟨none, .unknown, quoting.code, .error, quoting.headline⟩ :=
  ⟨isCoded_quoting, not_isMisleading_quoting,
    (readLine?_statement_iff isCoded_quoting).1.2 not_isMisleading_quoting⟩

def lost : Printed where
  place := none
  severity := .error
  code := "TS5083"
  headline := "Cannot read file 'tsconfig (2): base.json'."
  details := []

/-- Not every line without a place is read. -/
theorem not_readLine?_statement : ¬∀ d : Printed, d.IsCoded → ' ' ∉ d.code.toList →
    '\n' ∉ d.headline.toList →
    readLine? d.statement = some ⟨none, .unknown, d.code, d.severity, d.headline⟩ := by
  intro h
  have hcoded : lost.IsCoded := by constructor <;> decide +kernel
  have hread := h lost hcoded (by decide +kernel) (by decide +kernel)
  have hnone : readLine? lost.statement = none := by decide +kernel
  rw [hnone] at hread
  cases hread

end Stagecraft.Script
