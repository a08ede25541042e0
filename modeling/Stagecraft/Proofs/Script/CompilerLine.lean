import Stagecraft.Proofs.Numeral.ReadWrite
import Stagecraft.Proofs.Text.Lines
import Stagecraft.Script.CompilerOutput

namespace Stagecraft.Script

variable {sep before rest cs a b : List Char} {x : Char}

def IsSeparator (sep : List Char) : Prop := ∃ start last, sep = start ++ [last] ∧ last ∉ start

theorem isSeparator_mark : IsSeparator [')', ':', ' '] := ⟨[')', ':'], ' ', rfl, by decide⟩

theorem isSeparator_colon : IsSeparator [':', ' '] := ⟨[':'], ' ', rfl, by decide⟩

theorem IsSeparator.ne_nil (hsep : IsSeparator sep) : sep ≠ [] := by
  obtain ⟨start, last, rfl, -⟩ := hsep
  exact List.concat_ne_nil last start

/-- A character that does not stand in the end of a text stands before it. -/
theorem exists_before {tail : List Char} (hx : x ∉ tail) (h : a ++ tail = before ++ x :: rest) :
    ∃ mid, a = before ++ x :: mid ∧ rest = mid ++ tail := by
  rcases List.append_eq_append_iff.1 h with ⟨mid, -, htail⟩ | ⟨mid, ha, hrest⟩
  · exact absurd (htail ▸ List.mem_append_right mid List.mem_cons_self) hx
  · cases mid with
    | nil =>
      have htail : tail = x :: rest := hrest.symm
      exact absurd (htail ▸ List.mem_cons_self) hx
    | cons y mid =>
      obtain ⟨rfl, rfl⟩ := List.cons.inj hrest
      exact ⟨mid, ha, rfl⟩

/-- Where a separator stands behind a text without it, it stands there first. -/
theorem IsSeparator.occurs (hsep : IsSeparator sep) (hbefore : ¬sep <:+: before)
    (h : before ++ sep ++ rest = a ++ sep ++ b) :
    a = before ∧ b = rest ∨ ∃ mid, a = before ++ sep ++ mid ∧ rest = mid ++ sep ++ b := by
  obtain ⟨start, last, rfl, hlast⟩ := hsep
  -- The two occurrences are compared by where they end, since only there `last` is alone.
  have hends : (before ++ start) ++ last :: rest = (a ++ start) ++ last :: b := by simpa using h
  rcases List.append_eq_append_iff.1 hends with ⟨mid, ha, hmid⟩ | ⟨mid, hfirst, hmid⟩
  · cases mid with
    | nil =>
      obtain rfl := List.append_cancel_right (ha.trans (List.append_nil _))
      exact .inl ⟨rfl, (List.cons.inj hmid).2.symm⟩
    | cons c mid =>
      obtain ⟨rfl, hrest⟩ := List.cons.inj hmid
      obtain ⟨mid, rfl, rfl⟩ := exists_before hlast ha
      exact .inr ⟨mid, by simp, by simp [hrest]⟩
  · cases mid with
    | nil =>
      obtain rfl := List.append_cancel_right (hfirst.trans (List.append_nil _))
      exact .inl ⟨rfl, (List.cons.inj hmid).2⟩
    | cons c mid =>
      obtain ⟨rfl, -⟩ := List.cons.inj hmid
      obtain ⟨mid, rfl, -⟩ := exists_before hlast hfirst
      exact absurd ⟨a, mid, by simp⟩ hbefore

theorem prefix_of_prefix_append (hx : x ∉ sep) (h : sep <+: before ++ x :: rest) :
    sep <+: before := by
  induction before generalizing sep with
  | nil =>
    cases sep with
    | nil => exact List.prefix_rfl
    | cons y sep => exact absurd (List.cons_prefix_cons.1 h).1.symm (List.ne_of_not_mem_cons hx)
  | cons c before ih =>
    cases sep with
    | nil => exact List.nil_prefix
    | cons y sep =>
      obtain ⟨rfl, hsep⟩ := List.cons_prefix_cons.1 h
      exact List.cons_prefix_cons.2 ⟨rfl, ih (List.not_mem_of_not_mem_cons hx) hsep⟩

/-- A text does not occur across a character that it lacks. -/
theorem infix_of_infix_append (hx : x ∉ sep) (h : sep <:+: before ++ x :: rest) :
    sep <:+: before ∨ sep <:+: rest := by
  induction before with
  | nil =>
    rcases List.infix_cons_iff.1 h with hbegins | hinfix
    · have hempty : sep <+: [] := prefix_of_prefix_append hx hbegins
      exact .inl hempty.isInfix
    · exact .inr hinfix
  | cons c before ih =>
    rcases List.infix_cons_iff.1 h with hbegins | hinfix
    · have hstart : sep <+: c :: before := prefix_of_prefix_append hx hbegins
      exact .inl hstart.isInfix
    · exact (ih hinfix).imp_left List.infix_cons

/-- A text does not begin where its first character does not stand. -/
theorem infix_of_infix_behind (hx : x ∉ before) (h : x :: sep <:+: before ++ rest) :
    x :: sep <:+: rest := by
  induction before with
  | nil => exact h
  | cons c before ih =>
    rcases List.infix_cons_iff.1 h with hbegins | hinfix
    · exact absurd (List.cons_prefix_cons.1 hbegins).1 (List.ne_of_not_mem_cons hx)
    · exact ih (List.not_mem_of_not_mem_cons hx) hinfix

theorem splitOnce?_eq_none (hsep : IsSeparator sep) : splitOnce? sep cs = none ↔ ¬sep <:+: cs := by
  induction cs with
  | nil =>
    rw [splitOnce?, if_neg hsep.ne_nil]
    exact iff_of_true rfl fun h ↦ hsep.ne_nil (List.eq_nil_of_infix_nil h)
  | cons c cs ih =>
    rw [splitOnce?, List.infix_cons_iff, ← Text.isSome_after?]
    cases Text.after? sep (c :: cs) with
    | some rest => simp
    | none => simp [ih]

theorem splitOnce?_append (hsep : IsSeparator sep) (hbefore : ¬sep <:+: before) (rest : List Char) :
    splitOnce? sep (before ++ sep ++ rest) = some (before, rest) := by
  induction before with
  | nil =>
    obtain ⟨c, cs, hcs⟩ := List.exists_cons_of_ne_nil hsep.ne_nil
    rw [List.nil_append, hcs, List.cons_append, splitOnce?, ← List.cons_append, Text.after?_append]
  | cons c before ih =>
    rw [List.cons_append, List.cons_append, splitOnce?,
      ih fun h ↦ hbefore (List.infix_cons h)]
    cases hafter : Text.after? sep (c :: (before ++ sep ++ rest)) with
    | none => rfl
    | some behind =>
      have h : c :: before ++ sep ++ rest = [] ++ sep ++ behind := Text.eq_append_of_after? hafter
      obtain ⟨⟨⟩, -⟩ | ⟨mid, ⟨⟩, -⟩ := hsep.occurs hbefore h

theorem splitOnce?_eq_some (hsep : IsSeparator sep) :
    splitOnce? sep cs = some (a, b) ↔ cs = a ++ sep ++ b ∧ ¬sep <:+: a := by
  constructor
  · intro h
    induction cs generalizing a with
    | nil =>
      rw [splitOnce?, if_neg hsep.ne_nil] at h
      cases h
    | cons c cs ih =>
      rw [splitOnce?] at h
      cases hafter : Text.after? sep (c :: cs) with
      | some behind =>
        rw [hafter] at h
        cases h
        exact ⟨Text.eq_append_of_after? hafter, fun h ↦ hsep.ne_nil (List.eq_nil_of_infix_nil h)⟩
      | none =>
        rw [hafter] at h
        obtain ⟨⟨a, b⟩, hcs, heq⟩ := Option.map_eq_some_iff.1 h
        cases heq
        obtain ⟨rfl, ha⟩ := ih hcs
        refine ⟨rfl, fun hinfix ↦ ?_⟩
        rcases List.infix_cons_iff.1 hinfix with hbegins | hinfix
        · have hsome : (Text.after? sep (c :: (a ++ sep ++ b))).isSome = true :=
            Text.isSome_after?.2 (hbegins.trans ⟨sep ++ b, by simp⟩)
          rw [hafter] at hsome
          cases hsome
        · exact ha hinfix
  · rintro ⟨rfl, ha⟩
    exact splitOnce?_append hsep ha b

theorem splitOnce?_extend (hsep : IsSeparator sep) (h : splitOnce? sep cs = some (a, b))
    (rest : List Char) : splitOnce? sep (cs ++ rest) = some (a, b ++ rest) := by
  obtain ⟨rfl, ha⟩ := (splitOnce?_eq_some hsep).1 h
  exact (splitOnce?_eq_some hsep).2 ⟨List.append_assoc _ _ _, ha⟩

structure Printed where
  /-- The file and the position in it, if the diagnostic has a place. -/
  place : Option (String × TextPosition)
  severity : Severity
  code : String
  /-- The first line of the message. -/
  headline : String
  /-- The other lines of the message, each behind one space and so many more. -/
  details : List (ℕ × String)

def severityWord : Severity → List Char
  | .error => "error".toList
  | .warning => "warning".toList
  | .note => "message".toList

def placeText (file : String) (p : TextPosition) : List Char :=
  file.toList ++ '(' :: (Numeral.digits p.line ++ ',' :: Numeral.digits p.column)

def detailLine (d : ℕ × String) : List Char := List.replicate (d.1 + 1) ' ' ++ d.2.toList

structure IsDetail (s : String) : Prop where
  ne_empty : s ≠ ""
  trimmed : Text.trim s.toList = s.toList
  noFeed : '\n' ∉ s.toList
  noMark : ¬[')', ':', ' '] <:+: s.toList

namespace Printed

def header (d : Printed) : List Char := severityWord d.severity ++ ' ' :: d.code.toList

def statement (d : Printed) : List Char := d.header ++ [':', ' '] ++ d.headline.toList

def heading (d : Printed) : List Char :=
  match d.place with
  | none => d.statement
  | some (file, p) => placeText file p ++ [')', ':', ' '] ++ d.statement

def lines (d : Printed) : List (List Char) := d.heading :: d.details.map detailLine

def first (d : Printed) : ScriptDiagnostic where
  file := d.place.map Prod.fst
  position := (d.place.map Prod.snd).getD .unknown
  code := d.code
  severity := d.severity
  message := d.headline

def diagnostic (d : Printed) : ScriptDiagnostic :=
  { d.first with message := "\n".intercalate (d.headline :: d.details.map Prod.snd) }

structure Proper (d : Printed) : Prop where
  place : ∀ q ∈ d.place, ¬[')', ':', ' '] <:+: q.1.toList ∧ '\n' ∉ q.1.toList ∧
    q.2.line < 2 ^ 32 ∧ q.2.column < 2 ^ 32
  code : ['T', 'S'] <+: d.code.toList ∧ ¬[':', ' '] <:+: d.code.toList ∧ '\n' ∉ d.code.toList
  headline : '\n' ∉ d.headline.toList ∧
    (d.place = none → ¬[')', ':', ' '] <:+: d.headline.toList)
  details : ∀ q ∈ d.details, IsDetail q.2
  ends : ∀ l ∈ d.lines, l.getLast? ≠ some '\r'

structure IsCoded (d : Printed) : Prop where
  begins : ['T', 'S'] <+: d.code.toList
  whole : ¬[':', ' '] <:+: d.code.toList

theorem Proper.isCoded {d : Printed} (h : d.Proper) : d.IsCoded := ⟨h.code.1, h.code.2.1⟩

/-- A diagnostic without a place whose code ends as a place does before the severity. -/
def IsMistakable (d : Printed) : Prop :=
  d.place = none ∧ ∃ start digit, d.code.toList = start ++ [digit, ')'] ∧ digit.isDigit = true

end Printed

theorem coordinate?_digits {n : ℕ} (hn : n < 2 ^ 32) : coordinate? (Numeral.digits n) = some n := by
  obtain ⟨c, cs, hcs, hc⟩ := Numeral.digits_eq_cons n
  have hplus (ds : List Char) : Numeral.digits n ≠ '+' :: ds := fun h ↦
    Numeral.ne_of_isDigit hc rfl (List.cons.inj (hcs.symm.trans h)).1
  rw [coordinate?.eq_2 _ hplus, Numeral.natural?_digits]
  exact if_pos hn

/-- A line and a column have no characters but digits and the comma. -/
theorem not_mem_position {x : Char} (hx : x.isDigit = false) (hcomma : x ≠ ',') (p : TextPosition) :
    x ∉ Numeral.digits p.line ++ ',' :: Numeral.digits p.column := by
  have hdigits (n : ℕ) : x ∉ Numeral.digits n := fun h ↦
    Bool.false_ne_true (hx.symm.trans (Numeral.isDigit_of_mem_digits h))
  rw [List.mem_append, List.mem_cons, not_or, not_or]
  exact ⟨hdigits p.line, hcomma, hdigits p.column⟩

theorem place?_placeText (file : String) {p : TextPosition} (hline : p.line < 2 ^ 32)
    (hcolumn : p.column < 2 ^ 32) : place? (placeText file p) = some (file, p) := by
  have hcomma : ',' ∉ Numeral.digits p.line := fun h ↦ by
    cases Numeral.isDigit_of_mem_digits h
  rw [place?, placeText, Text.splitAtLast?_append (not_mem_position rfl (by decide) p)]
  simp [Text.splitAt?_append hcomma, coordinate?_digits hline, coordinate?_digits hcolumn]

theorem infix_of_infix_placeText {file : String} {p : TextPosition}
    (h : [')', ':', ' '] <:+: placeText file p) : [')', ':', ' '] <:+: file.toList := by
  rcases infix_of_infix_append (by decide) h with hfile | hposition
  · exact hfile
  · exact absurd (hposition.subset List.mem_cons_self) (not_mem_position rfl (by decide) p)

theorem endsInDigit_concat (cs : List Char) (c : Char) : endsInDigit (cs ++ [c]) = c.isDigit := by
  rw [endsInDigit, List.getLast?_concat]
  rfl

theorem endsInDigit_placeText (file : String) (p : TextPosition) :
    endsInDigit (placeText file p) = true := by
  obtain ⟨ds, c, hds⟩ : ∃ ds c, Numeral.digits p.column = ds ++ [c] :=
    (List.eq_nil_or_concat' _).resolve_left (Numeral.digits_ne_nil p.column)
  have hdigit : c.isDigit := Numeral.isDigit_of_mem_digits (hds ▸ List.mem_concat_self)
  have hplace : placeText file p =
      file.toList ++ '(' :: (Numeral.digits p.line ++ ',' :: ds) ++ [c] := by
    rw [placeText, hds]
    simp
  rw [hplace, endsInDigit_concat, hdigit]

theorem severity?_severityWord (s : Severity) : severity? (severityWord s) = some s := by
  cases s <;> rfl

theorem not_mem_severityWord {x : Char} (hx : x.isLower = false) (s : Severity) :
    x ∉ severityWord s := by
  have hword : (severityWord s).all Char.isLower = true := by
    cases s <;> rfl
  exact fun hmem ↦ Bool.false_ne_true (hx.symm.trans (List.all_eq_true.1 hword x hmem))

namespace Printed

variable {d : Printed}

theorem IsCoded.infix_header (h : d.IsCoded) : ¬[':', ' '] <:+: d.header := by
  intro hinfix
  have hword : ':' ∉ severityWord d.severity ++ [' '] := by
    simpa using not_mem_severityWord rfl d.severity
  have hheader : d.header = severityWord d.severity ++ [' '] ++ d.code.toList := by
    rw [header, List.append_assoc, List.singleton_append]
  rw [hheader] at hinfix
  exact h.whole (infix_of_infix_behind hword hinfix)

theorem IsCoded.readStatement? (h : d.IsCoded) (file : Option String) (position : TextPosition) :
    readStatement? file position d.statement =
      some ⟨file, position, d.code, d.severity, d.headline⟩ := by
  have hword : ' ' ∉ severityWord d.severity := not_mem_severityWord rfl d.severity
  have hheader : Text.splitAt? ' ' d.header = some (severityWord d.severity, d.code.toList) :=
    Text.splitAt?_append hword d.code.toList
  obtain ⟨number, hcode⟩ := h.begins
  have hafter : Text.after? ['T', 'S'] d.code.toList = some number := by
    rw [← hcode, Text.after?_append]
  rw [Script.readStatement?, statement, splitOnce?_append isSeparator_colon h.infix_header]
  simp [hheader, severity?_severityWord, hafter]

theorem heading_of_none (hplace : d.place = none) : d.heading = d.statement := by
  rw [heading, hplace]

theorem heading_of_some {file : String} {p : TextPosition} (hplace : d.place = some (file, p)) :
    d.heading = placeText file p ++ [')', ':', ' '] ++ d.statement := by
  rw [heading, hplace]

theorem Proper.readLine?_of_some (h : d.Proper) {file : String} {p : TextPosition}
    (hplace : d.place = some (file, p)) : readLine? d.heading = some d.first := by
  obtain ⟨hfile, -, hline, hcolumn⟩ := h.place _ hplace
  have hmark : ¬[')', ':', ' '] <:+: placeText file p := fun hinfix ↦
    hfile (infix_of_infix_placeText hinfix)
  rw [readLine?, heading_of_some hplace, splitOnce?_append isSeparator_mark hmark]
  simp only [endsInDigit_placeText, place?_placeText file hline hcolumn]
  simp [h.isCoded.readStatement?, first, hplace]

/-- Behind a severity and a code, nothing can be taken for the end of a place but the end of the code
and what stands in the text that follows. -/
theorem IsCoded.header_of_infix (h : d.IsCoded)
    (hmark : [')', ':', ' '] <:+: d.header ++ [':', ' '] ++ cs) :
    (∃ start, d.header = start ++ [')']) ∨ [')', ':', ' '] <:+: cs := by
  obtain ⟨a, b, hab⟩ := hmark
  have hoccurs : d.header ++ [':', ' '] ++ cs = (a ++ [')']) ++ [':', ' '] ++ b := by
    rw [← hab]
    simp
  -- The mark holds a colon and a space, and the first of these stand behind the header.
  rcases isSeparator_colon.occurs h.infix_header hoccurs with ⟨ha, -⟩ | ⟨mid, ha, hrest⟩
  · exact .inl ⟨a, ha.symm⟩
  · have ha' : a ++ [')'] = (d.header ++ [':']) ++ ' ' :: mid := by
      rw [ha]
      simp
    obtain ⟨mid, -, rfl⟩ := exists_before (by decide) ha'
    exact .inr ⟨mid, b, by rw [hrest]; simp⟩

def EndsAsPlace (d : Printed) : Prop :=
  ∃ start digit, d.code.toList = start ++ [digit, ')'] ∧ digit.isDigit = true

theorem endsAsPlace_iff {start : List Char} (hheader : d.header = start ++ [')']) :
    d.EndsAsPlace ↔ endsInDigit start = true := by
  constructor
  · rintro ⟨code, digit, hcode, hdigit⟩
    have hstart : start ++ [')'] = (severityWord d.severity ++ ' ' :: code) ++ [digit] ++ [')'] := by
      rw [← hheader, header, hcode]
      simp
    rw [List.append_cancel_right hstart, endsInDigit_concat, hdigit]
  · intro hends
    rcases List.eq_nil_or_concat' start with rfl | ⟨start, digit, rfl⟩
    · cases hends
    · rw [endsInDigit_concat] at hends
      have hspace : ' ' ∉ [digit, ')'] := by
        simpa using (Numeral.ne_of_isDigit hends rfl).symm
      have hcode : start ++ [digit, ')'] = severityWord d.severity ++ ' ' :: d.code.toList := by
        rw [← header, hheader]
        simp
      obtain ⟨code, -, hcode⟩ := exists_before hspace hcode
      exact ⟨code, digit, hcode, hends⟩

theorem IsCoded.splitOnce?_statement (h : d.IsCoded) {start : List Char}
    (hheader : d.header = start ++ [')']) :
    splitOnce? [')', ':', ' '] d.statement = some (start, d.headline.toList) := by
  have hstart : ¬[')', ':', ' '] <:+: start := fun hinfix ↦ by
    have hcolon : [':', ' '] <:+: [')', ':', ' '] := ⟨[')'], [], rfl⟩
    refine h.infix_header ((hcolon.trans hinfix).trans ?_)
    rw [hheader]
    exact (List.prefix_append start [')']).isInfix
  have hstatement : d.statement = start ++ [')', ':', ' '] ++ d.headline.toList := by
    rw [statement, hheader]
    simp
  rw [hstatement, splitOnce?_append isSeparator_mark hstart]

theorem Proper.readLine?_of_none (h : d.Proper) (hplace : d.place = none) (hd : ¬d.IsMistakable) :
    readLine? d.heading = some d.first := by
  have hread : Script.readStatement? none .unknown d.statement = some d.first := by
    rw [h.isCoded.readStatement?, first, hplace]
    rfl
  rw [readLine?, heading_of_none hplace]
  by_cases hmark : [')', ':', ' '] <:+: d.statement
  · obtain ⟨start, hheader⟩ :=
      (h.isCoded.header_of_infix hmark).resolve_right (h.headline.2 hplace)
    have hends : ¬endsInDigit start = true := fun hends ↦
      hd ⟨hplace, (endsAsPlace_iff hheader).2 hends⟩
    rw [h.isCoded.splitOnce?_statement hheader]
    exact (if_neg hends).trans hread
  · rw [(splitOnce?_eq_none isSeparator_mark).2 hmark]
    exact hread

theorem file_of_readStatement? {file : Option String} {position : TextPosition}
    {e : ScriptDiagnostic} (h : Script.readStatement? file position cs = some e) : e.file = file := by
  obtain ⟨_, -, h⟩ := Option.bind_eq_some_iff.1 h
  obtain ⟨_, -, h⟩ := Option.bind_eq_some_iff.1 h
  obtain ⟨_, -, h⟩ := Option.bind_eq_some_iff.1 h
  obtain ⟨_, -, h⟩ := Option.bind_eq_some_iff.1 h
  cases h
  rfl

/-- A line whose first mark stands behind a digit is not read, or read with a place. -/
theorem file_of_splitOnce? {a b : List Char} (h : splitOnce? [')', ':', ' '] cs = some (a, b))
    (hends : endsInDigit a = true) {e : ScriptDiagnostic} (hread : readLine? cs = some e) :
    e.file ≠ none := by
  rw [readLine?, h] at hread
  dsimp only at hread
  rw [if_pos hends] at hread
  obtain ⟨⟨file, position⟩, -, hread⟩ := Option.bind_eq_some_iff.1 hread
  rw [file_of_readStatement? hread]
  exact Option.some_ne_none file

/-- A mistakable heading is not read, or read with a place. -/
theorem Proper.file_of_isMistakable (h : d.Proper) (hd : d.IsMistakable) {e : ScriptDiagnostic}
    (hread : readLine? d.heading = some e) : e.file ≠ d.first.file := by
  have hplace := hd.1
  obtain ⟨code, digit, hcode, hdigit⟩ := hd.2
  have hheader : d.header = (severityWord d.severity ++ ' ' :: code ++ [digit]) ++ [')'] := by
    rw [header, hcode]
    simp
  rw [heading_of_none hplace] at hread
  rw [first, hplace]
  exact file_of_splitOnce? (h.isCoded.splitOnce?_statement hheader)
    (endsInDigit_concat _ digit ▸ hdigit) hread

/-- The heading is read as what it says, unless it can be mistaken. -/
theorem Proper.readLine?_heading (h : d.Proper) (hd : ¬d.IsMistakable) :
    readLine? d.heading = some d.first := by
  cases hplace : d.place with
  | none => exact h.readLine?_of_none hplace hd
  | some q => exact h.readLine?_of_some hplace

end Printed

/-- A line that begins with a space is no diagnostic without a place. -/
theorem readStatement?_of_space (file : Option String) (position : TextPosition) (cs : List Char) :
    readStatement? file position (' ' :: cs) = none := by
  rw [readStatement?]
  cases hsplit : splitOnce? [':', ' '] (' ' :: cs) with
  | none => rfl
  | some p =>
    obtain ⟨a, b⟩ := p
    obtain ⟨hcs, -⟩ := (splitOnce?_eq_some isSeparator_colon).1 hsplit
    cases a with
    | nil => cases hcs
    | cons c a =>
      cases hcs
      rfl

theorem readLine?_of_space (h : ¬[')', ':', ' '] <:+: cs) : readLine? (' ' :: cs) = none := by
  have hmark : ¬[')', ':', ' '] <:+: [' '] ++ cs := fun hinfix ↦
    h (infix_of_infix_behind (by decide) hinfix)
  rw [← List.singleton_append, readLine?, (splitOnce?_eq_none isSeparator_mark).2 hmark]
  exact readStatement?_of_space none .unknown cs

theorem isSome_readStatement?_append {file : Option String} {position : TextPosition}
    (h : (readStatement? file position cs).isSome) (rest : List Char) :
    (readStatement? file position (cs ++ rest)).isSome := by
  obtain ⟨e, he⟩ := Option.isSome_iff_exists.1 h
  obtain ⟨⟨header, message⟩, hsplit, he⟩ := Option.bind_eq_some_iff.1 he
  obtain ⟨⟨word, code⟩, hheader, he⟩ := Option.bind_eq_some_iff.1 he
  obtain ⟨severity, hword, he⟩ := Option.bind_eq_some_iff.1 he
  obtain ⟨number, hcode, -⟩ := Option.bind_eq_some_iff.1 he
  rw [readStatement?, splitOnce?_extend isSeparator_colon hsplit rest]
  simp [hheader, hword, hcode]

/-- A diagnostic is still one with another character behind it. -/
theorem isSome_readLine?_concat (hx : x ∉ [')', ':', ' ']) (h : (readLine? cs).isSome) :
    (readLine? (cs ++ [x])).isSome := by
  rw [readLine?] at h ⊢
  cases hsplit : splitOnce? [')', ':', ' '] cs with
  | none =>
    have hmark : ¬[')', ':', ' '] <:+: cs ++ [x] := fun hinfix ↦ by
      rcases infix_of_infix_append hx hinfix with hcs | hnil
      · exact (splitOnce?_eq_none isSeparator_mark).1 hsplit hcs
      · cases List.eq_nil_of_infix_nil hnil
    rw [hsplit] at h
    rw [(splitOnce?_eq_none isSeparator_mark).2 hmark]
    exact isSome_readStatement?_append h [x]
  | some p =>
    obtain ⟨before, rest⟩ := p
    rw [hsplit] at h
    rw [splitOnce?_extend isSeparator_mark hsplit]
    dsimp only at h ⊢
    split at h
    · next hdigit =>
      rw [if_pos hdigit]
      cases hplace : place? before with
      | none =>
        rw [hplace] at h
        cases h
      | some q =>
        rw [hplace] at h
        exact isSome_readStatement?_append h [x]
    · next hdigit =>
      rw [if_neg hdigit]
      exact isSome_readStatement?_append h [x]

end Stagecraft.Script
