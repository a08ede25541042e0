import Stagecraft.Proofs.Trace.Instruction
import Stagecraft.Proofs.Trace.Table
import Stagecraft.Trace.Write

namespace Stagecraft.Trace

open Text (Line lines)

def subLabel (n : ℕ) : List Char := "sub_".toList ++ Numeral.digits n ++ [':']

-- Stated by hand, as is `writeCode_eq`: Lean would decode the literal to make its own equation.
theorem subLabel_eq (n : ℕ) : subLabel n = "sub_".toList ++ Numeral.digits n ++ [':'] := rfl

def subLines : ℕ → List (List Instruction) → List (List Char)
  | _, [] => []
  | n, [b] => subLabel n :: b.map Instruction.write
  | n, b :: rest => subLabel n :: b.map Instruction.write ++ [] :: subLines (n + 1) rest

def codeLines (code : Code) : List (List Char) :=
  ".code".toList :: code.main.map Instruction.write ++ [] :: subLines 0 code.subs

def traceLines (t : Tables) (code : Code) : List (List Char) :=
  ".text".toList :: entryLines 't' 0 t.texts ++ [] ::
    (".path".toList :: entryLines 'p' 0 t.paths ++ [] :: codeLines code)

structure Code.Spelled (code : Code) : Prop where
  main : ∀ i ∈ code.main, i.Spelled
  subs : ∀ b ∈ code.subs, ∀ i ∈ b, i.Spelled

structure Code.Regular (code : Code) : Prop where
  main : ∀ i ∈ code.main, i.Regular
  subs : ∀ b ∈ code.subs, ∀ i ∈ b, i.Regular
  few : code.subs.length ≤ referenceBound

theorem Code.Regular.spelled {code : Code} (h : code.Regular) : code.Spelled where
  main := fun i hi ↦ (h.main i hi).toSpelled
  subs := fun b hb i hi ↦ (h.subs b hb i hi).toSpelled

theorem lines_writeBlock {is : List Instruction} (h : ∀ i ∈ is, i.Spelled) (rest : List Char) :
    lines (writeBlock is ++ rest) = is.map Instruction.write ++ lines rest := by
  induction is with
  | nil => rfl
  | cons i is ih =>
    obtain ⟨hi, his⟩ := List.forall_mem_cons.1 h
    have hw : writeBlock (i :: is) ++ rest = i.write ++ '\n' :: (writeBlock is ++ rest) := by
      simp [writeBlock]
    rw [hw, Text.lines_line fun hn ↦ (hi.write_inline _ hn).2 rfl, ih his]
    rfl

theorem not_mem_subLabel (n : ℕ) {c : Char} (hc : c = '\n' ∨ c = ';') : c ∉ subLabel n := by
  have hd : c ∉ Numeral.digits n := fun h ↦ by
    have hdigit := Numeral.isDigit_of_mem_digits h
    rcases hc with rfl | rfl <;> exact absurd hdigit (by decide)
  simp only [subLabel_eq, List.mem_append, not_or]
  refine ⟨⟨?_, hd⟩, ?_⟩ <;> rcases hc with rfl | rfl <;> decide

theorem lines_writeSubs {n : ℕ} {subs : List (List Instruction)}
    (h : ∀ b ∈ subs, ∀ i ∈ b, i.Spelled) :
    lines (Text.joined ['\n'] (writeSubs n subs)) = subLines n subs := by
  have hlabel (n : ℕ) : '\n' ∉ subLabel n := not_mem_subLabel n (.inl rfl)
  have hsub (n : ℕ) (b : List Instruction) (rest : List Char) :
      "sub_".toList ++ Numeral.digits n ++ [':', '\n'] ++ writeBlock b ++ rest =
        subLabel n ++ '\n' :: (writeBlock b ++ rest) := by simp [subLabel_eq]
  induction subs generalizing n with
  | nil => rfl
  | cons b rest ih =>
    obtain ⟨hb, hrest⟩ := List.forall_mem_cons.1 h
    cases rest with
    | nil =>
      have hw := hsub n b []
      rw [List.append_nil] at hw
      rw [writeSubs, writeSubs, Text.joined, hw, Text.lines_line (hlabel n), lines_writeBlock hb]
      simp [subLines]
    | cons b' rest =>
      rw [writeSubs, writeSubs, Text.joined, List.append_assoc, hsub, Text.lines_line (hlabel n),
        lines_writeBlock hb, List.singleton_append, ← List.nil_append ('\n' :: _),
        Text.lines_line List.not_mem_nil, ← writeSubs, ih hrest]
      · rfl
      · simp

def writeCode (code : Code) : List Char :=
  ".code\n".toList ++ writeBlock code.main ++ '\n' :: Text.joined ['\n'] (writeSubs 0 code.subs)

theorem writeCode_eq (code : Code) : writeCode code = ".code\n".toList ++ writeBlock code.main ++
    '\n' :: Text.joined ['\n'] (writeSubs 0 code.subs) := rfl

theorem lines_writeCode {code : Code} (h : code.Spelled) :
    lines (writeCode code) = codeLines code := by
  have hcode : '\n' ∉ ".code".toList := by decide
  have hw : writeCode code = ".code".toList ++ '\n' ::
      (writeBlock code.main ++ '\n' :: Text.joined ['\n'] (writeSubs 0 code.subs)) := by
    simp [writeCode_eq]
  rw [hw, Text.lines_line hcode, lines_writeBlock h.main, Text.lines_newline, lines_writeSubs h.subs]
  rfl

theorem writeTrace_eq (t : Tables) (code : Code) : writeTrace t code =
    writeTable ".text" 't' t.texts ++ writeTable ".path" 'p' t.paths ++ writeCode code := by
  simp [writeTrace, writeCode_eq]

theorem lines_writeTrace {t : Tables} {code : Code} (h : code.Spelled) :
    lines (writeTrace t code) = traceLines t code := by
  have htext : '\n' ∉ ".text".toList := by decide
  have hpath : '\n' ∉ ".path".toList := by decide
  have hw : writeTrace t code = ".text".toList ++ '\n' :: (writeEntries 't' 0 t.texts ++ '\n' ::
      (".path".toList ++ '\n' :: (writeEntries 'p' 0 t.paths ++ '\n' :: writeCode code))) := by
    simp [writeTrace_eq, writeTable]
  rw [hw, Text.lines_line htext, lines_writeEntries, Text.lines_newline, Text.lines_line hpath,
    lines_writeEntries, Text.lines_newline, lines_writeCode h]
  rfl

variable {t : Tables} {code : Code} {xs ys ls : List Line}

theorem readBlocks_grow {done : List (List Line)} {b : List Line} (h : ∀ x ∈ xs, x.text ≠ [])
    (ys : List Line) :
    readBlocks done (some b) (xs ++ ys) = readBlocks done (some (b ++ xs)) ys := by
  induction xs generalizing b with
  | nil => simp
  | cons x xs ih =>
    obtain ⟨hx, hxs⟩ := List.forall_mem_cons.1 h
    rw [List.cons_append, readBlocks]
    simp only [if_neg hx, ih hxs, List.append_assoc, List.singleton_append]

theorem readBlocks_label {done : List (List Line)} {l : Line} (hl : l.text = subLabel done.length)
    (hn : done.length < referenceBound) (ys : List Line) :
    readBlocks done none (l :: ys) = readBlocks done (some []) ys := by
  have hne : l.text ≠ [] := by simp [hl, subLabel_eq]
  have hnumber : labelNumber? l.text = some done.length := by
    rw [hl, subLabel_eq, List.append_assoc, labelNumber?]
    simp only [Text.after?_append, Option.bind_eq_bind, Option.bind_some, Text.before?_concat]
    exact reference?_digits hn
  rw [readBlocks]
  simp only [if_neg hne, hnumber, if_true]

theorem text_ne_nil {b : List Instruction} (hb : ∀ i ∈ b, i.Spelled)
    (h : xs.map Line.text = b.map Instruction.write) : ∀ x ∈ xs, x.text ≠ [] := by
  intro x hx
  obtain ⟨i, hi, hw⟩ := List.mem_map.1 (h ▸ List.mem_map_of_mem hx)
  exact hw ▸ (hb i hi).write_ne_nil

theorem readBlocks_subLines {subs : List (List Instruction)} {done : List (List Line)}
    (hsubs : ∀ b ∈ subs, ∀ i ∈ b, i.Spelled) (hfew : done.length + subs.length ≤ referenceBound)
    (h : xs.map Line.text = subLines done.length subs) :
    ∃ blocks, blocks.map (List.map Line.text) = subs.map (List.map Instruction.write) ∧
      readBlocks done none xs = .ok (done ++ blocks) := by
  induction subs generalizing done xs with
  | nil =>
    obtain rfl := List.map_eq_nil_iff.1 h
    exact ⟨[], rfl, by simp [readBlocks]⟩
  | cons b rest ih =>
    obtain ⟨hb, hrest⟩ := List.forall_mem_cons.1 hsubs
    rw [List.length_cons] at hfew
    cases rest with
    | nil =>
      obtain ⟨l, us, rfl, hl, hus⟩ := List.map_eq_cons_iff.1 h
      refine ⟨[us], by simp [hus], ?_⟩
      have hgrow : readBlocks done (some []) (us ++ []) = .ok (done ++ [us]) := by
        rw [readBlocks_grow (text_ne_nil hb hus), readBlocks]
        rfl
      rw [List.append_nil] at hgrow
      rw [readBlocks_label hl (by omega), hgrow]
    | cons b' rest =>
      obtain ⟨l, us, rfl, hl, hus⟩ := List.map_eq_cons_iff.1 h
      obtain ⟨vs, ws, rfl, hvs, hws⟩ := List.map_eq_append_iff.1 hus
      obtain ⟨m, zs, rfl, hm, hzs⟩ := List.map_eq_cons_iff.1 hws
      have hfew' : (done ++ [vs]).length + (b' :: rest).length ≤ referenceBound := by
        rw [List.length_append, List.length_singleton]
        omega
      have hzs' : zs.map Line.text = subLines (done ++ [vs]).length (b' :: rest) := by
        rwa [List.length_append, List.length_singleton]
      obtain ⟨blocks, hblocks, hread⟩ := ih hrest hfew' hzs'
      refine ⟨vs :: blocks, by rw [List.map_cons, hblocks, hvs]; rfl, ?_⟩
      rw [readBlocks_label hl (by omega), readBlocks_grow (text_ne_nil hb hvs), readBlocks]
      simp only [hm, if_true, List.nil_append, hread, List.append_assoc, List.singleton_append]

structure Sections.Carries (s : Sections) (code : Code) : Prop where
  main : s.main.map Line.text = code.main.map Instruction.write
  subs : s.subs.map (List.map Line.text) = code.subs.map (List.map Instruction.write)

def readCodeSection (texts paths : Table) (ls : List Line) : Except ReadError Sections := do
  let ls ← readHeader ".code" ls
  let main := ls.takeWhile (·.text ≠ [])
  let subs ← readBlocks [] none ((ls.dropWhile (·.text ≠ [])).drop 1)
  return ⟨texts, paths, main, subs⟩

theorem readCodeSection_codeLines (hc : code.Regular) (h : ls.map Line.text = codeLines code)
    (texts paths : Table) : ∃ s, readCodeSection texts paths ls = .ok s ∧
      s.texts = texts ∧ s.paths = paths ∧ s.Carries code := by
  obtain ⟨c, us, rfl, hhead, hus⟩ := List.map_eq_cons_iff.1 h
  obtain ⟨main, vs, rfl, hmain, hvs⟩ := List.map_eq_append_iff.1 hus
  obtain ⟨e, zs, rfl, he, hzs⟩ := List.map_eq_cons_iff.1 hvs
  have hfew : ([] : List (List Line)).length + code.subs.length ≤ referenceBound := by
    rw [List.length_nil, Nat.zero_add]
    exact hc.few
  obtain ⟨subs, hsubs, hread⟩ := readBlocks_subLines hc.spelled.subs hfew hzs
  have hne : ∀ x ∈ main, decide (x.text ≠ []) = true := fun x hx ↦
    decide_eq_true (text_ne_nil hc.spelled.main hmain x hx)
  have htake : (main ++ e :: zs).takeWhile (·.text ≠ []) = main := by
    rw [List.takeWhile_append_of_pos hne, List.takeWhile_cons_of_neg (by simp [he]),
      List.append_nil]
  have hdrop : (main ++ e :: zs).dropWhile (·.text ≠ []) = e :: zs := by
    rw [List.dropWhile_append_of_pos hne, List.dropWhile_cons_of_neg (by simp [he])]
  refine ⟨⟨texts, paths, main, subs⟩, ?_, rfl, rfl, hmain, hsubs⟩
  have hheader : readHeader ".code" (c :: (main ++ e :: zs)) = .ok (main ++ e :: zs) := by
    rw [readHeader, if_pos hhead]
  rw [readCodeSection, hheader]
  simp only [bind, Except.bind, htake, hdrop, List.drop_one, List.tail_cons, hread]
  rfl

/-- A section is its header, its lines up to an empty one, and what follows. -/
theorem exists_section {header : String} {entries rest : List (List Char)}
    (h : ls.map Line.text = header.toList :: entries ++ [] :: rest) :
    ∃ xs e ys, readHeader header ls = .ok (xs ++ e :: ys) ∧ xs.map Line.text = entries ∧
      e.text = [] ∧ ys.map Line.text = rest := by
  obtain ⟨c, us, rfl, hhead, hus⟩ := List.map_eq_cons_iff.1 h
  obtain ⟨xs, vs, rfl, hxs, hvs⟩ := List.map_eq_append_iff.1 hus
  obtain ⟨e, ys, rfl, he, hys⟩ := List.map_eq_cons_iff.1 hvs
  exact ⟨xs, e, ys, if_pos hhead, hxs, he, hys⟩

def readPathSection (texts : Table) (ls : List Line) : Except ReadError Sections := do
  let (paths, ls) ← readTable 'p' (← readHeader ".path" ls)
  readCodeSection texts paths ls

theorem readSections_eq (ls : List Line) : readSections ls = (do
    let (texts, ls) ← readTable 't' (← readHeader ".text" ls)
    readPathSection texts ls) := rfl

def pathLines (t : Tables) (code : Code) : List (List Char) :=
  ".path".toList :: entryLines 'p' 0 t.paths ++ [] :: codeLines code

theorem readPathSection_good (hc : code.Regular) (hp : ∀ s ∈ t.paths, ¬EndsInBackslash s)
    (h : ls.map Line.text = pathLines t code) (texts : Table) :
    ∃ s, readPathSection texts ls = .ok s ∧ s.texts = texts ∧ s.paths = t.paths ∧
      s.Carries code := by
  obtain ⟨ps, e, zs, hheader, hps, he, hzs⟩ := exists_section h
  rw [readPathSection, hheader]
  simp only [bind, Except.bind, readTable_good (by decide) hp hps he]
  exact readCodeSection_codeLines hc hzs texts t.paths

theorem not_mem_codeLines (hc : code.Spelled) : ∀ cs ∈ codeLines code, ';' ∉ cs := by
  have hblock {b : List Instruction} (hb : ∀ i ∈ b, i.Spelled) :
      ∀ cs ∈ b.map Instruction.write, ';' ∉ cs := by
    rw [List.forall_mem_map]
    exact fun i hi hm ↦ ((hb i hi).write_inline _ hm).1 rfl
  have hsubs (n : ℕ) {subs : List (List Instruction)} (h : ∀ b ∈ subs, ∀ i ∈ b, i.Spelled) :
      ∀ cs ∈ subLines n subs, ';' ∉ cs := by
    induction subs generalizing n with
    | nil => simp [subLines]
    | cons b rest ih =>
      obtain ⟨hb, hrest⟩ := List.forall_mem_cons.1 h
      have hhead : ∀ cs ∈ subLabel n :: b.map Instruction.write, ';' ∉ cs :=
        List.forall_mem_cons.2 ⟨not_mem_subLabel n (.inr rfl), hblock hb⟩
      cases rest with
      | nil => exact hhead
      | cons b' rest =>
        exact List.forall_mem_append.2
          ⟨hhead, List.forall_mem_cons.2 ⟨List.not_mem_nil, ih (n + 1) hrest⟩⟩
  refine List.forall_mem_append.2 ⟨List.forall_mem_cons.2 ⟨by decide, hblock hc.main⟩, ?_⟩
  exact List.forall_mem_cons.2 ⟨List.not_mem_nil, hsubs 0 hc.subs⟩

/-- An entry that is still open where the code begins is never closed. -/
theorem readEntries_codeLines (hc : code.Spelled) (h : ls.map Line.text = codeLines code)
    (tag : Char) (done : Table) (n : ℕ) (body : List Char) :
    readEntries tag done (some (n, body)) ls = .error (.line n .unterminated) :=
  readEntries_unterminated fun _ hx ↦
    endsLiteral_of_not_mem (not_mem_codeLines hc _ (h ▸ List.mem_map_of_mem hx))

theorem readPathSection_bad (hc : code.Regular) (hp : ∃ s ∈ t.paths, EndsInBackslash s)
    (h : ls.map Line.text = pathLines t code) {texts : Table} {s : Sections}
    (hs : readPathSection texts ls = .ok s) :
    s.texts = texts ∧ s.paths.length < t.paths.length ∧ s.Carries code := by
  obtain ⟨ps, e, zs, hheader, hps, he, hzs⟩ := exists_section h
  have hover := readTable_bad (by decide) hp hps he zs
  rw [readPathSection, hheader] at hs
  simp only [bind, Except.bind] at hs
  generalize readTable 'p' (ps ++ e :: zs) = r at hover hs
  cases hover with
  | error e => cases hs
  | shorter paths hlen =>
    obtain ⟨s', hread, htexts, hpaths, hcarries⟩ := readCodeSection_codeLines hc hzs texts paths
    obtain rfl : s' = s := Except.ok.inj (hread.symm.trans hs)
    exact ⟨htexts, hpaths ▸ hlen, hcarries⟩
  | left_open done n body =>
    rw [readEntries_codeLines hc.spelled hzs] at hs
    cases hs

/-- The sections of a trace are read back if no literal ends in a backslash. -/
theorem readSections_good (hc : code.Regular) (ht : ∀ s ∈ t.texts, ¬EndsInBackslash s)
    (hp : ∀ s ∈ t.paths, ¬EndsInBackslash s) (h : ls.map Line.text = traceLines t code) :
    ∃ s, readSections ls = .ok s ∧ s.texts = t.texts ∧ s.paths = t.paths ∧ s.Carries code := by
  obtain ⟨ts, e, zs, hheader, hts, he, hzs⟩ := exists_section h
  rw [readSections_eq, hheader]
  simp only [bind, Except.bind, readTable_good (by decide) ht hts he]
  exact readPathSection_good hc hp hzs t.texts

/-- An open text that swallows the paths is followed by the wrong header. -/
theorem readPathSection_codeLines (h : ls.map Line.text = codeLines code) (texts : Table) :
    ∃ e, readPathSection texts ls = .error e := by
  obtain ⟨c, us, rfl, hhead, -⟩ := List.map_eq_cons_iff.1 h
  have hne : c.text ≠ ".path".toList := by
    rw [hhead]
    decide
  rw [readPathSection, readHeader, if_neg hne]
  exact ⟨_, rfl⟩

/-- A text that runs on over the header of the paths and into their entries is never read. -/
theorem readEntries_pathLines (hc : code.Regular) (h : ls.map Line.text = pathLines t code)
    (done : Table) (n : ℕ) (body : List Char) (s : Sections) :
    (do
      let (texts, ls) ← readEntries 't' done (some (n, body)) ls
      readPathSection texts ls) ≠ .ok s := by
  intro hs
  obtain ⟨d, us, rfl, hd, hus⟩ := List.map_eq_cons_iff.1 h
  obtain ⟨ps, vs, rfl, hps, hvs⟩ := List.map_eq_append_iff.1 hus
  obtain ⟨e, ys, rfl, he, hys⟩ := List.map_eq_cons_iff.1 hvs
  have hopen : ∀ x ∈ [d], endsLiteral x.text = false := by
    rw [List.forall_mem_singleton, hd]
    decide
  have hswallow : Swallowed 't' done n t.paths ys
      (readEntries 't' done (some (n, body ++ behind [d])) (ps ++ e :: ys)) :=
    readEntries_swallow (by decide) (.inl (by decide)) hps he ys
  rw [← List.singleton_append, readEntries_grow hopen] at hs
  generalize readEntries 't' done (some (n, body ++ behind [d])) (ps ++ e :: ys) = r
    at hswallow hs
  cases hswallow with
  | error e => cases hs
  | closed x _ =>
    -- Where the code begins, the header of the paths is wanted.
    obtain ⟨e, he⟩ := readPathSection_codeLines hys (done ++ [x])
    exact absurd (he.symm.trans hs) (by simp)
  | left_open body =>
    rw [readEntries_codeLines hc.spelled hys] at hs
    cases hs

/-- If the sections are read although a literal ends in a backslash, a table has lost literals. -/
theorem readSections_bad (hc : code.Regular)
    (hb : (∃ s ∈ t.texts, EndsInBackslash s) ∨ ∃ s ∈ t.paths, EndsInBackslash s)
    (h : ls.map Line.text = traceLines t code) {s : Sections} (hs : readSections ls = .ok s) :
    (s.texts.length < t.texts.length ∨ s.paths.length < t.paths.length) ∧ s.Carries code := by
  obtain ⟨ts, e, zs, hheader, hts, he, hzs⟩ := exists_section h
  rw [readSections_eq, hheader] at hs
  simp only [bind, Except.bind] at hs
  by_cases ht : ∃ s ∈ t.texts, EndsInBackslash s
  · have hover := readTable_bad (by decide) ht hts he zs
    generalize readTable 't' (ts ++ e :: zs) = r at hover hs
    cases hover with
    | error e => cases hs
    | shorter texts hlen =>
      by_cases hp : ∃ s ∈ t.paths, EndsInBackslash s
      · obtain ⟨htexts, -, hcarries⟩ := readPathSection_bad hc hp hzs hs
        exact ⟨.inl (htexts ▸ hlen), hcarries⟩
      · obtain ⟨s', hread, htexts, -, hcarries⟩ :=
          readPathSection_good hc (by simpa using hp) hzs texts
        obtain rfl : s' = s := Except.ok.inj (hread.symm.trans hs)
        exact ⟨.inl (htexts ▸ hlen), hcarries⟩
    | left_open done n body => exact absurd hs (readEntries_pathLines hc hzs done n body s)
  · have hp : ∃ s ∈ t.paths, EndsInBackslash s := hb.resolve_left ht
    rw [readTable_good (by decide) (by simpa using ht) hts he] at hs
    obtain ⟨-, hpaths, hcarries⟩ := readPathSection_bad hc hp hzs hs
    exact ⟨.inr hpaths, hcarries⟩

end Stagecraft.Trace
