import Stagecraft.Proofs.Trace.Sections

namespace Stagecraft.Trace

open Text (Line)

inductive Listing where
  | texts
  | paths

namespace Listing

def header : Listing → String
  | texts => ".text"
  | paths => ".path"

def tag : Listing → Char
  | texts => 't'
  | paths => 'p'

def put (k : Listing) (t : Table) (s : Sections) : Sections :=
  match k with
  | texts => { s with texts := t }
  | paths => { s with paths := t }

end Listing

inductive Wanted where
  | table (k : Listing)
  | entry (k : Listing) (t : Table)
  | code
  | label

def Wanted.header? : Wanted → Option String
  | table k => some k.header
  | code => some ".code"
  | _ => none

def Listing.next : Listing → Wanted
  | texts => .table .paths
  | paths => .code

def Wanted.missing? : Wanted → Option String
  | entry k _ => k.next.header?
  | w => w.header?

structure IsEntry (tag : Char) (i : ℕ) (ls : List Line) (x : String) : Prop where
  labelled : ∃ l more body, ls = l :: more ∧ l.text = label tag i ++ body ∧
    x = literal (body ++ behind more)
  closed : ∃ ms z, ls = ms ++ [z] ∧ (∀ m ∈ ms, endsLiteral m.text = false) ∧ endsLiteral z.text

/-- `Awaits ls w s` says that the lines are in order, that `w` is wanted behind them, and that the
sections in `s` are behind them already. Code goes on up to an empty line. -/
inductive Awaits : List Line → Wanted → Sections → Prop
  | start : Awaits [] (.table .texts) ⟨[], [], [], []⟩
  | header {ls : List Line} {s : Sections} {k : Listing} {l : Line} (h : Awaits ls (.table k) s)
      (hl : l.text = k.header.toList) : Awaits (ls ++ [l]) (.entry k []) s
  | entry {ls es : List Line} {s : Sections} {k : Listing} {t : Table} {x : String}
      (h : Awaits ls (.entry k t) s) (he : IsEntry k.tag t.length es x) :
      Awaits (ls ++ es) (.entry k (t ++ [x])) s
  | close {ls : List Line} {s : Sections} {k : Listing} {t : Table} {l : Line}
      (h : Awaits ls (.entry k t) s) (hl : l.text = []) : Awaits (ls ++ [l]) k.next (k.put t s)
  | main {ls main : List Line} {s : Sections} {l e : Line} (h : Awaits ls .code s)
      (hl : l.text = ".code".toList) (hmain : ∀ m ∈ main, m.text ≠ []) (he : e.text = []) :
      Awaits (ls ++ (l :: main ++ [e])) .label { s with main := main, subs := [] }
  | gap {ls : List Line} {s : Sections} {l : Line} (h : Awaits ls .label s) (hl : l.text = []) :
      Awaits (ls ++ [l]) .label s
  | sub {ls block : List Line} {s : Sections} {l e : Line} (h : Awaits ls .label s)
      (hl : labelNumber? l.text = some s.subs.length) (hblock : ∀ m ∈ block, m.text ≠ [])
      (he : e.text = []) :
      Awaits (ls ++ (l :: block ++ [e])) .label { s with subs := s.subs ++ [block] }

inductive Complete : List Line → Sections → Prop
  | between {ls : List Line} {s : Sections} (h : Awaits ls .label s) : Complete ls s
  | main {ls main : List Line} {s : Sections} {l : Line} (h : Awaits ls .code s)
      (hl : l.text = ".code".toList) (hmain : ∀ m ∈ main, m.text ≠ []) :
      Complete (ls ++ l :: main) { s with main := main, subs := [] }
  | sub {ls block : List Line} {s : Sections} {l : Line} (h : Awaits ls .label s)
      (hl : labelNumber? l.text = some s.subs.length) (hblock : ∀ m ∈ block, m.text ≠ []) :
      Complete (ls ++ l :: block) { s with subs := s.subs ++ [block] }

/-- A line that is not what is wanted behind the lines before it: the wrong header, an entry with the
wrong label, the first line of an entry that never ends, or a line in the place of a sub-block's label
that is none or has the wrong number. -/
inductive Misplaced : List Line → Line → LineError → Prop
  | header {before behind : List Line} {w : Wanted} {s : Sections} {l : Line} {name : String}
      (h : Awaits before w s) (hw : w.header? = some name) (hl : l.text ≠ name.toList) :
      Misplaced (before ++ l :: behind) l (.wrongHeader name l.text)
  | entry {before behind : List Line} {k : Listing} {t : Table} {s : Sections} {l : Line}
      (h : Awaits before (.entry k t) s) (hne : l.text ≠ []) (hl : ¬label k.tag t.length <+: l.text) :
      Misplaced (before ++ l :: behind) l (.wrongEntry (label k.tag t.length))
  | unterminated {before behind : List Line} {k : Listing} {t : Table} {s : Sections} {l : Line}
      (h : Awaits before (.entry k t) s) (hl : label k.tag t.length <+: l.text)
      (hopen : ∀ m ∈ l :: behind, endsLiteral m.text = false) :
      Misplaced (before ++ l :: behind) l .unterminated
  | unlabelled {before behind : List Line} {s : Sections} {l : Line} (h : Awaits before .label s)
      (hne : l.text ≠ []) (hl : labelNumber? l.text = none) :
      Misplaced (before ++ l :: behind) l (.wrongLabel l.text)
  | order {before behind : List Line} {s : Sections} {l : Line} {n : ℕ} (h : Awaits before .label s)
      (hl : labelNumber? l.text = some n) (hn : n ≠ s.subs.length) :
      Misplaced (before ++ l :: behind) l (.outOfOrder n)

inductive Verdict : List Line → Except ReadError Sections → Prop
  | complete {ls : List Line} {s : Sections} (h : Complete ls s) : Verdict ls (.ok s)
  | misplaced {ls : List Line} {l : Line} {e : LineError} (h : Misplaced ls l e) :
      Verdict ls (.error (.line l.number e))
  | missing {ls : List Line} {w : Wanted} {s : Sections} {name : String} (h : Awaits ls w s)
      (hw : w.missing? = some name) : Verdict ls (.error (.missingSection name))

def resume : Wanted → Sections → List Line → Except ReadError Sections
  | .table .texts, _, ls => readSections ls
  | .table .paths, s, ls => readPathSection s.texts ls
  | .entry k t, s, ls => do
    let (t, ls) ← readEntries k.tag t none ls
    match k with
    | .texts => readPathSection t ls
    | .paths => readCodeSection s.texts t ls
  | .code, s, ls => readCodeSection s.texts s.paths ls
  | .label, s, ls => do return { s with subs := ← readBlocks s.subs none ls }

variable {w : Wanted} {k : Listing} {s : Sections} {tag : Char} {done t : Table} {x : String}
  {l e : Line} {ls xs ys before block : List Line} {blocks : List (List Line)}

theorem readEntries_isEntry (h : IsEntry tag done.length xs x) (ys : List Line) :
    readEntries tag done none (xs ++ ys) = readEntries tag (done ++ [x]) none ys := by
  obtain ⟨⟨l, more, body, rfl, hl, rfl⟩, ms, z, hlast, hms, hz⟩ := h
  have hfirst : endsLiteral l.text = endsLiteral body := by rw [hl, endsLiteral_label]
  rw [List.cons_append, readEntries_label hl]
  cases ms with
  | nil =>
    obtain ⟨rfl, rfl⟩ := List.cons.inj hlast
    rw [if_pos (hfirst ▸ hz)]
    simp [behind]
  | cons m ms =>
    rw [List.cons_append] at hlast
    obtain ⟨rfl, rfl⟩ := List.cons.inj hlast
    obtain ⟨hm, hms⟩ := List.forall_mem_cons.1 hms
    rw [if_neg (by simp [← hfirst, hm]), List.append_assoc, List.singleton_append,
      readEntries_close hms hz]

theorem readEntries_end (hl : l.text = []) (ys : List Line) :
    readEntries tag done none (l :: ys) = .ok (done, ys) := by
  rw [readEntries, if_pos hl]

theorem ne_nil_of_labelNumber? {cs : List Char} {n : ℕ} (h : labelNumber? cs = some n) : cs ≠ [] := by
  rintro rfl
  cases h

theorem readBlocks_block (hl : labelNumber? l.text = some blocks.length)
    (hblock : ∀ m ∈ block, m.text ≠ []) (ys : List Line) :
    readBlocks blocks none (l :: (block ++ ys)) = readBlocks blocks (some block) ys := by
  rw [readBlocks, if_neg (ne_nil_of_labelNumber? hl), hl]
  simp only [if_true, readBlocks_grow hblock, List.nil_append]

theorem readBlocks_end (hl : l.text = []) (ys : List Line) :
    readBlocks blocks (some block) (l :: ys) = readBlocks (blocks ++ [block]) none ys := by
  rw [readBlocks, if_pos hl]

theorem readBlocks_gap (hl : l.text = []) (ys : List Line) :
    readBlocks blocks none (l :: ys) = readBlocks blocks none ys := by
  rw [readBlocks, if_pos hl]

theorem readCodeSection_main (hl : l.text = ".code".toList) (hmain : ∀ m ∈ xs, m.text ≠ [])
    (hys : ∀ y ∈ ys.head?, y.text = []) (texts paths : Table) :
    readCodeSection texts paths (l :: (xs ++ ys)) =
      (do return ⟨texts, paths, xs, ← readBlocks [] none (ys.drop 1)⟩) := by
  have hne : ∀ m ∈ xs, decide (m.text ≠ []) = true := fun m hm ↦ decide_eq_true (hmain m hm)
  have htake : ys.takeWhile (·.text ≠ []) = [] := by
    cases ys with
    | nil => rfl
    | cons y ys => exact List.takeWhile_cons_of_neg (by simp [hys y rfl])
  have hdrop : ys.dropWhile (·.text ≠ []) = ys := by
    cases ys with
    | nil => rfl
    | cons y ys => exact List.dropWhile_cons_of_neg (by simp [hys y rfl])
  have hheader : readHeader ".code" (l :: (xs ++ ys)) = .ok (xs ++ ys) := if_pos hl
  rw [readCodeSection, hheader, Outcome.ok_bind, List.takeWhile_append_of_pos hne,
    List.dropWhile_append_of_pos hne, htake, hdrop, List.append_nil]

theorem resume_table (k : Listing) (s : Sections) (ls : List Line) :
    resume (.table k) s ls = readHeader k.header ls >>= resume (.entry k []) s := by
  cases k <;> rfl

theorem resume_entry (k : Listing) (t : Table) (s : Sections) (ls : List Line) :
    resume (.entry k t) s ls = readEntries k.tag t none ls >>= fun (t, ls) ↦
      resume k.next (k.put t s) ls := by
  cases k <;> rfl

/-- Lines that are in order do not matter to what is read behind them, but for what they hold. -/
theorem Awaits.readSections_append (h : Awaits before w s) (ys : List Line) :
    readSections (before ++ ys) = resume w s ys := by
  induction h generalizing ys with
  | start => rfl
  | @header ls s k l h hl ih =>
    have hheader : readHeader k.header ([l] ++ ys) = .ok ys := if_pos hl
    rw [List.append_assoc, ih, resume_table, hheader, Outcome.ok_bind]
  | entry h he ih => rw [List.append_assoc, ih, resume_entry, resume_entry, readEntries_isEntry he]
  | close h hl ih =>
    rw [List.append_assoc, ih, resume_entry, List.singleton_append, readEntries_end hl,
      Outcome.ok_bind]
  | @main ls main s l e h hl hmain he ih =>
    have hys : ∀ y ∈ ([e] ++ ys).head?, y.text = [] := by simpa using he
    rw [List.append_assoc, ih, resume, List.append_assoc, List.cons_append,
      readCodeSection_main hl hmain hys]
    rfl
  | gap h hl ih => rw [List.append_assoc, ih, resume, List.singleton_append, readBlocks_gap hl, resume]
  | sub h hl hblock he ih =>
    rw [List.append_assoc, ih, resume, List.append_assoc, List.cons_append,
      readBlocks_block hl hblock, List.singleton_append, readBlocks_end he]
    rfl

theorem Complete.readSections (h : Complete ls s) : readSections ls = .ok s := by
  cases h with
  | between h =>
    rw [← List.append_nil ls, h.readSections_append, resume, readBlocks, Option.toList_none,
      List.append_nil]
    rfl
  | @main ls main s l h hl hmain =>
    have hend : ∀ y ∈ ([] : List Line).head?, y.text = [] := by simp
    have hread := readCodeSection_main hl hmain hend s.texts s.paths
    rw [List.append_nil] at hread
    rw [h.readSections_append, resume, hread]
    rfl
  | @sub ls block s l h hl hblock =>
    have hread := readBlocks_block hl hblock []
    rw [List.append_nil] at hread
    rw [h.readSections_append, resume, hread]
    rfl

/-- The reader stops where the header that is wanted is not there. -/
theorem resume_of_header {name : String} {e : ReadError}
    (hw : w.header? = some name) (hr : readHeader name ls = .error e) : resume w s ls = .error e := by
  cases w with
  | table k =>
    obtain rfl := Option.some.inj hw
    rw [resume_table, hr]
    rfl
  | code =>
    obtain rfl := Option.some.inj hw
    rw [resume, readCodeSection, hr]
    rfl
  | entry k t => cases hw
  | label => cases hw

theorem Misplaced.readSections {e : LineError} (h : Misplaced ls l e) :
    readSections ls = .error (.line l.number e) := by
  cases h with
  | header h hw hl =>
    rw [h.readSections_append]
    exact resume_of_header hw (if_neg hl)
  | @entry before behind k t s l h hne hl =>
    have hafter : Text.after? (label k.tag t.length) l.text = none := by
      rwa [← Text.isSome_after?, Option.not_isSome_iff_eq_none] at hl
    rw [h.readSections_append, resume_entry, readEntries, if_neg hne, hafter]
    rfl
  | @unterminated before behind k t s l h hl hopen =>
    obtain ⟨body, hbody⟩ := hl
    obtain ⟨hfirst, hbehind⟩ := List.forall_mem_cons.1 hopen
    rw [← hbody, endsLiteral_label] at hfirst
    rw [h.readSections_append, resume_entry, readEntries_label hbody.symm, if_neg (by simp [hfirst]),
      readEntries_unterminated hbehind]
    rfl
  | @unlabelled before behind s l h hne hl =>
    rw [h.readSections_append, resume, readBlocks, if_neg hne, hl]
    rfl
  | @order before behind s l n h hl hn =>
    rw [h.readSections_append, resume, readBlocks, if_neg (ne_nil_of_labelNumber? hl), hl]
    simp only [if_neg hn]
    rfl

theorem Verdict.readSections {r : Except ReadError Sections} (h : Verdict ls r) :
    readSections ls = r := by
  cases h with
  | complete h => exact h.readSections
  | misplaced h => exact h.readSections
  | @missing w _ _ h hw =>
    rw [← List.append_nil ls, h.readSections_append]
    cases w with
    | entry k t =>
      rw [resume_entry, readEntries, Outcome.ok_bind]
      exact resume_of_header hw rfl
    | _ => exact resume_of_header hw rfl

def Advances (before ls : List Line) : Prop :=
  (∃ r, Verdict (before ++ ls) r) ∨
    ∃ xs ys w s, ls = xs ++ ys ∧ xs ≠ [] ∧ Awaits (before ++ xs) w s

theorem Advances.of_misplaced {e : LineError} (h : Misplaced (before ++ ls) l e) :
    Advances before ls := .inl ⟨_, .misplaced h⟩

theorem Advances.of_complete (h : Complete (before ++ ls) s) : Advances before ls :=
  .inl ⟨_, .complete h⟩

theorem Advances.of_awaits (hxs : xs ≠ []) (h : Awaits (before ++ xs) w s) :
    Advances before (xs ++ ys) := .inr ⟨xs, ys, w, s, rfl, hxs, h⟩

theorem Advances.of_line (h : Awaits (before ++ [l]) w s) : Advances before (l :: ls) :=
  .inr ⟨[l], ls, w, s, rfl, List.cons_ne_nil l [], h⟩

/-- Lines up to the first of some kind, or all of them if none is. -/
theorem exists_first (p : Line → Prop) (ls : List Line) :
    (∀ m ∈ ls, ¬p m) ∨ ∃ xs z ys, ls = xs ++ z :: ys ∧ (∀ m ∈ xs, ¬p m) ∧ p z := by
  classical
  cases h : ls.find? p with
  | none => exact .inl (by simpa using h)
  | some z =>
    obtain ⟨hz, xs, ys, hls, hxs⟩ := List.find?_eq_some_iff_append.1 h
    exact .inr ⟨xs, z, ys, hls, by simpa using hxs, by simpa using hz⟩

theorem advances_nil (h : Awaits before w s) : Advances before [] := by
  have hmissing {name : String} (hw : w.missing? = some name) : Advances before [] := by
    refine .inl ⟨_, .missing (w := w) (s := s) ?_ hw⟩
    rwa [List.append_nil]
  cases w with
  | label =>
    refine .of_complete (s := s) (.between ?_)
    rwa [List.append_nil]
  | table k => exact hmissing rfl
  | code => exact hmissing rfl
  | entry k t =>
    cases k with
    | texts => exact hmissing rfl
    | paths => exact hmissing rfl

theorem advances_table (h : Awaits before (.table k) s) (l : Line) (ls : List Line) :
    Advances before (l :: ls) := by
  by_cases hl : l.text = k.header.toList
  · exact .of_line (.header h hl)
  · exact .of_misplaced (.header h rfl hl)

theorem advances_entry (h : Awaits before (.entry k t) s) (l : Line) (ls : List Line) :
    Advances before (l :: ls) := by
  by_cases hne : l.text = []
  · exact .of_line (.close h hne)
  by_cases hl : label k.tag t.length <+: l.text
  · rcases exists_first (fun m ↦ endsLiteral m.text) (l :: ls) with hopen | ⟨xs, z, ys, hls, hxs, hz⟩
    · exact .of_misplaced (.unterminated h hl (by simpa using hopen))
    · -- The first line that ends a literal ends the entry, and may be the one with the label.
      obtain ⟨body, hbody⟩ := hl
      have hfirst : ∃ more, xs ++ [z] = l :: more := by
        cases xs with
        | nil => exact ⟨[], by rw [List.cons.inj hls |>.1]; rfl⟩
        | cons x xs => exact ⟨xs ++ [z], by rw [(List.cons.inj hls).1]; rfl⟩
      obtain ⟨more, hmore⟩ := hfirst
      have hentry : IsEntry k.tag t.length (xs ++ [z]) (literal (body ++ behind more)) :=
        ⟨⟨l, more, body, hmore, hbody.symm, rfl⟩, xs, z, rfl, by simpa using hxs, hz⟩
      have hsplit : l :: ls = (xs ++ [z]) ++ ys := by simp [hls]
      rw [hsplit]
      exact .of_awaits (by simp) (.entry h hentry)
  · exact .of_misplaced (.entry h hne hl)

theorem advances_code (h : Awaits before .code s) (l : Line) (ls : List Line) :
    Advances before (l :: ls) := by
  by_cases hl : l.text = ".code".toList
  · rcases exists_first (fun m ↦ m.text = []) ls with hmain | ⟨main, e, ys, rfl, hmain, he⟩
    · exact .of_complete (.main h hl hmain)
    · have hsplit : l :: (main ++ e :: ys) = (l :: main ++ [e]) ++ ys := by simp
      rw [hsplit]
      exact .of_awaits (by simp) (.main h hl hmain he)
  · exact .of_misplaced (.header h rfl hl)

theorem advances_label (h : Awaits before .label s) (l : Line) (ls : List Line) :
    Advances before (l :: ls) := by
  by_cases hne : l.text = []
  · exact .of_line (.gap h hne)
  cases hl : labelNumber? l.text with
  | none => exact .of_misplaced (.unlabelled h hne hl)
  | some n =>
    by_cases hn : n = s.subs.length
    · rw [hn] at hl
      rcases exists_first (fun m ↦ m.text = []) ls with hblock | ⟨block, e, ys, rfl, hblock, he⟩
      · exact .of_complete (.sub h hl hblock)
      · have hsplit : l :: (block ++ e :: ys) = (l :: block ++ [e]) ++ ys := by simp
        rw [hsplit]
        exact .of_awaits (by simp) (.sub h hl hblock he)
    · exact .of_misplaced (.order h hl hn)

theorem Awaits.advances (h : Awaits before w s) (ls : List Line) : Advances before ls := by
  cases ls with
  | nil => exact advances_nil h
  | cons l ls =>
    cases w with
    | table k => exact advances_table h l ls
    | entry k t => exact advances_entry h l ls
    | code => exact advances_code h l ls
    | label => exact advances_label h l ls

theorem Awaits.exists_verdict (h : Awaits before w s) (ls : List Line) :
    ∃ r, Verdict (before ++ ls) r := by
  induction hn : ls.length using Nat.strong_induction_on generalizing before w s ls with
  | h n ih =>
    rcases h.advances ls with hr | ⟨xs, ys, w', s', rfl, hxs, h'⟩
    · exact hr
    · -- Each stretch that is in order leaves fewer lines.
      have hlength : ys.length < n := by
        have hpos := List.length_pos_iff.2 hxs
        rw [List.length_append] at hn
        omega
      rw [← List.append_assoc]
      exact ih ys.length hlength h' ys rfl

/-- Reading the sections comes to what the lines hold, to the line that is out of place, or to the header
that is missing. -/
theorem readSections_eq_iff {r : Except ReadError Sections} :
    readSections ls = r ↔ Verdict ls r := by
  constructor
  · rintro rfl
    obtain ⟨r, hr⟩ := Awaits.start.exists_verdict ls
    rw [List.nil_append] at hr
    rwa [hr.readSections]
  · exact Verdict.readSections

end Stagecraft.Trace
