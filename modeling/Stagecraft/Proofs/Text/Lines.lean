import Mathlib.Data.List.DropRight
import Mathlib.Tactic
import Stagecraft.Text.Blank
import Stagecraft.Text.Lines

namespace Stagecraft.Text

variable {cs rest : List Char}

theorem forall_mem_of_all {P : Char → Prop} [DecidablePred P] (h : cs.all fun c ↦ decide (P c)) :
    ∀ c ∈ cs, P c := by
  simpa using h

structure Snug (cs : List Char) : Prop where
  head : ∀ c ∈ cs.head?, isBlank c = false
  last : ∀ c ∈ cs.getLast?, isBlank c = false

theorem Snug.of_all (h : ∀ c ∈ cs, isBlank c = false) : Snug cs where
  head c hc := h c (List.mem_of_mem_head? hc)
  last c hc := h c (List.mem_of_mem_getLast? hc)

theorem dropWhile_isBlank (h : ∀ c ∈ cs.head?, isBlank c = false) : cs.dropWhile isBlank = cs := by
  cases cs with
  | nil => rfl
  | cons c cs => rw [List.dropWhile_cons_of_neg (by simpa using h)]

theorem Snug.trim (h : Snug cs) : trim cs = cs := by
  rw [Text.trim, dropWhile_isBlank h.head, trimEnd, dropWhile_isBlank, List.reverse_reverse]
  simpa using h.last

theorem trim_append (h : cs.all isBlank) (rest : List Char) : trim (cs ++ rest) = trim rest := by
  rw [trim, List.dropWhile_append_of_pos (List.all_eq_true.1 h), trim]

theorem Snug.trim_behind {b : List Char} (h : Snug cs) (hb : b.all isBlank) :
    Text.trim (cs ++ b) = cs := by
  have hb' : ∀ c ∈ b.reverse, isBlank c := by simpa using hb
  by_cases hcs : cs = []
  · rw [hcs, List.nil_append, ← List.append_nil b, trim_append hb]
    rfl
  · have hhead : ∀ c ∈ (cs ++ b).head?, isBlank c = false := by
      rw [List.head?_append_of_ne_nil _ hcs]
      exact h.head
    have htrim := h.trim
    rw [Text.trim, dropWhile_isBlank h.head] at htrim
    rw [Text.trim, dropWhile_isBlank hhead, trimEnd, List.reverse_append,
      List.dropWhile_append_of_pos hb', ← trimEnd, htrim]

theorem Snug.join {ds : List Char} (h : Snug cs) (h' : Snug ds) (hc : cs ≠ []) (hd : ds ≠ [])
    (mid : List Char) : Snug (cs ++ mid ++ ds) where
  head := by
    obtain ⟨c, cs, rfl⟩ := List.exists_cons_of_ne_nil hc
    exact h.head
  last := by
    rw [List.getLast?_append_of_ne_nil _ hd]
    exact h'.last

theorem takeWhile_append_of_stop {p : Char → Bool} (hcs : ∀ c ∈ cs, p c)
    (hrest : ∀ c ∈ rest.head?, p c = false) : (cs ++ rest).takeWhile p = cs := by
  rw [List.takeWhile_append_of_pos hcs]
  cases rest with
  | nil => simp
  | cons c rest => simp [hrest c rfl]

theorem dropWhile_append_of_stop {p : Char → Bool} (hcs : ∀ c ∈ cs, p c)
    (hrest : ∀ c ∈ rest.head?, p c = false) : (cs ++ rest).dropWhile p = rest := by
  rw [List.dropWhile_append_of_pos hcs]
  cases rest with
  | nil => simp
  | cons c rest => simp [hrest c rfl]

@[simp] theorem after?_append (start rest : List Char) : after? start (start ++ rest) = some rest := by
  induction start with
  | nil => rfl
  | cons c cs ih => rw [List.cons_append, after?, if_pos rfl, ih]

theorem eq_append_of_after? {start : List Char} (h : after? start cs = some rest) :
    cs = start ++ rest := by
  induction start generalizing cs with
  | nil => exact Option.some.inj h
  | cons p ps ih =>
    cases cs with
    | nil => cases h
    | cons c cs =>
      rw [after?] at h
      split at h
      · next hpc => rw [ih h, hpc, List.cons_append]
      · cases h

theorem isSome_after? {start : List Char} : (after? start cs).isSome = true ↔ start <+: cs := by
  constructor
  · intro h
    obtain ⟨rest, hrest⟩ := Option.isSome_iff_exists.1 h
    exact ⟨rest, (eq_append_of_after? hrest).symm⟩
  · rintro ⟨rest, rfl⟩
    rw [after?_append, Option.isSome_some]

@[simp] theorem before?_concat (c : Char) (cs : List Char) : before? c (cs ++ [c]) = some cs := by
  simp [before?]

theorem splitAt?_append {sep : Char} (h : sep ∉ cs) (rest : List Char) :
    splitAt? sep (cs ++ sep :: rest) = some (cs, rest) := by
  induction cs with
  | nil => simp [splitAt?]
  | cons c cs ih =>
    rw [List.mem_cons, not_or] at h
    rw [List.cons_append, splitAt?, if_neg (Ne.symm h.1), ih h.2, Option.map_some]

theorem splitAt?_eq_none {sep : Char} (h : sep ∉ cs) : splitAt? sep cs = none := by
  induction cs with
  | nil => rfl
  | cons c cs ih =>
    rw [List.mem_cons, not_or] at h
    rw [splitAt?, if_neg (Ne.symm h.1), ih h.2, Option.map_none]

/-- Splitting at the last separator leaves none behind it. -/
theorem splitAtLast?_spec (sep : Char) (cs : List Char) :
    match splitAtLast? sep cs with
    | some (before, last) => cs = before ++ sep :: last ∧ sep ∉ last
    | none => sep ∉ cs := by
  induction cs with
  | nil => exact List.not_mem_nil
  | cons c cs ih =>
    rw [splitAtLast?]
    cases h : splitAtLast? sep cs with
    | some p =>
      rw [h] at ih
      obtain ⟨hcs, hlast⟩ := ih
      exact ⟨congrArg (c :: ·) hcs, hlast⟩
    | none =>
      rw [h] at ih
      by_cases hc : c = sep
      · subst hc
        simpa using ih
      · simpa [hc, Ne.symm hc] using ih

theorem splitAtLast?_append {sep : Char} {last : List Char} (h : sep ∉ last) (before : List Char) :
    splitAtLast? sep (before ++ sep :: last) = some (before, last) := by
  induction before with
  | nil =>
    have hspec := splitAtLast?_spec sep last
    rw [List.nil_append, splitAtLast?]
    cases hlast : splitAtLast? sep last with
    | none => exact if_pos rfl
    | some p =>
      rw [hlast] at hspec
      exact absurd (hspec.1 ▸ List.mem_append_right p.1 List.mem_cons_self) h
  | cons c before ih => rw [List.cons_append, splitAtLast?, ih]

theorem rtakeWhile_behind {p : Char → Bool} {c : Char} (hc : p c = false) (before cs : List Char) :
    (before ++ c :: cs).rtakeWhile p = cs.rtakeWhile p := by
  induction cs using List.reverseRecOn with
  | nil => rw [List.rtakeWhile_concat_neg _ _ _ (Bool.eq_false_iff.1 hc), List.rtakeWhile_nil]
  | append_singleton cs d ih =>
    rw [← List.cons_append, ← List.append_assoc, List.rtakeWhile_concat, List.rtakeWhile_concat, ih]

theorem splitAtLast?_eq (sep : Char) (cs : List Char) : splitAtLast? sep cs =
    if sep ∈ cs then some ((cs.rdropWhile (· ≠ sep)).dropLast, cs.rtakeWhile (· ≠ sep)) else none := by
  have h := splitAtLast?_spec sep cs
  cases hsplit : splitAtLast? sep cs with
  | none =>
    rw [hsplit] at h
    rw [if_neg h]
  | some p =>
    obtain ⟨before, last⟩ := p
    rw [hsplit] at h
    obtain ⟨rfl, hlast⟩ := h
    have htake : (before ++ sep :: last).rtakeWhile (· ≠ sep) = last := by
      rw [rtakeWhile_behind (by simp), List.rtakeWhile_eq_self_iff]
      exact fun c hc ↦ decide_eq_true fun hs ↦ hlast (hs ▸ hc)
    have hdrop : (before ++ sep :: last).rdropWhile (· ≠ sep) = before ++ [sep] := by
      have happend : _ ++ (before ++ sep :: last).rtakeWhile (· ≠ sep) = before ++ sep :: last :=
        List.rdropWhile_append_rtakeWhile
      rw [htake] at happend
      exact List.append_cancel_right (happend.trans (List.append_cons before sep last))
    rw [if_pos (List.mem_append_right before List.mem_cons_self), htake, hdrop,
      List.dropLast_concat]

theorem pieces_ne_nil (cs : List Char) : pieces cs ≠ [] := by
  cases cs with
  | nil => simp [pieces]
  | cons c cs =>
    rw [pieces]
    split
    · simp
    · split <;> simp

theorem pieces_cons {c : Char} (hc : c ≠ '\n') (cs : List Char) :
    ∃ p ps, pieces cs = p :: ps ∧ pieces (c :: cs) = (c :: p) :: ps := by
  obtain ⟨p, ps, h⟩ := List.exists_cons_of_ne_nil (pieces_ne_nil cs)
  exact ⟨p, ps, h, by rw [pieces, if_neg hc, h]⟩

theorem pieces_append (cs rest : List Char) :
    pieces (cs ++ '\n' :: rest) = pieces cs ++ pieces rest := by
  induction cs with
  | nil => simp [pieces]
  | cons c cs ih =>
    by_cases hc : c = '\n'
    · rw [hc, List.cons_append, pieces, if_pos rfl, ih, pieces, if_pos rfl, List.cons_append]
    · obtain ⟨p, ps, h, h'⟩ := pieces_cons hc cs
      rw [h', List.cons_append, pieces, if_neg hc, ih, h]
      rfl

theorem pieces_of_not_mem (h : '\n' ∉ cs) : pieces cs = [cs] := by
  induction cs with
  | nil => rfl
  | cons c cs ih =>
    rw [List.mem_cons, not_or] at h
    rw [pieces, if_neg (Ne.symm h.1), ih h.2]

/-- The pieces with line feeds between them are the text again. -/
theorem append_flatMap_pieces {p : List Char} {ps : List (List Char)} (h : pieces cs = p :: ps) :
    p ++ ps.flatMap ('\n' :: ·) = cs := by
  induction cs generalizing p ps with
  | nil =>
    cases h
    rfl
  | cons c cs ih =>
    by_cases hc : c = '\n'
    · obtain ⟨q, qs, hq⟩ := List.exists_cons_of_ne_nil (pieces_ne_nil cs)
      rw [hc, pieces, if_pos rfl, hq, List.cons.injEq] at h
      rw [← h.1, ← h.2, hc, List.nil_append, List.flatMap_cons, List.cons_append, ih hq]
    · obtain ⟨q, qs, hq, hcons⟩ := pieces_cons hc cs
      rw [hcons, List.cons.injEq] at h
      rw [← h.1, ← h.2, List.cons_append, ih hq]

theorem pieces_prepend {start : List Char} (h : '\n' ∉ start) {p : List Char}
    {ps : List (List Char)} (hcs : pieces cs = p :: ps) :
    pieces (start ++ cs) = (start ++ p) :: ps := by
  induction start with
  | nil => exact hcs
  | cons c start ih =>
    rw [List.mem_cons, not_or] at h
    rw [List.cons_append, pieces, if_neg (Ne.symm h.1), ih h.2]
    rfl

theorem length_pieces (cs : List Char) : (pieces cs).length = cs.count '\n' + 1 := by
  induction cs with
  | nil => rfl
  | cons c cs ih =>
    by_cases hc : c = '\n'
    · simp [pieces, hc, ih]
    · obtain ⟨p, ps, h, h'⟩ := pieces_cons hc cs
      rw [h, List.length_cons] at ih
      rw [h', List.length_cons, List.count_cons_of_ne hc, ih]

@[simp] theorem lines_nil : lines [] = [] := rfl

theorem lines_append (cs rest : List Char) : lines (cs ++ '\n' :: rest) = pieces cs ++ lines rest := by
  have hlast : (pieces cs ++ pieces rest).getLast? = (pieces rest).getLast? :=
    List.getLast?_append_of_ne_nil _ (pieces_ne_nil rest)
  have hdrop : (pieces cs ++ pieces rest).dropLast = pieces cs ++ (pieces rest).dropLast :=
    List.dropLast_append_of_ne_nil (pieces_ne_nil rest)
  simp only [lines, pieces_append, hlast, hdrop]
  split <;> rfl

theorem lines_line (h : '\n' ∉ cs) (rest : List Char) :
    lines (cs ++ '\n' :: rest) = cs :: lines rest := by
  rw [lines_append, pieces_of_not_mem h, List.singleton_append]

theorem lines_newline (rest : List Char) : lines ('\n' :: rest) = [] :: lines rest :=
  lines_line List.not_mem_nil rest

theorem lines_of_not_mem (h : '\n' ∉ cs) (hne : cs ≠ []) : lines cs = [cs] := by
  rw [lines, pieces_of_not_mem h, List.getLast?_singleton, if_neg (by simpa using hne)]

/-- Each line feed ends a piece, and all other characters are in the pieces. -/
theorem sum_length_pieces (cs : List Char) :
    ((pieces cs).map List.length).sum + (pieces cs).length = cs.length + 1 := by
  induction cs with
  | nil => rfl
  | cons c cs ih =>
    by_cases hc : c = '\n'
    · rw [pieces, if_pos hc, List.map_cons, List.sum_cons, List.length_cons, List.length_cons,
        List.length_nil]
      omega
    · obtain ⟨p, ps, h, h'⟩ := pieces_cons hc cs
      rw [h, List.map_cons, List.sum_cons, List.length_cons] at ih
      rw [h', List.map_cons, List.sum_cons, List.length_cons, List.length_cons, List.length_cons]
      omega

theorem length_lines_le (cs : List Char) : (lines cs).length ≤ cs.length := by
  have hsum := sum_length_pieces cs
  rw [lines]
  split_ifs with hlast
  · rw [List.length_dropLast]
    omega
  · obtain ⟨p, hp⟩ := Option.ne_none_iff_exists'.1
      (mt List.getLast?_eq_none_iff.1 (pieces_ne_nil cs))
    have hpos : 0 < p.length := List.length_pos_iff.2 fun h ↦ hlast (h ▸ hp)
    have hle : p.length ≤ ((pieces cs).map List.length).sum :=
      List.le_sum_of_mem (List.mem_map_of_mem (List.mem_of_getLast? hp))
    omega

theorem length_le_of_mem_lines {l : List Char} (h : l ∈ lines cs) : l.length ≤ cs.length := by
  have hmem : l ∈ pieces cs := by
    rw [lines] at h
    split_ifs at h with hlast
    · exact List.mem_of_mem_dropLast h
    · exact h
  have hsum := sum_length_pieces cs
  have hpos : 0 < (pieces cs).length := List.length_pos_of_mem hmem
  have hle : l.length ≤ ((pieces cs).map List.length).sum :=
    List.le_sum_of_mem (List.mem_map_of_mem hmem)
  omega

@[simp] theorem map_text_numberedFrom (n : ℕ) (ls : List (List Char)) :
    (numberedFrom n ls).map Line.text = ls := by
  induction ls generalizing n with
  | nil => rfl
  | cons l ls ih => rw [numberedFrom, List.map_cons, ih]

theorem length_numberedLines_le (cs : List Char) : (numberedLines cs).length ≤ cs.length := by
  have h := congrArg List.length (map_text_numberedFrom 1 (lines cs))
  rw [List.length_map] at h
  exact h.trans_le (length_lines_le cs)

theorem length_text_le {l : Line} (h : l ∈ numberedLines cs) : l.text.length ≤ cs.length := by
  have hmem : l.text ∈ (numberedLines cs).map Line.text := List.mem_map_of_mem h
  rw [numberedLines, map_text_numberedFrom] at hmem
  exact length_le_of_mem_lines hmem

/-- What stands before and behind a whole line of a text. Nothing behind the last line feed is a line. -/
structure Line.Between (l : Line) (before behind : List Char) : Prop where
  single : '\n' ∉ l.text
  first : ∀ c ∈ before.getLast?, c = '\n'
  last : ∀ c ∈ behind.head?, c = '\n'
  ne_nil : l.text ++ behind ≠ []

/-- A line of a text with its number, which is one more than there are line feeds before it. -/
def IsLine (cs : List Char) (l : Line) : Prop :=
  ∃ before behind, cs = before ++ l.text ++ behind ∧ l.Between before behind ∧
    l.number = before.count '\n' + 1

theorem Line.Between.prepend {l : Line} {before behind : List Char} (h : l.Between before behind)
    (cs : List Char) : l.Between (cs ++ '\n' :: before) behind where
  single := h.single
  first := by
    intro c hc
    rw [List.getLast?_append_cons, List.getLast?_cons] at hc
    cases hb : before.getLast? with
    | none => simpa [hb, eq_comm] using hc
    | some d => exact h.first c (by simpa [hb] using hc)
  last := h.last
  ne_nil := h.ne_nil

theorem between_of_mem {l : Line} {n : ℕ} (h : l ∈ numberedFrom n (lines cs)) :
    ∃ before behind, cs = before ++ l.text ++ behind ∧ l.Between before behind ∧
      l.number = before.count '\n' + n := by
  induction hk : cs.length using Nat.strong_induction_on generalizing cs n with
  | h k ih =>
    by_cases hn : '\n' ∈ cs
    · obtain ⟨a, rest, rfl, ha⟩ := List.eq_append_cons_of_mem hn
      rw [lines_line ha, numberedFrom, List.mem_cons] at h
      rcases h with rfl | h
      · exact ⟨[], '\n' :: rest, rfl, ⟨ha, by simp, by simp, by simp⟩, by simp⟩
      · have hlength : rest.length < k := by
          rw [List.length_append, List.length_cons] at hk
          omega
        obtain ⟨before, behind, rfl, hbetween, hnumber⟩ := ih _ hlength h rfl
        refine ⟨a ++ '\n' :: before, behind, by simp, hbetween.prepend a, ?_⟩
        rw [hnumber, List.count_append, List.count_cons_self, List.count_eq_zero_of_not_mem ha]
        omega
    · by_cases hcs : cs = []
      · subst hcs
        cases h
      · rw [lines_of_not_mem hn hcs, numberedFrom, numberedFrom, List.mem_singleton] at h
        subst h
        exact ⟨[], [], by simp, ⟨hn, by simp, by simp, by simpa using hcs⟩, by simp⟩

theorem mem_of_between {l : Line} {before behind : List Char} (h : l.Between before behind) {n : ℕ}
    (hn : l.number = before.count '\n' + n) :
    l ∈ numberedFrom n (lines (before ++ l.text ++ behind)) := by
  induction hk : before.length using Nat.strong_induction_on generalizing before n with
  | h k ih =>
    by_cases hb : '\n' ∈ before
    · -- Behind the first line, the line feeds are one fewer and the numbers one more.
      obtain ⟨a, rest, rfl, ha⟩ := List.eq_append_cons_of_mem hb
      have hrest : l.Between rest behind := by
        refine ⟨h.single, fun c hc ↦ h.first c ?_, h.last, h.ne_nil⟩
        rw [List.getLast?_append_cons, List.getLast?_cons, hc]
        rfl
      have hlength : rest.length < k := by
        rw [List.length_append, List.length_cons] at hk
        omega
      have hnumber : l.number = rest.count '\n' + (n + 1) := by
        rw [hn, List.count_append, List.count_cons_self, List.count_eq_zero_of_not_mem ha]
        omega
      have hsplit : a ++ '\n' :: rest ++ l.text ++ behind = a ++ '\n' :: (rest ++ l.text ++ behind) := by
        simp
      rw [hsplit, lines_line ha, numberedFrom]
      exact List.mem_cons_of_mem _ (ih _ hlength hrest hnumber rfl)
    · have hnil : before = [] := by
        by_contra hne
        obtain ⟨c, hc⟩ := Option.ne_none_iff_exists'.1 (mt List.getLast?_eq_none_iff.1 hne)
        exact hb (h.first c hc ▸ List.mem_of_getLast? hc)
      have hl : l = ⟨n, l.text⟩ := by
        rw [hnil, List.count_nil, Nat.zero_add] at hn
        rw [← hn]
      rw [hnil, List.nil_append]
      cases behind with
      | nil =>
        have hne : l.text ≠ [] := by simpa using h.ne_nil
        rw [List.append_nil, lines_of_not_mem h.single hne, numberedFrom, ← hl]
        exact List.mem_cons_self
      | cons c rest =>
        rw [h.last c rfl, lines_line h.single, numberedFrom, ← hl]
        exact List.mem_cons_self

/-- The numbered lines of a text are its lines with the numbers of their places. -/
theorem mem_numberedLines {l : Line} : l ∈ numberedLines cs ↔ IsLine cs l := by
  refine ⟨between_of_mem, ?_⟩
  rintro ⟨before, behind, rfl, h, hn⟩
  exact mem_of_between h hn

theorem mem_numberedFrom {n : ℕ} {ls : List (List Char)} {l : Line} :
    l ∈ numberedFrom n ls ↔ ∃ i, l.number = n + i ∧ ls[i]? = some l.text := by
  induction ls generalizing n with
  | nil => simp [numberedFrom]
  | cons k ls ih =>
    rw [numberedFrom, List.mem_cons, ih]
    constructor
    · rintro (rfl | ⟨i, hn, hi⟩)
      · exact ⟨0, rfl, rfl⟩
      · exact ⟨i + 1, by omega, hi⟩
    · rintro ⟨i, hn, hi⟩
      cases i with
      | zero =>
        obtain rfl : k = l.text := Option.some.inj hi
        obtain ⟨number, text⟩ := l
        obtain rfl : number = n := hn
        exact .inl rfl
      | succ i => exact .inr ⟨i, by omega, hi⟩

theorem isLine_iff_getElem? {n : ℕ} {l : List Char} :
    IsLine cs ⟨n + 1, l⟩ ↔ (lines cs)[n]? = some l := by
  rw [← mem_numberedLines, numberedLines, mem_numberedFrom]
  constructor
  · rintro ⟨i, hn, hi⟩
    obtain rfl : n = i := Nat.add_left_cancel ((Nat.add_comm 1 n).trans hn)
    exact hi
  · intro h
    exact ⟨n, Nat.add_comm n 1, h⟩

end Stagecraft.Text
