import Stagecraft.Proofs.Outcome
import Stagecraft.Proofs.Trace.Table

namespace Stagecraft.Trace

open Text (Line)

/-- A place in a text: the text behind it, and how many lines were read before it. -/
structure Cursor where
  rest : List Char
  line : ℕ

namespace Cursor

def lines (c : Cursor) : List Line := Text.numberedFrom (c.line + 1) (Text.lines c.rest)

def next (c : Cursor) : Cursor :=
  if c.rest = [] then c
  else match Text.splitAt? '\n' c.rest with
    | some (_, rest) => ⟨rest, c.line + 1⟩
    | none => ⟨[], c.line + 1⟩

def readTable (tag : Char) (c : Cursor) : Except ReadError (Table × Cursor) :=
  (Trace.readTable tag c.lines).map fun (t, ls) ↦ (t, next^[c.lines.length - ls.length] c)

variable {l cs : List Char}

theorem next_line (h : '\n' ∉ l) (rest : List Char) (n : ℕ) :
    next ⟨l ++ '\n' :: rest, n⟩ = ⟨rest, n + 1⟩ := by
  have hne : l ++ '\n' :: rest ≠ [] := by simp
  simp only [next, if_neg hne, Text.splitAt?_append h]

theorem lines_line (h : '\n' ∉ l) (rest : List Char) (n : ℕ) :
    lines ⟨l ++ '\n' :: rest, n⟩ = ⟨n + 1, l⟩ :: lines ⟨rest, n + 1⟩ := by
  simp only [lines, Text.lines_line h, Text.numberedFrom]

theorem lines_next (c : Cursor) : c.next.lines = c.lines.tail := by
  obtain ⟨cs, n⟩ := c
  by_cases hn : '\n' ∈ cs
  · obtain ⟨l, rest, rfl, hl⟩ := List.eq_append_cons_of_mem hn
    rw [next_line hl, lines_line hl, List.tail_cons]
  · by_cases hcs : cs = []
    · subst hcs
      rfl
    · have hnext : next ⟨cs, n⟩ = ⟨[], n + 1⟩ := by
        simp only [next, if_neg hcs, Text.splitAt?_eq_none hn]
      have hlines : lines ⟨cs, n⟩ = [⟨n + 1, cs⟩] := by
        simp only [lines, Text.lines_of_not_mem hn hcs, Text.numberedFrom]
      rw [hnext, hlines]
      rfl

theorem lines_iterate (c : Cursor) (k : ℕ) : (next^[k] c).lines = c.lines.drop k := by
  induction k with
  | zero => rfl
  | succ k ih => rw [Function.iterate_succ_apply', lines_next, ih, List.tail_drop]

/-- As many lines end in a text as it has line feeds. -/
theorem next_iterate (cs rest : List Char) (n : ℕ) :
    next^[cs.count '\n' + 1] ⟨cs ++ '\n' :: rest, n⟩ = ⟨rest, n + (cs.count '\n' + 1)⟩ := by
  induction cs generalizing n with
  | nil => exact next_line List.not_mem_nil rest n
  | cons c cs ih =>
    by_cases hc : c = '\n'
    · have hfirst : next ⟨c :: (cs ++ '\n' :: rest), n⟩ = ⟨cs ++ '\n' :: rest, n + 1⟩ := by
        rw [hc]
        exact next_line List.not_mem_nil _ n
      rw [List.cons_append, Function.iterate_succ_apply, hfirst, hc, List.count_cons_self, ih]
      congr 1
      omega
    · have hskip : next ⟨c :: (cs ++ '\n' :: rest), n⟩ = next ⟨cs ++ '\n' :: rest, n⟩ := by
        obtain ⟨l, more, hl, hmem⟩ : ∃ l more, cs ++ '\n' :: rest = l ++ '\n' :: more ∧ '\n' ∉ l :=
          List.eq_append_cons_of_mem (by simp)
        rw [hl, next_line hmem, ← List.cons_append, next_line (by simp [Ne.symm hc, hmem])]
      rw [List.count_cons_of_ne hc, ← ih, List.cons_append, Function.iterate_succ_apply, hskip,
        Function.iterate_succ_apply]

/-- The lines that the reader leaves are those behind the place it comes to. -/
theorem lines_of_readTable {tag : Char} {t : Table} {c c' : Cursor}
    (h : c.readTable tag = .ok (t, c')) : Trace.readTable tag c.lines = .ok (t, c'.lines) := by
  obtain ⟨⟨t', ls⟩, hread, hpair⟩ := Outcome.map_eq_ok.1 h
  cases hpair
  have hleft : ls = c.lines.drop (c.lines.length - ls.length) :=
    List.suffix_iff_eq_drop.1 (suffix_of_readEntries hread)
  rw [lines_iterate, ← hleft]
  exact hread

end Cursor

variable {tag : Char} {t : Table} {header : String}

theorem readHeader_lines (hh : '\n' ∉ header.toList) (rest : List Char) (n : ℕ) :
    readHeader header (Cursor.lines ⟨header.toList ++ '\n' :: rest, n⟩) =
      .ok (Cursor.lines ⟨rest, n + 1⟩) := by
  rw [Cursor.lines_line hh, readHeader, if_pos rfl]

theorem length_entryLines (tag : Char) (i : ℕ) (t : Table) :
    (entryLines tag i t).length = (writeEntries tag i t).count '\n' := by
  induction t generalizing i with
  | nil => rfl
  | cons s t ih =>
    have hw : writeEntries tag i (s :: t) = entryText tag i s ++ '\n' :: writeEntries tag (i + 1) t := by
      simp [writeEntries, entryText]
    rw [entryLines, List.length_append, ih, Text.length_pieces, hw, List.count_append,
      List.count_cons_self]
    omega

/-- A table whose literals do not end in a backslash is read back from behind its header, and
exactly the text behind the table is left, with the lines of the table counted. -/
theorem readTable_writeTable (ht : tag ≠ '\n') (hs : ∀ s ∈ t, ¬EndsInBackslash s)
    (hh : '\n' ∉ header.toList) (rest : List Char) (n : ℕ) :
    let entries := writeEntries tag 0 t ++ ['\n']
    let start : Cursor := ⟨entries ++ rest, n + 1⟩
    let finish : Cursor := ⟨rest, n + 1 + entries.count '\n'⟩
    writeTable header tag t = header.toList ++ '\n' :: entries ∧
      readHeader header (Cursor.lines ⟨writeTable header tag t ++ rest, n⟩) = .ok start.lines ∧
      start.readTable tag = .ok (t, finish) ∧
      readTable tag start.lines = .ok (t, finish.lines) := by
  intro entries start finish
  have hw : writeTable header tag t = header.toList ++ '\n' :: entries := by
    simp [writeTable, entries]
  have hheader : readHeader header (Cursor.lines ⟨writeTable header tag t ++ rest, n⟩) =
      .ok start.lines := by
    rw [hw, List.append_assoc, List.cons_append, readHeader_lines hh]
  have hcount : entries.count '\n' = (writeEntries tag 0 t).count '\n' + 1 := by
    simp [entries]
  have hstart : start = ⟨writeEntries tag 0 t ++ '\n' :: rest, n + 1⟩ := by
    simp [start, entries]
  have hfinish : Cursor.next^[entries.count '\n'] start = finish := by
    rw [hstart, hcount, Cursor.next_iterate, ← hcount]
  have htext : start.lines.map Line.text = entryLines tag 0 t ++ [] :: Text.lines rest := by
    rw [hstart, Cursor.lines, Text.map_text_numberedFrom, lines_writeEntries,
      Text.lines_newline]
  obtain ⟨xs, zs, hsplit, hxs, hzs⟩ := List.map_eq_append_iff.1 htext
  obtain ⟨l, ys, rfl, hl, -⟩ := List.map_eq_cons_iff.1 hzs
  have hlength : start.lines.length - ys.length = entries.count '\n' := by
    rw [hcount, ← length_entryLines, ← hxs, hsplit, List.length_append, List.length_cons,
      List.length_map]
    omega
  have hread : start.readTable tag = .ok (t, finish) := by
    rw [Cursor.readTable, hsplit, readTable_good ht hs hxs hl, ← hsplit, ← hfinish, ← hlength]
    rfl
  exact ⟨hw, hheader, hread, Cursor.lines_of_readTable hread⟩

def awkward : Table := ["a\n\nb;", "t1: x;\n.path", ""]

def awkwardText : List Char := "t0: a\n\nb\\;;\nt1: t1: x\\;\n.path;\nt2: ;\n\n".toList

theorem readTable_writeTable_awkward :
    't' ≠ '\n' ∧ (∀ s ∈ awkward, ¬EndsInBackslash s) ∧ '\n' ∉ ".text".toList ∧
      writeTable ".text" 't' awkward = ".text".toList ++ '\n' :: awkwardText ∧
      Cursor.readTable 't' ⟨awkwardText ++ ".path\n".toList, 1⟩ =
        .ok (awkward, ⟨".path\n".toList, 8⟩) := by
  have ht : 't' ≠ '\n' := by decide
  have hs : ∀ s ∈ awkward, ¬EndsInBackslash s := by decide
  have hh : '\n' ∉ ".text".toList := by decide
  have hentries : writeEntries 't' 0 awkward ++ ['\n'] = awkwardText := by decide
  have hcount : awkwardText.count '\n' = 7 := by decide
  obtain ⟨hw, -, hread, -⟩ := readTable_writeTable ht hs hh ".path\n".toList 0
  rw [hentries] at hw hread
  rw [hcount] at hread
  exact ⟨ht, hs, hh, hw, hread⟩

end Stagecraft.Trace
