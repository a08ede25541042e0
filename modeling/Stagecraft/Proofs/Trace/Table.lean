import Stagecraft.Proofs.Trace.Entry

namespace Stagecraft.Trace

open Text (Line pieces lines after?)

def entryLines (tag : Char) : ℕ → Table → List (List Char)
  | _, [] => []
  | i, s :: rest => pieces (entryText tag i s) ++ entryLines tag (i + 1) rest

theorem lines_writeEntries (tag : Char) (i : ℕ) (t : Table) (rest : List Char) :
    lines (writeEntries tag i t ++ rest) = entryLines tag i t ++ lines rest := by
  induction t generalizing i with
  | nil => rfl
  | cons s t ih =>
    have h : writeEntries tag i (s :: t) ++ rest =
        entryText tag i s ++ '\n' :: (writeEntries tag (i + 1) t ++ rest) := by
      simp [writeEntries, entryText]
    rw [h, Text.lines_append, ih, entryLines, List.append_assoc]

variable {tag tag' : Char} {done t : Table} {i n : ℕ} {body : List Char} {xs ys : List Line}
  {l : Line} {s : String}

/-- No line of an entry but the last ends a literal. -/
theorem exists_last_line (ht : tag ≠ '\n') (h : xs.map Line.text = pieces (entryText tag i s)) :
    ∃ zs z, xs = zs ++ [z] ∧ (∀ x ∈ zs, endsLiteral x.text = false) ∧
      (endsLiteral z.text ↔ ¬EndsInBackslash s) := by
  have hlabel : '\n' ∉ label tag i := not_mem_label (Ne.symm ht) (by decide) (by decide) i
  have hend : endsLiteral (label tag i) = false := by
    rw [← List.append_nil (label tag i), endsLiteral_label]
    rfl
  obtain ⟨ps, p, hp, hopen, hlast⟩ := endsLiteral_pieces s.toList (label tag i) hlabel hend
  rw [← entryText] at hp
  obtain ⟨zs, ls, rfl, hzs, hls⟩ := List.map_eq_append_iff.1 (h.trans hp)
  obtain ⟨z, rfl, rfl⟩ := List.map_eq_singleton_iff.1 hls
  refine ⟨zs, z, rfl, fun x hx ↦ hopen _ (hzs ▸ List.mem_map_of_mem hx), ?_⟩
  have hbackslash : (label tag i ++ escape s.toList).getLast? = some '\\' ↔ EndsInBackslash s := by
    rw [EndsInBackslash, ← getLast?_escape s.toList]
    cases escape s.toList with
    | nil =>
      have hspace : label tag i = tag :: Numeral.digits i ++ [':'] ++ [' '] := by simp [label]
      rw [List.append_nil, hspace, List.getLast?_concat]
      simp
    | cons c cs => rw [List.getLast?_append_of_ne_nil _ (List.cons_ne_nil c cs)]
  rw [hlast, decide_eq_true_iff, ne_eq, hbackslash]

theorem readEntries_table (ht : tag ≠ '\n') (hs : ∀ s ∈ t, ¬EndsInBackslash s)
    (h : xs.map Line.text = entryLines tag done.length t) (ys : List Line) :
    readEntries tag done none (xs ++ ys) = readEntries tag (done ++ t) none ys := by
  induction t generalizing done xs with
  | nil =>
    obtain rfl := List.map_eq_nil_iff.1 h
    simp
  | cons s t ih =>
    obtain ⟨hs, hrest⟩ := List.forall_mem_cons.1 hs
    obtain ⟨us, vs, rfl, hus, hvs⟩ := List.map_eq_append_iff.1 h
    rw [List.append_assoc, readEntries_entry ht hs hus, ih hrest (by simpa using hvs)]
    simp

theorem readTable_good (ht : tag ≠ '\n') (hs : ∀ s ∈ t, ¬EndsInBackslash s)
    (h : xs.map Line.text = entryLines tag 0 t) (hl : l.text = []) (ys : List Line) :
    readTable tag (xs ++ l :: ys) = .ok (t, ys) := by
  rw [readTable, readEntries_table ht hs h, readEntries]
  simp [hl]

/-- What can become of an entry that was left open before the entries of `t`: an error, one more
literal in the table and the reader behind the entries, or an entry that is still open there. -/
inductive Swallowed (tag : Char) (done : Table) (n : ℕ) (t : Table) (ys : List Line) :
    Except ReadError (Table × List Line) → Prop
  | error (e : ReadError) : Swallowed tag done n t ys (.error e)
  | closed (s : String) (h : t ≠ []) : Swallowed tag done n t ys (.ok (done ++ [s], ys))
  | left_open (body : List Char) :
    Swallowed tag done n t ys (readEntries tag done (some (n, body)) ys)

theorem Swallowed.cons {r : Except ReadError (Table × List Line)} (h : Swallowed tag done n t ys r)
    (s : String) : Swallowed tag done n (s :: t) ys r := by
  cases h with
  | error e => exact .error e
  | closed s' _ => exact .closed s' (List.cons_ne_nil s t)
  | left_open body => exact .left_open body

/-- An open entry goes on to the last line of an entry that is closed. What follows does not have the
label that is then expected, unless it is the empty line behind the entries. -/
theorem readEntries_swallow (ht : tag' ≠ '\n') (hi : tag ≠ tag' ∨ done.length < i)
    (h : xs.map Line.text = entryLines tag' i t) (hl : l.text = []) (ys : List Line) :
    Swallowed tag done n t ys (readEntries tag done (some (n, body)) (xs ++ l :: ys)) := by
  induction t generalizing i xs body with
  | nil =>
    obtain rfl := List.map_eq_nil_iff.1 h
    have hopen : ∀ x ∈ [l], endsLiteral x.text = false := by simp [hl, endsLiteral]
    rw [List.nil_append, ← List.singleton_append, readEntries_grow hopen]
    exact .left_open _
  | cons s t ih =>
    obtain ⟨us, vs, rfl, hus, hvs⟩ := List.map_eq_append_iff.1 h
    obtain ⟨zs, z, rfl, hzs, hz⟩ := exists_last_line ht hus
    by_cases hs : EndsInBackslash s
    · have hopen : ∀ x ∈ zs ++ [z], endsLiteral x.text = false := by
        rw [List.forall_mem_append]
        exact ⟨hzs, by simpa [hs] using hz⟩
      rw [List.append_assoc, readEntries_grow hopen]
      exact (ih (hi.imp_right fun h ↦ by omega) hvs).cons s
    · rw [List.append_assoc, List.append_assoc, List.singleton_append,
        readEntries_close hzs (hz.2 hs)]
      cases t with
      | nil =>
        obtain rfl := List.map_eq_nil_iff.1 hvs
        rw [List.nil_append, readEntries]
        simp only [hl, if_true]
        exact .closed _ (List.cons_ne_nil s [])
      | cons s' t =>
        obtain ⟨us', vs', rfl, hus', -⟩ := List.map_eq_append_iff.1 hvs
        obtain ⟨x, rest, body', rfl, hx, -, -⟩ := exists_entry_lines ht hus'
        have hne : x.text ≠ [] := by simp [hx, label]
        -- The entry is closed, but the next label is not the one that is looked for.
        have hlabel : after? (label tag (done ++ [literal (body ++ behind (zs ++ [z]))]).length)
            x.text = none := by
          rw [hx, List.length_append, List.length_singleton]
          exact after?_label (hi.imp_right fun h ↦ by omega) _
        rw [List.append_assoc, List.cons_append, readEntries]
        simp only [if_neg hne, hlabel]
        exact .error _

inductive Overrun (tag : Char) (size : ℕ) (ys : List Line) :
    Except ReadError (Table × List Line) → Prop
  | error (e : ReadError) : Overrun tag size ys (.error e)
  | shorter (t : Table) (h : t.length < size) : Overrun tag size ys (.ok (t, ys))
  | left_open (done : Table) (n : ℕ) (body : List Char) :
    Overrun tag size ys (readEntries tag done (some (n, body)) ys)

theorem Swallowed.overrun {r : Except ReadError (Table × List Line)}
    (h : Swallowed tag done n t ys r) : Overrun tag (done.length + (t.length + 1)) ys r := by
  cases h with
  | error e => exact .error e
  | closed s h =>
    have hpos := List.length_pos_of_ne_nil h
    refine .shorter _ ?_
    rw [List.length_append, List.length_singleton]
    omega
  | left_open body => exact .left_open done n body

theorem readEntries_overrun (ht : tag ≠ '\n') (hs : ∃ s ∈ t, EndsInBackslash s)
    (h : xs.map Line.text = entryLines tag done.length t) (hl : l.text = []) (ys : List Line) :
    Overrun tag (done.length + t.length) ys (readEntries tag done none (xs ++ l :: ys)) := by
  induction t generalizing done xs with
  | nil => simp at hs
  | cons s t ih =>
    obtain ⟨us, vs, rfl, hus, hvs⟩ := List.map_eq_append_iff.1 h
    rw [List.append_assoc]
    by_cases hsb : EndsInBackslash s
    · obtain ⟨n, body, hopen⟩ := readEntries_open ht hsb hus
      rw [hopen]
      exact (readEntries_swallow ht (.inr done.length.lt_succ_self) hvs hl ys).overrun
    · have hrest : ∃ s ∈ t, EndsInBackslash s := by simpa [hsb] using hs
      have hvs : vs.map Line.text = entryLines tag (done ++ [s]).length t := by simpa using hvs
      have hover := ih hrest hvs
      rw [readEntries_entry ht hsb hus]
      rwa [List.length_append, List.length_singleton, Nat.add_assoc, Nat.add_comm 1] at hover

theorem readTable_bad (ht : tag ≠ '\n') (hs : ∃ s ∈ t, EndsInBackslash s)
    (h : xs.map Line.text = entryLines tag 0 t) (hl : l.text = []) (ys : List Line) :
    Overrun tag t.length ys (readTable tag (xs ++ l :: ys)) := by
  have h0 : xs.map Line.text = entryLines tag ([] : Table).length t := h
  have hover := readEntries_overrun ht hs h0 hl ys
  rwa [List.length_nil, Nat.zero_add] at hover

end Stagecraft.Trace
