import Stagecraft.Proofs.Numeral.ReadWrite
import Stagecraft.Proofs.Text.Lines
import Stagecraft.Trace.Read

namespace Stagecraft.Trace

open Text (Line pieces after?)

theorem escape_append (cs ds : List Char) : escape (cs ++ ds) = escape cs ++ escape ds := by
  induction cs with
  | nil => rfl
  | cons c cs ih =>
    by_cases hc : c = ';'
    · simp [escape, hc, ih]
    · simp [escape, hc, ih]

theorem head?_escape (cs : List Char) : (escape cs).head? ≠ some ';' := by
  cases cs with
  | nil => simp [escape]
  | cons c cs =>
    by_cases hc : c = ';'
    · simp [escape, hc]
    · simp [escape, hc]

theorem getLast?_escape (cs : List Char) : (escape cs).getLast? = cs.getLast? := by
  rcases List.eq_nil_or_concat cs with rfl | ⟨cs, c, rfl⟩
  · rfl
  · by_cases hc : c = ';'
    · simp [escape_append, escape, hc]
    · simp [escape_append, escape, hc]

theorem unescape_cons {c : Char} {cs : List Char} (h : cs.head? ≠ some ';') :
    unescape (c :: cs) = c :: unescape cs := by
  rw [unescape]
  rintro rest rfl rfl
  exact h rfl

@[simp] theorem unescape_escape (cs : List Char) : unescape (escape cs) = cs := by
  induction cs with
  | nil => rfl
  | cons c cs ih =>
    by_cases hc : c = ';'
    · rw [escape, if_pos hc, unescape, ih, hc]
    · rw [escape, if_neg hc, unescape_cons (head?_escape cs), ih]

theorem endsLiteral_concat (cs : List Char) :
    endsLiteral (cs ++ [';']) = decide (cs.getLast? ≠ some '\\') := by
  rcases List.eq_nil_or_concat cs with rfl | ⟨cs, c, rfl⟩
  · rfl
  · by_cases hc : c = '\\'
    · simp [endsLiteral, hc]
    · simp [endsLiteral, hc]

theorem endsLiteral_concat_ne {c : Char} (hc : c ≠ ';') (cs : List Char) :
    endsLiteral (cs ++ [c]) = false := by
  simp [endsLiteral, hc]

theorem endsLiteral_of_not_mem {cs : List Char} (h : ';' ∉ cs) : endsLiteral cs = false := by
  rcases List.eq_nil_or_concat cs with rfl | ⟨cs, c, rfl⟩
  · rfl
  · rw [List.concat_eq_append] at h ⊢
    exact endsLiteral_concat_ne (fun hc ↦ h (by simp [hc])) cs

/-- What stands before a character that is no backslash and no semicolon does not matter. -/
theorem endsLiteral_append {c : Char} (hb : c ≠ '\\') (hs : c ≠ ';') (cs ds : List Char) :
    endsLiteral (cs ++ c :: ds) = endsLiteral ds := by
  rcases List.eq_nil_or_concat ds with rfl | ⟨ds, d, rfl⟩
  · exact endsLiteral_concat_ne hs cs
  · rw [List.concat_eq_append, ← List.cons_append, ← List.append_assoc]
    by_cases hd : d = ';'
    · rw [hd, endsLiteral_concat, endsLiteral_concat]
      rcases List.eq_nil_or_concat ds with rfl | ⟨ds, d, rfl⟩
      · simp [hb]
      · have hlast : (cs ++ c :: (ds ++ [d])).getLast? = some d := by
          rw [← List.cons_append, ← List.append_assoc, List.getLast?_concat]
        rw [List.concat_eq_append, hlast, List.getLast?_concat]
    · rw [endsLiteral_concat_ne hd, endsLiteral_concat_ne hd]

theorem endsLiteral_pieces (s : List Char) : ∀ q : List Char, '\n' ∉ q → endsLiteral q = false →
    ∃ xs x, pieces (q ++ escape s ++ [';']) = xs ++ [x] ∧ (∀ y ∈ xs, endsLiteral y = false) ∧
      endsLiteral x = decide ((q ++ escape s).getLast? ≠ some '\\') := by
  induction s with
  | nil =>
    intro q hq hend
    refine ⟨[], q ++ [';'], ?_, by simp, ?_⟩
    · rw [escape, List.append_nil, Text.pieces_of_not_mem (by simpa using hq), List.nil_append]
    · rw [escape, List.append_nil, endsLiteral_concat]
  | cons c s ih =>
    intro q hq hend
    by_cases hc : c = ';'
    · obtain ⟨xs, x, hp, hxs, hx⟩ := ih (q ++ ['\\', ';']) (by simpa using hq)
        (by simpa [endsLiteral_concat] using endsLiteral_concat (q ++ ['\\']))
      have he : escape (c :: s) = ['\\', ';'] ++ escape s := by rw [escape, if_pos hc]; rfl
      exact ⟨xs, x, by rw [he, ← List.append_assoc, hp], hxs, by rw [hx, he, List.append_assoc]⟩
    · have he : escape (c :: s) = [c] ++ escape s := by rw [escape, if_neg hc]; rfl
      by_cases hn : c = '\n'
      · -- The line ends here, and the next one begins with nothing before it.
        obtain ⟨xs, x, hp, hxs, hx⟩ := ih [] (by simp) rfl
        refine ⟨q :: xs, x, ?_, List.forall_mem_cons.2 ⟨hend, hxs⟩, ?_⟩
        · rw [List.nil_append] at hp
          rw [he, hn, List.append_assoc, List.append_assoc, List.singleton_append,
            Text.pieces_append, Text.pieces_of_not_mem hq, hp]
          rfl
        · rw [hx, he, hn, List.nil_append]
          cases h : escape s with
          | nil => simp
          | cons d ds => simp
      · obtain ⟨xs, x, hp, hxs, hx⟩ := ih (q ++ [c]) (by simpa using ⟨hq, Ne.symm hn⟩)
          (endsLiteral_concat_ne hc q)
        exact ⟨xs, x, by rw [he, ← List.append_assoc, hp], hxs, by rw [hx, he, List.append_assoc]⟩

theorem endsLiteral_label (tag : Char) (i : ℕ) (cs : List Char) :
    endsLiteral (label tag i ++ cs) = endsLiteral cs := by
  have h : label tag i ++ cs = tag :: Numeral.digits i ++ [':'] ++ ' ' :: cs := by simp [label]
  rw [h, endsLiteral_append (by decide) (by decide)]

theorem not_mem_label {tag c : Char} (ht : c ≠ tag) (hc : c.isDigit = false)
    (hp : c ∉ [':', ' ']) (i : ℕ) : c ∉ label tag i := by
  have hd : c ∉ Numeral.digits i := fun h ↦ by simp [Numeral.isDigit_of_mem_digits h] at hc
  rw [List.mem_cons, not_or] at hp
  simp [label, ht, hd, hp.1, by simpa using hp.2]

/-- A label is no beginning of what follows another label. -/
theorem after?_label {tag tag' : Char} {i j : ℕ} (h : tag ≠ tag' ∨ i ≠ j) (cs : List Char) :
    after? (label tag i) (label tag' j ++ cs) = none := by
  rw [Option.eq_none_iff_forall_ne_some]
  intro rest hrest
  have heq := Text.eq_append_of_after? hrest
  simp only [label, List.cons_append, List.append_assoc, List.cons.injEq] at heq
  obtain ⟨htag, heq⟩ := heq
  have hcolon (n : ℕ) : ':' ∉ Numeral.digits n := fun h ↦
    absurd (Numeral.isDigit_of_mem_digits h) (by decide)
  have hdigits : Numeral.digits j = Numeral.digits i := by
    have hj := Text.splitAt?_append (hcolon j) (' ' :: cs)
    have hi := Text.splitAt?_append (hcolon i) (' ' :: rest)
    rw [show Numeral.digits j ++ ':' :: ' ' :: cs = Numeral.digits i ++ ':' :: ' ' :: rest by
      simpa using heq, hi] at hj
    exact (congrArg Prod.fst (Option.some.inj hj)).symm
  rcases h with h | h
  · exact h htag.symm
  · have hv := congrArg Numeral.valueOf hdigits
    rw [Numeral.valueOf_digits, Numeral.valueOf_digits] at hv
    exact h hv.symm

/-- A literal that is written so that it is not complete where it ends. -/
def EndsInBackslash (s : String) : Prop := s.toList.getLast? = some '\\'

instance (s : String) : Decidable (EndsInBackslash s) := inferInstanceAs (Decidable (_ = _))

def entryText (tag : Char) (i : ℕ) (s : String) : List Char :=
  label tag i ++ escape s.toList ++ [';']

variable {tag : Char} {done : Table} {n : ℕ} {body : List Char} {xs ys : List Line} {l : Line}

theorem suffix_of_readHeader {wanted : String} {ls rest : List Line}
    (h : readHeader wanted ls = .ok rest) : rest <:+ ls := by
  cases ls with
  | nil => cases h
  | cons l ls =>
    rw [readHeader] at h
    split at h
    · cases h
      exact List.suffix_cons l _
    · cases h

/-- A line behind which reading succeeds ends the table, or leaves it as it was, or completes a literal
of it. -/
theorem step_of_readEntries {t : Table} {entry : Option (ℕ × List Char)} {ls rest : List Line}
    (h : readEntries tag done entry (l :: ls) = .ok (t, rest)) : t = done ∧ rest = ls ∨
      ∃ done' entry', readEntries tag done' entry' ls = .ok (t, rest) ∧
        (done' = done ∨ ∃ body, endsLiteral body ∧ done' = done ++ [literal body]) := by
  cases entry with
  | some e =>
    rw [readEntries] at h
    split at h
    · next hbody => exact .inr ⟨_, _, h, .inr ⟨_, hbody, rfl⟩⟩
    · exact .inr ⟨_, _, h, .inl rfl⟩
  | none =>
    rw [readEntries] at h
    split at h
    · cases h
      exact .inl ⟨rfl, rfl⟩
    · split at h
      · cases h
      · split at h
        · next hbody => exact .inr ⟨_, _, h, .inr ⟨_, hbody, rfl⟩⟩
        · exact .inr ⟨_, _, h, .inl rfl⟩

theorem eq_of_readEntries_nil {t : Table} {entry : Option (ℕ × List Char)} {rest : List Line}
    (h : readEntries tag done entry [] = .ok (t, rest)) : t = done ∧ rest = [] := by
  cases entry with
  | none =>
    cases h
    exact ⟨rfl, rfl⟩
  | some e => cases h

theorem suffix_of_readEntries {t : Table} {entry : Option (ℕ × List Char)}
    {ls rest : List Line} (h : readEntries tag done entry ls = .ok (t, rest)) : rest <:+ ls := by
  induction ls generalizing done entry with
  | nil =>
    obtain ⟨-, rfl⟩ := eq_of_readEntries_nil h
    exact List.suffix_rfl
  | cons l ls ih =>
    obtain ⟨-, rfl⟩ | ⟨done', entry', hrest, -⟩ := step_of_readEntries h
    · exact List.suffix_cons l rest
    · exact (ih hrest).trans (List.suffix_cons l ls)

def behind (ls : List Line) : List Char := ls.flatMap fun l ↦ '\n' :: l.text

theorem endsLiteral_line (body : List Char) (l : Line) :
    endsLiteral (body ++ '\n' :: l.text) = endsLiteral l.text :=
  endsLiteral_append (by decide) (by decide) _ _

theorem readEntries_grow (h : ∀ x ∈ xs, endsLiteral x.text = false) (ys : List Line) :
    readEntries tag done (some (n, body)) (xs ++ ys) =
      readEntries tag done (some (n, body ++ behind xs)) ys := by
  induction xs generalizing body with
  | nil => simp [behind]
  | cons x xs ih =>
    obtain ⟨hx, hxs⟩ := List.forall_mem_cons.1 h
    rw [List.cons_append, readEntries]
    simp only [endsLiteral_line, hx, Bool.false_eq_true, if_false]
    rw [ih hxs]
    simp [behind]

/-- An open entry goes on to the first line that ends a literal. -/
theorem readEntries_close (h : ∀ x ∈ xs, endsLiteral x.text = false) (hl : endsLiteral l.text)
    (ys : List Line) : readEntries tag done (some (n, body)) (xs ++ l :: ys) =
      readEntries tag (done ++ [literal (body ++ behind (xs ++ [l]))]) none ys := by
  have hbehind : behind (xs ++ [l]) = behind xs ++ '\n' :: l.text := by simp [behind]
  rw [readEntries_grow h, readEntries]
  simp only [endsLiteral_line, hl, if_true, hbehind, ← List.append_assoc]

theorem readEntries_unterminated (h : ∀ x ∈ xs, endsLiteral x.text = false) :
    readEntries tag done (some (n, body)) xs = .error (.line n .unterminated) := by
  rw [← List.append_nil xs, readEntries_grow h, readEntries]

theorem readEntries_label (hl : l.text = label tag done.length ++ body) (ys : List Line) :
    readEntries tag done none (l :: ys) =
      if endsLiteral body then readEntries tag (done ++ [literal body]) none ys
      else readEntries tag done (some (l.number, body)) ys := by
  have hne : l.text ≠ [] := by simp [hl, label]
  have hafter : after? (label tag done.length) l.text = some body := by
    rw [hl, Text.after?_append]
  rw [readEntries]
  simp only [if_neg hne, hafter]

section

variable {s : String}

theorem exists_entry_lines (ht : tag ≠ '\n') (h : xs.map Line.text = pieces (entryText tag n s)) :
    ∃ x rest body, xs = x :: rest ∧ x.text = label tag n ++ body ∧
      body ++ behind rest = escape s.toList ++ [';'] ∧
      pieces (escape s.toList ++ [';']) = body :: rest.map Line.text := by
  obtain ⟨p, ps, hp⟩ := List.exists_cons_of_ne_nil
    (Text.pieces_ne_nil (escape s.toList ++ [';']))
  have hlabel : '\n' ∉ label tag n := not_mem_label (Ne.symm ht) (by decide) (by decide) n
  rw [entryText, List.append_assoc, Text.pieces_prepend hlabel hp] at h
  obtain ⟨x, rest, rfl, hx, hrest⟩ := List.map_eq_cons_iff.1 h
  refine ⟨x, rest, p, rfl, hx, ?_, by rw [hp, hrest]⟩
  rw [← Text.append_flatMap_pieces hp, ← hrest, List.flatMap_map]
  rfl

/-- A written entry is read back, unless its literal ends in a backslash. -/
theorem readEntries_entry (ht : tag ≠ '\n') (hs : ¬EndsInBackslash s)
    (h : xs.map Line.text = pieces (entryText tag done.length s)) (ys : List Line) :
    readEntries tag done none (xs ++ ys) = readEntries tag (done ++ [s]) none ys := by
  obtain ⟨x, rest, body, rfl, hx, hbody, hpieces⟩ := exists_entry_lines ht h
  obtain ⟨qs, q, hqs, hopen, hend⟩ := endsLiteral_pieces s.toList [] (by simp) rfl
  have hlast : endsLiteral q := by
    rw [hend, List.nil_append, getLast?_escape, decide_eq_true_iff]
    exact hs
  have hliteral : literal (escape s.toList ++ [';']) = s := by simp [literal]
  rw [List.nil_append, hpieces] at hqs
  rw [List.cons_append, readEntries_label hx]
  cases qs with
  | nil =>
    obtain ⟨rfl, hrest⟩ := List.cons.inj hqs
    obtain rfl := List.map_eq_nil_iff.1 hrest
    rw [if_pos hlast, List.nil_append]
    simp only [behind, List.flatMap_nil, List.append_nil] at hbody
    rw [hbody, hliteral]
  | cons p qs =>
    obtain ⟨rfl, hrest⟩ := List.cons.inj hqs
    obtain ⟨hp, htail⟩ := List.forall_mem_cons.1 hopen
    obtain ⟨zs, ls, rfl, rfl, hls⟩ := List.map_eq_append_iff.1 hrest
    obtain ⟨z, rfl, rfl⟩ := List.map_eq_singleton_iff.1 hls
    have hzs : ∀ y ∈ zs, endsLiteral y.text = false := fun y hy ↦
      htail _ (List.mem_map_of_mem hy)
    rw [if_neg (by simp [hp]), List.append_assoc, List.singleton_append,
      readEntries_close hzs hlast, hbody, hliteral]

/-- A literal that ends in a backslash leaves its entry open. -/
theorem readEntries_open (ht : tag ≠ '\n') (hs : EndsInBackslash s)
    (h : xs.map Line.text = pieces (entryText tag done.length s)) :
    ∃ n body, ∀ ys, readEntries tag done none (xs ++ ys) =
      readEntries tag done (some (n, body)) ys := by
  obtain ⟨x, rest, body, rfl, hx, -, hpieces⟩ := exists_entry_lines ht h
  obtain ⟨qs, q, hqs, hopen, hend⟩ := endsLiteral_pieces s.toList [] (by simp) rfl
  have hlast : endsLiteral q = false := by
    rw [hend, List.nil_append, getLast?_escape, decide_eq_false_iff_not, not_not]
    exact hs
  rw [List.nil_append, hpieces] at hqs
  have hall : ∀ p ∈ body :: rest.map Line.text, endsLiteral p = false := by
    rw [hqs, List.forall_mem_append]
    exact ⟨hopen, by simpa using hlast⟩
  obtain ⟨hbody, hrest⟩ := List.forall_mem_cons.1 hall
  refine ⟨x.number, body ++ behind rest, fun ys ↦ ?_⟩
  rw [List.cons_append, readEntries_label hx, if_neg (by simp [hbody]),
    readEntries_grow fun y hy ↦ hrest _ (List.mem_map_of_mem hy)]

end

end Stagecraft.Trace
