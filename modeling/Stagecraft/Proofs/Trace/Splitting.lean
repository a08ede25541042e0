import Stagecraft.Proofs.Numeral.ReadWrite
import Stagecraft.Proofs.Text.Lines
import Stagecraft.Trace.Argument

namespace Stagecraft.Trace

open Text (isBlank)

def Ordinary (c : Char) : Prop :=
  isBlank c = false ∧ c ∉ [',', '[', ']', '\x7b', '\x7d', ';', '\n']

instance (c : Char) : Decidable (Ordinary c) := inferInstanceAs (Decidable (_ ∧ _))

theorem Ordinary.inline {c : Char} (h : Ordinary c) : c ≠ ';' ∧ c ≠ '\n' := by
  constructor <;> rintro rfl <;> exact absurd h (by decide)

theorem ordinary_of_isDigit {c : Char} (h : c.isDigit) : Ordinary c := by
  have h0 : 48 ≤ c.toNat := (Char.isDigit_iff_toNat.1 h).1
  have h9 : c.toNat ≤ 57 := (Char.isDigit_iff_toNat.1 h).2
  constructor
  · simp only [isBlank, Bool.or_eq_false_iff, Bool.and_eq_false_iff, decide_eq_false_iff_not]
    omega
  · have hne {x : Char} (hx : x.isDigit = false) : c ≠ x := Numeral.ne_of_isDigit h hx
    simp only [List.mem_cons, List.not_mem_nil, or_false, not_or]
    exact ⟨hne (by decide), hne (by decide), hne (by decide), hne (by decide), hne (by decide),
      hne (by decide), hne (by decide)⟩

theorem ordinary_digits (n : ℕ) : ∀ c ∈ Numeral.digits n, Ordinary c := fun _ h ↦
  ordinary_of_isDigit (Numeral.isDigit_of_mem_digits h)

theorem ordinary_integer (n : ℤ) : ∀ c ∈ Numeral.integer n, Ordinary c := by
  have hm : Ordinary '-' := by decide
  rw [Numeral.integer]
  split
  · exact List.forall_mem_cons.2 ⟨hm, ordinary_digits _⟩
  · exact ordinary_digits _

theorem isDigit_of_natural? {cs : List Char} {n : ℕ} (h : Numeral.natural? cs = some n) :
    ∀ c ∈ cs, c.isDigit := by
  rw [Numeral.natural?] at h
  split at h
  · next hcs => exact List.all_eq_true.1 hcs.2
  · cases h

theorem ordinary_of_exponent? {cs : List Char} {e : ℤ} (h : Numeral.exponent? cs = some e) :
    ∀ c ∈ cs, Ordinary c := by
  have hdigits {ds : List Char} (h : Numeral.natural? ds ≠ none) : ∀ c ∈ ds, Ordinary c := by
    obtain ⟨n, hn⟩ := Option.ne_none_iff_exists'.1 h
    exact fun c hc ↦ ordinary_of_isDigit (isDigit_of_natural? hn c hc)
  have he : Ordinary 'e' ∧ Ordinary 'E' ∧ Ordinary '+' ∧ Ordinary '-' := by decide
  cases cs with
  | nil => simp
  | cons c cs =>
    simp only [Numeral.exponent?] at h
    split at h
    · next hc =>
      refine List.forall_mem_cons.2 ⟨hc.elim (· ▸ he.1) (· ▸ he.2.1), ?_⟩
      split at h
      · exact List.forall_mem_cons.2 ⟨he.2.2.1, hdigits fun hn ↦ by simp [hn] at h⟩
      · exact List.forall_mem_cons.2 ⟨he.2.2.2, hdigits fun hn ↦ by simp [hn] at h⟩
      · exact hdigits fun hn ↦ by simp [hn] at h
    · cases h

theorem ordinary_spells {v : ℚ} {cs : List Char} (h : Numeral.Spells v cs) :
    ∀ c ∈ cs, Ordinary c := by
  obtain ⟨-, hw, hf, -, he, -⟩ := h
  rename_i w f t e
  have hpoint : ∀ c ∈ Numeral.point f, Ordinary c := by
    cases f with
    | nil => simp [Numeral.point]
    | cons d f =>
      exact List.forall_mem_cons.2 ⟨by decide, fun c hc ↦ ordinary_of_isDigit (hf c hc)⟩
  simp only [List.forall_mem_append]
  exact ⟨⟨fun c hc ↦ ordinary_of_isDigit (hw c hc), hpoint⟩, ordinary_of_exponent? he⟩

theorem ordinary_number (style : Numeral) (x : Binary64) : ∀ c ∈ style.write x, Ordinary c := by
  cases x with
  | nan =>
    have h : ['N', 'a', 'N'].all fun c ↦ decide (Ordinary c) := by decide
    exact Text.forall_mem_of_all h
  | infinite s =>
    have h : (if s then ['-', 'i', 'n', 'f'] else ['i', 'n', 'f']).all fun c ↦ decide (Ordinary c) := by
      cases s <;> decide
    exact Text.forall_mem_of_all h
  | finite s r =>
    rw [Numeral.write, List.forall_mem_append]
    have h : (if s then ['-'] else []).all fun c ↦ decide (Ordinary c) := by cases s <;> decide
    exact ⟨Text.forall_mem_of_all h, ordinary_spells (Numeral.layout_spells _ _)⟩

theorem ordinary_atom (first : List Char) {ds : List Char}
    (hf : first.all fun c ↦ decide (Ordinary c)) (hd : ∀ c ∈ ds, Ordinary c) :
    ∀ c ∈ first ++ ds, Ordinary c :=
  List.forall_mem_append.2 ⟨Text.forall_mem_of_all hf, hd⟩

def prependFirst (cs : List Char) (parts : List (List Char)) : List (List Char) :=
  cs.foldr consFirst parts

def Level (cs : List Char) : Prop :=
  ∀ depth rest, splitOutside (depth + 1) (cs ++ rest) =
    (splitOutside (depth + 1) rest).map (prependFirst cs)

def Closed (cs : List Char) : Prop :=
  ∀ depth rest, splitOutside depth (cs ++ rest) = (splitOutside depth rest).map (prependFirst cs)

variable {cs ds : List Char}

@[simp] theorem prependFirst_parts (cs p : List Char) (ps : List (List Char)) :
    prependFirst cs (p :: ps) = (cs ++ p) :: ps := by
  induction cs with
  | nil => rfl
  | cons c cs ih => rw [prependFirst, List.foldr_cons, ← prependFirst, ih]; rfl

theorem map_prependFirst_append {e : Type} (x : Except e (List (List Char))) :
    (x.map (prependFirst ds)).map (prependFirst cs) = x.map (prependFirst (cs ++ ds)) := by
  cases x with
  | error e => rfl
  | ok parts => simp [Except.map, prependFirst]

theorem Closed.level (h : Closed cs) : Level cs := fun depth ↦ h (depth + 1)

theorem Closed.nil : Closed [] := fun depth rest ↦ by
  rw [List.nil_append]
  cases splitOutside depth rest <;> rfl

theorem Closed.append (h : Closed cs) (h' : Closed ds) : Closed (cs ++ ds) := fun depth rest ↦ by
  rw [List.append_assoc, h, h', map_prependFirst_append]

theorem Level.append (h : Level cs) (h' : Level ds) : Level (cs ++ ds) := fun depth rest ↦ by
  rw [List.append_assoc, h, h', map_prependFirst_append]

theorem splitOutside_cons {c : Char} {depth : ℕ} (hc : c ∉ ['[', ']', '\x7b', '\x7d'])
    (hd : c = ',' → depth ≠ 0) (rest : List Char) :
    splitOutside depth (c :: rest) = (splitOutside depth rest).map (consFirst c) := by
  simp only [List.mem_cons, List.not_mem_nil, or_false, not_or] at hc
  have hdepth : depthAfter depth c = some depth := by
    simp only [depthAfter, hc, or_self, if_false]
  rw [splitOutside, if_neg fun h ↦ hd h.1 h.2]
  simp only [hdepth]

theorem Closed.singleton {c : Char} (hc : c ∉ [',', '[', ']', '\x7b', '\x7d']) : Closed [c] := by
  rw [List.mem_cons, not_or] at hc
  exact fun depth rest ↦ splitOutside_cons hc.2 (absurd · hc.1) rest

theorem Level.comma : Level [','] := fun depth rest ↦
  splitOutside_cons (by decide) (fun _ ↦ depth.succ_ne_zero) rest

theorem Closed.of_all (h : ∀ c ∈ cs, c ∉ [',', '[', ']', '\x7b', '\x7d']) : Closed cs := by
  induction cs with
  | nil => exact .nil
  | cons c cs ih =>
    obtain ⟨hc, hcs⟩ := List.forall_mem_cons.1 h
    exact (Closed.singleton hc).append (ih hcs)

theorem Closed.of_ordinary (h : ∀ c ∈ cs, Ordinary c) : Closed cs :=
  .of_all fun c hc hm ↦ (h c hc).2 (List.mem_append_left [';', '\n'] hm)

/-- Brackets of either kind close what is level. -/
theorem Closed.bracket {opening closing : Char} (ho : opening = '[' ∨ opening = '\x7b')
    (hc : closing = ']' ∨ closing = '\x7d') (h : Level cs) :
    Closed (opening :: cs ++ [closing]) := fun depth rest ↦ by
  have hopen : depthAfter depth opening = some (depth + 1) := by rw [depthAfter, if_pos ho]
  have hclose : depthAfter (depth + 1) closing = some depth := by
    rcases hc with rfl | rfl <;> simp [depthAfter]
  have hcomma : opening ≠ ',' ∧ closing ≠ ',' := by
    constructor
    · rcases ho with rfl | rfl <;> decide
    · rcases hc with rfl | rfl <;> decide
  have hend : splitOutside (depth + 1) (closing :: rest) =
      (splitOutside depth rest).map (prependFirst [closing]) := by
    rw [splitOutside, if_neg fun h ↦ hcomma.2 h.1]
    simp only [hclose]
    rfl
  rw [List.cons_append, List.cons_append, List.append_assoc, List.singleton_append, splitOutside,
    if_neg fun h ↦ hcomma.1 h.1]
  simp only [hopen, h depth, hend, map_prependFirst_append]
  have hcons : consFirst opening = prependFirst [opening] := rfl
  rw [hcons, map_prependFirst_append]
  rfl

theorem splitOutside_closed (h : Closed cs) : splitOutside 0 cs = .ok [cs] := by
  have h0 : splitOutside 0 (cs ++ []) = _ := h 0 []
  rwa [List.append_nil, splitOutside, if_pos rfl, Except.map, prependFirst_parts,
    List.append_nil] at h0

theorem splitOutside_comma (h : Closed cs) (rest : List Char) :
    splitOutside 0 (cs ++ ',' :: rest) = (splitOutside 0 rest).map (cs :: ·) := by
  rw [h, splitOutside, if_pos ⟨rfl, rfl⟩]
  cases splitOutside 0 rest with
  | error e => rfl
  | ok parts => simp [Except.map]

end Stagecraft.Trace
