import Stagecraft.Proofs.Outcome
import Stagecraft.Proofs.Trace.Splitting

namespace Stagecraft.Trace

open Text (Snug isBlank trim)

structure Whole (cs : List Char) : Prop where
  closed : Closed cs
  snug : Snug cs
  ne_nil : cs ≠ []

inductive Separated : List (List Char) → List Char → Prop
  | none : Separated [] []
  | one (p : List Char) : Separated [p] p
  | cons {p q b d cs : List Char} {ps : List (List Char)} (hb : b.all isBlank) (hd : d.all isBlank)
    (h : Separated (q :: ps) cs) : Separated (p :: q :: ps) (p ++ b ++ ',' :: (d ++ cs))

variable {cs b d : List Char} {p : List Char} {ps : List (List Char)}

theorem Closed.blank (h : b.all isBlank) : Closed b := by
  apply Closed.of_all
  intro c hc hm
  have hblank : isBlank c = true := List.all_eq_true.1 h c hc
  have hmark : [',', '[', ']', '\x7b', '\x7d'].all fun c ↦ decide (isBlank c = false) := by decide
  rw [Text.forall_mem_of_all hmark c hm] at hblank
  cases hblank

theorem Separated.level (h : Separated ps cs) (hps : ∀ p ∈ ps, Whole p) : Level cs := by
  induction h with
  | none => exact Closed.nil.level
  | one p => exact (hps p (by simp)).closed.level
  | @cons p q b d cs ps hb hd h ih =>
    obtain ⟨hp, hrest⟩ := List.forall_mem_cons.1 hps
    have hcomma := (hp.closed.level.append (Closed.blank hb).level).append .comma
    have hall := hcomma.append ((Closed.blank hd).level.append (ih hrest))
    simpa using hall

theorem Separated.snug (h : Separated ps cs) (hps : ∀ p ∈ ps, Whole p) :
    Snug cs ∧ (ps ≠ [] → cs ≠ []) := by
  induction h with
  | none => exact ⟨.of_all (by simp), absurd rfl⟩
  | one p =>
    have hp := hps p (by simp)
    exact ⟨hp.snug, fun _ ↦ hp.ne_nil⟩
  | @cons p q b d cs ps hb hd h ih =>
    obtain ⟨hp, hrest⟩ := List.forall_mem_cons.1 hps
    obtain ⟨hcs, hne⟩ := ih hrest
    have hjoin := hp.snug.join hcs hp.ne_nil (hne (by simp)) (b ++ ',' :: d)
    exact ⟨by simpa using hjoin, by simp⟩

theorem Separated.length_le (h : Separated ps cs) : ∀ p ∈ ps, p.length ≤ cs.length := by
  induction h with
  | none => simp
  | one p => simp
  | cons hb hd h ih =>
    rw [List.forall_mem_cons]
    simp only [List.length_append, List.length_cons]
    refine ⟨by omega, fun q hq ↦ ?_⟩
    have hle := ih q hq
    omega

/-- The blanks around a comma belong to the parts beside it and are trimmed away. -/
theorem Separated.splitArguments (h : Separated ps cs) (hne : ps ≠ []) (hps : ∀ p ∈ ps, Whole p) :
    splitArguments cs = .ok ps := by
  have hsplit : ∃ parts, splitOutside 0 cs = .ok parts ∧ parts.map trim = ps := by
    induction h with
    | none => exact absurd rfl hne
    | one p =>
      have hp := hps p (by simp)
      exact ⟨[p], splitOutside_closed hp.closed, by simp [hp.snug.trim]⟩
    | @cons p q b d cs ps hb hd h ih =>
      obtain ⟨hp, hrest⟩ := List.forall_mem_cons.1 hps
      obtain ⟨parts, hparts, htrim⟩ := ih (by simp) hrest
      obtain ⟨first, more, rfl⟩ : ∃ first more, parts = first :: more := by
        apply List.exists_cons_of_ne_nil
        rintro rfl
        cases htrim
      refine ⟨(p ++ b) :: (d ++ first) :: more, ?_, ?_⟩
      · rw [splitOutside_comma (hp.closed.append (Closed.blank hb)), Closed.blank hd, hparts]
        simp [Except.map]
      · rw [List.map_cons, List.map_cons] at *
        rw [Text.trim_append hd, htrim]
        simp [hp.snug.trim_behind hb]
  obtain ⟨parts, hparts, htrim⟩ := hsplit
  rw [Trace.splitArguments, hparts]
  exact congrArg _ htrim

namespace Argument

mutual

def Bounded : Argument → Prop
  | .number _ => True
  | .text i => i < referenceBound
  | .path i => i < referenceBound
  | .sub i => i < referenceBound
  | .list items => BoundedAll items
  | .position parts => BoundedAll parts

def BoundedAll : List Argument → Prop
  | [] => True
  | a :: rest => a.Bounded ∧ BoundedAll rest

end

theorem boundedAll_iff {as : List Argument} : BoundedAll as ↔ ∀ a ∈ as, a.Bounded := by
  induction as with
  | nil => simp [BoundedAll]
  | cons a as ih => rw [BoundedAll, ih, List.forall_mem_cons]

mutual

/-- A text of an argument, with any blanks around its commas and just inside its brackets. -/
inductive Spaced : Argument → List Char → Prop
  | number (x : Binary64) : Spaced (.number x) ('#' :: Numeral.argument.write x)
  | integer (n : ℤ) : Spaced (.number (.ofInt n)) ('#' :: Numeral.integer n)
  | text (i : ℕ) : Spaced (.text i) ('t' :: Numeral.digits i)
  | path (i : ℕ) : Spaced (.path i) ('p' :: Numeral.digits i)
  | sub (i : ℕ) : Spaced (.sub i) ("$sub_".toList ++ Numeral.digits i)
  | list {items : List Argument} {ps : List (List Char)} {b cs d : List Char}
    (hb : b.all isBlank) (hd : d.all isBlank) (h : SpacedAll items ps) (hcs : Separated ps cs) :
    Spaced (.list items) ('[' :: (b ++ (cs ++ d)) ++ [']'])
  | position {items : List Argument} {ps : List (List Char)} {b cs d : List Char}
    (hb : b.all isBlank) (hd : d.all isBlank) (h : SpacedAll items ps) (hcs : Separated ps cs) :
    Spaced (.position items) ('\x7b' :: (b ++ (cs ++ d)) ++ ['\x7d'])

inductive SpacedAll : List Argument → List (List Char) → Prop
  | nil : SpacedAll [] []
  | cons {a : Argument} {p : List Char} {rest : List Argument} {ps : List (List Char)}
    (h : Spaced a p) (hrest : SpacedAll rest ps) : SpacedAll (a :: rest) (p :: ps)

end

end Argument

open Argument (Spaced SpacedAll BoundedAll)

theorem Whole.of_ordinary (h : ∀ c ∈ cs, Ordinary c) (hne : cs ≠ []) : Whole cs where
  closed := .of_ordinary h
  snug := .of_all fun c hc ↦ (h c hc).1
  ne_nil := hne

theorem Whole.bracket {opening closing : Char} (ho : opening = '[' ∨ opening = '\x7b')
    (hc : closing = ']' ∨ closing = '\x7d') (h : Level cs) : Whole (opening :: cs ++ [closing]) where
  closed := .bracket ho hc h
  snug := by
    have hopening : Snug [opening] := by
      rcases ho with rfl | rfl <;> exact .of_all (Text.forall_mem_of_all (by decide))
    have hclosing : Snug [closing] := by
      rcases hc with rfl | rfl <;> exact .of_all (Text.forall_mem_of_all (by decide))
    exact hopening.join hclosing (by simp) (by simp) cs
  ne_nil := by simp

theorem level_between (hb : b.all isBlank) (hd : d.all isBlank) (h : Level cs) :
    Level (b ++ (cs ++ d)) :=
  (Closed.blank hb).level.append (h.append (Closed.blank hd).level)

mutual

theorem Argument.Spaced.whole {a : Argument} {cs : List Char} : Spaced a cs → Whole cs
  | .number x => .of_ordinary (ordinary_atom ['#'] (by decide) (ordinary_number _ x)) (by simp)
  | .integer n => .of_ordinary (ordinary_atom ['#'] (by decide) (ordinary_integer n)) (by simp)
  | .text i => .of_ordinary (ordinary_atom ['t'] (by decide) (ordinary_digits i)) (by simp)
  | .path i => .of_ordinary (ordinary_atom ['p'] (by decide) (ordinary_digits i)) (by simp)
  | .sub i =>
    .of_ordinary (ordinary_atom "$sub_".toList (by decide) (ordinary_digits i)) (by simp)
  | .list hb hd h hcs =>
    .bracket (.inl rfl) (.inl rfl) (level_between hb hd (hcs.level h.whole))
  | .position hb hd h hcs =>
    .bracket (.inr rfl) (.inr rfl) (level_between hb hd (hcs.level h.whole))

theorem Argument.SpacedAll.whole {as : List Argument} {ps : List (List Char)} :
    SpacedAll as ps → ∀ p ∈ ps, Whole p
  | .nil => by simp
  | .cons h hrest => List.forall_mem_cons.2 ⟨h.whole, hrest.whole⟩

end

theorem exists_separated (ps : List (List Char)) : ∃ cs, Separated ps cs := by
  induction ps with
  | nil => exact ⟨_, .none⟩
  | cons p ps ih =>
    obtain ⟨cs, hcs⟩ := ih
    cases ps with
    | nil => exact ⟨_, .one p⟩
    | cons q ps => exact ⟨_, .cons (b := []) (d := []) rfl rfl hcs⟩

mutual

theorem Argument.exists_spaced : ∀ a : Argument, ∃ cs, Spaced a cs
  | .number x => ⟨_, .number x⟩
  | .text i => ⟨_, .text i⟩
  | .path i => ⟨_, .path i⟩
  | .sub i => ⟨_, .sub i⟩
  | .list items => by
    obtain ⟨ps, h⟩ := exists_spacedAll items
    obtain ⟨cs, hcs⟩ := exists_separated ps
    exact ⟨_, .list (b := []) (d := []) rfl rfl h hcs⟩
  | .position items => by
    obtain ⟨ps, h⟩ := exists_spacedAll items
    obtain ⟨cs, hcs⟩ := exists_separated ps
    exact ⟨_, .position (b := []) (d := []) rfl rfl h hcs⟩

theorem Argument.exists_spacedAll : ∀ as : List Argument, ∃ ps, SpacedAll as ps
  | [] => ⟨_, .nil⟩
  | a :: rest => by
    obtain ⟨p, h⟩ := exists_spaced a
    obtain ⟨ps, hrest⟩ := exists_spacedAll rest
    exact ⟨_, .cons h hrest⟩

end

theorem Argument.SpacedAll.forall₂ {as : List Argument} (h : SpacedAll as ps) :
    List.Forall₂ Spaced as ps := by
  induction as generalizing ps with
  | nil =>
    cases h
    exact .nil
  | cons a as ih =>
    cases h with
    | cons h hrest => exact .cons h (ih hrest)

theorem reference?_digits {n : ℕ} (h : n < referenceBound) :
    reference? (Numeral.digits n) = some n := by
  obtain ⟨c, cs, hd, hc⟩ := Numeral.digits_eq_cons n
  have hplus : c ≠ '+' := Numeral.ne_of_isDigit hc (by decide)
  have hn := Numeral.natural?_digits n
  rw [hd] at hn ⊢
  simp [reference?, hplus, hn, h]

theorem readReference_digits {n : ℕ} (h : n < referenceBound) (whole : List Char)
    (make : ℕ → Argument) : readReference whole (Numeral.digits n) make = .ok (make n) := by
  rw [readReference, reference?_digits h]

theorem readArgument_simple {depth : ℕ} {c : Char} {cs : List Char} (hb : c ≠ '[')
    (hp : c ≠ '\x7b') : readArgument (depth + 1) (c :: cs) = readSimple (c :: cs) := by
  rw [readArgument, inside?, if_neg hb, inside?, if_neg hp]

theorem inside?_bracket (opening closing : Char) (cs : List Char) :
    inside? opening closing (opening :: cs ++ [closing]) = some cs := by
  rw [List.cons_append, inside?, if_pos rfl, Text.before?_concat]

theorem readSimple_number {cs : List Char} {x : Binary64} (h : Numeral.read? cs = some x) :
    readSimple ('#' :: cs) = .ok (.number x) := by
  simp [readSimple, Text.after?, h]

variable {as : List Argument} {depth : ℕ}

/-- Arguments are read if each of their texts is. -/
theorem readWithin_separated (h : SpacedAll as ps) (hcs : Separated ps cs)
    (hread : ∀ a ∈ as, ∀ p ∈ ps, Spaced a p → readArgument depth p = .ok a) :
    readWithin depth cs = .ok as := by
  have hread' : ps.mapM (readArgument depth) = .ok as := by
    rw [Outcome.mapM_eq_ok, List.forall₂_iff_zip]
    obtain ⟨hlength, hspaced⟩ := List.forall₂_iff_zip.1 h.forall₂.flip
    refine ⟨hlength, fun {p a} hmem ↦ ?_⟩
    obtain ⟨hp, ha⟩ := List.of_mem_zip hmem
    exact hread a ha p hp (hspaced hmem)
  by_cases hps : ps = []
  · cases hps
    cases h
    cases hcs
    rw [readWithin, if_pos rfl]
  · have hne : cs ≠ [] := (hcs.snug h.whole).2 hps
    rw [readWithin, if_neg hne, hcs.splitArguments hps h.whole]
    exact hread'

/-- The length of a text bounds how deep its brackets are nested. -/
theorem readArgument_spaced {a : Argument} (h : Spaced a cs) (hb : a.Bounded)
    (hdepth : cs.length ≤ depth) : readArgument depth cs = .ok a := by
  induction depth generalizing a cs with
  | zero =>
    have hne := h.whole.ne_nil
    have hpos := List.length_pos_of_ne_nil hne
    omega
  | succ depth ih =>
    -- The texts inside brackets are shorter than the text with the brackets.
    have hinside {items : List Argument} {ps : List (List Char)} {b cs d : List Char}
        (hb : b.all isBlank) (hd : d.all isBlank) (h : SpacedAll items ps)
        (hcs : Separated ps cs) (hitems : BoundedAll items)
        (hlen : (b ++ (cs ++ d)).length ≤ depth) :
        readWithin depth (trim (b ++ (cs ++ d))) = .ok items := by
      rw [Text.trim_append hb, (hcs.snug h.whole).1.trim_behind hd]
      apply readWithin_separated h hcs
      intro a ha p hp hspaced
      have hle := hcs.length_le p hp
      simp only [List.length_append] at hlen
      exact ih hspaced (Argument.boundedAll_iff.1 hitems a ha) (by omega)
    cases h with
    | number x =>
      rw [readArgument_simple (by decide) (by decide)]
      exact readSimple_number (Numeral.read?_write Numeral.argument x)
    | integer n =>
      rw [readArgument_simple (by decide) (by decide)]
      exact readSimple_number (Numeral.read?_integer n)
    | text i =>
      rw [readArgument_simple (by decide) (by decide)]
      exact readReference_digits hb _ .text
    | path i =>
      rw [readArgument_simple (by decide) (by decide)]
      exact readReference_digits hb _ .path
    | sub i =>
      have hsimple : readArgument (depth + 1) ("$sub_".toList ++ Numeral.digits i) =
          readSimple ("$sub_".toList ++ Numeral.digits i) :=
        readArgument_simple (by decide) (by decide)
      have hhash : Text.after? ['#'] ("$sub_".toList ++ Numeral.digits i) = none := rfl
      rw [hsimple, readSimple, hhash]
      simp only [Text.after?_append]
      exact readReference_digits hb _ .sub
    | list hfront hbehind hitems hcs =>
      simp only [List.length_append, List.length_cons, List.length_nil] at hdepth
      rw [readArgument, inside?_bracket]
      simp only [hinside hfront hbehind hitems hcs hb (by simp; omega)]
      rfl
    | @position items ps b cs d hfront hbehind hitems hcs =>
      simp only [List.length_append, List.length_cons, List.length_nil] at hdepth
      have hlist : inside? '[' ']' ('\x7b' :: (b ++ (cs ++ d)) ++ ['\x7d']) = none := rfl
      rw [readArgument, hlist, inside?_bracket]
      simp only [hinside hfront hbehind hitems hcs hb (by simp; omega)]
      rfl

theorem readWithin_spaced (h : SpacedAll as ps) (hcs : Separated ps cs) (hb : BoundedAll as)
    (hdepth : cs.length ≤ depth) : readWithin depth cs = .ok as := by
  apply readWithin_separated h hcs
  intro a ha p hp hspaced
  exact readArgument_spaced hspaced (Argument.boundedAll_iff.1 hb a ha)
    ((hcs.length_le p hp).trans hdepth)

/-- Arguments are read back from every text of them, whatever lists and positions are nested in them
and whatever blanks are put around their commas and inside their brackets. -/
theorem readArguments_spaced (hb : BoundedAll as) :
    (∃ ps cs, SpacedAll as ps ∧ Separated ps cs) ∧
      ∀ ps cs, SpacedAll as ps → Separated ps cs → readArguments cs = .ok as := by
  constructor
  · obtain ⟨ps, h⟩ := Argument.exists_spacedAll as
    obtain ⟨cs, hcs⟩ := exists_separated ps
    exact ⟨ps, cs, h, hcs⟩
  · intro ps cs h hcs
    exact readWithin_spaced h hcs hb (Nat.le_succ _)

def roomy : List Argument :=
  [.list [.position [.number (.ofInt 1), .number (.infinite true)], .list []], .text 3]

def roomyTexts : List (List Char) :=
  ["[ \x7b#1 ,\t#-inf\x7d,[\n] ]".toList, "t3".toList]

def roomyText : List Char := "[ \x7b#1 ,\t#-inf\x7d,[\n] ] , t3".toList

theorem spacedAll_roomy : SpacedAll roomy roomyTexts := by
  have hparts : SpacedAll [.number (.ofInt 1), .number (.infinite true)]
      ["#1".toList, "#-inf".toList] := .cons (.integer 1) (.cons (.number (.infinite true)) .nil)
  have hposition : Spaced (.position [.number (.ofInt 1), .number (.infinite true)])
      "\x7b#1 ,\t#-inf\x7d".toList :=
    .position (b := []) (d := []) rfl rfl hparts (.cons (b := [' ']) (d := ['\t']) rfl rfl (.one _))
  have hempty : Spaced (.list []) "[\n]".toList := .list (b := ['\n']) (d := []) rfl rfl .nil .none
  exact .cons
    (.list (b := [' ']) (d := [' ']) rfl rfl (.cons hposition (.cons hempty .nil))
      (.cons (b := []) (d := []) rfl rfl (.one _)))
    (.cons (.text 3) .nil)

theorem readArguments_spaced_roomy :
    BoundedAll roomy ∧ SpacedAll roomy roomyTexts ∧ Separated roomyTexts roomyText ∧
      readArguments roomyText = .ok roomy := by
  have hb : BoundedAll roomy := by
    simp [roomy, Argument.BoundedAll, Argument.Bounded, referenceBound]
  have hcs : Separated roomyTexts roomyText := .cons (b := [' ']) (d := [' ']) rfl rfl (.one _)
  exact ⟨hb, spacedAll_roomy, hcs, (readArguments_spaced hb).2 _ _ spacedAll_roomy hcs⟩

end Stagecraft.Trace
