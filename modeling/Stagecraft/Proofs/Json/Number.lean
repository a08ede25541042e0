import Stagecraft.Json.Decode
import Stagecraft.Proofs.Numeral.ReadWrite
import Stagecraft.Proofs.Text.Lines

namespace Stagecraft

theorem Numeral.head?_digits {n : ℕ} (hn : 0 < n) : (digits n).head? ≠ some '0' := by
  induction n using Nat.strong_induction_on with
  | _ n ih =>
    rcases lt_or_ge n 10 with h | h
    · rw [digits, Nat.toDigits_of_lt_base h]
      simpa using hn.ne'
    · rw [digits, Nat.toDigits_of_base_le (by decide) h,
        List.head?_append_of_ne_nil _ Nat.toDigits_ne_nil]
      exact ih (n / 10) (by omega) (by omega)

theorem Numeral.leading_digits (n : ℕ) (h : 1 < (digits n).length) :
    (digits n).head? ≠ some '0' := by
  rcases Nat.eq_zero_or_pos n with rfl | hn
  · exact absurd h (by decide)
  · exact head?_digits hn

namespace Json

open Numeral (digits digits_ne_nil isDigit_of_mem_digits leading_digits)
open Text (takeWhile_append_of_stop dropWhile_append_of_stop)

def exponentText : Option (Bool × List Char) → List Char
  | none => []
  | some (negative, ds) => 'e' :: (if negative then '-' else '+') :: ds

def NumberText.unsigned (t : NumberText) : List Char :=
  t.whole ++ ((if t.hasPoint then '.' :: t.fraction else []) ++ exponentText t.exponent)

def NumberText.spelling (t : NumberText) : List Char :=
  (if t.negative then ['-'] else []) ++ t.unsigned

structure NumberText.Proper (t : NumberText) : Prop where
  whole : ∀ c ∈ t.whole, c.isDigit
  whole_ne_nil : t.whole ≠ []
  leading : 1 < t.whole.length → t.whole.head? ≠ some '0'
  fraction : ∀ c ∈ t.fraction, c.isDigit
  point : t.hasPoint ↔ t.fraction ≠ []
  exponent : ∀ e ∈ t.exponent, (∀ c ∈ e.2, c.isDigit) ∧ e.2 ≠ []

def Ends (rest : List Char) : Prop :=
  ∀ c ∈ rest.head?, c.isDigit = false ∧ c ≠ '.' ∧ c ≠ 'e' ∧ c ≠ 'E'

variable {rest : List Char} {t : NumberText}

theorem Ends.nil : Ends [] := nofun

theorem scanExponent_text {e : Option (Bool × List Char)} (hrest : Ends rest)
    (he : ∀ x ∈ e, (∀ c ∈ x.2, c.isDigit) ∧ x.2 ≠ []) :
    scanExponent (exponentText e ++ rest) = .ok (e, rest) := by
  cases e with
  | none =>
    cases rest with
    | nil => rfl
    | cons c cs =>
      have hc := hrest c rfl
      exact if_neg (not_or.2 hc.2.2)
  | some x =>
    obtain ⟨hds, hne⟩ := he x rfl
    obtain ⟨negative, ds⟩ := x
    have hstop : ∀ c ∈ rest.head?, c.isDigit = false := fun c hc ↦ (hrest c hc).1
    have hscan : scanExponentDigits negative (ds ++ rest) = .ok (some (negative, ds), rest) := by
      rw [scanExponentDigits, takeWhile_append_of_stop hds hstop, dropWhile_append_of_stop hds hstop]
      exact if_neg hne
    cases negative <;> exact hscan

theorem head?_exponentText_append {e : Option (Bool × List Char)} (hrest : Ends rest) :
    ∀ c ∈ (exponentText e ++ rest).head?, c.isDigit = false ∧ c ≠ '.' := by
  cases e with
  | none => exact fun c hc ↦ ⟨(hrest c hc).1, (hrest c hc).2.1⟩
  | some x =>
    intro c hc
    cases hc
    decide

theorem scanUnsigned_spelling (ht : t.Proper) (hrest : Ends rest) :
    scanUnsigned t.negative (t.unsigned ++ rest) = .ok (t, rest) := by
  have hexponent := scanExponent_text hrest ht.exponent
  have hhead := head?_exponentText_append (e := t.exponent) hrest
  have hwhole : ¬(t.whole = [] ∨ 1 < t.whole.length ∧ t.whole.head? = some '0') :=
    not_or.2 ⟨ht.whole_ne_nil, fun h ↦ ht.leading h.1 h.2⟩
  obtain ⟨negative, whole, fraction, e, hasPoint⟩ := t
  dsimp only [NumberText.unsigned] at hexponent hhead hwhole ⊢
  rw [List.append_assoc, List.append_assoc]
  cases hasPoint with
  | true =>
    have hfraction : fraction ≠ [] := ht.point.1 rfl
    have hdot : ∀ c ∈ ('.' :: (fraction ++ (exponentText e ++ rest))).head?, c.isDigit = false := by
      rintro c ⟨⟩
      decide
    simp only [if_true, List.cons_append, scanUnsigned, takeWhile_append_of_stop ht.whole hdot,
      dropWhile_append_of_stop ht.whole hdot, hwhole, if_false, hfraction,
      takeWhile_append_of_stop ht.fraction (fun c hc ↦ (hhead c hc).1),
      dropWhile_append_of_stop ht.fraction (fun c hc ↦ (hhead c hc).1), hexponent]
    rfl
  | false =>
    have hfraction : fraction = [] := by
      by_contra h
      exact Bool.false_ne_true (ht.point.2 h)
    subst hfraction
    simp only [Bool.false_eq_true, if_false, List.nil_append, scanUnsigned, hwhole,
      takeWhile_append_of_stop ht.whole (fun c hc ↦ (hhead c hc).1),
      dropWhile_append_of_stop ht.whole (fun c hc ↦ (hhead c hc).1)]
    split
    · next more hmore =>
      exact absurd rfl (hhead '.' (by rw [hmore]; rfl)).2
    · rw [hexponent]
      rfl

theorem scanNumber_spelling (ht : t.Proper) (hrest : Ends rest) :
    scanNumber (t.spelling ++ rest) = .ok (t, rest) := by
  have hscan := scanUnsigned_spelling ht hrest
  obtain ⟨c, cs, hwhole⟩ := List.exists_cons_of_ne_nil ht.whole_ne_nil
  have hc : c ≠ '-' := Numeral.ne_of_isDigit (ht.whole c (hwhole ▸ List.mem_cons_self)) (by decide)
  rw [NumberText.spelling]
  cases hn : t.negative with
  | true =>
    rw [hn] at hscan
    exact hscan
  | false =>
    rw [hn] at hscan
    refine Eq.trans (scanNumber.eq_2 _ fun _ h ↦ hc ?_) hscan
    rw [NumberText.unsigned, hwhole] at h
    exact (List.cons.inj h).1

def NumberText.draft (t : NumberText) : Draft :=
  match t.value? with
  | some (.integer n) => .integer n
  | some (.decimal x) => .decimal x
  | _ => .unreadable .null

theorem draftNumber_spelling (ht : t.Proper) (hrest : Ends rest) :
    draftNumber (t.spelling ++ rest) = (t.draft, some rest) := by
  rw [draftNumber, scanNumber_spelling ht hrest, NumberText.draft]
  dsimp only
  rcases t.value? with _ | j
  · rfl
  · cases j <;> rfl

theorem gather_eq {ds : List Char} {n : ℕ} (h : Nat.ofDigitChars 10 ds n < significandBound) :
    gather n ds = (Nat.ofDigitChars 10 ds n, []) := by
  induction ds generalizing n with
  | nil => rfl
  | cons c ds ih =>
    have hstep : Nat.ofDigitChars 10 (c :: ds) n = Nat.ofDigitChars 10 ds (n * 10 + digitValue c) := by
      rw [Nat.ofDigitChars_cons, Nat.mul_comm 10 n]
      rfl
    rw [hstep] at h ⊢
    have hle : n * 10 + digitValue c ≤ Nat.ofDigitChars 10 ds (n * 10 + digitValue c) := by
      rw [Nat.ofDigitChars_eq_ofDigitChars_zero]
      exact Nat.le_trans (Nat.le_mul_of_pos_left _ (by positivity)) (Nat.le_add_right _ _)
    rw [gather]
    simp only [lt_of_le_of_lt hle h, if_true, ih h]

def NumberText.ofInt (n : ℤ) : NumberText := ⟨decide (n < 0), digits n.natAbs, [], none, false⟩

theorem spelling_ofInt (n : ℤ) : (NumberText.ofInt n).spelling = Numeral.integer n := by
  rw [Numeral.integer]
  split
  · next h => simp [NumberText.spelling, NumberText.unsigned, NumberText.ofInt, exponentText, h]
  · next h => simp [NumberText.spelling, NumberText.unsigned, NumberText.ofInt, exponentText, h]

theorem proper_ofInt (n : ℤ) : (NumberText.ofInt n).Proper where
  whole _ := isDigit_of_mem_digits
  whole_ne_nil := digits_ne_nil _
  leading := leading_digits _
  fraction := nofun
  point := by simp [NumberText.ofInt]
  exponent := nofun

theorem value?_ofInt {n : ℤ} (hlo : Binary64.minId ≤ n) (hhi : n ≤ Binary64.maxId) :
    (NumberText.ofInt n).value? = some (.integer n) := by
  have hsize : n.natAbs ≤ Nat.pow 2 63 := by
    have h : Nat.pow 2 63 = 9223372036854775808 := rfl
    simp only [Binary64.minId, Binary64.maxId] at hlo hhi
    omega
  have hbound : n.natAbs < significandBound := hsize.trans_lt (by decide)
  have hgather : gather 0 (digits n.natAbs) = (n.natAbs, []) := by
    have hvalue : Nat.ofDigitChars 10 (digits n.natAbs) 0 = n.natAbs := Numeral.valueOf_digits _
    rw [gather_eq (by rwa [hvalue]), hvalue]
  simp only [NumberText.value?, NumberText.ofInt, hgather]
  by_cases h : n < 0
  · have hpos : 0 < n.natAbs := by omega
    simp only [h, decide_true, not_true, if_false, Bool.false_eq_true, not_false_eq_true,
      Option.isNone_none, and_self, if_true, hpos, hsize, Int.natCast_natAbs, abs_of_neg, neg_neg]
  · simp [h]
    omega

theorem draftNumber_integer (n : ℤ) (hrest : Ends rest) :
    draftNumber (Numeral.integer n ++ rest) = ((NumberText.ofInt n).draft, some rest) :=
  spelling_ofInt n ▸ draftNumber_spelling (proper_ofInt n) hrest

/-- An integer of 64 bits is scanned as itself. -/
theorem draft_ofInt {n : ℤ} (hlo : Binary64.minId ≤ n) (hhi : n ≤ Binary64.maxId) :
    (NumberText.ofInt n).draft = .integer n := by
  rw [NumberText.draft, value?_ofInt hlo hhi]

def NumberText.IsDecimal (t : NumberText) : Prop := t.hasPoint ∨ t.exponent.isSome

def LaidOut (negative : Bool) (cs : List Char) : Prop :=
  ∃ t : NumberText, t.Proper ∧ t.IsDecimal ∧ t.negative = negative ∧ t.unsigned = cs

section LaidOut

variable {negative : Bool} {w f : List Char}

theorem LaidOut.pointed (hw : ∀ c ∈ w, c.isDigit) (hne : w ≠ [])
    (hlead : 1 < w.length → w.head? ≠ some '0') (hf : ∀ c ∈ f, c.isDigit) (hfne : f ≠ []) :
    LaidOut negative (w ++ '.' :: f) :=
  ⟨⟨negative, w, f, none, true⟩, ⟨hw, hne, hlead, hf, by simpa using hfne, nofun⟩, .inl rfl, rfl,
    by simp [NumberText.unsigned, exponentText]⟩

theorem LaidOut.scientific (n : ℕ) (e : ℤ) :
    LaidOut negative ((digits n).take 1 ++
      (if (digits n).length = 1 then [] else '.' :: (digits n).drop 1) ++
      'e' :: (if true && 0 ≤ e then ['+'] else []) ++ Numeral.integer e) := by
  refine ⟨⟨negative, (digits n).take 1, (digits n).drop 1, some (decide (e < 0), digits e.natAbs),
    decide ((digits n).length ≠ 1)⟩, ⟨?_, ?_, ?_, ?_, ?_, ?_⟩, .inr rfl, rfl, ?_⟩
  · exact fun c hc ↦ isDigit_of_mem_digits (List.mem_of_mem_take hc)
  · simpa using digits_ne_nil n
  · intro h
    exact absurd h (by simp)
  · exact fun c hc ↦ isDigit_of_mem_digits (List.mem_of_mem_drop hc)
  · have := Numeral.length_digits_pos n
    simp only [decide_eq_true_eq, ne_eq, List.drop_eq_nil_iff]
    omega
  · rintro x ⟨⟩
    exact ⟨fun c ↦ isDigit_of_mem_digits, digits_ne_nil _⟩
  · rcases lt_or_ge e 0 with h | h
    · simp [NumberText.unsigned, exponentText, Numeral.integer, h, not_le.2 h]
    · simp [NumberText.unsigned, exponentText, Numeral.integer, h, not_lt.2 h]

end LaidOut

/-- A decimal is laid out as a number text that is no integer. -/
theorem laidOut_layout (negative : Bool) {d : Decimal} (hd : d.digits = 0 → d.exponent = 0) :
    LaidOut negative (Numeral.json.layout d) := by
  obtain ⟨n, x⟩ := d
  replace hd : n = 0 → x = 0 := hd
  simp only [Numeral.layout]
  split
  · split
    · -- All digits stand before the point, and zeros behind them.
      next hx =>
      refine .pointed (f := ['0']) ?_ ?_ ?_ (by simp) (by simp)
      · exact fun c hc ↦ (List.mem_append.1 hc).elim isDigit_of_mem_digits
          (Numeral.isDigit_of_mem_zeros _)
      · simp [digits_ne_nil]
      · intro h
        rw [List.head?_append_of_ne_nil _ (digits_ne_nil n)]
        rcases Nat.eq_zero_or_pos n with rfl | hn
        · rw [hd rfl] at h
          exact absurd h (by decide)
        · exact Numeral.head?_digits hn
    · split
      · -- The point divides the digits.
        next hx he =>
        refine .pointed (fun c hc ↦ isDigit_of_mem_digits (List.mem_of_mem_take hc)) ?_ ?_
          (fun c hc ↦ isDigit_of_mem_digits (List.mem_of_mem_drop hc)) ?_
        · simp [digits_ne_nil]
        · intro h
          rw [List.length_take] at h
          rw [List.head?_take, if_neg (by omega)]
          exact leading_digits n (by omega)
        · simp
          omega
      · -- Zeros stand between the point and the digits.
        have hf : ∀ c ∈ List.replicate (-(x + (digits n).length - 1) - 1).toNat '0' ++ digits n,
            c.isDigit :=
          fun c hc ↦ (List.mem_append.1 hc).elim (Numeral.isDigit_of_mem_zeros _) isDigit_of_mem_digits
        exact LaidOut.pointed (w := ['0']) (by simp) (by simp) (by simp) hf (by simp [digits_ne_nil])
  · exact LaidOut.scientific n _

/-- A finite number is written as a number text that is no integer. -/
theorem exists_spelling {x : Binary64} (hx : x.isFinite) :
    ∃ t : NumberText, t.Proper ∧ t.IsDecimal ∧ t.spelling = Numeral.json.write x := by
  cases x with
  | nan => exact absurd hx (by decide)
  | infinite s => exact absurd hx (by simp [Binary64.isFinite])
  | finite s r =>
    rw [Numeral.write]
    generalize hd : (if r.val = 0 then (⟨0, 0⟩ : Decimal) else
      (Binary64.shortest Numeral.json.tie r).strip) = d
    have hzero : d.digits = 0 → d.exponent = 0 := by
      intro hdigits
      split at hd
      · exact hd ▸ rfl
      · next hr =>
        have hreads := Binary64.strip_shortest_reads Numeral.json.tie r
        rw [hd, Binary64.ofDecimal, if_pos hdigits] at hreads
        have hrank : (⟨0, by decide⟩ : Fin Binary64.rankBound) = r := (Binary64.finite.inj hreads).2
        exact absurd (congrArg Fin.val hrank.symm) hr
    obtain ⟨t, ht, hdec, hneg, hcs⟩ := laidOut_layout s hzero
    exact ⟨t, ht, hdec, by rw [NumberText.spelling, hneg, hcs]⟩

theorem NumberText.IsDecimal.value? (h : t.IsDecimal) :
    t.value? = none ∨ ∃ x, t.value? = some (.decimal x) := by
  have hint : ∀ left : List Char, ¬(left = [] ∧ ¬t.hasPoint ∧ t.exponent.isNone) := by
    rintro left ⟨-, hpoint, hexponent⟩
    rcases h with h | h
    · exact hpoint h
    · rw [Option.isNone_iff_eq_none] at hexponent
      exact absurd h (by simp [hexponent])
  simp only [NumberText.value?, hint, if_false]
  generalize scaleBy _ _ _ = y
  cases y with
  | none => exact .inl rfl
  | some y => exact .inr ⟨_, rfl⟩

def Draft.ofNumber (x : Binary64) : Draft := (draftNumber (Numeral.json.write x)).1

theorem exists_ofNumber {x : Binary64} (hx : x.isFinite) :
    ∃ t : NumberText, t.Proper ∧ t.IsDecimal ∧ t.spelling = Numeral.json.write x ∧
      Draft.ofNumber x = t.draft := by
  obtain ⟨t, ht, hdec, hwrite⟩ := exists_spelling hx
  have hself := draftNumber_spelling ht Ends.nil
  rw [List.append_nil, hwrite] at hself
  exact ⟨t, ht, hdec, hwrite, congrArg Prod.fst hself⟩

theorem draftNumber_write {x : Binary64} (hx : x.isFinite) (hrest : Ends rest) :
    draftNumber (Numeral.json.write x ++ rest) = (Draft.ofNumber x, some rest) := by
  obtain ⟨t, ht, -, hwrite, hdraft⟩ := exists_ofNumber hx
  rw [hdraft, ← hwrite, draftNumber_spelling ht hrest]

theorem Draft.ofNumber_cases {x : Binary64} (hx : x.isFinite) :
    (∃ y, Draft.ofNumber x = .decimal y) ∨ Draft.ofNumber x = .unreadable .null := by
  obtain ⟨t, -, hdec, -, hdraft⟩ := exists_ofNumber hx
  rw [hdraft, NumberText.draft]
  rcases hdec.value? with h | ⟨y, h⟩
  · exact .inr (by rw [h])
  · exact .inl ⟨y, by rw [h]⟩

theorem NumberText.Proper.head_spelling (ht : t.Proper) :
    ∃ c cs, t.spelling = c :: cs ∧ (c = '-' ∨ c.isDigit) := by
  obtain ⟨c, cs, hwhole⟩ := List.exists_cons_of_ne_nil ht.whole_ne_nil
  have hc : c.isDigit := ht.whole c (hwhole ▸ List.mem_cons_self)
  rw [NumberText.spelling, NumberText.unsigned, hwhole]
  cases t.negative with
  | true => exact ⟨'-', _, rfl, .inl rfl⟩
  | false => exact ⟨c, _, rfl, .inr hc⟩

end Json

end Stagecraft
