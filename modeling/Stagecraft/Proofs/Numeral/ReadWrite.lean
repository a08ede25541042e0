import Stagecraft.Binary64.Numeral
import Stagecraft.Proofs.Binary64.Shortest

namespace Stagecraft.Numeral

open Binary64 (ofInt ofDecimal)

theorem digits_ne_nil (n : ℕ) : digits n ≠ [] := Nat.toDigits_ne_nil

theorem isDigit_of_mem_digits {n : ℕ} {c : Char} (h : c ∈ digits n) : c.isDigit :=
  Nat.isDigit_of_mem_toDigits (by decide) (by decide) h

@[simp] theorem valueOf_digits (n : ℕ) : valueOf (digits n) = n := Nat.ofDigitChars_ten_toDigits

theorem valueOf_append (cs ds : List Char) :
    valueOf (cs ++ ds) = 10 ^ ds.length * valueOf cs + valueOf ds := by
  rw [valueOf, Nat.ofDigitChars_append, Nat.ofDigitChars_eq_ofDigitChars_zero]
  rfl

@[simp] theorem valueOf_zeros (k : ℕ) : valueOf (List.replicate k '0') = 0 := by
  simp [valueOf, Nat.ofDigitChars_replicate_zero]

theorem digits_eq_cons (n : ℕ) : ∃ c cs, digits n = c :: cs ∧ c.isDigit := by
  obtain ⟨c, cs, h⟩ := List.exists_cons_of_ne_nil (digits_ne_nil n)
  exact ⟨c, cs, h, isDigit_of_mem_digits (h ▸ List.mem_cons_self)⟩

@[simp] theorem natural?_digits (n : ℕ) : natural? (digits n) = some n := by
  have h : (digits n).all Char.isDigit :=
    List.all_eq_true.2 fun _ hc ↦ isDigit_of_mem_digits hc
  rw [natural?, if_pos ⟨digits_ne_nil n, h⟩, valueOf_digits]

theorem digits_injective : Function.Injective digits :=
  Function.LeftInverse.injective valueOf_digits

theorem ne_of_isDigit {c : Char} (h : c.isDigit) {x : Char} (hx : x.isDigit = false) : c ≠ x := by
  rintro rfl
  simp [h] at hx

theorem toLower_of_isDigit {c : Char} (hc : c.isDigit) : c.toLower = c := by
  have h9 : c.toNat ≤ 57 := (Char.isDigit_iff_toNat.1 hc).2
  refine dif_neg fun h ↦ ?_
  have hA : 65 ≤ c.toNat := h.1
  omega

theorem exponent?_plain (n : ℕ) : exponent? ('e' :: digits n) = some (n : ℤ) := by
  obtain ⟨c, cs, h, hc⟩ := digits_eq_cons n
  have hp : c ≠ '+' := ne_of_isDigit hc (by decide)
  have hm : c ≠ '-' := ne_of_isDigit hc (by decide)
  have hn := natural?_digits n
  rw [h] at hn ⊢
  simp [exponent?, hn, hp, hm]

theorem exponent?_plus (n : ℕ) : exponent? ('e' :: '+' :: digits n) = some (n : ℤ) := by
  simp [exponent?]

theorem exponent?_minus (n : ℕ) : exponent? ('e' :: '-' :: digits n) = some (-(n : ℤ)) := by
  simp [exponent?]

theorem exponent?_integer (e : ℤ) (plus : Bool) :
    exponent? ('e' :: (if plus && 0 ≤ e then ['+'] else []) ++ integer e) = some e := by
  rcases lt_or_ge e 0 with h | h
  · have hn : ¬ 0 ≤ e := by omega
    have := exponent?_minus e.natAbs
    simp only [integer, if_pos h, hn, decide_false, Bool.and_false, Bool.false_eq_true, if_false,
      List.cons_append, List.nil_append, this]
    congr 1
    omega
  · have hi : integer e = digits e.natAbs := by rw [integer, if_neg (by omega)]
    have he : (e.natAbs : ℤ) = e := by omega
    rw [hi]
    cases plus with
    | false => simpa [he] using exponent?_plain e.natAbs
    | true => simpa [he, h] using exponent?_plus e.natAbs

/-- Integers are written like exponents, which are read exactly. -/
theorem integer_injective : Function.Injective integer := by
  have hread (e : ℤ) : exponent? ('e' :: integer e) = some e := by
    simpa using exponent?_integer e false
  intro m n h
  have hm := hread m
  rw [h, hread n] at hm
  exact (Option.some.inj hm).symm

def point : List Char → List Char
  | [] => []
  | f => '.' :: f

theorem decimal?_parts {w f t : List Char} {e : ℤ} (hne : w ≠ []) (hw : ∀ c ∈ w, c.isDigit)
    (hf : ∀ c ∈ f, c.isDigit) (ht : ∀ c ∈ t.head?, c = 'e') (he : exponent? t = some e) :
    decimal? (w ++ point f ++ t) = some ⟨valueOf (w ++ f), e - f.length⟩ := by
  have htail : t.takeWhile Char.isDigit = [] ∧ t.dropWhile Char.isDigit = t := by
    cases t with
    | nil => simp
    | cons c cs =>
      have hc : c = 'e' := ht c rfl
      simp [hc]
  cases f with
  | nil =>
    have hpoint : ∀ more, t ≠ '.' :: more := by
      rintro more rfl
      exact absurd (ht '.' rfl) (by decide)
    simp only [decimal?, point, List.append_nil, List.takeWhile_append_of_pos hw,
      List.dropWhile_append_of_pos hw, htail]
    simp [hne, he]
  | cons d f =>
    have hdot : Char.isDigit '.' = false := by decide
    simp only [decimal?, point, List.append_assoc, List.takeWhile_append_of_pos hw,
      List.dropWhile_append_of_pos hw, List.cons_append, List.takeWhile_cons,
      List.dropWhile_cons, hdot]
    have h1 : (d :: (f ++ t)).takeWhile Char.isDigit = d :: f ++ t.takeWhile Char.isDigit :=
      List.takeWhile_append_of_pos hf
    have h2 : (d :: (f ++ t)).dropWhile Char.isDigit = t.dropWhile Char.isDigit :=
      List.dropWhile_append_of_pos hf
    simp [h1, h2, htail, he, hne]

/-- A text of digits, a point with digits behind it, and an exponent, the last two not always there,
that stands for a number. -/
inductive Spells (v : ℚ) : List Char → Prop
  | mk {w f t : List Char} {e : ℤ} (hne : w ≠ []) (hw : ∀ c ∈ w, c.isDigit)
      (hf : ∀ c ∈ f, c.isDigit) (ht : ∀ c ∈ t.head?, c = 'e') (he : exponent? t = some e)
      (hv : (⟨valueOf (w ++ f), e - f.length⟩ : Decimal).value = v) :
      Spells v (w ++ point f ++ t)

theorem Spells.decimal? {v : ℚ} {cs : List Char} (h : Spells v cs) :
    ∃ d, decimal? cs = some d ∧ d.value = v := by
  obtain ⟨hne, hw, hf, ht, he, hv⟩ := h
  exact ⟨_, decimal?_parts hne hw hf ht he, hv⟩

theorem Spells.head_digit {v : ℚ} {cs : List Char} (h : Spells v cs) :
    ∃ c rest, cs = c :: rest ∧ c.isDigit := by
  obtain ⟨hne, hw, -, -, -, -⟩ := h
  rename_i w f t e
  obtain ⟨c, w, rfl⟩ := List.exists_cons_of_ne_nil hne
  exact ⟨c, w ++ point f ++ t, rfl, hw c List.mem_cons_self⟩

section Layout

variable (n k : ℕ)

theorem isDigit_of_mem_zeros {c : Char} (h : c ∈ List.replicate k '0') : c.isDigit := by
  rw [List.eq_of_mem_replicate h]
  decide

theorem length_digits_pos : 0 < (digits n).length := List.length_pos_of_ne_nil (digits_ne_nil n)

theorem spells_whole (f : List Char) (hf : f = [] ∨ f = ['0']) :
    Spells (n * 10 ^ k) (digits n ++ List.replicate k '0' ++ point f) := by
  have hw : ∀ c ∈ digits n ++ List.replicate k '0', c.isDigit := fun c h ↦
    (List.mem_append.1 h).elim isDigit_of_mem_digits (isDigit_of_mem_zeros k)
  have hne : digits n ++ List.replicate k '0' ≠ [] := by simp [digits_ne_nil]
  have h0 : valueOf ['0'] = 0 := valueOf_zeros 1
  rw [← List.append_nil (_ ++ point f)]
  refine .mk (e := 0) hne hw ?_ (by simp) rfl ?_
  · rcases hf with rfl | rfl <;> simp
  · rcases hf with rfl | rfl
    · simp [Decimal.value, valueOf_append]
      ring
    · simp [Decimal.value, valueOf_append, h0]
      ring

theorem spells_split (hk : 0 < k) (hn : k < (digits n).length) :
    Spells (n * 10 ^ (k - (digits n).length : ℤ)) ((digits n).take k ++ '.' :: (digits n).drop k) := by
  have hp : point ((digits n).drop k) = '.' :: (digits n).drop k := by
    obtain ⟨c, cs, h⟩ := List.exists_cons_of_ne_nil (l := (digits n).drop k) (by simpa using hn)
    rw [h, point]
    simp
  rw [← hp, ← List.append_nil (_ ++ point _)]
  refine .mk (e := 0) ?_ (fun c h ↦ isDigit_of_mem_digits (List.mem_of_mem_take h))
    (fun c h ↦ isDigit_of_mem_digits (List.mem_of_mem_drop h)) (by simp) rfl ?_
  · simpa using ⟨by omega, digits_ne_nil n⟩
  · simp only [List.take_append_drop, Decimal.value, valueOf_digits, List.length_drop]
    congr 2
    omega

theorem spells_fraction :
    Spells (n * 10 ^ (-(k + (digits n).length) : ℤ))
      ('0' :: '.' :: List.replicate k '0' ++ digits n) := by
  have hp : point (List.replicate k '0' ++ digits n) = '.' :: (List.replicate k '0' ++ digits n) := by
    obtain ⟨c, cs, h⟩ := List.exists_cons_of_ne_nil (l := List.replicate k '0' ++ digits n)
      (by simp [digits_ne_nil])
    rw [h, point]
    simp
  have h := Spells.mk (v := n * 10 ^ (-(k + (digits n).length) : ℤ)) (w := ['0']) (t := [])
    (e := 0) (by simp) (by simp) (fun c h ↦ (List.mem_append.1 h).elim (isDigit_of_mem_zeros k)
      (isDigit_of_mem_digits (n := n))) (by simp) rfl
    (by
      have h0 (cs : List Char) : valueOf ('0' :: cs) = valueOf cs := by
        rw [← List.singleton_append, valueOf_append, show valueOf ['0'] = 0 from valueOf_zeros 1]
        simp
      simp only [List.singleton_append, h0, valueOf_append, valueOf_zeros, valueOf_digits,
        Decimal.value, List.length_append, List.length_replicate]
      simp)
  simpa [hp] using h

theorem spells_scientific (x : ℤ) (plus : Bool) :
    Spells (n * 10 ^ (x - ((digits n).length - 1)))
      ((digits n).take 1 ++ (if (digits n).length = 1 then [] else '.' :: (digits n).drop 1) ++
        'e' :: (if plus && 0 ≤ x then ['+'] else []) ++ integer x) := by
  have hp : point ((digits n).drop 1) =
      if (digits n).length = 1 then [] else '.' :: (digits n).drop 1 := by
    obtain ⟨c, cs, h, -⟩ := digits_eq_cons n
    cases cs <;> simp [h, point]
  have hlen := length_digits_pos n
  rw [← hp, List.append_assoc _ ('e' :: _)]
  refine .mk ?_ (fun c h ↦ isDigit_of_mem_digits (List.mem_of_mem_take h))
    (fun c h ↦ isDigit_of_mem_digits (List.mem_of_mem_drop h)) (by simp) (exponent?_integer x plus) ?_
  · simpa using digits_ne_nil n
  · simp only [List.take_append_drop, Decimal.value, valueOf_digits, List.length_drop]
    congr 2
    omega

end Layout

theorem layout_spells (style : Numeral) (d : Decimal) : Spells d.value (style.layout d) := by
  rcases d with ⟨n, x⟩
  have hlen := length_digits_pos n
  simp only [layout, Decimal.value]
  split
  · split
    · next h =>
      obtain ⟨k, rfl⟩ := Int.eq_ofNat_of_zero_le h
      cases style.pointZero with
      | true => simpa [point] using spells_whole n k ['0'] (.inr rfl)
      | false => simpa [point] using spells_whole n k [] (.inl rfl)
    · split
      · next h h' =>
        have hs := spells_split n ((x + (digits n).length - 1).toNat + 1) (by omega) (by omega)
        convert hs using 3
        omega
      · next h h' =>
        have hs := spells_fraction n (-(x + (digits n).length - 1) - 1).toNat
        convert hs using 3
        omega
  · have hs := spells_scientific n (x + (digits n).length - 1) style.exponentPlus
    convert hs using 3
    omega

theorem unsigned?_of_digit (s : Bool) {c : Char} {cs : List Char} (hc : c.isDigit) :
    unsigned? s (c :: cs) = (decimal? (c :: cs)).map (ofDecimal s) := by
  have hi : c ≠ 'i' := ne_of_isDigit hc (by decide)
  have hn : c ≠ 'n' := ne_of_isDigit hc (by decide)
  simp [unsigned?, toLower_of_isDigit hc, hi, hn]

theorem read?_of_digit {c : Char} {cs : List Char} (hc : c.isDigit) :
    read? (c :: cs) = unsigned? false (c :: cs) := by
  have hp : c ≠ '+' := ne_of_isDigit hc (by decide)
  have hm : c ≠ '-' := ne_of_isDigit hc (by decide)
  simp [read?, hp, hm]

theorem read?_signed {cs : List Char} {x : Bool → Binary64}
    (hcs : ∃ c rest, cs = c :: rest ∧ c.isDigit)
    (h : ∀ s, (decimal? cs).map (ofDecimal s) = some (x s)) (s : Bool) :
    read? ((if s then ['-'] else []) ++ cs) = some (x s) := by
  obtain ⟨c, rest, rfl, hc⟩ := hcs
  cases s with
  | true => simpa [read?, unsigned?_of_digit _ hc] using h true
  | false => simpa [read?_of_digit hc, unsigned?_of_digit _ hc] using h false

theorem read?_finite (style : Numeral) (s : Bool) (r : Fin Binary64.rankBound) :
    read? (style.write (.finite s r)) = some (.finite s r) := by
  rw [write]
  generalize hd : (if r.val = 0 then (⟨0, 0⟩ : Decimal) else (Binary64.shortest style.tie r).strip) = d
  have hr : ofDecimal false d = .finite false r := by
    subst hd
    split
    · next h =>
      have hz : r = ⟨0, by decide⟩ := Fin.ext h
      rw [hz]
      decide
    · exact Binary64.strip_shortest_reads style.tie r
  refine read?_signed (layout_spells style d).head_digit (x := fun s ↦ .finite s r) (fun s ↦ ?_) s
  obtain ⟨d', h, hv⟩ := (layout_spells style d).decimal?
  rw [h, Option.map_some, Binary64.ofDecimal_congr s hv, Binary64.ofDecimal_sign hr]

/-- Every number is read back from every way of writing it. -/
theorem read?_write (style : Numeral) (x : Binary64) : read? (style.write x) = some x := by
  cases x with
  | nan => rfl
  | infinite s => cases s <;> rfl
  | finite s r => exact read?_finite style s r

/-- A written integer is read as the number nearest to it. -/
theorem read?_integer (n : ℤ) : read? (integer n) = some (ofInt n) := by
  have hd : decimal? (digits n.natAbs) = some ⟨n.natAbs, 0⟩ := by
    simpa [point] using decimal?_parts (f := []) (t := []) (digits_ne_nil n.natAbs)
      (fun _ ↦ isDigit_of_mem_digits) (by simp) (by simp) rfl
  have h (s : Bool) : (decimal? (digits n.natAbs)).map (ofDecimal s) =
      some (Binary64.round s (n.natAbs * Binary64.unit) 1) := by
    rw [hd, Option.map_some, Binary64.ofDecimal_eq_round]
    simp
  have hr := read?_signed (digits_eq_cons n.natAbs) h (decide (n < 0))
  by_cases hn : n < 0 <;> simpa [integer, ofInt, hn] using hr

end Stagecraft.Numeral
