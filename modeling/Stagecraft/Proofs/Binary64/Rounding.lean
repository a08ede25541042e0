import Mathlib.Tactic
import Stagecraft.Binary64.Decimal

namespace Stagecraft

def Decimal.value (d : Decimal) : ℚ := d.digits * 10 ^ d.exponent

theorem Decimal.value_eq_div (d : Decimal) :
    d.value = (d.digits * 10 ^ d.exponent.toNat : ℕ) / (10 ^ (-d.exponent).toNat : ℕ) := by
  rcases d with ⟨n, e⟩
  rcases le_total 0 e with h | h
  · obtain ⟨k, rfl⟩ := Int.eq_ofNat_of_zero_le h
    simp [Decimal.value]
  · obtain ⟨k, rfl⟩ : ∃ k : ℕ, e = -(k : ℤ) := ⟨(-e).toNat, by omega⟩
    simp [Decimal.value, div_eq_mul_inv]

namespace Binary64

variable {num den num' den' k : ℕ}

theorem roundQuotient_scale (hk : 0 < k) :
    roundQuotient (num * k) (den * k) = roundQuotient num den := by
  have hlt : 2 * (num % den * k) < den * k ↔ 2 * (num % den) < den := by
    rw [← mul_assoc]
    exact Nat.mul_lt_mul_right hk
  have heq : 2 * (num % den * k) = den * k ↔ 2 * (num % den) = den := by
    rw [← mul_assoc]
    exact Nat.mul_left_inj (by omega)
  simp only [roundQuotient, Nat.mul_div_mul_right _ _ hk, Nat.mul_mod_mul_right, hlt, heq]

theorem roundQuotient_mul (hd : 0 < den) : roundQuotient (num * den) den = num := by
  simp [roundQuotient, Nat.mul_div_cancel _ hd, hd]

theorem nearestRank_scale (hk : 0 < k) :
    nearestRank (num * k) (den * k) = nearestRank num den := by
  simp only [nearestRank, Nat.mul_div_mul_right _ _ hk, Nat.pow_eq, Nat.mul_right_comm den k,
    roundQuotient_scale hk]

theorem round_scale (s : Bool) (hk : 0 < k) : round s (num * k) (den * k) = round s num den := by
  simp only [round, nearestRank_scale hk]

/-- Rounding depends on a quotient only, not on the fraction it is written as. -/
theorem round_congr (s : Bool) (hd : 0 < den) (hd' : 0 < den')
    (h : num * den' = num' * den) : round s num den = round s num' den' := by
  rw [← round_scale s hd', h, Nat.mul_comm den, round_scale s hd]

theorem round_sign {r : Fin rankBound} (h : round false num den = .finite false r) (s : Bool) :
    round s num den = .finite s r := by
  simp only [round] at h ⊢
  split at h <;> simp_all

theorem grainsOfRank_small {r : ℕ} (h : r < 2 ^ 52) : grainsOfRank r = r := by
  simp only [grainsOfRank, Nat.pow_eq, if_pos h]

/-- The grains of a rank with all 53 digits: the digits behind the first, and how far all are
shifted. -/
theorem grainsOfRank_large {m j : ℕ} (hm : m < 2 ^ 52) :
    grainsOfRank ((j + 1) * 2 ^ 52 + m) = (2 ^ 52 + m) * 2 ^ j := by
  have hge : ¬ (j + 1) * 2 ^ 52 + m < 2 ^ 52 := by omega
  have hmod : ((j + 1) * 2 ^ 52 + m) % 2 ^ 52 = m := by omega
  have hdiv : ((j + 1) * 2 ^ 52 + m) / 2 ^ 52 = j + 1 := by omega
  simp only [grainsOfRank, Nat.pow_eq, if_neg hge, hmod, hdiv, Nat.add_sub_cancel]

theorem rank_cases (r : ℕ) : r < 2 ^ 52 ∨ ∃ j m, m < 2 ^ 52 ∧ r = (j + 1) * 2 ^ 52 + m := by
  rcases Nat.lt_or_ge r (2 ^ 52) with h | h
  · exact .inl h
  · exact .inr ⟨r / 2 ^ 52 - 1, r % 2 ^ 52, by omega, by omega⟩

theorem log2_large {m j : ℕ} (hm : m < 2 ^ 52) : ((2 ^ 52 + m) * 2 ^ j).log2 = 52 + j := by
  rw [Nat.log2_eq_iff (by positivity), Nat.pow_add, Nat.pow_add, Nat.pow_add, pow_one]
  have hj : 0 < 2 ^ j := by positivity
  constructor
  · exact Nat.mul_le_mul_right _ (by omega)
  · rw [Nat.mul_assoc, Nat.mul_comm (2 ^ j), ← Nat.mul_assoc]
    exact Nat.mul_lt_mul_of_pos_right (by omega) hj

theorem nearestRank_grainsOfRank (r : ℕ) : nearestRank (grainsOfRank r) 1 = r := by
  rcases rank_cases r with h | ⟨j, m, hm, rfl⟩
  · have hlog : r.log2 ≤ 52 := by
      by_contra hc
      have hle := Nat.log2_self_le (n := r) (by rintro rfl; simp at hc)
      have hp : 2 ^ 52 ≤ 2 ^ r.log2 := Nat.pow_le_pow_right (by omega) (by omega)
      omega
    have hx : excess r = 0 := by simp only [excess]; omega
    simp [nearestRank, grainsOfRank_small h, hx, roundQuotient, Nat.mod_one]
  · have hx : excess ((2 ^ 52 + m) * 2 ^ j) = j := by simp only [excess, log2_large hm]; omega
    rw [grainsOfRank_large hm]
    simp only [nearestRank, Nat.div_one, hx, Nat.one_mul, Nat.pow_eq,
      roundQuotient_mul (Nat.two_pow_pos j)]
    omega

/-- Every number is rounded to itself. -/
theorem round_grainsOfRank (s : Bool) (r : Fin rankBound) :
    round s (grainsOfRank r) 1 = .finite s r := by
  simp [round, nearestRank_grainsOfRank]

theorem round_eq_infinite (s : Bool) {e : ℕ} (he : 2099 ≤ e) (hd : 0 < den)
    (h : 2 ^ e * den ≤ num) : round s num den = .infinite s := by
  have hq : 2 ^ e ≤ num / den := (Nat.le_div_iff_mul_le hd).2 h
  have hlog : e ≤ (num / den).log2 :=
    (Nat.le_log2 (Nat.ne_of_gt (lt_of_lt_of_le (Nat.two_pow_pos e) hq))).2 hq
  have hr : rankBound ≤ nearestRank num den := by
    simp only [nearestRank, excess, rankBound, Nat.pow_eq]
    omega
  simp only [round, dif_neg (Nat.not_lt.2 hr)]

theorem round_eq_zero (s : Bool) (h : 2 * num < den) : round s num den = round s 0 1 := by
  have hq : num / den = 0 := Nat.div_eq_of_lt (by omega)
  have hm : num % den = num := Nat.mod_eq_of_lt (by omega)
  have hr : nearestRank num den = 0 := by
    simp [nearestRank, excess, hq, roundQuotient, hm, h]
  have hz : nearestRank 0 1 = 0 := by decide
  simp only [round, hr, hz]

/-- How many doublings lead from a grain to one. The number stays behind a variable, so that no step
computes the power. -/
theorem exists_unit_eq : ∃ u, u = 1074 ∧ unit = 2 ^ u := ⟨_, rfl, Nat.pow_eq⟩

theorem unit_pos : 0 < unit := by
  obtain ⟨u, -, hu⟩ := exists_unit_eq
  exact hu ▸ Nat.two_pow_pos u

theorem round_eq_infinite_of_power (s : Bool) {n k : ℕ} (hn : n ≠ 0) (hk : 400 < k) :
    round s (n * 10 ^ k * unit) 1 = .infinite s := by
  obtain ⟨u, hu, hunit⟩ := exists_unit_eq
  have h10 : 2 ^ (3 * k) ≤ 10 ^ k := calc
    2 ^ (3 * k) = (2 ^ 3) ^ k := Nat.pow_mul ..
    _ ≤ 10 ^ k := Nat.pow_le_pow_left (by decide) _
  refine round_eq_infinite s (e := 3 * k + u) (by omega) one_pos ?_
  rw [Nat.mul_one, Nat.pow_add, hunit]
  exact Nat.mul_le_mul_right _ (h10.trans (Nat.le_mul_of_pos_left _ (by omega)))

theorem round_eq_zero_of_power (s : Bool) {n k : ℕ} (hk : 400 + n.log2 < k) :
    round s (n * unit) (10 ^ k) = round s 0 1 := by
  obtain ⟨u, hu, hunit⟩ := exists_unit_eq
  have hlog : n < 2 ^ (n.log2 + 1) := Nat.lt_log2_self
  refine round_eq_zero s ?_
  rw [hunit]
  calc 2 * (n * 2 ^ u) < 2 * (2 ^ (n.log2 + 1) * 2 ^ u) := by
        have hp := Nat.two_pow_pos u
        gcongr
    _ = 2 ^ (1 + (n.log2 + 1) + u) := by
        rw [Nat.pow_add _ (1 + _), Nat.pow_add _ 1, pow_one, mul_assoc]
    _ ≤ 2 ^ (3 * k) := Nat.pow_le_pow_right (by decide) (by omega)
    _ = (2 ^ 3) ^ k := Nat.pow_mul ..
    _ ≤ 10 ^ k := Nat.pow_le_pow_left (by decide) _

/-- The bounds on the exponent in `ofDecimal` change no result. -/
theorem ofDecimal_eq_round (s : Bool) (d : Decimal) :
    ofDecimal s d =
      round s (d.digits * 10 ^ d.exponent.toNat * unit) (10 ^ (-d.exponent).toNat) := by
  rcases d with ⟨n, e⟩
  simp only [ofDecimal, Nat.pow_eq]
  by_cases hn : n = 0
  · rw [if_pos hn, hn, Nat.zero_mul, Nat.zero_mul]
    exact round_congr s one_pos (by positivity) (by simp)
  rw [if_neg hn]
  by_cases hbig : 400 < e
  · have ht : (-e).toNat = 0 := by omega
    rw [if_pos hbig, ht, Nat.pow_zero, round_eq_infinite_of_power s hn (by omega)]
  rw [if_neg hbig]
  by_cases hsmall : e < -(400 + n.log2 : ℤ)
  · have ht : e.toNat = 0 := by omega
    rw [if_pos hsmall, ht, Nat.pow_zero, Nat.mul_one, round_eq_zero_of_power s (by omega)]
  rw [if_neg hsmall]
  by_cases hpos : 0 ≤ e
  · have ht : (-e).toNat = 0 := by omega
    rw [if_pos hpos, ht, Nat.pow_zero]
  · have ht : e.toNat = 0 := by omega
    rw [if_neg hpos, ht, Nat.pow_zero, Nat.mul_one]

/-- Decimals of one value are rounded to one number. -/
theorem ofDecimal_congr (s : Bool) {d d' : Decimal} (h : d.value = d'.value) :
    ofDecimal s d = ofDecimal s d' := by
  rw [Decimal.value_eq_div, Decimal.value_eq_div,
    div_eq_div_iff (by positivity) (by positivity)] at h
  have hn : d.digits * 10 ^ d.exponent.toNat * 10 ^ (-d'.exponent).toNat =
      d'.digits * 10 ^ d'.exponent.toNat * 10 ^ (-d.exponent).toNat := by exact_mod_cast h
  rw [ofDecimal_eq_round, ofDecimal_eq_round]
  refine round_congr s (by positivity) (by positivity) ?_
  rw [Nat.mul_right_comm, hn, Nat.mul_right_comm]

theorem ofDecimal_sign {d : Decimal} {r : Fin rankBound} (h : ofDecimal false d = .finite false r)
    (s : Bool) : ofDecimal s d = .finite s r := by
  rw [ofDecimal_eq_round] at h ⊢
  exact round_sign h s

end Binary64

end Stagecraft
