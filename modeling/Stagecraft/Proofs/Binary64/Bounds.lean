import Stagecraft.Proofs.Binary64.Rounding

namespace Stagecraft.Binary64

variable {num den k m r : ℕ} {x y : Binary64}

theorem roundQuotient_le (hden : 0 < den) (h : num ≤ m * den) : roundQuotient num den ≤ m := by
  have hq : num / den ≤ m := Nat.div_le_of_le_mul (by rwa [Nat.mul_comm])
  rw [roundQuotient]
  split
  · exact hq
  · next hround =>
    refine Nat.succ_le_of_lt (lt_of_le_of_ne hq fun hm ↦ hround (.inl ?_))
    -- With the whole bound as its quotient the fraction leaves no remainder.
    have hdiv := Nat.div_add_mod num den
    rw [hm, Nat.mul_comm] at hdiv
    omega

theorem le_roundQuotient (hden : 0 < den) (h : m * den ≤ num) : m ≤ roundQuotient num den := by
  have hq : m ≤ num / den := (Nat.le_div_iff_mul_le hden).2 h
  rw [roundQuotient]
  split <;> omega

theorem excess_le {q e : ℕ} (h : q < 2 ^ (53 + e)) : excess q ≤ e := by
  rw [excess]
  rcases Nat.eq_zero_or_pos q with rfl | hq
  · simp
  · have hlog := (Nat.log2_lt hq.ne').2 h
    omega

theorem le_excess {q e : ℕ} (h : 2 ^ (52 + e) ≤ q) : e ≤ excess q := by
  have hq : q ≠ 0 := ((Nat.two_pow_pos _).trans_le h).ne'
  have hlog := (Nat.le_log2 hq).2 h
  rw [excess]
  omega

theorem lt_of_excess (q : ℕ) : q < 2 ^ (53 + excess q) := by
  rcases Nat.eq_zero_or_pos q with rfl | hq
  · positivity
  · refine (Nat.log2_lt hq.ne').1 ?_
    rw [excess]
    omega

theorem le_of_excess {q : ℕ} (h : 0 < excess q) : 2 ^ (52 + excess q) ≤ q := by
  rw [excess] at h ⊢
  have hq : q ≠ 0 := by
    rintro rfl
    simp at h
  refine (Nat.le_log2 hq).1 ?_
  omega

theorem nearestRank_le (hden : 0 < den) (h : num ≤ grainsOfRank r * den) :
    nearestRank num den ≤ r := by
  have hq : num / den ≤ grainsOfRank r := Nat.div_le_of_le_mul (by rwa [Nat.mul_comm])
  have hnum : num < (num / den + 1) * den := by
    rw [Nat.mul_comm]
    exact Nat.lt_mul_div_succ num hden
  rw [nearestRank]
  generalize num / den = q at hq hnum ⊢
  simp only [Nat.pow_eq]
  have hpow := Nat.two_pow_pos (excess q)
  rcases rank_cases r with hr | ⟨j, m, hm, rfl⟩
  · rw [grainsOfRank_small hr] at hq h
    have hexcess : excess q = 0 := Nat.le_zero.1 (excess_le (by omega))
    rw [hexcess, Nat.zero_mul, Nat.zero_add, Nat.pow_zero, Nat.mul_one]
    exact roundQuotient_le hden h
  · rw [grainsOfRank_large hm] at hq h
    have hle : excess q ≤ j := by
      refine excess_le (hq.trans_lt ?_)
      rw [Nat.pow_add]
      exact Nat.mul_lt_mul_of_pos_right (by omega) (Nat.two_pow_pos j)
    rcases hle.eq_or_lt with rfl | hlt
    · have hround : roundQuotient num (den * 2 ^ excess q) ≤ 2 ^ 52 + m := by
        refine roundQuotient_le (Nat.mul_pos hden hpow) ?_
        rwa [Nat.mul_comm den, ← Nat.mul_assoc]
      omega
    · -- A smaller excess leaves the quotient below the first rank with the greater one.
      have hround : roundQuotient num (den * 2 ^ excess q) ≤ 2 ^ 53 := by
        refine roundQuotient_le (Nat.mul_pos hden hpow) (hnum.le.trans ?_)
        rw [Nat.mul_comm den, ← Nat.mul_assoc, ← Nat.pow_add]
        exact Nat.mul_le_mul_right _ (lt_of_excess q)
      have hj : (excess q + 1) * 2 ^ 52 ≤ j * 2 ^ 52 := Nat.mul_le_mul_right _ hlt
      omega

theorem le_nearestRank (hden : 0 < den) (h : grainsOfRank r * den ≤ num) :
    r ≤ nearestRank num den := by
  have hq : grainsOfRank r ≤ num / den := (Nat.le_div_iff_mul_le hden).2 h
  have hnum : num / den * den ≤ num := Nat.div_mul_le_self num den
  rw [nearestRank]
  generalize num / den = q at hq hnum ⊢
  simp only [Nat.pow_eq]
  have hpow := Nat.two_pow_pos (excess q)
  -- With an excess the quotient has all 53 digits.
  have hfull (hexcess : 0 < excess q) : 2 ^ 52 ≤ roundQuotient num (den * 2 ^ excess q) := by
    refine le_roundQuotient (Nat.mul_pos hden hpow) (le_trans ?_ hnum)
    rw [Nat.mul_comm den, ← Nat.mul_assoc, ← Nat.pow_add]
    exact Nat.mul_le_mul_right _ (le_of_excess hexcess)
  rcases rank_cases r with hr | ⟨j, m, hm, rfl⟩
  · rw [grainsOfRank_small hr] at hq h
    rcases Nat.eq_zero_or_pos (excess q) with hexcess | hexcess
    · rw [hexcess, Nat.zero_mul, Nat.zero_add, Nat.pow_zero, Nat.mul_one]
      exact le_roundQuotient hden h
    · have hround := hfull hexcess
      omega
  · rw [grainsOfRank_large hm] at hq h
    have hle : j ≤ excess q := by
      refine le_excess (le_trans ?_ hq)
      rw [Nat.pow_add]
      exact Nat.mul_le_mul_right _ (by omega)
    rcases hle.eq_or_lt with rfl | hlt
    · have hround : 2 ^ 52 + m ≤ roundQuotient num (den * 2 ^ excess q) := by
        refine le_roundQuotient (Nat.mul_pos hden hpow) ?_
        rwa [Nat.mul_comm den, ← Nat.mul_assoc]
      omega
    · exact Nat.add_le_add (Nat.mul_le_mul_right _ hlt) (hm.le.trans (hfull (Nat.zero_lt_of_lt hlt)))

theorem grainsOfRank_mono {r' : ℕ} (h : r ≤ r') : grainsOfRank r ≤ grainsOfRank r' := by
  by_contra hlt
  have hle : grainsOfRank r' ≤ grainsOfRank r * 1 := by omega
  have hrank := nearestRank_le one_pos hle
  rw [nearestRank_grainsOfRank] at hrank
  rw [h.antisymm hrank] at hlt
  exact hlt le_rfl

/-- A quotient no greater than a magnitude is rounded within the range. -/
theorem round_of_le (s : Bool) {r : Fin rankBound} (hden : 0 < den) (h : num ≤ grainsOfRank r * den) :
    ∃ r' : Fin rankBound, r'.val = nearestRank num den ∧ round s num den = .finite s r' := by
  have hbound : nearestRank num den < rankBound := (nearestRank_le hden h).trans_lt r.isLt
  exact ⟨⟨nearestRank num den, hbound⟩, rfl, by simp only [round, dif_pos hbound]⟩

theorem isFinite_round (s : Bool) {r : Fin rankBound} (hden : 0 < den)
    (h : num ≤ grainsOfRank r * den) : (round s num den).isFinite := by
  obtain ⟨r', -, hround⟩ := round_of_le s hden h
  rw [hround]
  rfl

/-- Integers of up to 308 digits are in the range. -/
theorem exists_rank_ge : ∃ r : Fin rankBound, ∀ k ≤ 308, ∀ n ≤ 10 ^ k, n * unit ≤ grainsOfRank r := by
  obtain ⟨most, hmost, hbound⟩ :
      ∃ most, most = 308 ∧ Nat.pow 10 most * unit ≤ grainsOfRank (rankBound - 1) :=
    ⟨308, rfl, by decide +kernel⟩
  refine ⟨⟨rankBound - 1, by decide +kernel⟩, fun k hk n hn ↦ le_trans ?_ hbound⟩
  exact Nat.mul_le_mul_right unit (hn.trans (Nat.pow_le_pow_right (by decide) (hmost ▸ hk)))

theorem isFinite_ofInt {n : ℤ} (hk : k ≤ 308) (h : n.natAbs ≤ 10 ^ k) : (ofInt n).isFinite := by
  obtain ⟨r, hr⟩ := exists_rank_ge
  refine isFinite_round _ one_pos (r := r) ?_
  rw [Nat.mul_one]
  exact hr k hk n.natAbs h

theorem isFinite_neg (h : x.isFinite) : x.neg.isFinite := by
  cases x with
  | finite s r => rfl
  | _ => cases h

theorem not_isNegative (h : x.isPositive) : x.isNegative = false := by
  cases x with
  | finite s r =>
    cases s with
    | false => rfl
    | true => cases h
  | infinite s =>
    cases s with
    | false => rfl
    | true => cases h
  | nan => rfl

/-- The difference of two numbers that are not negative stays between them. -/
theorem isFinite_sub (hx : x.isFinite) (hy : y.isFinite) (hpositive : x.isNegative = false)
    (hpositive' : y.isNegative = false) : (x.sub y).isFinite := by
  cases x with
  | finite s a =>
    cases y with
    | finite t b =>
      obtain rfl : s = false := hpositive
      obtain rfl : t = false := hpositive'
      rw [sub]
      simp only [Bool.false_eq_true, if_false]
      rcases le_total (grainsOfRank a) (grainsOfRank b) with h | h
      · exact isFinite_round _ one_pos (r := b) (by omega)
      · exact isFinite_round _ one_pos (r := a) (by omega)
    | _ => cases hy
  | _ => cases hx

end Stagecraft.Binary64
