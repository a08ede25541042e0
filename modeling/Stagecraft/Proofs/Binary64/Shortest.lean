import Stagecraft.Proofs.Binary64.Rounding

namespace Stagecraft

theorem Decimal.value_strip (d : Decimal) : d.strip.value = d.value := by
  have h (fuel : ℕ) (d : Decimal) : (stripFrom fuel d).value = d.value := by
    induction fuel generalizing d with
    | zero => rfl
    | succ fuel ih =>
      rw [stripFrom]
      split
      · next hd =>
        rw [ih]
        have hdigits : (d.digits : ℚ) = (d.digits / 10 : ℕ) * 10 := by
          exact_mod_cast (Nat.div_mul_cancel (Nat.dvd_of_mod_eq_zero hd.2)).symm
        simp only [Decimal.value]
        rw [hdigits, zpow_add_one₀ (by norm_num)]
        ring
      · rfl
  exact h _ d

namespace Binary64

theorem onGrid?_reads {tie : Decimal.Tie} {r : Fin rankBound} {e : ℤ} {d : Decimal}
    (h : onGrid? tie r e = some d) : ofDecimal false d = .finite false r := by
  have hr : readsAs r d = true := by
    simp only [onGrid?] at h
    generalize (scaledRatio r e).1 = num, (scaledRatio r e).2 = den at h
    cases hb : readsAs r ⟨num / den, e⟩ <;> cases ha : readsAs r ⟨num / den + 1, e⟩ <;>
      simp only [hb, ha] at h
    · simp at h
    · exact Option.some.inj h ▸ ha
    · exact Option.some.inj h ▸ hb
    · cases tie <;> simp only at h <;> split_ifs at h <;> first
        | exact Option.some.inj h ▸ ha
        | exact Option.some.inj h ▸ hb
  simpa [readsAs] using hr

theorem exactDecimal_reads (r : Fin rankBound) :
    ofDecimal false (exactDecimal r) = .finite false r := by
  obtain ⟨u, hu, hunit⟩ := exists_unit_eq
  have he : (exactDecimal r).exponent = -(u : ℤ) := hu ▸ rfl
  have hd : (exactDecimal r).digits = grainsOfRank r * 5 ^ u := by rw [exactDecimal, hu, Nat.pow_eq]
  rw [ofDecimal_eq_round, ← round_grainsOfRank]
  refine round_congr false (by positivity) one_pos ?_
  rw [he, hd, hunit, Int.toNat_neg_natCast, neg_neg, Int.toNat_natCast, Nat.pow_zero, Nat.mul_one,
    Nat.mul_one, Nat.mul_assoc, ← Nat.mul_pow]

/-- The shortest decimal of a number is read as the number. -/
theorem shortest_reads (tie : Decimal.Tie) (r : Fin rankBound) :
    ofDecimal false (shortest tie r) = .finite false r := by
  simp only [shortest]
  cases h : (List.range 17).findSome? fun n : ℕ ↦ onGrid? tie r (scale r - 1 - n) with
  | none => exact exactDecimal_reads r
  | some d =>
    obtain ⟨n, -, hn⟩ := List.exists_of_findSome?_eq_some h
    exact onGrid?_reads hn

theorem strip_shortest_reads (tie : Decimal.Tie) (r : Fin rankBound) :
    ofDecimal false (shortest tie r).strip = .finite false r := by
  rw [ofDecimal_congr false (Decimal.value_strip _), shortest_reads]

end Binary64

end Stagecraft
