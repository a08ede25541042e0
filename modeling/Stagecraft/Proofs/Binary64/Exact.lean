import Stagecraft.Proofs.Binary64.Id

namespace Stagecraft.Binary64

variable {x y z : Binary64} {a b : ℤ}

theorem exists_rank_eq {n : ℕ} (hn : n < 2 ^ 53) : ∃ r : Fin rankBound, grainsOfRank r = n * unit := by
  rcases Nat.eq_zero_or_pos n with rfl | hpos
  · exact ⟨⟨0, by decide⟩, (grainsOfRank_small (Nat.two_pow_pos 52)).trans (Nat.zero_mul unit).symm⟩
  obtain ⟨u, hu, hunit⟩ := exists_unit_eq
  have hlog : n.log2 < 53 := (Nat.log2_lt hpos.ne').2 hn
  -- Shifted to 53 digits, the first of which is one.
  obtain ⟨k, hk⟩ : ∃ k, n.log2 + k = 52 := ⟨52 - n.log2, by omega⟩
  obtain ⟨m, hm, hshift⟩ : ∃ m < 2 ^ 52, n * 2 ^ k = 2 ^ 52 + m := by
    have hlower : 2 ^ n.log2 * 2 ^ k ≤ n * 2 ^ k := Nat.mul_le_mul_right _ (Nat.log2_self_le hpos.ne')
    have hupper : n * 2 ^ k < 2 ^ (n.log2 + 1) * 2 ^ k :=
      Nat.mul_lt_mul_of_pos_right Nat.lt_log2_self (Nat.two_pow_pos k)
    rw [← Nat.pow_add, hk] at hlower
    rw [← Nat.pow_add, Nat.add_right_comm, hk] at hupper
    exact ⟨n * 2 ^ k - 2 ^ 52, by omega, by omega⟩
  obtain ⟨j, hj⟩ : ∃ j, j + k = u := ⟨u - k, by omega⟩
  have hbound : (j + 1) * 2 ^ 52 + m < rankBound := by
    rw [rankBound, Nat.pow_eq]
    omega
  refine ⟨⟨(j + 1) * 2 ^ 52 + m, hbound⟩, ?_⟩
  rw [grainsOfRank_large hm, ← hshift, Nat.mul_assoc, ← Nat.pow_add, Nat.add_comm k, hj, ← hunit]

/-- A difference that some number is equal to is computed exactly. -/
theorem grains?_sub (hx : x.grains? = some a) (hy : y.grains? = some b)
    (hz : z.grains? = some (a - b)) : (x.sub y).grains? = some (a - b) := by
  obtain ⟨r, hr⟩ := exists_rank_of_grains? hz
  obtain ⟨s, rx, rfl, ha⟩ := grains?_eq_some hx
  obtain ⟨t, ry, rfl, hb⟩ := grains?_eq_some hy
  rw [sub, ← ha, ← hb]
  exact grains?_round hr fun hne ↦ if_neg hne

theorem grains?_ofInt {n : ℤ} (hn : n.natAbs < 2 ^ 53) : (ofInt n).grains? = some (n * unit) := by
  obtain ⟨r, hr⟩ := exists_rank_eq hn
  exact grains?_ofInt_of_rank (hr.trans (natAbs_mul_unit n).symm)

/-- Integers between zero and a bound that all are numbers are subtracted exactly. -/
theorem grains?_sub_ofInt {m n : ℕ} (hm : m < 2 ^ 53) (hn : n < 2 ^ 53)
    (hx : x.grains? = some ((m : ℤ) * unit)) (hy : y.grains? = some ((n : ℤ) * unit)) :
    (x.sub y).grains? = some ((m : ℤ) * unit - (n : ℤ) * unit) := by
  have hdifference := grains?_ofInt (n := (m : ℤ) - n) (by omega)
  rw [sub_mul] at hdifference
  exact grains?_sub hx hy hdifference

def total? (xs : List Binary64) : Option ℤ := (xs.mapM grains?).map List.sum

theorem total?_nil : total? [] = some 0 := rfl

theorem total?_concat {xs : List Binary64} (hxs : total? xs = some a) (hx : x.grains? = some b) :
    total? (xs ++ [x]) = some (a + b) := by
  obtain ⟨gs, hgs, rfl⟩ := Option.map_eq_some_iff.1 hxs
  simp [total?, List.mapM_append, hgs, hx]

end Stagecraft.Binary64
