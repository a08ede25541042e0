import Stagecraft.Proofs.Binary64.Rounding

namespace Stagecraft.Binary64

/-- An integer that survives being written and read as a number. -/
def KeepsId (n : ℤ) : Prop := (ofInt n).isIntegral ∧ (ofInt n).toId = n

structure IsExactId (n : ℤ) : Prop where
  lower : minId ≤ n
  upper : n ≤ maxId
  exact : ∃ x : Binary64, x.grains? = some (n * unit)

theorem grains?_eq_some {x : Binary64} {g : ℤ} (h : x.grains? = some g) :
    ∃ s r, x = .finite s r ∧ g = if s then -(grainsOfRank r : ℤ) else grainsOfRank r := by
  cases x with
  | nan => cases h
  | infinite s => cases h
  | finite s r => exact ⟨s, r, rfl, (Option.some.inj h).symm⟩

theorem grainsOfRank_eq_natAbs {s : Bool} {r : Fin rankBound} {a : ℤ}
    (h : (finite s r).grains? = some a) : grainsOfRank r = a.natAbs := by
  obtain rfl := Option.some.inj h
  cases s <;> simp only [Bool.false_eq_true, if_true, if_false, Int.natAbs_neg, Int.natAbs_natCast]

theorem exists_rank_of_grains? {x : Binary64} {a : ℤ} (h : x.grains? = some a) :
    ∃ r : Fin rankBound, grainsOfRank r = a.natAbs := by
  obtain ⟨s, r, rfl, -⟩ := grains?_eq_some h
  exact ⟨r, grainsOfRank_eq_natAbs h⟩

theorem grains?_round {s : Bool} {r : Fin rankBound} {a : ℤ} (hr : grainsOfRank r = a.natAbs)
    (hs : a ≠ 0 → s = decide (a < 0)) : (round s a.natAbs 1).grains? = some a := by
  rw [← hr, round_grainsOfRank, grains?, hr, Option.some_inj]
  rcases lt_trichotomy a 0 with ha | rfl | ha
  · rw [hs ha.ne, if_pos (decide_eq_true ha)]
    omega
  · cases s <;> rfl
  · rw [hs ha.ne', if_neg (by simpa using ha.le)]
    omega

theorem natAbs_mul_unit (n : ℤ) : (n * unit).natAbs = n.natAbs * unit := by
  rw [Int.natAbs_mul, Int.natAbs_natCast]

theorem grains?_ofInt_of_rank {n : ℤ} {r : Fin rankBound} (hr : grainsOfRank r = (n * unit).natAbs) :
    (ofInt n).grains? = some (n * unit) := by
  rw [ofInt, ← natAbs_mul_unit]
  refine grains?_round hr fun hne ↦ ?_
  have hunit : (0 : ℤ) < unit := Int.natCast_pos.2 unit_pos
  rw [decide_eq_decide, ← not_le, ← not_le, mul_nonneg_iff_of_pos_right hunit]

/-- A number without what follows its point, brought into the range of ids. -/
def wholePart (x : Binary64) : ℤ :=
  match x.grains? with
  | some g => max minId (min maxId (g.tdiv unit))
  | none => if x.isPositive then maxId else if x.isNegative then minId else 0

theorem toId_eq_wholePart (x : Binary64) : x.toId = x.wholePart := by
  cases x with
  | nan => rfl
  | infinite s => cases s <;> rfl
  | finite s r =>
    cases s
    · rfl
    · have hneg : (-(grainsOfRank r : ℤ)).tdiv unit = -((grainsOfRank r / unit : ℕ) : ℤ) := by
        rw [Int.neg_tdiv, ← Int.ofNat_tdiv]
      rw [wholePart, grains?, if_pos rfl]
      simp only [hneg]
      rfl

theorem integer_of_grains? {x : Binary64} {m : ℤ} (h : x.grains? = some (m * unit)) :
    x.isIntegral ∧ x.toId = max minId (min maxId m) := by
  constructor
  · obtain ⟨s, r, rfl, -⟩ := grains?_eq_some h
    rw [isIntegral, grainsOfRank_eq_natAbs h, natAbs_mul_unit, Nat.mul_mod_left]
    rfl
  · have hunit : (unit : ℤ) ≠ 0 := Nat.cast_ne_zero.2 unit_pos.ne'
    rw [toId_eq_wholePart, wholePart, h]
    simp only [Int.mul_tdiv_cancel m hunit]

theorem IsExactId.keepsId {n : ℤ} (h : IsExactId n) : KeepsId n := by
  obtain ⟨hlo, hhi, x, hx⟩ := h
  obtain ⟨r, hr⟩ := exists_rank_of_grains? hx
  obtain ⟨hi, ht⟩ := integer_of_grains? (grains?_ofInt_of_rank hr)
  rw [min_eq_right hhi, max_eq_right hlo] at ht
  exact ⟨hi, ht⟩

theorem grainsOfRank_pow (j : ℕ) : grainsOfRank ((j + 1) * 2 ^ 52) = 2 ^ (52 + j) := by
  have h := grainsOfRank_large (m := 0) (j := j) (Nat.two_pow_pos 52)
  simpa only [Nat.add_zero, ← Nat.pow_add] using h

def idBoundRank : Fin rankBound := ⟨1086 * 2 ^ 52, by decide⟩

theorem grainsOfRank_idBoundRank : grainsOfRank idBoundRank = 2 ^ 63 * unit := by
  obtain ⟨u, hu, hunit⟩ := exists_unit_eq
  obtain ⟨j, hj⟩ : ∃ j, j = 1085 := ⟨_, rfl⟩
  have hr : idBoundRank.val = (j + 1) * 2 ^ 52 := by rw [hj]; rfl
  have he : 63 + u = 52 + j := by omega
  rw [hr, grainsOfRank_pow, hunit, ← Nat.pow_add, he]

theorem grains?_idBoundRank (s : Bool) :
    (finite s idBoundRank).grains? = some ((if s then minId else maxId + 1) * unit) := by
  rw [grains?, grainsOfRank_idBoundRank, Nat.cast_mul, ite_mul, ← neg_mul]
  rfl

theorem isExactId_minId : IsExactId minId := by
  refine ⟨le_rfl, by decide, finite true idBoundRank, ?_⟩
  rw [grains?_idBoundRank, if_pos rfl]

/-- The number before a power of two is rounded up to the power if it has more than 53 digits. -/
theorem nearestRank_maxId : nearestRank (maxId.natAbs * unit) 1 = 1086 * 2 ^ 52 := by
  have h (j : ℕ) : nearestRank ((2 ^ 63 - 1) * 2 ^ j) 1 = (12 + j) * 2 ^ 52 := by
    have hlog : ((2 ^ 63 - 1) * 2 ^ j).log2 = 62 + j := by
      rw [Nat.log2_eq_iff (by positivity), Nat.add_right_comm, Nat.pow_add, Nat.pow_add]
      have hj := Nat.two_pow_pos j
      omega
    have hq : roundQuotient ((2 ^ 63 - 1) * 2 ^ j) (1 * 2 ^ (62 + j - 52)) = 2 ^ 53 := by
      have he : 62 + j - 52 = 10 + j := by omega
      rw [he, Nat.one_mul, Nat.pow_add, roundQuotient_scale (Nat.two_pow_pos j)]
      decide
    simp only [nearestRank, excess, Nat.div_one, hlog, Nat.pow_eq, hq]
    omega
  obtain ⟨u, hu, hunit⟩ := exists_unit_eq
  have hm : maxId.natAbs = 2 ^ 63 - 1 := by decide
  rw [hm, hunit, h, hu]

theorem keepsId_maxId : KeepsId maxId := by
  have hn : ofInt maxId = .finite false idBoundRank := by
    rw [ofInt, round]
    simp only [nearestRank_maxId]
    rfl
  obtain ⟨hi, ht⟩ := integer_of_grains? (grains?_idBoundRank false)
  refine ⟨hn ▸ hi, ?_⟩
  rw [hn, ht]
  decide

/-- A number without a fractional part is an integer, and what is read is that integer brought into
the range. -/
theorem exists_integer {x : Binary64} (h : x.isIntegral) :
    ∃ m : ℤ, x.grains? = some (m * unit) ∧ x.toId = max minId (min maxId m) := by
  cases x with
  | nan => cases h
  | infinite s => cases h
  | finite s r =>
    obtain ⟨q, hq⟩ : ∃ q, grainsOfRank r = q * unit := by
      have hm : grainsOfRank r % unit = 0 := of_decide_eq_true h
      exact ⟨_, (Nat.div_mul_cancel (Nat.dvd_of_mod_eq_zero hm)).symm⟩
    have hx : (finite s r).grains? = some ((if s then -(q : ℤ) else q) * unit) := by
      rw [grains?, hq, Nat.cast_mul, ite_mul, neg_mul]
    exact ⟨_, hx, (integer_of_grains? hx).2⟩

/-- An integer that was read is kept, also where the range of integers cut it off. -/
theorem keepsId_toId {x : Binary64} (h : x.isIntegral) : KeepsId x.toId := by
  obtain ⟨m, hx, ht⟩ := exists_integer h
  rcases lt_or_ge maxId m with hhi | hhi
  · rw [ht, min_eq_left hhi.le, max_eq_right (by decide)]
    exact keepsId_maxId
  rcases lt_or_ge m minId with hlo | hlo
  · rw [ht, min_eq_right hhi, max_eq_left hlo.le]
    exact isExactId_minId.keepsId
  · rw [ht, min_eq_right hhi, max_eq_right hlo]
    exact IsExactId.keepsId ⟨hlo, hhi, _, hx⟩

end Stagecraft.Binary64
