import Stagecraft.Proofs.Binary64.Bounds
import Stagecraft.Proofs.Binary64.Exact

namespace Stagecraft.Binary64

variable {n : ℤ} {u : ℕ}

/-- The integer that an id is read as: that of the nearest number, brought into the range. -/
def roundedId (n : ℤ) : ℤ := (ofInt n).toId

theorem isIntegral_of_dvd (s : Bool) {r : Fin rankBound} (h : unit ∣ grainsOfRank r) :
    (finite s r).isIntegral := by
  rw [isIntegral, Nat.mod_eq_zero_of_dvd h]
  rfl

theorem unit_dvd_grainsOfRank {r : ℕ} (hunit : unit = 2 ^ u) (h : (u + 1) * 2 ^ 52 ≤ r) :
    unit ∣ grainsOfRank r := by
  rcases rank_cases r with hr | ⟨j, m, hm, rfl⟩
  · omega
  · have hj : u ≤ j := by omega
    rw [grainsOfRank_large hm, hunit]
    exact (pow_dvd_pow 2 hj).mul_left _

/-- Integers of 52 digits are numbers, and the numbers beyond have no fractional part. -/
theorem isIntegral_ofInt (hlower : minId ≤ n) (hupper : n ≤ maxId) : (ofInt n).isIntegral := by
  rcases Nat.lt_or_ge n.natAbs (2 ^ 52) with hsmall | hlarge
  · obtain ⟨r, hr⟩ := exists_rank_eq (n := n.natAbs) (by omega)
    rw [ofInt, ← hr, round_grainsOfRank]
    exact isIntegral_of_dvd _ ⟨n.natAbs, hr.trans (Nat.mul_comm _ _)⟩
  · obtain ⟨u, -, hunit⟩ := exists_unit_eq
    -- Behind a variable, so that no step computes the magnitude.
    obtain ⟨greatest, hgreatest⟩ : ∃ r : Fin rankBound, grainsOfRank r = 2 ^ 63 * unit :=
      ⟨idBoundRank, grainsOfRank_idBoundRank⟩
    have hbound : n.natAbs * unit ≤ grainsOfRank greatest * 1 := by
      rw [minId] at hlower
      rw [maxId] at hupper
      rw [hgreatest, Nat.mul_one]
      exact Nat.mul_le_mul_right unit (by omega)
    have hfirst : grainsOfRank ((u + 1) * 2 ^ 52) * 1 ≤ n.natAbs * unit := by
      rw [grainsOfRank_pow, Nat.mul_one, hunit, Nat.pow_add]
      exact Nat.mul_le_mul_right _ hlarge
    obtain ⟨r, hr, hround⟩ := round_of_le (decide (n < 0)) one_pos hbound
    have hrank : (u + 1) * 2 ^ 52 ≤ r.val := hr ▸ le_nearestRank one_pos hfirst
    rw [ofInt, hround]
    exact isIntegral_of_dvd _ (unit_dvd_grainsOfRank hunit hrank)

/-- Beyond the exact ones only the greatest integer is kept: its number is too great, and the range
cuts it off. -/
theorem keepsId_iff : KeepsId n ↔ IsExactId n ∨ n = maxId := by
  constructor
  · rintro ⟨hintegral, hid⟩
    obtain ⟨m, hm, htoId⟩ := exists_integer hintegral
    rw [hid] at htoId
    have hrange : minId ≤ maxId := by decide
    rcases lt_or_ge maxId m with hhi | hhi
    · rw [min_eq_left hhi.le, max_eq_right hrange] at htoId
      exact .inr htoId
    rw [min_eq_right hhi] at htoId
    rcases lt_or_ge m minId with hlo | hlo
    · rw [max_eq_left hlo.le] at htoId
      exact .inl (htoId ▸ isExactId_minId)
    · rw [max_eq_right hlo] at htoId
      subst htoId
      exact .inl ⟨hlo, hhi, _, hm⟩
  · rintro (h | rfl)
    · exact h.keepsId
    · exact keepsId_maxId

theorem roundedId_eq_iff (hlower : minId ≤ n) (hupper : n ≤ maxId) :
    roundedId n = n ↔ IsExactId n ∨ n = maxId := by
  rw [← keepsId_iff, KeepsId, roundedId, and_iff_right (isIntegral_ofInt hlower hupper)]

end Stagecraft.Binary64
