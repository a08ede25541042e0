import Mathlib.Data.String.Basic
import Mathlib.Tactic

namespace Stagecraft.Text

open String (utf8Len utf8Len_cons)

variable {cs : List Char}

/-- The text before an offset in bytes and the text behind it, unless the offset lies inside a
character or behind the end. -/
def cut? (offset : ℕ) : List Char → Option (List Char × List Char)
  | [] => if offset = 0 then some ([], []) else none
  | c :: cs =>
    if offset = 0 then some ([], c :: cs)
    else if offset < c.utf8Size then none
    else (cut? (offset - c.utf8Size) cs).map fun (before, behind) ↦ (c :: before, behind)

def slice? (start stop : ℕ) (cs : List Char) : Option (List Char) := do
  let (before, _) ← cut? stop cs
  let (_, part) ← cut? start before
  return part

theorem cut?_zero (cs : List Char) : cut? 0 cs = some ([], cs) := by
  cases cs <;> rw [cut?, if_pos rfl]

theorem cut?_cons {c : Char} {offset : ℕ} (h : c.utf8Size ≤ offset) (cs : List Char) :
    cut? offset (c :: cs) =
      (cut? (offset - c.utf8Size) cs).map fun (before, behind) ↦ (c :: before, behind) := by
  have hsize := c.utf8Size_pos
  rw [cut?, if_neg (by omega), if_neg (by omega)]

theorem cut?_append (before behind : List Char) :
    cut? (utf8Len before) (before ++ behind) = some (before, behind) := by
  induction before with
  | nil => exact cut?_zero behind
  | cons c before ih =>
    rw [utf8Len_cons, List.cons_append, cut?_cons (Nat.le_add_left _ _), Nat.add_sub_cancel, ih]
    rfl

theorem eq_append_of_cut? {offset : ℕ} {before behind : List Char}
    (h : cut? offset cs = some (before, behind)) :
    cs = before ++ behind ∧ offset = utf8Len before := by
  induction cs generalizing offset before with
  | nil =>
    rw [cut?] at h
    split at h
    · next hoffset =>
      cases h
      exact ⟨rfl, hoffset⟩
    · cases h
  | cons c cs ih =>
    rw [cut?] at h
    split at h
    · next hoffset =>
      cases h
      exact ⟨rfl, hoffset⟩
    · split at h
      · cases h
      · next hsize =>
        obtain ⟨⟨before', behind'⟩, hcut, heq⟩ := Option.map_eq_some_iff.1 h
        obtain ⟨rfl, rfl⟩ := Prod.mk.inj heq
        obtain ⟨rfl, hoffset⟩ := ih hcut
        rw [utf8Len_cons, List.cons_append]
        exact ⟨rfl, by omega⟩

/-- A text has a part between two offsets just if it can be split there. -/
theorem slice?_eq_some {start stop : ℕ} {part : List Char} :
    slice? start stop cs = some part ↔ ∃ before behind, cs = before ++ part ++ behind ∧
      start = utf8Len before ∧ stop = utf8Len (before ++ part) := by
  constructor
  · intro h
    obtain ⟨⟨front, behind⟩, hstop, h⟩ := Option.bind_eq_some_iff.1 h
    obtain ⟨⟨before, part'⟩, hstart, h⟩ := Option.bind_eq_some_iff.1 h
    cases h
    obtain ⟨rfl, rfl⟩ := eq_append_of_cut? hstop
    obtain ⟨rfl, rfl⟩ := eq_append_of_cut? hstart
    exact ⟨before, behind, rfl, rfl, rfl⟩
  · rintro ⟨before, behind, rfl, rfl, rfl⟩
    have hstart := cut?_append before part
    have hstop := cut?_append (before ++ part) behind
    simp only [slice?, hstop, hstart, Option.bind_eq_bind, Option.bind_some, Option.pure_def]

end Stagecraft.Text
