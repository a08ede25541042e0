import Stagecraft.Proofs.Asset.Appearances
import Stagecraft.Proofs.Binary64.Id
import Stagecraft.Proofs.Scenario.BackwardScan

namespace Stagecraft.Scenario

open Asset
open Binary64 (KeepsId)

/-- The slot that a name asks for, by the words for the two sides and for what lies beyond them. -/
def slotBy (left right beyond name : String) : Slot :=
  if left.toList <+: name.toList then
    if beyond.toList <:+ name.toList then .leftOver else .leftInside
  else if right.toList <+: name.toList then
    if beyond.toList <:+ name.toList then .rightOver else .rightInside
  else .center

theorem ofAnchor_eq (a : Anchor) : Slot.ofAnchor a = slotBy "left" "right" "Outside" a.name := by
  cases a <;> decide +kernel

theorem ofPosition_eq (p : Position) : Place.ofPosition p =
    ⟨slotBy "left" "right" "Outside" p.anchor.name, p.offset.wholePart⟩ := by
  rw [Place.ofPosition, ofAnchor_eq, Binary64.toId_eq_wholePart]

/-- The place that a scan finds: the slot that the anchor's name asks for, and the whole part of the
offset. -/
theorem placeAfter_eq (earlier : List Action) (c : Int) : placeAfter earlier c =
    match earlier.findSome? (placement? c) with
    | some p => ⟨slotBy "left" "right" "Outside" p.anchor.name, p.offset.wholePart⟩
    | none => ⟨.center, 0⟩ := by
  rw [placeAfter]
  cases earlier.findSome? (placement? c) with
  | none => rfl
  | some p => exact ofPosition_eq p

/-- A layout row's own place: the slot that the name of its side asks for, and its offset. -/
theorem ofPosition_placement {name : String} {side : StageSide}
    (hside : (name, side) ∈ StageSide.table) (index : ℕ) {n : ℤ} (hn : KeepsId n) :
    Place.ofPosition (placement index side n).1 = ⟨slotBy "Left" "Right" "Over" name, n⟩ := by
  have hslots : ∀ p ∈ StageSide.table, Slot.ofAnchor (p.2.anchor?.getD .center) =
      slotBy "Left" "Right" "Over" p.1 := by
    decide +kernel
  have hplace : (placement index side n).1 = ⟨side.anchor?.getD .center, .ofInt n⟩ := by
    rw [placement]
    cases side.anchor? <;> rfl
  rw [hplace, Place.ofPosition, hn.2]
  exact congrArg (Place.mk · n) (hslots _ hside)

end Stagecraft.Scenario
