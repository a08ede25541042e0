import Stagecraft.Binary64.Basic

namespace Stagecraft

inductive Anchor where
  | leftOutside
  | left
  | leftInside
  | leftBottom
  | leftInsideBottom
  | center
  | centerBottom
  | rightOutside
  | right
  | rightInside
  | rightBottom
  | rightInsideBottom
  deriving DecidableEq

namespace Anchor

def all : List Anchor :=
  [leftOutside, left, leftInside, leftBottom, leftInsideBottom, center, centerBottom, rightOutside,
    right, rightInside, rightBottom, rightInsideBottom]

def number : Anchor → Nat
  | leftOutside => 0
  | left => 1
  | leftInside => 2
  | leftBottom => 3
  | leftInsideBottom => 4
  | center => 5
  | centerBottom => 6
  | rightOutside => 7
  | right => 8
  | rightInside => 9
  | rightBottom => 10
  | rightInsideBottom => 11

def ofNumber? (n : Nat) : Option Anchor := all[n]?

def name : Anchor → String
  | leftOutside => "leftOutside"
  | left => "left"
  | leftInside => "leftInside"
  | leftBottom => "leftBottom"
  | leftInsideBottom => "leftInsideBottom"
  | center => "center"
  | centerBottom => "centerBottom"
  | rightOutside => "rightOutside"
  | right => "right"
  | rightInside => "rightInside"
  | rightBottom => "rightBottom"
  | rightInsideBottom => "rightInsideBottom"

def table : List (String × Anchor) := all.map fun a ↦ (a.name, a)

theorem ofNumber?_number (a : Anchor) : ofNumber? a.number = some a := by cases a <;> rfl

end Anchor

/-- An anchor slot and the distance to its right. -/
structure Position where
  anchor : Anchor
  offset : Binary64
  deriving DecidableEq

namespace Position

/-- Where a character stands who was never placed. -/
def center : Position := ⟨.center, .zero⟩

instance : Inhabited Position := ⟨center⟩

def agrees (p q : Position) : Bool := p.anchor = q.anchor && p.offset.agrees q.offset

end Position

end Stagecraft
