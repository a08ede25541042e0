namespace Stagecraft.Text

/-- Whether a character lies in a set given by the code points at which membership changes, in
increasing order: the first one enters the set, the next one leaves it, and so on. -/
def inRuns (bounds : List Nat) (c : Char) : Bool :=
  (bounds.takeWhile (· ≤ c.toNat)).length % 2 = 1

end Stagecraft.Text
