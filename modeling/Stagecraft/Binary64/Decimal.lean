import Stagecraft.Binary64.Basic

namespace Stagecraft

structure Decimal where
  digits : Nat
  exponent : Int
  deriving DecidableEq, Repr

inductive Decimal.Tie where
  | even
  | up

namespace Binary64

/-- The number nearest to a decimal. The first two bounds only keep the powers of ten small: beyond
them the result is infinity or zero whatever the digits are. -/
def ofDecimal (negative : Bool) (d : Decimal) : Binary64 :=
  if d.digits = 0 then round negative 0 1
  else if 400 < d.exponent then .infinite negative
  else if d.exponent < -(400 + d.digits.log2 : Int) then round negative 0 1
  else if 0 ≤ d.exponent then round negative (d.digits * Nat.pow 10 d.exponent.toNat * unit) 1
  else round negative (d.digits * unit) (Nat.pow 10 (-d.exponent).toNat)

def readsAs (rank : Fin rankBound) (d : Decimal) : Bool :=
  ofDecimal false d = .finite false rank

def scaledRatio (rank : Nat) (exponent : Int) : Nat × Nat :=
  (grainsOfRank rank * Nat.pow 10 (-exponent).toNat, unit * Nat.pow 10 exponent.toNat)

def belowPower (rank : Nat) (exponent : Int) : Bool :=
  let (num, den) := scaledRatio rank exponent
  num < den

def scaleFrom (rank : Nat) : Nat → Int → Int
  | 0, e => e
  | fuel + 1, e => if belowPower rank e then e else scaleFrom rank fuel (e + 1)

/-- The least exponent whose power of ten exceeds a positive magnitude. The search starts from the
binary logarithm times 0.30103, less two, which is too small by at most three. -/
def scale (rank : Nat) : Int :=
  let bits : Int := (grainsOfRank rank).log2 - 1074
  scaleFrom rank 8 (bits * 30103 / 100000 - 2)

/-- The decimal next to a magnitude on the grid of multiples of `10 ^ exponent`, if one is read as
that magnitude; of two such the nearer, and of two equally near the one `tie` names. -/
def onGrid? (tie : Decimal.Tie) (rank : Fin rankBound) (exponent : Int) : Option Decimal :=
  let (num, den) := scaledRatio rank exponent
  let below : Decimal := ⟨num / den, exponent⟩
  let above : Decimal := ⟨num / den + 1, exponent⟩
  let twice := 2 * (num % den)
  match readsAs rank below, readsAs rank above with
  | true, true =>
    if twice < den then some below
    else if den < twice then some above
    else match tie with
      | .even => if num / den % 2 = 0 then some below else some above
      | .up => some above
  | true, false => some below
  | false, true => some above
  | false, false => none

def exactDecimal (rank : Nat) : Decimal := ⟨grainsOfRank rank * Nat.pow 5 1074, -1074⟩

/-- The decimal with the fewest digits that is read as the magnitude. Seventeen digits are enough;
the exact decimal stands behind the search so that the result is always read as the magnitude. -/
def shortest (tie : Decimal.Tie) (rank : Fin rankBound) : Decimal :=
  let top := scale rank
  let found := (List.range 17).findSome? fun (n : Nat) ↦ onGrid? tie rank (top - 1 - n)
  found.getD (exactDecimal rank)

end Binary64

def Decimal.stripFrom : Nat → Decimal → Decimal
  | 0, d => d
  | fuel + 1, d =>
    if d.digits ≠ 0 ∧ d.digits % 10 = 0 then stripFrom fuel ⟨d.digits / 10, d.exponent + 1⟩ else d

def Decimal.strip (d : Decimal) : Decimal := stripFrom (d.digits.log2 + 1) d

end Stagecraft
