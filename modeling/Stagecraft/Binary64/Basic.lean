namespace Stagecraft

/-- The number of finite magnitudes; the rank that would follow them is infinity. -/
def Binary64.rankBound : Nat := 2047 * Nat.pow 2 52

/-- A number of the IEEE 754 binary64 format. Every finite one is a whole multiple of the least
positive one, `2 ^ (-1074)`, called the grain, and `rank` numbers the finite magnitudes in increasing
order. All invalid results are one value, `nan`. -/
inductive Binary64 where
  | nan
  | infinite (negative : Bool)
  | finite (negative : Bool) (rank : Fin Binary64.rankBound)
  deriving DecidableEq

namespace Binary64

/-- The quotient of two naturals rounded to the nearest natural, a half to the even one. -/
def roundQuotient (num den : Nat) : Nat :=
  let q := num / den
  let twice := 2 * (num % den)
  if twice < den ∨ (twice = den ∧ q % 2 = 0) then q else q + 1

def excess (grains : Nat) : Nat := grains.log2 - 52

/-- The rank nearest to `num / den` grains. It may be `rankBound` or more. -/
def nearestRank (num den : Nat) : Nat :=
  let k := excess (num / den)
  k * Nat.pow 2 52 + roundQuotient num (den * Nat.pow 2 k)

def round (negative : Bool) (num den : Nat) : Binary64 :=
  let rank := nearestRank num den
  if h : rank < rankBound then .finite negative ⟨rank, h⟩ else .infinite negative

/-- One is this many grains. -/
def unit : Nat := Nat.pow 2 1074

def grainsOfRank (rank : Nat) : Nat :=
  let stored := Nat.pow 2 52
  if rank < stored then rank else (stored + rank % stored) * Nat.pow 2 (rank / stored - 1)

def zero : Binary64 := .finite false ⟨0, by decide⟩

instance : Inhabited Binary64 := ⟨zero⟩

def ofInt (n : Int) : Binary64 := round (decide (n < 0)) (n.natAbs * unit) 1

def isNegative : Binary64 → Bool
  | nan => false
  | infinite s => s
  | finite s _ => s

def neg : Binary64 → Binary64
  | nan => nan
  | infinite s => infinite !s
  | finite s r => finite (!s) r

def grains? : Binary64 → Option Int
  | finite s r => some (if s then -(grainsOfRank r : Int) else grainsOfRank r)
  | _ => none

/-- The difference rounded once. A difference of equal numbers is positive zero, except that
negative zero less positive zero is negative zero. -/
def sub : Binary64 → Binary64 → Binary64
  | nan, _ => nan
  | _, nan => nan
  | infinite s, infinite t => if s = t then nan else infinite s
  | infinite s, finite _ _ => infinite s
  | finite _ _, infinite t => infinite !t
  | finite s a, finite t b =>
    let x : Int := if s then -(grainsOfRank a : Int) else grainsOfRank a
    let y : Int := if t then -(grainsOfRank b : Int) else grainsOfRank b
    let d := x - y
    let negative := if d = 0 then s && !t && a.val = 0 else decide (d < 0)
    round negative d.natAbs 1

/-- Greater than zero; false of both zeros and of `nan`. -/
def isPositive : Binary64 → Bool
  | nan => false
  | infinite s => !s
  | finite s r => !s && r.val != 0

def mulMagnitude (a b : Fin rankBound) : Binary64 :=
  round false (grainsOfRank a * grainsOfRank b) unit

def divMagnitude (a b : Fin rankBound) : Binary64 :=
  round false (grainsOfRank a * unit) (grainsOfRank b)

def isIntegral : Binary64 → Bool
  | finite _ r => grainsOfRank r % unit = 0
  | _ => false

def isFinite : Binary64 → Bool
  | finite _ _ => true
  | _ => false

def truncate? : Binary64 → Option Int
  | finite s r =>
    let n : Int := ↑(grainsOfRank r / unit)
    some (if s then -n else n)
  | _ => none

def minId : Int := -0x8000000000000000
def maxId : Int := 0x7FFFFFFFFFFFFFFF

/-- The integer part brought into the signed 64-bit range; zero for `nan`. -/
def toId : Binary64 → Int
  | nan => 0
  | infinite s => if s then minId else maxId
  | finite s r =>
    let n : Int := ↑(grainsOfRank r / unit)
    max minId (min maxId (if s then -n else n))

/-- Numerical equality: the two zeros are equal, and `nan` differs from everything. -/
def agrees : Binary64 → Binary64 → Bool
  | nan, _ => false
  | _, nan => false
  | infinite s, infinite t => s = t
  | finite s a, finite t b => a = b && (s = t || a.val = 0)
  | _, _ => false

end Binary64

end Stagecraft
