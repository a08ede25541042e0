import Stagecraft.Binary64.Decimal

namespace Stagecraft

/-- How a number is laid out. A number whose leading digit stands for `10 ^ e` is written
positionally when `plainFrom ≤ e < plainBelow`, otherwise with an exponent. -/
structure Numeral where
  tie : Decimal.Tie
  plainFrom : Option Int
  plainBelow : Option Int
  /-- Whole numbers end in `.0`. -/
  pointZero : Bool
  /-- Positive exponents carry a plus sign. -/
  exponentPlus : Bool

namespace Numeral

def argument : Numeral := ⟨.up, some (-4), some 16, true, false⟩

/-- JSON: positional from 0.00001 to below 10^16. -/
def json : Numeral := ⟨.even, some (-5), some 16, true, true⟩

def plain : Numeral := ⟨.up, none, none, false, false⟩

def isPlain (style : Numeral) (e : Int) : Bool :=
  style.plainFrom.all (· ≤ e) && style.plainBelow.all (e < ·)

def digits (n : Nat) : List Char := Nat.toDigits 10 n

def integer (n : Int) : List Char :=
  if n < 0 then '-' :: digits n.natAbs else digits n.natAbs

def layout (style : Numeral) (d : Decimal) : List Char :=
  let ds := digits d.digits
  let e : Int := d.exponent + ds.length - 1
  if style.isPlain e then
    if 0 ≤ d.exponent then
      ds ++ List.replicate d.exponent.toNat '0' ++ (if style.pointZero then ['.', '0'] else [])
    else if 0 ≤ e then
      ds.take (e.toNat + 1) ++ '.' :: ds.drop (e.toNat + 1)
    else
      '0' :: '.' :: List.replicate (-e - 1).toNat '0' ++ ds
  else
    let fraction := if ds.length = 1 then [] else '.' :: ds.drop 1
    let plus := if style.exponentPlus && 0 ≤ e then ['+'] else []
    ds.take 1 ++ fraction ++ 'e' :: plus ++ integer e

def write (style : Numeral) : Binary64 → List Char
  | .nan => ['N', 'a', 'N']
  | .infinite s => if s then ['-', 'i', 'n', 'f'] else ['i', 'n', 'f']
  | .finite s r =>
    let sign := if s then ['-'] else []
    let magnitude : Decimal := if r.val = 0 then ⟨0, 0⟩ else (Binary64.shortest style.tie r).strip
    sign ++ style.layout magnitude

def valueOf (ds : List Char) : Nat := Nat.ofDigitChars 10 ds 0

def natural? (cs : List Char) : Option Nat :=
  if cs ≠ [] ∧ cs.all Char.isDigit then some (valueOf cs) else none

def exponent? : List Char → Option Int
  | [] => some 0
  | c :: cs =>
    if c = 'e' ∨ c = 'E' then
      match cs with
      | '+' :: ds => (natural? ds).map fun n ↦ (n : Int)
      | '-' :: ds => (natural? ds).map fun n ↦ -(n : Int)
      | ds => (natural? ds).map fun n ↦ (n : Int)
    else none

/-- An unsigned decimal number: digits, a point and digits, an exponent. Either run of digits may be
empty but not both; point and exponent may be absent. -/
def decimal? (cs : List Char) : Option Decimal := do
  let whole := cs.takeWhile Char.isDigit
  let rest := cs.dropWhile Char.isDigit
  let (fraction, tail) := match rest with
    | '.' :: more => (more.takeWhile Char.isDigit, more.dropWhile Char.isDigit)
    | more => ([], more)
  let ds := whole ++ fraction
  if ds = [] then none
  let e ← exponent? tail
  return ⟨valueOf ds, e - fraction.length⟩

/-- A number after its sign: the words for infinity and for no number, in any case, or a decimal. -/
def unsigned? (negative : Bool) (cs : List Char) : Option Binary64 :=
  let lower := cs.map Char.toLower
  if lower = "inf".toList ∨ lower = "infinity".toList then some (.infinite negative)
  else if lower = "nan".toList then some .nan
  else (decimal? cs).map (Binary64.ofDecimal negative)

def read? : List Char → Option Binary64
  | '-' :: cs => unsigned? true cs
  | '+' :: cs => unsigned? false cs
  | cs => unsigned? false cs

end Numeral

end Stagecraft
