import Stagecraft.Json.Basic

namespace Stagecraft.Json

structure NumberText where
  negative : Bool
  whole : List Char
  fraction : List Char
  /-- The exponent's sign, negative or not, and its digits. -/
  exponent : Option (Bool × List Char)
  /-- Whether a point was written. -/
  hasPoint : Bool

def significandBound : Nat := Nat.pow 2 64

def digitValue (c : Char) : Nat := c.toNat - '0'.toNat

/-- Gathers digits while the result stays below the bound; what is left over is passed over. -/
def gather : Nat → List Char → Nat × List Char
  | n, [] => (n, [])
  | n, c :: cs =>
    let m := n * 10 + digitValue c
    if m < significandBound then gather m cs else (n, c :: cs)

def tenTo (k : Nat) : Binary64 := Binary64.ofDecimal false ⟨1, k⟩

def times : Binary64 → Binary64 → Binary64
  | .finite _ a, .finite _ b => Binary64.mulMagnitude a b
  | _, _ => .infinite false

def dividedBy : Binary64 → Binary64 → Binary64
  | .finite _ a, .finite _ b => Binary64.divMagnitude a b
  | _, _ => .infinite false

def isZero : Binary64 → Bool
  | .finite _ r => r.val = 0
  | _ => false

/-- A magnitude times a power of ten, `none` if that is out of range. Very small powers are divided
out in steps of `10 ^ 308`; three steps leave nothing of a number below `2 ^ 64`. -/
def scaleBy : Nat → Binary64 → Int → Option Binary64
  | 0, x, _ => some x
  | fuel + 1, x, e =>
    if e.natAbs ≤ 308 then
      if 0 ≤ e then
        let y := times x (tenTo e.toNat)
        if y.isFinite then some y else none
      else some (dividedBy x (tenTo e.natAbs))
    else if isZero x then some x
    else if 0 ≤ e then none
    else scaleBy fuel (dividedBy x (tenTo 308)) (e + 308)

/-- A number without fraction and exponent that fits into 64 bits is an integer. Any other is rounded
twice: its digits are gathered to a number, and that is scaled by the power of ten. -/
def NumberText.value? (t : NumberText) : Option Json :=
  let (n, wholeLeft) := gather 0 t.whole
  if wholeLeft = [] ∧ ¬t.hasPoint ∧ t.exponent.isNone then
    if ¬t.negative then some (.integer n)
    else if 0 < n ∧ n ≤ Nat.pow 2 63 then some (.integer (-n))
    else some (.decimal (Binary64.ofInt n).neg)
  else
    let (m, fractionLeft) := gather n t.fraction
    let used := t.fraction.length - fractionLeft.length
    let written : Int := match t.exponent with
      | none => 0
      | some (negative, ds) =>
        let k : Int := Numeral.valueOf ds
        if negative then -k else k
    let e := wholeLeft.length - used + written
    (scaleBy 4 (Binary64.ofInt m) e).map fun x ↦ .decimal (if t.negative then x.neg else x)

inductive Fault where
  | malformed
  | truncated
  deriving DecidableEq

/-- A number text that cannot be read. Where the value is wanted, a text that ends before a digit of
its fraction or exponent is truncated; where it is passed over, it is malformed. -/
structure NumberFault where
  wanted : Fault

def endFault : List Char → Fault
  | [] => .truncated
  | _ => .malformed

def scanExponentDigits (negative : Bool) (cs : List Char) :
    Except NumberFault (Option (Bool × List Char) × List Char) :=
  let ds := cs.takeWhile Char.isDigit
  let rest := cs.dropWhile Char.isDigit
  if ds = [] then .error ⟨endFault rest⟩ else .ok (some (negative, ds), rest)

def scanExponent : List Char → Except NumberFault (Option (Bool × List Char) × List Char)
  | c :: cs =>
    if c = 'e' ∨ c = 'E' then
      match cs with
      | '+' :: ds => scanExponentDigits false ds
      | '-' :: ds => scanExponentDigits true ds
      | ds => scanExponentDigits false ds
    else .ok (none, c :: cs)
  | [] => .ok (none, [])

def scanUnsigned (negative : Bool) (cs : List Char) :
    Except NumberFault (NumberText × List Char) := do
  let whole := cs.takeWhile Char.isDigit
  let rest := cs.dropWhile Char.isDigit
  if whole = [] ∨ (1 < whole.length ∧ whole.head? = some '0') then throw ⟨.malformed⟩
  match rest with
  | '.' :: more =>
    let fraction := more.takeWhile Char.isDigit
    let tail := more.dropWhile Char.isDigit
    if fraction = [] then throw ⟨endFault tail⟩
    let (e, tail) ← scanExponent tail
    return (⟨negative, whole, fraction, e, true⟩, tail)
  | more =>
    let (e, tail) ← scanExponent more
    return (⟨negative, whole, [], e, false⟩, tail)

def scanNumber : List Char → Except NumberFault (NumberText × List Char)
  | '-' :: cs => scanUnsigned true cs
  | cs => scanUnsigned false cs

end Stagecraft.Json
