import BemRules.Number.Basic

namespace BemRules.Binary64

/-- The number `significand * 2 ^ exponent`, of at most 53 binary digits. -/
structure Magnitude where
  significand : Nat
  exponent : Int
deriving DecidableEq, Repr

def zero : Magnitude := ⟨0, 0⟩

def hiddenBit : Nat := 0x10000000000000

def minExponent : Int := -1074

def maxExponent : Int := 971

/-- `n / d` rounded to an integer, a half to the even neighbour. -/
def halfEven (n d : Nat) : Nat :=
  let q := n / d
  let r := n % d
  if 2 * r < d then q else if d < 2 * r then q + 1 else q + q % 2

def shift (n d : Nat) (e : Int) : Nat × Nat :=
  if 0 ≤ e then (n, d * Nat.pow 2 e.toNat) else (n * Nat.pow 2 (-e).toNat, d)

def exponentOf (n d : Nat) : Int :=
  let low : Int := (Nat.log2 n : Int) - Nat.log2 d - 53
  let (p, q) := shift n d low
  max minExponent (if p < q * (2 * hiddenBit) then low else low + 1)

/-- The magnitude nearest to `n / d`; none when that lies beyond the largest one. -/
def nearest (n d : Nat) : Option Magnitude :=
  if n = 0 then some zero
  else
    let e := exponentOf n d
    let (p, q) := shift n d e
    let m := halfEven p q
    let rounded : Magnitude := if m = 2 * hiddenBit then ⟨hiddenBit, e + 1⟩ else ⟨m, e⟩
    if rounded.significand = 0 then some zero
    else if maxExponent < rounded.exponent then none else some rounded

def mul (a b : Magnitude) : Option Magnitude :=
  let (p, q) := shift (a.significand * b.significand) 1 (-(a.exponent + b.exponent))
  nearest p q

def div (a b : Magnitude) : Option Magnitude :=
  let (p, q) := shift a.significand b.significand (b.exponent - a.exponent)
  nearest p q

def maxPowerOfTen : Nat := 308

def powerOfTen (k : Nat) : Option Magnitude := nearest (Nat.pow 10 k) 1

def scaleDown (m : Magnitude) (k : Nat) : Option Magnitude :=
  if k ≤ maxPowerOfTen then (powerOfTen k).bind (div m)
  else if m.significand = 0 then some m
  else ((powerOfTen maxPowerOfTen).bind (div m)).bind fun r => scaleDown r (k - maxPowerOfTen)
termination_by k
decreasing_by simp only [maxPowerOfTen] at *; omega

/-- The digits and the power of ten are rounded first, and then their product or quotient once
more. -/
def ofDecimal (digits : Nat) (exponent : Int) : Option Magnitude :=
  (nearest digits 1).bind fun m =>
    if exponent < 0 then scaleDown m (-exponent).toNat
    else if exponent ≤ maxPowerOfTen then (powerOfTen exponent.toNat).bind (mul m)
    else if m.significand = 0 then some m else none

def decimalScale (n d : Nat) : Int :=
  let guess : Int := ((Nat.toDigits 10 n).length : Int) - (Nat.toDigits 10 d).length
  let reached :=
    if 0 ≤ guess then d * Nat.pow 10 guess.toNat ≤ n else d ≤ n * Nat.pow 10 (-guess).toNat
  if reached then guess else guess - 1

/-- The multiple of `10 ^ place` that lies next to the magnitude and reads back as it, if any: of
the two neighbours the nearer one, the even one when both are equally near. All quantities are
measured in quarters of the last binary place. -/
def neighbour (m : Magnitude) (place : Int) : Option Nat :=
  let e := m.exponent - 2
  let grid := Nat.pow 10 place.toNat * Nat.pow 2 (-e).toNat
  let unit := Nat.pow 2 e.toNat * Nat.pow 10 (-place).toNat
  let mid := 4 * m.significand * unit
  let low := (if m.significand = hiddenBit ∧ minExponent < m.exponent then 4 * m.significand - 1
    else 4 * m.significand - 2) * unit
  let high := (4 * m.significand + 2) * unit
  let inside (t : Nat) : Bool :=
    if m.significand % 2 = 0 then low ≤ t * grid && t * grid ≤ high
    else low < t * grid && t * grid < high
  let below := mid / grid
  let above := below + 1
  match inside below, inside above with
  | true, true =>
    let down := mid - below * grid
    let up := above * grid - mid
    if down < up then some below
    else if up < down then some above
    else some (below + below % 2)
  | true, false => some below
  | false, true => some above
  | false, false => none

def stripZeros : Nat → Nat → Int → Nat × Int
  | 0, digits, exponent => (digits, exponent)
  | fuel + 1, digits, exponent =>
    if digits % 10 = 0 then stripZeros fuel (digits / 10) (exponent + 1) else (digits, exponent)

def maxDigits : Nat := 17

def shortest (m : Magnitude) : Nat × Int :=
  if m.significand = 0 then (0, 0)
  else
    let (n, d) := shift m.significand 1 (-m.exponent)
    let scale := decimalScale n d
    let found := (List.range maxDigits).findSome? fun (k : Nat) =>
      let place := scale - k
      (neighbour m place).map fun t => (t, place)
    match found with
    | some (digits, place) => stripZeros maxDigits digits place
    | none => (0, 0)

end BemRules.Binary64

namespace BemRules.Double

/-- The double read from a decimal; none when it is too large. -/
def ofDecimal (negative : Bool) (digits : Nat) (exponent : Int) : Option Double :=
  (Binary64.ofDecimal digits exponent).map fun m =>
    let (digits, exponent) := Binary64.shortest m
    ⟨negative, digits, exponent⟩

end BemRules.Double
