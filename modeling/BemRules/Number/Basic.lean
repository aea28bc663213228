namespace BemRules

/-- The binary64 number `digits * 10 ^ exponent`, negated if `negative`. The digits are the fewest
that read back as the number, without a trailing zero; a zero has exponent zero. -/
structure Double where
  negative : Bool
  digits : Nat
  exponent : Int
deriving DecidableEq, Repr, Inhabited

/-- An integer and a double are different numbers even where their values agree. -/
inductive Number where
  | int (n : Int)
  | double (d : Double)
deriving DecidableEq, Repr, Inhabited

namespace Double

def isZero (d : Double) : Bool := d.digits == 0

def same (a b : Double) : Bool := a == b || (a.isZero && b.isZero)

def scale (d : Double) : Int := d.exponent + (Nat.toDigits 10 d.digits).length - 1

/-- Plain decimals reach from a first digit in the fifth place behind the point to one in the
sixteenth place before it. -/
def isPositional (d : Double) : Bool := decide (-5 ≤ d.scale ∧ d.scale < 16)

def positional (digits : List Char) (exponent scale : Int) : List Char :=
  if 0 ≤ exponent then
    digits ++ List.replicate exponent.toNat '0' ++ ['.', '0']
  else if 0 ≤ scale then
    digits.take (scale.toNat + 1) ++ '.' :: digits.drop (scale.toNat + 1)
  else
    '0' :: '.' :: (List.replicate (-scale - 1).toNat '0' ++ digits)

def scientific (digits : List Char) (scale : Int) : List Char :=
  let mantissa := match digits with
    | d :: e :: rest => d :: '.' :: e :: rest
    | short => short
  let sign := if 0 ≤ scale then '+' else '-'
  mantissa ++ 'e' :: sign :: Nat.toDigits 10 scale.natAbs

def magnitudeText (d : Double) : List Char :=
  let digits := Nat.toDigits 10 d.digits
  if d.isPositional then positional digits d.exponent d.scale else scientific digits d.scale

def text (d : Double) : String :=
  String.ofList (if d.negative then '-' :: d.magnitudeText else d.magnitudeText)

end Double

namespace Number

def isZero : Number → Bool
  | .int n => n == 0
  | .double d => d.isZero

def same : Number → Number → Bool
  | .int m, .int n => m == n
  | .double a, .double b => a.same b
  | _, _ => false

def text : Number → String
  | .int n => toString n
  | .double d => d.text

end Number

end BemRules
