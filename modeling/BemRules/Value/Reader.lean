import BemRules.Number.Rounding
import BemRules.Value.Basic

namespace BemRules.Value.Reader

/-- A reader takes the characters ahead and returns those left. -/
abbrev Read (α : Type) := List Char → Option (α × List Char)

def isBlank (c : Char) : Bool := c == ' ' || c == '\t' || c == '\n' || c == '\r'

def skipBlanks (cs : List Char) : List Char := cs.dropWhile isBlank

def expect (word : List Char) (cs : List Char) : Option (List Char) :=
  if word.isPrefixOf cs then some (cs.drop word.length) else none

def digit (c : Char) : Nat := c.toNat - '0'.toNat

def maxSignificand : Nat := 0xFFFFFFFFFFFFFFFF

def maxNegated : Nat := 0x8000000000000000

/-- The digits read so far, the digits of the text that were dropped since the significand is
full counting as powers of ten. -/
structure Decimal where
  significand : Nat := 0
  dropped : Nat := 0
  full : Bool := false

def Decimal.push (d : Decimal) (c : Char) : Decimal :=
  let next := 10 * d.significand + digit c
  if d.full || maxSignificand < next then { d with dropped := d.dropped + 1, full := true }
  else { d with significand := next }

def digits : Read (List Char)
  | cs =>
    match cs.takeWhile Char.isDigit with
    | [] => none
    | ds => some (ds, cs.dropWhile Char.isDigit)

def integerPart : Read (List Char)
  | '0' :: rest =>
    match rest with
    | c :: _ => if c.isDigit then none else some (['0'], rest)
    | [] => some (['0'], [])
  | cs => digits cs

def fractionPart : Read (Option (List Char))
  | '.' :: rest => (digits rest).map fun (ds, rest) => (some ds, rest)
  | cs => some (none, cs)

def natOf (ds : List Char) : Nat := ds.foldl (fun n c => 10 * n + digit c) 0

def exponentPart : Read (Option Int)
  | c :: rest =>
    if c == 'e' || c == 'E' then
      match rest with
      | '+' :: rest => (digits rest).map fun (ds, rest) => (some (natOf ds : Int), rest)
      | '-' :: rest => (digits rest).map fun (ds, rest) => (some (-(natOf ds : Int)), rest)
      | rest => (digits rest).map fun (ds, rest) => (some (natOf ds : Int), rest)
    else some (none, c :: rest)
  | [] => some (none, [])

def isInteger (negative : Bool) (d : Decimal) : Bool :=
  !d.full && (!negative || (0 < d.significand && d.significand ≤ maxNegated))

/-- The integer part, then the fraction, fill one significand: each digit of the fraction that
still fits lowers the exponent by one, each digit of the integer part that does not raises it. -/
def number (negative : Bool) : Read Number
  | cs => do
    let (whole, cs) ← integerPart cs
    let (fraction, cs) ← fractionPart cs
    let (exponent, cs) ← exponentPart cs
    let d := whole.foldl Decimal.push {}
    if fraction.isNone && exponent.isNone && isInteger negative d then
      some (.int (if negative then -d.significand else d.significand), cs)
    else
      let ds := fraction.getD []
      let e := ds.foldl Decimal.push { d with full := false }
      let kept : Int := ds.length - (e.dropped - d.dropped : Nat)
      let power : Int := exponent.getD 0 + d.dropped - kept
      (Double.ofDecimal negative e.significand power).map fun x => (.double x, cs)

def hexDigit? (c : Char) : Option Nat :=
  if c.isDigit then some (digit c)
  else if 'a' ≤ c ∧ c ≤ 'f' then some (c.toNat - 'a'.toNat + 10)
  else if 'A' ≤ c ∧ c ≤ 'F' then some (c.toNat - 'A'.toNat + 10)
  else none

def hexUnit? (a b c d : Char) : Option Nat := do
  let high := (← hexDigit? a) * 16 + (← hexDigit? b)
  let low := (← hexDigit? c) * 16 + (← hexDigit? d)
  return high * 256 + low

def simpleEscape? (c : Char) : Option Char :=
  match c with
  | '"' => some '"'
  | '\\' => some '\\'
  | '/' => some '/'
  | 'b' => some '\x08'
  | 'f' => some '\x0c'
  | 'n' => some '\n'
  | 'r' => some '\r'
  | 't' => some '\t'
  | _ => none

/-- The characters up to the closing quote. A character beyond the sixteen-bit range may be
written as two units, and half of such a pair does not stand alone. -/
def string : Read (List Char)
  | '"' :: rest => some ([], rest)
  | '\\' :: 'u' :: a :: b :: c :: d :: '\\' :: 'u' :: e :: f :: g :: h :: rest =>
    match hexUnit? a b c d with
    | none => none
    | some high =>
      if 0xD800 ≤ high && high < 0xDC00 then
        match hexUnit? e f g h with
        | none => none
        | some low =>
          if 0xDC00 ≤ low && low < 0xE000 then
            let code := 0x10000 + (high - 0xD800) * 0x400 + (low - 0xDC00)
            (string rest).map fun (s, rest) => (Char.ofNat code :: s, rest)
          else none
      else if 0xDC00 ≤ high && high < 0xE000 then none
      else
        (string ('\\' :: 'u' :: e :: f :: g :: h :: rest)).map
          fun (s, rest) => (Char.ofNat high :: s, rest)
  | '\\' :: 'u' :: a :: b :: c :: d :: rest =>
    match hexUnit? a b c d with
    | none => none
    | some unit =>
      if 0xD800 ≤ unit && unit < 0xE000 then none
      else (string rest).map fun (s, rest) => (Char.ofNat unit :: s, rest)
  | '\\' :: c :: rest =>
    match simpleEscape? c with
    | none => none
    | some c => (string rest).map fun (s, rest) => (c :: s, rest)
  | c :: rest =>
    if c.toNat < 32 then none else (string rest).map fun (s, rest) => (c :: s, rest)
  | [] => none

mutual

/-- One value behind any blanks; every level of nesting takes a unit of fuel. -/
def value : Nat → Read Value
  | 0, _ => none
  | fuel + 1, cs =>
    match skipBlanks cs with
    | '"' :: rest => (string rest).map fun (s, rest) => (.str (String.ofList s), rest)
    | '[' :: rest =>
      match skipBlanks rest with
      | ']' :: rest => some (.arr [], rest)
      | _ => (items fuel rest).map fun (vs, rest) => (.arr vs, rest)
    | '{' :: rest =>
      match skipBlanks rest with
      | '}' :: rest => some (.obj [], rest)
      | _ => (entries fuel rest).map fun (es, rest) => (.obj (Fields.ofEntries es), rest)
    | 'n' :: rest => (expect ['u', 'l', 'l'] rest).map fun rest => (.null, rest)
    | 't' :: rest => (expect ['r', 'u', 'e'] rest).map fun rest => (.bool true, rest)
    | 'f' :: rest => (expect ['a', 'l', 's', 'e'] rest).map fun rest => (.bool false, rest)
    | '-' :: rest => (number true rest).map fun (n, rest) => (.num n, rest)
    | cs => (number false cs).map fun (n, rest) => (.num n, rest)

def items : Nat → Read (List Value)
  | 0, _ => none
  | fuel + 1, cs => do
    let (v, cs) ← value fuel cs
    match skipBlanks cs with
    | ',' :: rest => (items fuel rest).map fun (vs, rest) => (v :: vs, rest)
    | ']' :: rest => some ([v], rest)
    | _ => none

def entries : Nat → Read (List (String × Value))
  | 0, _ => none
  | fuel + 1, cs => do
    let '"' :: cs := skipBlanks cs | none
    let (key, cs) ← string cs
    let ':' :: cs := skipBlanks cs | none
    let (v, cs) ← value fuel cs
    match skipBlanks cs with
    | ',' :: rest => (entries fuel rest).map fun (es, rest) => ((String.ofList key, v) :: es, rest)
    | '}' :: rest => some ([(String.ofList key, v)], rest)
    | _ => none

end

end BemRules.Value.Reader

namespace BemRules.Value

def ofText? (s : String) : Option Value :=
  let cs := s.toList
  match Reader.value (2 * cs.length + 2) cs with
  | some (v, rest) => if (Reader.skipBlanks rest).isEmpty then some v else none
  | none => none

end BemRules.Value
