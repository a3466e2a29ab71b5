import GatewayAccess.Double.Scaled
import GatewayAccess.Double.Shortest
import GatewayAccess.Json.Numeral

/-! # JSON numbers

A numeral without point and exponent is an integer if it fits 64 bits, unsigned or, below zero,
signed; every other numeral is a double. An integer and a double are never equal. Doubles are
written with the fewest digits that read back, always recognisable as doubles.
-/

namespace GatewayAccess.Json

/-- Unsigned integers of 64 bits are below `2 ^ 64`. -/
def unsignedLimit : Nat := twoTo 64

/-- Signed integers of 64 bits are below `2 ^ 63`, and not below `-2 ^ 63`. -/
def signedLimit : Nat := twoTo 63

/-- A number as JSON data carries it. -/
inductive Number where
  /-- A natural number of 64 bits. -/
  | ofNat (n : Fin unsignedLimit)
  /-- The negative integer `-(n + 1)` of 64 bits. -/
  | negSucc (n : Fin signedLimit)
  /-- A finite double. -/
  | double (x : Double)
deriving DecidableEq

namespace Number

/-- Numbers of the same kind and value; the two zeros among the doubles are equal. -/
def sameValue : Number → Number → Bool
  | ofNat m, ofNat n => m == n
  | negSucc m, negSucc n => m == n
  | double x, double y => x == y
  | _, _ => false

instance : BEq Number := ⟨sameValue⟩

end Number

namespace Numeral

/-- Appends digits to a coefficient as long as it fits 64 bits; also the digits left. -/
def takeFitting (coefficient : Nat) : List Digit → Nat × List Digit
  | [] => (coefficient, [])
  | d :: ds =>
      if 10 * coefficient + d.val < unsignedLimit then takeFitting (10 * coefficient + d.val) ds
      else (coefficient, d :: ds)

/-- The scaled coefficient that a numeral is read as. Whole digits that no longer fit count into
the exponent, fraction digits that no longer fit count for nothing. -/
def decimal (n : Numeral) : Decimal :=
  let (whole, unread) := takeFitting 0 (digits n.whole)
  let (coefficient, unreadFraction) := takeFitting whole n.fraction
  ⟨coefficient,
    unread.length - (n.fraction.length - unreadFraction.length) + n.exponent.getD 0⟩

/-- The double that a numeral is read as; `none` when it is too large. -/
def double? (n : Numeral) : Option Number :=
  (Double.ofDecimal? n.negative n.decimal).map .double

/-- The number that a numeral stands for; `none` when it is too large for a double. -/
def number? (n : Numeral) : Option Number :=
  if n.fraction = [] ∧ n.exponent = none then
    if n.negative then
      if h : n.whole ≠ 0 ∧ n.whole ≤ signedLimit then some (.negSucc ⟨n.whole - 1, by omega⟩)
      else n.double?
    else if h : n.whole < unsignedLimit then some (.ofNat ⟨n.whole, h⟩)
    else n.double?
  else n.double?

/-- Doubles are written positionally when the exponent of the first digit is not below this, -/
def leastPositional : Int := -5

/-- and not above this. -/
def greatestPositional : Int := 15

/-- Digits around a point that stands after the digit of exponent `0`, with at least one digit
after it. The first digit has exponent `lead`. -/
def positional (negative : Bool) (ds : List Digit) (lead : Int) : Numeral :=
  if 0 ≤ lead then
    let count := lead.toNat + 1
    let whole := ds.take count ++ List.replicate (count - ds.length) Digit.zero
    let fraction := ds.drop count
    ⟨negative, ofDigits whole, if fraction = [] then [Digit.zero] else fraction, none⟩
  else
    ⟨negative, 0, List.replicate ((-lead).toNat - 1) Digit.zero ++ ds, none⟩

/-- Digits with a point after the first of them, if there are more, and the exponent of the
first. -/
def scientific (negative : Bool) (ds : List Digit) (lead : Int) : Numeral :=
  ⟨negative, ofDigits (ds.take 1), ds.drop 1, some lead⟩

/-- The numeral of a double that is not zero. -/
def ofDecimal (negative : Bool) (d : Decimal) : Numeral :=
  let ds := digits d.coefficient
  let lead := d.exponent + (ds.length - 1)
  let significant := (ds.reverse.dropWhile (· = Digit.zero)).reverse
  if leastPositional ≤ lead ∧ lead ≤ greatestPositional then positional negative significant lead
  else scientific negative significant lead

/-- The numeral of a double. -/
def ofDouble (x : Double) : Numeral :=
  if x.rank = 0 then ⟨x.negative, 0, [Digit.zero], none⟩
  else ofDecimal x.negative (Double.shortest x.rank)

/-- The numeral of a number. -/
def ofNumber : Number → Numeral
  | .ofNat n => ⟨false, n.val, [], none⟩
  | .negSucc n => ⟨true, n.val + 1, [], none⟩
  | .double x => ofDouble x

end Numeral

end GatewayAccess.Json
