import GatewayAccess.Double

/-! # Fewest digits that read back

The decimal that stands for a double: of all decimals whose nearest double it is, those with the
fewest digits, of these the nearest, and of two equally near the even one. For each number of
digits only the two neighbours of the double on that decimal grid can qualify.
-/

namespace GatewayAccess.Double

/-- The rank of the double nearest to a decimal. -/
def nearestToDecimal (d : Decimal) : Nat :=
  nearest (d.coefficient * tenTo d.exponent.toNat) (tenTo (-d.exponent).toNat)

/-- The quotient of the double of a rank and `10 ^ e`, as numerator and denominator. -/
def overTenPower (rank : Nat) (e : Int) : Nat × Nat :=
  (units rank * tenTo (-e).toNat, unitsPerOne * tenTo e.toNat)

/-- The multiple of `10 ^ e` that stands for a double, if one of its two neighbours reads back. -/
def onGrid? (rank : Nat) (e : Int) : Option Decimal :=
  let (num, den) := overTenPower rank e
  let below : Decimal := ⟨num / den, e⟩
  let above : Decimal := ⟨num / den + 1, e⟩
  match nearestToDecimal below == rank, nearestToDecimal above == rank with
  | true, true => some ⟨roundHalfEven num den, e⟩
  | true, false => some below
  | false, true => some above
  | false, false => none

/-- The exponent of the first decimal digit. The least positive double is above `10 ^ -324`. -/
def leadingExponent (rank : Nat) : Int :=
  (digits (units rank * tenTo 324 / unitsPerOne)).length - 325

/-- The shortest decimal of a double; seventeen digits always read back. -/
def shortest (rank : Nat) : Decimal :=
  let lead := leadingExponent rank
  let tries := (List.range 16).findSome? fun (i : Nat) => onGrid? rank (lead - i)
  tries.getD <|
    let (num, den) := overTenPower rank (lead - 16)
    ⟨roundHalfEven num den, lead - 16⟩

end GatewayAccess.Double
