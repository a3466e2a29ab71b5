import GatewayAccess.Double

/-! # Doubles from scaled coefficients

How a coefficient and a power of ten become a double: the coefficient is rounded to a double first
and is then multiplied or divided once by the double nearest to the power. Powers beyond the
largest finite one are divided off in steps of `10 ^ 308`. Because two roundings take part, the
result can be a neighbour of the double nearest to the exact value.
-/

namespace GatewayAccess.Double

/-- The largest power of ten below the limit of finite doubles. -/
def maxTenPower : Nat := 308

/-- The rank of the double nearest to a power of ten. -/
def tenPower (e : Nat) : Nat := nearest (tenTo e) 1

/-- Divides by `10 ^ e`, in steps of the largest power while there is something left to divide. -/
def divideByTenPower (rank e : Nat) : Nat :=
  if e ≤ maxTenPower then quotient rank (tenPower e)
  else if rank = 0 then 0
  else divideByTenPower (quotient rank (tenPower maxTenPower)) (e - maxTenPower)
termination_by e
decreasing_by
  simp only [maxTenPower] at *
  omega

/-- Multiplies by `10 ^ e`. Only zero can be multiplied by a power beyond the largest. -/
def timesTenPower (rank e : Nat) : Nat :=
  if e ≤ maxTenPower then product rank (tenPower e)
  else if rank = 0 then 0
  else rankLimit

/-- The double of a signed scaled coefficient; `none` when it is too large. -/
def ofDecimal? (negative : Bool) (d : Decimal) : Option Double :=
  let rank := nearest d.coefficient 1
  ofRank? negative <|
    if 0 ≤ d.exponent then timesTenPower rank d.exponent.natAbs
    else divideByTenPower rank d.exponent.natAbs

end GatewayAccess.Double
