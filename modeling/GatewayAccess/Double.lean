import GatewayAccess.Decimal

/-! # Finite doubles

A finite double is a sign and a rank: how many doubles lie between it and zero. The doubles from
zero upwards have ranks 0, 1, 2, … without gaps, so every value has one representation, apart from
the two signs of zero. Values are measured exactly, in units of `2 ^ -1074`, the least positive
double; rounding takes the nearest double, of two equally near the one with the even significand.
-/

namespace GatewayAccess

/-- The quotient rounded to the nearest integer, a half to the even neighbour. -/
def roundHalfEven (num den : Nat) : Nat :=
  let q := num / den
  let twice := 2 * (num % den)
  if twice < den then q
  else if den < twice then q + 1
  else q + q % 2

/-- A power of two. -/
def twoTo (e : Nat) : Nat := Nat.pow 2 e

namespace Double

/-- How many units make one. -/
def unitsPerOne : Nat := twoTo 1074

/-- How many doubles there are of each scale: half of the significands of 53 bits. -/
def ranksPerScale : Nat := twoTo 52

/-- The first rank that is no finite double. -/
def rankLimit : Nat := 2047 * ranksPerScale

/-- Neighbours at a rank are `2 ^ scale` units apart. -/
def scale (rank : Nat) : Nat := rank / ranksPerScale - 1

/-- The significand of the double of a rank. -/
def significand (rank : Nat) : Nat :=
  if rank < ranksPerScale then rank else ranksPerScale + rank % ranksPerScale

/-- The value of the double of a rank, in units. -/
def units (rank : Nat) : Nat := significand rank * twoTo (scale rank)

/-- The rank of the double nearest to `num / den`. It reaches `rankLimit` when the quotient is too
large for a finite double. -/
def nearest (num den : Nat) : Nat :=
  let scaled := num * unitsPerOne
  let scale := Nat.log2 (scaled / den) - 52
  scale * ranksPerScale + roundHalfEven scaled (den * twoTo scale)

/-- The rank of the product of two doubles. -/
def product (a b : Nat) : Nat := nearest (units a * units b) (unitsPerOne * unitsPerOne)

/-- The rank of the quotient of two doubles. -/
def quotient (a b : Nat) : Nat := nearest (units a) (units b)

end Double

/-- A finite double: a sign and a rank. Both zeros have rank zero. -/
structure Double where
  negative : Bool
  rank : Nat
  rank_lt : rank < Double.rankLimit
deriving DecidableEq

namespace Double

/-- The double of a sign and a rank, if the rank is that of a finite double. -/
def ofRank? (negative : Bool) (rank : Nat) : Option Double :=
  if h : rank < rankLimit then some ⟨negative, rank, h⟩ else none

/-- Equality of values: the two zeros are equal. -/
def sameValue (x y : Double) : Bool :=
  x.rank == y.rank && (x.negative == y.negative || x.rank == 0)

instance : BEq Double := ⟨sameValue⟩

end Double

end GatewayAccess
