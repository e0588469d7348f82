/-
# Double-precision numbers

Finite doubles as exact fractions: rounding a quotient to the nearest double,
multiplying, dividing, and the shortest decimal that reads back as the same
double.
-/

namespace SchemaDto.Json

/-- The non-negative double `mantissa * 2 ^ exponent`.  The mantissa has at most
53 bits, and the exponent is as small as that and the format allow. -/
structure Double where
  mantissa : Nat
  exponent : Int
deriving DecidableEq, Repr, Inhabited

/-- A non-negative fraction. -/
structure Fraction where
  num : Nat
  den : Nat
deriving Repr

namespace Fraction

/-- The fraction times a power of two. -/
def shift (q : Fraction) (exponent : Int) : Fraction :=
  if 0 ≤ exponent then ⟨q.num * Nat.pow 2 exponent.toNat, q.den⟩
  else ⟨q.num, q.den * Nat.pow 2 (-exponent).toNat⟩

/-- The fraction times a power of ten. -/
def scale (q : Fraction) (exponent : Int) : Fraction :=
  if 0 ≤ exponent then ⟨q.num * Nat.pow 10 exponent.toNat, q.den⟩
  else ⟨q.num, q.den * Nat.pow 10 (-exponent).toNat⟩

/-- The natural number nearest to the fraction; a half goes to the even
neighbour. -/
def round (q : Fraction) : Nat :=
  let floor := q.num / q.den
  let twice := 2 * (q.num % q.den)
  if q.den < twice || (twice == q.den && floor % 2 == 1) then floor + 1 else floor

/-- Comparison by cross-multiplication. -/
def lt (p q : Fraction) : Bool := p.num * q.den < q.num * p.den

end Fraction

namespace Double

/-- The double zero. -/
def zero : Double := ⟨0, -1074⟩

/-- The exponent of the doubles around a fraction: mantissas take 53 bits, but
no exponent is below -1074. -/
def exponentOf (q : Fraction) : Int :=
  let guess : Int := (q.num.log2 : Int) - q.den.log2 - 52
  let exponent := if ((q.shift (-guess)).num / (q.shift (-guess)).den) < Nat.pow 2 52
    then guess - 1 else guess
  max exponent (-1074)

/-- The double nearest to a fraction, unless it is out of range. -/
def ofFraction? (q : Fraction) : Option Double :=
  if q.num = 0 then some zero else
    let exponent := exponentOf q
    let mantissa := (q.shift (-exponent)).round
    let rounded : Double :=
      if mantissa = Nat.pow 2 53 then ⟨Nat.pow 2 52, exponent + 1⟩ else ⟨mantissa, exponent⟩
    if rounded.exponent ≤ 971 then some rounded else none

/-- The exact value. -/
def toFraction (x : Double) : Fraction :=
  Fraction.shift ⟨x.mantissa, 1⟩ x.exponent

/-- The nearest double to a product. -/
def mul? (x y : Double) : Option Double :=
  let p := x.toFraction
  let q := y.toFraction
  ofFraction? ⟨p.num * q.num, p.den * q.den⟩

/-- The nearest double to a quotient. -/
def div? (x y : Double) : Option Double :=
  let p := x.toFraction
  let q := y.toFraction
  ofFraction? ⟨p.num * q.den, p.den * q.num⟩

/-! ## The shortest decimal -/

/-- A decimal reads back as the double: it lies between the midpoints to the two
neighbours, which count where the mantissa is even. -/
def reads (x : Double) (q : Fraction) : Bool :=
  let quarter := x.exponent - 2
  -- Below a power of two the neighbour is only half as far away.
  let below := if x.mantissa = Nat.pow 2 52 && x.exponent != -1074 then 1 else 2
  let low := Fraction.shift ⟨4 * x.mantissa - below, 1⟩ quarter
  let high := Fraction.shift ⟨4 * x.mantissa + 2, 1⟩ quarter
  if x.mantissa % 2 = 0 then !q.lt low && !high.lt q else low.lt q && q.lt high

/-- The multiples of `10 ^ exponent` next to the double that read back as it,
nearest first. -/
def candidates (x : Double) (exponent : Int) : List Nat :=
  let exact := x.toFraction.scale (-exponent)
  let floor := exact.num / exact.den
  let nearest := exact.round
  let other := if nearest = floor then floor + 1 else floor
  [nearest, other].filter fun units => 0 < units && x.reads (Fraction.scale ⟨units, 1⟩ exponent)

/-- The exponents of ten at which a double can have its last digit, coarsest
first. -/
def decimalExponents : List Int :=
  (List.range 660).map fun (k : Nat) => 310 - (k : Int)

/-- The fewest digits that read back as the double, as units and the power of
ten that they count; of two such decimals the nearer one. -/
def shortest (x : Double) : Nat × Int :=
  (decimalExponents.findSome? fun exponent =>
    (x.candidates exponent).head?.map fun units => (units, exponent)).getD (0, 0)

end Double

end SchemaDto.Json
