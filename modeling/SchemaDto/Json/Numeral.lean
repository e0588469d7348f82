/-
# Numerals

A numeral is read as an integer where it has neither fraction nor exponent and
fits into 64 bits, and as a double otherwise.
-/
import SchemaDto.Json.Double

namespace SchemaDto.Json

/-- A decimal digit. -/
abbrev Digit := Fin 10

/-- A numeral as written.  An exponent comes with whether it is negative. -/
structure Numeral where
  negative : Bool
  whole : List Digit
  fraction : List Digit := []
  exponent : Option (Bool × List Digit) := none
deriving DecidableEq, Repr

/-- The value of a numeral. -/
inductive Number where
  | integer (value : Int)
  | double (negative : Bool) (magnitude : Double)
deriving DecidableEq, Repr

/-- The number that digits spell. -/
def digitsValue (digits : List Digit) : Nat :=
  digits.foldl (fun value digit => 10 * value + digit.val) 0

/-! ## Reading a numeral as a decimal -/

/-- The decimal `units * 10 ^ scale`, with units of at most 64 bits. -/
structure Decimal where
  units : Nat
  scale : Int
deriving DecidableEq, Repr

namespace Decimal

/-- A whole digit counts while the units stay within 64 bits; from the first one
that does not fit, whole digits only raise the scale. -/
def addWhole (d : Decimal) (digit : Digit) : Decimal :=
  if d.scale = 0 ∧ 10 * d.units + digit.val < Nat.pow 2 64 then ⟨10 * d.units + digit.val, 0⟩
  else ⟨d.units, d.scale + 1⟩

/-- Digits of the fraction count up to the first one that does not fit. -/
def addFraction (d : Decimal) : List Digit → Decimal
  | [] => d
  | digit :: rest =>
    if 10 * d.units + digit.val < Nat.pow 2 64 then
      addFraction ⟨10 * d.units + digit.val, d.scale - 1⟩ rest
    else d

/-- The largest power of ten that is a double. -/
def maxPower : Nat := 308

/-- The double `10 ^ n`, for `n` up to `maxPower`. -/
def power (n : Nat) : Double :=
  (Double.ofFraction? ⟨Nat.pow 10 n, 1⟩).getD .zero

/-- A double below `2 ^ 64` divided by `10 ^ n`, in steps of at most
`10 ^ maxPower`; two full steps leave nothing of it. -/
def divide (x : Double) (n : Nat) : Option Double :=
  if n ≤ maxPower then x.div? (power n)
  else if n ≤ 2 * maxPower then (x.div? (power maxPower)).bind (·.div? (power (n - maxPower)))
  else some .zero

/-- The double that a decimal is read as: the units are rounded first, then the
product or quotient with a power of ten.  Out of range there is none. -/
def double? (d : Decimal) : Option Double :=
  match Double.ofFraction? ⟨d.units, 1⟩ with
  | none => none
  | some x =>
    if d.scale < 0 then divide x (-d.scale).toNat
    else if d.scale ≤ maxPower then x.mul? (power d.scale.toNat)
    else if d.units = 0 then some .zero
    else none

end Decimal

namespace Numeral

/-- The decimal of the digits before the exponent. -/
def decimal (numeral : Numeral) : Decimal :=
  (numeral.whole.foldl Decimal.addWhole ⟨0, 0⟩).addFraction numeral.fraction

/-- The exponent as a number. -/
def exponentValue (numeral : Numeral) : Int :=
  match numeral.exponent with
  | none => 0
  | some (true, digits) => -(digitsValue digits : Int)
  | some (false, digits) => digitsValue digits

/-- The value of a numeral without fraction and exponent, where it is an
integer of 64 bits; a negative zero is none. -/
def integer? (numeral : Numeral) : Option Int :=
  let value := digitsValue numeral.whole
  if !numeral.fraction.isEmpty || numeral.exponent.isSome then none
  else if numeral.negative then
    if value = 0 ∨ Nat.pow 2 63 < value then none else some (-(value : Int))
  else if value < Nat.pow 2 64 then some value
  else none

/-- The value of a numeral; a double out of range has none. -/
def number? (numeral : Numeral) : Option Number :=
  match numeral.integer? with
  | some value => some (.integer value)
  | none =>
    let decimal := numeral.decimal
    (Decimal.double? ⟨decimal.units, decimal.scale + numeral.exponentValue⟩).map
      (.double numeral.negative)

/-- The numeral of an integer. -/
def ofInt (value : Int) : Numeral where
  negative := value < 0
  whole := (Nat.toDigits 10 value.natAbs).map fun c => Fin.ofNat 10 (c.toNat - 48)

end Numeral

/-! ## The text of a double -/

/-- Decimal exponents that are written without an exponent. -/
def isPositional (exponent : Int) : Bool := -5 ≤ exponent && exponent ≤ 15

/-- Copies of the digit zero. -/
def zeros (count : Int) : String := String.ofList (List.replicate count.toNat '0')

/-- The exponent always has a sign. -/
def exponentText (exponent : Int) : String :=
  (if exponent < 0 then "e-" else "e+") ++ toString exponent.natAbs

/-- The shortest decimal of a double, with a fraction or an exponent. -/
def Double.text (x : Double) : String :=
  if x.mantissa = 0 then "0.0" else
    let (units, scale) := x.shortest
    let digits := (toString units).toList
    let exponent : Int := scale + digits.length - 1
    if !isPositional exponent then
      String.ofList (digits.take 1) ++
        (if digits.length = 1 then "" else "." ++ String.ofList (digits.drop 1)) ++
        exponentText exponent
    else if 0 ≤ scale then String.ofList digits ++ zeros scale ++ ".0"
    else if 0 ≤ exponent then
      String.ofList (digits.take (exponent.toNat + 1)) ++ "." ++
        String.ofList (digits.drop (exponent.toNat + 1))
    else "0." ++ zeros (-exponent - 1) ++ String.ofList digits

end SchemaDto.Json
