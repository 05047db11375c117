/-!
# Binary floating point

Finite numbers of 53 significant bits, in exact integer arithmetic: rounding a
quotient to the nearest of them, and the shortest decimal digits that round
back to one.
-/

namespace Stockroom

/-- The number plus or minus `mantissa * 2 ^ exponent`. -/
structure Binary64 where
  negative : Bool
  mantissa : Nat
  exponent : Int
deriving DecidableEq, Repr

namespace Binary64

def leastExponent : Int := -1074

def greatestExponent : Int := 971

def zero : Binary64 := ⟨false, 0, leastExponent⟩

/-- The mantissas of 53 bits start here and end before twice as much. -/
def fullMantissa : Nat := 4503599627370496

/-- A quotient times a power of a base. -/
def scale (base : Nat) (power : Int) (numerator denominator : Nat) : Nat × Nat :=
  if 0 ≤ power then (numerator * Nat.pow base power.toNat, denominator)
  else (numerator, denominator * Nat.pow base (-power).toNat)

/-- The whole number nearest to a quotient, an even one if two are equally near. -/
def roundQuotient (numerator denominator : Nat) : Nat :=
  let whole := numerator / denominator
  let rest := numerator % denominator
  if denominator < 2 * rest ∨ (denominator = 2 * rest ∧ whole % 2 = 1) then whole + 1 else whole

/-- The exponent at which a positive quotient has 53 bits, or the least one there is. -/
def exponentOf (numerator denominator : Nat) : Int :=
  let estimate : Int := (numerator.log2 : Int) - denominator.log2 - 52
  let (scaled, unit) := scale 2 (-estimate) numerator denominator
  let exponent := if scaled < fullMantissa * unit then estimate - 1 else estimate
  max exponent leastExponent

/-- The float nearest to a quotient, unless it is too large for one. -/
def ofQuotient? (negative : Bool) (numerator denominator : Nat) : Option Binary64 :=
  if numerator = 0 then some { zero with negative := negative }
  else
    let exponent := exponentOf numerator denominator
    let (scaled, unit) := scale 2 (-exponent) numerator denominator
    let mantissa := roundQuotient scaled unit
    let rounded : Binary64 :=
      if mantissa = 2 * fullMantissa then ⟨negative, fullMantissa, exponent + 1⟩
      else ⟨negative, mantissa, exponent⟩
    if greatestExponent < rounded.exponent then none else some rounded

def ofNat? (number : Nat) : Option Binary64 :=
  ofQuotient? false number 1

/-- The rounded product of a float with a power of ten that is itself rounded. -/
def timesTenTo? (number : Binary64) (power : Nat) : Option Binary64 := do
  let factor ← ofNat? (Nat.pow 10 power)
  let (numerator, denominator) := scale 2 (number.exponent + factor.exponent)
    (number.mantissa * factor.mantissa) 1
  ofQuotient? number.negative numerator denominator

/-- The rounded quotient of a float by a power of ten that is itself rounded. -/
def overTenTo? (number : Binary64) (power : Nat) : Option Binary64 := do
  let divisor ← ofNat? (Nat.pow 10 power)
  let (numerator, denominator) := scale 2 (number.exponent - divisor.exponent)
    number.mantissa divisor.mantissa
  ofQuotient? number.negative numerator denominator

/-- Divides by powers of ten, at most 308 at a time and no more often than can matter. -/
def scaleDown? (number : Binary64) : (rounds : Nat) → (power : Nat) → Option Binary64
  | 0, _ => some { zero with negative := number.negative }
  | rounds + 1, power =>
    if power ≤ 308 then number.overTenTo? power
    else do scaleDown? (← number.overTenTo? 308) rounds (power - 308)

/-- The float for a whole number times a power of ten, unless it is too large for one. -/
def ofDecimal? (negative : Bool) (digits : Nat) (power : Int) : Option Binary64 := do
  let number ← ofNat? digits
  let signed := { number with negative := negative }
  if digits = 0 then some signed
  else if power < 0 then signed.scaleDown? 4 (-power).toNat
  else if power ≤ 308 then signed.timesTenTo? power.toNat
  else none

/-- The float as a quotient, without its sign. -/
def quotient (number : Binary64) : Nat × Nat :=
  scale 2 number.exponent number.mantissa 1

/-- Whether a decimal rounds to the float, its sign apart. -/
def isReadFrom (number : Binary64) (digits : Nat) (power : Int) : Bool :=
  let (numerator, denominator) := scale 10 power digits 1
  ofQuotient? number.negative numerator denominator == some number

/-- The exponent of the leading decimal digit of a positive quotient. -/
def leadingPower (numerator denominator : Nat) : Int :=
  let estimate : Int := (toString numerator).length - (toString denominator).length
  let (top, bottom) := scale 10 (-estimate) numerator denominator
  if top < bottom then estimate - 1 else estimate

/-- Among the decimals of `count` digits, the nearest one that rounds back to the float. -/
def digitsOfCount? (number : Binary64) (leading : Int) (count : Nat) : Option (Nat × Int) :=
  let power := leading - (count - 1 : Nat)
  let (numerator, denominator) := number.quotient
  let (top, bottom) := scale 10 (-power) numerator denominator
  let nearest := roundQuotient top bottom
  let below := top / bottom
  [nearest, below, below + 1].find? (fun digits => number.isReadFrom digits power)
    |>.map (fun digits => (digits, power))

/-- Drops the zeros at the end of a decimal. -/
def withoutZeros : (fuel : Nat) → Nat × Int → Nat × Int
  | 0, decimal => decimal
  | fuel + 1, (digits, power) =>
    if digits ≠ 0 ∧ digits % 10 = 0 then withoutZeros fuel (digits / 10, power + 1)
    else (digits, power)

/-- The fewest decimal digits that round back to a nonzero float, and the power of ten they
are multiplied with. -/
def shortest (number : Binary64) : Nat × Int :=
  let (numerator, denominator) := number.quotient
  let leading := leadingPower numerator denominator
  match (List.range' 1 17).findSome? (digitsOfCount? number leading) with
  | some decimal => withoutZeros 17 decimal
  | none => (0, 0)

/-- An exponent with its sign. -/
def exponentText (exponent : Int) : List Char :=
  'e' :: (if 0 ≤ exponent then ['+'] else []) ++ (toString exponent).toList

/-- Digits with the point at `point`: positional from five zeros after the point up to sixteen
digits before it, and with an exponent otherwise. -/
def layout (digits : List Char) (point : Int) : List Char :=
  let count : Int := digits.length
  if 0 < point ∧ point ≤ 16 then
    if count ≤ point then digits ++ List.replicate (point - count).toNat '0' ++ ['.', '0']
    else digits.take point.toNat ++ '.' :: digits.drop point.toNat
  else if -5 < point ∧ point ≤ 0 then
    '0' :: '.' :: List.replicate (-point).toNat '0' ++ digits
  else
    let fraction := digits.drop 1
    digits.take 1 ++ (if fraction.isEmpty then [] else '.' :: fraction) ++
      exponentText (point - 1)

/-- The text of a float: the fewest digits that round back to it, and always a point or an
exponent. -/
def text (number : Binary64) : String :=
  let sign := if number.negative then "-" else ""
  if number.mantissa = 0 then sign ++ "0.0"
  else
    let (digits, power) := number.shortest
    let written := (toString digits).toList
    sign ++ String.ofList (layout written (power + written.length))

example : (ofDecimal? false 15 (-1)).map text = some "1.5" := by decide +kernel

example : (ofDecimal? true 1 23).map text = some "-1e+23" := by decide +kernel

example : (ofDecimal? false 1 (-6)).map text = some "1e-6" := by decide +kernel

end Binary64

end Stockroom
