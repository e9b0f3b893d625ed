/- # Double-precision numbers

A finite number of the binary64 format, held as a sign and `mantissa · 2 ^ exponent`.  Reading a
decimal rounds to the nearest such number; writing one finds the shortest decimal that reads back.
All of it is exact arithmetic on natural numbers.
-/
import SchemaScript.Text.Numeral

namespace SchemaScript

/-- A finite binary64 number: `± mantissa · 2 ^ exponent`. -/
structure Binary64 where
  negative : Bool
  mantissa : Nat
  exponent : Int
deriving DecidableEq, Repr, Inhabited

namespace Binary64

/-- The least exponent of the format. -/
def minExponent : Int := -1074

/-- The greatest exponent of the format. -/
def maxExponent : Int := 971

/-- The first mantissa that is too large, `2 ^ 53`. -/
def mantissaBound : Nat := 0x20000000000000

/-- The quotient rounded to the nearest whole number, a half to the even neighbour. -/
def roundDiv (num den : Nat) : Nat :=
  let q := num / den
  let r := num % den
  if den < 2 * r || (2 * r == den && q % 2 == 1) then q + 1 else q

/-- The fraction `num / den`, multiplied by `base ^ power`. -/
def scale (base : Nat) (power : Int) (num den : Nat) : Nat × Nat :=
  if 0 ≤ power then (num * base.pow power.toNat, den) else (num, den * base.pow (-power).toNat)

/-- The exponent at which a fraction has a mantissa of 53 bits, or the least one. -/
def exponentFor (num den : Nat) : Int :=
  let guess : Int := (Nat.log2 num : Int) - Nat.log2 den - 53
  let (n, d) := scale 2 (-guess) num den
  max minExponent (if mantissaBound ≤ n / d then guess + 1 else guess)

/-- The number nearest to `num / den`, a half going to the even mantissa; `none` when it is too
large for the format. -/
def ofFraction? (negative : Bool) (num den : Nat) : Option Binary64 :=
  if num = 0 then some ⟨negative, 0, minExponent⟩ else
  let e := exponentFor num den
  let (n, d) := scale 2 (-e) num den
  let m := roundDiv n d
  let (m, e) := if m = mantissaBound then (m / 2, e + 1) else (m, e)
  if maxExponent < e then none else some ⟨negative, m, e⟩

/-- The number nearest to `digits · 10 ^ power`.  A decimal below `10 ^ -324` is nearest to zero, and one from
`10 ^ 309` on is too large, so that neither needs to be scaled. -/
def ofDecimal? (negative : Bool) (digits : Nat) (power : Int) : Option Binary64 :=
  let lead : Int := power + (Nat.toDigits 10 digits).length
  if digits = 0 ∨ lead < -323 then some ⟨negative, 0, minExponent⟩
  else if 309 < lead then none
  else
    let (n, d) := scale 10 power digits 1
    ofFraction? negative n d

/-- The magnitude as a fraction. -/
def fraction (x : Binary64) : Nat × Nat := scale 2 x.exponent x.mantissa 1

/-- Whether the number is zero, of either sign. -/
def isZero (x : Binary64) : Bool := x.mantissa == 0

/-- The whole number it is equal to, if there is one. -/
def toInt? (x : Binary64) : Option Int :=
  let (n, d) := x.fraction
  if n % d = 0 then some (if x.negative then -(n / d : Nat) else (n / d : Nat)) else none

/-- The whole part, toward zero. -/
def truncate (x : Binary64) : Int :=
  let (n, d) := x.fraction
  if x.negative then -(n / d : Nat) else (n / d : Nat)

/-- The greatest whole number that is not above it. -/
def floor (x : Binary64) : Int :=
  let (n, d) := x.fraction
  if x.negative then -((n + d - 1) / d : Nat) else (n / d : Nat)

/-- The power of ten of the leading digit of `num / den`. -/
def leadingPower (num den : Nat) : Int :=
  let guess : Int := ((Nat.toDigits 10 num).length : Int) - (Nat.toDigits 10 den).length
  let (n, d) := scale 10 (-guess) num den
  if n < d then guess - 1 else guess

/-- Whether the decimal `digits · 10 ^ power` reads back as the magnitude of `x`. -/
def readsBack (x : Binary64) (digits : Nat) (power : Int) : Bool :=
  ofDecimal? x.negative digits power == some x

/-- Of the two decimals with `count` digits next to the magnitude, the one that reads back; of two
such the nearer. -/
def decimalOf? (x : Binary64) (count : Nat) : Option (Nat × Int) :=
  let (num, den) := x.fraction
  let power := leadingPower num den - (count - 1 : Nat)
  let (n, d) := scale 10 (-power) num den
  let below := n / d
  let nearest := roundDiv n d
  let other := if nearest = below then below + 1 else below
  if x.readsBack nearest power then some (nearest, power)
  else if x.readsBack other power then some (other, power)
  else none

/-- The shortest decimal that reads back, as digits and a power of ten; zero is `0 · 10 ^ 0`. -/
def shortest (x : Binary64) : Nat × Int :=
  if x.isZero then (0, 0) else
  ((List.range 17).findSome? fun i => x.decimalOf? (i + 1)).getD (x.mantissa, x.exponent)

/-- The magnitude rounded to `count` significant digits, as digits and a power of ten. -/
def significant (x : Binary64) (count : Nat) : Nat × Int :=
  if x.isZero then (0, -(count - 1 : Nat)) else
  let (num, den) := x.fraction
  let power := leadingPower num den - (count - 1 : Nat)
  let (n, d) := scale 10 (-power) num den
  let digits := roundDiv n d
  if Nat.pow 10 count ≤ digits then (digits / 10, power + 1) else (digits, power)

/-- The magnitude with a fixed number of decimal places. -/
def fixed (x : Binary64) (places : Nat) : List Char :=
  let (num, den) := x.fraction
  let scaled := Text.numeral 10 (places + 1) (roundDiv (num * Nat.pow 10 places) den)
  let whole := scaled.length - places
  if places = 0 then scaled else scaled.take whole ++ '.' :: scaled.drop whole

/-- A power of ten after its letter: a sign and at least two digits. -/
def exponentText (letter : Char) (power : Int) : List Char :=
  letter :: (if power < 0 then '-' else '+') :: Text.numeral 10 2 power.natAbs

/-- Digits with a point after the first, if there are more. -/
def pointAfterFirst : List Char → List Char
  | [] => []
  | [d] => [d]
  | d :: rest => d :: '.' :: rest

/-- The text of a number: the shortest decimal that reads back, positional with at least one decimal
place from `10 ^ -4` up to below `10 ^ 16`, otherwise with a power of ten. -/
def text (x : Binary64) : String :=
  let (digits, power) := x.shortest
  let ds := (Nat.toDigits 10 digits).reverse.dropWhile (· == '0') |>.reverse
  let ds := if ds.isEmpty then ['0'] else ds
  let lead : Int := power + ((Nat.toDigits 10 digits).length - 1 : Nat)
  let sign := if x.negative then ['-'] else []
  let body :=
    if lead < -4 || 16 ≤ lead then pointAfterFirst ds ++ exponentText 'e' lead
    else if lead < 0 then
      '0' :: '.' :: (List.replicate ((-lead).toNat - 1) '0' ++ ds)
    else
      let whole := lead.toNat + 1
      let padded := Text.padRight whole '0' ds
      padded.take whole ++ '.' :: (if ds.length ≤ whole then ['0'] else padded.drop whole)
  String.ofList (sign ++ body)

end Binary64

end SchemaScript
