/- # Numerals and padding

Whole numbers written in a base, to a least width, and texts padded to a least width.  A whole number of unknown
size is written only if it has not too many digits.
-/

namespace SchemaScript.Text

/-- A list with `fill` before it up to the least width. -/
def padLeft {α : Type} (width : Nat) (fill : α) (cs : List α) : List α :=
  List.replicate (width - cs.length) fill ++ cs

/-- A list with `fill` after it up to the least width. -/
def padRight {α : Type} (width : Nat) (fill : α) (cs : List α) : List α :=
  cs ++ List.replicate (width - cs.length) fill

/-- A padded text is at least as long as the width. -/
theorem le_length_padLeft {α : Type} (width : Nat) (fill : α) (cs : List α) :
    width ≤ (padLeft width fill cs).length := by
  simp [padLeft]; omega

/-- The numeral of `n` in a base up to sixteen, with leading zeros up to the width. -/
def numeral (base width n : Nat) : List Char := padLeft width '0' (Nat.toDigits base n)

/-- The decimal numeral of `n`, with leading zeros up to the width. -/
def decimal (width n : Nat) : String := String.ofList (numeral 10 width n)

/-- The decimal numeral of an integer, with a minus sign below zero. -/
def signedDecimal (n : Int) : String :=
  if n < 0 then "-" ++ decimal 1 n.natAbs else decimal 1 n.natAbs

/-! ## Too many digits -/

/-- The most digits that a whole number of unknown size is written with. -/
def digitLimit : Nat := 4300

/-- The least number with more than so many digits. -/
def beyondDigits (limit : Nat) : Nat := Nat.pow 10 limit

/-- Whether a whole number has not too many digits. -/
def hasNumeral (n : Int) : Bool := decide ((Nat.toDigits 10 n.natAbs).length ≤ digitLimit)

/-- Why whole numbers are not written. -/
inductive NumeralFault where
  | tooManyDigits
deriving DecidableEq, Repr

/-- The text of a fault. -/
def NumeralFault.message : NumeralFault → String
  | .tooManyDigits =>
    "Exceeds the limit (" ++ decimal 1 digitLimit ++ " digits) for integer string conversion; " ++
      "use sys.set_int_max_str_digits() to increase the limit"

/-- The size of a number decides about its digits. -/
theorem length_toDigits_le_iff {n limit : Nat} (hpos : 0 < limit) :
    (Nat.toDigits 10 n).length ≤ limit ↔ n < beyondDigits limit :=
  Nat.length_toDigits_le_iff (by decide) hpos

theorem hasNumeral_iff {n : Int} : hasNumeral n = true ↔ n.natAbs < beyondDigits digitLimit :=
  decide_eq_true_iff.trans (length_toDigits_le_iff (by decide))

end SchemaScript.Text
