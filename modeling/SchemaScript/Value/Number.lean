/- # Values as numbers

A truth value counts as zero or one beside the whole and the floating numbers.  Numbers are the same if they
are equal, whatever they are written as.
-/
import SchemaScript.Value.Basic

namespace SchemaScript

/-- A number: a whole one, or a floating one. -/
inductive Number where
  | whole (n : Int)
  | real (x : Binary64)
deriving DecidableEq, Repr

namespace Number

/-- Whether a number equals a whole number. -/
def isWhole (a : Number) (n : Int) : Bool :=
  match a with
  | .whole m => m == n
  | .real x => x.toInt? == some n

/-- Whether two numbers are equal. -/
def same : Number → Number → Bool
  | .whole m, b => b.isWhole m
  | a, .whole n => a.isWhole n
  | .real x, .real y => x == y || (x.isZero && y.isZero)

/-- Whether a number is above zero. -/
def isPositive : Number → Bool
  | .whole n => decide (0 < n)
  | .real x => !x.negative && !x.isZero

/-- Whether a number is at least a whole number. -/
def reaches (a : Number) (n : Int) : Bool :=
  match a with
  | .whole m => decide (n ≤ m)
  | .real x => decide (n ≤ x.floor)

/-- Every number equals itself. -/
theorem same_self (a : Number) : a.same a = true := by
  cases a <;> simp [same, isWhole]

/-- It does not matter in which order two numbers are compared. -/
theorem same_comm (a b : Number) : a.same b = b.same a := by
  cases a <;> cases b <;> simp [same, isWhole, Bool.and_comm, Bool.beq_comm]

end Number

namespace Value

/-- A value as a number. -/
def number? : Value → Option Number
  | .bool b => some (.whole (if b then 1 else 0))
  | .int n => some (.whole n)
  | .real x => some (.real x)
  | _ => none

/-- A value as a whole number; a floating number is none, even if it equals one. -/
def whole? (v : Value) : Option Int :=
  match v.number? with
  | some (.whole n) => some n
  | _ => none

end Value

end SchemaScript
