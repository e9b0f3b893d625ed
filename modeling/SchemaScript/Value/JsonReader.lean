/- # Reading JSON text

A reader of JSON texts into values.  It takes numbers without point and exponent as whole numbers,
keeps fields in the order of the text, of two with one name the place of the first and the value of the
second, and accepts nothing after the value but blanks.  Each step
consumes a code point, so the length of the text bounds the depth of the reading.
-/
import SchemaScript.Value.Json

namespace SchemaScript.Value.Json

/-- Skips the blanks that JSON allows between its parts. -/
def skipBlanks (t : Text) : Text :=
  t.dropWhile (·.is fun c => c == ' ' || c == '\t' || c == '\n' || c == '\r')

/-- The value of a hexadecimal digit. -/
def hexDigit? (p : Point) : Option Nat :=
  p.char?.bind fun c =>
    if '0' ≤ c ∧ c ≤ '9' then some (c.toNat - 48)
    else if 'a' ≤ c ∧ c ≤ 'f' then some (c.toNat - 87)
    else if 'A' ≤ c ∧ c ≤ 'F' then some (c.toNat - 55)
    else none

/-- The UTF-16 unit that four hexadecimal digits stand for. -/
def unit? (a b c d : Point) : Option Nat := do
  let a ← hexDigit? a
  let b ← hexDigit? b
  let c ← hexDigit? c
  let d ← hexDigit? d
  return ((a * 16 + b) * 16 + c) * 16 + d

/-- The character that the letter after a backslash stands for. -/
def escaped? (p : Point) : Option Char :=
  match p with
  | .char '"' => some '"'
  | .char '\\' => some '\\'
  | .char '/' => some '/'
  | .char 'b' => some '\x08'
  | .char 'f' => some '\x0c'
  | .char 'n' => some '\n'
  | .char 'r' => some '\r'
  | .char 't' => some '\t'
  | _ => none

/-- Whether a UTF-16 unit is the first half of a pair. -/
def isHighHalf (u : Nat) : Bool := 0xd800 ≤ u && u < 0xdc00

/-- Whether a UTF-16 unit is the second half of a pair. -/
def isLowHalf (u : Nat) : Bool := 0xdc00 ≤ u && u < 0xe000

/-- Whether a code point may stand in a string as it is: the control characters may not. -/
def isStringPoint (p : Point) : Bool := 32 ≤ p.code

/-- Reads a string after its opening quote: its code points, and the text after the closing quote.
Two halves of a pair that follow each other are one character. -/
def readString : Text → Option (Text × Text)
  | [] => none
  | .char '"' :: rest => some ([], rest)
  | .char '\\' :: .char 'u' :: a :: b :: c :: d ::
      .char '\\' :: .char 'u' :: e :: f :: g :: h :: rest => do
    let u ← unit? a b c d
    let v ← unit? e f g h
    if isHighHalf u && isLowHalf v then
      let (s, after) ← readString rest
      return (.char (Char.ofNat (0x10000 + (u - 0xd800) * 0x400 + (v - 0xdc00))) :: s, after)
    else
      let (s, after) ← readString (.char '\\' :: .char 'u' :: e :: f :: g :: h :: rest)
      return (.ofNat u :: s, after)
  | .char '\\' :: .char 'u' :: a :: b :: c :: d :: rest => do
    let u ← unit? a b c d
    let (s, after) ← readString rest
    return (.ofNat u :: s, after)
  | .char '\\' :: p :: rest => do
    let e ← escaped? p
    let (s, after) ← readString rest
    return (.char e :: s, after)
  | p :: rest =>
    if isStringPoint p then do
      let (s, after) ← readString rest
      return (p :: s, after)
    else none

/-- The number that decimal digits write. -/
def natOfDigits (ds : List Char) : Nat := ds.foldl (fun n d => n * 10 + (d.toNat - 48)) 0

/-- The digits at the start of a text, and the text after them. -/
def spanDigits (t : Text) : List Char × Text :=
  let (ds, after) := t.span (·.is Char.isDigit)
  (ds.filterMap Point.char?, after)

/-- The digits of the whole part of a number, and the text after them: a zero stands alone. -/
def readWhole : Text → Option (List Char × Text)
  | .char '0' :: rest => some (['0'], rest)
  | t =>
    match spanDigits t with
    | ([], _) => none
    | r => some r

/-- The digits after a point, if there are any, and the text after them. -/
def readPlaces : Text → Option (List Char) × Text
  | .char '.' :: rest =>
    match spanDigits rest with
    | ([], _) => (none, .char '.' :: rest)
    | (ds, after) => (some ds, after)
  | t => (none, t)

/-- The digits of a power of ten, if there are any, and the text after them. -/
def readPower (t : Text) : Option Int × Text :=
  let digits (sign : Int) (rest : Text) : Option Int × Text :=
    match spanDigits rest with
    | ([], _) => (none, t)
    | (ds, after) => (some (sign * natOfDigits ds), after)
  match t with
  | e :: rest =>
    if e.is fun c => c == 'e' || c == 'E' then
      match rest with
      | .char '-' :: rest => digits (-1) rest
      | .char '+' :: rest => digits 1 rest
      | rest => digits 1 rest
    else (none, t)
  | [] => (none, t)

/-- Reads the digits and exponent of a number after its sign. -/
def readMagnitude (negative : Bool) (t : Text) : Option (Value × Text) := do
  let (whole, rest) ← readWhole t
  let (places, rest) := readPlaces rest
  let (power, rest) := readPower rest
  if places.isNone && power.isNone then
    let n : Int := natOfDigits whole
    return (.int (if negative then -n else n), rest)
  else
    let places := places.getD []
    let x ← Binary64.ofDecimal? negative (natOfDigits (whole ++ places))
      (power.getD 0 - places.length)
    return (.real x, rest)

/-- Reads a number. -/
def readNumber : Text → Option (Value × Text)
  | .char '-' :: rest => readMagnitude true rest
  | t => readMagnitude false t

mutual

/-- Reads one value at the start of a text, and gives the text after it. -/
def readValue : Nat → Text → Option (Value × Text)
  | 0, _ => none
  | fuel + 1, t =>
    match skipBlanks t with
    | .char 'n' :: .char 'u' :: .char 'l' :: .char 'l' :: rest => some (.null, rest)
    | .char 't' :: .char 'r' :: .char 'u' :: .char 'e' :: rest => some (.bool true, rest)
    | .char 'f' :: .char 'a' :: .char 'l' :: .char 's' :: .char 'e' :: rest =>
      some (.bool false, rest)
    | .char '"' :: rest => do
      let (s, after) ← readString rest
      return (.text s, after)
    | .char '[' :: rest =>
      match skipBlanks rest with
      | .char ']' :: after => some (.list [], after)
      | body => do
        let (xs, after) ← readItems fuel body
        return (.list xs, after)
    | .char '\x7b' :: rest =>
      match skipBlanks rest with
      | .char '\x7d' :: after => some (.record [], after)
      | body => do
        let (fs, after) ← readFields fuel body
        return (.record (Fields.merge [] fs), after)
    | body => readNumber body

/-- Reads the items of a list up to its closing bracket. -/
def readItems : Nat → Text → Option (List Value × Text)
  | 0, _ => none
  | fuel + 1, t => do
    let (x, rest) ← readValue fuel t
    match skipBlanks rest with
    | .char ',' :: body => do
      let (xs, after) ← readItems fuel body
      return (x :: xs, after)
    | .char ']' :: after => return ([x], after)
    | _ => none

/-- Reads the fields of a record up to its closing brace. -/
def readFields : Nat → Text → Option (List (Text × Value) × Text)
  | 0, _ => none
  | fuel + 1, t =>
    match skipBlanks t with
    | .char '"' :: body => do
      let (name, rest) ← readString body
      match skipBlanks rest with
      | .char ':' :: body => do
        let (v, rest) ← readValue fuel body
        match skipBlanks rest with
        | .char ',' :: body => do
          let (fs, after) ← readFields fuel body
          return ((name, v) :: fs, after)
        | .char '\x7d' :: after => return ([(name, v)], after)
        | _ => none
      | _ => none
    | _ => none

end

end Json

/-- The value that a JSON text writes. -/
def ofJson? (t : Text) : Option Value :=
  match Json.readValue (2 * t.length + 1) t with
  | some (v, rest) => if (Json.skipBlanks rest).isEmpty then some v else none
  | none => none

end SchemaScript.Value
