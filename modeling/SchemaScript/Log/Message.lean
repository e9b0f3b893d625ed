/- # Messages with arguments

A message is a text with directives: a percent sign, perhaps a key between brackets, flags, a width and a
precision, and a letter that says how an argument is written.  A message without arguments is taken as it
is.  Reading the directives and supplying the arguments are two steps: `Part.ofTemplate` reads, and
`Message.format` supplies.
-/
import SchemaScript.Value.Shown

namespace SchemaScript.Log

/-- Why a message cannot be written. -/
inductive MessageFault where
  | tooFewArguments
  | tooManyArguments
  /-- A directive has a key, and the arguments have no names. -/
  | namesNeeded
  /-- No argument has the key of a directive. -/
  | unknownKey (key : Text)
  /-- The bracket around a key is not closed. -/
  | unclosedKey
  /-- The message ends within a directive. -/
  | incomplete
  /-- A width or precision is too large. -/
  | tooBig (what : String)
  /-- A width or precision is to be taken from an argument that is not a whole number. -/
  | sizeNeeded
  /-- A width or precision taken from an argument does not fit its machine type. -/
  | sizeRange (machineType : String)
  /-- The letter of a directive needs a number. -/
  | numberNeeded (letter : Char) (kind : String)
  /-- The letter of a directive needs a whole number. -/
  | wholeNeeded (letter : Char) (kind : String)
  /-- The letter of a directive needs a number that may have decimal places. -/
  | realNeeded (kind : String)
  | characterNeeded
  | characterRange
  | realRange
  /-- The precision of a whole number is too large. -/
  | hugePrecision
  /-- The message would be longer than any message can be. -/
  | tooLong
  /-- No directive has this letter. -/
  | unknownLetter (letter : Point) (index : Nat)
deriving DecidableEq, Repr

namespace MessageFault

/-- The text of a fault. -/
def message : MessageFault → String
  | .tooFewArguments => "not enough arguments for format string"
  | .tooManyArguments => "not all arguments converted during string formatting"
  | .namesNeeded => "format requires a mapping"
  | .unknownKey key => Text.quoted key
  | .unclosedKey => "incomplete format key"
  | .incomplete => "incomplete format"
  | .tooBig what => what ++ " too big"
  | .sizeNeeded => "* wants int"
  | .sizeRange machineType => "Python int too large to convert to C " ++ machineType
  | .numberNeeded letter kind =>
    "%" ++ letter.toString ++ " format: a real number is required, not " ++ kind
  | .wholeNeeded letter kind =>
    "%" ++ letter.toString ++ " format: an integer is required, not " ++ kind
  | .realNeeded kind => "must be real number, not " ++ kind
  | .characterNeeded => "%c requires int or char"
  | .characterRange => "%c arg not in range(0x110000)"
  | .realRange => "int too large to convert to float"
  | .hugePrecision => "precision too large"
  | .tooLong => ""
  | .unknownLetter letter index =>
    "unsupported format character '" ++
      (if 31 ≤ letter.code ∧ letter.code ≤ 126 then letter.shown else '?').toString ++ "' (0x" ++
      String.ofList (Text.numeral 16 1 letter.code) ++ ") at index " ++ Text.decimal 1 index

end MessageFault

/-! ## Directives -/

/-- A width or a precision: given in the message, or taken from an argument. -/
inductive Size where
  | given (n : Nat)
  | taken
deriving DecidableEq, Repr

/-- How one argument is written. -/
structure Directive where
  /-- The key of the argument, if it is chosen by name. -/
  key : Option Text := none
  /-- The flags, as they stand. -/
  flags : List Char := []
  width : Option Size := none
  precision : Option Size := none
  /-- The letter, unless the message ends before it. -/
  letter : Option Point := none
  /-- The place of the letter in the message. -/
  index : Nat := 0
deriving DecidableEq, Repr

/-- A part of a message. -/
inductive Part where
  | plain (p : Point)
  | directive (d : Directive)
  /-- A key without its closing bracket. -/
  | openKey
deriving DecidableEq, Repr

namespace Part

/-- The key up to its closing bracket, brackets inside being paired, and the text after it. -/
def splitKey : Nat → Text → Option (Text × Text)
  | _, [] => none
  | depth, p :: rest =>
    if p = .char ')' ∧ depth = 0 then some ([], rest) else
    let depth := if p = .char '(' then depth + 1 else if p = .char ')' then depth - 1 else depth
    (splitKey depth rest).map fun (key, after) => (p :: key, after)

/-- The characters with a property at the start of a text, and the text after them. -/
def spanChars (property : Char → Bool) (t : Text) : List Char × Text :=
  let (ps, after) := t.span (·.is property)
  (ps.filterMap Point.char?, after)

/-- The number that decimal digits write. -/
def sizeOfDigits (ds : List Char) : Nat := ds.foldl (fun n d => n * 10 + (d.toNat - 48)) 0

/-- The width at the start of a text, and the text after it. -/
def splitWidth : Text → Option Size × Text
  | .char '*' :: rest => (some .taken, rest)
  | t =>
    let (ds, rest) := spanChars Char.isDigit t
    (if ds.isEmpty then none else some (.given (sizeOfDigits ds)), rest)

/-- The precision at the start of a text, and the text after it. -/
def splitPrecision : Text → Option Size × Text
  | .char '.' :: .char '*' :: rest => (some .taken, rest)
  | .char '.' :: rest =>
    let (ds, rest) := spanChars Char.isDigit rest
    (some (.given (sizeOfDigits ds)), rest)
  | t => (none, t)

/-- Skips one length letter, which has no meaning. -/
def skipLength : Text → Text
  | .char 'h' :: rest => rest
  | .char 'l' :: rest => rest
  | .char 'L' :: rest => rest
  | t => t

/-- Whether a character is a flag. -/
def isFlag (c : Char) : Bool := c == '-' || c == '+' || c == ' ' || c == '#' || c == '0'

/-- Reads a directive after its key; `total` is the length of the whole message. -/
def readDirective (total : Nat) (key : Option Text) (t : Text) : Part × Text :=
  let (flags, rest) := spanChars isFlag t
  let (width, rest) := splitWidth rest
  let (precision, rest) := splitPrecision rest
  match skipLength rest with
  | [] => (.directive ⟨key, flags, width, precision, none, total⟩, [])
  | p :: after =>
    (.directive ⟨key, flags, width, precision, some p, total - (after.length + 1)⟩, after)

/-- The parts of a message of `total` code points; every step consumes at least one of the code points that
are left. -/
def read (total : Nat) : Nat → Text → List Part
  | 0, _ => []
  | _, [] => []
  | fuel + 1, .char '%' :: .char '%' :: rest => .plain '%' :: read total fuel rest
  | fuel + 1, .char '%' :: .char '(' :: rest =>
    match splitKey 0 rest with
    | none => [.openKey]
    | some (key, rest) =>
      let (part, rest) := readDirective total (some key) rest
      part :: read total fuel rest
  | fuel + 1, .char '%' :: rest =>
    let (part, rest) := readDirective total none rest
    part :: read total fuel rest
  | fuel + 1, p :: rest => .plain p :: read total fuel rest

/-- The parts of a message. -/
def ofTemplate (t : Text) : List Part := read t.length t.length t

end Part

/-! ## Arguments -/

/-- The arguments that are left: the names to choose from, if there are any, and the values to take in
order. -/
structure Supply where
  names : Option Fields
  queue : List Value

namespace Supply

/-- The supply of a list of arguments; a single record that is not empty gives names. -/
def ofList : List Value → Supply
  | [.record (f :: fs)] => ⟨some (f :: fs), [.record (f :: fs)]⟩
  | xs => ⟨none, xs⟩

/-- Takes the next argument. -/
def take (s : Supply) : Except MessageFault (Value × Supply) :=
  match s.queue with
  | [] => .error .tooFewArguments
  | v :: rest => .ok (v, { s with queue := rest })

/-- Chooses an argument by its key. -/
def choose (s : Supply) (key : Text) : Except MessageFault Supply :=
  match s.names with
  | none => .error .namesNeeded
  | some fs =>
    match fs.get? key with
    | none => .error (.unknownKey key)
    | some v => .ok { s with queue := [v] }

/-- The limits of a width or a precision: its name, its machine type, and its greatest value. -/
structure Limit where
  what : String
  machineType : String
  greatest : Nat

/-- The limits of a width. -/
def widthLimit : Limit := ⟨"width", "ssize_t", 0x7fffffffffffffff⟩

/-- The limits of a precision. -/
def precisionLimit : Limit := ⟨"precision", "int", 0x7fffffff⟩

/-- A width or a precision from an argument, if it is within the limits. -/
def sizeOf (limit : Limit) (n : Int) : Except MessageFault Int :=
  if -(limit.greatest : Int) - 1 ≤ n ∧ n ≤ limit.greatest then .ok n
  else .error (.sizeRange limit.machineType)

/-- Takes a width or a precision. -/
def takeSize (s : Supply) (limit : Limit) : Option Size → Except MessageFault (Option Int × Supply)
  | none => .ok (none, s)
  | some (.given n) =>
    if limit.greatest < n then .error (.tooBig limit.what) else .ok (some n, s)
  | some .taken => do
    let (v, s) ← s.take
    match v with
    | .int n => return (some (← sizeOf limit n), s)
    | .bool b => return (some (if b then 1 else 0), s)
    | _ => .error .sizeNeeded

end Supply

/-! ## Writing one argument -/

/-- The greatest number of code points of a written argument; a longer one does not fit into memory. -/
def capacity : Nat := 0x1000000

/-- The greatest precision of a whole number. -/
def wholePrecisionLimit : Nat := 0x7ffffffc

/-- An argument written in parts: its sign, its base mark, and the rest. -/
structure Written where
  sign : List Char := []
  mark : List Char := []
  body : Text
  isNumber : Bool := false

namespace Written

/-- The sign of a number. -/
def signFor (flags : List Char) (negative : Bool) : List Char :=
  if negative then ['-'] else if flags.contains '+' then ['+']
  else if flags.contains ' ' then [' '] else []

/-- A whole number in a base. -/
def ofInt (flags : List Char) (precision : Nat) (letter : Char) (n : Int) : Written :=
  let base := if letter = 'o' then 8 else if letter = 'x' ∨ letter = 'X' then 16 else 10
  let digits := Text.numeral base precision n.natAbs
  { sign := signFor flags (decide (n < 0))
    mark := if flags.contains '#' && base != 10 then ['0', letter] else []
    body := Text.ofChars (if letter = 'X' then digits.map Char.toUpper else digits)
    isNumber := true }

/-- A number of digits that writes every magnitude exactly: all further digits are zeros. -/
def exactCount : Nat := 1100

/-- The digits of a magnitude in scientific form with `count` digits, and the power of ten; digits beyond
those that write it exactly are left out. -/
def scientific (x : Binary64) (count : Nat) : List Char × Int :=
  let count := min count exactCount
  let (digits, power) := x.significant count
  (Text.numeral 10 count digits, power + (count - 1 : Nat))

/-- A magnitude with a point and a power of ten. -/
def exponential (alternate : Bool) (letter : Char) (places : Nat) (x : Binary64) : List Char :=
  let (digits, power) := scientific x (places + 1)
  let digits := Text.padRight (places + 1) '0' digits
  let point := if alternate && places == 0 then ['.'] else []
  let power := if x.isZero then 0 else power
  Binary64.pointAfterFirst digits ++ point ++ Binary64.exponentText letter power

/-- A magnitude with a fixed number of places; places beyond those that write it exactly hold zeros. -/
def fixed (alternate : Bool) (places : Nat) (x : Binary64) : List Char :=
  let exact := min places exactCount
  x.fixed exact ++ List.replicate (places - exact) '0' ++
    if alternate && places == 0 then ['.'] else []

/-- Removes zeros at the end of the decimal places, and then a point at the end. -/
def trimPlaces (cs : List Char) : List Char :=
  if cs.contains '.' then
    let kept := cs.reverse.dropWhile (· == '0')
    (match kept with
      | '.' :: rest => rest
      | kept => kept).reverse
  else cs

/-- A magnitude in the shorter of the two forms. -/
def general (alternate : Bool) (letter : Char) (precision : Nat) (x : Binary64) : List Char :=
  let count := max precision 1
  let power := if x.isZero then 0 else (scientific x count).2
  if -4 ≤ power ∧ power < count then
    let places := ((count : Int) - 1 - power).toNat
    if alternate then fixed alternate places x
    else trimPlaces (fixed alternate (min places exactCount) x)
  else
    let digits := (scientific x count).1
    let kept := if alternate then Text.padRight count '0' digits else
      match (digits.reverse.dropWhile (· == '0')).reverse with
      | [] => ['0']
      | kept => kept
    let point := if alternate && count == 1 then ['.'] else []
    Binary64.pointAfterFirst kept ++ point ++ Binary64.exponentText letter power

/-- The places after the first digit that a precision gives in the form with a power of ten: the greatest
precision leaves no room to count the first digit, and gives none. -/
def placesOf (precision : Nat) : Nat := if precision = 0x7fffffff then 0 else precision

/-- Whether a precision asks for more digits than fit into memory. -/
def isTooPrecise (flags : List Char) (precision : Nat) (letter : Char) : Bool :=
  if letter = 'g' ∨ letter = 'G' then flags.contains '#' && decide (capacity < precision)
  else if letter = 'e' ∨ letter = 'E' then decide (capacity < placesOf precision)
  else decide (capacity < precision)

/-- A number with decimal places. -/
def ofReal (flags : List Char) (precision : Nat) (letter : Char) (x : Binary64) : Written :=
  let alternate := flags.contains '#'
  { sign := signFor flags x.negative
    body := Text.ofChars <|
      if letter = 'e' ∨ letter = 'E' then exponential alternate letter (placesOf precision) x
      else if letter = 'g' then general alternate 'e' precision x
      else if letter = 'G' then general alternate 'E' precision x
      else fixed alternate precision x
    isNumber := true }

/-- The written argument at its width. -/
def pad (w : Written) (flags : List Char) (width : Nat) : Text :=
  let missing := width - (w.sign.length + w.mark.length + w.body.length)
  let front := Text.ofChars (w.sign ++ w.mark)
  if flags.contains '-' then front ++ w.body ++ List.replicate missing (.char ' ')
  else if w.isNumber && flags.contains '0' then
    front ++ List.replicate missing (.char '0') ++ w.body
  else List.replicate missing (.char ' ') ++ front ++ w.body

end Written

/-- A value as a whole number for the letters that take any number. -/
def wholePart? : Value → Option Int
  | .int n => some n
  | .bool b => some (if b then 1 else 0)
  | .real x => some x.truncate
  | _ => none

/-- A value as a whole number for the letters that take whole numbers only. -/
def whole? : Value → Option Int
  | .int n => some n
  | .bool b => some (if b then 1 else 0)
  | _ => none

/-- A value as a number with decimal places. -/
def real? (v : Value) : Except MessageFault Binary64 :=
  match v with
  | .real x => .ok x
  | v =>
    match whole? v with
    | none => .error (.realNeeded v.kind)
    | some n =>
      match Binary64.ofFraction? (decide (n < 0)) n.natAbs 1 with
      | some x => .ok x
      | none => .error .realRange

/-- A value as one code point. -/
def codePoint (v : Value) : Except MessageFault Point :=
  match v.text?, whole? v with
  | some [p], _ => .ok p
  | some _, _ => .error .characterNeeded
  | none, some n =>
    if 0 ≤ n ∧ n < 0x110000 then .ok (.ofNat n.toNat) else .error .characterRange
  | none, none => .error .characterNeeded

/-- Writes a whole number, unless its precision is too large. -/
def writeWhole (flags : List Char) (precision : Option Nat) (letter : Char) (n : Int) :
    Except MessageFault Written :=
  let precision := precision.getD 1
  if wholePrecisionLimit < precision then .error .hugePrecision
  else if capacity < precision then .error .tooLong
  else .ok (.ofInt flags precision letter n)

/-- Writes a number with decimal places, unless its precision is too large. -/
def writeReal (flags : List Char) (precision : Option Nat) (letter : Char) (x : Binary64) :
    Except MessageFault Written :=
  let precision := precision.getD 6
  if Written.isTooPrecise flags precision letter then .error .tooLong
  else .ok (.ofReal flags precision letter x)

/-- Writes an argument by the letter of a directive. -/
def writeArgument (flags : List Char) (precision : Option Nat) (letter : Point) (index : Nat)
    (v : Value) : Except MessageFault Written :=
  let cut (t : Text) : Text :=
    match precision with
    | none => t
    | some n => t.take n
  match letter with
  | .half i => .error (.unknownLetter (.half i) index)
  | .char 's' => .ok { body := cut v.plain }
  | .char 'r' => .ok { body := cut v.exact }
  | .char 'a' => .ok { body := cut v.exactAscii }
  | .char 'c' => do return { body := [← codePoint v] }
  | .char letter =>
    if letter ∈ ['d', 'i', 'u'] then
      match wholePart? v with
      | some n => writeWhole flags precision letter n
      | none => .error (.numberNeeded letter v.kind)
    else if letter ∈ ['o', 'x', 'X'] then
      match whole? v with
      | some n => writeWhole flags precision letter n
      | none => .error (.wholeNeeded letter v.kind)
    else if letter ∈ ['e', 'E', 'f', 'F', 'g', 'G'] then do
      writeReal flags precision letter (← real? v)
    else .error (.unknownLetter letter index)

/-! ## The whole message -/

/-- The columns that a width asks for: the least width of all has no opposite, and asks for none. -/
def columnsOf (width : Int) : Nat :=
  if width.natAbs ≤ Supply.widthLimit.greatest then width.natAbs else 0

/-- Writes one directive. -/
def Directive.write (d : Directive) (s : Supply) : Except MessageFault (Text × Supply) := do
  let s ← match d.key with
    | none => pure s
    | some key => s.choose key
  let (width, s) ← s.takeSize Supply.widthLimit d.width
  let (precision, s) ← s.takeSize Supply.precisionLimit d.precision
  match d.letter with
  | none => throw .incomplete
  | some letter =>
    let (v, s) ← s.take
    let flags := if (width.getD 0) < 0 then '-' :: d.flags else d.flags
    let w ← writeArgument flags (precision.map Int.toNat) letter d.index v
    let columns := columnsOf (width.getD 0)
    if capacity < columns then throw .tooLong
    return (w.pad flags columns, s)

/-- Writes the parts of a message, and gives the arguments that are left. -/
def writeParts : List Part → Supply → Except MessageFault (Text × Supply)
  | [], s => .ok ([], s)
  | .plain p :: rest, s => do
    let (t, s) ← writeParts rest s
    return (p :: t, s)
  | .directive d :: rest, s => do
    let (written, s) ← d.write s
    let (t, s) ← writeParts rest s
    return (written ++ t, s)
  | .openKey :: _, s => .error (if s.names.isSome then .unclosedKey else .namesNeeded)

/-- The text of a message with its arguments. -/
def formatMessage (template : Value) (args : List Value) : Except MessageFault Text :=
  if args.isEmpty then .ok template.plain
  else do
    let (t, s) ← writeParts (Part.ofTemplate template.plain) (.ofList args)
    if s.names.isNone && !s.queue.isEmpty then .error .tooManyArguments
    else .ok t

/-- A message without arguments is not looked into. -/
theorem formatMessage_nil (template : Value) :
    formatMessage template [] = .ok template.plain := rfl

end SchemaScript.Log
