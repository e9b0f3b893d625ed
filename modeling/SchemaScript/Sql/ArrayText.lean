/- # Arrays as text

The text of an array: its items between braces with commas between them, an array in an array in the same
way, and null as a word of its own.  The text of an item stands between double quotes when it could be
taken for something else, with a backslash before every double quote and every backslash in it.  The items
of an array and of all arrays in it are of one type.
-/
import SchemaScript.Text.CharacterClass
import SchemaScript.Value.Shown

namespace SchemaScript.Sql

/-- The types of the items of arrays, as far as they are written; texts and the items of an array without
any are of no written type. -/
inductive ItemType where
  | unwritten
  | bool
  | int2
  | int4
  | int8
  | numeric
  | float8
deriving DecidableEq, Repr

namespace ItemType

/-- What follows the text of an array with items of the type. -/
def cast : ItemType → String
  | .unwritten => ""
  | .bool => "::bool[]"
  | .int2 => "::int2[]"
  | .int4 => "::int4[]"
  | .int8 => "::int8[]"
  | .numeric => "::numeric[]"
  | .float8 => "::float8[]"

/-- How far a whole number lies from zero or, if it is negative, from minus one. -/
def reach (n : Int) : Nat := if 0 ≤ n then n.toNat else (-n - 1).toNat

/-- The narrowest type of whole numbers with the given reaches. -/
def ofReach (greatest : Nat) : ItemType :=
  if greatest < 0x8000 then .int2
  else if greatest < 0x80000000 then .int4
  else if greatest < 0x8000000000000000 then .int8
  else .numeric

end ItemType

/-- Why the items of an array are of no type. -/
inductive ItemFault where
  /-- There is no type for items of the kind. -/
  | noType (kind : String)
  /-- The items are of several kinds. -/
  | mixed (kinds : List String)
deriving DecidableEq, Repr

namespace ArrayText

mutual

/-- The items of an array and of the arrays in it that are neither arrays nor null, in order. -/
def leaves : Value → List Value
  | .null => []
  | .list xs => itemLeaves xs
  | v => [v]

/-- The leaves of the items of an array. -/
def itemLeaves : List Value → List Value
  | [] => []
  | x :: rest => leaves x ++ itemLeaves rest

end

/-- The whole numbers among items. -/
def wholes (items : List Value) : List Int :=
  items.filterMap fun
    | .int n => some n
    | _ => none

/-- The type of items that are all of the kind of the given one. -/
def typeLike (items : List Value) : Value → ItemType
  | .bool _ => .bool
  | .int _ => .ofReach (((wholes items).map ItemType.reach).foldl max 0)
  | .real _ => .float8
  | _ => .unwritten

/-- Whether there is a type for items like a value. -/
def hasType : Value → Bool
  | .instant _ => false
  | .record _ => false
  | _ => true

/-- The type of the items of an array, given its leaves. -/
def itemType (items : List Value) : Except ItemFault ItemType :=
  match items.find? fun v => !hasType v with
  | some v => .error (.noType v.kind)
  | none =>
    match (items.map Value.kind).eraseDups, items with
    | [_], v :: _ => .ok (typeLike items v)
    | [], _ => .ok .unwritten
    | kinds, _ => .error (.mixed (kinds.mergeSort fun a b => decide (a ≤ b)))

/-- The blanks that an item does not have without quotes, as ascending closed ranges: the layout controls
and the space of ASCII, and the spaces and separators beyond the first 256 code points. -/
def spaceRanges : List (Nat × Nat) := [
  (0x9, 0xd), (0x20, 0x20), (0x1680, 0x1680), (0x2000, 0x200a), (0x2028, 0x2029), (0x202f, 0x202f),
  (0x205f, 0x205f), (0x3000, 0x3000)]

/-- Whether an item with the character stands between quotes because the character sets words apart. -/
def isSpace (c : Char) : Bool := Text.inRanges spaceRanges c

/-- What sets words apart in an array is blank. -/
theorem isBlank_of_isSpace {c : Char} (h : isSpace c) : Text.isBlank c := by
  simp only [isSpace, Text.isBlank, Text.inRanges, spaceRanges, Text.blankRanges, List.any_cons,
    List.any_nil, Bool.or_eq_true, Bool.and_eq_true, decide_eq_true_eq, Bool.or_false] at h ⊢
  omega

/-- Whether the text of an item stands between quotes: it is empty, or it is the word for null, or it holds
a blank or a character that means something in the text of an array. -/
def needsQuotes (cs : List Char) : Bool :=
  cs.isEmpty || cs.map Char.toLower == ['n', 'u', 'l', 'l'] ||
    cs.any fun c => isSpace c || ['"', '\x7b', '\x7d', ',', '\\'].contains c

/-- Characters with a backslash before every double quote and every backslash. -/
def escaped (cs : List Char) : List Char :=
  cs.flatMap fun c => if c = '"' || c = '\\' then ['\\', c] else [c]

/-- The text of an item, between quotes where it needs them. -/
def itemText (cs : List Char) : List Char :=
  if needsQuotes cs then '"' :: escaped cs ++ ['"'] else cs

mutual

/-- The text of an array or of an item, in characters; halves cannot be written, and are only shown. -/
def text : Value → List Char
  | .null => ['N', 'U', 'L', 'L']
  | .bool true => ['t']
  | .bool false => ['f']
  | .text t => itemText t.shown.toList
  | .symbol s => itemText s.text.toList
  | .list xs => '\x7b' :: itemTexts xs ++ ['\x7d']
  | v => v.exact.toList

/-- The texts of items with commas between them. -/
def itemTexts : List Value → List Char
  | [] => []
  | [x] => text x
  | x :: y :: rest => text x ++ ',' :: itemTexts (y :: rest)

end

end ArrayText

end SchemaScript.Sql
