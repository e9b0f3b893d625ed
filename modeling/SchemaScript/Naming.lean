/- # What column names say

Neither indexes nor relations are declared; both are guessed from column names.  A column gets an index
when its name ends in `_id` or contains `name` or `date`.  A column whose name is some base followed by
`_id` refers to the table named like the base or, failing that, like the base without its last `s`, or
with an `s` when it has none at the end.
-/
import SchemaScript.Value.Entries

namespace SchemaScript

/-- A rule on a name: it ends with a text, or contains it. -/
inductive NamePattern where
  | ending (part : Text)
  | containing (part : Text)
deriving DecidableEq, Repr

namespace NamePattern

/-- Whether a name obeys the rule. -/
def test : NamePattern → Text → Bool
  | .ending part, name => Text.endsWith name part
  | .containing part, name => Text.includes name part

/-- The word for a kind of rule. -/
def kind : NamePattern → String
  | .ending _ => "suffix"
  | .containing _ => "contains"

/-- The text that a rule looks for. -/
def part : NamePattern → Text
  | .ending part => part
  | .containing part => part

/-! ## Rules on values of unknown shape -/

/-- Why a rule cannot be tested on a value. -/
inductive Fault where
  /-- The kind is neither of the two words. -/
  | unknownKind (shown : Text)
  /-- The value has no ending. -/
  | noEnding (kind : String)
  /-- The part is no text that something could end with. -/
  | notEnding (kind : String)
  /-- The part is no text that another text could contain. -/
  | notPart (kind : String)
  /-- The part cannot be a key. -/
  | notKey (kind : String)
  /-- The value contains nothing. -/
  | notContainer (kind : String)
deriving DecidableEq, Repr

/-- The text of a fault. -/
def Fault.message : Fault → Text
  | .unknownKind shown => "Unknown naming rule kind: " ++ shown
  | .noEnding kind => "'" ++ kind ++ "' object has no attribute 'endswith'"
  | .notEnding kind => "endswith first arg must be str or a tuple of str, not " ++ kind
  | .notPart kind => "'in <string>' requires string as left operand, not " ++ kind
  | .notKey kind => "unhashable type: '" ++ kind ++ "'"
  | .notContainer kind => "argument of type '" ++ kind ++ "' is not iterable"

/-- Whether a value ends with a part. -/
def testEnding (part v : Value) : Except Fault Bool :=
  match v.text?, part.text? with
  | some name, some part => .ok ((NamePattern.ending part).test name)
  | some _, none => .error (.notEnding part.kind)
  | none, _ => .error (.noEnding v.kind)

/-- Whether a value that is no text contains a part: a list the item, and a record the name. -/
def testHolding (part : Value) : Value → Except Fault Bool
  | .list xs => .ok (xs.any part.same)
  | .record fs =>
    if part.isKey then .ok ((Entries.ofFields fs).get? part).isSome else .error (.notKey part.kind)
  | v => .error (.notContainer v.kind)

/-- Whether a value contains a part. -/
def testContaining (part v : Value) : Except Fault Bool :=
  match v.text?, part.text? with
  | some name, some part => .ok ((NamePattern.containing part).test name)
  | some _, none => .error (.notPart part.kind)
  | none, _ => testHolding part v

/-- Tests the rule of a kind and a part on a value. -/
def testValue (kind part v : Value) : Except Fault Bool :=
  match kind.string? with
  | some "suffix" => testEnding part v
  | some "contains" => testContaining part v
  | _ => .error (.unknownKind kind.plain)

/-- On texts the rule of a kind is tested as it is. -/
theorem testValue_text (p : NamePattern) (name : Text) :
    testValue (.text p.kind) (.text p.part) (.text name) = .ok (p.test name) := by
  cases p <;> simp [testValue, Value.string?, Value.text?, kind, part, testEnding, testContaining]

end NamePattern

namespace Naming

/-- The rules for indexes. -/
def indexPatterns : List NamePattern := [.ending "_id", .containing "name", .containing "date"]

/-- Whether a column of this name gets an index. -/
def wantsIndex (column : Text) : Bool := indexPatterns.any (·.test column)

/-- The ending of a column that refers to another table. -/
def referenceEnding : String := "_id"

/-- The other number of a table name: without its last `s`, or with one. -/
def otherNumber (base : Text) : Text :=
  match Text.beforeEnding? base "s" with
  | some singular => singular
  | none => base ++ "s"

/-- The table names that a column may refer to, the likelier first. -/
def candidates (column : Text) : List Text :=
  match Text.beforeEnding? column referenceEnding with
  | some base => [base, otherNumber base]
  | none => []

/-- The table that a column refers to: the first candidate among the known names. -/
def referenced? (known : List Text) (column : Text) : Option Text :=
  (candidates column).find? fun name => decide (name ∈ known)

/-- The first of some names that a value contains. -/
def firstIn (known : Value) : List Text → Except NamePattern.Fault (Option Text)
  | [] => .ok none
  | name :: rest => do
    if ← NamePattern.testContaining (.text name) known then return some name
    firstIn known rest

/-- The table that a column refers to when the known names are a value of any kind. -/
def referencedIn (known : Value) (column : Text) : Except NamePattern.Fault (Option Text) :=
  firstIn known (candidates column)

/-- A list of texts contains a text exactly when the text is one of them. -/
theorem testContaining_texts (known : List Text) (name : Text) :
    NamePattern.testContaining (.text name) (.list (known.map .text)) =
      .ok (decide (name ∈ known)) := by
  simp [NamePattern.testContaining, NamePattern.testHolding, Value.text?, List.any_map,
    Function.comp_def, List.any_beq]

/-- Known names given as a list of texts decide like the names themselves. -/
theorem referencedIn_texts (known : List Text) (column : Text) :
    referencedIn (.list (known.map .text)) column = .ok (referenced? known column) := by
  unfold referencedIn referenced?
  induction candidates column with
  | nil => rfl
  | cons name rest ih =>
    by_cases h : name ∈ known
    · simp [firstIn, testContaining_texts, h, bind, Except.bind, pure, Except.pure]
    · simpa [firstIn, testContaining_texts, h, bind, Except.bind, pure, Except.pure] using ih

/-- A column refers only to a table that is known. -/
theorem mem_of_referenced? {known : List Text} {column name : Text}
    (h : referenced? known column = some name) : name ∈ known := by
  simpa using List.find?_some h

end Naming

end SchemaScript
