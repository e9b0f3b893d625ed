/- # Options of the command

The words of a command line are first told apart: options, by their names, by an abbreviation that fits one
of them, or by a letter; values; and the mark after which everything is a value.  Then they are worked
through from left to right.  An option takes its value from its own word or from the next one, letters
without a value may share a word, and what belongs to no option is left over.
-/
import SchemaScript.Generator
import SchemaScript.Text.CharacterClass
import SchemaScript.Text.Quoted

namespace SchemaScript.Command

/-- The options. -/
inductive Switch where
  | help
  | part
  | table
  | output
  | verbose
deriving DecidableEq, Repr

namespace Switch

/-- The spellings of the options, in the order in which they are compared. -/
def spellings : List (String × Switch) := [
  ("-h", help), ("--help", help), ("--part", part), ("--table", table), ("--output", output),
  ("-o", output), ("--verbose", verbose), ("-v", verbose)]

/-- The option of a spelling. -/
def ofSpelling? (t : Text) : Option Switch := t.string?.bind fun s => spellings.lookup s

/-- Whether an option takes a value. -/
def takesValue : Switch → Bool
  | .part => true
  | .table => true
  | .output => true
  | .help => false
  | .verbose => false

/-- The name of an option in messages. -/
def name : Switch → String
  | .help => "-h/--help"
  | .part => "--part"
  | .table => "--table"
  | .output => "--output/-o"
  | .verbose => "--verbose/-v"

end Switch

/-- The choices for the part of the script, in ascending order. -/
def partChoices : List (String × ScriptPart) := [
  ("complete", .complete), ("foreign-keys", .foreignKeys), ("rls", .policies), ("tables", .tables),
  ("triggers", .triggers)]

/-- Why a command line is refused. -/
inductive UsageFault where
  /-- An abbreviation fits several options. -/
  | ambiguous (word : Text) (spellings : List String)
  | valueNeeded (s : Switch)
  /-- A value is attached to an option that takes none. -/
  | valueRefused (s : Switch) (value : Text)
  | noChoice (value : Text)
  /-- Words belong to no option. -/
  | leftOver (words : List Text)
deriving DecidableEq, Repr

/-- The text of a fault. -/
def UsageFault.message : UsageFault → Text
  | .ambiguous word spellings =>
    "ambiguous option: " ++ word ++ " could match " ++ String.intercalate ", " spellings
  | .valueNeeded s => "argument " ++ s.name ++ ": expected one argument"
  | .valueRefused s value =>
    "argument " ++ s.name ++ ": ignored explicit argument " ++ Text.quoted value
  | .noChoice value =>
    "argument " ++ Switch.part.name ++ ": invalid choice: " ++ Text.quoted value ++
      " (choose from " ++ String.intercalate ", " (partChoices.map fun c => Text.quoted c.1) ++ ")"
  | .leftOver words => "unrecognized arguments: " ++ Text.joined " " words

/-! ## Words -/

/-- A word of the command line. -/
inductive Word where
  /-- An option; `isLetter` says that it is spelled by a letter after a single dash, and `attached` is what
  stands behind it in its own word. -/
  | switch (s : Switch) (isLetter : Bool) (attached : Option Text)
  /-- A word that looks like an option and is none. -/
  | unknown (text : Text)
  /-- The mark after which all words are values. -/
  | mark
  | value (text : Text)
deriving DecidableEq, Repr

namespace Word

/-- A word before and after its first equals sign, if it has one. -/
def splitEquals (t : Text) : Text × Option Text :=
  match t.span (· != .char '=') with
  | (before, _ :: after) => (before, some after)
  | (before, []) => (before, none)

/-- Whether a spelling is a letter after a single dash. -/
def isLetterSpelling (t : Text) : Bool :=
  match t with
  | .char '-' :: .char '-' :: _ => false
  | _ => true

/-- Whether a text consists of decimal digits, at least one. -/
def areDigits (t : Text) : Bool := !t.isEmpty && t.all (·.is Text.isDecimalDigit)

/-- The text without a line feed at its end. -/
def dropLineFeed (t : Text) : Text := if t.getLast? = some (.char '\n') then t.dropLast else t

/-- Whether a word reads as a negative number: a dash, digits, and perhaps decimal places; a line feed may
follow. -/
def isNegativeNumber (t : Text) : Bool :=
  match dropLineFeed t with
  | .char '-' :: rest =>
    let (whole, places) := rest.span (· != .char '.')
    match places with
    | [] => areDigits whole
    | _ :: digits => whole.all (·.is Text.isDecimalDigit) && areDigits digits
  | _ => false

/-- The spellings that a word with two dashes abbreviates. -/
def abbreviated (word : Text) : List (String × Switch) :=
  let (name, _) := splitEquals word
  Switch.spellings.filter fun s => Text.startsWith s.1 name

/-- A word that is not the spelling of an option: an abbreviation or a letter with something attached, or
else a value or an unknown option. -/
def ofOther (word : Text) : Except UsageFault Word :=
  let found : List (String × Word) :=
    if isLetterSpelling word then
      match Switch.ofSpelling? (word.take 2) with
      | some s => [("", .switch s true (some (word.drop 2)))]
      | none => []
    else
      (abbreviated word).map fun (spelling, s) =>
        (spelling, .switch s false (splitEquals word).2)
  match found with
  | [(_, w)] => .ok w
  | [] =>
    if isNegativeNumber word || word.contains (.char ' ') then .ok (.value word)
    else .ok (.unknown word)
  | several => .error (.ambiguous word (several.map (·.1)))

/-- A word before the mark. -/
def ofText (word : Text) : Except UsageFault Word :=
  match word with
  | .char '-' :: _ :: _ =>
    match Switch.ofSpelling? word with
    | some s => .ok (.switch s (isLetterSpelling word) none)
    | none =>
      match splitEquals word with
      | (name, some v) =>
        match Switch.ofSpelling? name with
        | some s => .ok (.switch s (isLetterSpelling name) (some v))
        | none => ofOther word
      | (_, none) => ofOther word
  | _ => .ok (.value word)

/-- How the mark is written. -/
def markText : String := "--"

/-- The words of a command line, told apart. -/
def ofArguments : List Text → Except UsageFault (List Word)
  | [] => .ok []
  | word :: rest =>
    if word = markText then .ok (.mark :: rest.map .value)
    else do return (← ofText word) :: (← ofArguments rest)

/-- A word as it is left over. -/
def leftOver : Word → Text
  | .value text => text
  | .unknown text => text
  | .mark => markText
  | .switch s _ _ => s.name

end Word

/-! ## Options in one word -/

/-- How a word with options ends: with an option that takes no value, or with one that has its value in
the word or takes it from the next one. -/
inductive Tail where
  | none
  | value (s : Switch) (text : Text)
  | next (s : Switch)
deriving DecidableEq, Repr

/-- The options in one word: those without a value, in order, and the end of the word. -/
structure Cluster where
  plain : List Switch
  tail : Tail
deriving DecidableEq, Repr

namespace Cluster

/-- An option that ends its word. -/
def ofLast (s : Switch) : Cluster := if s.takesValue then ⟨[], .next s⟩ else ⟨[s], .none⟩

/-- Takes a word apart that goes on behind a letter: the rest is the value of the letter, or it starts
with the letter of a further option. -/
def ofLetters (s : Switch) (text : Text) : Except UsageFault Cluster :=
  if s.takesValue then .ok ⟨[], .value s text⟩
  else
    match text with
    | [] => .error (.valueRefused s [])
    | p :: rest =>
      match Switch.ofSpelling? [.char '-', p], rest with
      | none, _ => .error (.valueRefused s (p :: rest))
      | some s', [] =>
        let k := ofLast s'
        .ok { k with plain := s :: k.plain }
      | some s', p' :: rest' => do
        let k ← ofLetters s' (p' :: rest')
        return { k with plain := s :: k.plain }
termination_by text.length

/-- Takes a word with options apart. -/
def ofSwitch (s : Switch) (isLetter : Bool) : Option Text → Except UsageFault Cluster
  | none => .ok (ofLast s)
  | some text =>
    if isLetter then ofLetters s text
    else if s.takesValue then .ok ⟨[], .value s text⟩
    else .error (.valueRefused s text)

end Cluster

/-! ## The options as a whole -/

/-- The options of the command.  The part is absent if the mark stands in place of its value. -/
structure Options where
  part : Option ScriptPart := some .complete
  table : Option Text := none
  output : Option Text := none
  verbose : Bool := false
deriving DecidableEq, Repr

/-- What a command line asks for: the help text, or a script. -/
inductive Request where
  | help
  | script (options : Options)
deriving DecidableEq, Repr

namespace Options

/-- The options with an option more that has a value; the mark in place of a value is none. -/
def setValue (o : Options) (s : Switch) (value : Text) : Except UsageFault Options :=
  let given := if value = Word.markText then none else some value
  match s with
  | .part =>
    match given with
    | none => .ok { o with part := none }
    | some value =>
      match value.string?.bind fun name => partChoices.lookup name with
      | some part => .ok { o with part := some part }
      | none => .error (.noChoice value)
  | .table => .ok { o with table := given }
  | .output => .ok { o with output := given }
  | .help => .ok o
  | .verbose => .ok o

/-- The options with options more that have no value; `none` if help is asked for. -/
def setPlain (o : Options) (ss : List Switch) : Option Options :=
  if ss.contains .help then none
  else some { o with verbose := o.verbose || ss.contains .verbose }

/-- Works through the words; `spare` are the words left over so far. -/
def ofWords (o : Options) (spare : List Text) : List Word → Except UsageFault Request
  | [] => if spare.isEmpty then .ok (.script o) else .error (.leftOver spare)
  | .switch s isLetter attached :: rest => do
    let k ← Cluster.ofSwitch s isLetter attached
    match k.tail, rest, o.setPlain k.plain with
    | .next s', .value v :: rest, some o => ofWords (← o.setValue s' v) spare rest
    | .next _, .value _ :: _, none => return .help
    | .next s', _, _ => throw (.valueNeeded s')
    | _, _, none => return .help
    | .value s' text, rest, some o =>
      ofWords (← o.setValue s' text) spare rest
    | .none, rest, some o => ofWords o spare rest
  | w :: rest => ofWords o (spare ++ [w.leftOver]) rest

end Options

/-- What a command line asks for. -/
def Request.ofArguments (arguments : List Text) : Except UsageFault Request := do
  Options.ofWords {} [] (← Word.ofArguments arguments)

/-- The help text. -/
def helpText : String :=
  "usage: generate_schema.py [-h]\n" ++
  "                          [--part \x7bcomplete,foreign-keys,rls,tables,triggers\x7d]\n" ++
  "                          [--table TABLE] [--output OUTPUT] [--verbose]\n" ++
  "\n" ++
  "Generate Supabase SQL from the DataSync schema registry\n" ++
  "\n" ++
  "options:\n" ++
  "  -h, --help            show this help message and exit\n" ++
  "  --part \x7bcomplete,foreign-keys,rls,tables,triggers\x7d\n" ++
  "                        Script to generate (default: complete)\n" ++
  "  --table TABLE         Generate the tables script for a single table\n" ++
  "  --output OUTPUT, -o OUTPUT\n" ++
  "                        Write the script to this file instead of stdout\n" ++
  "  --verbose, -v         Enable verbose logging\n" ++
  "\n" ++
  "Examples:\n" ++
  "  python scripts/generate_schema.py                     # Complete setup script\n" ++
  "  python scripts/generate_schema.py --part tables       # Tables and indexes only\n" ++
  "  python scripts/generate_schema.py --table users_public\n" ++
  "  python scripts/generate_schema.py -o supabase_setup.sql\n" ++
  "\n" ++
  "Environment Variables:\n" ++
  "  DATASYNC_SCHEMA_LABEL        Label in the tables script header\n" ++
  "  DATASYNC_ENCRYPTED_COMMENT   Comment on client-encrypted columns\n" ++
  "  DATASYNC_TRIGGER_FUNCTION    Name of the updated_at trigger function\n" ++
  "  DATASYNC_AUTHENTICATED_ROLE  Role required by fallback RLS policies\n" ++
  "  LOG_LEVEL / LOG_FORMAT       Logging (LOG_FORMAT=json for JSON logs)\n" ++
  "        \n"

end SchemaScript.Command
