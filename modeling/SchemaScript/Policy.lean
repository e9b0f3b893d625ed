/- # Policies of tables

Who may touch a row is decided by the first rule of a chain that applies to the table.  A table about users
is keyed on its users; a table with a column for the owner belongs to the owner; any other table is open to
a role.
-/
import SchemaScript.Sql.Statement
import SchemaScript.Table.Basic

namespace SchemaScript

/-- The rules of the chain. -/
inductive PolicyRule where
  | userTable
  | ownerColumn
  | authenticated
deriving DecidableEq, Repr

/-- Why a rule applies: the key of a user table, the column of the owner, or no reason at all. -/
inductive PolicyBasis where
  | userKey (key : String)
  | owner (column : String)
  | anyone
deriving DecidableEq, Repr

/-- The policy of a table. -/
structure PolicySelection where
  rule : PolicyRule
  comment : Text
  check : Sql.Check
  keyColumn : Option String := none
deriving DecidableEq, Repr

namespace PolicyRule

/-- The name of a rule. -/
def name : PolicyRule → String
  | .userTable => "user_table"
  | .ownerColumn => "owner_column"
  | .authenticated => "authenticated"

/-- The chain of rules. -/
def chain : List PolicyRule := [.userTable, .ownerColumn, .authenticated]

/-- The rule of a name. -/
def ofName? (s : String) : Option PolicyRule := chain.find? fun r => r.name == s

/-- What marks the name of a table about users. -/
def userMarker : String := "user"

/-- The columns that tell the owner, the stronger first. -/
def ownerColumns : List String := ["user_id", "owner_id"]

/-- The column among `columns` that tells the owner. -/
def owner? (columns : List Column) : Option String :=
  ownerColumns.find? fun name => columns.any (·.name == name)

/-- Why a rule applies to a table with these relational columns, if it does. -/
def basis? (r : PolicyRule) (t : Table) (columns : List Column) : Option PolicyBasis :=
  match r with
  | .userTable => if Text.includes t.name userMarker then t.primaryKey.map .userKey else none
  | .ownerColumn => (owner? columns).map .owner
  | .authenticated => some .anyone

/-- Why the first rule of a chain that applies does so. -/
def firstBasis? (rules : List PolicyRule) (t : Table) (columns : List Column) :
    Option PolicyBasis :=
  rules.findSome? fun r => r.basis? t columns

/-- The message about a chain of which no rule applies. -/
def noRule : String := "POLICY_RULES must end with a catch-all rule"

end PolicyRule

namespace PolicyBasis

/-- The rule that a reason belongs to. -/
def rule : PolicyBasis → PolicyRule
  | .userKey _ => .userTable
  | .owner _ => .ownerColumn
  | .anyone => .authenticated

/-- The column that a reason compares with the caller. -/
def column? : PolicyBasis → Option String
  | .userKey key => some key
  | .owner column => some column
  | .anyone => none

/-- The policy for a reason; `role` is the role that stands in where nobody owns a row. -/
def selection (b : PolicyBasis) (role : Value) : Except Sql.Fault PolicySelection :=
  match b with
  | .userKey key =>
    .ok ⟨.userTable, "Users can only access their own data", .owner key, some key⟩
  | .owner column => .ok ⟨.ownerColumn, "Resources owned by users", .owner column, some column⟩
  | .anyone => do
    return ⟨.authenticated, "Default policies for " ++ role.plain ++ " users",
      .role (← Sql.Constant.ofValue role), none⟩

/-- A selection names the rule of its reason. -/
theorem rule_of_selection {b : PolicyBasis} {role : Value} {s : PolicySelection}
    (h : b.selection role = .ok s) : s.rule = b.rule ∧ s.keyColumn = b.column? := by
  cases b with
  | userKey key => cases h; exact ⟨rfl, rfl⟩
  | owner column => cases h; exact ⟨rfl, rfl⟩
  | anyone =>
    simp only [selection] at h
    cases hc : Sql.Constant.ofValue role with
    | error f => rw [hc] at h; cases h
    | ok c => rw [hc] at h; cases h; exact ⟨rfl, rfl⟩

/-- The reason for the policy of a table: the last rule of the chain applies to every table. -/
def ofTable (t : Table) (columns : List Column) : PolicyBasis :=
  (PolicyRule.firstBasis? PolicyRule.chain t columns).getD .anyone

/-- The chain always gives a reason. -/
theorem firstBasis?_chain (t : Table) (columns : List Column) :
    PolicyRule.firstBasis? PolicyRule.chain t columns = some (ofTable t columns) := by
  unfold ofTable
  cases h : PolicyRule.firstBasis? PolicyRule.chain t columns with
  | some b => rfl
  | none =>
    have := List.findSome?_eq_none_iff.1 h .authenticated (by decide)
    exact absurd this (by simp [PolicyRule.basis?])

end PolicyBasis

end SchemaScript
