/- # Where a column lives and what it holds

The three closed vocabularies of table descriptions: the storage tiers that a column is carried to,
the containers of the document store that it is written to, and the tags of its type.  Tiers and
containers come in sets; a set is written as the ascending list of its members' texts.
-/
import SchemaScript.Value.Basic

namespace SchemaScript

/-- A storage tier: the store on the device, the document store, the relational backend. -/
inductive Tier where
  | device
  | document
  | relational
deriving DecidableEq, Repr, Inhabited

namespace Tier

/-- All tiers, in the order of the vocabulary. -/
def all : List Tier := [.device, .document, .relational]

/-- The text of a tier. -/
def label : Tier → String
  | .device => "local"
  | .document => "document"
  | .relational => "relational"

/-- The name of a tier in its vocabulary. -/
def member : Tier → String
  | .device => "LOCAL"
  | .document => "DOCUMENT"
  | .relational => "RELATIONAL"

/-- The tier as a vocabulary member. -/
def symbol (t : Tier) : Symbol := ⟨"SyncDestination", t.member, t.label⟩

/-- The tier with a given text. -/
def ofLabel? (s : String) : Option Tier := all.find? fun t => t.label == s

/-- Reading the text of a tier gives the tier. -/
theorem ofLabel?_label (t : Tier) : ofLabel? t.label = some t := by cases t <;> decide

end Tier

/-- A container of the document store: open to everyone, the owner's, or shared. -/
inductive Container where
  | everyone
  | owner
  | shared
deriving DecidableEq, Repr, Inhabited

namespace Container

/-- All containers, in the order of the vocabulary. -/
def all : List Container := [.everyone, .owner, .shared]

/-- The text of a container. -/
def label : Container → String
  | .everyone => "public"
  | .owner => "private"
  | .shared => "shared"

/-- The name of a container in its vocabulary. -/
def member : Container → String
  | .everyone => "PUBLIC"
  | .owner => "PRIVATE"
  | .shared => "SHARED"

/-- The container as a vocabulary member. -/
def symbol (c : Container) : Symbol := ⟨"ContainerVisibility", c.member, c.label⟩

/-- The container with a given text. -/
def ofLabel? (s : String) : Option Container := all.find? fun c => c.label == s

/-- Reading the text of a container gives the container. -/
theorem ofLabel?_label (c : Container) : ofLabel? c.label = some c := by cases c <;> decide

end Container

/-- The type tags known by name; a column may carry any other text as its tag. -/
inductive TypeTag where
  | text
  | integer
  | float
  | boolean
  | timestamp
  | uuid
  | binary
deriving DecidableEq, Repr, Inhabited

namespace TypeTag

/-- All tags, in the order of the vocabulary. -/
def all : List TypeTag := [.text, .integer, .float, .boolean, .timestamp, .uuid, .binary]

/-- The text of a tag. -/
def label : TypeTag → String
  | .text => "text"
  | .integer => "integer"
  | .float => "float"
  | .boolean => "boolean"
  | .timestamp => "timestamp"
  | .uuid => "uuid"
  | .binary => "binary"

/-- The name of a tag in its vocabulary. -/
def member : TypeTag → String
  | .text => "TEXT"
  | .integer => "INTEGER"
  | .float => "FLOAT"
  | .boolean => "BOOLEAN"
  | .timestamp => "TIMESTAMP"
  | .uuid => "UUID"
  | .binary => "BINARY"

/-- The tag as a vocabulary member. -/
def symbol (t : TypeTag) : Symbol := ⟨"AbstractType", t.member, t.label⟩

end TypeTag

/-- The members of the three vocabularies. -/
def Symbol.all : List Symbol :=
  Tier.all.map Tier.symbol ++ Container.all.map Container.symbol ++ TypeTag.all.map TypeTag.symbol

/-- The vocabulary member named `family.member`. -/
def Symbol.ofPath? (path : String) : Option Symbol :=
  Symbol.all.find? fun s => s.family ++ "." ++ s.member == path

/-- A set of tiers. -/
structure TierSet where
  device : Bool := false
  document : Bool := false
  relational : Bool := false
deriving DecidableEq, Repr, Inhabited

namespace TierSet

/-- Whether a tier is in the set. -/
def has (s : TierSet) : Tier → Bool
  | .device => s.device
  | .document => s.document
  | .relational => s.relational

/-- The set with one tier more. -/
def insert (s : TierSet) : Tier → TierSet
  | .device => { s with device := true }
  | .document => { s with document := true }
  | .relational => { s with relational := true }

/-- The set of the tiers in a list. -/
def ofList (ts : List Tier) : TierSet := ts.foldl insert {}

/-- The tiers of the set, ascending by their texts. -/
def toList (s : TierSet) : List Tier :=
  [Tier.document, .device, .relational].filter s.has

/-- Whether no tier is in the set. -/
def isEmpty (s : TierSet) : Bool := !s.device && !s.document && !s.relational

/-- The set of all tiers. -/
def everything : TierSet := ofList Tier.all

/-- The device and the document store, not the backend. -/
def deviceAndDocument : TierSet := ofList [.device, .document]

/-- A set is the set of its members. -/
theorem ofList_toList (s : TierSet) : ofList s.toList = s := by
  rcases s with ⟨a, b, c⟩
  cases a <;> cases b <;> cases c <;> rfl

/-- A set is empty when no tier is in it. -/
theorem isEmpty_iff (s : TierSet) : s.isEmpty = true ↔ ∀ t, s.has t = false := by
  rcases s with ⟨a, b, c⟩
  constructor
  · intro h t
    cases t <;> simp_all [isEmpty, has]
  · intro h
    have h₁ := h .device
    have h₂ := h .document
    have h₃ := h .relational
    simp_all [isEmpty, has]

end TierSet

/-- A set of containers. -/
structure ContainerSet where
  everyone : Bool := false
  owner : Bool := false
  shared : Bool := false
deriving DecidableEq, Repr, Inhabited

namespace ContainerSet

/-- Whether a container is in the set. -/
def has (s : ContainerSet) : Container → Bool
  | .everyone => s.everyone
  | .owner => s.owner
  | .shared => s.shared

/-- The set with one container more. -/
def insert (s : ContainerSet) : Container → ContainerSet
  | .everyone => { s with everyone := true }
  | .owner => { s with owner := true }
  | .shared => { s with shared := true }

/-- The set of the containers in a list. -/
def ofList (cs : List Container) : ContainerSet := cs.foldl insert {}

/-- The containers of the set, ascending by their texts. -/
def toList (s : ContainerSet) : List Container :=
  [Container.owner, .everyone, .shared].filter s.has

/-- The containers of everyone and of the owner. -/
def everyoneAndOwner : ContainerSet := ofList [.everyone, .owner]

/-- The shared container and the owner's. -/
def sharedAndOwner : ContainerSet := ofList [.shared, .owner]

/-- A set is the set of its members. -/
theorem ofList_toList (s : ContainerSet) : ofList s.toList = s := by
  rcases s with ⟨a, b, c⟩
  cases a <;> cases b <;> cases c <;> rfl

end ContainerSet

end SchemaScript
