/- # The tables of the application

Five tables: the projects, the two halves of a user's account, the presence of a user, and the session
cache of a device.  The order is the order of generation.
-/
import SchemaScript.Table.Basic

namespace SchemaScript.Table

/-- A column that every tier carries. -/
def everywhere (name : String) (tag : TypeTag) (encrypted isUnique : Bool := false)
    (containers : Option ContainerSet := none) (relationalName : Option String := none)
    (name_ne : name ≠ "" := by decide) : Column where
  name := name
  typeTag := tag.label
  encrypted := encrypted
  tiers := .everything
  containers := containers
  isUnique := isUnique
  relationalName := relationalName
  name_ne := name_ne
  typeTag_ne := by cases tag <;> decide

/-- A column that stays with the device and the document store. -/
def offBackend (name : String) (tag : TypeTag) (encrypted : Bool := false)
    (name_ne : name ≠ "" := by decide) : Column where
  name := name
  typeTag := tag.label
  encrypted := encrypted
  tiers := .deviceAndDocument
  name_ne := name_ne
  typeTag_ne := by cases tag <;> decide

/-- A column that stays on the device. -/
def onDevice (name : String) (tag : TypeTag) (encrypted isUnique : Bool := false)
    (name_ne : name ≠ "" := by decide) : Column where
  name := name
  typeTag := tag.label
  encrypted := encrypted
  tiers := .ofList [.device]
  isUnique := isUnique
  name_ne := name_ne
  typeTag_ne := by cases tag <;> decide

/-- The owner's container alone. -/
def ownerOnly : Option ContainerSet := some (.ofList [.owner])

/-- Projects: each belongs to the user who created it. The logo stays off the backend, its address
goes there. -/
def projects : Table where
  name := "projects"
  columns := [
    everywhere "id" .uuid false true,
    everywhere "owner_id" .uuid false false ownerOnly,
    { name := "logo", typeTag := "image", encrypted := true, tiers := .deviceAndDocument,
      containers := ownerOnly },
    everywhere "logo_url" .text true,
    everywhere "project_name" .text true false ownerOnly (some "project_name"),
    everywhere "project_description" .text true false ownerOnly (some "project_description"),
    everywhere "created_at" .timestamp false false ownerOnly,
    everywhere "updated_at" .timestamp false false ownerOnly]
  primaryKey := some "id"

/-- What other users may see of a user. -/
def usersPublic : Table where
  name := "users_public"
  columns := [
    everywhere "id" .uuid false true,
    everywhere "username" .text,
    everywhere "display_name" .text,
    everywhere "avatar_url" .text,
    everywhere "created_at" .timestamp,
    everywhere "signup_source" .text,
    everywhere "is_verified" .boolean]
  primaryKey := some "id"

/-- The account of a user. -/
def usersPrivate : Table where
  name := "users_private"
  columns := [
    everywhere "user_id" .uuid false true,
    everywhere "email" .text true,
    offBackend "phone_number" .text true,
    offBackend "preferences" .binary true,
    everywhere "last_login" .timestamp,
    everywhere "auth_provider" .text,
    offBackend "jwt_expires_at" .timestamp]
  primaryKey := some "user_id"

/-- The presence of a user. -/
def appState : Table where
  name := "app_state"
  columns := [
    everywhere "user_id" .uuid false true,
    everywhere "is_online" .boolean,
    everywhere "last_seen" .timestamp,
    everywhere "device_type" .text,
    everywhere "app_version" .text]
  primaryKey := some "user_id"

/-- The session cache; nothing of it reaches the backend. -/
def localAppState : Table where
  name := "local_app_state"
  columns := [
    onDevice "id" .uuid false true,
    onDevice "auth_state" .text,
    onDevice "user_profile" .binary true,
    onDevice "user_avatar_url" .text,
    onDevice "users_public_username" .text,
    onDevice "is_jwt_expired" .boolean,
    onDevice "session_token" .text true,
    onDevice "refresh_token" .text true,
    onDevice "preferences" .binary true,
    onDevice "last_sync_timestamp" .timestamp,
    onDevice "offline_mode" .boolean,
    onDevice "created_at" .timestamp,
    onDevice "updated_at" .timestamp]
  primaryKey := some "id"

/-- The tables of the application, in the order of generation. -/
def application : List Table := [projects, usersPublic, usersPrivate, appState, localAppState]

/-- The application's table of a name. -/
def application? (name : String) : Option Table := application.find? (·.name == name)

/-- The session cache is the only table of the application that stays off the backend. -/
theorem application_offBackend :
    application.filter (!·.isRelational) = [localAppState] := by decide

end SchemaScript.Table
