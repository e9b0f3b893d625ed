/- # The service

Requests for metadata and scripts, and what is answered.  The endpoints for tables and scripts need a
generator; the full site makes one when it starts and gives it up when it stops.  A path that differs from
an endpoint only in slashes at its end is redirected, and any method but `GET` is refused; the pages that the
framework adds to the full site take `HEAD`, too.  An answer is sent as bytes, so one with a half in it fails
instead: a report is written text by text, all else as a whole.
-/
import SchemaScript.Generator
import SchemaScript.Metadata
import SchemaScript.Value.Json
import SchemaScript.Value.Texts

namespace SchemaScript

/-! ## The release -/

namespace Release

/-- The parts of the version: major, minor, patch. -/
def versionParts : List Nat := [0, 1, 0]

/-- The version as text. -/
def version : String := String.intercalate "." (versionParts.map (Text.decimal 1))

/-- The day of the build. -/
def buildDate : String := "2026-10-17"

/-- The number of the epoch. -/
def epoch : Nat := 1

/-- The name of the epoch. -/
def codename : String := "Schema Compiler"

end Release

/-! ## Endpoints -/

/-- The pages about the full site that the framework makes by itself. -/
inductive Page where
  /-- The description of the endpoints, as JSON. -/
  | description
  /-- The description to read and to try out. -/
  | docs
  /-- Where a login on that page comes back to. -/
  | login
  /-- The description to read. -/
  | reference
deriving DecidableEq, Repr

namespace Page

/-- All pages, in the order in which they are looked for. -/
def all : List Page := [.description, .docs, .login, .reference]

/-- Where a page is. -/
def path : Page → String
  | .description => "/openapi.json"
  | .docs => "/docs"
  | .login => "/docs/oauth2-redirect"
  | .reference => "/redoc"

/-- The type of what a page carries. -/
def contentType : Page → String
  | .description => "application/json"
  | .docs | .login | .reference => "text/html; charset=utf-8"

end Page

/-- What can be asked for. -/
inductive Endpoint where
  /-- A page of the framework. -/
  | page (p : Page)
  /-- What the service is. -/
  | overview
  /-- Whether the service is alive. -/
  | health
  /-- The metadata of all tables. -/
  | tables
  /-- The metadata of one table. -/
  | table (name : Text)
  /-- A script. -/
  | script (part : ScriptPart)
  /-- The script of one table. -/
  | tableScript (name : Text)
deriving DecidableEq, Repr

/-- Whether an endpoint takes requests of a method. -/
def Endpoint.accepts (e : Endpoint) (method : Text) : Bool :=
  match e with
  | .page _ => method == "GET" || method == "HEAD"
  | _ => method == "GET"

/-- The sites: the full one, and the one that has the endpoints for tables and scripts alone. -/
inductive Site where
  | full
  | schemaOnly
deriving DecidableEq, Repr

namespace Site

/-- Where the endpoints for tables and scripts are. -/
def base : String := "/api/v1/schema"

/-- The endpoints for tables and scripts with a fixed path. -/
def schemaFixed : List (String × Endpoint) :=
  [(base ++ "/tables", .tables),
    (base ++ "/sql", .script .complete),
    (base ++ "/sql/tables", .script .tables),
    (base ++ "/sql/foreign-keys", .script .foreignKeys),
    (base ++ "/sql/triggers", .script .triggers),
    (base ++ "/sql/rls", .script .policies)]

/-- The endpoints with a fixed path. -/
def fixed : Site → List (String × Endpoint)
  | .full =>
    Page.all.map (fun p => (p.path, .page p)) ++ schemaFixed ++ [("/", .overview), ("/health", .health)]
  | .schemaOnly => schemaFixed

/-- The endpoints whose path ends with a name. -/
def named : List (String × (Text → Endpoint)) :=
  [(base ++ "/tables/", .table), (base ++ "/sql/tables/", .tableScript)]

/-- Whether a path is a fixed one; a line feed at its end does not count. -/
def isFixed (path fixedPath : Text) : Bool := path == fixedPath || path == fixedPath ++ "\n"

/-- The name at the end of a path: not empty, and without a slash. -/
def nameAfter? (path start : Text) : Option Text :=
  if Text.startsWith path start then
    let name := path.drop start.length
    if name.isEmpty || name.contains (.char '/') then none else some name
  else none

/-- The endpoint at a path. -/
def endpoint? (s : Site) (path : Text) : Option Endpoint :=
  match s.fixed.find? fun f => isFixed path f.1 with
  | some (_, e) => some e
  | none => named.findSome? fun (start, e) => (nameAfter? path start).map e

/-- The path with its slashes at the end taken away, or with one slash more if it has none there. -/
def otherPath (path : Text) : Text :=
  if Text.endsWith path "/" then (path.reverse.dropWhile (· == .char '/')).reverse
  else path ++ "/"

/-- Whether a path without an endpoint is redirected. -/
def redirects (s : Site) (path : Text) : Bool :=
  path != "/" && (s.endpoint? (otherPath path)).isSome

end Site

/-- What an answer carries. -/
inductive Body where
  | empty
  /-- What was asked for, as JSON. -/
  | report (v : Value)
  /-- Why there is not what was asked for, as JSON with one field. -/
  | notice (detail : Text)
  /-- A page of the framework, which alone knows what is in it. -/
  | page (p : Page)
  /-- A script. -/
  | text (t : Text)
deriving Repr, Inhabited

/-- Why a body cannot be sent. -/
inductive BodyFault where
  /-- It has halves, at a place of the body. -/
  | body (halves : Text.Unwritable)
  /-- A text of a report has halves, at a place of that text. -/
  | reportText (halves : Text.Unwritable)
deriving DecidableEq, Repr

/-- The text of a fault. -/
def BodyFault.message : BodyFault → String
  | .body halves => halves.message
  | .reportText halves => "Error serializing to JSON: UnicodeEncodeError: " ++ halves.message

namespace Body

/-- The field of a notice. -/
def detailField : String := "detail"

/-- The value of a body in JSON. -/
def json? : Body → Option Value
  | .report v => some v
  | .notice detail => some (.record (Fields.single detailField (.text detail)))
  | _ => none

/-- Why a body that is one text cannot be sent, if it cannot. -/
def faultOfText? (t : Text) : Option BodyFault :=
  match t.written with
  | .ok _ => none
  | .error halves => some (.body halves)

/-- Why a body cannot be sent, if it cannot. -/
def fault? : Body → Option BodyFault
  | .empty | .page _ => none
  | .report v => v.unwritable?.map .reportText
  | .notice detail => faultOfText?
      ("\x7b" ++ Value.Json.sentString detailField ++ ":" ++ Value.Json.sentString detail ++ "\x7d")
  | .text t => faultOfText? t

end Body

/-- An answer. -/
structure Response where
  status : Nat
  body : Body
deriving Repr, Inhabited

namespace Response

/-- The type of what an answer carries. -/
def contentType (r : Response) : Option String :=
  match r.body with
  | .empty => none
  | .report _ | .notice _ => some "application/json"
  | .page p => some p.contentType
  | .text _ => some "text/plain; charset=utf-8"

/-- A good answer with a report. -/
def report (v : Value) : Response := ⟨200, .report v⟩

/-- A good answer with a page of the framework. -/
def page (p : Page) : Response := ⟨200, .page p⟩

/-- A good answer with a text. -/
def text (t : Text) : Response := ⟨200, .text t⟩

/-- A bad answer. -/
def failure (status : Nat) (detail : Text) : Response := ⟨status, .notice detail⟩

/-- The answer when there is no generator. -/
def notReady : Response := failure 503 "Schema generator not initialized"

/-- The answer when there is nothing at a path. -/
def notFound : Response := failure 404 "Not Found"

/-- The answer when a table is not registered. -/
def unknownTable (name : Text) : Response := failure 404 ("Schema not found for table: " ++ name)

/-- The answer to a method that an endpoint does not take. -/
def wrongMethod : Response := failure 405 "Method Not Allowed"

/-- The answer to a path with wrong slashes at its end. -/
def redirect : Response := ⟨307, .empty⟩

end Response

namespace Generator

/-- The metadata of a table with the rule that is selected for it. -/
def tableMetadata (g : Generator) (t : Table) : Except Sql.Fault Value := do
  return t.metadata ((← g.policy? t).map fun p => p.rule.name)

/-- The metadata of all tables. -/
def metadata (g : Generator) : Except Sql.Fault Value := do
  let tables ← g.registry.tables.mapM g.tableMetadata
  return .record [("tables", .list tables), ("count", .int tables.length)]

/-- Answers at an endpoint for one table, if the table is registered. -/
def withTable (g : Generator) (name : Text) (answer : Table → Run Response) : Run Response :=
  match g.registry.table? name with
  | none => return .unknownTable name
  | some t => answer t

end Generator

/-- A service: its site, and the generator if there is one. -/
structure Service where
  site : Site
  generator : Option Generator := none

namespace Service

/-- The name of the service. -/
def title : String := "DataSync Schema Compiler"

/-- Gives the service a generator, or takes it away. -/
def equip (s : Service) (generator : Option Generator) : Service := { s with generator }

/-- Answers with the generator, if there is one. -/
def withGenerator (s : Service) (answer : Generator → Run Response) : Run Response :=
  match s.generator with
  | none => return .notReady
  | some g => answer g

/-- Answers at an endpoint; `registry` is the one that the process keeps, which health tells about. -/
def answer (s : Service) (e : Endpoint) (registry : Registry := .application) : Run Response :=
  match e with
  | .page p => return .page p
  | .overview => return .report (.record [
      ("service", .text title), ("version", .text Release.version),
      ("epoch", .int Release.epoch), ("build_date", .text Release.buildDate),
      ("status", .text "running")])
  | .health => return .report (.record [
      ("status", .text "ok"), ("tables", .int registry.size)])
  | .tables => s.withGenerator fun g => do return .report (← liftExcept g.metadata)
  | .table name => s.withGenerator fun g => g.withTable name fun t => do
      return .report (← liftExcept (g.tableMetadata t))
  | .script part => s.withGenerator fun g => do return .text (← part.generate g).text
  | .tableScript name => s.withGenerator fun g => g.withTable name fun _ => do
      return .text (← g.tableText name)

/-- Chooses the answer to a request. -/
def choose (s : Service) (method path : Text) (registry : Registry := .application) : Run Response :=
  match s.site.endpoint? path with
  | some e => if e.accepts method then s.answer e registry else return .wrongMethod
  | none => return if s.site.redirects path then .redirect else .notFound

/-- Answers a request, if the body of the answer can be sent. -/
def respond (s : Service) (method path : Text) (registry : Registry := .application) :
    Run (Except BodyFault Response) := do
  let r ← s.choose method path registry
  return match r.body.fault? with
    | none => .ok r
    | some f => .error f

end Service

end SchemaScript
