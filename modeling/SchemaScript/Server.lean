/- # The process of the full site

What the full site shares between requests: the generator, which a start gives to it and a stop takes away, the registry
of the application, which is made at its first use, the settings, which are read once when the process begins, and the
clock and the log.  The process sets up its log before all else, and where the threshold is refused there is no process.
Starts, stops and requests come in any order.
-/
import SchemaScript.Log.Setup
import SchemaScript.Service

namespace SchemaScript

/-- What happens to the process besides requests. -/
inductive Lifecycle where
  | startup
  | shutdown
deriving DecidableEq, Repr

/-- What happens to the process. -/
inductive Event where
  | lifecycle (change : Lifecycle)
  | request (method path : Text)
deriving DecidableEq, Repr

/-- The start or stop that an event is, if it is one. -/
def Event.lifecycle? : Event → Option Lifecycle
  | .lifecycle change => some change
  | .request _ _ => none

/-- What becomes of a request: an answer, unless a statement cannot be written or the answer cannot be sent. -/
abbrev Answer := Except Sql.Fault (Except BodyFault Response)

/-- The process. -/
structure Server where
  service : Service
  registry : Kept Registry := {}
  defaults : Kept Defaults
  session : Session

namespace Server

/-- The process before anything happens to it: the settings are read already, because those of the log are used, and
the log is set up as they say. -/
def loaded (env : Environment) (s : Session) : Except Log.Level.Fault Server := do
  let (_, settings, defaults) := Kept.get {} (Defaults.ofEnvironment env)
  let root ← Log.Root.configure .capturing (.text settings.log.level) settings.log.json
    (env.get? LogSettings.layoutVariable)
  return {
    service := ⟨.full, none⟩
    defaults
    session := { s with journal := { s.journal with threshold := root.threshold } } }

/-- The logger of the process. -/
def logger : Log.Logger := ⟨"main", some .api⟩

/-- Writes a record of progress. -/
def note (server : Server) (message : Text) : Server :=
  { server with session := ((Run.note logger Log.Level.info message).outcome server.session).2 }

/-- The registry of the application, made now if there is none yet. -/
def useRegistry (server : Server) : Registry × Server :=
  let (_, registry, kept) := server.registry.get .application
  let journal :=
    if server.registry.held.isSome then server.session.journal
    else registry.announce server.session.journal
  (registry, { server with registry := kept, session := { server.session with journal } })

/-- The message at the beginning of a start. -/
def startMessage : String :=
  "Starting DataSync schema compiler v" ++ Release.version ++ " (Epoch " ++
    Text.decimal 1 Release.epoch ++ ", Build " ++ Release.buildDate ++ ")"

/-- The message at the end of a start. -/
def loadedMessage (registry : Registry) : String :=
  "Schema registry loaded (" ++ Text.decimal 1 registry.size ++ " tables)"

/-- The message at a stop. -/
def stopMessage : String := "DataSync schema compiler stopped"

/-- Starts the site, with a generator for the registry and the settings that are kept. -/
def start (server : Server) (env : Environment) : Server :=
  let (registry, server) := (server.note startMessage).useRegistry
  let (_, defaults, kept) := server.defaults.get (.ofEnvironment env)
  let server := { server with
    service := server.service.equip (some ⟨registry, defaults.generator⟩)
    defaults := kept }
  server.note (loadedMessage registry)

/-- Stops the site. -/
def stop (server : Server) : Server :=
  { server with service := server.service.equip none }.note stopMessage

/-- Answers a request; a good one at the endpoint for health uses the registry. -/
def respond (server : Server) (method path : Text) : Answer × Server :=
  let (registry, server) :=
    if method = "GET" ∧ server.service.site.endpoint? path = some .health then server.useRegistry
    else (.application, server)
  let (answer, after) := (server.service.respond method path registry).outcome server.session
  (answer, { server with session := after })

/-- What an event makes of the process. -/
def step (env : Environment) (server : Server) : Event → Server
  | .lifecycle .startup => server.start env
  | .lifecycle .shutdown => server.stop
  | .request method path => (server.respond method path).2

/-- What events make of the process, one after another. -/
def after (server : Server) (env : Environment) (events : List Event) : Server :=
  events.foldl (step env) server

end Server

end SchemaScript
