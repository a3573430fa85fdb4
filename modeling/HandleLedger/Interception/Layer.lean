import HandleLedger.Config.File
import HandleLedger.Interception.Passage

/-!
# The layer

The layer sits between an application and its driver. It holds the ledger and its configuration,
and it knows the dispatch key behind every dispatchable handle.
-/

set_option autoImplicit false

namespace HandleLedger

/-- The state of the layer. -/
structure Layer where
  ledger : Ledger
  config : Config
  /-- The dispatch keys of the dispatchable handles. -/
  dispatch : Table Handle DispatchKey

namespace Layer

/-- A layer that has seen no call. -/
def ofConfig (config : Config) : Layer := ⟨.empty, config, .empty⟩

/-- A layer with the configuration that it finds, and what is logged on the way. -/
def ofEnvironment (toml : Toml.Decoder) (env : Environment) : Layer × List Log :=
  let path := Config.path env
  let (config, logs) := Config.loadOrDefault toml path (env.contents path)
  (ofConfig config, logs ++ [.loaded path])

/-- The dispatch key of a dispatchable handle. -/
def keyOf (l : Layer) (h : Handle) : DispatchKey := (l.dispatch.find? h).getD 0

/-- The context of an instance or of one of its physical devices. -/
def instanceId (l : Layer) (h : Handle) : ContextId := .ofInstance (l.keyOf h)

/-- The context of a device, a queue or a command buffer. -/
def deviceId (l : Layer) (h : Handle) : ContextId := .ofDevice (l.keyOf h)

/-- The context that an owner of some scope stands for. -/
def ownerId (l : Layer) (scope : Scope) (h : Handle) : ContextId := ⟨scope, l.keyOf h⟩

/-- Give handles the dispatch keys of their dispatch tables. -/
def bind (l : Layer) (pairs : List (Handle × DispatchKey)) : Layer :=
  { l with dispatch := pairs.foldl (fun d p => d.insert p.1 p.2) l.dispatch }

/-- The sink of an instance that is created without one: the log, as configured. -/
def defaultSink (l : Layer) : Sink := ⟨none, .logging l.config.report⟩

end Layer

end HandleLedger
