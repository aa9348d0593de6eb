import DynamicDns.Json.Printer
import DynamicDns.Startup.Filter

/-!
# The start of the operator

Before anything else the operator sets up its log from the environment. It then looks for the
cluster, and ends with a failure where it finds none.
-/

namespace DynamicDns.Startup

open Log (Level Filter)

/-- What the environment says. -/
structure Environment where
  filter : Option String
  format : Option String

def filterVariable : String := "RUST_LOG"

def formatVariable : String := "RUST_LOG_FORMAT"

/-- How events are written. -/
inductive Format where
  | text
  | json
  deriving DecidableEq

/-- An event of the log. -/
structure Event where
  level : Level
  thread : String
  message : String
  deriving DecidableEq

def Event.line (event : Event) : Format → String
  | .text => event.level.name ++ " " ++ event.thread ++ ": " ++ event.message
  | .json => Json.compact (Json.object [("level", .str event.level.name),
      ("threadName", .str event.thread),
      ("fields", Json.object [("message", .str event.message)])])

/-- The target that the events of the start belong to. -/
def target : String := "ddns_operator"

/-- The events of a start that gets no further than to look for the cluster. -/
def events : List Event :=
  [⟨.info, "main", "Starting DDNS Operator"⟩, ⟨.debug, "main", "Initializing Kubernetes client"⟩]

def failure : String := "Failed to infer configuration"

def Environment.logFilter (environment : Environment) : Filter :=
  (environment.filter.bind Filter.parse?).getD Filter.usual

def Environment.logFormat (environment : Environment) : Format :=
  if environment.format.any fun format => format.toLower = "json" then .json else .text

def log (environment : Environment) : List Event :=
  events.filter fun event => environment.logFilter.lets target event.level

end DynamicDns.Startup
