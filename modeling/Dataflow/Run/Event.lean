import Dataflow.Graph.Wiring
import Dataflow.Run.Error
/-!
# Events

What an engine reports while it works. An event has a level, a line of text and some fields;
it can also open a span, which groups the events of an activity.
-/

namespace Dataflow

/-- A length of time, in nanoseconds. -/
structure Duration where
  nanoseconds : Nat
deriving DecidableEq

namespace Duration

/-- How many nanoseconds a second has. -/
def second : Nat := 1000000000

/-- How many nanoseconds a millisecond has. -/
def millisecond : Nat := 1000000

/-- How many nanoseconds a microsecond has. -/
def microsecond : Nat := 1000

/-- The digits of a fraction of `unit`, a power of ten, after the point; zeros at the end are dropped. -/
def fractionText (fraction unit : Nat) : String :=
  let width := (Nat.toDigits 10 unit).length - 1
  let digits := Nat.toDigits 10 fraction
  let padded := List.replicate (width - digits.length) '0' ++ digits
  match (padded.reverse.dropWhile (· = '0')).reverse with
  | [] => ""
  | kept => String.ofList ('.' :: kept)

/-- A number of units, and the fraction of a unit that is left. -/
def inUnits (n unit : Nat) (name : String) : String :=
  toString (n / unit) ++ fractionText (n % unit) unit ++ name

/-- The duration in the largest unit that it reaches: `1.5µs`. -/
def text (d : Duration) : String :=
  let n := d.nanoseconds
  if second ≤ n then inUnits n second "s"
  else if millisecond ≤ n then inUnits n millisecond "ms"
  else if microsecond ≤ n then inUnits n microsecond "µs"
  else inUnits n 1 "ns"

end Duration

/-- How important an event is. -/
inductive Level where
  | debug
  | info
  | warn
  | error
deriving DecidableEq

/-- The name of a level. -/
def Level.name : Level → String
  | .debug => "DEBUG"
  | .info => "INFO"
  | .warn => "WARN"
  | .error => "ERROR"

/-- The value of a field. -/
inductive FieldValue where
  | number (n : Nat)
  | text (s : String)
deriving DecidableEq

/-- Something that an engine reports. -/
inductive Event where
  | engineReady (plugins : List String)
  | manifestsWritten (directory : String) (files : Nat)
  | pluginRegistered (plugin version : String) (types nodes : Nat)
  | pluginLoaded (plugin : String)
  | graphParsed (graph : String) (nodes connections imports : Nat)
  | pluginNotImported (graph plugin : String)
  | wiringWarning (graph : String) (warning : WiringWarning)
  | cycleFound (graph node : String)
  | orderComputed (graph : String) (order : List String)
  | runStarted (graph strategy : String) (nodes : Nat)
  | runCompleted (graph : String) (nodes outputs : Nat) (duration : Duration)
  | runFailed (graph : String) (error : RunError)
  | nodeStarted (id plugin type : String) (inputs : Nat)
  | nodeCompleted (id : String) (outputs : Nat) (duration : Duration)
  | nodeFailed (id : String) (error : PluginError)
deriving DecidableEq

namespace Event

/-- The line of text. -/
def text : Event → String
  | .engineReady plugins =>
    s!"Engine initialized with {plugins.length} plugins: " ++ String.intercalate ", " plugins
  | .manifestsWritten directory files =>
    s!"Wrote {files} generated .anima files to '{directory}'"
  | .pluginRegistered plugin version types nodes =>
    s!"Registered plugin '{plugin}' v{version}: {types} types, {nodes} nodes"
  | .pluginLoaded plugin => s!"Loaded plugin '{plugin}' on demand"
  | .graphParsed graph nodes connections imports =>
    s!"Parsed graph '{graph}': {nodes} nodes, {connections} connections, {imports} imports"
  | .pluginNotImported graph plugin =>
    s!"Graph '{graph}' uses plugin '{plugin}' without importing it"
  | .wiringWarning graph warning => s!"Graph '{graph}': {warning.message}"
  | .cycleFound graph node => s!"Circular dependency detected in graph '{graph}' at node '{node}'"
  | .orderComputed graph order =>
    s!"Execution order for '{graph}': " ++ String.intercalate " -> " order
  | .runStarted graph strategy nodes =>
    s!"Starting graph '{graph}' with {strategy} strategy: {nodes} nodes"
  | .runCompleted graph nodes outputs duration =>
    s!"Graph '{graph}' completed: {nodes} nodes, {outputs} terminal outputs in {duration.text}"
  | .runFailed graph error => s!"Graph '{graph}' failed: {error.message}"
  | .nodeStarted id plugin type inputs =>
    s!"Node '{id}' ({plugin}.{type}) started with {inputs} inputs"
  | .nodeCompleted id outputs duration =>
    s!"Node '{id}' completed: {outputs} outputs in {duration.text}"
  | .nodeFailed id error => s!"Node '{id}' failed: {error.message}"

/-- The level. -/
def level : Event → Level
  | .engineReady .. | .manifestsWritten .. | .pluginLoaded .. | .runStarted .. | .runCompleted .. =>
    .info
  | .pluginRegistered .. | .graphParsed .. | .orderComputed .. | .nodeStarted ..
  | .nodeCompleted .. => .debug
  | .pluginNotImported .. | .wiringWarning .. => .warn
  | .cycleFound .. | .runFailed .. | .nodeFailed .. => .error

/-- The fields. -/
def fields : Event → List (String × FieldValue)
  | .engineReady plugins => [("plugin_count", .number plugins.length)]
  | .manifestsWritten directory files =>
    [("directory", .text directory), ("file_count", .number files)]
  | .pluginRegistered plugin version types nodes =>
    [("plugin", .text plugin), ("version", .text version), ("type_count", .number types),
      ("node_count", .number nodes)]
  | .pluginLoaded plugin => [("plugin", .text plugin)]
  | .graphParsed graph nodes connections imports =>
    [("graph", .text graph), ("node_count", .number nodes),
      ("connection_count", .number connections), ("import_count", .number imports)]
  | .pluginNotImported graph plugin => [("graph", .text graph), ("plugin", .text plugin)]
  | .wiringWarning graph _ => [("graph", .text graph)]
  | .cycleFound graph node => [("graph", .text graph), ("node_id", .text node)]
  | .orderComputed graph order => [("graph", .text graph), ("node_count", .number order.length)]
  | .runStarted graph strategy nodes =>
    [("graph", .text graph), ("strategy", .text strategy), ("node_count", .number nodes)]
  | .runCompleted graph nodes outputs duration =>
    [("graph", .text graph), ("node_count", .number nodes), ("terminal_outputs", .number outputs),
      ("duration_ms", .number (duration.nanoseconds / Duration.millisecond))]
  | .runFailed graph error => [("graph", .text graph), ("error", .text error.message)]
  | .nodeStarted id plugin type inputs =>
    [("node_id", .text id), ("plugin", .text plugin), ("node_type", .text type),
      ("input_count", .number inputs)]
  | .nodeCompleted id outputs duration =>
    [("node_id", .text id), ("output_count", .number outputs),
      ("duration_us", .number (duration.nanoseconds / Duration.microsecond))]
  | .nodeFailed id error => [("node_id", .text id), ("error", .text error.message)]

end Event

/-- A group of events. -/
structure EventSpan where
  kind : String
  level : Level
  fields : List (String × FieldValue)
deriving DecidableEq

/-- The span that an event opens, under a name of its own. -/
def Event.span (e : Event) (name : String) : EventSpan :=
  let named : String × FieldValue := ("span_name", .text name)
  match e with
  | .runStarted .. => ⟨"execution", .info, named :: e.fields⟩
  | .nodeStarted id plugin type _ =>
    ⟨"node", .debug,
      [named, ("node_id", .text id), ("plugin", .text plugin), ("node_type", .text type)]⟩
  | _ => ⟨"event", .info, [named]⟩

end Dataflow
