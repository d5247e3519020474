import Dataflow.Engine.Config
import Dataflow.Engine.Envelope
import Dataflow.Graph.Parser
import Dataflow.Manifest.Printer
import Dataflow.Run.Terminal
import Dataflow.Schedule.Order
/-!
# Engines

An engine holds a registry and a loader and runs graphs. It loads plugins when it is set up
and when a graph needs them. Whatever goes wrong in a run ends in the envelope of that run.
-/

namespace Dataflow

/-- An engine between two runs. -/
structure Engine where
  config : Config
  loader : Loader
  /-- How the nodes of a tier are run, if the strategy runs tiers. -/
  arrangement : Arrangement
  registry : Registry
  /-- Whether it is set up. -/
  ready : Bool

namespace Engine

open Session

/-- An engine without plugins. -/
def new (config : Config) (loader : Loader) : Engine := ⟨config, loader, .listed, .empty, false⟩

/-- The engine on one line, for diagnosis. -/
def debugText (e : Engine) : String :=
  "Engine \x7b strategy: " ++ Text.quoted e.config.strategy.name ++
    ", registry: " ++ e.registry.debugText ++
    ", initialized: " ++ toString e.ready ++ " \x7d"

/-! ## Plugins -/

/-- The event of a registration. -/
def registeredEvent (p : Plugin) : Event :=
  .pluginRegistered p.name p.declaration.version p.declaration.types.size p.declaration.nodes.size

/-- Registers a plugin that the loader does not know. -/
def register (e : Engine) (p : Plugin) : SessionM (Except PluginError Engine) := do
  match e.registry.register p with
  | .ok registry =>
    report (registeredEvent p)
    return .ok { e with registry }
  | .error err => return .error err

/-- Loads the plugins that are missing. The engine keeps those it got before an error. -/
def load (e : Engine) (required : List String) : SessionM (Except PluginError Unit × Engine) := do
  let loading := e.registry.ensureLoaded e.loader required
  reportAll (loading.loaded.flatMap fun p => [registeredEvent p, .pluginLoaded p.name])
  let e := { e with registry := loading.registry }
  match loading.error? with
  | some err => return (.error err, e)
  | none => return (.ok (), e)

/-! ## Runs -/

/-- Checks that all plugins of a graph are registered, and reports those that it does not import. -/
def checkPlugins (e : Engine) (g : Graph) : List String → SessionM (Except RunError Unit)
  | [] => pure (.ok ())
  | plugin :: rest => do
    if !e.registry.contains plugin then
      return .error (.plugin (.unknownPlugin plugin))
    else
      if !g.imports.isEmpty && !g.imports.contains plugin then
        report (.pluginNotImported g.name plugin)
      checkPlugins e g rest

/-- The execution order of a graph; a cycle is reported. -/
def schedule (g : Graph) : SessionM (Except RunError (List String)) := do
  match g.executionOrder with
  | .ok order => return .ok order
  | .error cycle =>
    report (.cycleFound g.name cycle.node)
    return .error (.cycle cycle.node cycle.path)

/-- Checks a graph before any node runs: references, plugins, wiring, and cycles. Gives the order
to run in. -/
def prepare (e : Engine) (g : Graph) : SessionM (Except RunError (List String)) := do
  if !g.problems.isEmpty then
    return .error (.invalidGraph g.problems)
  else
    match ← e.checkPlugins g g.referencedPlugins with
    | .error err => return .error err
    | .ok () =>
      reportAll ((g.wiringWarnings e.registry).map (.wiringWarning g.name))
      schedule g

/-- Runs the nodes of a prepared graph and gives the terminal outputs. -/
def runPrepared (e : Engine) (g : Graph) (order : List String) :
    SessionM (Except RunError (SortedMap Json)) := do
  report (.orderComputed g.name order)
  let started := Event.runStarted g.name e.config.strategy.name order.length
  report started
  record (.span (started.span "execute_graph"))
  let start ← clock
  match ← e.config.strategy.run e.registry g order e.arrangement with
  | .error err => return .error err
  | .ok results =>
    let terminal := g.terminalOutputs results
    report (.runCompleted g.name results.size terminal.size (← elapsedSince start))
    return .ok terminal

/-- Runs a graph with the registered plugins. -/
def run (e : Engine) (g : Graph) : SessionM (Except RunError (SortedMap Json)) := do
  match ← e.prepare g with
  | .error err => return .error err
  | .ok order => e.runPrepared g order

/-- The envelope of a run; a failure is reported. -/
def conclude (name : String) : Except RunError (SortedMap Json) → SessionM Envelope
  | .ok outputs => return .success outputs
  | .error err => do
    report (.runFailed name err)
    return .failure err.message

/-- Runs a graph with the registered plugins and gives its envelope. -/
def execute (e : Engine) (g : Graph) : SessionM Envelope := do
  conclude g.name (← e.run g)

/-- The graph that a file holds. A graph without a name of its own takes that of the file. -/
def readGraph (name path : String) (source : Except FileError String) :
    SessionM (Except RunError Graph) := do
  match source with
  | .error err => return .error (.file path err)
  | .ok text =>
    match Graph.parse text with
    | .error err => return .error (.parse err)
    | .ok g =>
      let g := if g.name.isEmpty then { g with name } else g
      report (.graphParsed g.name g.nodes.size g.connections.length g.imports.length)
      return .ok g

/-- Runs the graph of a file whose text is `source`, after loading the plugins it needs. -/
def runSource (e : Engine) (name path : String) (source : Except FileError String) :
    SessionM (Except RunError (SortedMap Json) × Engine) := do
  match ← readGraph name path source with
  | .error err => return (.error err, e)
  | .ok g =>
    match ← e.load g.referencedPlugins with
    | (.error err, e) => return (.error (.plugin err), e)
    | (.ok (), e) => return (← e.run g, e)

/-- Runs the graph of a file whose text is `source` and gives its envelope. -/
def executeSource (e : Engine) (name path : String) (source : Except FileError String) :
    SessionM (Envelope × Engine) := do
  let (result, e) ← e.runSource name path source
  return (← conclude name result, e)

/-! ## Files -/

variable {m : Type → Type} [Monad m] [FileAccess m]

/-- Where the description of a graph stands. -/
def graphPath (directory name : String) : String := joinPath directory (name ++ ".weave")

/-- Runs the graph `name` of a directory. -/
def executeGraph (e : Engine) (directory name : String) : StateT Session m (Envelope × Engine) := do
  let path := graphPath directory name
  let source ← StateT.lift (FileAccess.readText path)
  perform (e.executeSource name path source)

/-- Writes the manifests of some plugins into a directory, until one cannot be written. -/
def writeManifests (directory : String) : List (String × Plugin) → m (Except RunError Unit)
  | [] => pure (.ok ())
  | (name, p) :: rest => do
    let path := joinPath directory (name ++ ".anima")
    match ← FileAccess.writeText path p.declaration.manifestText with
    | .error err => return .error (.file path err)
    | .ok () => writeManifests directory rest

/-- Makes a directory and writes the manifests of all registered plugins into it, in order of their names. -/
def publish (e : Engine) (directory : String) : m (Except RunError Unit) := do
  match ← FileAccess.makeDirectories directory with
  | .error err => return .error (.file directory err)
  | .ok () => writeManifests directory e.registry.plugins.entries

/-- Marks the engine as set up. -/
def finishSetUp (e : Engine) : SessionM Engine := do
  report (.engineReady e.registry.names)
  return { e with ready := true }

/-- Loads the configured plugins, or all that the loader offers, and writes their manifests if a
directory is configured. Does nothing on an engine that is set up. -/
def setUp (e : Engine) : StateT Session m (Except RunError Unit × Engine) := do
  if e.ready then
    return (.ok (), e)
  else
    let wanted := if e.config.plugins.isEmpty then e.loader.available else e.config.plugins
    match ← perform (e.load wanted) with
    | (.error err, e) => return (.error (.plugin err), e)
    | (.ok (), e) =>
      match e.config.manifestDirectory? with
      | none => return (.ok (), ← perform e.finishSetUp)
      | some directory =>
        match ← StateT.lift (e.publish directory) with
        | .error err => return (.error err, e)
        | .ok () =>
          perform (report (.manifestsWritten directory e.registry.size))
          return (.ok (), ← perform e.finishSetUp)

end Engine

end Dataflow
