import Dataflow.Type.Cast
import Dataflow.Type.Default
/-!
# Plugins

A plugin declares types and nodes, says what the rules, defaults and conversions of its types
do, and runs its nodes. It keeps no state of its own: all that a run of a node can depend on
beside the inputs is the `Supply`.
-/

namespace Dataflow

/-- Values by port. -/
abbrev PortValues := SortedMap Json

/-- Why a plugin could not be found or a node did not run. -/
inductive PluginError where
  | unknownPlugin (name : String)
  | unknownNode (plugin node : String)
  | missingOrInvalidInput (node port expected : String)
  | duplicatePlugin (name : String)
  | nodeFailed (node reason : String)
deriving DecidableEq

/-- The message of a plugin error. -/
def PluginError.message : PluginError → String
  | .unknownPlugin name => s!"Unknown plugin '{name}'"
  | .unknownNode plugin node => s!"Plugin '{plugin}' does not implement node '{node}'"
  | .missingOrInvalidInput node port expected =>
    s!"Node '{node}' input '{port}' is missing or invalid: expected {expected}"
  | .duplicatePlugin name => s!"Plugin '{name}' is already registered"
  | .nodeFailed node reason => s!"Node '{node}' failed: {reason}"

/-- What running a node does: it may draw from the supply, and gives outputs or fails. -/
abbrev NodeRun := StateM Supply (Except PluginError PortValues)

/-- A plugin. -/
structure Plugin where
  declaration : PluginDeclaration
  /-- Whether a value satisfies a rule of one of the plugin's types. Without rules, none does. -/
  checkRule : (type rule : String) → Json → Bool := fun _ _ _ => false
  /-- The default of a semantic type, from that of its base. -/
  refineDefault : (type : String) → Json → StateM Supply Json := fun _ base => pure base
  /-- Converts between semantic types with the same base. -/
  convert : Json → (source target : String) → Except TypeError Json := fun v _ _ => .ok v
  /-- Runs a node. -/
  run : (node : String) → PortValues → NodeRun

namespace Plugin

/-- The name that the plugin declares. The three hooks are a plugin's to replace; its name is not: that
no plugin goes by another name than the one it declares is presupposed throughout. -/
def name (p : Plugin) : String := p.declaration.name

/-- The outcome of a node depends on the node and its inputs only. -/
def Stateless (p : Plugin) : Prop :=
  ∃ f : String → PortValues → Except PluginError PortValues,
    ∀ node inputs supply, (p.run node inputs supply).1 = f node inputs

/-- The plugin on its own: its types under their bare names and qualified with its own name.
The plugin is asked for rules, defaults and conversions by bare names. -/
def scope (p : Plugin) : TypeScope where
  resolve? name :=
    match splitQualified name with
    | (some plugin, bare) =>
      if plugin = p.name then (p.declaration.types.get? bare).map (⟨p.name, bare⟩, ·) else none
    | (none, bare) => (p.declaration.types.get? bare).map (⟨p.name, bare⟩, ·)
  checkRule type rule value := p.checkRule (splitQualified type).2 rule value
  refineDefault type base := p.refineDefault (splitQualified type).2 base
  convert value source target :=
    p.convert value (splitQualified source).2 (splitQualified target).2

end Plugin

end Dataflow
