import Dataflow.Plugin.Loader
import Dataflow.Plugin.NodeTable
import Dataflow.Plugin.Port
/-!
# The builtin plugin

The plugin `basic`: primitive types, signals, identifiers, labels and prompts, and a handful
of nodes that start runs, read the clock and work with numbers and prompts.
-/

namespace Dataflow.Builtin

/-- The name of the plugin. -/
def pluginName : String := "basic"

/-- The rule that a text is the written form of an identifier. -/
def identifierRule : String := "uuid_format"

/-- The rule that a text is not empty. -/
def nonEmptyRule : String := "non_empty"

/-! ## Declarations -/

/-- The types, in order. -/
def types : List TypeDeclaration := [
  ⟨"Int", .primitive .integer⟩,
  ⟨"Bool", .primitive .boolean⟩,
  ⟨"String", .primitive .string⟩,
  ⟨"Signal", .semantic "Bool" []⟩,
  ⟨"UUID", .semantic "String" [identifierRule]⟩,
  ⟨"Label", .semantic "String" [nonEmptyRule]⟩,
  ⟨"Prompt", .composite (.ofList [("id", "UUID"), ("name", "String"), ("content", "String")])⟩]

/-- The nodes, in order. -/
def nodes : List NodeDeclaration := [
  ((NodeDeclaration.named "Start").output "signal" "Signal").output "execution_id" "UUID"
    |>.described "Begins a run and mints its execution id",
  (((NodeDeclaration.named "GetTimestamp").input "trigger" "Signal").output "timestamp" "Int").output
    "done" "Signal" |>.described "Current UTC time in milliseconds",
  ((((NodeDeclaration.named "IsEven").input "number" "Int").input "trigger" "Signal").output
    "result" "Bool").output "done" "Signal",
  (((NodeDeclaration.named "FormatNumber").input "number" "Int").output "formatted" "String").output
    "done" "Signal",
  (((NodeDeclaration.named "CreatePrompt").input "name" "String").input "content" "String").output
    "prompt" "Prompt" |>.described "Assembles a prompt with a fresh id"]

/-- What the plugin declares. -/
def declaration : PluginDeclaration :=
  let start := PluginDeclaration.named pluginName "0.1.0" "Core types and utility nodes"
  nodes.foldl PluginDeclaration.withNode (types.foldl PluginDeclaration.withType start)

/-! ## Nodes -/

/-- `Start` sends a signal and a fresh identifier for the run. -/
def start : NodeBody where
  name := "Start"
  run _ := do
    let id ← Supply.freshIdentifier
    return .ok (.ofList [("signal", .bool true), ("execution_id", .str id)])

/-- `GetTimestamp` reads the clock when it is triggered. -/
def getTimestamp : NodeBody where
  name := "GetTimestamp"
  run inputs := do
    match inputs.require "GetTimestamp" "trigger" with
    | .error e => return .error e
    | .ok _ =>
      let time ← Supply.now
      return .ok (.ofList [("timestamp", .int time), ("done", .bool true)])

/-- What `IsEven` gives: whether the number is even, once the trigger is there. -/
def evenness (inputs : PortValues) : Except PluginError PortValues := do
  let number ← inputs.requireInt "IsEven" "number"
  let _ ← inputs.require "IsEven" "trigger"
  return .ofList [("result", .bool (number.toInt % 2 == 0)), ("done", .bool true)]

/-- `IsEven` tells even numbers from odd ones. -/
def isEven : NodeBody where
  name := "IsEven"
  run inputs := return evenness inputs

/-- What `FormatNumber` gives: the number as a text. -/
def numberText (inputs : PortValues) : Except PluginError PortValues := do
  let number ← inputs.requireInt "FormatNumber" "number"
  return .ofList [("formatted", .str s!"Number: {number.toInt}"), ("done", .bool true)]

/-- `FormatNumber` writes a number as a text. -/
def formatNumber : NodeBody where
  name := "FormatNumber"
  run inputs := return numberText inputs

/-- The texts that a prompt is made of: name and content. -/
def promptTexts (inputs : PortValues) : Except PluginError (String × String) := do
  let name ← inputs.requireStr "CreatePrompt" "name"
  let content ← inputs.requireStr "CreatePrompt" "content"
  return (name, content)

/-- `CreatePrompt` makes a prompt with a fresh identifier. -/
def createPrompt : NodeBody where
  name := "CreatePrompt"
  run inputs := do
    match promptTexts inputs with
    | .error e => return .error e
    | .ok (name, content) =>
      let id ← Supply.freshIdentifier
      let prompt := Json.ofMap
        (.ofList [("id", .str id), ("name", .str name), ("content", .str content)])
      return .ok (.ofList [("prompt", prompt)])

/-- The implementations of the nodes. -/
def bodies : List NodeBody := [start, getTimestamp, isEven, formatNumber, createPrompt]

/-- The implementations by name. -/
def table : NodeTable := .ofList bodies

/-! ## Types -/

/-- Whether the value is the written form of an identifier. -/
def isIdentifierValue (value : Json) : Bool := value.str?.any isIdentifier

/-- The rules of the plugin's types. -/
def checkRule (_type rule : String) (value : Json) : Bool :=
  if rule = identifierRule then isIdentifierValue value
  else if rule = nonEmptyRule then value.str?.any fun s => !s.isEmpty
  else false

/-- The default identifier is a fresh one. -/
def refineDefault (type : String) (base : Json) : StateM Supply Json :=
  if type = "UUID" then do return .str (← Supply.freshIdentifier) else return base

/-- Identifiers are labels; labels are identifiers if they are written like one. -/
def convert (value : Json) (source target : String) : Except TypeError Json :=
  if source = "UUID" ∧ target = "Label" then .ok value
  else if source = "Label" ∧ target = "UUID" then
    if isIdentifierValue value then .ok value
    else .error (.conversionFailed source target "label is not a well-formed UUID")
  else .error (.unsupportedCast source target)

/-- The plugin `basic`. -/
def plugin : Plugin where
  declaration
  checkRule
  refineDefault
  convert
  run node inputs := table.dispatch pluginName node inputs

/-- The loader that offers the builtin plugin. -/
def loader : Loader := .ofList [(pluginName, plugin)]

end Dataflow.Builtin
