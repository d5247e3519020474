import Dataflow.Declaration
/-!
# The manifest of a plugin

`PluginDeclaration.manifestText` writes what a plugin declares as the text of an `.anima`
file. Name, version and descriptions stand in comments.
-/

namespace Dataflow

/-- The lines of pairs, each a name and a type name, `level` steps inside. -/
def pairLines (level : Nat) (pairs : OrderedMap String) : String :=
  let indent := String.ofList (List.replicate (4 * level) ' ')
  String.join (pairs.entries.map fun (name, type) => indent ++ name ++ " " ++ type ++ "\n")

/-- A comment line. -/
def commentLine (text : String) : String := "// " ++ text ++ "\n"

namespace TypeDeclaration

/-- The type as a manifest declares it. -/
def manifestText (t : TypeDeclaration) : String :=
  match t.fields? with
  | some fields => t.name ++ " \x7b\n" ++ pairLines 1 fields ++ "\x7d\n"
  | none => t.name ++ "\n"

end TypeDeclaration

namespace NodeDeclaration

/-- The ports under a keyword; nothing for a node without such ports. -/
def portsText (keyword : String) (ports : OrderedMap String) : String :=
  if ports.isEmpty then ""
  else "    " ++ keyword ++ " \x7b\n" ++ pairLines 2 ports ++ "    \x7d\n"

/-- The node as a manifest declares it. -/
def manifestText (n : NodeDeclaration) : String :=
  (match n.description? with
    | some description => commentLine description
    | none => "") ++
  n.name ++ " \x7b\n" ++ "    mode " ++ n.mode.name ++ "\n" ++
  portsText "in" n.inputs ++ portsText "out" n.outputs ++ "\x7d\n"

end NodeDeclaration

namespace PluginDeclaration

/-- The text of the plugin's `.anima` file. -/
def manifestText (p : PluginDeclaration) : String :=
  commentLine (p.name ++ " " ++ p.version) ++
  (if p.description.isEmpty then "" else commentLine p.description) ++ "\n" ++
  "-- types\n" ++ String.join (p.types.values.map TypeDeclaration.manifestText) ++ "--\n\n" ++
  "-- nodes\n" ++ String.join (p.nodes.values.map NodeDeclaration.manifestText) ++ "--\n"

end PluginDeclaration

end Dataflow
