import Dataflow.Document.Declaration
import Dataflow.Document.Graph
import Dataflow.Document.Manifest
import Dataflow.Proofs.Document.Record
/-!
# Documents are read back

Graphs, declarations and manifests are read back from the texts of their documents (`documents_read_back`), with
the order of all their maps. Parameters are the only parts of a document that can be any value; a document holds
those that are no floats and not nested too deep (`Graph.Storable`).
-/

namespace Dataflow

open Document

/-! ## Graphs -/

/-- The parameters of the node are values that a document can hold. -/
def Node.Storable (n : Node) : Prop :=
  ∀ v ∈ n.parameters.values, v.Canonical ∧ v.isFloatFree = true ∧ v.depth ≤ Node.maxParameterDepth

/-- The parameters of all nodes are values that a document can hold. -/
def Graph.Storable (g : Graph) : Prop := ∀ n ∈ g.nodes.values, n.Storable

theorem Node.readsBack {n : Node} (h : n.Storable) : ReadsBack toJson ofJson? n := by
  have hparameters : ReadsBack (ofMap fun v => v) (map? (Json.valueWithin maxParameterDepth)) n.parameters :=
    readsBack_map fun v hv =>
      have ⟨hcanonical, hfloat, hdepth⟩ := h v hv
      ⟨hfloat, Json.valueWithin_canonical v _ hcanonical hfloat hdepth⟩
  constructor
  · simp [toJson, Json.isFloatFree, Json.isFloatFreeMembers, hparameters.isFloatFree]
  · obtain ⟨r, hr, -, hfields⟩ := record?_obj
      [("id", .str n.id), ("type", .str n.type), ("plugin", .str n.plugin),
        ("parameters", ofMap (fun v => v) n.parameters)]
      (by simp) ["id", "type", "plugin", "parameters"]
    simp [toJson, ofJson?, hr, Record.required, Record.withDefault, hfields, Json.str?, hparameters.read, List.lookup]

theorem Endpoint.readsBack (e : Endpoint) : ReadsBack toJson ofJson? e := by
  constructor
  · rfl
  · obtain ⟨r, hr, -, hfields⟩ := record?_obj [("node", .str e.node), ("port", .str e.port)] (by simp) ["node", "port"]
    simp [toJson, ofJson?, hr, Record.required, hfields, Json.str?, List.lookup]

theorem ConnectionKind.ofName?_name (k : ConnectionKind) : ofName? k.name = some k := by
  cases k <;> rfl

theorem Connection.readsBack (c : Connection) : ReadsBack toJson ofJson? c := by
  constructor
  · rfl
  · obtain ⟨r, hr, -, hfields⟩ := record?_obj
      [("from", c.source.toJson), ("to", c.target.toJson), ("kind", .str c.kind.name)] (by simp) ["from", "to", "kind"]
    simp [toJson, ofJson?, hr, Record.required, Record.withDefault, hfields, List.lookup, (Endpoint.readsBack _).read,
      choice?, ConnectionKind.ofName?_name]

theorem Graph.readsBack {g : Graph} (h : g.Storable) : ReadsBack toJson ofJson? g := by
  have hnodes : ReadsBack (ofMap Node.toJson) (map? Node.ofJson?) g.nodes :=
    readsBack_map fun n hn => Node.readsBack (h n hn)
  have hconnections : ReadsBack (ofList Connection.toJson) (list? Connection.ofJson?) g.connections :=
    readsBack_list fun c _ => Connection.readsBack c
  have himports : ReadsBack (ofList ofText) (list? Json.str?) g.imports := readsBack_list fun s _ => readsBack_text s
  have hentries : ReadsBack (ofList ofText) (list? Json.str?) g.declaredEntries :=
    readsBack_list fun s _ => readsBack_text s
  constructor
  · simp [toJson, Json.isFloatFree, Json.isFloatFreeMembers, hnodes.isFloatFree, hconnections.isFloatFree,
      himports.isFloatFree, hentries.isFloatFree]
  · obtain ⟨r, hr, -, hfields⟩ := record?_obj
      [("nodes", ofMap Node.toJson g.nodes), ("connections", ofList Connection.toJson g.connections),
        ("imports", ofList ofText g.imports),
        ("metadata", .obj [("name", .str g.name), ("entry_points", ofList ofText g.declaredEntries)])]
      (by simp) ["nodes", "connections", "imports", "metadata"]
    obtain ⟨r', hr', -, hfields'⟩ :=
      record?_obj [("name", .str g.name), ("entry_points", ofList ofText g.declaredEntries)]
      (by simp) ["name", "entry_points"]
    simp [toJson, ofJson?, hr, hr', Record.required, Record.withDefault, hfields, hfields', Json.str?, List.lookup,
      hnodes.read, hconnections.read, himports.read, hentries.read]

/-! ## Declarations -/

theorem PrimitiveType.ofName?_name (p : PrimitiveType) : ofName? p.name = some p := by
  cases p <;> rfl

theorem Document.isSome_valueWithin_ofList (room : Nat) (items : List String) :
    (Json.valueWithin (room + 1) (ofList ofText items)).isSome = true := by
  have hitems : Json.itemsWithin room (items.map ofText) = some (items.map ofText) := by
    induction items with
    | nil => rw [List.map_nil, Json.itemsWithin]
    | cons s items ih => simp [Json.itemsWithin, ih, ofText, Json.valueWithin]
  rw [ofList, Json.valueWithin, hitems]
  rfl

theorem Document.isSome_valueWithin_ofMap (room : Nat) (m : OrderedMap String) :
    (Json.valueWithin (room + 1) (Document.ofMap ofText m)).isSome = true := by
  -- Members are put among those before them, so the statement is about any of these.
  have hmembers (entries : List (String × String)) (done : List (String × Json)) :
      (Json.membersWithin room (entries.map fun e => (e.1, ofText e.2)) done).isSome = true := by
    induction entries generalizing done with
    | nil => rw [List.map_nil, Json.membersWithin]; rfl
    | cons e entries ih => simpa [Json.membersWithin, ofText, Json.valueWithin] using ih _
  rw [Document.ofMap, Json.valueWithin, Option.isSome_map]
  exact hmembers m.entries []

namespace TypeKind

/-- Each field of a type document says a value. -/
theorem all_valueWithin (k : TypeKind) :
    (k.fields.all fun m => (m.2.valueWithin TypeDeclaration.maxFieldDepth).isSome) = true := by
  cases k with
  | primitive shape => simp [fields, Json.valueWithin]
  | semantic base rules =>
    have hrules : ((ofList ofText rules).valueWithin TypeDeclaration.maxFieldDepth).isSome = true :=
      Document.isSome_valueWithin_ofList _ rules
    simp [fields, Json.valueWithin, hrules]
  | composite fs =>
    have hfields : ((ofMap ofText fs).valueWithin TypeDeclaration.maxFieldDepth).isSome = true :=
      Document.isSome_valueWithin_ofMap _ fs
    simp [fields, hfields]

theorem isFloatFree_fields (k : TypeKind) : Json.isFloatFreeMembers k.fields = true := by
  cases k with
  | primitive shape => rfl
  | semantic base rules =>
    have hrules := (readsBack_list fun s (_ : s ∈ rules) => readsBack_text s).isFloatFree
    simp [fields, Json.isFloatFreeMembers, Json.isFloatFree, hrules]
  | composite fs =>
    have hfields := (readsBack_map fun s (_ : s ∈ fs.values) => readsBack_text s).isFloatFree
    simp [fields, Json.isFloatFreeMembers, hfields]

theorem ofFields?_fields (k : TypeKind) : ofFields? k.name (.obj k.fields) = some k := by
  cases k with
  | primitive shape =>
    obtain ⟨r, hr, -, hfields⟩ := record?_obj [("primitive", .str shape.name)] (by simp) ["primitive"]
    simp [name, fields, ofFields?, hr, Record.required, hfields, List.lookup, choice?, PrimitiveType.ofName?_name]
  | semantic base rules =>
    have hrules := (readsBack_list fun s (_ : s ∈ rules) => readsBack_text s).read
    obtain ⟨r, hr, -, hfields⟩ := record?_obj [("base_type", .str base), ("validation_rules", ofList ofText rules)]
      (by simp) ["base_type", "validation_rules"]
    simp [name, fields, ofFields?, hr, Record.required, Record.withDefault, hfields, List.lookup, Json.str?, hrules]
  | composite fs =>
    have hread := (readsBack_map fun s (_ : s ∈ fs.values) => readsBack_text s).read
    obtain ⟨r, hr, -, hfields⟩ := record?_obj [("fields", ofMap ofText fs)] (by simp) ["fields"]
    simp [name, fields, ofFields?, hr, Record.required, hfields, List.lookup, hread]

/-- No field of a kind is called like one that all types have. -/
theorem filter_fields (k : TypeKind) :
    k.fields.filter (fun m => !decide (m.1 = "name") && !decide (m.1 = "kind")) = k.fields := by
  cases k <;> simp [fields]

theorem nodup_fields (k : TypeKind) : ("name" :: "kind" :: k.fields.map Prod.fst).Nodup := by
  cases k <;> simp [fields]

end TypeKind

theorem TypeDeclaration.readsBack (t : TypeDeclaration) : ReadsBack toJson ofJson? t := by
  constructor
  · simp [toJson, Json.isFloatFree, Json.isFloatFreeMembers, t.kind.isFloatFree_fields]
  · obtain ⟨r, hr, -, hfields⟩ := record?_obj (("name", .str t.name) :: ("kind", .str t.kind.name) :: t.kind.fields)
      t.kind.nodup_fields ["name", "kind"]
    simp [toJson, ofJson?, Json.members?, Json.valueWithin, hr, Record.required, hfields, Json.str?, List.lookup,
      TypeKind.kindName?, t.kind.all_valueWithin, t.kind.filter_fields, t.kind.ofFields?_fields]

theorem NodeMode.ofName?_name (m : NodeMode) : ofName? m.name = some m := by
  rw [ofName?, ofName_name]

theorem NodeDeclaration.readsBack (n : NodeDeclaration) : ReadsBack toJson ofJson? n := by
  have hinputs : ReadsBack (ofMap ofText) (map? Json.str?) n.inputs := readsBack_map fun s _ => readsBack_text s
  have houtputs : ReadsBack (ofMap ofText) (map? Json.str?) n.outputs := readsBack_map fun s _ => readsBack_text s
  obtain ⟨name, inputs, outputs, mode, description?⟩ := n
  -- A description that is missing has no field, so the document has one of two shapes.
  cases description? with
  | none =>
    constructor
    · simp [toJson, Json.isFloatFree, Json.isFloatFreeMembers, hinputs.isFloatFree, houtputs.isFloatFree]
    · obtain ⟨r, hr, -, hfields⟩ := record?_obj
        [("name", .str name), ("inputs", ofMap ofText inputs), ("outputs", ofMap ofText outputs),
          ("mode", .str mode.name)] (by simp) ["name", "inputs", "outputs", "mode", "description"]
      simp [toJson, ofJson?, hr, Record.required, Record.withDefault, hfields, Json.str?, List.lookup, hinputs.read,
        houtputs.read, choice?, NodeMode.ofName?_name]
  | some description =>
    constructor
    · simp [toJson, Json.isFloatFree, Json.isFloatFreeMembers, hinputs.isFloatFree, houtputs.isFloatFree]
    · obtain ⟨r, hr, -, hfields⟩ := record?_obj
        [("name", .str name), ("inputs", ofMap ofText inputs), ("outputs", ofMap ofText outputs),
          ("mode", .str mode.name), ("description", .str description)] (by simp)
        ["name", "inputs", "outputs", "mode", "description"]
      simp [toJson, ofJson?, hr, Record.required, Record.withDefault, hfields, Json.str?, List.lookup, hinputs.read,
        houtputs.read, choice?, NodeMode.ofName?_name, nullable?]

theorem PluginDeclaration.readsBack (p : PluginDeclaration) : ReadsBack toJson ofJson? p := by
  have htypes : ReadsBack (ofMap TypeDeclaration.toJson) (map? TypeDeclaration.ofJson?) p.types :=
    readsBack_map fun t _ => TypeDeclaration.readsBack t
  have hnodes : ReadsBack (ofMap NodeDeclaration.toJson) (map? NodeDeclaration.ofJson?) p.nodes :=
    readsBack_map fun n _ => NodeDeclaration.readsBack n
  constructor
  · simp [toJson, Json.isFloatFree, Json.isFloatFreeMembers, htypes.isFloatFree, hnodes.isFloatFree]
  · obtain ⟨r, hr, -, hfields⟩ := record?_obj
      [("metadata", .obj [("name", .str p.name), ("version", .str p.version), ("description", .str p.description)]),
        ("types", ofMap TypeDeclaration.toJson p.types), ("nodes", ofMap NodeDeclaration.toJson p.nodes)]
      (by simp) ["metadata", "types", "nodes"]
    obtain ⟨r', hr', -, hfields'⟩ := record?_obj
      [("name", .str p.name), ("version", .str p.version), ("description", .str p.description)] (by simp)
      ["name", "version", "description"]
    simp [toJson, ofJson?, hr, hr', Record.required, hfields, hfields', Json.str?, List.lookup, htypes.read,
      hnodes.read]

/-! ## Manifests -/

theorem ManifestType.readsBack (t : ManifestType) : ReadsBack toJson ofJson? t := by
  have hoption : ReadsBack (ofOption (ofMap ofText)) (nullable? (map? Json.str?)) t.fields? :=
    readsBack_option (fun _ => nofun) fun m _ => readsBack_map fun s _ => readsBack_text s
  constructor
  · simp [toJson, Json.isFloatFree, Json.isFloatFreeMembers, hoption.isFloatFree]
  · obtain ⟨r, hr, -, hfields⟩ := record?_obj [("name", .str t.name), ("fields", ofOption (ofMap ofText) t.fields?)]
      (by simp) ["name", "fields"]
    simp [toJson, ofJson?, hr, Record.required, Record.optional, hfields, Json.str?, List.lookup, hoption.read]

theorem ManifestNode.readsBack (n : ManifestNode) : ReadsBack toJson ofJson? n := by
  have hinputs : ReadsBack (ofMap ofText) (map? Json.str?) n.inputs := readsBack_map fun s _ => readsBack_text s
  have houtputs : ReadsBack (ofMap ofText) (map? Json.str?) n.outputs := readsBack_map fun s _ => readsBack_text s
  constructor
  · simp [toJson, Json.isFloatFree, Json.isFloatFreeMembers, hinputs.isFloatFree, houtputs.isFloatFree]
  · obtain ⟨r, hr, -, hfields⟩ := record?_obj
      [("name", .str n.name), ("mode", .str n.mode.name), ("inputs", ofMap ofText n.inputs),
        ("outputs", ofMap ofText n.outputs)] (by simp) ["name", "mode", "inputs", "outputs"]
    simp [toJson, ofJson?, hr, Record.required, hfields, Json.str?, List.lookup, hinputs.read, houtputs.read, choice?,
      NodeMode.ofName?_name]

theorem Manifest.readsBack (m : Manifest) : ReadsBack toJson ofJson? m := by
  have htypes : ReadsBack (ofList ManifestType.toJson) (list? ManifestType.ofJson?) m.types :=
    readsBack_list fun t _ => ManifestType.readsBack t
  have hnodes : ReadsBack (ofList ManifestNode.toJson) (list? ManifestNode.ofJson?) m.nodes :=
    readsBack_list fun n _ => ManifestNode.readsBack n
  constructor
  · simp [toJson, Json.isFloatFree, Json.isFloatFreeMembers, htypes.isFloatFree, hnodes.isFloatFree]
  · obtain ⟨r, hr, -, hfields⟩ := record?_obj
      [("types", ofList ManifestType.toJson m.types), ("nodes", ofList ManifestNode.toJson m.nodes)] (by simp)
      ["types", "nodes"]
    simp [toJson, ofJson?, hr, Record.required, hfields, List.lookup, htypes.read, hnodes.read]

/-! ## Texts -/

/-- Graphs, declarations and manifests are read back from the texts of their documents. -/
theorem documents_read_back :
    (∀ g : Graph, g.Storable → (Json.parse? g.toJson.compress).bind Graph.ofJson? = some g) ∧
    (∀ p : PluginDeclaration, (Json.parse? p.toJson.compress).bind PluginDeclaration.ofJson? = some p) ∧
    (∀ t : TypeDeclaration, (Json.parse? t.toJson.compress).bind TypeDeclaration.ofJson? = some t) ∧
    ∀ m : Manifest, (Json.parse? m.toJson.compress).bind Manifest.ofJson? = some m := by
  refine ⟨fun g h => ?_, fun p => ?_, fun t => ?_, fun m => ?_⟩
  · exact (Graph.readsBack h).text
  · exact p.readsBack.text
  · exact t.readsBack.text
  · exact m.readsBack.text

/-- A graph whose parameters are nested as deep as can be. -/
def Graph.deep : Graph :=
  ((Graph.named "deep").addNode
    (((Node.named "b" "p" "T").withParameter "y" (Json.nested Node.maxParameterDepth)).withParameter "x"
      (.obj [("\"", .null), ("k", .obj [])]))).connect ⟨⟨"b", "out"⟩, ⟨"a", "in"⟩, .control⟩

theorem Graph.deep_read_back :
    Graph.deep.Storable ∧ (Json.parse? Graph.deep.toJson.compress).bind Graph.ofJson? = some Graph.deep := by
  have hstorable : Graph.deep.Storable := by
    rintro n (_ | ⟨_, ⟨⟩⟩) v (_ | ⟨_, _ | ⟨_, ⟨⟩⟩⟩)
    · exact ⟨Json.canonical_nested _, Json.isFloatFree_nested _, (Json.depth_nested _).le⟩
    · exact ⟨⟨by decide, trivial, ⟨.nil, trivial⟩, trivial⟩, rfl, by decide⟩
  exact ⟨hstorable, documents_read_back.1 Graph.deep hstorable⟩

end Dataflow
