import Dataflow.Except
import Dataflow.Plugin.Builtin
import Dataflow.Proofs.Plugin.Contract
import Dataflow.Proofs.Type.Validation
/-!
# The builtin plugin keeps its declaration

Each node of the plugin `basic` answers as it is declared: it refuses a port that it cannot read, or
it gives values of the declared types (`Builtin.answers`). What is said of its nodes elsewhere is a
case analysis over `Answers`, and none of it looks at the nodes again.

So a node that gets values of the declared types succeeds (`Builtin.keeps`). Types alone are not
enough: a whole number may be an unsigned word that no node reads (`Json.Readable`).
-/

namespace Dataflow

/-- A whole number is one that fits the words that nodes read. -/
def Json.Readable (value : Json) : Prop := ∀ n, value = .whole n → value.int64?.isSome = true

theorem Json.readable_int (n : Int64) : (Json.int n).Readable := by
  have hlt : (WholeNumber.ofInt64 n).val < 0x8000000000000000 := by
    have := Int64.toInt_lt n
    simp only [WholeNumber.ofInt64]
    omega
  intro _ _
  simp [int, int64?, WholeNumber.toInt64?, hlt]

namespace Builtin

open TypeScope

/-! ## Values of the builtin types -/

theorem lookup?_name : ∀ t ∈ types, plugin.scope.lookup? t.name = some t := by decide +kernel

theorem validatesWithin_shape {name : String} (shape : PrimitiveType) (h : ⟨name, .primitive shape⟩ ∈ types)
    (fuel : Nat) (value : Json) : plugin.scope.validatesWithin (fuel + 1) value name = shape.matches value :=
  validatesWithin_primitive (lookup?_name _ h)

theorem validates_shape {name : String} (shape : PrimitiveType) (h : ⟨name, .primitive shape⟩ ∈ types) (value : Json) :
    plugin.scope.validates value name = shape.matches value :=
  validatesWithin_shape shape h _ value

theorem validates_int_iff {value : Json} : plugin.scope.validates value "Int" = true ↔ ∃ n, value = .whole n := by
  rw [validates_shape .integer (by simp [types])]
  cases value <;> simp [PrimitiveType.matches]

theorem validates_bool_iff {value : Json} : plugin.scope.validates value "Bool" = true ↔ ∃ b, value = .bool b := by
  rw [validates_shape .boolean (by simp [types])]
  cases value <;> simp [PrimitiveType.matches]

theorem validates_string_iff {value : Json} : plugin.scope.validates value "String" = true ↔ ∃ s, value = .str s := by
  rw [validates_shape .string (by simp [types])]
  cases value <;> simp [PrimitiveType.matches]

theorem validates_signal (b : Bool) : plugin.scope.validates (.bool b) "Signal" = true := by
  rw [validates, maxTypeDepth, validatesWithin_semantic (lookup?_name ⟨"Signal", .semantic "Bool" []⟩
    (by simp [types])),
    validatesWithin_shape .boolean (by simp [types])]
  rfl

/-- A text is an identifier when it is written like one. -/
theorem validatesWithin_identifier (fuel : Nat) (id : String) :
    plugin.scope.validatesWithin (fuel + 2) (.str id) "UUID" = isIdentifier id := by
  rw [validatesWithin_semantic (lookup?_name ⟨"UUID", .semantic "String" [identifierRule]⟩ (by simp [types])),
    validatesWithin_shape .string (by simp [types])]
  simp [PrimitiveType.matches, Plugin.scope, plugin, checkRule, isIdentifierValue, Json.str?]

theorem validates_prompt {id name content : String} (h : isIdentifier id = true) :
    plugin.scope.validates
      (.ofMap (.ofList [("id", .str id), ("name", .str name), ("content", .str content)])) "Prompt" = true := by
  have hfields : (OrderedMap.ofList [("id", "UUID"), ("name", "String"), ("content", "String")]).entries =
      [("id", "UUID"), ("name", "String"), ("content", "String")] := by decide
  refine (validatesWithin_composite (lookup?_name ⟨"Prompt", .composite _⟩ (by simp [types]; rfl))).2 ?_
  rw [hfields]
  have hstring (fuel : Nat) (value : Json) :
      plugin.scope.validatesWithin (fuel + 1) value "String" = PrimitiveType.string.matches value :=
    validatesWithin_shape .string (by simp [types]) fuel value
  simp [SortedMap.ofList, SortedMap.get?_insert, maxTypeDepth, hstring, validatesWithin_identifier, h,
    PrimitiveType.matches]

/-- What may stand at a port of the plugin: a value of its type that a node can read. -/
def Allows (type : String) (value : Json) : Prop := plugin.scope.validates value type = true ∧ value.Readable

theorem allows_qualify {value : Json} {type : String} :
    Allows (qualify pluginName type) value ↔ plugin.scope.validates value type = true ∧ value.Readable := by
  have h := Plugin.validates_qualify (p := plugin) (by decide) value type
  rw [Allows, ← h]
  rfl

theorem allows_signal (b : Bool) : Allows (qualify pluginName "Signal") (.bool b) :=
  allows_qualify.2 ⟨validates_signal b, by rintro _ ⟨⟩⟩

theorem allows_bool (b : Bool) : Allows (qualify pluginName "Bool") (.bool b) :=
  allows_qualify.2 ⟨validates_bool_iff.2 ⟨b, rfl⟩, by rintro _ ⟨⟩⟩

theorem allows_int (n : Int64) : Allows (qualify pluginName "Int") (.int n) :=
  allows_qualify.2 ⟨validates_int_iff.2 ⟨_, rfl⟩, Json.readable_int n⟩

theorem allows_string (s : String) : Allows (qualify pluginName "String") (.str s) :=
  allows_qualify.2 ⟨validates_string_iff.2 ⟨s, rfl⟩, by rintro _ ⟨⟩⟩

theorem allows_identifier {id : String} (h : isIdentifier id = true) : Allows (qualify pluginName "UUID") (.str id) :=
  allows_qualify.2 ⟨(validatesWithin_identifier 31 id).trans h, by rintro _ ⟨⟩⟩

theorem allows_prompt {id name content : String} (h : isIdentifier id = true) :
    Allows (qualify pluginName "Prompt")
      (.ofMap (.ofList [("id", .str id), ("name", .str name), ("content", .str content)])) :=
  allows_qualify.2 ⟨validates_prompt h, by rintro _ ⟨⟩⟩

theorem Allows.int {value : Json} (h : Allows (qualify pluginName "Int") value) : ∃ n, value.int64? = some n := by
  obtain ⟨hv, hr⟩ := allows_qualify.1 h
  obtain ⟨n, rfl⟩ := validates_int_iff.1 hv
  exact Option.isSome_iff_exists.1 (hr n rfl)

theorem Allows.str {value : Json} (h : Allows (qualify pluginName "String") value) : ∃ s, value.str? = some s := by
  obtain ⟨s, rfl⟩ := validates_string_iff.1 (allows_qualify.1 h).1
  exact ⟨s, rfl⟩

theorem isIdentifier_fresh (supply : Supply) : isIdentifier (Supply.freshIdentifier supply).1 = true :=
  isIdentifier_identifierText _

/-! ## The nodes -/

section Outputs

variable {inputs : PortValues} {supply : Supply}

theorem run_start : (plugin.run "Start" inputs supply).1 =
    .ok (.ofList [("signal", .bool true), ("execution_id", .str (Supply.freshIdentifier supply).1)]) := rfl

theorem run_getTimestamp : (plugin.run "GetTimestamp" inputs supply).1 =
    (inputs.require "GetTimestamp" "trigger").map fun _ =>
      .ofList [("timestamp", .int supply.clock), ("done", .bool true)] := by
  change (getTimestamp.run inputs supply).1 = _
  simp only [getTimestamp]
  cases inputs.require "GetTimestamp" "trigger" <;> rfl

theorem run_isEven : (plugin.run "IsEven" inputs supply).1 = evenness inputs := rfl

theorem run_formatNumber : (plugin.run "FormatNumber" inputs supply).1 = numberText inputs := rfl

theorem run_createPrompt : (plugin.run "CreatePrompt" inputs supply).1 =
    (promptTexts inputs).map fun (name, content) =>
      .ofList [("prompt", .ofMap (.ofList [("id", .str (Supply.freshIdentifier supply).1), ("name", .str name),
        ("content", .str content)]))] := by
  change (createPrompt.run inputs supply).1 = _
  simp only [createPrompt]
  cases promptTexts inputs <;> rfl

end Outputs

theorem mem_nodes {node : String} {d : NodeDeclaration} (h : declaration.nodes.get? node = some d) :
    d ∈ nodes ∧ d.name = node := by
  have hentries : declaration.nodes.entries = nodes.map fun n => (n.name, n) := rfl
  have hm := OrderedMap.mem_of_get? h
  rw [hentries] at hm
  obtain ⟨n, hn, he⟩ := List.mem_map.1 hm
  cases he
  exact ⟨hn, rfl⟩

/-! ## What a node answers -/

/-- Whether a node can read the value at a port of the type. A trigger only has to be there. -/
def legible (type : String) (value : Json) : Bool :=
  if type = "Int" then value.int64?.isSome
  else if type = "String" then value.str?.isSome
  else true

/-- What a node asks for at a port of the type. -/
def expectation (type : String) : String :=
  if type = "Int" then "an integer" else if type = "String" then "a string" else "a value"

/-- A node finds a value at the port that it can read. -/
def Finds (inputs : PortValues) (port type : String) : Prop :=
  ∃ value, inputs.get? port = some value ∧ legible type value = true

/-- What a node may answer to its inputs: it refuses a declared port that it cannot read, or it has
read all of them and gives values as they are declared. -/
inductive Answers (d : NodeDeclaration) (inputs : PortValues) : Except PluginError PortValues → Prop
  | refuses {port type : String} : (port, type) ∈ d.inputs.entries → ¬ Finds inputs port type →
      Answers d inputs (.error (.missingOrInvalidInput d.name port (expectation type)))
  | gives {pairs : List (String × Json)} : (∀ e ∈ d.inputs.entries, Finds inputs e.1 e.2) →
      List.Forall₂ (fun v p => v.1 = p.1 ∧ Allows (qualify pluginName p.2) v.2) pairs d.outputs.entries →
      Answers d inputs (.ok (.ofList pairs))

/-- An accessor that reads what is legible at a port of the type gives a value or refuses the port. -/
theorem requireAs_cases {α : Type} (inputs : PortValues) (node port type : String) (read? : Json → Option α)
    (hread : ∀ value, (read? value).isSome = legible type value) :
    (Finds inputs port type ∧ ∃ a, inputs.requireAs node port (expectation type) read? = .ok a) ∨
      (¬ Finds inputs port type ∧ inputs.requireAs node port (expectation type) read? =
        .error (.missingOrInvalidInput node port (expectation type))) := by
  unfold PortValues.requireAs Finds
  cases inputs.get? port with
  | none => simp
  | some value =>
    have hvalue := hread value
    cases hr : read? value <;> simp_all

theorem requireInt_cases (inputs : PortValues) (node port : String) :
    (Finds inputs port "Int" ∧ ∃ n, inputs.requireInt node port = .ok n) ∨
      (¬ Finds inputs port "Int" ∧ inputs.requireInt node port =
        .error (.missingOrInvalidInput node port (expectation "Int"))) :=
  requireAs_cases inputs node port "Int" Json.int64? fun _ => rfl

theorem requireStr_cases (inputs : PortValues) (node port : String) :
    (Finds inputs port "String" ∧ ∃ s, inputs.requireStr node port = .ok s) ∨
      (¬ Finds inputs port "String" ∧ inputs.requireStr node port =
        .error (.missingOrInvalidInput node port (expectation "String"))) :=
  requireAs_cases inputs node port "String" Json.str? fun _ => rfl

theorem require_cases (inputs : PortValues) (node port : String) :
    (Finds inputs port "Signal" ∧ ∃ value, inputs.require node port = .ok value) ∨
      (¬ Finds inputs port "Signal" ∧ inputs.require node port =
        .error (.missingOrInvalidInput node port (expectation "Signal"))) :=
  requireAs_cases inputs node port "Signal" some fun _ => rfl

/-- Every node of the plugin answers as it is declared, whatever its inputs are. -/
theorem answers {node : String} {d : NodeDeclaration} (hd : declaration.nodes.get? node = some d)
    (inputs : PortValues) (supply : Supply) : Answers d inputs (plugin.run node inputs supply).1 := by
  obtain ⟨hm, rfl⟩ := mem_nodes hd
  simp only [nodes, List.mem_cons, List.not_mem_nil, or_false] at hm
  -- One case for each declared node, and in it one for each port that it reads.
  rcases hm with rfl | rfl | rfl | rfl | rfl
  · change Answers _ inputs (plugin.run "Start" inputs supply).1
    rw [run_start]
    refine .gives (fun _ => List.not_mem_nil.elim) ?_
    exact .cons ⟨rfl, allows_signal _⟩ (.cons ⟨rfl, allows_identifier (isIdentifier_fresh supply)⟩ .nil)
  · change Answers _ inputs (plugin.run "GetTimestamp" inputs supply).1
    rw [run_getTimestamp]
    rcases require_cases inputs "GetTimestamp" "trigger" with ⟨htrigger, _, hv⟩ | ⟨htrigger, he⟩
    · rw [hv]
      refine .gives (List.forall_mem_singleton.2 htrigger) ?_
      exact .cons ⟨rfl, allows_int _⟩ (.cons ⟨rfl, allows_signal _⟩ .nil)
    · rw [he]
      exact .refuses List.mem_cons_self htrigger
  · change Answers _ inputs (plugin.run "IsEven" inputs supply).1
    rw [run_isEven, evenness]
    rcases requireInt_cases inputs "IsEven" "number" with ⟨hnumber, _, hn⟩ | ⟨hnumber, he⟩
    · rcases require_cases inputs "IsEven" "trigger" with ⟨htrigger, _, hv⟩ | ⟨htrigger, he⟩
      · rw [hn, hv]
        refine .gives (List.forall_mem_cons.2 ⟨hnumber, List.forall_mem_singleton.2 htrigger⟩) ?_
        exact .cons ⟨rfl, allows_bool _⟩ (.cons ⟨rfl, allows_signal _⟩ .nil)
      · rw [hn, he]
        exact .refuses (List.mem_cons_of_mem _ List.mem_cons_self) htrigger
    · rw [he]
      exact .refuses List.mem_cons_self hnumber
  · change Answers _ inputs (plugin.run "FormatNumber" inputs supply).1
    rw [run_formatNumber, numberText]
    rcases requireInt_cases inputs "FormatNumber" "number" with ⟨hnumber, _, hn⟩ | ⟨hnumber, he⟩
    · rw [hn]
      refine .gives (List.forall_mem_singleton.2 hnumber) ?_
      exact .cons ⟨rfl, allows_string _⟩ (.cons ⟨rfl, allows_signal _⟩ .nil)
    · rw [he]
      exact .refuses List.mem_cons_self hnumber
  · change Answers _ inputs (plugin.run "CreatePrompt" inputs supply).1
    rw [run_createPrompt, promptTexts]
    rcases requireStr_cases inputs "CreatePrompt" "name" with ⟨hname, _, hs⟩ | ⟨hname, he⟩
    · rcases requireStr_cases inputs "CreatePrompt" "content" with ⟨hcontent, _, hc⟩ | ⟨hcontent, he⟩
      · rw [hs, hc]
        refine .gives (List.forall_mem_cons.2 ⟨hname, List.forall_mem_singleton.2 hcontent⟩) ?_
        exact .cons ⟨rfl, allows_prompt (isIdentifier_fresh supply)⟩ .nil
      · rw [hs, he]
        exact .refuses (List.mem_cons_of_mem _ List.mem_cons_self) hcontent
    · rw [he]
      exact .refuses List.mem_cons_self hname

/-- A value that a port allows can be read there. -/
theorem Allows.legible {type : String} {value : Json} (h : Allows (qualify pluginName type) value) :
    legible type value = true := by
  unfold Builtin.legible
  split
  · subst type
    exact Option.isSome_iff_exists.2 h.int
  · split
    · subst type
      exact Option.isSome_iff_exists.2 h.str
    · rfl

/-- The nodes of the plugin do what it declares, as long as whole numbers are readable. -/
theorem keeps : plugin.Keeps Allows := by
  intro node d hd inputs hin supply
  have ha := answers hd inputs supply
  generalize (plugin.run node inputs supply).1 = answer at ha ⊢
  cases ha with
  | @refuses port type hport hfinds =>
    obtain ⟨value, hget, hvalue⟩ := hin port type (OrderedMap.mem_entries_iff.1 hport)
    exact absurd ⟨value, hget, hvalue.legible⟩ hfinds
  | gives _ hpairs => exact ⟨_, rfl, PortValues.fill_ofList hpairs⟩

end Builtin

end Dataflow
