import Dataflow.Graph.Wiring
import Dataflow.Proofs.Registry.Resolution
/-!
# Warnings and what port types resolve to

A port type spells a type: a bare name spells one of the plugin that wrote it. Two ports of one connection
are warned about if and only if they spell different types. The scope of the plugin may resolve a bare name
to the type of another plugin (`Registry.FallsBack`), so a warning says nothing then about the types that the
ports resolve to (`Graph.wiringWarning?_resolved`).
-/

namespace Dataflow

/-! ## What a port type spells -/

/-- The type that a name in the declaration of a plugin spells. -/
def spelledType (plugin name : String) : TypeRef := ⟨(splitQualified name).1.getD plugin, (splitQualified name).2⟩

variable {plugin plugin' name name' bare : String}

theorem spelledType_qualified (h : splitQualified name = (some plugin', bare)) :
    spelledType plugin name = ⟨plugin', bare⟩ := by
  simp [spelledType, h]

theorem spelledType_bare (h : splitQualified name = (none, bare)) : spelledType plugin name = ⟨plugin, name⟩ := by
  obtain rfl := eq_of_splitQualified_bare h
  simp [spelledType, h]

theorem qualify_eq : qualify plugin name = (spelledType plugin name).plugin ++ "." ++ (spelledType plugin name).key := by
  rcases splitQualified_cases name with hbare | ⟨plugin', bare, hname, hsplit⟩
  · simp [qualify, spelledType, hbare]
  · simpa [qualify, spelledType, hsplit] using hname

theorem splitQualified_qualify (h : '.' ∉ plugin.toList) :
    splitQualified (qualify plugin name) = (some (spelledType plugin name).plugin, (spelledType plugin name).key) := by
  rcases splitQualified_cases name with hbare | ⟨plugin', bare, -, hsplit⟩
  · simp [qualify, spelledType, hbare, splitQualified_dot h]
  · simp [qualify, spelledType, hsplit]

theorem qualify_eq_iff (h : '.' ∉ plugin.toList) (h' : '.' ∉ plugin'.toList) :
    qualify plugin name = qualify plugin' name' ↔ spelledType plugin name = spelledType plugin' name' := by
  constructor
  · intro htext
    have hsplit := congrArg splitQualified htext
    rw [splitQualified_qualify h, splitQualified_qualify h'] at hsplit
    obtain ⟨hplugin, hkey⟩ := Prod.mk.inj hsplit
    exact (TypeRef.mk.injEq ..).mpr ⟨Option.some.inj hplugin, hkey⟩
  · intro hspelled
    rw [qualify_eq, qualify_eq, hspelled]

/-- Dots in the name of a plugin hide where it ends. -/
example : qualify "x.y" "Text" = qualify "z" "x.y.Text" ∧ spelledType "x.y" "Text" ≠ spelledType "z" "x.y.Text" := by
  decide

namespace Registry

variable {r : Registry} {x : TypeRef} {type : TypeDeclaration}

/-- The name is bare, and it is not one of the plugin's own types. -/
def FallsBack (r : Registry) (plugin name : String) : Prop :=
  (splitQualified name).1 = none ∧ ¬ r.Declares plugin name

instance : Decidable (r.FallsBack plugin name) := inferInstanceAs (Decidable (_ ∧ _))

theorem resolve?_eq_some_iff :
    (r.typeScope plugin).resolve? name = some (x, type) ↔ ∃ p, r.resolveType? plugin name = some (p, x, type) := by
  simp [typeScope]

theorem declares_of_resolve? (h : (r.typeScope plugin).resolve? name = some (x, type)) : r.Declares x.plugin x.key := by
  obtain ⟨p, hp⟩ := resolve?_eq_some_iff.1 h
  exact ⟨_, typeOf?_of_resolveType? hp⟩

/-- A name that resolves means the type that it spells, unless it falls back on another plugin. -/
theorem eq_spelledType_iff (h : (r.typeScope plugin).resolve? name = some (x, type)) :
    x = spelledType plugin name ↔ ¬ r.FallsBack plugin name := by
  obtain ⟨p, hp⟩ := resolve?_eq_some_iff.1 h
  cases hsplit : splitQualified name with
  | mk plugin? bare =>
    cases plugin? with
    | some plugin' =>
      rw [resolveType?_qualified hsplit] at hp
      simp [FallsBack, hsplit, spelledType_qualified hsplit, ← ref_of_typeOf? hp]
    | none =>
      rw [spelledType_bare hsplit]
      simp only [FallsBack, hsplit, true_and, not_not]
      constructor
      · rintro rfl
        exact declares_of_resolve? h
      · rintro ⟨found, hfound⟩
        obtain rfl : found = (p, x, type) := Option.some.inj ((resolveType?_own hsplit hfound).symm.trans hp)
        exact ref_of_typeOf? hfound

theorem FallsBack.spelledType (h : r.FallsBack plugin name) : spelledType plugin name = ⟨plugin, name⟩ :=
  spelledType_bare (Prod.ext h.1 rfl)

theorem fallsBack_iff (h : (r.typeScope plugin).resolve? name = some (x, type)) :
    r.FallsBack plugin name ↔ ¬ r.Declares (spelledType plugin name).plugin (spelledType plugin name).key := by
  constructor
  · intro hfalls
    rw [hfalls.spelledType]
    exact hfalls.2
  · intro hdeclares
    by_contra hfalls
    rw [← (eq_spelledType_iff h).2 hfalls] at hdeclares
    exact hdeclares (declares_of_resolve? h)

end Registry

namespace Graph

variable {g : Graph} {r : Registry} {c : Connection} {producer consumer : Node} {produced consumed : NodeDeclaration}
  {output input : String} {x y : TypeRef} {outputType inputType : TypeDeclaration}

/-! ## Warnings -/

theorem wiringWarning?_of_declared (hsource : g.declarationOf? r c.source.node = some (producer, produced))
    (htarget : g.declarationOf? r c.target.node = some (consumer, consumed))
    (houtput : produced.outputs.get? c.source.port = some output)
    (hinput : consumed.inputs.get? c.target.port = some input) :
    g.wiringWarning? r c =
      if qualify producer.plugin output = qualify consumer.plugin input then none
      else some (.typeMismatch c.text (qualify producer.plugin output) (qualify consumer.plugin input)) := by
  simp only [wiringWarning?, hsource, htarget, houtput, hinput]

/-- Ports whose types resolve spell one type if it is the one that both resolve to without falling back, or else
if both have it from the same plugin under the same name. -/
theorem spelledType_eq_iff (hx : (r.typeScope producer.plugin).resolve? output = some (x, outputType))
    (hy : (r.typeScope consumer.plugin).resolve? input = some (y, inputType)) :
    spelledType producer.plugin output = spelledType consumer.plugin input ↔
      x = y ∧ (¬ r.FallsBack producer.plugin output ∧ ¬ r.FallsBack consumer.plugin input ∨
        producer.plugin = consumer.plugin ∧ output = input) := by
  constructor
  · intro hspelled
    have hfalls : r.FallsBack producer.plugin output ↔ r.FallsBack consumer.plugin input := by
      rw [Registry.fallsBack_iff hx, Registry.fallsBack_iff hy, hspelled]
    by_cases houtput : r.FallsBack producer.plugin output
    · have hinput := hfalls.1 houtput
      rw [houtput.spelledType, hinput.spelledType] at hspelled
      obtain ⟨hplugin, hname⟩ := TypeRef.mk.inj hspelled
      rw [← hplugin, ← hname] at hy
      exact ⟨congrArg Prod.fst (Option.some.inj (hx.symm.trans hy)), .inr ⟨hplugin, hname⟩⟩
    · have hinput := mt hfalls.2 houtput
      refine ⟨?_, .inl ⟨houtput, hinput⟩⟩
      rw [(Registry.eq_spelledType_iff hx).2 houtput, (Registry.eq_spelledType_iff hy).2 hinput, hspelled]
  · rintro ⟨hsame, ⟨houtput, hinput⟩ | ⟨hplugin, hname⟩⟩
    · rw [← (Registry.eq_spelledType_iff hx).2 houtput, ← (Registry.eq_spelledType_iff hy).2 hinput, hsame]
    · rw [hplugin, hname]

/-- Ports of different types are always warned about. Ports of one type are too if one of them falls back on
another plugin for it, unless both have it from the same plugin under the same name. -/
theorem wiringWarning?_resolved (hsource : g.declarationOf? r c.source.node = some (producer, produced))
    (htarget : g.declarationOf? r c.target.node = some (consumer, consumed))
    (houtput : produced.outputs.get? c.source.port = some output)
    (hinput : consumed.inputs.get? c.target.port = some input)
    (hproducer : '.' ∉ producer.plugin.toList) (hconsumer : '.' ∉ consumer.plugin.toList)
    (hx : (r.typeScope producer.plugin).resolve? output = some (x, outputType))
    (hy : (r.typeScope consumer.plugin).resolve? input = some (y, inputType)) :
    g.wiringWarning? r c =
      if x = y ∧ (¬ r.FallsBack producer.plugin output ∧ ¬ r.FallsBack consumer.plugin input ∨
          producer.plugin = consumer.plugin ∧ output = input) then none
      else some (.typeMismatch c.text (qualify producer.plugin output) (qualify consumer.plugin input)) := by
  rw [wiringWarning?_of_declared hsource htarget houtput hinput]
  simp only [qualify_eq_iff hproducer hconsumer, spelledType_eq_iff hx hy]

/-- Two plugins, of which the second declares no type and uses that of the first, once bare and once qualified. -/
def library : Registry :=
  ⟨SortedMap.empty.insert "base"
      { declaration :=
          (PluginDeclaration.named "base" "1.0.0" "Texts")
            |>.withType ⟨"Text", .primitive .string⟩
            |>.withNode ((NodeDeclaration.named "Show").input "text" "Text")
        run := fun node _ => pure (.error (.unknownNode "base" node)) }
    |>.insert "notes"
      { declaration :=
          (PluginDeclaration.named "notes" "1.0.0" "Notes").withNode
            (((NodeDeclaration.named "Read").output "text" "Text").output "title" "base.Text")
        run := fun node _ => pure (.error (.unknownNode "notes" node)) }⟩

def reading : Graph :=
  (named "reading")
    |>.addNode (.named "a" "notes" "Read")
    |>.addNode (.named "b" "base" "Show")
    |>.connect ⟨⟨"a", "text"⟩, ⟨"b", "text"⟩, .data⟩
    |>.connect ⟨⟨"a", "title"⟩, ⟨"b", "text"⟩, .data⟩

theorem wiringWarning?_resolved_reading :
    ¬ library.FallsBack "notes" "base.Text" ∧ ¬ library.FallsBack "base" "Text" ∧
      reading.wiringWarning? library ⟨⟨"a", "title"⟩, ⟨"b", "text"⟩, .data⟩ = none := by
  have houtput : ¬ library.FallsBack "notes" "base.Text" := by decide
  have hinput : ¬ library.FallsBack "base" "Text" := by decide
  refine ⟨houtput, hinput, ?_⟩
  rw [wiringWarning?_resolved (x := ⟨"base", "Text"⟩) (y := ⟨"base", "Text"⟩) rfl rfl rfl rfl (by decide) (by decide) rfl rfl]
  exact if_pos ⟨rfl, .inl ⟨houtput, hinput⟩⟩

/-- Both ports have the type `Text` of `base`, and a warning says that they differ. -/
theorem wiringWarnings_reading :
    (library.typeScope "notes").resolve? "Text" = some (⟨"base", "Text"⟩, ⟨"Text", .primitive .string⟩) ∧
      (library.typeScope "base").resolve? "Text" = some (⟨"base", "Text"⟩, ⟨"Text", .primitive .string⟩) ∧
      reading.wiringWarnings library = [.typeMismatch "a.text -> b.text" "notes.Text" "base.Text"] := by
  decide

end Graph

end Dataflow
