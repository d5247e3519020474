import Dataflow.Proofs.Registry.Resolution
import Dataflow.Proofs.Type.Agreement
/-!
# Type operations within a registry

A plugin whose types refer to its own types only is the same scope alone and as the home of a registry
(`Registry.typeScope_alone`). A qualified name has the same values, default and casts from two homes as long as
no bare name that it leads to is captured by one of them (`Registry.typeScope_alike`).
-/

namespace Dataflow

/-- The name is one of the plugin's own: qualified with its name, or bare and declared by it. -/
def Plugin.Owns (p : Plugin) (name : String) : Prop :=
  (splitQualified name).1 = some p.name ∨
    (splitQualified name).1 = none ∧ p.declaration.types.contains (splitQualified name).2 = true

instance (p : Plugin) (name : String) : Decidable (p.Owns name) := inferInstanceAs (Decidable (_ ∨ _ ∧ _))

theorem Plugin.resolve?_eq_some_iff {p : Plugin} {name : String} {found : TypeRef × TypeDeclaration} :
    p.scope.resolve? name = some found ↔
      ((splitQualified name).1 = none ∨ (splitQualified name).1 = some p.name) ∧
        ∃ type, p.declaration.types.get? (splitQualified name).2 = some type ∧
          (⟨p.name, (splitQualified name).2⟩, type) = found := by
  cases hsplit : splitQualified name with
  | mk plugin? bare =>
    cases plugin? with
    | none => simp [scope, hsplit]
    | some plugin => by_cases hplugin : plugin = p.name <;> simp [scope, hsplit, hplugin]

/-- A plugin whose types refer to its own types leads to no others. -/
theorem Plugin.within_owns {p : Plugin}
    (h : ∀ type ∈ p.declaration.types.values, ∀ target ∈ type.kind.references, p.Owns target) {name : String}
    (hname : p.Owns name) : p.scope.Within p.Owns name := by
  refine TypeScope.within_of_closed ?_ hname
  rintro n target - ⟨type, htype, href⟩
  obtain ⟨found, hfound, rfl⟩ := Option.map_eq_some_iff.1 htype
  obtain ⟨-, type, hget, rfl⟩ := resolve?_eq_some_iff.1 hfound
  exact h type (List.mem_map_of_mem (OrderedMap.mem_of_get? hget)) target href

namespace Registry

variable {r : Registry} {p : Plugin} {home home' name : String}

/-! ## A plugin alone and at home -/

theorem resolveType?_alone (hr : r.get? p.name = some p) (hname : p.Owns name) :
    r.resolveType? p.name name = (p.scope.resolve? name).map fun found => (p, found) := by
  cases hsplit : splitQualified name with
  | mk plugin? bare =>
    simp only [Plugin.Owns, hsplit] at hname
    rcases hname with rfl | ⟨rfl, hbare⟩
    · rw [resolveType?_qualified hsplit]
      simp [typeOf?, hr, Plugin.scope, hsplit, Function.comp_def]
    · obtain ⟨type, htype⟩ := Option.isSome_iff_exists.1 hbare
      obtain rfl := eq_of_splitQualified_bare hsplit
      rw [resolveType?_own hsplit (typeOf?_eq_some_iff.2 ⟨p, type, hr, htype, rfl⟩)]
      simp [Plugin.scope, hsplit, htype]

/-- Where types stand under their own names, the plugin is asked at home by the bare name, as it is alone. -/
theorem exists_resolveType?_alone (hr : r.get? p.name = some p)
    (hkeyed : ∀ key type, p.declaration.types.get? key = some type → type.name = key) (hname : p.Owns name)
    (hsome : (p.scope.resolve? name).isSome) :
    ∃ ref type, r.resolveType? p.name name = some (p, ref, type) ∧ type.name = (splitQualified name).2 := by
  obtain ⟨⟨ref, type⟩, hfound⟩ := Option.isSome_iff_exists.1 hsome
  refine ⟨ref, type, by rw [resolveType?_alone hr hname, hfound]; rfl, ?_⟩
  obtain ⟨-, type, htype, ⟨⟩⟩ := Plugin.resolve?_eq_some_iff.1 hfound
  exact hkeyed _ type htype

theorem agreesOn_owns (hr : r.get? p.name = some p)
    (hkeyed : ∀ key type, p.declaration.types.get? key = some type → type.name = key) :
    TypeScope.AgreesOn p.Owns p.scope (r.typeScope p.name) where
  resolve n hn := by simp [typeScope, resolveType?_alone hr hn, Function.comp_def]
  checkRule n hn hsome := by
    obtain ⟨ref, type, hfound, htype⟩ := exists_resolveType?_alone hr hkeyed hn hsome
    funext rule value
    simp only [typeScope, hfound, htype, Plugin.scope]
  refineDefault n hn hsome := by
    obtain ⟨ref, type, hfound, htype⟩ := exists_resolveType?_alone hr hkeyed hn hsome
    funext base
    simp only [typeScope, hfound, htype, Plugin.scope]
  convert m n hm hn hmsome hnsome value := by
    obtain ⟨ref, type, hfound, htype⟩ := exists_resolveType?_alone hr hkeyed hm hmsome
    obtain ⟨ref', type', hfound', htype'⟩ := exists_resolveType?_alone hr hkeyed hn hnsome
    simp only [typeScope, hfound, hfound', htype, htype', if_true, Plugin.scope]

/-- On names that lead to its own types only, a plugin alone validates, defaults and casts as it does at home in
a registry, whatever else is registered there. -/
theorem typeScope_alone (hr : r.get? p.name = some p)
    (hkeyed : ∀ key type, p.declaration.types.get? key = some type → type.name = key) {source : String}
    (hsource : p.scope.Within p.Owns source) :
    (∀ value, (r.typeScope p.name).validates value source = p.scope.validates value source) ∧
      (r.typeScope p.name).createDefault source = p.scope.createDefault source ∧
      ∀ target, p.scope.Within p.Owns target →
        ∀ value, (r.typeScope p.name).cast value source target = p.scope.cast value source target := by
  have h := agreesOn_owns hr hkeyed
  refine ⟨fun value => h.validates hsource, h.createDefault hsource, ?_⟩
  intro target htarget value
  exact h.cast hsource htarget

/-- A plugin whose types refer to each other by bare and by qualified names. -/
def gauge : Plugin where
  declaration :=
    (PluginDeclaration.named "gauge" "1.0.0" "Levels")
      |>.withType ⟨"Level", .primitive .integer⟩
      |>.withType ⟨"Depth", .semantic "gauge.Level" ["nonzero"]⟩
      |>.withType ⟨"Height", .semantic "Level" []⟩
      |>.withType ⟨"Range", .composite (.ofList [("low", "gauge.Depth"), ("high", "Height")])⟩
  checkRule type rule value := type = "Depth" && rule = "nonzero" && value.int64? != some 0
  refineDefault type base := pure (if type = "Depth" then .int 1 else base)
  convert value source target :=
    if source = "Depth" then .error (.conversionFailed source target "it is below") else .ok value
  run node _ := pure (.error (.unknownNode "gauge" node))

/-- A plugin with other types of the same names. -/
def archive : Plugin where
  declaration :=
    (PluginDeclaration.named "archive" "1.0.0" "Old levels")
      |>.withType ⟨"Level", .semantic "Metre" []⟩
      |>.withType ⟨"Height", .primitive .string⟩
  run node _ := pure (.error (.unknownNode "archive" node))

def archived : Registry := ⟨(SortedMap.empty.insert "gauge" gauge).insert "archive" archive⟩

theorem gauge_within {name : String} (h : gauge.Owns name) : gauge.scope.Within gauge.Owns name :=
  Plugin.within_owns (by decide) h

theorem gauge_keyed : ∀ key type, gauge.declaration.types.get? key = some type → type.name = key := by
  intro key type h
  exact (by decide : ∀ e ∈ gauge.declaration.types.entries, e.2.name = e.1) (key, type) (OrderedMap.mem_entries_iff.2 h)

theorem typeScope_alone_archived :
    (∀ value, (archived.typeScope "gauge").validates value "Range" = gauge.scope.validates value "Range") ∧
      (archived.typeScope "gauge").createDefault "Range" = gauge.scope.createDefault "Range" ∧
      ∀ value, (archived.typeScope "gauge").cast value "Height" "gauge.Depth" =
        gauge.scope.cast value "Height" "gauge.Depth" := by
  have hr : archived.get? gauge.name = some gauge := rfl
  have hrange := typeScope_alone hr gauge_keyed (gauge_within (by decide : gauge.Owns "Range"))
  have hheight := typeScope_alone hr gauge_keyed (gauge_within (by decide : gauge.Owns "Height"))
  exact ⟨hrange.1, hrange.2.1, hheight.2.2 "gauge.Depth" (gauge_within (by decide))⟩

/-! ## One name from two homes -/

/-- No bare name that the name leads to is hidden by one of the homes behind a type of its own. -/
def Uncaptured (r : Registry) (home home' name : String) : Prop :=
  (r.typeScope home).Within
    (fun n => (splitQualified n).1 = none → ¬ r.Shadows home n ∧ ¬ r.Shadows home' n) name

theorem agreesOn_homes :
    TypeScope.AgreesOn (fun n => r.resolveType? home' n = r.resolveType? home n) (r.typeScope home) (r.typeScope home') where
  resolve n hn := congrArg (Option.map Prod.snd) hn
  checkRule n hn _ := by simp only [typeScope, hn]
  refineDefault n hn _ := by simp only [typeScope, hn]
  convert m n hm hn _ _ value := by simp only [typeScope, hm, hn]

theorem Uncaptured.within (h : r.Uncaptured home home' name) :
    (r.typeScope home).Within (fun n => r.resolveType? home' n = r.resolveType? home n) name := by
  refine TypeScope.Within.mono h ?_
  intro n hn
  cases hsplit : splitQualified n with
  | mk plugin? bare =>
    cases plugin? with
    | some plugin => rw [resolveType?_qualified hsplit, resolveType?_qualified hsplit]
    | none =>
      obtain ⟨hhome, hhome'⟩ := hn (by rw [hsplit])
      rw [resolveType?_of_not_shadows hsplit hhome, resolveType?_of_not_shadows hsplit hhome']

/-- A name that leads to no captured one, itself included, has the same values, default and casts from both
homes. A qualified name is never captured itself, but the bare names in its declaration may be. -/
theorem typeScope_alike {source : String} (hsource : r.Uncaptured home home' source) :
    (∀ value, (r.typeScope home').validates value source = (r.typeScope home).validates value source) ∧
      (r.typeScope home').createDefault source = (r.typeScope home).createDefault source ∧
      ∀ target, r.Uncaptured home home' target →
        ∀ value, (r.typeScope home').cast value source target = (r.typeScope home).cast value source target := by
  refine ⟨fun value => agreesOn_homes.validates hsource.within, agreesOn_homes.createDefault hsource.within, ?_⟩
  intro target htarget value
  exact agreesOn_homes.cast hsource.within htarget.within

/-- Two plugins, of which the second uses the type of the first under its bare name. -/
def shared : Registry :=
  ⟨SortedMap.empty.insert "gauge" gauge |>.insert "tide"
    { declaration :=
        (PluginDeclaration.named "tide" "1.0.0" "Tides")
          |>.withType ⟨"Flood", .semantic "Level" []⟩
          |>.withType ⟨"Ebb", .semantic "gauge.Level" []⟩
      run := fun node _ => pure (.error (.unknownNode "tide" node)) }⟩

theorem typeScope_alike_shared :
    ¬ shared.Declares "tide" "Level" ∧
      (∀ value, (shared.typeScope "tide").validates value "tide.Flood" =
        (shared.typeScope "gauge").validates value "tide.Flood") ∧
      (shared.typeScope "tide").createDefault "tide.Flood" = (shared.typeScope "gauge").createDefault "tide.Flood" ∧
      ∀ value, (shared.typeScope "tide").cast value "tide.Flood" "tide.Ebb" =
        (shared.typeScope "gauge").cast value "tide.Flood" "tide.Ebb" := by
  have huncaptured : ∀ name ∈ ["tide.Flood", "tide.Ebb", "Level", "gauge.Level"],
      shared.Uncaptured "gauge" "tide" name :=
    fun name hname => TypeScope.within_of_names (by decide) (by decide) hname
  obtain ⟨hvalid, hdefault, hcast⟩ := typeScope_alike (huncaptured "tide.Flood" (by decide))
  exact ⟨by decide, hvalid, hdefault, hcast "tide.Ebb" (huncaptured "tide.Ebb" (by decide))⟩

/-- Both plugins declare a type `Level`, and that of the second has an unknown base. -/
def captured : Registry :=
  ⟨SortedMap.empty.insert "gauge" gauge |>.insert "tide"
    { declaration := (PluginDeclaration.named "tide" "1.0.0" "Tides").withType ⟨"Level", .semantic "Metre" []⟩
      run := fun node _ => pure (.error (.unknownNode "tide" node)) }⟩

theorem typeScope_not_alike_captured :
    captured.contains "gauge" ∧ captured.contains "tide" ∧
      (captured.typeScope "gauge").validates (.whole 0) "gauge.Height" = true ∧
      (captured.typeScope "tide").validates (.whole 0) "gauge.Height" = false ∧
      ((captured.typeScope "gauge").createDefault "gauge.Height" default).1 = .ok (.whole 0) ∧
      ((captured.typeScope "tide").createDefault "gauge.Height" default).1 = .error (.unknownType "Metre") ∧
      (captured.typeScope "gauge").cast (.whole 0) "gauge.Height" "gauge.Depth" = .ok (.whole 0) ∧
      (captured.typeScope "tide").cast (.whole 0) "gauge.Height" "gauge.Depth" =
        .error (.unsupportedCast "gauge.Height" "gauge.Depth") := by
  exact ⟨rfl, rfl, rfl, rfl, rfl, rfl, rfl, rfl⟩

end Registry

end Dataflow
