import Dataflow.Proofs.Run.Outcome
/-!
# What loading does to a registry

With a loader at hand a name denotes the plugin that is bound to it, or else the one that the
loader provides (`Registry.denotes?`). Loading binds names to what they denote anyway
(`loadFrom_loads`). Which name it fails on, and what the names are bound to when it does not
fail, is therefore the same for all registries in which the names denote the same.
-/

namespace Dataflow

/-- All plugins that a loader has are stateless. -/
def Loader.Stateless (l : Loader) : Prop := ∀ name p, l.load? name = some p → p.Stateless

namespace Registry

variable {loader : Loader} {r r' : Registry} {name : String} {p : Plugin}

/-- The plugin that a name stands for once it is loaded. -/
def denotes? (loader : Loader) (r : Registry) (name : String) : Option Plugin :=
  (r.get? name).or (provided? loader name)

theorem provided?_eq_some_iff : provided? loader name = some p ↔ loader.load? name = some p ∧ p.name = name := by
  unfold provided?
  cases loader.load? name <;> grind

theorem contains_iff : r.contains name ↔ ∃ p, r.get? name = some p := Option.isSome_iff_exists

theorem get?_of_not_contains (h : ¬ r.contains name) : r.get? name = none :=
  Option.not_isSome_iff_eq_none.1 h

theorem denotes?_of_contains (h : r.contains name) : r.denotes? loader name = r.get? name := by
  obtain ⟨p, hp⟩ := contains_iff.1 h
  rw [denotes?, hp, Option.some_or]

theorem denotes?_of_not_contains (h : ¬ r.contains name) : r.denotes? loader name = provided? loader name := by
  rw [denotes?, get?_of_not_contains h, Option.none_or]

theorem contains_insert (other : String) :
    contains ⟨r.plugins.insert name p⟩ other ↔ other = name ∨ r.contains other := by
  simp only [contains_iff, get?, SortedMap.get?_insert]
  split <;> simp_all

/-- Binding a name to what the loader provides for it. -/
theorem denotes?_insert (hc : ¬ r.contains name) (hp : provided? loader name = some p) (other : String) :
    denotes? loader ⟨r.plugins.insert name p⟩ other = r.denotes? loader other := by
  by_cases h : other = name
  · subst h
    rw [denotes?_of_not_contains hc, hp, denotes?, get?, SortedMap.get?_insert, if_pos rfl, Option.some_or]
  · rw [denotes?, get?, SortedMap.get?_insert, if_neg h]
    rfl

/-- A plugin that is provided for an unbound name can be bound to it. -/
theorem register_provided (hc : ¬ r.contains name) (hp : provided? loader name = some p) :
    r.register p = .ok ⟨r.plugins.insert name p⟩ := by
  obtain ⟨-, rfl⟩ := provided?_eq_some_iff.1 hp
  rw [register, if_neg hc]

/-- What holds of a registry after some names were loaded into `r`. -/
structure Loads (loader : Loader) (r : Registry) (names : List String) (l : Loading) : Prop where
  denotes : ∀ name, l.registry.denotes? loader name = r.denotes? loader name
  keeps : ∀ name, r.contains name → l.registry.contains name
  binds : l.error? = none → ∀ name ∈ names, l.registry.contains name
  /-- The first name that denotes nothing is the one that is reported. -/
  fails : l.error? = (names.find? fun name => (r.denotes? loader name).isNone).map .unknownPlugin
  stateless : r.Stateless → loader.Stateless → l.registry.Stateless

theorem loadFrom_loads (loader : Loader) (r : Registry) (loaded : List Plugin) (names : List String) :
    Loads loader r names (loadFrom loader r loaded names) := by
  fun_induction loadFrom loader r loaded names with
  | case1 r loaded => exact ⟨fun _ => rfl, fun _ h => h, fun _ _ h => (nomatch h), rfl, fun h _ => h⟩
  | case2 r loaded name rest hc ih =>
    refine ⟨ih.denotes, ih.keeps, fun he x hx => ?_, ?_, ih.stateless⟩
    · rcases List.mem_cons.1 hx with rfl | hx
      · exact ih.keeps x hc
      · exact ih.binds he x hx
    · obtain ⟨p, hp⟩ := contains_iff.1 hc
      simp [ih.fails, denotes?_of_contains hc, hp]
  | case3 r loaded name rest hc hp =>
    refine ⟨fun _ => rfl, fun _ h => h, fun he => (by cases he), ?_, fun h _ => h⟩
    simp [denotes?_of_not_contains hc, hp]
  -- A plugin that was provided under an unbound name is never refused.
  | case4 r loaded name rest hc p hp e he =>
    cases (register_provided hc hp).symm.trans he
  | case5 r loaded name rest hc p hp r' hr ih =>
    cases (register_provided hc hp).symm.trans hr
    have hdenotes := denotes?_insert hc hp
    refine ⟨fun x => (ih.denotes x).trans (hdenotes x), fun x hx => ?_, fun he x hx => ?_, ?_, fun hr hl => ?_⟩
    · exact ih.keeps x ((contains_insert x).2 (.inr hx))
    · rcases List.mem_cons.1 hx with rfl | hx
      · exact ih.keeps x ((contains_insert x).2 (.inl rfl))
      · exact ih.binds he x hx
    · simp [ih.fails, hdenotes, denotes?_of_not_contains hc, hp]
    · exact ih.stateless (hr.insert name (hl _ _ (provided?_eq_some_iff.1 hp).1)) hl

/-- After loading that did not fail the names are bound to what they denoted before. -/
theorem Loads.get? {names : List String} {l : Loading} (h : Loads loader r names l) (he : l.error? = none)
    {name : String} (hm : name ∈ names) : l.registry.get? name = r.denotes? loader name := by
  rw [← h.denotes, denotes?_of_contains (h.binds he name hm)]

/-- Registries in which all names denote the same fail to load on the same name, or bind the names alike. -/
theorem ensureLoaded_congr (h : ∀ name, r.denotes? loader name = r'.denotes? loader name) (names : List String) :
    (r.ensureLoaded loader names).error? = (r'.ensureLoaded loader names).error? ∧
      ((r.ensureLoaded loader names).error? = none → ∀ name ∈ names,
        (r.ensureLoaded loader names).registry.get? name = (r'.ensureLoaded loader names).registry.get? name) := by
  have hl := loadFrom_loads loader r [] names
  have hl' := loadFrom_loads loader r' [] names
  have herror : (r.ensureLoaded loader names).error? = (r'.ensureLoaded loader names).error? := by
    rw [ensureLoaded, hl.fails, ensureLoaded, hl'.fails]
    simp only [h]
  refine ⟨herror, fun he name hm => ?_⟩
  exact (hl.get? he hm).trans ((h name).trans (hl'.get? (herror ▸ he) hm).symm)

end Registry

end Dataflow
