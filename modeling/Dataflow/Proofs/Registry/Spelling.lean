import Dataflow.Proofs.Registry.Scope
/-!
# Spellings of a type

A type can be named bare and qualified, and a bare name may fall back on another plugin. Names that resolve to
one declaration are synonyms (`TypeScope.Synonyms`). A scope is uniform if it does the same for all synonyms;
a plugin alone and every home in a registry are. In a uniform scope no type operation can tell
synonyms apart, except that errors mention the name that was given (`spelling_irrelevant`).
-/

namespace Dataflow

/-- What went wrong, without the names and the reason. -/
inductive TypeErrorKind where
  | unknownType
  | unsupportedCast
  | conversionFailed
  | invalidValue
deriving DecidableEq

def TypeError.kind : TypeError → TypeErrorKind
  | .unknownType _ => .unknownType
  | .unsupportedCast _ _ => .unsupportedCast
  | .conversionFailed _ _ _ => .conversionFailed
  | .invalidValue _ => .invalidValue

namespace TypeScope

variable {scope : TypeScope} {a a' b b' : String} {value : Json}

/-- Both names resolve, to the declaration that stands at one place. -/
def Synonyms (scope : TypeScope) (a b : String) : Prop :=
  ∃ ref x y, scope.resolve? a = some (ref, x) ∧ scope.resolve? b = some (ref, y)

/-- Synonyms mean the same declaration, and the plugins do the same for them. -/
structure Uniform (scope : TypeScope) : Prop where
  resolve : ∀ a b, scope.Synonyms a b → scope.resolve? a = scope.resolve? b
  checkRule : ∀ a b, scope.Synonyms a b → scope.checkRule a = scope.checkRule b
  refineDefault : ∀ a b, scope.Synonyms a b → scope.refineDefault a = scope.refineDefault b
  convert : ∀ a a' b b', scope.Synonyms a a' → scope.Synonyms b b' →
    ∀ value, scope.convert value a b = scope.convert value a' b'

namespace Uniform

theorem lookup (h : scope.Uniform) (hsame : scope.Synonyms a b) : scope.lookup? a = scope.lookup? b :=
  congrArg (Option.map Prod.snd) (h.resolve a b hsame)

theorem validates (h : scope.Uniform) (hsame : scope.Synonyms a b) :
    scope.validates value a = scope.validates value b :=
  validatesWithin_congr (h.lookup hsame) (h.checkRule a b hsame)

/-- An error of a default mentions a name that the declaration leads to, never the name that was given. -/
theorem createDefault (h : scope.Uniform) (hsame : scope.Synonyms a b) :
    scope.createDefault a = scope.createDefault b := by
  have hrefine := h.refineDefault a b hsame
  have hlookup := h.lookup hsame
  obtain ⟨ref, x, y, hx, -⟩ := hsame
  have hfound : scope.lookup? a = some x := by rw [lookup?, hx, Option.map_some]
  simp only [TypeScope.createDefault, defaultWithin, ← hlookup, hfound, hrefine]

end Uniform

/-- Of names that resolve a cast does not compare the texts. -/
theorem cast_eq {x y : TypeRef × TypeDeclaration} (hx : scope.resolve? a = some x) (hy : scope.resolve? b = some y) :
    scope.cast value a b =
      if x.1 = y.1 then .ok value
      else
        match x.2.base?, y.2.base? with
        | some xbase, some ybase =>
          if !scope.sameType xbase ybase then .error (.unsupportedCast a b)
          else if !scope.validates value a then .error (.invalidValue a)
          else scope.convert value a b
        | _, _ => .error (.unsupportedCast a b) := by
  unfold cast
  by_cases htext : a = b
  · subst htext
    cases hx.symm.trans hy
    rw [if_pos rfl, if_pos rfl]
  · rewrite [if_neg htext, hx, hy]
    rfl

theorem cast_synonyms (hsame : scope.Synonyms a b) : scope.cast value a b = .ok value := by
  obtain ⟨ref, x, y, hx, hy⟩ := hsame
  rw [cast_eq hx hy, if_pos rfl]

theorem Uniform.cast (h : scope.Uniform) (ha : scope.Synonyms a a') (hb : scope.Synonyms b b') :
    (scope.cast value a b).mapError TypeError.kind = (scope.cast value a' b').mapError TypeError.kind := by
  have hvalid : scope.validates value a = scope.validates value a' := h.validates ha
  have hconvert := h.convert a a' b b' ha hb value
  have hresolve := h.resolve a a' ha
  have hresolve' := h.resolve b b' hb
  obtain ⟨ref, x, -, hx, -⟩ := ha
  obtain ⟨ref', y, -, hy, -⟩ := hb
  rw [cast_eq hx hy, cast_eq (hresolve ▸ hx) (hresolve' ▸ hy), hvalid, hconvert]
  split
  · rfl
  · split
    · split
      · rfl
      · split <;> rfl
    · rfl

/-! ## Plugins that leave the supply alone -/

section Settled

variable {α β : Type} {x : ExceptT TypeError (StateM Supply) α} {f : α → ExceptT TypeError (StateM Supply) β}

/-- What the computation comes to does not depend on the supply. -/
def Settled (x : ExceptT TypeError (StateM Supply) α) : Prop := ∃ r, ∀ supply, (x supply).1 = r

theorem settled_pure (a : α) : Settled (pure a) := ⟨.ok a, fun _ => rfl⟩

theorem settled_throw (e : TypeError) : Settled (throw e : ExceptT TypeError (StateM Supply) α) :=
  ⟨.error e, fun _ => rfl⟩

theorem Settled.bind (hx : Settled x) (hf : ∀ a, Settled (f a)) : Settled (x >>= f) := by
  have happly (supply : Supply) : ((x >>= f) supply).1 = (ExceptT.bindCont f (x supply).1 (x supply).2).1 := rfl
  obtain ⟨r, hr⟩ := hx
  cases r with
  | error e =>
    refine ⟨.error e, fun supply => ?_⟩
    rw [happly, hr]
    rfl
  | ok a =>
    obtain ⟨r, hr'⟩ := hf a
    refine ⟨r, fun supply => ?_⟩
    rw [happly, hr]
    exact hr' _

theorem settled_mapM {γ : Type} {xs : List γ} {make : γ → ExceptT TypeError (StateM Supply) α}
    (h : ∀ x ∈ xs, Settled (make x)) : Settled (xs.mapM make) := by
  induction xs with
  | nil => exact settled_pure []
  | cons x xs ih =>
    obtain ⟨hx, hxs⟩ := List.forall_mem_cons.1 h
    rw [List.mapM_cons]
    exact hx.bind fun a => (ih hxs).bind fun as => settled_pure (a :: as)

end Settled

/-- The plugins refine defaults without drawing from the supply. -/
def Deterministic (scope : TypeScope) : Prop :=
  ∀ name base, ∃ value, ∀ supply, (scope.refineDefault name base supply).1 = value

theorem Deterministic.settled_defaultWithin (h : scope.Deterministic) (fuel : Nat) (name : String) :
    Settled (scope.defaultWithin fuel name) := by
  induction fuel generalizing name with
  | zero => exact settled_throw _
  | succ fuel ih =>
    unfold defaultWithin
    cases scope.lookup? name with
    | none => exact settled_throw _
    | some type =>
      obtain ⟨declared, kind⟩ := type
      cases kind with
      | primitive shape => exact settled_pure _
      | semantic base rules =>
        apply (ih base).bind
        intro start
        obtain ⟨value, hvalue⟩ := h name start
        exact ⟨.ok value, fun supply => congrArg Except.ok (hvalue supply)⟩
      | composite fields =>
        apply (settled_mapM fun e _ => (ih e.2).bind fun value => settled_pure (e.1, value)).bind
        exact fun members => settled_pure _

end TypeScope

/-! ## The scopes of plugins and registries -/

/-- Synonyms of a plugin alone differ in front of the dot only. -/
theorem Plugin.bare_eq_of_synonyms {p : Plugin} {a b : String} (h : p.scope.Synonyms a b) :
    (splitQualified a).2 = (splitQualified b).2 := by
  obtain ⟨ref, x, y, hx, hy⟩ := h
  obtain ⟨-, type, -, hfound⟩ := Plugin.resolve?_eq_some_iff.1 hx
  obtain ⟨-, type', -, hfound'⟩ := Plugin.resolve?_eq_some_iff.1 hy
  have href := (Prod.mk.inj hfound).1.trans (Prod.mk.inj hfound').1.symm
  exact (TypeRef.mk.inj href).2

theorem Plugin.uniform (p : Plugin) : p.scope.Uniform where
  resolve a b hsame := by
    have hbare := bare_eq_of_synonyms hsame
    obtain ⟨ref, x, y, hx, hy⟩ := hsame
    obtain ⟨-, type, htype, hfound⟩ := Plugin.resolve?_eq_some_iff.1 hx
    obtain ⟨-, type', htype', hfound'⟩ := Plugin.resolve?_eq_some_iff.1 hy
    rw [hbare, htype'] at htype
    rw [hx, hy, ← hfound, ← hfound', hbare, Option.some.inj htype]
  checkRule a b hsame := by simp only [scope, bare_eq_of_synonyms hsame]
  refineDefault a b hsame := by simp only [scope, bare_eq_of_synonyms hsame]
  convert a a' b b' ha hb value := by simp only [scope, bare_eq_of_synonyms ha, bare_eq_of_synonyms hb]

namespace Registry

variable {r : Registry} {home a b : String}

/-- Synonyms are found in the same plugin, under the same key. -/
theorem resolveType?_synonyms (h : (r.typeScope home).Synonyms a b) :
    r.resolveType? home a = r.resolveType? home b := by
  obtain ⟨ref, x, y, hx, hy⟩ := h
  obtain ⟨found, hfound, hfx⟩ := Option.map_eq_some_iff.1 hx
  obtain ⟨found', hfound', hfy⟩ := Option.map_eq_some_iff.1 hy
  have hplace := typeOf?_of_resolveType? hfound
  have hplace' := typeOf?_of_resolveType? hfound'
  rw [hfx] at hplace
  rw [hfy] at hplace'
  rw [hfound, hfound', ← hplace, ← hplace']

theorem uniform (r : Registry) (home : String) : (r.typeScope home).Uniform where
  resolve a b hsame := congrArg (Option.map Prod.snd) (resolveType?_synonyms hsame)
  checkRule a b hsame := by simp only [typeScope, resolveType?_synonyms hsame]
  refineDefault a b hsame := by simp only [typeScope, resolveType?_synonyms hsame]
  convert a a' b b' ha hb value := by
    have ha' := resolveType?_synonyms ha
    have hb' := resolveType?_synonyms hb
    obtain ⟨_, _, _, hx, -⟩ := ha
    obtain ⟨_, _, _, hy, -⟩ := hb
    obtain ⟨found, hfound, -⟩ := Option.map_eq_some_iff.1 hx
    obtain ⟨found', hfound', -⟩ := Option.map_eq_some_iff.1 hy
    simp only [typeScope, ← ha', ← hb', hfound, hfound']

/-- In the scope of a plugin alone and of a home in a registry, synonyms have the same values and the same
default, and if none can be made, the errors mention the same name. Casts between synonyms of two types give
the same value or fail in the same way, and a cast between synonyms of one type gives its value back. Where no
plugin draws from the supply, it makes no difference either when a default is made. -/
theorem spelling_irrelevant {scope : TypeScope}
    (hscope : (∃ r home, scope = typeScope r home) ∨ ∃ p, scope = Plugin.scope p)
    {a a' b b' : String} (ha : scope.Synonyms a a') (hb : scope.Synonyms b b') :
    (∀ value, scope.validates value a = scope.validates value a') ∧
    scope.createDefault a = scope.createDefault a' ∧
    (scope.Deterministic → ∀ supply supply',
      (scope.createDefault a supply).1 = (scope.createDefault a' supply').1) ∧
    (∀ value, (scope.cast value a b).mapError TypeError.kind = (scope.cast value a' b').mapError TypeError.kind) ∧
    ∀ value, scope.cast value a a' = .ok value := by
  have h : scope.Uniform := by
    rcases hscope with ⟨r, home, rfl⟩ | ⟨p, rfl⟩
    · exact r.uniform home
    · exact p.uniform
  have hdefault : scope.createDefault a = scope.createDefault a' := h.createDefault ha
  refine ⟨fun value => h.validates ha, hdefault, ?_, fun value => h.cast ha hb, fun value => TypeScope.cast_synonyms ha⟩
  intro hdeterministic supply supply'
  obtain ⟨outcome, houtcome⟩ := hdeterministic.settled_defaultWithin (maxTypeDepth + 1) a'
  rw [hdefault]
  exact (houtcome supply).trans (houtcome supply').symm

/-- A bare name that falls back on another plugin, and the texts that the errors differ in. -/
theorem spelling_irrelevant_shared :
    let scope := shared.typeScope "tide"
    scope.Synonyms "Flood" "tide.Flood" ∧ scope.Synonyms "Depth" "gauge.Depth" ∧
      (∀ value, scope.validates value "Flood" = scope.validates value "tide.Flood") ∧
      scope.createDefault "Flood" = scope.createDefault "tide.Flood" ∧
      (∀ value, (scope.cast value "Flood" "Depth").mapError TypeError.kind =
        (scope.cast value "tide.Flood" "gauge.Depth").mapError TypeError.kind) ∧
      scope.cast (.str "high") "Flood" "Depth" = .error (.invalidValue "Flood") ∧
      scope.cast (.str "high") "tide.Flood" "gauge.Depth" = .error (.invalidValue "tide.Flood") ∧
      (∀ value, scope.cast value "Flood" "tide.Flood" = .ok value) ∧
      ∀ supply supply', (gauge.scope.createDefault "Depth" supply).1 =
        (gauge.scope.createDefault "gauge.Depth" supply').1 := by
  intro scope
  have hflood : scope.Synonyms "Flood" "tide.Flood" := ⟨_, _, _, rfl, rfl⟩
  have hdepth : scope.Synonyms "Depth" "gauge.Depth" := ⟨_, _, _, rfl, rfl⟩
  have halone : gauge.scope.Synonyms "Depth" "gauge.Depth" := ⟨_, _, _, rfl, rfl⟩
  have hdeterministic : gauge.scope.Deterministic := fun _ _ => ⟨_, fun _ => rfl⟩
  obtain ⟨hvalid, hdefault, -, hcast, hidentity⟩ := spelling_irrelevant (.inl ⟨shared, "tide", rfl⟩) hflood hdepth
  obtain ⟨-, -, hsettled, -⟩ := spelling_irrelevant (.inr ⟨gauge, rfl⟩) halone halone
  exact ⟨hflood, hdepth, hvalid, hdefault, hcast, rfl, rfl, hidentity, hsettled hdeterministic⟩

end Registry

end Dataflow
