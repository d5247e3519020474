import Dataflow.Proofs.Type.Default
/-!
# Defaults have their type

A plugin may refine the default of a semantic type. If refining takes values of the base to values of the
base that satisfy the rules (`TypeScope.RefinesSoundly`), then every default that is made is accepted
(`createDefault_validates`). A default is made with less fuel than it is validated with afterwards, so the
induction speaks of typing, which knows no fuel, and of the chains of references, which bound it.
-/

namespace Dataflow.TypeScope

/-! ## Results of computations that may fail -/

section Produces

variable {α β : Type} {x : ExceptT TypeError (StateM Supply) α} {f : α → ExceptT TypeError (StateM Supply) β}
  {a made : α} {b : β}

/-- With some supply the computation has this result. -/
def Produces (x : ExceptT TypeError (StateM Supply) α) (a : α) : Prop := ∃ supply, (x supply).1 = .ok a

theorem Produces.of_pure (h : Produces (pure a) made) : a = made := by
  obtain ⟨supply, h⟩ := h
  exact Except.ok.inj h

theorem Produces.of_bind (h : Produces (x >>= f) b) : ∃ a, Produces x a ∧ Produces (f a) b := by
  obtain ⟨supply, h⟩ := h
  change (ExceptT.bindCont f (x supply).1 (x supply).2).1 = .ok b at h
  cases hx : (x supply).1 with
  | error e =>
    rw [hx] at h
    cases h
  | ok a =>
    rw [hx] at h
    exact ⟨a, ⟨supply, hx⟩, (x supply).2, h⟩

/-- The members of a record are made field by field. -/
theorem Produces.of_mapM {make : String → ExceptT TypeError (StateM Supply) Json} {fields : List (String × String)}
    {members : List (String × Json)}
    (h : Produces (fields.mapM fun (field, type) => do return (field, ← make type)) members) :
    members.map Prod.fst = fields.map Prod.fst ∧ ∀ e ∈ fields, ∃ v, (e.1, v) ∈ members ∧ Produces (make e.2) v := by
  induction fields generalizing members with
  | nil =>
    obtain rfl := h.of_pure
    simp
  | cons field fields ih =>
    rw [List.mapM_cons] at h
    obtain ⟨member, hmember, h⟩ := h.of_bind
    obtain ⟨rest, hrest, h⟩ := h.of_bind
    obtain rfl := h.of_pure
    obtain ⟨value, hvalue, hmember⟩ := hmember.of_bind
    obtain rfl := hmember.of_pure
    obtain ⟨hkeys, hmembers⟩ := ih hrest
    refine ⟨by simp [hkeys], List.forall_mem_cons.2 ⟨⟨value, List.mem_cons_self, hvalue⟩, fun e he => ?_⟩⟩
    obtain ⟨v, hm, hv⟩ := hmembers e he
    exact ⟨v, List.mem_cons_of_mem _ hm, hv⟩

end Produces

/-! ## What defaults are made of -/

variable {scope : TypeScope} {name : String} {value : Json} {fuel : Nat}

theorem Resolves.shallow (h : scope.Resolves fuel name) : scope.Shallow fuel name :=
  fun names hnames => (h names hnames).1

theorem Shallow.mono {fuel' : Nat} (h : scope.Shallow fuel name) (hle : fuel ≤ fuel') : scope.Shallow fuel' name :=
  fun names hnames => (h names hnames).trans_le hle

/-- Refining takes every value of the base, whatever the supply, to a value of the base that satisfies the rules. -/
def RefinesSoundly (scope : TypeScope) : Prop :=
  ∀ name declared base rules, scope.lookup? name = some ⟨declared, .semantic base rules⟩ →
    ∀ value, scope.validates value base = true → ∀ supply,
      scope.validates (scope.refineDefault name value supply).1 base = true ∧
      ∀ rule ∈ rules, scope.checkRule name rule (scope.refineDefault name value supply).1 = true

theorem hasShape_defaultValue (shape : PrimitiveType) : HasShape shape shape.defaultValue := by
  cases shape
  · exact .boolean false
  · exact .integer 0
  · exact .string ""

/-- What is made of a type that resolves has the type. -/
theorem hasType_of_produces (hrefines : scope.RefinesSoundly) (hresolves : scope.Resolves fuel name)
    (hfuel : fuel ≤ maxTypeDepth + 1) (h : Produces (scope.defaultWithin fuel name) value) :
    scope.HasType value name := by
  induction fuel generalizing name value with
  | zero => exact absurd hresolves not_resolves_zero
  | succ fuel ih =>
    obtain ⟨hname, htargets⟩ := resolves_succ_iff.1 hresolves
    obtain ⟨⟨declared, kind⟩, hlookup⟩ := Option.isSome_iff_exists.1 hname
    simp only [refers_iff hlookup] at htargets
    unfold defaultWithin at h
    rw [hlookup] at h
    cases kind with
    | primitive shape =>
      obtain rfl := h.of_pure
      exact (hasType_primitive hlookup).2 (hasShape_defaultValue shape)
    | semantic base rules =>
      have hbase : scope.Resolves fuel base := htargets base List.mem_cons_self
      obtain ⟨start, hstart, supply, hrefined⟩ := h.of_bind
      obtain rfl : (scope.refineDefault name start supply).1 = value := Except.ok.inj hrefined
      have htype : scope.HasType start base := ih hbase (by omega) hstart
      -- The base is validated from the start again, where more references are left than it needs.
      have hvalid : scope.validates start base = true :=
        validatesWithin_iff.2 ⟨htype, hbase.shallow.mono (by omega)⟩
      obtain ⟨hrefinedValid, hrules⟩ := hrefines name declared base rules hlookup start hvalid supply
      exact (hasType_semantic hlookup).2 ⟨(validatesWithin_iff.1 hrefinedValid).1, hrules⟩
    | composite fields =>
      simp only [TypeKind.references, forall_mem_values] at htargets
      obtain ⟨members, hmembers, h⟩ := h.of_bind
      obtain rfl := h.of_pure
      obtain ⟨hkeys, hmade⟩ := hmembers.of_mapM
      refine (hasType_composite hlookup).2 ⟨_, rfl, fun e he => ?_⟩
      obtain ⟨v, hm, hv⟩ := hmade e he
      have hnodup : (members.map Prod.fst).Nodup := hkeys ▸ fields.nodup
      exact ⟨v, (SortedMap.get?_ofList_of_nodup hnodup).2 hm, ih (htargets e he) (by omega) hv⟩

/-- Where refining is sound, every default that is made is a value of its type. -/
theorem createDefault_validates (hrefines : scope.RefinesSoundly) {supply : Supply}
    (h : (scope.createDefault name supply).1 = .ok value) : scope.validates value name = true := by
  have hresolves : scope.Resolves (maxTypeDepth + 1) name := createDefault_eq_ok_iff.1 ⟨value, h⟩
  exact validatesWithin_iff.2 ⟨hasType_of_produces hrefines hresolves le_rfl ⟨supply, h⟩, hresolves.shallow⟩

/-- Records in records, of numbers and of texts in upper case. Every default of a tag is another text. -/
def minting : TypeScope where
  resolve? name :=
    match name with
    | "Int" => some (⟨"p", "Int"⟩, ⟨"Int", .primitive .integer⟩)
    | "String" => some (⟨"p", "String"⟩, ⟨"String", .primitive .string⟩)
    | "Tag" => some (⟨"p", "Tag"⟩, ⟨"Tag", .semantic "String" ["upper"]⟩)
    | "Mark" => some (⟨"p", "Mark"⟩, ⟨"Mark", .semantic "Tag" []⟩)
    | "Pair" => some (⟨"p", "Pair"⟩, ⟨"Pair", .composite (.ofList [("left", "Int"), ("right", "Mark")])⟩)
    | "Box" => some (⟨"p", "Box"⟩, ⟨"Box", .composite (.ofList [("pair", "Pair"), ("tag", "Tag")])⟩)
    | _ => none
  checkRule _ _ value :=
    match value with
    | .str text => text.toList.all fun c => !c.isLower
    | _ => false
  refineDefault name value supply :=
    if name = "Tag" then
      (.str (String.ofList (List.replicate (supply.seed + 1) 'T')), { supply with seed := supply.seed + 1 })
    else (value, supply)
  convert value _ _ := .ok value

theorem minting_refinesSoundly : minting.RefinesSoundly := by
  intro name declared base rules hlookup value hvalid supply
  by_cases htag : name = "Tag"
  · subst htag
    cases hlookup
    refine ⟨rfl, ?_⟩
    simp [minting]
  by_cases hmark : name = "Mark"
  · subst hmark
    cases hlookup
    exact ⟨hvalid, by simp⟩
  simp only [lookup?, minting] at hlookup
  split at hlookup <;> simp_all

theorem createDefault_validates_minting :
    minting.RefinesSoundly ∧ ∃ value,
      (minting.createDefault "Box" default).1 = .ok value ∧ minting.validates value "Box" = true :=
  ⟨minting_refinesSoundly, _, rfl, createDefault_validates minting_refinesSoundly rfl⟩

end Dataflow.TypeScope
