import Dataflow.Proofs.Plugin.Builtin
import Dataflow.Proofs.Registry.Spelling
/-!
# Casts of the builtin plugin

Identifiers and labels are the only types of the plugin `basic` that are converted into each other,
and a value that is converted stays as it is. A cast therefore succeeds between names of one type,
and between identifiers and labels for the values that are written like an identifier
(`cast_eq_ok_iff`). Nothing in this distinguishes the source from the target, so that every cast of a
value of the source type can be undone (`cast_undone`). All that matters of the written forms of
identifiers is that none of them is empty.
-/

namespace Dataflow

/-- Names of a plugin's types that differ in front of the dot only are synonyms. -/
theorem Plugin.synonyms_of_bare {p : Plugin} {a b : String} (ha : (p.scope.resolve? a).isSome)
    (hb : (p.scope.resolve? b).isSome) (h : (splitQualified a).2 = (splitQualified b).2) : p.scope.Synonyms a b := by
  obtain ⟨_, hx⟩ := Option.isSome_iff_exists.1 ha
  obtain ⟨_, hy⟩ := Option.isSome_iff_exists.1 hb
  obtain ⟨-, type, htype, rfl⟩ := resolve?_eq_some_iff.1 hx
  obtain ⟨-, type', htype', rfl⟩ := resolve?_eq_some_iff.1 hy
  exact ⟨_, type, type', h ▸ hx, hy⟩

/-- Between two types a cast asks for a common base, for a value of the source type, and for a conversion. -/
theorem TypeScope.cast_eq_ok_of_ne {scope : TypeScope} {a b : String} {value result : Json} {x y : TypeRef × TypeDeclaration}
    (hx : scope.resolve? a = some x) (hy : scope.resolve? b = some y) (hne : x.1 ≠ y.1) :
    scope.cast value a b = .ok result ↔
      (∃ xbase ybase, x.2.base? = some xbase ∧ y.2.base? = some ybase ∧ scope.sameType xbase ybase = true) ∧
        scope.validates value a = true ∧ scope.convert value a b = .ok result := by
  rw [cast_eq hx hy, if_neg hne]
  cases x.2.base? with
  | none => simp
  | some xbase =>
    cases y.2.base? with
    | none => simp
    | some ybase =>
      cases hsame : scope.sameType xbase ybase with
      | false => simp [hsame]
      | true => cases hvalid : scope.validates value a <;> simp [hsame]

theorem TypeScope.Synonyms.symm {scope : TypeScope} {a b : String} (h : scope.Synonyms a b) : scope.Synonyms b a := by
  obtain ⟨ref, x, y, hx, hy⟩ := h
  exact ⟨ref, y, x, hy, hx⟩

namespace Builtin

open TypeScope

variable {a b name source target : String} {value result : Json}

/-! ## Identifiers and labels -/

theorem isIdentifier_empty : isIdentifier "" = false := by decide

/-- The values of a type of texts are the texts that satisfy its rule. -/
theorem validates_texts {rule : String} (h : ⟨name, .semantic "String" [rule]⟩ ∈ types) :
    plugin.scope.validates value name = true ↔
      (∃ s, value = .str s) ∧ checkRule (splitQualified name).2 rule value = true := by
  rw [validates, maxTypeDepth, validatesWithin_semantic (lookup?_name _ h), validatesWithin_shape .string (by simp [types]),
    Bool.and_eq_true]
  refine and_congr ?_ (by simp [Plugin.scope, plugin])
  cases value <;> simp [PrimitiveType.matches]

theorem validates_identifier_iff : plugin.scope.validates value "UUID" = true ↔ isIdentifierValue value = true := by
  have hdeclared : ⟨"UUID", .semantic "String" [identifierRule]⟩ ∈ types := by simp [types]
  rw [validates_texts hdeclared]
  cases value <;> simp [checkRule, isIdentifierValue, Json.str?]

theorem validates_label_iff : plugin.scope.validates value "Label" = true ↔ ∃ s, value = .str s ∧ s ≠ "" := by
  have hdeclared : ⟨"Label", .semantic "String" [nonEmptyRule]⟩ ∈ types := by simp [types]
  rw [validates_texts hdeclared]
  cases value <;> simp [checkRule, identifierRule, nonEmptyRule, Json.str?]

/-- What is written like an identifier is a label too. -/
theorem validates_label_of_identifier (h : isIdentifierValue value = true) :
    plugin.scope.validates value "Label" = true := by
  rw [validates_label_iff]
  cases value with
  | str s =>
    refine ⟨s, rfl, ?_⟩
    rintro rfl
    exact Bool.false_ne_true (isIdentifier_empty.symm.trans h)
  | _ => cases h

/-- The conversions of the plugin keep the value. -/
theorem convert_eq_ok_iff :
    convert value source target = .ok result ↔
      result = value ∧ (source = "UUID" ∧ target = "Label" ∨
        source = "Label" ∧ target = "UUID" ∧ isIdentifierValue value = true) := by
  unfold convert
  by_cases hlabel : source = "UUID" ∧ target = "Label"
  · obtain ⟨rfl, rfl⟩ := hlabel
    rw [if_pos ⟨rfl, rfl⟩, Except.ok.injEq, eq_comm]
    simp
  · rw [if_neg hlabel]
    by_cases hidentifier : source = "Label" ∧ target = "UUID"
    · obtain ⟨rfl, rfl⟩ := hidentifier
      rw [if_pos ⟨rfl, rfl⟩]
      split
      · rw [Except.ok.injEq, eq_comm]
        simp_all
      · simp_all
    · rw [if_neg hidentifier]
      simp only [reduceCtorEq, false_iff]
      rintro ⟨-, h | ⟨hsource, htarget, -⟩⟩
      · exact hlabel h
      · exact hidentifier ⟨hsource, htarget⟩

/-! ## Casts -/

theorem validates_identifier_synonym (hname : (plugin.scope.resolve? name).isSome)
    (h : (splitQualified name).2 = "UUID") :
    plugin.scope.validates value name = true ↔ isIdentifierValue value = true := by
  have hsynonyms : plugin.scope.Synonyms name "UUID" := Plugin.synonyms_of_bare hname rfl h
  rw [plugin.uniform.validates hsynonyms, validates_identifier_iff]

theorem validates_label_synonym (hname : (plugin.scope.resolve? name).isSome) (h : (splitQualified name).2 = "Label")
    (hvalue : isIdentifierValue value = true) : plugin.scope.validates value name = true := by
  have hsynonyms : plugin.scope.Synonyms name "Label" := Plugin.synonyms_of_bare hname rfl h
  rw [plugin.uniform.validates hsynonyms]
  exact validates_label_of_identifier hvalue

/-- One of the names means identifiers and the other one labels. -/
def Crosses (a b : String) : Prop :=
  (splitQualified a).2 = "UUID" ∧ (splitQualified b).2 = "Label" ∨
    (splitQualified a).2 = "Label" ∧ (splitQualified b).2 = "UUID"

theorem Crosses.symm (h : Crosses a b) : Crosses b a := by
  rcases h with ⟨ha, hb⟩ | ⟨ha, hb⟩
  · exact .inr ⟨hb, ha⟩
  · exact .inl ⟨hb, ha⟩

/-- What is written like an identifier is a value of both types. -/
theorem Crosses.validates (h : Crosses a b) (hb : (plugin.scope.resolve? b).isSome)
    (hvalue : isIdentifierValue value = true) : plugin.scope.validates value b = true := by
  rcases h with ⟨-, hlabel⟩ | ⟨-, hidentifier⟩
  · exact validates_label_synonym hb hlabel hvalue
  · exact (validates_identifier_synonym hb hidentifier).2 hvalue

theorem Crosses.cast (h : Crosses a b) (ha : (plugin.scope.resolve? a).isSome) (hb : (plugin.scope.resolve? b).isSome)
    (hvalue : isIdentifierValue value = true) : plugin.scope.cast value a b = .ok value := by
  have hvalid : plugin.scope.validates value a = true := h.symm.validates ha hvalue
  rcases h with ⟨hidentifier, hlabel⟩ | ⟨hlabel, hidentifier⟩
  · have hx := plugin.uniform.resolve a "UUID" (Plugin.synonyms_of_bare ha rfl hidentifier)
    have hy := plugin.uniform.resolve b "Label" (Plugin.synonyms_of_bare hb rfl hlabel)
    refine (cast_eq_ok_of_ne hx hy (by decide)).2 ⟨⟨"String", "String", rfl, rfl, by decide⟩, hvalid, ?_⟩
    exact convert_eq_ok_iff.2 ⟨rfl, .inl ⟨hidentifier, hlabel⟩⟩
  · have hx := plugin.uniform.resolve a "Label" (Plugin.synonyms_of_bare ha rfl hlabel)
    have hy := plugin.uniform.resolve b "UUID" (Plugin.synonyms_of_bare hb rfl hidentifier)
    refine (cast_eq_ok_of_ne hx hy (by decide)).2 ⟨⟨"String", "String", rfl, rfl, by decide⟩, hvalid, ?_⟩
    exact convert_eq_ok_iff.2 ⟨rfl, .inr ⟨hlabel, hidentifier, hvalue⟩⟩

/-- A value can be cast between names of one type, and between identifiers and labels if it is written
like an identifier. It stays as it is. -/
theorem cast_eq_ok_iff (ha : (plugin.scope.resolve? a).isSome) (hb : (plugin.scope.resolve? b).isSome) :
    plugin.scope.cast value a b = .ok result ↔
      result = value ∧ (plugin.scope.Synonyms a b ∨ Crosses a b ∧ isIdentifierValue value = true) := by
  constructor
  · intro h
    obtain ⟨x, hx⟩ := Option.isSome_iff_exists.1 ha
    obtain ⟨y, hy⟩ := Option.isSome_iff_exists.1 hb
    by_cases hsame : x.1 = y.1
    · have hsynonyms : plugin.scope.Synonyms a b := ⟨x.1, x.2, y.2, hx, by rw [hsame, hy]⟩
      rw [cast_synonyms hsynonyms, Except.ok.injEq] at h
      exact ⟨h.symm, .inl hsynonyms⟩
    · obtain ⟨-, hvalid, hconvert⟩ := (cast_eq_ok_of_ne hx hy hsame).1 h
      obtain ⟨rfl, ⟨hidentifier, hlabel⟩ | ⟨hlabel, hidentifier, hvalue⟩⟩ := convert_eq_ok_iff.1 hconvert
      · have hvalue := (validates_identifier_synonym ha hidentifier).1 hvalid
        exact ⟨rfl, .inr ⟨.inl ⟨hidentifier, hlabel⟩, hvalue⟩⟩
      · exact ⟨rfl, .inr ⟨.inr ⟨hlabel, hidentifier⟩, hvalue⟩⟩
  · rintro ⟨rfl, hsynonyms | ⟨hcross, hvalue⟩⟩
    · exact cast_synonyms hsynonyms
    · exact hcross.cast ha hb hvalue

/-- A cast between types of the plugin, under whatever names, leaves a value of the source type as it is.
The value has the target type too, and the cast back succeeds. -/
theorem cast_undone (hsource : (plugin.scope.resolve? source).isSome) (htarget : (plugin.scope.resolve? target).isSome)
    (hvalue : plugin.scope.validates value source = true) (h : plugin.scope.cast value source target = .ok result) :
    result = value ∧ plugin.scope.validates result target = true ∧
      plugin.scope.cast result target source = .ok value := by
  obtain ⟨rfl, hcases⟩ := (cast_eq_ok_iff hsource htarget).1 h
  refine ⟨rfl, ?_, (cast_eq_ok_iff htarget hsource).2 ⟨rfl, ?_⟩⟩
  · rcases hcases with hsynonyms | ⟨hcross, hidentifier⟩
    · rw [← plugin.uniform.validates hsynonyms]
      exact hvalue
    · exact hcross.validates htarget hidentifier
  · rcases hcases with hsynonyms | ⟨hcross, hidentifier⟩
    · exact .inl hsynonyms.symm
    · exact .inr ⟨hcross.symm, hidentifier⟩

/-- A label that is an identifier in braces. -/
theorem cast_undone_braced :
    let label := Json.str "\x7b67e55044-10b1-426f-9247-bb680e5fe0c8\x7d"
    plugin.scope.validates label "basic.Label" = true ∧ plugin.scope.cast label "basic.Label" "UUID" = .ok label ∧
      plugin.scope.validates label "UUID" = true ∧ plugin.scope.cast label "UUID" "basic.Label" = .ok label := by
  intro label
  have hidentifier : isIdentifierValue label = true := by decide +kernel
  have hlabel : plugin.scope.validates label "basic.Label" = true := validates_label_synonym rfl (by decide) hidentifier
  have hcross : Crosses "basic.Label" "UUID" := .inr ⟨by decide, by decide⟩
  have hcast : plugin.scope.cast label "basic.Label" "UUID" = .ok label := hcross.cast rfl rfl hidentifier
  obtain ⟨-, hvalid, hback⟩ := cast_undone rfl rfl hlabel hcast
  exact ⟨hlabel, hcast, hvalid, hback⟩

end Builtin

end Dataflow
