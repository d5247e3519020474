import Mathlib.Data.List.TakeWhile
import Dataflow.Proofs.Type.Validation
import Dataflow.Registry.Scope
/-!
# What a type name means in a registry

A qualified name means the same from every home (`Registry.resolveType?_qualified`). A bare name means the type
of the first plugin, by name, that declares one, unless the home hides it behind a type of its own
(`Registry.Shadows`). Two homes give a bare name the same meaning if and only if neither does that
(`Registry.resolveType?_bare_eq_iff`); a name that one plugin alone declares is never hidden
(`Registry.resolveType?_unambiguous`).
-/

namespace Dataflow

/-! ## Bare and qualified names -/

theorem splitQualified_of_not_mem {name : String} (h : '.' ∉ name.toList) : splitQualified name = (none, name) := by
  have hdrop : name.toList.dropWhile (· ≠ '.') = [] := by
    rw [List.dropWhile_eq_nil_iff]
    intro c hc
    simpa using ne_of_mem_of_not_mem hc h
  unfold splitQualified
  dsimp only
  rw [hdrop]

/-- A name without a dot is bare, and any other is cut at its first dot. -/
theorem splitQualified_cases (name : String) :
    splitQualified name = (none, name) ∨
      ∃ plugin bare, name = plugin ++ "." ++ bare ∧ splitQualified name = (some plugin, bare) := by
  by_cases hdot : '.' ∈ name.toList
  · obtain ⟨front, back, hname, hfront⟩ := List.eq_append_cons_of_mem hdot
    have hjoin : name = String.ofList front ++ "." ++ String.ofList back := by
      apply String.toList_injective
      simp [hname]
    refine .inr ⟨String.ofList front, String.ofList back, hjoin, ?_⟩
    rw [hjoin]
    exact splitQualified_dot (by simpa using hfront) _
  · exact .inl (splitQualified_of_not_mem hdot)

theorem eq_of_splitQualified_bare {name bare : String} (h : splitQualified name = (none, bare)) : bare = name := by
  rcases splitQualified_cases name with hbare | ⟨plugin, bare', -, hsplit⟩
  · exact (Prod.mk.inj (h.symm.trans hbare)).2
  · cases h.symm.trans hsplit

namespace Registry

variable {r : Registry} {home home' other plugin bare name : String} {found : Plugin × TypeRef × TypeDeclaration}

/-! ## The types of one plugin -/

def Declares (r : Registry) (plugin bare : String) : Prop := ∃ found, r.typeOf? plugin bare = some found

instance : Decidable (r.Declares plugin bare) :=
  decidable_of_iff ((r.typeOf? plugin bare).isSome = true) Option.isSome_iff_exists

theorem typeOf?_eq_some_iff :
    r.typeOf? plugin bare = some found ↔
      ∃ p type, r.get? plugin = some p ∧ p.declaration.types.get? bare = some type ∧ found = (p, ⟨plugin, bare⟩, type) := by
  simp only [typeOf?, Option.bind_eq_some_iff, Option.map_eq_some_iff]
  constructor
  · rintro ⟨p, hp, type, htype, rfl⟩
    exact ⟨p, type, hp, htype, rfl⟩
  · rintro ⟨p, type, hp, htype, rfl⟩
    exact ⟨p, hp, type, htype, rfl⟩

theorem ref_of_typeOf? (h : r.typeOf? plugin bare = some found) : found.2.1 = ⟨plugin, bare⟩ := by
  obtain ⟨p, type, -, -, rfl⟩ := typeOf?_eq_some_iff.1 h
  rfl

theorem not_declares_iff : ¬ r.Declares plugin bare ↔ r.typeOf? plugin bare = none := by
  simp [Declares, Option.eq_none_iff_forall_ne_some]

theorem Declares.mem_names (h : r.Declares plugin bare) : plugin ∈ r.names := by
  obtain ⟨found, hfound⟩ := h
  obtain ⟨p, type, hp, -, -⟩ := typeOf?_eq_some_iff.1 hfound
  exact List.mem_map_of_mem (SortedMap.mem_entries_iff.2 hp)

/-! ## The first plugin that declares a type -/

/-- The type of the first plugin, by name, that declares one of this name. -/
def firstType? (r : Registry) (bare : String) : Option (Plugin × TypeRef × TypeDeclaration) :=
  r.names.findSome? (r.typeOf? · bare)

theorem firstType?_eq_some_iff :
    r.firstType? bare = some found ↔
      ∃ plugin, r.typeOf? plugin bare = some found ∧ ∀ other, other < plugin → ¬ r.Declares other bare := by
  have hsorted : r.names.Pairwise (· < ·) := r.plugins.sorted
  rw [firstType?, List.findSome?_eq_some_iff]
  constructor
  · rintro ⟨before, plugin, after, hnames, hfound, hbefore⟩
    refine ⟨plugin, hfound, ?_⟩
    intro other hlt hother
    have hm := hother.mem_names
    rw [hnames] at hm hsorted
    rcases List.mem_append.1 hm with hm | hm
    · exact not_declares_iff.2 (hbefore other hm) hother
    · rcases List.mem_cons.1 hm with rfl | hm
      · exact String.lt_irrefl _ hlt
      · have hgt := List.rel_of_pairwise_cons (List.pairwise_append.1 hsorted).2.1 hm
        exact String.lt_irrefl _ (String.lt_trans hlt hgt)
  · rintro ⟨plugin, hfound, hfirst⟩
    obtain ⟨before, after, hnames⟩ := List.append_of_mem (Declares.mem_names ⟨found, hfound⟩)
    rw [hnames] at hsorted
    refine ⟨before, plugin, after, hnames, hfound, ?_⟩
    intro other hm
    exact not_declares_iff.1 (hfirst other ((List.pairwise_append.1 hsorted).2.2 other hm plugin List.mem_cons_self))

/-! ## Resolution -/

theorem resolveType?_qualified (h : splitQualified name = (some plugin, bare)) :
    r.resolveType? home name = r.typeOf? plugin bare := by
  rw [resolveType?, h]

theorem resolveType?_own (h : splitQualified name = (none, bare)) (hown : r.typeOf? home name = some found) :
    r.resolveType? home name = some found := by
  obtain rfl := eq_of_splitQualified_bare h
  rw [resolveType?, h]
  dsimp only
  rw [hown]

theorem resolveType?_fallback (h : splitQualified name = (none, bare)) (hown : r.typeOf? home name = none) :
    r.resolveType? home name = r.firstType? name := by
  obtain rfl := eq_of_splitQualified_bare h
  have hskip : ∀ names : List String,
      (names.filter (· ≠ home)).findSome? (r.typeOf? · bare) = names.findSome? (r.typeOf? · bare) := by
    intro names
    induction names with
    | nil => rfl
    | cons first names ih =>
      by_cases hfirst : first = home
      · rw [List.filter_cons_of_neg (by simpa using hfirst), List.findSome?_cons, hfirst, hown, ih]
      · rw [List.filter_cons_of_pos (by simpa using hfirst), List.findSome?_cons, List.findSome?_cons, ih]
  rw [resolveType?, h]
  dsimp only
  rw [hown]
  exact hskip r.names

/-- What a name means is declared by some plugin. -/
theorem typeOf?_of_resolveType? (h : r.resolveType? home name = some found) :
    r.typeOf? found.2.1.plugin found.2.1.key = some found := by
  have hself : ∀ {plugin bare}, r.typeOf? plugin bare = some found →
      r.typeOf? found.2.1.plugin found.2.1.key = some found :=
    fun hfound => by rwa [ref_of_typeOf? hfound]
  cases hsplit : splitQualified name with
  | mk plugin? bare =>
    cases plugin? with
    | some plugin => exact hself ((resolveType?_qualified hsplit).symm.trans h)
    | none =>
      by_cases hown : r.Declares home name
      · obtain ⟨own, hown⟩ := hown
        exact hself (hown.trans ((resolveType?_own hsplit hown).symm.trans h))
      · rw [resolveType?_fallback hsplit (not_declares_iff.1 hown)] at h
        obtain ⟨first, hfirst, -⟩ := firstType?_eq_some_iff.1 h
        exact hself hfirst

/-- The home declares a type of this name, and so does a plugin that would come first otherwise. -/
def Shadows (r : Registry) (home bare : String) : Prop :=
  r.Declares home bare ∧ ∃ other, other < home ∧ r.Declares other bare

theorem shadows_iff :
    r.Shadows home bare ↔ r.Declares home bare ∧ ∃ other ∈ r.names, other < home ∧ r.Declares other bare := by
  refine and_congr_right fun _ => exists_congr fun other => ?_
  constructor
  · rintro ⟨hlt, hother⟩
    exact ⟨hother.mem_names, hlt, hother⟩
  · rintro ⟨-, hlt, hother⟩
    exact ⟨hlt, hother⟩

instance : Decidable (r.Shadows home bare) := decidable_of_iff _ shadows_iff.symm

theorem resolveType?_of_not_shadows (hbare : splitQualified name = (none, bare)) (h : ¬ r.Shadows home name) :
    r.resolveType? home name = r.firstType? name := by
  by_cases hown : r.Declares home name
  · obtain ⟨found, hfound⟩ := hown
    rw [resolveType?_own hbare hfound]
    refine (firstType?_eq_some_iff.2 ⟨home, hfound, ?_⟩).symm
    intro other hlt hother
    exact h ⟨⟨found, hfound⟩, other, hlt, hother⟩
  · exact resolveType?_fallback hbare (not_declares_iff.1 hown)

/-- A bare name that one plugin alone declares may be used unqualified everywhere. -/
theorem resolveType?_unambiguous (hbare : splitQualified name = (none, bare)) (h : r.typeOf? plugin name = some found)
    (honly : ∀ other, r.Declares other name → other = plugin) : r.resolveType? home name = some found := by
  have hshadows : ¬ r.Shadows home name := by
    rintro ⟨hhome, other, hlt, hother⟩
    rw [honly other hother, honly home hhome] at hlt
    exact String.lt_irrefl _ hlt
  rw [resolveType?_of_not_shadows hbare hshadows]
  refine firstType?_eq_some_iff.2 ⟨plugin, h, ?_⟩
  intro other hlt hother
  exact String.lt_irrefl _ (honly other hother ▸ hlt)

/-- A home that shadows a name gives it a meaning that it has from no other home. -/
theorem Shadows.ne (hbare : splitQualified name = (none, bare)) (h : r.Shadows home name) (hne : home ≠ home') :
    r.resolveType? home name ≠ r.resolveType? home' name := by
  obtain ⟨⟨found, hfound⟩, other, hlt, hother⟩ := h
  rw [resolveType?_own hbare hfound]
  by_cases hown : r.Declares home' name
  · obtain ⟨found', hfound'⟩ := hown
    rw [resolveType?_own hbare hfound']
    rintro ⟨⟩
    have href := (ref_of_typeOf? hfound).symm.trans (ref_of_typeOf? hfound')
    exact hne (TypeRef.mk.inj href).1
  · rw [resolveType?_fallback hbare (not_declares_iff.1 hown)]
    intro hsame
    obtain ⟨plugin, hplugin, hfirst⟩ := firstType?_eq_some_iff.1 hsame.symm
    have href := (ref_of_typeOf? hfound).symm.trans (ref_of_typeOf? hplugin)
    exact hfirst other ((TypeRef.mk.inj href).1 ▸ hlt) hother

theorem resolveType?_bare_eq_iff (hbare : splitQualified name = (none, bare)) (hne : home ≠ home') :
    r.resolveType? home name = r.resolveType? home' name ↔ ¬ r.Shadows home name ∧ ¬ r.Shadows home' name := by
  constructor
  · intro hsame
    exact ⟨fun h => h.ne hbare hne hsame, fun h => h.ne hbare hne.symm hsame.symm⟩
  · rintro ⟨h, h'⟩
    rw [resolveType?_of_not_shadows hbare h, resolveType?_of_not_shadows hbare h']

end Registry

end Dataflow
