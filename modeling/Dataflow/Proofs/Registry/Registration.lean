import Dataflow.Proofs.Registry.Loading
import Dataflow.Proofs.Registry.Scope
import Dataflow.Proofs.Text.ByteOrder
import Mathlib.Data.List.Nodup
import Mathlib.Data.List.Perm.Basic
/-!
# The order of registration

Plugins with distinct names can be registered in any order, and the registry depends on which plugins
they are only (`Registry.registerAll_eq`). What a type name means can therefore be said of the plugins
as they are given, in whatever order (`Registry.Means`): a qualified name means a type of the plugin
that it names, and a bare one a type of the home plugin or else of the plugin with the least name that
declares one. Names are compared byte by byte.
-/

namespace Dataflow.Registry

variable {r : Registry} {plugins plugins' : List Plugin} {p : Plugin} {home name plugin bare : String}
  {found : Plugin × TypeRef × TypeDeclaration}

/-! ## Registering some plugins -/

/-- Registers plugins one after the other. The first error ends it. -/
def registerAll (plugins : List Plugin) : Except PluginError Registry := plugins.foldlM register empty

/-- The registry of these plugins. -/
def ofPlugins (plugins : List Plugin) : Registry := ⟨.ofList (plugins.map fun p => (p.name, p))⟩

/-- Plugins whose names are free and distinct are all registered. -/
theorem foldlM_register (hn : (plugins.map Plugin.name).Nodup) (hnew : ∀ p ∈ plugins, ¬ r.contains p.name) :
    plugins.foldlM register r = .ok ⟨r.plugins.overlay (plugins.map fun p => (p.name, p))⟩ := by
  induction plugins generalizing r with
  | nil => rfl
  | cons p rest ih =>
    obtain ⟨hp, hrest⟩ := List.nodup_cons.1 hn
    rw [List.foldlM_cons, register, if_neg (hnew p List.mem_cons_self)]
    refine ih hrest ?_
    intro q hq hc
    rcases (contains_insert q.name).1 hc with hsame | hc
    · exact hp (hsame ▸ List.mem_map_of_mem hq)
    · exact hnew q (List.mem_cons_of_mem _ hq) hc

theorem registerAll_eq (hn : (plugins.map Plugin.name).Nodup) : registerAll plugins = .ok (ofPlugins plugins) :=
  foldlM_register hn fun _ _ h => nomatch h

theorem get?_ofPlugins (hn : (plugins.map Plugin.name).Nodup) :
    (ofPlugins plugins).get? name = some p ↔ p ∈ plugins ∧ p.name = name := by
  rw [ofPlugins, get?, SortedMap.get?_ofList_of_nodup (by simpa [Function.comp_def] using hn), List.mem_map]
  constructor
  · rintro ⟨q, hq, hpair⟩
    cases hpair
    exact ⟨hq, rfl⟩
  · rintro ⟨hp, rfl⟩
    exact ⟨p, hp, rfl⟩

theorem ofPlugins_perm (h : plugins.Perm plugins') (hn : (plugins.map Plugin.name).Nodup) :
    ofPlugins plugins = ofPlugins plugins' := by
  have hn' : (plugins'.map Plugin.name).Nodup := (h.map Plugin.name).nodup_iff.1 hn
  have hget (name : String) : (ofPlugins plugins).get? name = (ofPlugins plugins').get? name := by
    ext p
    rw [get?_ofPlugins hn, get?_ofPlugins hn', h.mem_iff]
  exact congrArg Registry.mk (SortedMap.ext_get? hget)

/-! ## Names -/

theorem names_ofPlugins (hn : (plugins.map Plugin.name).Nodup) :
    (ofPlugins plugins).names.Perm (plugins.map Plugin.name) := by
  refine (List.perm_ext_iff_of_nodup (ofPlugins plugins).plugins.nodup_keys hn).2 fun name => ?_
  rw [SortedMap.mem_keys_iff, List.mem_map]
  exact exists_congr fun p => get?_ofPlugins hn

theorem pairwise_names (r : Registry) : r.names.Pairwise fun a b => Text.bytes a < Text.bytes b :=
  r.plugins.sorted.imp Text.lt_iff_bytes_lt.1

/-! ## Type names -/

/-- What a type name means from a home, among some plugins in whatever order. -/
inductive Means (plugins : List Plugin) (home name : String) : Plugin × TypeRef × TypeDeclaration → Prop
  /-- A qualified name means a type of the plugin that it names. -/
  | qualified {p : Plugin} {bare : String} {type : TypeDeclaration} :
      splitQualified name = (some p.name, bare) → p ∈ plugins → p.declaration.types.get? bare = some type →
      Means plugins home name (p, ⟨p.name, bare⟩, type)
  /-- A bare name means a type of the home plugin, if that declares it. -/
  | own {p : Plugin} {type : TypeDeclaration} :
      splitQualified name = (none, name) → p ∈ plugins → p.name = home → p.declaration.types.get? name = some type →
      Means plugins home name (p, ⟨p.name, name⟩, type)
  /-- Of the plugins that declare a bare name which the home does not, the one with the least name counts. -/
  | least {p : Plugin} {type : TypeDeclaration} :
      splitQualified name = (none, name) →
      (∀ q ∈ plugins, q.name = home → q.declaration.types.get? name = none) →
      p ∈ plugins → p.declaration.types.get? name = some type →
      (∀ q ∈ plugins, q.declaration.types.contains name → q = p ∨ Text.bytes p.name < Text.bytes q.name) →
      Means plugins home name (p, ⟨p.name, name⟩, type)

theorem typeOf?_ofPlugins (hn : (plugins.map Plugin.name).Nodup) :
    (ofPlugins plugins).typeOf? plugin bare = some found ↔
      ∃ p ∈ plugins, ∃ type, p.name = plugin ∧ p.declaration.types.get? bare = some type ∧
        found = (p, ⟨p.name, bare⟩, type) := by
  rw [typeOf?_eq_some_iff]
  simp only [get?_ofPlugins hn]
  constructor
  · rintro ⟨p, type, ⟨hp, rfl⟩, htype, rfl⟩
    exact ⟨p, hp, type, rfl, htype, rfl⟩
  · rintro ⟨p, hp, type, rfl, htype, rfl⟩
    exact ⟨p, type, ⟨hp, rfl⟩, htype, rfl⟩

theorem declares_ofPlugins (hn : (plugins.map Plugin.name).Nodup) :
    (ofPlugins plugins).Declares plugin bare ↔
      ∃ p ∈ plugins, p.name = plugin ∧ p.declaration.types.contains bare = true := by
  simp only [Declares, typeOf?_ofPlugins hn, OrderedMap.contains, Option.isSome_iff_exists]
  constructor
  · rintro ⟨_, p, hp, type, hname, htype, -⟩
    exact ⟨p, hp, hname, type, htype⟩
  · rintro ⟨p, hp, hname, type, htype⟩
    exact ⟨_, p, hp, type, hname, htype, rfl⟩

/-- No plugin with a lesser name declares the type when all others that do have greater names. -/
theorem least_iff (hn : (plugins.map Plugin.name).Nodup) (hp : p ∈ plugins) :
    (∀ other, other < p.name → ¬ (ofPlugins plugins).Declares other bare) ↔
      ∀ q ∈ plugins, q.declaration.types.contains bare → q = p ∨ Text.bytes p.name < Text.bytes q.name := by
  simp only [declares_ofPlugins hn]
  constructor
  · intro h q hq hdeclares
    by_cases hlt : p.name < q.name
    · exact .inr (Text.lt_iff_bytes_lt.1 hlt)
    · by_cases hsame : q.name = p.name
      · exact .inl (List.inj_on_of_nodup_map hn hq hp hsame)
      · exact absurd ⟨q, hq, rfl, hdeclares⟩ (h q.name (key_lt_trichotomy hlt hsame))
  · rintro h _ hlt ⟨q, hq, rfl, hdeclares⟩
    rcases h q hq hdeclares with rfl | hgt
    · exact String.lt_irrefl _ hlt
    · exact String.lt_asymm hlt (Text.lt_iff_bytes_lt.2 hgt)

/-- In the registry of some plugins a name means what it means among them. -/
theorem resolveType?_ofPlugins (hn : (plugins.map Plugin.name).Nodup) :
    (ofPlugins plugins).resolveType? home name = some found ↔ Means plugins home name found := by
  constructor
  · intro h
    cases hsplit : splitQualified name with
    | mk plugin? bare =>
      cases plugin? with
      | some plugin =>
        rw [resolveType?_qualified hsplit, typeOf?_ofPlugins hn] at h
        obtain ⟨p, hp, type, rfl, htype, rfl⟩ := h
        exact .qualified hsplit hp htype
      | none =>
        obtain rfl := eq_of_splitQualified_bare hsplit
        by_cases hown : (ofPlugins plugins).Declares home bare
        · obtain ⟨own, hown⟩ := hown
          rw [resolveType?_own hsplit hown, Option.some.injEq] at h
          obtain ⟨p, hp, type, hhome, htype, rfl⟩ := (typeOf?_ofPlugins hn).1 hown
          exact h ▸ .own hsplit hp hhome htype
        · rw [resolveType?_fallback hsplit (not_declares_iff.1 hown)] at h
          obtain ⟨plugin, hplugin, hleast⟩ := firstType?_eq_some_iff.1 h
          obtain ⟨p, hp, type, rfl, htype, rfl⟩ := (typeOf?_ofPlugins hn).1 hplugin
          refine .least hsplit ?_ hp htype ((least_iff hn hp).1 hleast)
          intro q hq hhome
          refine Option.not_isSome_iff_eq_none.1 fun hdeclares => hown ?_
          exact (declares_ofPlugins hn).2 ⟨q, hq, hhome, hdeclares⟩
  · intro h
    cases h with
    | qualified hsplit hp htype =>
      rw [resolveType?_qualified hsplit, typeOf?_ofPlugins hn]
      exact ⟨_, hp, _, rfl, htype, rfl⟩
    | own hsplit hp hhome htype =>
      exact resolveType?_own hsplit ((typeOf?_ofPlugins hn).2 ⟨_, hp, _, hhome, htype, rfl⟩)
    | least hsplit hunknown hp htype hleast =>
      have hown : ¬ (ofPlugins plugins).Declares home name := by
        rw [declares_ofPlugins hn]
        rintro ⟨q, hq, hhome, hdeclares⟩
        rw [OrderedMap.contains, hunknown q hq hhome] at hdeclares
        cases hdeclares
      rw [resolveType?_fallback hsplit (not_declares_iff.1 hown)]
      refine firstType?_eq_some_iff.2 ⟨_, (typeOf?_ofPlugins hn).2 ⟨_, hp, _, rfl, htype, rfl⟩, ?_⟩
      exact (least_iff hn hp).2 hleast

/-- Plugins with distinct names can be registered in any order, and no two orders can be told apart: the
registered names are the same, type names mean the same from every home, so that values, defaults and casts
are the same, nodes are declared alike, and connections get the same warnings. The names are listed
in byte order, and a bare name that the home plugin does not know means a type of the plugin with
the least name among those that declare it. -/
theorem registration_order_irrelevant (hp : plugins.Perm plugins') (hn : (plugins.map Plugin.name).Nodup) :
    ∃ r r' : Registry, registerAll plugins = .ok r ∧ registerAll plugins' = .ok r' ∧
      r.names = r'.names ∧
      (∀ home name, r.resolveType? home name = r'.resolveType? home name) ∧
      (∀ home value name, (r.typeScope home).validates value name = (r'.typeScope home).validates value name) ∧
      (∀ home name, (r.typeScope home).createDefault name = (r'.typeScope home).createDefault name) ∧
      (∀ home value source target,
        (r.typeScope home).cast value source target = (r'.typeScope home).cast value source target) ∧
      (∀ plugin node, r.node? plugin node = r'.node? plugin node) ∧
      (∀ g : Graph, g.wiringWarnings r = g.wiringWarnings r') ∧
      (r.names.Perm (plugins.map Plugin.name) ∧ r.names.Pairwise fun a b => Text.bytes a < Text.bytes b) ∧
      ∀ home name found, r.resolveType? home name = some found ↔ Means plugins home name found := by
  have hn' : (plugins'.map Plugin.name).Nodup := (hp.map Plugin.name).nodup_iff.1 hn
  refine ⟨ofPlugins plugins, ofPlugins plugins', registerAll_eq hn, registerAll_eq hn', ?_⟩
  rw [← ofPlugins_perm hp hn]
  exact ⟨rfl, fun _ _ => rfl, fun _ _ _ => rfl, fun _ _ => rfl, fun _ _ _ _ => rfl, fun _ _ => rfl, fun _ => rfl,
    ⟨names_ofPlugins hn, pairwise_names _⟩, fun _ _ _ => resolveType?_ofPlugins hn⟩

/-- Both plugins declare `Level`. From a home that does not, it is that of `archive`. -/
theorem registration_order_irrelevant_archived :
    registerAll [gauge, archive] = .ok archived ∧
      (∃ r', registerAll [archive, gauge] = .ok r' ∧ archived.names = r'.names ∧
        ∀ home name, archived.resolveType? home name = r'.resolveType? home name) ∧
      archived.resolveType? "tide" "Level" =
        some (archive, ⟨"archive", "Level"⟩, ⟨"Level", .semantic "Metre" []⟩) := by
  have hp : [gauge, archive].Perm [archive, gauge] := .swap _ _ _
  have hall : registerAll [gauge, archive] = .ok archived := rfl
  obtain ⟨r, r', hr, hr', hnames, hresolve, -, -, -, -, -, -, hmeans⟩ :=
    registration_order_irrelevant hp (by decide)
  cases hall.symm.trans hr
  refine ⟨hall, ⟨r', hr', hnames, hresolve⟩, (hmeans "tide" "Level" _).2 (.least (by decide) ?_ ?_ rfl ?_)⟩
  · have hnames : ∀ name ∈ [gauge, archive].map Plugin.name, name ≠ "tide" := by decide
    intro q hq hhome
    exact absurd hhome (hnames q.name (List.mem_map_of_mem hq))
  · exact List.mem_cons_of_mem _ List.mem_cons_self
  · intro q hq _
    rcases List.mem_cons.1 hq with rfl | hq
    · have hlt : archive.name < gauge.name := by decide
      exact .inr (Text.lt_iff_bytes_lt.1 hlt)
    · exact .inl (List.mem_singleton.1 hq)

end Dataflow.Registry
