import Dataflow.Proofs.Registry.Loading
/-!
# Which names are bound by loading

Loading binds the names that are missing (`Registry.missing`), each once, to what the loader has for them, as
long as they are available (`ensureLoaded_available`). It stops at the first name that is not, and what it
bound before stays bound (`ensureLoaded_unavailable`). Loading a list is loading its front and then,
unless that failed, the rest (`ensureLoaded_append`).
-/

namespace Dataflow.Registry

variable {loader : Loader} {r : Registry} {name : String} {names before after : List String} {p : Plugin}

/-- The name is bound, or the loader has a plugin for it that declares exactly this name. -/
def Available (loader : Loader) (r : Registry) (name : String) : Prop := r.contains name ∨ loader.Provides name

/-- The names that are not bound, each once, in the order in which they come first. -/
def missing (r : Registry) (names : List String) : List String := (names.filter fun name => !r.contains name).eraseDups

/-- Beside what is bound in `r`, exactly the names are bound in `r'`, to what the loader has for them. -/
def Binds (loader : Loader) (r : Registry) (names : List String) (r' : Registry) : Prop :=
  ∀ name, r'.get? name = if name ∈ names then loader.load? name else r.get? name

theorem available_iff : r.Available loader name ↔ r.contains name ∨ ∃ p, provided? loader name = some p := by
  simp only [Available, Loader.Provides, provided?_eq_some_iff]

theorem Available.insert {other : String} (h : r.Available loader other) :
    Available loader ⟨r.plugins.insert name p⟩ other :=
  h.imp_left fun hc => (contains_insert other).2 (.inr hc)

/-! ## Missing names -/

theorem mem_missing : name ∈ r.missing names ↔ name ∈ names ∧ ¬ r.contains name := by
  simp [missing, List.mem_eraseDups]

theorem missing_cons_of_contains (h : r.contains name) : r.missing (name :: names) = r.missing names := by
  simp [missing, h]

/-- A name that is missing comes first, and once it is bound it is not missing any more. -/
theorem missing_cons (h : ¬ r.contains name) (p : Plugin) :
    r.missing (name :: names) = name :: missing ⟨r.plugins.insert name p⟩ names := by
  have hrest : ((names.filter fun other => !r.contains other).filter fun other => !other == name) =
      names.filter fun other => !contains ⟨r.plugins.insert name p⟩ other := by
    rw [List.filter_filter]
    refine List.filter_congr fun other _ => ?_
    rw [Bool.eq_iff_iff]
    simp only [Bool.and_eq_true, Bool.not_eq_true', ← Bool.not_eq_true, beq_iff_eq, contains_insert, not_or]
  rw [missing, List.filter_cons_of_pos (by simpa using h), List.eraseDups_cons, hrest, missing]

/-! ## Available names -/

/-- What loading comes to if it does not fail: a registry that binds the missing names, and their plugins. -/
structure Completes (loader : Loader) (r : Registry) (names : List String) (loaded : List Plugin) (l : Loading) :
    Prop where
  succeeds : l.error? = none
  loaded : ∃ bound, l.loaded = loaded ++ bound ∧ bound.map Plugin.name = r.missing names
  binds : r.Binds loader (r.missing names) l.registry

theorem loadFrom_available (loaded : List Plugin) (h : ∀ name ∈ names, r.Available loader name) :
    Completes loader r names loaded (loadFrom loader r loaded names) := by
  fun_induction loadFrom loader r loaded names with
  | case1 r loaded => exact ⟨rfl, ⟨[], by simp, rfl⟩, fun _ => rfl⟩
  | case2 r loaded name rest hc ih =>
    obtain ⟨hok, hloaded, hbinds⟩ := ih (List.forall_mem_cons.1 h).2
    rw [← missing_cons_of_contains hc] at hloaded hbinds
    exact ⟨hok, hloaded, hbinds⟩
  | case3 r loaded name rest hc hp =>
    have hname := available_iff.1 (h name List.mem_cons_self)
    simp [hc, hp] at hname
  | case4 r loaded name rest hc p hp e he =>
    cases (register_provided hc hp).symm.trans he
  | case5 r loaded name rest hc p hp r' hr ih =>
    cases (register_provided hc hp).symm.trans hr
    obtain ⟨hok, ⟨bound, hloaded, hbound⟩, hbinds⟩ := ih fun other hm => ((List.forall_mem_cons.1 h).2 other hm).insert
    obtain ⟨hload, hname⟩ := provided?_eq_some_iff.1 hp
    refine ⟨hok, ⟨p :: bound, by simp [hloaded], ?_⟩, fun other => ?_⟩
    · rw [missing_cons hc p, List.map_cons, hbound, hname]
    · rw [hbinds, missing_cons hc p, get?, SortedMap.get?_insert]
      by_cases hother : other = name
      · simp [hother, hload, mem_missing, contains_insert]
      · simp [hother, get?]

theorem ensureLoaded_available (h : ∀ name ∈ names, r.Available loader name) :
    (r.ensureLoaded loader names).names = .ok (r.missing names) ∧
      r.Binds loader (r.missing names) (r.ensureLoaded loader names).registry := by
  obtain ⟨hok, ⟨bound, hloaded, hbound⟩, hbinds⟩ := loadFrom_available [] h
  refine ⟨?_, hbinds⟩
  rw [Loading.names, ensureLoaded, hok, hloaded, List.nil_append, hbound]

/-! ## One list behind the other -/

/-- Goes on with the registry that loading came to, unless it failed. -/
def Loading.andThen (l : Loading) (next : Registry → Loading) : Loading :=
  match l.error? with
  | some _ => l
  | none => { next l.registry with loaded := l.loaded ++ (next l.registry).loaded }

/-- What was bound before has no part in what is bound. -/
theorem loadFrom_loaded (loaded : List Plugin) (names : List String) :
    loadFrom loader r loaded names =
      { r.ensureLoaded loader names with loaded := loaded ++ (r.ensureLoaded loader names).loaded } := by
  rw [ensureLoaded]
  induction names generalizing r loaded with
  | nil => simp [loadFrom]
  | cons name rest ih =>
    unfold loadFrom
    split
    · exact ih loaded
    · split
      · simp
      · split
        · simp
        · next p _ _ r' _ =>
          rw [ih (loaded ++ [p]), ih ([] ++ [p])]
          simp

theorem ensureLoaded_append (loader : Loader) (r : Registry) (before after : List String) :
    r.ensureLoaded loader (before ++ after) =
      (r.ensureLoaded loader before).andThen fun r => r.ensureLoaded loader after := by
  have hfrom : ∀ loaded, loadFrom loader r loaded (before ++ after) =
      (loadFrom loader r loaded before).andThen fun r => r.ensureLoaded loader after := by
    induction before generalizing r with
    | nil => exact fun loaded => loadFrom_loaded loaded after
    | cons name rest ih =>
      intro loaded
      rw [List.cons_append]
      unfold loadFrom
      split
      · exact ih r loaded
      · split
        · rfl
        · split
          · rfl
          · next p _ _ r' _ => exact ih r' (loaded ++ [p])
  exact hfrom []

/-! ## The first name that is not available -/

theorem ensureLoaded_unavailable (hbefore : ∀ earlier ∈ before, r.Available loader earlier)
    (hname : ¬ r.Available loader name) (after : List String) :
    (r.ensureLoaded loader (before ++ name :: after)).names = .error (.unknownPlugin name) ∧
      r.Binds loader (r.missing before) (r.ensureLoaded loader (before ++ name :: after)).registry := by
  have hfront : Completes loader r before [] (r.ensureLoaded loader before) := loadFrom_available [] hbefore
  obtain ⟨hfree, hnone⟩ := not_or.1 (fun h => hname (available_iff.2 h))
  -- Nothing that was bound on the way bears this name, for what was bound was available.
  have hstill : ¬ (r.ensureLoaded loader before).registry.contains name := by
    have hmissing : name ∉ r.missing before := fun hm => hname (hbefore name (mem_missing.1 hm).1)
    rw [contains, SortedMap.contains, ← get?, hfront.binds, if_neg hmissing]
    exact hfree
  have hstop : (r.ensureLoaded loader before).registry.ensureLoaded loader (name :: after) =
      ⟨(r.ensureLoaded loader before).registry, [], some (.unknownPlugin name)⟩ := by
    have hprovided : provided? loader name = none :=
      Option.eq_none_iff_forall_ne_some.2 fun p hp => hnone ⟨p, hp⟩
    rw [ensureLoaded, loadFrom, if_neg hstill, hprovided]
  rw [ensureLoaded_append, Loading.andThen, hfront.succeeds, hstop]
  exact ⟨rfl, hfront.binds⟩

/-- Either all names are available, or there is a first one that is not. -/
theorem available_or_first (loader : Loader) (r : Registry) (names : List String) :
    (∀ name ∈ names, r.Available loader name) ∨
      ∃ before name after, names = before ++ name :: after ∧ (∀ earlier ∈ before, r.Available loader earlier) ∧
        ¬ r.Available loader name := by
  induction names with
  | nil => exact .inl (by simp)
  | cons first rest ih =>
    by_cases hfirst : r.Available loader first
    · rcases ih with hall | ⟨before, name, after, rfl, hbefore, hname⟩
      · exact .inl (List.forall_mem_cons.2 ⟨hfirst, hall⟩)
      · exact .inr ⟨first :: before, name, after, rfl, List.forall_mem_cons.2 ⟨hfirst, hbefore⟩, hname⟩
    · exact .inr ⟨[], first, rest, rfl, by simp, hfirst⟩

/-- Loading succeeds if and only if all names are available; then the missing ones are bound and reported,
each once. Otherwise the first name that is not available is unknown, and the names that were missing before
it are bound. No name is refused as bound already, what was bound stays, and a list in two parts is loaded
part by part. -/
theorem ensureLoaded_exact (loader : Loader) (r : Registry) (required : List String) :
    ((∃ loaded, (r.ensureLoaded loader required).names = .ok loaded) ↔ ∀ name ∈ required, r.Available loader name) ∧
    (∀ loaded, (r.ensureLoaded loader required).names = .ok loaded →
      loaded = r.missing required ∧ r.Binds loader loaded (r.ensureLoaded loader required).registry) ∧
    (∀ e, (r.ensureLoaded loader required).names = .error e →
      ∃ before name after, required = before ++ name :: after ∧ (∀ earlier ∈ before, r.Available loader earlier) ∧
        ¬ r.Available loader name ∧ e = .unknownPlugin name ∧
        r.Binds loader (r.missing before) (r.ensureLoaded loader required).registry) ∧
    (∀ name, (r.ensureLoaded loader required).names ≠ .error (.duplicatePlugin name)) ∧
    (∀ name p, r.get? name = some p → (r.ensureLoaded loader required).registry.get? name = some p) ∧
    ∀ before after, required = before ++ after → r.ensureLoaded loader required =
      (r.ensureLoaded loader before).andThen fun r => r.ensureLoaded loader after := by
  have hkept {names : List String}
      (hbinds : r.Binds loader (r.missing names) (r.ensureLoaded loader required).registry) :
      ∀ name p, r.get? name = some p → (r.ensureLoaded loader required).registry.get? name = some p := by
    intro name p hp
    have hbound : name ∉ r.missing names := fun hm => (mem_missing.1 hm).2 (contains_iff.2 ⟨p, hp⟩)
    rw [hbinds, if_neg hbound, hp]
  have hparts : ∀ before after, required = before ++ after → r.ensureLoaded loader required =
      (r.ensureLoaded loader before).andThen fun r => r.ensureLoaded loader after := by
    rintro before after rfl
    exact ensureLoaded_append loader r before after
  rcases available_or_first loader r required with hall | ⟨before, name, after, rfl, hbefore, hname⟩
  · obtain ⟨hnames, hbinds⟩ := ensureLoaded_available hall
    refine ⟨⟨fun _ => hall, fun _ => ⟨_, hnames⟩⟩, ?_, ?_, ?_, hkept hbinds, hparts⟩
    · intro loaded hloaded
      obtain rfl := Except.ok.inj (hnames.symm.trans hloaded)
      exact ⟨rfl, hbinds⟩
    · intro e he
      cases hnames.symm.trans he
    · intro name he
      cases hnames.symm.trans he
  · obtain ⟨hnames, hbinds⟩ := ensureLoaded_unavailable hbefore hname after
    refine ⟨⟨?_, fun hall => absurd (hall name (by simp)) hname⟩, ?_, ?_, ?_, hkept hbinds, hparts⟩
    · rintro ⟨loaded, hloaded⟩
      cases hnames.symm.trans hloaded
    · intro loaded hloaded
      cases hnames.symm.trans hloaded
    · intro e he
      obtain rfl := Except.error.inj (hnames.symm.trans he)
      exact ⟨before, name, after, rfl, hbefore, hname, rfl, hbinds⟩
    · intro other he
      cases hnames.symm.trans he

/-- A loader that has a plugin for `tide`, and answers to `moon` with a plugin of another name. -/
def tidal : Loader :=
  .ofList [("tide", { Plugin.failing with declaration := .named "tide" "1.0.0" "Tides" }), ("moon", .failing)]

theorem ensureLoaded_exact_tidal :
    let front := ["tide", "basic", "tide"]
    let loading := gathering.ensureLoaded tidal (front ++ ["moon", "tide"])
    (gathering.ensureLoaded tidal front).names = .ok ["tide"] ∧
      gathering.Binds tidal ["tide"] (gathering.ensureLoaded tidal front).registry ∧
      loading.names = .error (.unknownPlugin "moon") ∧ ¬ gathering.Available tidal "moon" ∧
      loading.registry.get? "basic" = some .gathering ∧
      loading = (gathering.ensureLoaded tidal front).andThen fun r => r.ensureLoaded tidal ["moon", "tide"] := by
  intro front loading
  have havailable : ∀ name ∈ front, gathering.Available tidal name := by
    simp only [front, List.forall_mem_cons]
    exact ⟨.inr ⟨_, rfl, rfl⟩, .inl rfl, .inr ⟨_, rfl, rfl⟩, fun _ h => nomatch h⟩
  obtain ⟨hsucceeds, hloaded, -⟩ := ensureLoaded_exact tidal gathering front
  obtain ⟨loaded, hok⟩ := hsucceeds.2 havailable
  obtain ⟨rfl, hbinds⟩ := hloaded loaded hok
  obtain ⟨-, -, hfails, -, hkept, hparts⟩ := ensureLoaded_exact tidal gathering (front ++ ["moon", "tide"])
  have herror : loading.names = .error (.unknownPlugin "moon") := rfl
  obtain ⟨before, name, after, -, -, hname, ⟨⟩, -⟩ := hfails _ herror
  exact ⟨hok, hbinds, herror, hname, hkept "basic" .gathering rfl, hparts front _ rfl⟩

end Dataflow.Registry
