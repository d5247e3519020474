import Dataflow.Proofs.Engine.History
/-!
# Names stay bound

Plugins come into a registry by registration, when the engine is set up, and when the graph of a
file needs them. Each of these lets a registry grow (`Registry.Grows`): it binds free names, to
plugins that declare them, and leaves the bound names alone. What failed half way has still done no
more than that. By induction over the requests it holds of everything that is asked of an engine.
-/

namespace Dataflow

open Session

namespace Registry

variable {loader : Loader} {r r' r'' : Registry} {p : Plugin}

/-- What was bound in `r` is bound alike in `r'`, and what is new stands under its own name. -/
structure Grows (r r' : Registry) : Prop where
  keeps : ∀ name p, r.get? name = some p → r'.get? name = some p
  named : r.Named → r'.Named

theorem Grows.refl (r : Registry) : r.Grows r := ⟨fun _ _ h => h, id⟩

theorem Grows.trans (h : r.Grows r') (h' : r'.Grows r'') : r.Grows r'' :=
  ⟨fun name p hp => h'.keeps name p (h.keeps name p hp), fun hr => h'.named (h.named hr)⟩

theorem named_empty : Named .empty := fun _ _ h => nomatch h

theorem get?_insert (name : String) :
    get? ⟨r.plugins.insert p.name p⟩ name = if name = p.name then some p else r.get? name :=
  SortedMap.get?_insert ..

theorem grows_insert (hc : ¬ r.contains p.name) : r.Grows ⟨r.plugins.insert p.name p⟩ where
  keeps name q hq := by
    have hne : name ≠ p.name := by
      rintro rfl
      exact hc (contains_iff.2 ⟨q, hq⟩)
    rw [get?_insert, if_neg hne, hq]
  named hr name q hq := by
    rw [get?_insert] at hq
    split at hq
    · next hname =>
      cases hq
      exact hname.symm
    · exact hr name q hq

/-- A name that denotes a plugin is declared by it, whether it is bound or the loader provides it. -/
theorem Named.denotes? (hr : r.Named) {name : String} (h : r.denotes? loader name = some p) : p.name = name := by
  rcases Option.or_eq_some_iff.1 h with hp | ⟨-, hp⟩
  · exact hr name p hp
  · exact (provided?_eq_some_iff.1 hp).2

theorem grows_ensureLoaded (loader : Loader) (r : Registry) (names : List String) :
    r.Grows (r.ensureLoaded loader names).registry := by
  have h := loadFrom_loads loader r [] names
  have hbound {name p} (hp : r.get? name = some p) : r.contains name := contains_iff.2 ⟨p, hp⟩
  constructor
  · intro name p hp
    rw [ensureLoaded, ← denotes?_of_contains (h.keeps name (hbound hp)), h.denotes,
      denotes?_of_contains (hbound hp), hp]
  · intro hr name p hp
    have hdenotes : r.denotes? loader name = some p := by
      rw [ensureLoaded] at hp
      rw [← h.denotes, denotes?_of_contains (contains_iff.2 ⟨p, hp⟩), hp]
    exact hr.denotes? hdenotes

theorem register_eq_error_iff {err : PluginError} :
    r.register p = .error err ↔ r.contains p.name ∧ .duplicatePlugin p.name = err := by
  unfold register
  split <;> simp_all

end Registry

namespace Engine

variable {e e' : Engine} {W : Type}

theorem AfterLoading.grows (h : e.AfterLoading e') : e.registry.Grows e'.registry := by
  obtain ⟨names, ready, rfl⟩ := h
  exact Registry.grows_ensureLoaded e.loader e.registry names

theorem register_fst (e : Engine) (p : Plugin) (s : Session) :
    (e.register p s).1 = (e.registry.register p).map fun registry => { e with registry } := by
  unfold register
  cases e.registry.register p <;> rfl

/-- What can be asked of an engine. -/
inductive Request where
  | register (p : Plugin)
  | operate (operation : Operation)

/-- A request, and what the engine meets while it serves it. A loader need not give the same answers
the next time; while a request is served it is not asked for a name twice. -/
structure Encounter where
  request : Request
  loader : Loader
  arrangement : Arrangement

variable [FileAccess (StateM W)]

/-- Serves a request, whatever comes of it, and gives the engine as it is afterwards. -/
def serve (e : Engine) : Request → StateT Session (StateM W) Engine
  | .register p => do
    match ← perform (e.register p) with
    | .ok e' => return e'
    | .error _ => return e
  | .operate operation => e.operate operation

/-- Serves one request after the other. -/
def serveAll (e : Engine) : List Encounter → StateT Session (StateM W) Engine
  | [] => pure e
  | encounter :: rest => do
    let e := { e with loader := encounter.loader, arrangement := encounter.arrangement }
    serveAll (← e.serve encounter.request) rest

theorem serve_register (e : Engine) (p : Plugin) (s : Session) (w : W) :
    (e.serve (.register p) s w).1.1 =
      if e.registry.contains p.name then e else { e with registry := ⟨e.registry.plugins.insert p.name p⟩ } := by
  have happly : (e.serve (.register p) s w).1.1 =
      match (e.register p s).1 with
      | .ok e' => e'
      | .error _ => e := by
    rw [serve, files_bind_apply, perform_apply]
    cases (e.register p s).1 <;> rfl
  rw [happly, register_fst, Registry.register]
  by_cases hc : e.registry.contains p.name
  · rw [if_pos hc, if_pos hc]
    rfl
  · rw [if_neg hc, if_neg hc]
    rfl

theorem grows_serve (e : Engine) (request : Request) (s : Session) (w : W) :
    e.registry.Grows (e.serve request s w).1.1.registry := by
  cases request with
  | register p =>
    rw [serve_register]
    split
    · exact .refl _
    · next hc => exact Registry.grows_insert hc
  | operate operation => exact (afterLoading_operate e operation s w).grows

theorem grows_serveAll (e : Engine) (encounters : List Encounter) (s : Session) (w : W) :
    e.registry.Grows (e.serveAll encounters s w).1.1.registry := by
  induction encounters generalizing e s w with
  | nil => exact .refl _
  | cons encounter rest ih =>
    -- The loader and the arrangement that the engine meets have no part in what is bound already.
    let met : Engine := { e with loader := encounter.loader, arrangement := encounter.arrangement }
    exact (grows_serve met encounter.request s w).trans (ih _ _ _)

/-- After any requests, the failed ones included, every plugin of the registry stands under the name it
declares, and whatever is asked of the engine later, it stays there. A registration fails for the
names that are bound, and only for these; then it leaves the engine as it was. -/
theorem bindings_persist (config : Config) (loader : Loader) (earlier : List Encounter) (s : Session) (w : W) :
    let e : Engine := ((Engine.new config loader).serveAll earlier s w).1.1
    e.registry.Named ∧
    (∀ name p, e.registry.get? name = some p → ∀ (later : List Encounter) (s : Session) (w : W),
      (e.serveAll later s w).1.1.registry.get? name = some p) ∧
    ∀ (p : Plugin) (s : Session) (w : W),
      (∀ err, (e.register p s).1 = .error err ↔ e.registry.contains p.name ∧ .duplicatePlugin p.name = err) ∧
      (∀ name, (e.serve (.register p) s w).1.1.registry.get? name =
        if name = p.name ∧ ¬ e.registry.contains name then some p else e.registry.get? name) ∧
      (e.registry.contains p.name → (e.serve (.register p) s w).1.1 = e) := by
  intro e
  have hnamed : e.registry.Named := (grows_serveAll _ earlier s w).named Registry.named_empty
  refine ⟨hnamed, ?_, fun p s w => ⟨fun err => ?_, fun name => ?_, ?_⟩⟩
  · intro name p hp later s w
    exact (grows_serveAll e later s w).keeps name p hp
  · rw [register_fst, Except.map_eq_error_iff, Registry.register_eq_error_iff]
  · rw [serve_register]
    by_cases hc : e.registry.contains p.name
    · have hbound : ¬ (name = p.name ∧ ¬ e.registry.contains name) := by
        rintro ⟨rfl, hfree⟩
        exact hfree hc
      rw [if_pos hc, if_neg hbound]
    · rw [if_neg hc, Registry.get?_insert]
      by_cases hname : name = p.name
      · rw [if_pos hname, if_pos ⟨hname, hname ▸ hc⟩]
      · rw [if_neg hname, if_neg fun h => hname h.1]
  · intro hc
    rw [serve_register, if_pos hc]

/-- A loader has a plugin of its own under a name that is bound, and answers to another name with a
plugin that does not declare it. -/
example :
    let loader : Loader := ⟨fun name => if name = "ghost" then some .failing else some .gathering, ["basic", "ghost"]⟩
    let encounters : List Encounter := [⟨.register .failing, loader, .listed⟩, ⟨.operate .setUp, loader, .listed⟩]
    let after := (Engine.new {} loader).serveAll encounters (Session.ofSupply default) (⟨fun _ => none⟩ : ReadOnlyFiles)
    after.1.1.registry.names = ["basic"] ∧
      (after.1.1.registry.get? "basic").map (·.declaration.description) = some "Fails" := by
  constructor <;> cbv

end Engine

end Dataflow
