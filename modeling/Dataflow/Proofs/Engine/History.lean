import Dataflow.Proofs.Engine.Source
import Dataflow.Proofs.Registry.Loading
import Mathlib
/-!
# An engine keeps no memory of its runs

Whatever an engine was asked to do, a name denotes the same plugin as before (`Engine.Evolves`), and
that is all that a run from a file depends on beside the text of the file
(`Engine.Evolves.executeGraph_eq`). The runs before may have loaded plugins, and may have failed
while they did: the next one gives the same envelope.
-/

namespace Dataflow

open Session

/-! ## What a graph reads of a registry -/

namespace Graph

variable {g : Graph} {r r' : Registry}

/-- The plugins of the graph are bound alike in both registries. -/
def BoundAlike (g : Graph) (r r' : Registry) : Prop := ∀ plugin ∈ g.referencedPlugins, r.get? plugin = r'.get? plugin

theorem BoundAlike.find_eq (h : g.BoundAlike r r') (id : String) : g.find r id = g.find r' id := by
  unfold find
  cases hn : g.nodes.get? id with
  | none => rfl
  | some node => simp only [h _ (plugin_mem_referencedPlugins hn)]

theorem BoundAlike.evaluate_eq (h : g.BoundAlike r r') (results : Results) (order : List String) :
    g.evaluate r results order = g.evaluate r' results order := by
  induction order generalizing results with
  | nil => rfl
  | cons id rest ih =>
    have houtcome : g.outcome r results id = g.outcome r' results id := by rw [outcome, h.find_eq, outcome]
    simp only [evaluate, houtcome, ih]

theorem BoundAlike.plan_eq (h : g.BoundAlike r r') : g.plan r = g.plan r' := by
  have hfind : (g.referencedPlugins.find? fun plugin => !r.contains plugin) =
      g.referencedPlugins.find? fun plugin => !r'.contains plugin :=
    List.find?_congr fun plugin hm => by
      have := h plugin hm
      simp_all [Registry.contains, SortedMap.contains, Registry.get?]
  rw [plan, hfind, plan]

theorem BoundAlike.result_eq (h : g.BoundAlike r r') : g.result r = g.result r' := by
  unfold result
  simp only [h.plan_eq, h.evaluate_eq]

/-- What an engine makes of a graph for which it loads the plugins first. -/
def loadedResult (g : Graph) (loader : Loader) (r : Registry) : Except RunError (SortedMap Json) :=
  let loading := r.ensureLoaded loader g.referencedPlugins
  match loading.error? with
  | some err => .error (.plugin err)
  | none => g.result loading.registry

theorem loadedResult_congr {loader : Loader} (h : ∀ name, r.denotes? loader name = r'.denotes? loader name) :
    g.loadedResult loader r = g.loadedResult loader r' := by
  obtain ⟨herror, hbinds⟩ := Registry.ensureLoaded_congr h g.referencedPlugins
  unfold loadedResult
  simp only [← herror]
  cases he : (r.ensureLoaded loader g.referencedPlugins).error? with
  | some err => rfl
  | none => exact BoundAlike.result_eq (hbinds he)

end Graph

namespace Engine

variable {e e' e'' : Engine}

theorem runSource_fst (hr : e.registry.Stateless) (hl : e.loader.Stateless) (name path : String)
    (source : Except FileError String) (s : Session) :
    (e.runSource name path source s).1.1 =
      (Graph.ofSource name path source).bind fun g => g.loadedResult e.loader e.registry := by
  unfold runSource
  rw [bind_apply, readGraph_fst]
  cases hg : Graph.ofSource name path source with
  | error err => rfl
  | ok g =>
    simp only [Except.bind, Graph.loadedResult]
    rw [bind_apply, load_fst]
    have hloads := Registry.loadFrom_loads e.loader e.registry [] g.referencedPlugins
    cases he : (e.registry.ensureLoaded e.loader g.referencedPlugins).error? with
    | some err =>
      simp only [he]
      rfl
    | none =>
      simp only [he]
      exact run_fst (hloads.stateless hr hl) (Graph.keyedById_ofSource hg) _

/-! ## How an engine evolves -/

/-- All names denote in `e'` what they denote in `e`. -/
structure Evolves (e e' : Engine) : Prop where
  loader : e'.loader = e.loader
  denotes : ∀ name, e'.registry.denotes? e.loader name = e.registry.denotes? e.loader name
  stateless : e.registry.Stateless → e.loader.Stateless → e'.registry.Stateless

namespace Evolves

theorem refl (e : Engine) : e.Evolves e := ⟨rfl, fun _ => rfl, fun h _ => h⟩

theorem trans (h : e.Evolves e') (h' : e'.Evolves e'') : e.Evolves e'' where
  loader := h'.loader.trans h.loader
  denotes name := by
    have := h'.denotes name
    rw [h.loader] at this
    exact this.trans (h.denotes name)
  stateless hr hl := h'.stateless (h.stateless hr hl) (h.loader ▸ hl)

end Evolves

/-- `e'` is `e` after it loaded some names. Nothing else is new, except that it may be set up now. -/
def AfterLoading (e e' : Engine) : Prop :=
  ∃ names ready, e' = { e with registry := (e.registry.ensureLoaded e.loader names).registry, ready }

theorem AfterLoading.refl (e : Engine) : e.AfterLoading e := ⟨[], e.ready, rfl⟩

theorem AfterLoading.ready (h : e.AfterLoading e') (ready : Bool) : e.AfterLoading { e' with ready } := by
  obtain ⟨names, -, rfl⟩ := h
  exact ⟨names, ready, rfl⟩

theorem AfterLoading.evolves (h : e.AfterLoading e') : e.Evolves e' := by
  obtain ⟨names, ready, rfl⟩ := h
  have hloads := Registry.loadFrom_loads e.loader e.registry [] names
  exact ⟨rfl, hloads.denotes, hloads.stateless⟩

theorem afterLoading_load (e : Engine) (required : List String) (s : Session) :
    e.AfterLoading (e.load required s).1.2 := by
  rw [load_fst]
  exact ⟨required, e.ready, rfl⟩

/-! ## Use of an engine -/

variable {W : Type}

theorem files_bind_apply {α β : Type} (x : StateT Session (StateM W) α) (f : α → StateT Session (StateM W) β)
    (s : Session) (w : W) : (x >>= f) s w = f (x s w).1.1 (x s w).1.2 (x s w).2 := rfl

theorem perform_apply {α : Type} (x : SessionM α) (s : Session) (w : W) :
    perform (m := StateM W) x s w = (x s, w) := rfl

variable [FileAccess (StateM W)]

/-- What an engine can be asked to do once its plugins are registered. -/
inductive Operation where
  | setUp
  | executeGraph (directory name : String)
  | execute (g : Graph)

/-- Does what is asked for, whatever comes of it, and gives the engine as it is afterwards. -/
def operate (e : Engine) : Operation → StateT Session (StateM W) Engine
  | .setUp => do return (← e.setUp).2
  | .executeGraph directory name => do return (← e.executeGraph directory name).2
  | .execute g => do
    let _ ← perform (e.execute g)
    return e

/-- Does one thing after the other. -/
def operateAll (e : Engine) : List Operation → StateT Session (StateM W) Engine
  | [] => pure e
  | operation :: rest => do operateAll (← e.operate operation) rest

theorem afterLoading_runSource (e : Engine) (name path : String) (source : Except FileError String) (s : Session) :
    e.AfterLoading (e.runSource name path source s).1.2 := by
  unfold runSource
  rw [bind_apply]
  cases (readGraph name path source s).1 with
  | error err => exact .refl e
  | ok g =>
    have h := afterLoading_load e g.referencedPlugins (readGraph name path source s).2
    simp only
    rw [bind_apply]
    generalize e.load g.referencedPlugins (readGraph name path source s).2 = loaded at h
    obtain ⟨⟨result, e'⟩, s'⟩ := loaded
    cases result with
    | error err => exact h
    | ok _ => exact h

theorem afterLoading_setUp (e : Engine) (s : Session) (w : W) :
    e.AfterLoading (e.setUp (m := StateM W) s w).1.1.2 := by
  unfold setUp
  split
  · exact .refl e
  · generalize (if e.config.plugins.isEmpty then e.loader.available else e.config.plugins) = wanted
    have h := afterLoading_load e wanted s
    rw [files_bind_apply, perform_apply]
    generalize e.load wanted s = loaded at h
    obtain ⟨⟨result, e'⟩, s'⟩ := loaded
    cases result with
    | error err => exact h
    | ok _ =>
      dsimp only
      cases e'.config.manifestDirectory? with
      | none => exact h.ready true
      | some directory =>
        -- The engine keeps what it loaded even if its manifests cannot be written.
        dsimp only
        rw [files_bind_apply]
        generalize StateT.lift (m := StateM W) (e'.publish directory) s' w = written
        obtain ⟨⟨result, s''⟩, w'⟩ := written
        cases result with
        | error err => exact h
        | ok _ => exact h.ready true

theorem afterLoading_operate (e : Engine) (operation : Operation) (s : Session) (w : W) :
    e.AfterLoading (e.operate operation s w).1.1 := by
  cases operation with
  | setUp => exact afterLoading_setUp e s w
  | executeGraph directory name => exact afterLoading_runSource e name _ _ s
  | execute g => exact .refl e

theorem evolves_operateAll (e : Engine) (operations : List Operation) (s : Session) (w : W) :
    e.Evolves (e.operateAll operations s w).1.1 := by
  -- The engine, the session and the files all change from one operation to the next.
  induction operations generalizing e s w with
  | nil => exact .refl e
  | cons operation rest ih => exact (afterLoading_operate e operation s w).evolves.trans (ih _ _ _)

theorem Evolves.executeGraph_eq (h : e.Evolves e') (hr : e.registry.Stateless) (hl : e.loader.Stateless)
    (directory name : String) {s s' : Session} {w w' : W}
    (hfile : (FileAccess.readText (m := StateM W) (graphPath directory name) w').1 =
      (FileAccess.readText (m := StateM W) (graphPath directory name) w).1) :
    (e'.executeGraph (m := StateM W) directory name s' w').1.1.1 =
      (e.executeGraph (m := StateM W) directory name s w).1.1.1 := by
  have hl' : e'.loader.Stateless := h.loader ▸ hl
  rw [executeGraph_envelope, executeGraph_envelope, hfile]
  simp only [runSource_fst hr hl, runSource_fst (h.stateless hr hl) hl', h.loader,
    Graph.loadedResult_congr h.denotes]

/-- Whatever an engine was asked to do before, and however it ended, a run from a file gives the
envelope that it would have given at first, as long as the file holds the same text. -/
theorem executeGraph_after (e : Engine) (hr : e.registry.Stateless) (hl : e.loader.Stateless)
    (history : List Operation) (directory name : String) (s : Session) (w : W) :
    let after := e.operateAll history s w
    let text (w : W) : Except FileError String := (FileAccess.readText (m := StateM W) (graphPath directory name) w).1
    ∀ s' w', text w' = text w →
      (after.1.1.executeGraph (m := StateM W) directory name s' w').1.1.1 =
        (e.executeGraph (m := StateM W) directory name s w).1.1.1 := by
  intro after text s' w' hfile
  exact (evolves_operateAll e history s w).executeGraph_eq hr hl directory name hfile

/-- The first run fails after it has loaded one of the two plugins that its graph names. -/
theorem executeGraph_after_half_loaded :
    let e := Engine.new {} ⟨fun name => if name = "basic" then some .gathering else none, []⟩
    let s := Session.ofSupply default
    let half := "-- graph half nodes { a: basic.Start b: ghost.Start } --"
    let whole := "-- graph whole nodes { a: basic.Start } --"
    let files : ReadOnlyFiles := ⟨fun path =>
      if path = "d/half.weave" then some half else if path = "d/whole.weave" then some whole else none⟩
    let after := e.operateAll [.executeGraph "d" "half", .setUp, .execute (.named "empty")] s files
    (e.registry.names = [] ∧ (e.runSource "half" "d/half.weave" (.ok half) s).1.2.registry.names = ["basic"]) ∧
    (after.1.1.executeGraph (m := StateM ReadOnlyFiles) "d" "whole" after.1.2 files).1.1.1 =
      (e.executeGraph (m := StateM ReadOnlyFiles) "d" "whole" s files).1.1.1 := by
  intro e s half whole files after
  have hl : e.loader.Stateless := by
    intro name p hp
    unfold e Engine.new at hp
    dsimp only at hp
    split at hp
    · cases hp
      exact Plugin.gathering_stateless
    · cases hp
  refine ⟨⟨rfl, by cbv⟩, ?_⟩
  exact executeGraph_after e Registry.stateless_empty hl _ "d" "whole" s files after.1.2 files rfl

end Engine

end Dataflow
