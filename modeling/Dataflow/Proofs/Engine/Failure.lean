import Dataflow.Proofs.Engine.Source
import Dataflow.Proofs.Run.Failure
import Mathlib
/-!
# A run that fails early has called nothing

Reading a graph, loading plugins and preparing a run make no calls, and the order that a prepared
graph runs in lists only nodes that can be found (`Graph.finds_of_plan`). So a run fails either
before its first call (`RunError.BeforeCalls`) or through the call of a declared node (`Graph.Blames`).
-/

namespace Dataflow

open Session

namespace Graph

variable {g : Graph} {r : Registry}

/-- Every node of a graph's order is declared, and its plugin is registered. -/
theorem finds_of_plan {order : List String} (h : g.plan r = .ok order) : g.Finds r order := by
  obtain ⟨hg, hplugins, horder⟩ := Engine.plan_eq_ok_iff.1 h
  intro id hid
  obtain ⟨node, hnode⟩ := OrderedMap.mem_keys_iff.1 ((executionOrder_perm hg horder).mem_iff.1 hid)
  obtain ⟨plugin, hplugin⟩ := Option.isSome_iff_exists.1 (hplugins _ (plugin_mem_referencedPlugins hnode))
  exact ⟨node, plugin, find_eq_ok_iff.2 ⟨hnode, hplugin⟩⟩

theorem not_nodeFailed_of_plan {err : RunError} (h : g.plan r = .error err) (id : String) (reason : PluginError) :
    err ≠ .nodeFailed id reason := by
  rintro rfl
  unfold plan at h
  split at h
  · cases h
  · split at h
    · cases h
    · obtain ⟨cycle, -, he⟩ := Except.mapError_eq_error_iff.1 h
      cases he

end Graph

/-- Nothing was called, and the error is not that of a node. -/
def RunError.BeforeCalls (err : RunError) (calls : List Call) : Prop :=
  calls = [] ∧ ∀ id reason, err ≠ .nodeFailed id reason

namespace Engine

variable {e : Engine} {g : Graph}

/-! ## What makes no calls -/

theorem makes_checkPlugins (e : Engine) (g : Graph) (plugins : List String) (s : Session) :
    Makes (e.checkPlugins g plugins) s [] := by
  induction plugins generalizing s with
  | nil => exact makes_pure _ s
  | cons plugin rest ih =>
    unfold checkPlugins
    split
    · exact makes_pure _ s
    · split
      · exact makes_bind (makes_report _ s) (ih _)
      · exact ih s

theorem makes_schedule (g : Graph) (s : Session) : Makes (schedule g) s [] := by
  unfold schedule
  cases g.executionOrder with
  | ok order => exact makes_pure _ s
  | error cycle => exact makes_bind (makes_report _ s) (makes_pure _ _)

theorem makes_prepare (e : Engine) (g : Graph) (s : Session) : Makes (e.prepare g) s [] := by
  unfold prepare
  split
  · exact makes_pure _ s
  · refine makes_bind (makes_checkPlugins e g _ s) ?_
    split
    · exact makes_pure _ _
    · exact makes_bind (makes_reportAll _ _) (makes_schedule g _)

theorem makes_conclude (name : String) (result : Except RunError (SortedMap Json)) (s : Session) :
    Makes (conclude name result) s [] := by
  cases result with
  | ok outputs => exact makes_pure _ s
  | error err => exact makes_bind (makes_report _ s) (makes_pure _ _)

theorem makes_readGraph (name path : String) (source : Except FileError String) (s : Session) :
    Makes (readGraph name path source) s [] := by
  unfold readGraph
  split
  · exact makes_pure _ s
  · split
    · exact makes_pure _ s
    · exact makes_bind (makes_report _ s) (makes_pure _ _)

theorem makes_load (e : Engine) (required : List String) (s : Session) : Makes (e.load required) s [] := by
  unfold load
  refine makes_bind (makes_reportAll _ s) ?_
  split
  · exact makes_pure _ _
  · exact makes_pure _ _

/-! ## How a run fails -/

/-- Once a graph is prepared only a node that is called can fail. -/
theorem runPrepared_does (hg : g.KeyedById) {order : List String} (hf : g.Finds e.registry order) (s : Session) :
    Does (e.runPrepared g order) s (g.FailsThroughCall e.registry) := by
  refine does_after (makes_report _ s) fun _ s => does_after (makes_report _ s) fun _ s => ?_
  refine does_after (makes_record _ s) fun _ s => does_after (makes_clock s) fun start s => ?_
  refine does_bind (e.config.strategy.run_does hg hf e.arrangement s) fun result calls s hr => ?_
  cases result with
  | error err =>
    refine does_pure (fun err' h => ?_) s
    cases h
    exact (hr err rfl).mono (List.subset_append_left _ _)
  | ok results =>
    refine does_after (makes_elapsedSince _ s) fun _ s => does_after (makes_report _ s) fun _ s => ?_
    exact does_pure (by rintro err ⟨⟩) s

theorem run_does (hg : g.KeyedById) (s : Session) :
    Does (e.run g) s fun result calls =>
      ∀ err, result = .error err → err.BeforeCalls calls ∨ g.Blames e.registry err calls := by
  -- Preparing makes no calls, and that an order came out of it is all that the run itself needs.
  have hplan : Does (e.prepare g) s fun result calls => calls = [] ∧ result = g.plan e.registry :=
    ⟨[], makes_prepare e g s, rfl, prepare_fst e g s⟩
  refine does_bind hplan fun result calls s' h => ?_
  obtain ⟨rfl, hp⟩ := h
  cases result with
  | error err =>
    refine does_pure (fun err' h => ?_) s'
    cases h
    exact .inl ⟨rfl, Graph.not_nodeFailed_of_plan hp.symm⟩
  | ok order =>
    obtain ⟨calls, hm, hb⟩ := runPrepared_does hg (Graph.finds_of_plan hp.symm) s'
    exact ⟨calls, hm, fun err h => .inr (hb err h)⟩

/-- The same of a file: a node that failed is one of the graph that was read. -/
theorem runSource_does (e : Engine) (name path : String) (source : Except FileError String) (s : Session) :
    Does (e.runSource name path source) s fun (result, e') calls => ∀ err, result = .error err →
      err.BeforeCalls calls ∨
        ∃ text g, source = .ok text ∧ Graph.parse text = .ok g ∧ g.Blames e'.registry err calls := by
  have hread : Does (readGraph name path source) s fun result calls =>
      calls = [] ∧ result = Graph.ofSource name path source :=
    ⟨[], makes_readGraph name path source s, rfl, readGraph_fst name path source s⟩
  refine does_bind hread fun result calls s' h => ?_
  obtain ⟨rfl, hg⟩ := h
  cases result with
  | error err =>
    refine does_pure (fun err' h => ?_) s'
    cases h
    rcases Graph.ofSource_eq_error hg.symm with ⟨_, rfl⟩ | ⟨_, rfl⟩
    · exact .inl ⟨rfl, nofun⟩
    · exact .inl ⟨rfl, nofun⟩
  | ok g =>
    refine does_after (makes_load e _ s') fun loaded s'' => ?_
    obtain ⟨result, e'⟩ := loaded
    cases result with
    | error err =>
      refine does_pure (fun err' h => ?_) s''
      cases h
      exact .inl ⟨rfl, nofun⟩
    | ok _ =>
      -- The graph that runs may have been given a name, but its nodes are those that were read.
      obtain ⟨text, g₀, hs, hp, hname⟩ := Graph.ofSource_eq_ok_iff.1 hg.symm
      have hnodes : g.nodes = g₀.nodes := by
        subst hname
        split <;> rfl
      refine does_bind (run_does (Graph.keyedById_ofSource hg.symm) s'') fun result calls s hr => does_pure ?_ s
      intro err h
      rw [List.append_nil]
      refine (hr err h).imp_right fun hb => ⟨text, g₀, hs, hp, ?_⟩
      unfold Graph.Blames
      rw [← hnodes]
      exact hb

theorem execute_does (hg : g.KeyedById) {s : Session} (h : (e.execute g s).1.status = .error) :
    ∃ err calls, (e.run g s).1 = .error err ∧ (e.execute g s).1 = .failure err.message ∧
      Makes (e.execute g) s calls ∧ (err.BeforeCalls calls ∨ g.Blames e.registry err calls) := by
  obtain ⟨calls, hm, hf⟩ := run_does (e := e) hg s
  have hall : Makes (e.execute g) s (calls ++ []) := makes_bind hm (makes_conclude g.name _ _)
  rw [List.append_nil] at hall
  cases hrun : (e.run g s).1 with
  | ok outputs =>
    rw [execute_envelope, hrun] at h
    cases h
  | error err => exact ⟨err, calls, rfl, by rw [execute_envelope, hrun]; rfl, hall, hf err hrun⟩

theorem executeSource_does {name path : String} {source : Except FileError String} {s : Session}
    (h : (e.executeSource name path source s).1.1.status = .error) :
    ∃ err calls, (e.runSource name path source s).1.1 = .error err ∧
      (e.executeSource name path source s).1.1 = .failure err.message ∧
      Makes (e.executeSource name path source) s calls ∧
      (err.BeforeCalls calls ∨ ∃ text g, source = .ok text ∧ Graph.parse text = .ok g ∧
          g.Blames (e.executeSource name path source s).1.2.registry err calls) := by
  obtain ⟨calls, hm, hf⟩ := runSource_does e name path source s
  have hall : Makes (e.executeSource name path source) s (calls ++ []) :=
    makes_bind hm (makes_bind (makes_conclude name _ _) (makes_pure _ _))
  rw [List.append_nil] at hall
  cases hrun : (e.runSource name path source s).1.1 with
  | ok outputs =>
    rw [executeSource_envelope, hrun] at h
    cases h
  | error err => exact ⟨err, calls, rfl, by rw [executeSource_envelope, hrun]; rfl, hall, hf err hrun⟩

/-- A run that fails, and not at a node, has called nothing: neither when the file could not be
read, nor when its text, its plugins, its references or a cycle stopped it. Once the run is
prepared every node of its order can be found, and only a declared node that was called can fail. -/
theorem run_calls_of_error {W : Type} [FileAccess (StateM W)] (e : Engine) (s : Session) :
    (∀ g : Graph, g.KeyedById → (e.execute g s).1.status = .error →
      ∃ err calls, (e.run g s).1 = .error err ∧ (e.execute g s).1 = .failure err.message ∧
        Makes (e.execute g) s calls ∧
        ((calls = [] ∧ ∀ id reason, err ≠ .nodeFailed id reason) ∨ g.Blames e.registry err calls)) ∧
    (∀ g : Graph, g.KeyedById → ∀ order s', e.prepare g s = (.ok order, s') →
      g.Finds e.registry order ∧
      ∃ calls, Makes (e.runPrepared g order) s' calls ∧
        ∀ err, (e.runPrepared g order s').1 = .error err → g.Blames e.registry err calls) ∧
    ∀ directory name (w : W),
      let path := graphPath directory name
      let source : Except FileError String := (FileAccess.readText (m := StateM W) path w).1
      let done := e.executeGraph (m := StateM W) directory name s w
      done.1.1.1.status = .error →
        ∃ err calls, (e.runSource name path source s).1.1 = .error err ∧ done.1.1.1 = .failure err.message ∧
          done.1.2.calls = s.calls ++ calls ∧
          ((calls = [] ∧ ∀ id reason, err ≠ .nodeFailed id reason) ∨
            ∃ text g, source = .ok text ∧ Graph.parse text = .ok g ∧ g.Blames done.1.1.2.registry err calls) := by
  refine ⟨fun g hg h => execute_does hg h, fun g hg order s' h => ?_, ?_⟩
  · have hplan : g.plan e.registry = .ok order := by rw [← prepare_fst e g s, h]
    have hfinds := Graph.finds_of_plan hplan
    exact ⟨hfinds, runPrepared_does hg hfinds s'⟩
  · intro directory name w path source done h
    exact executeSource_does h

theorem run_calls_of_error_loop :
    let e : Engine := { Engine.new { strategy := .levelByLevel } (.ofList []) with registry := .gathering }
    let failing : Engine := { e with registry := ⟨SortedMap.empty.insert "basic" .failing⟩ }
    let s := Session.ofSupply default
    let cyclic := Graph.ofEdges ["s", "a", "b"] [("s", "a"), ("a", "b"), ("b", "a")]
    let chain := Graph.ofEdges ["a", "b"] [("a", "b")]
    let text := "-- graph loop nodes { a: basic.Start } data { a.out -> a.in } --"
    let files : ReadOnlyFiles := ⟨fun path => if path = "d/loop.weave" then some text else none⟩
    Makes (e.execute cyclic) s [] ∧
    (e.executeGraph (m := StateM ReadOnlyFiles) "d" "loop" s files).1.2.calls = [] ∧
    chain.Finds e.registry ["a", "b"] ∧
    ∃ calls, Makes (failing.execute chain) s calls ∧
      chain.Blames failing.registry (.nodeFailed "a" (.nodeFailed "Start" "out of order")) calls := by
  intro e failing s cyclic chain text files
  have hcyclic : cyclic.KeyedById := by unfold Graph.KeyedById; decide
  have hchain : chain.KeyedById := by unfold Graph.KeyedById; decide
  obtain ⟨hexecute, hprepare, hfile⟩ := run_calls_of_error (W := ReadOnlyFiles) e s
  refine ⟨?_, ?_, ?_, ?_⟩
  · have hrun : (e.run cyclic s).1 = .error (.cycle "a" ["a", "b", "a"]) := by cbv
    obtain ⟨err, calls, h, -, hm, ⟨rfl, -⟩ | ⟨_, _, _, _, _, -, -, hn, -⟩⟩ :=
      hexecute cyclic hcyclic (by rw [execute_envelope, hrun]; rfl)
    · exact hm
    · cases hrun.symm.trans (h.trans (congrArg _ hn))
  · have hpath : graphPath "d" "loop" = "d/loop.weave" := by decide +kernel
    have hread : (FileAccess.readText (m := StateM ReadOnlyFiles) (graphPath "d" "loop") files).1 = .ok text := by
      rw [hpath]
      rfl
    have hrun : (e.runSource "loop" (graphPath "d" "loop") (.ok text) s).1.1 = .error (.cycle "a" ["a", "a"]) := by
      rw [hpath]
      cbv
    rw [← hread] at hrun
    obtain ⟨err, calls, h, -, hm, ⟨rfl, -⟩ | ⟨_, _, -, -, _, _, _, _, _, -, -, hn, -⟩⟩ :=
      hfile "d" "loop" files (by simp only [executeGraph_envelope, hrun, Envelope.ofResult, Envelope.failure])
    · exact hm
    · cases hrun.symm.trans (h.trans (congrArg _ hn))
  · have hp : (e.prepare chain s).1 = .ok ["a", "b"] := by cbv
    exact (hprepare chain hchain ["a", "b"] _ (Prod.ext hp rfl)).1
  · have hrun : (failing.run chain s).1 = .error (.nodeFailed "a" (.nodeFailed "Start" "out of order")) := by cbv
    obtain ⟨err, calls, h, -, hm, hf⟩ :=
      (run_calls_of_error (W := ReadOnlyFiles) failing s).1 chain hchain (by rw [execute_envelope, hrun]; rfl)
    cases hrun.symm.trans h
    exact ⟨calls, hm, hf.resolve_left fun hn => hn.2 _ _ rfl⟩

end Engine

end Dataflow
