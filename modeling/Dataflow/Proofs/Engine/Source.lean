import Dataflow.Proofs.Engine.Run
import Dataflow.Proofs.Graph.Parser
/-!
# From a file to a run

What an engine does before it runs the graph of a file: it reads the graph (`Graph.ofSource`) and
loads the plugins that the graph names. Both are functions of the text and of the engine; the
session only learns of them.
-/

namespace Dataflow

open Session

/-- The graph that a file holds, under its own name or else that of the file. -/
def Graph.ofSource (name path : String) (source : Except FileError String) : Except RunError Graph :=
  (source.mapError (.file path)).bind fun text =>
    ((parse text).mapError .parse).map fun g => if g.name.isEmpty then { g with name } else g

namespace Graph

variable {name path : String} {source : Except FileError String}

theorem ofSource_eq_ok_iff {g : Graph} :
    ofSource name path source = .ok g ↔
      ∃ text g₀, source = .ok text ∧ parse text = .ok g₀ ∧ (if g₀.name.isEmpty then { g₀ with name } else g₀) = g := by
  simp only [ofSource, Except.bind_eq_ok_iff, Except.mapError_eq_ok_iff, Except.map_eq_ok_iff]
  constructor
  · rintro ⟨text, hs, g₀, hp, he⟩
    exact ⟨text, g₀, hs, hp, he⟩
  · rintro ⟨text, g₀, hs, hp, he⟩
    exact ⟨text, hs, g₀, hp, he⟩

theorem ofSource_eq_error {err : RunError} (h : ofSource name path source = .error err) :
    (∃ e, err = .file path e) ∨ ∃ e, err = .parse e := by
  rcases Except.bind_eq_error_iff.1 h with h | ⟨text, -, h⟩
  · obtain ⟨e, -, rfl⟩ := Except.mapError_eq_error_iff.1 h
    exact .inl ⟨e, rfl⟩
  · obtain ⟨e, -, rfl⟩ := Except.mapError_eq_error_iff.1 (Except.map_eq_error_iff.1 h)
    exact .inr ⟨e, rfl⟩

theorem keyedById_ofSource {g : Graph} (h : ofSource name path source = .ok g) : g.KeyedById := by
  obtain ⟨text, g₀, -, hp, rfl⟩ := ofSource_eq_ok_iff.1 h
  have hg := parse_keyedById hp
  split
  · exact hg
  · exact hg

end Graph

namespace Engine

theorem readGraph_fst (name path : String) (source : Except FileError String) (s : Session) :
    (readGraph name path source s).1 = Graph.ofSource name path source := by
  unfold readGraph Graph.ofSource
  cases source with
  | error err => rfl
  | ok text =>
    simp only [Except.mapError, Except.bind]
    cases Graph.parse text <;> rfl

theorem load_fst (e : Engine) (required : List String) (s : Session) :
    (e.load required s).1 =
      let loading := e.registry.ensureLoaded e.loader required
      (match loading.error? with
        | some err => .error err
        | none => .ok (), { e with registry := loading.registry }) := by
  unfold load
  simp only [bind_apply]
  cases (e.registry.ensureLoaded e.loader required).error? <;> rfl

theorem executeSource_envelope (e : Engine) (name path : String) (source : Except FileError String) (s : Session) :
    (e.executeSource name path source s).1.1 = .ofResult (e.runSource name path source s).1.1 :=
  conclude_fst name _ _

/-- A run from a file reads the file and leaves the file system otherwise alone. -/
theorem executeGraph_apply {W : Type} [FileAccess (StateM W)] (e : Engine) (directory name : String) (s : Session)
    (w : W) :
    e.executeGraph (m := StateM W) directory name s w =
      let read : Except FileError String × W := FileAccess.readText (m := StateM W) (graphPath directory name) w
      (e.executeSource name (graphPath directory name) read.1 s, read.2) :=
  rfl

theorem executeGraph_envelope {W : Type} [FileAccess (StateM W)] (e : Engine) (directory name : String) (s : Session)
    (w : W) :
    (e.executeGraph (m := StateM W) directory name s w).1.1.1 =
      let source : Except FileError String := (FileAccess.readText (m := StateM W) (graphPath directory name) w).1
      .ofResult (e.runSource name (graphPath directory name) source s).1.1 := by
  rw [executeGraph_apply]
  exact executeSource_envelope e name _ _ s

end Engine

/-- A file system to read from; nothing can be written to it. -/
structure ReadOnlyFiles where
  text? : String → Option String

instance : FileAccess (StateM ReadOnlyFiles) where
  readText path files := ((files.text? path).elim (.error .notFound) .ok, files)
  makeDirectories _ files := (.error .permissionDenied, files)
  writeText _ _ files := (.error .permissionDenied, files)

end Dataflow
