import Dataflow.Graph.Parser
import Dataflow.Proofs.Token.Lockstep
/-!
# Graph descriptions and their layout

Every reader of graph descriptions keeps in step with itself on alike tokens. The tokens kept for
messages may differ between two runs; only their positions are read, and only by the error.
-/

namespace Dataflow.Graph

open Dataflow.Parser

theorem inStep_readImport (imports : List String) : InStep (readImport imports) (readImport imports) := by
  refine inStep_of_identifierToken fun plugin t t' => inStep_of_expect ?_
  refine inStep_of_identifierToken fun suffix u u' => ?_
  dsimp only
  split
  · exact lockstep_failAt _ _ _
  · split
    · exact lockstep_failAt _ _ _
    · exact inStep_pure _

/-- A literal is chosen by the kind of the next token. -/
theorem inStep_readLiteral : InStep readLiteral readLiteral := by
  refine Lockstep.get fun c c' h => ?_
  have hliteral : ∀ c : Cursor, c.peek?.bind (literal? ·.kind) = (c.peek?.map Token.kind).bind literal? := by
    intro c
    cases c.peek? <;> rfl
  rw [hliteral, hliteral, h.kind_peek?]
  split
  · exact lockstep_advance.bind fun _ _ => inStep_pure _
  · exact inStep_unexpected _

theorem inStep_readParameter (n : Node) : InStep (readParameter n) (readParameter n) := by
  refine (inStep_identifier _).bind fun port => inStep_of_expect ?_
  exact inStep_readLiteral.bind fun value => inStep_pure _

theorem inStep_readNode (g : Graph) : InStep (readNode g) (readNode g) := by
  refine inStep_of_identifierToken fun id t t' => ?_
  dsimp only
  split
  · exact lockstep_failAt _ _ _
  · refine inStep_of_expect <| (inStep_identifier _).bind fun plugin => inStep_of_expect ?_
    refine (inStep_identifier _).bind fun type => (inStep_eat .openBrace).bind fun braced => ?_
    split
    · exact (inStep_untilBrace inStep_readParameter _).bind fun node => inStep_pure _
    · exact inStep_pure _

theorem inStep_readEndpoint : InStep readEndpoint readEndpoint := by
  refine (inStep_identifier _).bind fun node => inStep_of_expect ?_
  exact (inStep_identifier _).bind fun port => inStep_pure _

theorem inStep_readConnection (kind : ConnectionKind) (g : Graph) :
    InStep (readConnection kind g) (readConnection kind g) := by
  refine inStep_readEndpoint.bind fun source => inStep_of_expect ?_
  exact inStep_readEndpoint.bind fun target => inStep_pure _

theorem inStep_readEntry (g : Graph) : InStep (readEntry g) (readEntry g) :=
  (inStep_identifier _).bind fun _ => inStep_pure _

theorem inStep_readBlock (g : Graph) : InStep (readBlock g) (readBlock g) := by
  refine inStep_of_identifierToken fun block t t' => inStep_of_expect ?_
  split
  · exact inStep_untilBrace inStep_readNode g
  · exact inStep_untilBrace (inStep_readConnection .data) g
  · exact inStep_untilBrace (inStep_readConnection .control) g
  · exact inStep_untilBrace inStep_readEntry g
  · exact lockstep_failAt _ _ _

/-- The name of a graph is the only part of a body that is looked for on a line. -/
theorem lockstep_readSection (name : String) (t t' : Token) (g : Graph) :
    Lockstep (Cursor.Facing 1 t.position.line t'.position.line) (readSection name t g) (readSection name t' g)
      fun a a' c c' => a = a' ∧ c.Same c' := by
  unfold readSection
  split
  · exact Lockstep.mono ((inStep_whileIdentifier inStep_readImport _).bind fun imports => inStep_pure _)
      fun _ _ hc => hc.1
  · refine (lockstep_identifierOnLine? 0 _ _).bind fun name? name?' => Lockstep.assuming ?_
    rintro rfl
    refine Lockstep.mono ?_ fun _ _ hc => hc.1
    cases name? with
    | none => exact inStep_whileIdentifier inStep_readBlock _
    | some name => exact inStep_whileIdentifier inStep_readBlock _
  · exact lockstep_failAt _ _ _

theorem inStep_readGraph : InStep readGraph readGraph := by
  refine (inStep_sections lockstep_readSection _).bind fun ⟨g, seen⟩ => ?_
  dsimp only
  split
  · exact inStep_pure g
  · exact inStep_unexpected _

end Dataflow.Graph
