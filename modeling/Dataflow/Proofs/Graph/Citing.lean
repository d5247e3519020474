import Dataflow.Graph.Parser
import Dataflow.Proofs.Token.Citing
/-!
# Errors of graph descriptions

Every reader of graph descriptions stays within the tokens that it reads and cites them when it fails. The
tokens that are kept for messages are among those that were read.
-/

namespace Dataflow.Graph

open Dataflow.Parser

variable {tokens : List Token}

theorem stays_readImport (imports : List String) : Stays tokens (readImport imports) fun _ => True := by
  refine (stays_identifierToken _).bind fun ⟨plugin, token⟩ htoken => (stays_expect _ _).bind fun _ _ => ?_
  refine (stays_identifierToken _).bind fun ⟨suffix, suffixToken⟩ hsuffix => ?_
  dsimp only
  split
  · exact stays_failAt hsuffix _
  · split
    · exact stays_failAt htoken _
    · exact stays_pure trivial

theorem stays_readLiteral : Stays tokens readLiteral fun _ => True := by
  refine stays_get.bind fun c _ => ?_
  split
  · exact stays_advance.bind fun _ _ => stays_pure trivial
  · exact stays_unexpected _

theorem stays_readParameter (n : Node) : Stays tokens (readParameter n) fun _ => True := by
  refine (stays_identifier _).bind fun port _ => (stays_expect _ _).bind fun _ _ => ?_
  exact stays_readLiteral.bind fun value _ => stays_pure trivial

theorem stays_readNode (g : Graph) : Stays tokens (readNode g) fun _ => True := by
  refine (stays_identifierToken _).bind fun ⟨id, token⟩ htoken => ?_
  dsimp only
  split
  · exact stays_failAt htoken _
  · refine (stays_expect _ _).bind fun _ _ => (stays_identifier _).bind fun plugin _ => ?_
    refine (stays_expect _ _).bind fun _ _ => (stays_identifier _).bind fun type _ => ?_
    refine (stays_eat .openBrace).bind fun braced _ => ?_
    split
    · exact (stays_untilBrace stays_readParameter _).bind fun node _ => stays_pure trivial
    · exact stays_pure trivial

theorem stays_readEndpoint : Stays tokens readEndpoint fun _ => True := by
  refine (stays_identifier _).bind fun node _ => (stays_expect _ _).bind fun _ _ => ?_
  exact (stays_identifier _).bind fun port _ => stays_pure trivial

theorem stays_readConnection (kind : ConnectionKind) (g : Graph) :
    Stays tokens (readConnection kind g) fun _ => True := by
  refine stays_readEndpoint.bind fun source _ => (stays_expect _ _).bind fun _ _ => ?_
  exact stays_readEndpoint.bind fun target _ => stays_pure trivial

theorem stays_readEntry (g : Graph) : Stays tokens (readEntry g) fun _ => True :=
  (stays_identifier _).bind fun _ _ => stays_pure trivial

theorem stays_readBlock (g : Graph) : Stays tokens (readBlock g) fun _ => True := by
  refine (stays_identifierToken _).bind fun ⟨block, token⟩ htoken => (stays_expect _ _).bind fun _ _ => ?_
  split
  · exact stays_untilBrace stays_readNode g
  · exact stays_untilBrace (stays_readConnection .data) g
  · exact stays_untilBrace (stays_readConnection .control) g
  · exact stays_untilBrace stays_readEntry g
  · exact stays_failAt htoken _

theorem stays_readSection (name : String) {opening : Token} (h : opening ∈ tokens) (g : Graph) :
    Stays tokens (readSection name opening g) fun _ => True := by
  unfold readSection
  split
  · exact (stays_whileIdentifier stays_readImport _).bind fun imports _ => stays_pure trivial
  · refine (stays_identifierOnLine? _).bind fun name? _ => ?_
    cases name? with
    | none => exact stays_whileIdentifier stays_readBlock _
    | some name => exact stays_whileIdentifier stays_readBlock _
  · exact stays_failAt h _

theorem stays_readGraph : Stays tokens readGraph fun _ => True := by
  refine (stays_sections (fun name _ g h => stays_readSection name h g) _).bind fun ⟨g, seen⟩ _ => ?_
  dsimp only
  split
  · exact stays_pure trivial
  · exact stays_unexpected _

end Dataflow.Graph
