import Dataflow.Manifest.Parser
import Dataflow.Proofs.Graph.Layout
import Dataflow.Proofs.Token.Splitting
/-!
# Layout

The readers of manifests keep in step like those of graph descriptions do. So neither format minds how
its text is laid out, as long as what stands on the line of a section marker stays there
(`parse_eq_of_alike`).
-/

namespace Dataflow

namespace Manifest

open Dataflow.Parser

theorem inStep_readPair (what : String) (pairs : OrderedMap String) :
    InStep (readPair what pairs) (readPair what pairs) := by
  refine inStep_of_identifierToken fun name t t' => (inStep_typeName _).bind fun type => ?_
  split
  · exact lockstep_failAt _ _ _
  · exact inStep_pure _

theorem inStep_readPairs (what : String) : InStep (readPairs what) (readPairs what) :=
  inStep_untilBrace (inStep_readPair what) ∅

theorem inStep_readType (types : List ManifestType) : InStep (readType types) (readType types) := by
  refine inStep_of_identifierToken fun name t t' => ?_
  dsimp only
  split
  · exact lockstep_failAt _ _ _
  · refine (inStep_eat .openBrace).bind fun braced => ?_
    split
    · exact (inStep_readPairs _).bind fun fields => inStep_pure _
    · exact inStep_pure _

theorem inStep_readAttribute (node : ManifestNode) : InStep (readAttribute node) (readAttribute node) := by
  refine inStep_of_identifierToken fun keyword t t' => ?_
  dsimp only
  split
  · refine inStep_of_identifierToken fun name u u' => ?_
    dsimp only
    split
    · exact inStep_pure _
    · exact lockstep_failAt _ _ _
  · exact inStep_of_expect <| (inStep_readPairs _).bind fun inputs => inStep_pure _
  · exact inStep_of_expect <| (inStep_readPairs _).bind fun outputs => inStep_pure _
  · exact lockstep_failAt _ _ _

theorem inStep_readNode (nodes : List ManifestNode) : InStep (readNode nodes) (readNode nodes) := by
  refine inStep_of_identifierToken fun name t t' => ?_
  dsimp only
  split
  · exact lockstep_failAt _ _ _
  · exact inStep_of_expect <| (inStep_untilBrace inStep_readAttribute _).bind fun node => inStep_pure _

theorem lockstep_readSection (name : String) (t t' : Token) (m : Manifest) :
    Lockstep (Cursor.Facing 1 t.position.line t'.position.line) (readSection name t m) (readSection name t' m)
      fun a a' c c' => a = a' ∧ c.Same c' := by
  unfold readSection
  split
  · exact Lockstep.mono ((inStep_whileIdentifier inStep_readType _).bind fun types => inStep_pure _)
      fun _ _ hc => hc.1
  · exact Lockstep.mono ((inStep_whileIdentifier inStep_readNode _).bind fun nodes => inStep_pure _)
      fun _ _ hc => hc.1
  · exact lockstep_failAt _ _ _

/-- The reader of whole manifests. -/
theorem inStep_readManifest :
    InStep (do return (← sections readSection empty).1) (do return (← sections readSection empty).1) :=
  (inStep_sections lockstep_readSection empty).bind fun x => inStep_pure x.1

end Manifest

/-- Two texts with alike tokens are the same graph or fail with the same detail, and likewise as manifests. -/
theorem parse_eq_of_alike {language : Language} {source source' : String} {tokens tokens' : List Token}
    (h : tokenize language source = .ok tokens) (h' : tokenize language source' = .ok tokens')
    (halike : Alike tokens tokens') :
    (Graph.parse source).mapError ParseError.detail = (Graph.parse source').mapError ParseError.detail ∧
      (Manifest.parse source).mapError ParseError.detail = (Manifest.parse source').mapError ParseError.detail := by
  have htokens := tokenize_eq_ok_of_language h
  have htokens' := tokenize_eq_ok_of_language h'
  constructor
  · exact Graph.inStep_readGraph.parse (htokens .weave) (htokens' .weave) halike
  · exact Manifest.inStep_readManifest.parse (htokens .anima) (htokens' .anima) halike

/-- A graph description on one line. -/
def flat : String := "-- graph g entry \x7b a \x7d --"

/-- The same description, with line breaks behind the name of the graph. -/
def spread : String := "-- graph g // the name\nentry\n\x7b\n  a\n\x7d\n--"

set_option maxRecDepth 2000 in
theorem flat_parses_like_spread :
    ∃ tokens tokens', tokenize .weave flat = .ok tokens ∧ tokenize .weave spread = .ok tokens' ∧
      Alike tokens tokens' ∧ tokens ≠ tokens' ∧
      (Graph.parse flat).mapError ParseError.detail = (Graph.parse spread).mapError ParseError.detail ∧
      (Manifest.parse flat).mapError ParseError.detail = (Manifest.parse spread).mapError ParseError.detail := by
  have hflat : tokenize .weave flat = .ok
      [⟨.marker, ⟨1, 1⟩, "--"⟩, ⟨.identifier "graph", ⟨1, 4⟩, "graph"⟩, ⟨.identifier "g", ⟨1, 10⟩, "g"⟩,
        ⟨.identifier "entry", ⟨1, 12⟩, "entry"⟩, ⟨.openBrace, ⟨1, 18⟩, "\x7b"⟩, ⟨.identifier "a", ⟨1, 20⟩, "a"⟩,
        ⟨.closeBrace, ⟨1, 22⟩, "\x7d"⟩, ⟨.marker, ⟨1, 24⟩, "--"⟩] := by cbv
  have hspread : tokenize .weave spread = .ok
      [⟨.marker, ⟨1, 1⟩, "--"⟩, ⟨.identifier "graph", ⟨1, 4⟩, "graph"⟩, ⟨.identifier "g", ⟨1, 10⟩, "g"⟩,
        ⟨.identifier "entry", ⟨2, 1⟩, "entry"⟩, ⟨.openBrace, ⟨3, 1⟩, "\x7b"⟩, ⟨.identifier "a", ⟨4, 3⟩, "a"⟩,
        ⟨.closeBrace, ⟨5, 1⟩, "\x7d"⟩, ⟨.marker, ⟨6, 1⟩, "--"⟩] := by cbv
  refine ⟨_, _, hflat, hspread, ?halike, by decide, parse_eq_of_alike hflat hspread ?halike⟩
  decide

end Dataflow
