import Dataflow.Manifest.Parser
import Dataflow.Proofs.Graph.Citing
import Mathlib
/-!
# Errors of whole texts

The readers of manifests cite the tokens that they read like those of graph descriptions do. So whatever a
text is refused for, as a list of tokens, as a graph description or as a manifest, its error reports
characters of the text, and is located unless these have an escape (`Rejected.error_located`).
-/

namespace Dataflow

namespace Manifest

open Dataflow.Parser

variable {tokens : List Token}

theorem stays_readPair (what : String) (pairs : OrderedMap String) :
    Stays tokens (readPair what pairs) fun _ => True := by
  refine (stays_identifierToken _).bind fun ⟨name, token⟩ htoken => (stays_typeName _).bind fun type _ => ?_
  split
  · exact stays_failAt htoken _
  · exact stays_pure trivial

theorem stays_readPairs (what : String) : Stays tokens (readPairs what) fun _ => True :=
  stays_untilBrace (stays_readPair what) ∅

theorem stays_readType (types : List ManifestType) : Stays tokens (readType types) fun _ => True := by
  refine (stays_identifierToken _).bind fun ⟨name, token⟩ htoken => ?_
  dsimp only
  split
  · exact stays_failAt htoken _
  · refine (stays_eat .openBrace).bind fun braced _ => ?_
    split
    · exact (stays_readPairs _).bind fun fields _ => stays_pure trivial
    · exact stays_pure trivial

theorem stays_readAttribute (node : ManifestNode) : Stays tokens (readAttribute node) fun _ => True := by
  refine (stays_identifierToken _).bind fun ⟨keyword, token⟩ htoken => ?_
  dsimp only
  split
  · refine (stays_identifierToken _).bind fun ⟨name, nameToken⟩ hname => ?_
    dsimp only
    split
    · exact stays_pure trivial
    · exact stays_failAt hname _
  · exact (stays_expect _ _).bind fun _ _ => (stays_readPairs _).bind fun inputs _ => stays_pure trivial
  · exact (stays_expect _ _).bind fun _ _ => (stays_readPairs _).bind fun outputs _ => stays_pure trivial
  · exact stays_failAt htoken _

theorem stays_readNode (nodes : List ManifestNode) : Stays tokens (readNode nodes) fun _ => True := by
  refine (stays_identifierToken _).bind fun ⟨name, token⟩ htoken => ?_
  dsimp only
  split
  · exact stays_failAt htoken _
  · refine (stays_expect _ _).bind fun _ _ => ?_
    exact (stays_untilBrace stays_readAttribute _).bind fun node _ => stays_pure trivial

theorem stays_readSection (name : String) {opening : Token} (h : opening ∈ tokens) (m : Manifest) :
    Stays tokens (readSection name opening m) fun _ => True := by
  unfold readSection
  split
  · exact (stays_whileIdentifier stays_readType _).bind fun types _ => stays_pure trivial
  · exact (stays_whileIdentifier stays_readNode _).bind fun nodes _ => stays_pure trivial
  · exact stays_failAt h _

end Manifest

/-- The text is refused with this error, as a list of tokens, as a graph description or as a manifest. -/
inductive Rejected (source : String) (e : ParseError) : Prop
  | tokens {language : Language} : tokenize language source = .error e → Rejected source e
  | graph : Graph.parse source = .error e → Rejected source e
  | manifest : Manifest.parse source = .error e → Rejected source e

/-- Every error reports characters of the text, and is located unless they have an escape. -/
theorem Rejected.error_located {source : String} {e : ParseError} (h : Rejected source e) :
    ∃ before lexeme after, source.toList = before ++ (lexeme ++ after) ∧ e.Reports source before lexeme after ∧
      (¬ HasEscape lexeme → e.Located source) := by
  suffices hreports : ∃ before lexeme after,
      source.toList = before ++ (lexeme ++ after) ∧ e.Reports source before lexeme after by
    obtain ⟨before, lexeme, after, hsource, hreports⟩ := hreports
    exact ⟨before, lexeme, after, hsource, hreports, hreports.located hsource⟩
  cases h with
  | tokens h => exact tokenize_reports h
  | graph h => exact Parser.parse_reports (fun _ => Graph.stays_readGraph) h
  | manifest h =>
    refine Parser.parse_reports (P := fun _ => True) (fun _ => ?_) h
    refine Parser.Stays.bind (P := fun _ => True) ?_ fun x _ => Parser.stays_pure trivial
    exact Parser.stays_sections (fun name _ m hopening => Manifest.stays_readSection name hopening m) _

/-- A graph description that ends within the parameters of a node, behind a comment. -/
def unfinished : String := "-- graph\nnodes \x7b a: p.T \x7b x = 1 // one\n"

theorem unfinished_located :
    Graph.parse unfinished =
      .error ⟨.weave, "expected identifier for a parameter port, found end of input", ⟨2, 23⟩, "<end of input>"⟩ ∧
    ∃ before lexeme after, unfinished.toList = before ++ (lexeme ++ after) ∧
      ParseError.Reports
        ⟨.weave, "expected identifier for a parameter port, found end of input", ⟨2, 23⟩, "<end of input>"⟩
        unfinished before lexeme after ∧
      (¬ HasEscape lexeme → ParseError.Located
        ⟨.weave, "expected identifier for a parameter port, found end of input", ⟨2, 23⟩, "<end of input>"⟩
        unfinished) := by
  have hparse : Graph.parse unfinished = .error
      ⟨.weave, "expected identifier for a parameter port, found end of input", ⟨2, 23⟩, "<end of input>"⟩ := by cbv
  exact ⟨hparse, Rejected.error_located (.graph hparse)⟩

/-- A text with an escape that stands for nothing. -/
def unknownEscape : String := "\"\\x\""

/-- The error shows the escape, which starts in column 2, and stands in column 4, behind it. -/
theorem unknownEscape_not_located :
    tokenize .weave unknownEscape = .error ⟨.weave, "unknown escape '\\x'", ⟨1, 4⟩, "\\x"⟩ ∧
      Rejected unknownEscape ⟨.weave, "unknown escape '\\x'", ⟨1, 4⟩, "\\x"⟩ ∧
      ¬ ParseError.Located ⟨.weave, "unknown escape '\\x'", ⟨1, 4⟩, "\\x"⟩ unknownEscape := by
  have htokenize : tokenize .weave unknownEscape = .error ⟨.weave, "unknown escape '\\x'", ⟨1, 4⟩, "\\x"⟩ := by cbv
  refine ⟨htokenize, .tokens htokenize, fun hlocated => ?_⟩
  obtain ⟨before, after, hsource, hposition⟩ := hlocated.fragment (by decide)
  have hlength : unknownEscape.toList.length = before.length + (2 + after.length) := by
    rw [hsource, List.length_append, List.length_append]
    rfl
  have hshort : before.length ≤ 2 := by
    rw [show unknownEscape.toList.length = 4 by decide] at hlength
    omega
  have hcolumn := Position.column_behind_le before
  rw [← hposition] at hcolumn
  dsimp only at hcolumn
  omega

end Dataflow
