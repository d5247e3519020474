import Dataflow.Graph.Parser
import Dataflow.Proofs.Token.Reading
/-!
# Graphs that are read

A graph description gives every node its own id as key (`Graph.parse_keyedById`), as every graph
does that is put together node by node.
-/

namespace Dataflow

namespace Graph

open Dataflow.Parser

theorem keyedById_named (name : String) : (named name).KeyedById := fun _ he => nomatch he

theorem KeyedById.addNode {g : Graph} (h : g.KeyedById) (n : Node) : (g.addNode n).KeyedById := by
  intro e he
  rcases mem_putEntry he with rfl | he
  · rfl
  · exact h e he

theorem gives_readNode {g : Graph} (h : g.KeyedById) : Gives (readNode g) KeyedById := by
  refine gives_after fun (id, token) => ?_
  dsimp only
  split
  · exact gives_failAt _ _
  · refine gives_after fun _ => gives_after fun _ => gives_after fun _ => gives_after fun _ => gives_after fun _ => ?_
    split
    · exact gives_after fun node => gives_pure (h.addNode node)
    · exact gives_pure (h.addNode _)

theorem gives_readConnection (kind : ConnectionKind) {g : Graph} (h : g.KeyedById) :
    Gives (readConnection kind g) KeyedById :=
  gives_after fun _ => gives_after fun _ => gives_after fun _ => gives_pure h

theorem gives_readEntry {g : Graph} (h : g.KeyedById) : Gives (readEntry g) KeyedById :=
  gives_after fun _ => gives_pure h

theorem gives_readBlock {g : Graph} (h : g.KeyedById) : Gives (readBlock g) KeyedById := by
  refine gives_after fun _ => gives_after fun _ => ?_
  split
  · exact gives_untilBrace (fun _ hs => gives_readNode hs) h
  · exact gives_untilBrace (fun _ hs => gives_readConnection _ hs) h
  · exact gives_untilBrace (fun _ hs => gives_readConnection _ hs) h
  · exact gives_untilBrace (fun _ hs => gives_readEntry hs) h
  · exact gives_failAt _ _

theorem gives_readSection (name : String) (opening : Token) {g : Graph} (h : g.KeyedById) :
    Gives (readSection name opening g) KeyedById := by
  unfold readSection
  split
  · exact gives_after fun _ => gives_pure h
  · refine gives_after fun found => ?_
    split
    · exact gives_whileIdentifier (fun _ hs => gives_readBlock hs) h
    · exact gives_whileIdentifier (fun _ hs => gives_readBlock hs) h
  · exact gives_failAt _ _

theorem gives_readGraph : Gives readGraph KeyedById := by
  refine gives_bind (gives_sections (fun name opening _ => gives_readSection name opening) (keyedById_named ""))
    fun (g, seen) hg => ?_
  dsimp only
  split
  · exact gives_pure hg
  · exact gives_unexpected _

/-- Every graph that is read from a text is keyed by the ids of its nodes. -/
theorem parse_keyedById {source : String} {g : Graph} (h : parse source = .ok g) : g.KeyedById :=
  parse_gives gives_readGraph h

end Graph

end Dataflow
