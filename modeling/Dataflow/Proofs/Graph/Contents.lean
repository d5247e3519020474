import Dataflow.Proofs.Graph.Grammar
/-!
# What graphs keep

A graph that is read has everything that its text declares, in the order of the text: the nodes and
connections of all blocks, the entries and the imports (`parse_keeps_declarations`). Only of the assignments of
a parameter it keeps the last one. So a node has all of its parameters as they are written unless two
assignments of one port differ (`WrittenNode.Kept`).
-/

namespace Dataflow.Graph

open Dataflow.Parser

/-- The plugins that the section imports. -/
def Section.plugins (s : Section) : List String := s.imports?.getD []

theorem Literal.value_injective : Function.Injective Literal.value := by
  intro l l' h
  cases l <;> cases l' <;> simp_all [Literal.value, Json.int, WholeNumber.ofInt64, Int64.toInt_inj]

namespace WrittenNode

/-- Every port has the value of each literal that is assigned to it. -/
def Complete (n : WrittenNode) (parameters : OrderedMap Json) : Prop :=
  ∀ p ∈ n.parameters, parameters.get? p.1 = some p.2.value

/-- Assignments of one port have one literal. -/
def Consistent (n : WrittenNode) : Prop := ∀ p ∈ n.parameters, ∀ q ∈ n.parameters, p.1 = q.1 → p.2 = q.2

/-- The last literal that is assigned to the port. -/
def assigned? (n : WrittenNode) (port : String) : Option Literal := n.parameters.reverse.lookup port

theorem exists_assigned {n : WrittenNode} {p : String × Literal} (hp : p ∈ n.parameters) :
    ∃ l, n.assigned? p.1 = some l ∧ (p.1, l) ∈ n.parameters := by
  obtain ⟨l, hl⟩ : ∃ l, n.assigned? p.1 = some l := by
    rw [← Option.isSome_iff_exists, assigned?, List.lookup_isSome_iff]
    exact ⟨p, List.mem_reverse.2 hp, by simp⟩
  exact ⟨l, hl, List.mem_reverse.1 (mem_of_lookup hl)⟩

/-- The entry of the graph is that of the node, and each port has the literal that is assigned to it last. -/
structure Kept (n : WrittenNode) (e : String × Node) : Prop where
  key : e.1 = n.id
  id : e.2.id = n.id
  plugin : e.2.plugin = n.plugin
  type : e.2.type = n.type
  last : ∀ port, e.2.parameters.get? port = (n.assigned? port).map Literal.value
  complete_iff : n.Complete e.2.parameters ↔ n.Consistent

theorem complete_iff_consistent {n : WrittenNode} {parameters : OrderedMap Json}
    (h : ∀ port, parameters.get? port = (n.assigned? port).map Literal.value) :
    n.Complete parameters ↔ n.Consistent := by
  constructor
  · intro hcomplete p hp q hq hport
    have hvalue := hcomplete p hp
    rw [hport, hcomplete q hq, Option.some.injEq] at hvalue
    exact Literal.value_injective hvalue.symm
  · intro hconsistent p hp
    obtain ⟨l, hl, hm⟩ := exists_assigned hp
    rw [h, hl, hconsistent p hp _ hm rfl]
    rfl

end WrittenNode

theorem get?_foldl_parameterItems (node : Node) (ps : List (String × Literal)) (port : String) :
    (ps.foldl parameterItems.add node).parameters.get? port =
      ((ps.reverse.lookup port).map Literal.value).or (node.parameters.get? port) := by
  induction ps generalizing node with
  | nil => rfl
  | cons p ps ih =>
    rw [List.foldl_cons, ih, List.reverse_cons, List.lookup_append]
    cases ps.reverse.lookup port with
    | some l => rfl
    | none =>
      have hinsert : (parameterItems.add node p).parameters.get? port =
          if port = p.1 then some p.2.value else node.parameters.get? port :=
        OrderedMap.get?_insert _ _ _ _
      rw [hinsert, lookup_cons_eq]
      split <;> rfl

theorem kept_entry (n : WrittenNode) : n.Kept n.entry := by
  have hlast : ∀ port, n.node.parameters.get? port = (n.assigned? port).map Literal.value := by
    intro port
    refine (get?_foldl_parameterItems (.named n.id n.plugin n.type) n.parameters port).trans ?_
    exact Option.or_none
  exact ⟨rfl, node_id n, node_plugin n, node_type n, hlast, WrittenNode.complete_iff_consistent hlast⟩

/-- The graph has what the sections declare, in the order they declare it. -/
structure Keeps (g : Graph) (written : List Section) : Prop where
  nodes : List.Forall₂ WrittenNode.Kept (written.flatMap Section.nodes) g.nodes.entries
  connections : g.connections = written.flatMap Section.connections
  entries : g.declaredEntries = written.flatMap Section.entries
  imports : g.imports = written.flatMap Section.plugins

theorem Derives.keeps {tokens : List Token} {written : List Section} (h : Derives tokens written) :
    (ofSections written).Keeps written where
  nodes := by
    rw [h.entries, List.forall₂_map_right_iff]
    exact List.forall₂_same.2 fun n _ => kept_entry n
  connections := h.lists.connections
  entries := h.lists.entries
  imports := by
    have hword : ∀ s : Section, s.word ≠ "import" → s.imports? = none := by
      intro s hs
      cases s with
      | imports _ => exact absurd rfl hs
      | graph _ _ => rfl
    exact h.lists.imports.trans (flatMap_getD_eq hword h.words).symm

/-- A graph that is read has the nodes, connections, entries and imports that its text declares, and every node
has the parameters that are assigned to it, unless two assignments contradict each other. -/
theorem parse_keeps_declarations {source : String} {g : Graph} (h : parse source = .ok g) :
    ∃ tokens, tokenize .weave source = .ok tokens ∧ (∃ written, Derives tokens written) ∧
      ∀ written, Derives tokens written → g.Keeps written := by
  obtain ⟨tokens, htokens⟩ := tokenize_of_parse h
  refine ⟨tokens, htokens, ?_, ?_⟩
  · obtain ⟨written, hd, -⟩ := (parse_eq_ok_iff htokens).1 h
    exact ⟨written, hd⟩
  · intro written hd
    have h' : parse source = .ok (ofSections written) := (parse_eq_ok_iff htokens).2 ⟨written, hd, rfl⟩
    obtain rfl : g = ofSections written := Except.ok.inj (h.symm.trans h')
    exact hd.keeps

/-- Two blocks of nodes, a connection between them, an entry that is listed twice, and an import. -/
def scattered : String :=
  "-- graph\nnodes \x7b a: p.T \x7b x = 1 y = \"s\" \x7d \x7d data \x7b a.o -> b.i \x7d entry \x7b a a \x7d " ++
    "nodes \x7b b: p.T \x7d\n-- -- import p.anima --"

theorem scattered_keeps_declarations :
    ∃ g tokens, parse scattered = .ok g ∧
      (g.ids, g.connections.length, g.declaredEntries, g.imports) = (["a", "b"], 1, ["a", "a"], ["p"]) ∧
      tokenize .weave scattered = .ok tokens ∧ (∃ written, Derives tokens written) ∧
      ∀ written, Derives tokens written → g.Keeps written := by
  have hread : (parse scattered).map (fun g => (g.ids, g.connections.length, g.declaredEntries, g.imports)) =
      .ok (["a", "b"], 1, ["a", "a"], ["p"]) := by cbv
  obtain ⟨g, hparse, hg⟩ := Except.map_eq_ok_iff.1 hread
  obtain ⟨tokens, htokens, hwritten, hkeeps⟩ := parse_keeps_declarations hparse
  exact ⟨g, tokens, hparse, hg, htokens, hwritten, hkeeps⟩

/-- A node with two literals for one port. -/
def reassigned : String := "-- graph\nnodes \x7b a: p.T \x7b x = 1 x = 2 \x7d \x7d\n--"

/-- The node that the text declares. -/
def reassignedNode : WrittenNode := ⟨"a", "p", "T", some [("x", .integer 1), ("x", .integer 2)]⟩

/-- The tokens between the word of the section and its closing marker. -/
def reassignedBody : List Token :=
  [⟨.identifier "nodes", ⟨2, 1⟩, "nodes"⟩, ⟨.openBrace, ⟨2, 7⟩, "\x7b"⟩, ⟨.identifier "a", ⟨2, 9⟩, "a"⟩,
    ⟨.colon, ⟨2, 10⟩, ":"⟩, ⟨.identifier "p", ⟨2, 12⟩, "p"⟩, ⟨.dot, ⟨2, 13⟩, "."⟩, ⟨.identifier "T", ⟨2, 14⟩, "T"⟩,
    ⟨.openBrace, ⟨2, 16⟩, "\x7b"⟩, ⟨.identifier "x", ⟨2, 18⟩, "x"⟩, ⟨.equals, ⟨2, 20⟩, "="⟩,
    ⟨.integer 1, ⟨2, 22⟩, "1"⟩, ⟨.identifier "x", ⟨2, 24⟩, "x"⟩, ⟨.equals, ⟨2, 26⟩, "="⟩,
    ⟨.integer 2, ⟨2, 28⟩, "2"⟩, ⟨.closeBrace, ⟨2, 30⟩, "\x7d"⟩, ⟨.closeBrace, ⟨2, 32⟩, "\x7d"⟩]

/-- The text is read, and the first literal is lost. -/
theorem reassigned_incomplete :
    ∃ tokens g, tokenize .weave reassigned = .ok tokens ∧
      Derives tokens [.graph none [.nodes [reassignedNode]]] ∧ parse reassigned = .ok g ∧
      g.nodes.entries = [reassignedNode.entry] ∧ reassignedNode.node.parameters.entries = [("x", .int 2)] ∧
      ¬ reassignedNode.Complete reassignedNode.node.parameters := by
  have htokens : tokenize .weave reassigned = .ok (⟨.marker, ⟨1, 1⟩, "--"⟩ :: ⟨.identifier "graph", ⟨1, 4⟩, "graph"⟩ ::
      (reassignedBody ++ [⟨.marker, ⟨3, 1⟩, "--"⟩])) := by cbv
  have hname : ∀ name more, ¬ NamedOnLine 1 name reassignedBody more := by
    rintro name more ⟨t, ht, -, hline⟩
    cases ht
    cases hline
  have hderives : Derives (⟨.marker, ⟨1, 1⟩, "--"⟩ :: ⟨.identifier "graph", ⟨1, 4⟩, "graph"⟩ ::
      (reassignedBody ++ [⟨.marker, ⟨3, 1⟩, "--"⟩])) [.graph none [.nodes [reassignedNode]]] := {
    sections := ⟨[], ⟨_, _, reassignedBody, _, rfl, rfl, rfl, rfl, ⟨rfl, hname⟩, rfl⟩, rfl⟩
    words := List.nodup_singleton _
    graph := List.mem_cons_self
    imports := by simp
    ids := List.nodup_singleton _ }
  refine ⟨_, _, htokens, hderives, (parse_eq_ok_iff htokens).2 ⟨_, hderives, rfl⟩, hderives.entries, rfl, ?_⟩
  intro hcomplete
  have hconsistent := (kept_entry reassignedNode).complete_iff.1 hcomplete
  have hlost := hconsistent ("x", .integer 1) (by simp [reassignedNode, WrittenNode.parameters])
    ("x", .integer 2) (by simp [reassignedNode, WrittenNode.parameters]) rfl
  cases hlost

end Dataflow.Graph
