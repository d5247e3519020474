import Dataflow.Proofs.Manifest.Grammar
/-!
# What manifests keep

A manifest that is read has a node for every node that its text declares. Of the `in` blocks of a node it
keeps the last one, and likewise of the `out` blocks (`Keeps`). So nothing is lost of a node with one block of
each, and of others what the last block does not repeat (`parse_keeps_ports`).
-/

namespace Dataflow.Manifest

/-- The nodes that the section declares. -/
def Section.declaredNodes (s : Section) : List WrittenNode := s.nodes?.getD []

namespace WrittenNode

/-- What stands in each of the `in` blocks. -/
def inputs (n : WrittenNode) : List (List Pair) := n.attributes.filterMap Attribute.inputs?

/-- What stands in each of the `out` blocks. -/
def outputs (n : WrittenNode) : List (List Pair) := n.attributes.filterMap Attribute.outputs?

end WrittenNode

section Blocks

variable {blocks : List (List Pair)} {ports : OrderedMap String}

/-- Every name that stands in one of the blocks has the type that stands there with it. -/
def Complete (blocks : List (List Pair)) (ports : OrderedMap String) : Prop :=
  ∀ block ∈ blocks, ∀ p ∈ block, ports.get? p.1 = some p.2.text

/-- The pairs of the last block. -/
def lastEntries (blocks : List (List Pair)) : List (String × String) := (blocks.getLast?.getD []).map Pair.entry

/-- The ports are those of the last block. -/
structure Keeps (blocks : List (List Pair)) (ports : OrderedMap String) : Prop where
  last : ports.entries = lastEntries blocks
  complete_iff : Complete blocks ports ↔ ∀ block ∈ blocks, ∀ p ∈ block, p.entry ∈ lastEntries blocks
  single : blocks.length ≤ 1 → Complete blocks ports

theorem mem_lastEntries_of_single (h : blocks.length ≤ 1) {block : List Pair} (hblock : block ∈ blocks) {p : Pair}
    (hp : p ∈ block) : p.entry ∈ lastEntries blocks := by
  match blocks, h with
  | [_], _ =>
    obtain rfl := List.mem_singleton.1 hblock
    exact List.mem_map_of_mem hp

theorem keeps_of_last (h : ports.entries = lastEntries blocks) : Keeps blocks ports := by
  have hcomplete : Complete blocks ports ↔ ∀ block ∈ blocks, ∀ p ∈ block, p.entry ∈ lastEntries blocks := by
    simp only [Complete, ← OrderedMap.mem_entries_iff, h]
    rfl
  exact ⟨h, hcomplete, fun hlength => hcomplete.2 fun _ hblock _ hp => mem_lastEntries_of_single hlength hblock hp⟩

/-- The blocks under one word of a node, of which the last one counts. -/
theorem keeps_foldl (ports : ManifestNode → OrderedMap String) {ports? : Attribute → Option (List Pair)}
    (hadd : ∀ n a, ports (attributeItems.add n a) = ((ports? a).map Pair.map).getD (ports n))
    (hproper : ∀ a ps, ports? a = some ps → a.Proper → Pair.Distinct ps) {init : ManifestNode} (hinit : ports init = ∅)
    {attributes : List Attribute} (h : ∀ a ∈ attributes, a.Proper) :
    Keeps (attributes.filterMap ports?) (ports (attributes.foldl attributeItems.add init)) := by
  apply keeps_of_last
  rw [attributeItems.foldl_sets_last hadd, ← List.map_filterMap, List.getLast?_map, hinit, lastEntries]
  cases hlast : (attributes.filterMap ports?).getLast? with
  | none => rfl
  | some ps =>
    obtain ⟨a, ha, hps⟩ := List.mem_filterMap.1 (List.mem_of_getLast? hlast)
    exact entries_map (hproper a ps hps (h a ha))

end Blocks

/-- The node of the manifest has the name of the written one and the ports of its last blocks. -/
structure WrittenNode.Kept (n : WrittenNode) (node : ManifestNode) : Prop where
  name : node.name = n.name
  inputs : Keeps n.inputs node.inputs
  outputs : Keeps n.outputs node.outputs

theorem kept_node {n : WrittenNode} (h : n.Proper) : n.Kept n.node where
  name := node_name n
  inputs := keeps_foldl ManifestNode.inputs (fun _ a => by cases a <;> rfl)
    (fun a ps hps hp => by cases a <;> cases hps; exact hp) rfl h
  outputs := keeps_foldl ManifestNode.outputs (fun _ a => by cases a <;> rfl)
    (fun a ps hps hp => by cases a <;> cases hps; exact hp) rfl h

theorem Derives.nodes {tokens : List Token} {written : List Section} (h : Derives tokens written) :
    (ofSections written).nodes = (written.flatMap Section.declaredNodes).map WrittenNode.node := by
  have hdeclared : written.flatMap Section.declaredNodes = (written.findSome? Section.nodes?).getD [] :=
    Parser.flatMap_getD_eq Section.nodes?_eq_none h.words
  rw [h.nodes_ofSections, hdeclared]
  cases written.findSome? Section.nodes? <;> rfl

/-- A manifest that is read has the nodes that its text declares, in their order. Each has the ports of the last
block of its text, so none is lost unless there are more blocks than one. -/
theorem parse_keeps_ports {source : String} {m : Manifest} (h : parse source = .ok m) :
    ∃ tokens, tokenize .anima source = .ok tokens ∧ (∃ written, Derives tokens written) ∧
      ∀ written, Derives tokens written →
        List.Forall₂ WrittenNode.Kept (written.flatMap Section.declaredNodes) m.nodes := by
  obtain ⟨tokens, htokens⟩ := Parser.tokenize_of_parse h
  refine ⟨tokens, htokens, ?_, ?_⟩
  · obtain ⟨written, hd, -⟩ := (parse_eq_ok_iff htokens).1 h
    exact ⟨written, hd⟩
  · intro written hd
    have h' : parse source = .ok (ofSections written) := (parse_eq_ok_iff htokens).2 ⟨written, hd, rfl⟩
    obtain rfl : m = ofSections written := Except.ok.inj (h.symm.trans h')
    rw [hd.nodes, List.forall₂_map_right_iff, List.forall₂_same]
    intro n hn
    obtain ⟨s, hs, hn⟩ := List.mem_flatMap.1 hn
    cases s with
    | types _ => cases hn
    | nodes nodes => exact kept_node ((hd.proper _ hs).1 n hn)

/-- A node with a block of each kind, and one without any. -/
def pump : String := "-- nodes Pump \x7b out \x7b flow Rate \x7d in \x7b power si.Watt speed Rate \x7d \x7d Idle \x7b \x7d --"

theorem pump_keeps_ports :
    ∃ m tokens, parse pump = .ok m ∧ m.nodes.map (·.inputs.entries) = [[("power", "si.Watt"), ("speed", "Rate")], []] ∧
      tokenize .anima pump = .ok tokens ∧ (∃ written, Derives tokens written) ∧
      ∀ written, Derives tokens written →
        List.Forall₂ WrittenNode.Kept (written.flatMap Section.declaredNodes) m.nodes := by
  have hread : (parse pump).map (fun m => m.nodes.map (·.inputs.entries)) =
      .ok [[("power", "si.Watt"), ("speed", "Rate")], []] := by cbv
  obtain ⟨m, hparse, hm⟩ := Except.map_eq_ok_iff.1 hread
  obtain ⟨tokens, htokens, hwritten, hkept⟩ := parse_keeps_ports hparse
  exact ⟨m, tokens, hparse, hm, htokens, hwritten, hkept⟩

/-- A node with two `in` blocks. -/
def twoInputs : String := "-- nodes N \x7b in \x7b a Int \x7d in \x7b b Int \x7d \x7d --"

/-- The node that the text declares. -/
def twoInputsNode : WrittenNode := ⟨"N", [.inputs [("a", .bare "Int")], .inputs [("b", .bare "Int")]]⟩

/-- The tokens between the word of the section and its closing marker. -/
def twoInputsBody : List Token :=
  [⟨.identifier "N", ⟨1, 10⟩, "N"⟩, ⟨.openBrace, ⟨1, 12⟩, "\x7b"⟩, ⟨.identifier "in", ⟨1, 14⟩, "in"⟩,
    ⟨.openBrace, ⟨1, 17⟩, "\x7b"⟩, ⟨.identifier "a", ⟨1, 19⟩, "a"⟩, ⟨.identifier "Int", ⟨1, 21⟩, "Int"⟩,
    ⟨.closeBrace, ⟨1, 25⟩, "\x7d"⟩, ⟨.identifier "in", ⟨1, 27⟩, "in"⟩, ⟨.openBrace, ⟨1, 30⟩, "\x7b"⟩,
    ⟨.identifier "b", ⟨1, 32⟩, "b"⟩, ⟨.identifier "Int", ⟨1, 34⟩, "Int"⟩, ⟨.closeBrace, ⟨1, 38⟩, "\x7d"⟩,
    ⟨.closeBrace, ⟨1, 40⟩, "\x7d"⟩]

/-- The text is read, and the port of the first block is lost. -/
theorem twoInputs_incomplete :
    ∃ tokens, ∃ node : ManifestNode, tokenize .anima twoInputs = .ok tokens ∧ Derives tokens [.nodes [twoInputsNode]] ∧
      parse twoInputs = .ok ⟨[], [node]⟩ ∧ node.inputs.entries = [("b", "Int")] ∧
      ¬ Complete twoInputsNode.inputs node.inputs := by
  have htokens : tokenize .anima twoInputs = .ok (⟨.marker, ⟨1, 1⟩, "--"⟩ :: ⟨.identifier "nodes", ⟨1, 4⟩, "nodes"⟩ ::
      (twoInputsBody ++ [⟨.marker, ⟨1, 42⟩, "--"⟩])) := by cbv
  have hproper : ∀ a ∈ twoInputsNode.attributes, a.Proper := by
    simp [twoInputsNode, Attribute.Proper, Pair.Distinct]
  have hderives : Derives (⟨.marker, ⟨1, 1⟩, "--"⟩ :: ⟨.identifier "nodes", ⟨1, 4⟩, "nodes"⟩ ::
      (twoInputsBody ++ [⟨.marker, ⟨1, 42⟩, "--"⟩])) [.nodes [twoInputsNode]] := {
    sections := ⟨[], ⟨_, _, twoInputsBody, _, rfl, rfl, rfl, rfl, rfl, rfl⟩, rfl⟩
    words := List.nodup_singleton _
    proper := by simpa [Section.Proper, WrittenNode.Proper] using hproper }
  refine ⟨_, twoInputsNode.node, htokens, hderives, (parse_eq_ok_iff htokens).2 ⟨_, hderives, rfl⟩, by decide, ?_⟩
  intro hcomplete
  have hlost := hcomplete [("a", .bare "Int")] List.mem_cons_self ("a", .bare "Int") List.mem_cons_self
  exact absurd hlost (by decide)

end Dataflow.Manifest
