import Dataflow.Manifest.Printer
import Dataflow.Proofs.Manifest.Grammar
import Dataflow.Proofs.Token.Lexing
/-!
# Manifests that are printed

The text that is printed for a plugin is a manifest that says what the plugin declares. Each part of
the text is the tokens of a part of the grammar (`lexes_pairs` to `lexes_node`), so the whole has a
derivation, and what is read from it is what was printed.
-/

namespace Dataflow

open Lexeme (isName)

/-! ## What can be printed -/

/-- The text is `Name` or `plugin.Name`. -/
def IsTypeName (s : String) : Prop :=
  isName s = true ∨ ∃ plugin name, isName plugin = true ∧ isName name = true ∧ s = plugin ++ "." ++ name

/-- The keys are identifiers and the values names of types. -/
def OrderedMap.Printable (m : OrderedMap String) : Prop := ∀ e ∈ m.entries, isName e.1 = true ∧ IsTypeName e.2

structure TypeDeclaration.Printable (t : TypeDeclaration) : Prop where
  name : isName t.name = true
  fields : ∀ fields, t.fields? = some fields → fields.Printable

structure NodeDeclaration.Printable (n : NodeDeclaration) : Prop where
  name : isName n.name = true
  description : ∀ description, n.description? = some description → '\n' ∉ description.toList
  inputs : n.inputs.Printable
  outputs : n.outputs.Printable

/-- Every name is one that the token grammar knows, and what stands in a comment is one line. -/
structure PluginDeclaration.Printable (p : PluginDeclaration) : Prop where
  name : '\n' ∉ p.name.toList
  version : '\n' ∉ p.version.toList
  description : '\n' ∉ p.description.toList
  types : ∀ t ∈ p.types.values, t.Printable
  nodes : ∀ n ∈ p.nodes.values, n.Printable

/-- The declarations that are put together type by type and node by node. -/
inductive PluginDeclaration.Built : PluginDeclaration → Prop
  | named (name version description : String) : Built (.named name version description)
  | withType {p : PluginDeclaration} (h : Built p) (t : TypeDeclaration) : Built (p.withType t)
  | withNode {p : PluginDeclaration} (h : Built p) (n : NodeDeclaration) : Built (p.withNode n)

/-- What the text of the manifest says: bases and rules of types, versions and descriptions are left out. -/
def PluginDeclaration.manifest (p : PluginDeclaration) : Manifest where
  types := p.types.values.map fun t => ⟨t.name, t.fields?⟩
  nodes := p.nodes.values.map fun n => ⟨n.name, n.mode, n.inputs, n.outputs⟩

/-- If everything stands under its own name, names are distinct. -/
theorem OrderedMap.nodup_map_values {α : Type} {m : OrderedMap α} {name : α → String}
    (h : ∀ e ∈ m.entries, name e.2 = e.1) :
    (m.values.map name).Nodup := by
  have hkeys : m.values.map name = m.entries.map Prod.fst := by
    rw [OrderedMap.values, List.map_map]
    exact List.map_congr_left h
  rw [hkeys]
  exact m.nodup

/-- Types and nodes stand under their own names. -/
theorem PluginDeclaration.Built.keyed {p : PluginDeclaration} (h : p.Built) :
    (∀ e ∈ p.types.entries, e.2.name = e.1) ∧ ∀ e ∈ p.nodes.entries, e.2.name = e.1 := by
  induction h with
  | named => exact ⟨nofun, nofun⟩
  | withType _ t ih =>
    refine ⟨fun e he => ?_, ih.2⟩
    rcases mem_putEntry he with rfl | he
    · rfl
    · exact ih.1 e he
  | withNode _ n ih =>
    refine ⟨ih.1, fun e he => ?_⟩
    rcases mem_putEntry he with rfl | he
    · rfl
    · exact ih.2 e he

namespace Manifest

/-! ## What each part is the text of -/

theorem lexes_typeName {s : String} (hs : IsTypeName s) :
    ∃ t : TypeName, t.text = s ∧ Lexes (s.toList ++ ['\n']) t.kinds := by
  have ⟨hspace, hline, hdot⟩ := Text.not_extendsIdentifier_blank
  rcases hs with hs | ⟨plugin, name, hplugin, hname, rfl⟩
  · exact ⟨.bare s, rfl, lexes_identifier hs hline lexes_newline⟩
  · have h := lexes_identifier hplugin hdot (lexes_dot.append (lexes_identifier hname hline lexes_newline))
    exact ⟨.qualified plugin name, rfl, by simpa [TypeName.kinds] using h⟩

/-- The pairs of a map are distinct and make that map. -/
theorem map_of_entries {ps : List Pair} {m : OrderedMap String} (h : ps.map Pair.entry = m.entries) :
    Pair.Distinct ps ∧ Pair.map ps = m := by
  have hdistinct : Pair.Distinct ps := by
    have hkeys : ps.map Prod.fst = m.entries.map Prod.fst := by rw [← h, List.map_map]; rfl
    rw [Pair.Distinct, hkeys]
    exact m.nodup
  exact ⟨hdistinct, OrderedMap.ext ((entries_map hdistinct).trans h)⟩

theorem lexes_pairs (level : Nat) {m : OrderedMap String} (h : m.Printable) :
    ∃ ps : List Pair, Pair.Distinct ps ∧ Pair.map ps = m ∧
      Lexes (pairLines level m).toList (ps.flatMap Pair.kinds) := by
  have ⟨hspace, _⟩ := Text.not_extendsIdentifier_blank
  let indent := List.replicate (4 * level) ' '
  have hlines : ∀ e ∈ m.entries, ∃ p : Pair, True ∧ p.entry = e ∧
      Lexes (indent ++ (e.1.toList ++ ' ' :: (e.2.toList ++ ['\n']))) p.kinds := by
    rintro ⟨name, type⟩ he
    obtain ⟨hname, htype⟩ := h _ he
    obtain ⟨t, rfl, ht⟩ := lexes_typeName htype
    have hindent : Lexes indent [] := lexes_spaces _
    exact ⟨(name, t), trivial, rfl, hindent.append (lexes_identifier hname hspace (lexes_space.append ht))⟩
  obtain ⟨ps, -, hps, hlexes⟩ := lexes_flatMap id hlines
  obtain ⟨hdistinct, hmap⟩ := map_of_entries (hps.trans (List.map_id _))
  refine ⟨ps, hdistinct, hmap, ?_⟩
  simpa [pairLines, String.toList_join, List.flatMap_map, indent] using hlexes

theorem lexes_type {t : TypeDeclaration} (h : t.Printable) :
    ∃ w : WrittenType, w.Proper ∧ w.type = ⟨t.name, t.fields?⟩ ∧ Lexes t.manifestText.toList w.kinds := by
  have ⟨hspace, hline, _⟩ := Text.not_extendsIdentifier_blank
  unfold TypeDeclaration.manifestText
  cases hf : t.fields? with
  | none => exact ⟨⟨t.name, none⟩, nofun, rfl,
      by simpa [hf, WrittenType.kinds, WrittenType.block] using lexes_identifier h.name hline lexes_newline⟩
  | some fields =>
    obtain ⟨ps, hdistinct, rfl, hps⟩ := lexes_pairs 1 (h.fields fields hf)
    have hbrace : Lexes [' ', '{', '\n'] [.openBrace] := (lexes_space.append lexes_openBrace).append lexes_newline
    have hclose : Lexes ['}', '\n'] [.closeBrace] := lexes_closeBrace.append lexes_newline
    have hall := lexes_identifier h.name hspace (hbrace.append (hps.append hclose))
    exact ⟨⟨t.name, some ps⟩, by rintro _ ⟨⟩; exact hdistinct, rfl, by
      simpa [hf, String.toList_append, WrittenType.kinds, WrittenType.block, Pair.block] using hall⟩

/-- The ports under a keyword are an attribute, or nothing where there are none. -/
theorem lexes_ports (keyword : String) (hkeyword : isName keyword = true) {m : OrderedMap String} (h : m.Printable)
    (make : List Pair → Attribute) (hkinds : ∀ ps, (make ps).kinds = .identifier keyword :: .openBrace :: Pair.block ps)
    (hproper : ∀ ps, (make ps).Proper ↔ Pair.Distinct ps) :
    ∃ attributes : List Attribute, (∀ a ∈ attributes, a.Proper) ∧
      Lexes (NodeDeclaration.portsText keyword m).toList (attributes.flatMap Attribute.kinds) ∧
      (attributes = [] ∧ ∅ = m ∨ ∃ ps, attributes = [make ps] ∧ Pair.map ps = m) := by
  have ⟨hspace, hline, _⟩ := Text.not_extendsIdentifier_blank
  unfold NodeDeclaration.portsText
  split
  · rename_i hempty
    exact ⟨[], nofun, lexes_nil, .inl ⟨rfl, OrderedMap.ext (List.isEmpty_iff.1 hempty).symm⟩⟩
  · obtain ⟨ps, hdistinct, rfl, hps⟩ := lexes_pairs 2 h
    have hindent : Lexes [' ', ' ', ' ', ' '] [] := lexes_spaces 4
    have hbrace : Lexes [' ', '{', '\n'] [.openBrace] := (lexes_space.append lexes_openBrace).append lexes_newline
    have hclose : Lexes ['}', '\n'] [.closeBrace] := lexes_closeBrace.append lexes_newline
    have hall := hindent.append (lexes_identifier hkeyword hspace (hbrace.append (hps.append (hindent.append hclose))))
    refine ⟨[make ps], by simpa [hproper] using hdistinct, ?_, .inr ⟨ps, rfl, rfl⟩⟩
    simpa [hkinds, Pair.block, String.toList_append] using hall

theorem lexes_commentLine {text : String} (h : '\n' ∉ text.toList) : Lexes (commentLine text).toList [] := by
  have hcomment : Lexes ('/' :: '/' :: (' ' :: text.toList) ++ ['\n']) [] := lexes_comment (by simpa using h)
  simpa [commentLine, String.toList_append] using hcomment

/-- The description of a node is a comment. -/
theorem toList_manifestText {n : NodeDeclaration} (h : n.Printable) :
    ∃ comment, Lexes comment [] ∧ n.manifestText.toList = comment ++ (n.name.toList ++ (" \x7b\n    mode ".toList ++
      (n.mode.name.toList ++ '\n' :: ((NodeDeclaration.portsText "in" n.inputs).toList ++
        ((NodeDeclaration.portsText "out" n.outputs).toList ++ ['}', '\n']))))) := by
  unfold NodeDeclaration.manifestText
  cases hd : n.description? with
  | none => exact ⟨[], lexes_nil, by simp [String.toList_append]⟩
  | some description => exact ⟨_, lexes_commentLine (h.description description hd), by simp [String.toList_append]⟩

theorem isName_mode (m : NodeMode) : isName m.name = true := by cases m <;> decide +kernel

theorem lexes_node {n : NodeDeclaration} (h : n.Printable) :
    ∃ w : WrittenNode, w.Proper ∧ w.node = ⟨n.name, n.mode, n.inputs, n.outputs⟩ ∧
      Lexes n.manifestText.toList w.kinds := by
  have ⟨hspace, hline, _⟩ := Text.not_extendsIdentifier_blank
  obtain ⟨ins, hins, hlexin, hin⟩ := lexes_ports "in" (by decide +kernel) h.inputs .inputs (fun _ => rfl) fun _ => .rfl
  obtain ⟨outs, houts, hlexout, hout⟩ := lexes_ports "out" (by decide +kernel) h.outputs .outputs
    (fun _ => rfl) fun _ => .rfl
  obtain ⟨comment, hcomment, htext⟩ := toList_manifestText h
  have hindent : Lexes ['\n', ' ', ' ', ' ', ' '] [] := lexes_newline.append (lexes_spaces 4)
  have hopen : Lexes [' ', '{', '\n', ' ', ' ', ' ', ' '] [.openBrace] :=
    (lexes_space.append lexes_openBrace).append hindent
  have hword : isName "mode" = true := by decide +kernel
  have hmode := lexes_identifier hword hspace
    (lexes_space.append (lexes_identifier (isName_mode n.mode) hline lexes_newline))
  have hclose : Lexes ['}', '\n'] [.closeBrace] := lexes_closeBrace.append lexes_newline
  have hall := hcomment.append (lexes_identifier h.name hspace
    (hopen.append (hmode.append (hlexin.append (hlexout.append hclose)))))
  refine ⟨⟨n.name, .mode n.mode :: (ins ++ outs)⟩, ?_, ?_, ?_⟩
  · rintro a (_ | ⟨_, ha⟩)
    · trivial
    · exact (List.mem_append.1 ha).elim (hins a) (houts a)
  · rcases hin with ⟨rfl, hin⟩ | ⟨ps, rfl, hin⟩ <;> rcases hout with ⟨rfl, hout⟩ | ⟨qs, rfl, hout⟩ <;>
      rw [← hin, ← hout] <;> rfl
  · rw [htext]
    simpa [WrittenNode.kinds, Attribute.kinds, Attribute.word, Attribute.body] using hall

theorem isName_word (s : Section) : isName s.word = true := by
  cases s
  · exact (by decide +kernel : isName "types" = true)
  · exact (by decide +kernel : isName "nodes" = true)

/-- A section with its markers, up to the end of the closing one. -/
def sectionText (word : String) (body : List Char) : List Char :=
  "-- ".toList ++ (word.toList ++ '\n' :: (body ++ ['-', '-']))

/-- The marker and the word stand on one line, and the body and the closing marker follow. -/
theorem tokensFrom_section {s : Section} {body rest : List Char} (hbody : Lexes body s.kinds)
    {p : Position} {later : List Token}
    (h : tokensFrom .anima (p.advance (sectionText s.word body)) rest = .ok later) :
    ∃ ts, tokensFrom .anima p (sectionText s.word body ++ rest) = .ok ts ∧ sectionItems.Starts s ts later := by
  have ⟨_, hline, _⟩ := Text.not_extendsIdentifier_blank
  rw [sectionText, Position.advance_append, Position.advance_append] at h
  obtain ⟨ts, hk, ht⟩ := lexes_newline.append (hbody.append lexes_marker) .anima _ rest later h
  obtain ⟨tokens, last, rfl, htokens, hlast⟩ := List.map_eq_append_iff.1 (hk.trans (List.nil_append _))
  obtain ⟨closing, _, rfl, hclosing, hnil⟩ := List.map_eq_cons_iff.1 hlast
  obtain rfl := List.map_eq_nil_iff.1 hnil
  have hword := tokensFrom_identifier (isName_word s) hline ht
  have hspace := tokensFrom_read (l := .gap []) (c := ' ') (p := p.advance ['-', '-']) rfl hword
  have hmarker := tokensFrom_read (l := .spelled '-' ['-'] .marker) (c := '-') (p := p) rfl hspace
  refine ⟨_, ?_, ⟨.marker, p, "--"⟩, ⟨.identifier s.word, p.advance "-- ".toList, s.word⟩, tokens, closing,
    rfl, rfl, rfl, rfl,
    htokens, hclosing⟩
  simpa [sectionText, Lexeme.spelled, Lexeme.gap, Lexeme.tokens] using hmarker

theorem lexes_header {p : PluginDeclaration} (h : p.Printable) :
    Lexes (commentLine (p.name ++ " " ++ p.version) ++
      (if p.description.isEmpty then "" else commentLine p.description) ++
      "\n").toList [] := by
  have hfirst : Lexes (commentLine (p.name ++ " " ++ p.version)).toList [] :=
    lexes_commentLine (by simpa [String.toList_append] using ⟨h.name, h.version⟩)
  have hsecond : Lexes (if p.description.isEmpty then "" else commentLine p.description).toList [] := by
    split
    · exact lexes_nil
    · exact lexes_commentLine h.description
  simpa [String.toList_append] using (hfirst.append hsecond).append lexes_newline

/-- The text of a manifest is two sections, those of the types and of the nodes that are declared. -/
theorem tokenize_manifestText {p : PluginDeclaration} (h : p.Printable) :
    ∃ (types : List WrittenType) (nodes : List WrittenNode) (tokens : List Token),
      (∀ t ∈ types, t.Proper) ∧ (∀ n ∈ nodes, n.Proper) ∧ types.map WrittenType.type = p.manifest.types ∧
      nodes.map WrittenNode.node = p.manifest.nodes ∧ tokenize .anima p.manifestText = .ok tokens ∧
      sectionItems.Written [.types types, .nodes nodes] tokens := by
  obtain ⟨types, hproper, htypes, hlextypes⟩ := lexes_flatMap _ fun t ht => lexes_type (h.types t ht)
  obtain ⟨nodes, hproper', hnodes, hlexnodes⟩ := lexes_flatMap _ fun n hn => lexes_node (h.nodes n hn)
  -- From the end to the start, each piece is read in front of the tokens of those behind it.
  have hend : ∀ pos, tokensFrom .anima pos (['\n'] ++ []) = .ok [] := fun pos => lexes_newline.gap (by rw [tokensFrom])
  have hsecond := fun pos => tokensFrom_section (s := .nodes nodes) (p := pos) hlexnodes (hend _)
  obtain ⟨tokens', ht', hstarts'⟩ := hsecond _
  obtain ⟨tokens, ht, hstarts⟩ := tokensFrom_section (s := .types types) hlextypes
    ((lexes_newline.append lexes_newline).gap ht')
  refine ⟨types, nodes, tokens, hproper, hproper', htypes, hnodes, ?_, tokens', hstarts, [], hstarts', rfl⟩
  have hall := (lexes_header h).gap (p := .start) ht
  simpa [tokenize, PluginDeclaration.manifestText, sectionText, Section.word, String.toList_append,
    String.toList_join, List.flatMap_map]
    using hall

/-- The text that is printed has a derivation, and its sections make what was declared. -/
theorem derives_manifestText {p : PluginDeclaration} (hbuilt : p.Built) (h : p.Printable) :
    ∃ tokens written, tokenize .anima p.manifestText = .ok tokens ∧ Derives tokens written ∧
      p.manifest = ofSections written := by
  obtain ⟨types, nodes, tokens, htypes, hnodes, hsametypes, hsamenodes, htokens, hwritten⟩ := tokenize_manifestText h
  have hnames : (types.map WrittenType.name).Nodup := by
    have hmap : types.map WrittenType.name = p.types.values.map TypeDeclaration.name := by
      have := congrArg (List.map ManifestType.name) hsametypes
      simpa [PluginDeclaration.manifest, Function.comp_def, WrittenType.type] using this
    exact hmap ▸ OrderedMap.nodup_map_values hbuilt.keyed.1
  have hnames' : (nodes.map WrittenNode.name).Nodup := by
    have hmap : nodes.map WrittenNode.name = p.nodes.values.map NodeDeclaration.name := by
      have := congrArg (List.map ManifestNode.name) hsamenodes
      simpa [PluginDeclaration.manifest, Function.comp_def, node_name] using this
    exact hmap ▸ OrderedMap.nodup_map_values hbuilt.keyed.2
  refine ⟨tokens, _, htokens, ⟨hwritten, by simp [Section.word], ?_⟩, ?_⟩
  · simp only [List.forall_mem_cons, List.not_mem_nil, false_implies, implies_true, and_true]
    exact ⟨⟨htypes, hnames⟩, hnodes, hnames'⟩
  · exact congrArg₂ Manifest.mk hsametypes.symm hsamenodes.symm

/-- What is read from the text that is printed is what was declared, in the same order. -/
theorem parse_manifestText {p : PluginDeclaration} (hbuilt : p.Built) (h : p.Printable) :
    parse p.manifestText = .ok p.manifest := by
  obtain ⟨tokens, written, htokens, hderives, hmanifest⟩ := derives_manifestText hbuilt h
  exact (parse_eq_ok_iff htokens).2 ⟨written, hderives, hmanifest⟩

/-- A plugin whose names are words of the format, with a type without fields and a node without inputs. -/
def wordy : PluginDeclaration :=
  (((PluginDeclaration.named "wordy" "1" "-- nodes").withType ⟨"in", .composite ∅⟩).withType
    ⟨"types", .composite (OrderedMap.empty.insert "mode" "p.Sequential")⟩).withNode
      (((NodeDeclaration.named "nodes").output "out" "in").described "-- \x7b")

theorem wordy_read_back : wordy.Built ∧ wordy.Printable ∧ parse wordy.manifestText = .ok wordy.manifest := by
  have hbuilt : wordy.Built := .withNode (.withType (.withType (.named _ _ _) _) _) _
  have hprintable : wordy.Printable := by
    refine ⟨by decide, by decide, by decide, ?_, ?_⟩
    · rintro t (_ | ⟨_, _ | ⟨_, ⟨⟩⟩⟩)
      · exact ⟨by decide +kernel, by rintro _ ⟨⟩; exact nofun⟩
      · refine ⟨by decide +kernel, ?_⟩
        rintro _ ⟨⟩ e (_ | ⟨_, ⟨⟩⟩)
        exact ⟨by decide +kernel, .inr ⟨"p", "Sequential", by decide +kernel, by decide +kernel, rfl⟩⟩
    · rintro n (_ | ⟨_, ⟨⟩⟩)
      refine ⟨by decide +kernel, by rintro _ ⟨⟩; decide, nofun, ?_⟩
      rintro e (_ | ⟨_, ⟨⟩⟩)
      exact ⟨by decide +kernel, .inl (by decide +kernel)⟩
  exact ⟨hbuilt, hprintable, parse_manifestText hbuilt hprintable⟩

end Manifest

end Dataflow
