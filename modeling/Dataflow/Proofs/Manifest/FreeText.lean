import Dataflow.Proofs.Manifest.Layout
import Dataflow.Proofs.Manifest.Printing
import Dataflow.Proofs.Token.Lines
/-!
# Free text in manifests

Name, version and descriptions of a plugin are free text, printed as comments. A comment ends with its
line, so the lines after the first one are lines of the manifest (`furtherLines`). What is read from a
manifest depends on free text by these lines alone (`parse_bareText`): plugins that declare the same and
have the same further lines are read alike, and a plugin without any as what it declares.
-/

namespace Dataflow

/-- The lines of a text after the first one. -/
def furtherLines (text : String) : List Char :=
  match text.toList.dropWhile (· ≠ '\n') with
  | [] => []
  | _ :: more => more ++ ['\n']

theorem furtherLines_eq_nil {text : String} (h : '\n' ∉ text.toList) : furtherLines text = [] := by
  have hnone : text.toList.dropWhile (· ≠ '\n') = [] := by
    rw [List.dropWhile_eq_nil_iff]
    intro c hc
    exact decide_eq_true fun hline => h (hline ▸ hc)
  rw [furtherLines, hnone]

theorem furtherLines_of_break {text : String} {first more : List Char} (hfirst : '\n' ∉ first)
    (htext : text.toList = first ++ '\n' :: more) : furtherLines text = more ++ ['\n'] := by
  have hdrop : text.toList.dropWhile (· ≠ '\n') = '\n' :: more := by
    rw [htext, List.dropWhile_append_of_pos, List.dropWhile_cons_of_neg]
    · decide
    · intro c hc
      exact decide_eq_true fun hline => hfirst (hline ▸ hc)
  rw [furtherLines, hdrop]

/-- A comment on one line has no tokens. -/
theorem interchangeable_comment {first : List Char} (h : '\n' ∉ first) :
    Interchangeable ('/' :: '/' :: first ++ ['\n']) [] where
  whole := wholeLines_concat _
  whole' := wholeLines_nil
  agree language p p' := by
    have hnone : tokensFrom language (p.advance ('/' :: '/' :: first ++ ['\n'])) [] = .ok [] := by rw [tokensFrom]
    have htokens := (lexes_comment h).gap hnone
    rw [List.append_nil] at htokens
    rw [htokens, tokensFrom]
    exact .nil

/-- A comment is over at the end of its first line. -/
theorem interchangeable_commentLine (text : String) :
    Interchangeable (commentLine text).toList (furtherLines text) := by
  have hlist : (commentLine text).toList = '/' :: '/' :: (' ' :: text.toList) ++ ['\n'] := by
    simp [commentLine, String.toList_append]
  rw [hlist]
  by_cases hbreak : '\n' ∈ text.toList
  · obtain ⟨first, more, htext, hfirst⟩ := List.eq_append_cons_of_mem hbreak
    have hline : Interchangeable ('/' :: '/' :: (' ' :: first) ++ ['\n']) [] :=
      interchangeable_comment (by simpa using hfirst)
    have h := hline.append (wholeLines_concat more).interchangeable
    rw [furtherLines_of_break hfirst htext, htext]
    simpa using h
  · rw [furtherLines_eq_nil hbreak]
    exact interchangeable_comment (by simpa using hbreak)

/-! ## Declarations -/

namespace NodeDeclaration

/-- The node without its description. -/
def undescribed (n : NodeDeclaration) : NodeDeclaration := { n with description? := none }

/-- The lines of the description after the first one. -/
def furtherLines (n : NodeDeclaration) : List Char := n.description?.elim [] Dataflow.furtherLines

/-- The text of the node with the further lines of its description in place of the comment. -/
def bareText (n : NodeDeclaration) : List Char := n.furtherLines ++ n.undescribed.manifestText.toList

theorem wholeLines_undescribed (n : NodeDeclaration) : WholeLines n.undescribed.manifestText.toList := by
  refine .inr ⟨(n.name ++ " \x7b\n" ++ "    mode " ++ n.mode.name ++ "\n" ++ portsText "in" n.inputs ++
    portsText "out" n.outputs ++ "\x7d").toList, ?_⟩
  simp [manifestText, undescribed, String.toList_append]

theorem interchangeable_bareText (n : NodeDeclaration) : Interchangeable n.manifestText.toList n.bareText := by
  have hsplit : n.manifestText.toList =
      n.description?.elim [] (fun d => (commentLine d).toList) ++ n.undescribed.manifestText.toList := by
    unfold manifestText undescribed
    cases n.description? <;> simp [String.toList_append]
  rw [hsplit]
  refine .append ?_ n.wholeLines_undescribed.interchangeable
  unfold furtherLines
  cases n.description? with
  | none => exact wholeLines_nil.interchangeable
  | some description => exact interchangeable_commentLine description

end NodeDeclaration

namespace PluginDeclaration

/-- What stands on the first line of the manifest. -/
def title (p : PluginDeclaration) : String := p.name ++ " " ++ p.version

/-- What stands between the free text of the plugin and its nodes. -/
def typesText (p : PluginDeclaration) : String :=
  "\n-- types\n" ++ String.join (p.types.values.map TypeDeclaration.manifestText) ++ "--\n\n-- nodes\n"

/-- The manifest with the further lines of each free text in place of its comment. -/
def bareText (p : PluginDeclaration) : List Char :=
  furtherLines p.title ++ (furtherLines p.description ++ (p.typesText.toList ++
    (p.nodes.values.flatMap NodeDeclaration.bareText ++ "--\n".toList)))

theorem interchangeable_description (text : String) :
    Interchangeable (if text.isEmpty then "" else commentLine text).toList (furtherLines text) := by
  split
  · next hempty =>
    obtain rfl := String.isEmpty_iff.1 hempty
    exact wholeLines_nil.interchangeable
  · exact interchangeable_commentLine text

theorem wholeLines_typesText (p : PluginDeclaration) : WholeLines p.typesText.toList := by
  refine .inr ⟨("\n-- types\n" ++ String.join (p.types.values.map TypeDeclaration.manifestText) ++
    "--\n\n-- nodes").toList, ?_⟩
  simp [typesText, String.toList_append]

theorem interchangeable_bareText (p : PluginDeclaration) : Interchangeable p.manifestText.toList p.bareText := by
  have hsplit : p.manifestText.toList = (commentLine p.title).toList ++
      ((if p.description.isEmpty then "" else commentLine p.description).toList ++ (p.typesText.toList ++
        (p.nodes.values.flatMap (·.manifestText.toList) ++ "--\n".toList))) := by
    simp [manifestText, title, typesText, String.toList_append, String.toList_join, List.flatMap_map]
  have hend : WholeLines "--\n".toList := wholeLines_concat ['-', '-']
  rw [hsplit]
  exact (interchangeable_commentLine p.title).append <| (interchangeable_description p.description).append <|
    p.wholeLines_typesText.interchangeable.append <|
      (interchangeable_flatMap fun n _ => n.interchangeable_bareText).append hend.interchangeable

/-! ## Declarations that differ in free text -/

/-- All free text of a plugin. -/
def freeTexts (p : PluginDeclaration) : List String :=
  p.name :: p.version :: p.description :: p.nodes.values.filterMap (·.description?)

/-- The further lines of the title, of the description, and of the description of each node. -/
def furtherLines (p : PluginDeclaration) : List (List Char) :=
  Dataflow.furtherLines p.title :: Dataflow.furtherLines p.description ::
    p.nodes.values.map NodeDeclaration.furtherLines

/-- The same types and the same nodes, descriptions aside. -/
structure SameDeclarations (p q : PluginDeclaration) : Prop where
  types : p.types = q.types
  nodes : p.nodes.values.map NodeDeclaration.undescribed = q.nodes.values.map NodeDeclaration.undescribed

theorem SameDeclarations.bareText_eq {p q : PluginDeclaration} (h : p.SameDeclarations q)
    (hlines : p.furtherLines = q.furtherLines) : p.bareText = q.bareText := by
  obtain ⟨htitle, hrest⟩ := List.cons.inj hlines
  obtain ⟨hdescription, hnodes⟩ := List.cons.inj hrest
  -- Both parts of each node's text are the same.
  have hzip : ∀ p : PluginDeclaration, p.nodes.values.flatMap NodeDeclaration.bareText =
      ((p.nodes.values.map NodeDeclaration.furtherLines).zip (p.nodes.values.map NodeDeclaration.undescribed)).flatMap
        fun x => x.1 ++ x.2.manifestText.toList := by
    intro p
    rw [List.zip_map', List.flatMap_map]
    rfl
  rw [bareText, bareText, htitle, hdescription, typesText, typesText, h.types, hzip, hzip, hnodes, h.nodes]

theorem furtherLines_eq_of_oneLine {p : PluginDeclaration} (h : ∀ text ∈ p.freeTexts, '\n' ∉ text.toList) :
    p.furtherLines = [] :: [] :: List.replicate p.nodes.values.length [] := by
  simp only [freeTexts, List.forall_mem_cons, List.mem_filterMap] at h
  obtain ⟨hname, hversion, hdescription, hnodes⟩ := h
  have htitle : '\n' ∉ p.title.toList := by simp [title, String.toList_append, hname, hversion]
  have hmap : p.nodes.values.map NodeDeclaration.furtherLines = p.nodes.values.map fun _ => [] := by
    refine List.map_congr_left fun n hn => ?_
    unfold NodeDeclaration.furtherLines
    cases hd : n.description? with
    | none => rfl
    | some description => exact furtherLines_eq_nil (hnodes description ⟨n, hn, hd⟩)
  rw [furtherLines, furtherLines_eq_nil htitle, furtherLines_eq_nil hdescription, hmap, List.map_const']

theorem Printable.oneLine {p : PluginDeclaration} (h : p.Printable) : ∀ text ∈ p.freeTexts, '\n' ∉ text.toList := by
  simp only [freeTexts, List.forall_mem_cons, List.mem_filterMap]
  refine ⟨h.name, h.version, h.description, ?_⟩
  rintro description ⟨n, hn, hd⟩
  exact (h.nodes n hn).description description hd

end PluginDeclaration

namespace Manifest

theorem parse_of_interchangeable {source source' : String} (h : Interchangeable source.toList source'.toList) :
    (parse source).mapError ParseError.detail = (parse source').mapError ParseError.detail := by
  have herror : ∀ {source e}, tokenize .anima source = .error e → parse source = .error e := by
    intro source e he
    simp [parse, Parser.parse, Cursor.ofSource, he, Except.map]
  have hagree : AgreeOn Alike (tokenize .anima source) (tokenize .anima source') := h.agree .anima .start .start
  cases ht : tokenize .anima source <;> cases ht' : tokenize .anima source' <;> rw [ht, ht'] at hagree
  · rw [herror ht, herror ht']
    exact congrArg Except.error hagree
  · exact hagree.elim
  · exact hagree.elim
  · exact inStep_readManifest.parse ht ht' hagree

/-- Of free text, what is read from a manifest depends on the further lines alone. -/
theorem parse_bareText (p : PluginDeclaration) :
    (parse p.manifestText).mapError ParseError.detail = (parse (String.ofList p.bareText)).mapError ParseError.detail :=
  parse_of_interchangeable (by simpa using p.interchangeable_bareText)

/-- Plugins that declare the same, with the same further lines of free text, are read alike, up to the
places of errors. Without further lines what is read is what was declared, whatever the free text. -/
theorem free_text_acts_by_further_lines {p q : PluginDeclaration} (hsame : p.SameDeclarations q) :
    (p.furtherLines = q.furtherLines →
      (parse p.manifestText).mapError ParseError.detail = (parse q.manifestText).mapError ParseError.detail) ∧
    (p.Built → p.Printable → (∀ text ∈ q.freeTexts, '\n' ∉ text.toList) →
      parse p.manifestText = .ok p.manifest ∧ parse q.manifestText = .ok p.manifest) := by
  have halike : p.furtherLines = q.furtherLines →
      (parse p.manifestText).mapError ParseError.detail = (parse q.manifestText).mapError ParseError.detail := by
    intro hlines
    rw [parse_bareText p, parse_bareText q, hsame.bareText_eq hlines]
  refine ⟨halike, fun hbuilt hprintable hone => ?_⟩
  obtain ⟨tokens, written, htokens, hderives, hmanifest⟩ := derives_manifestText hbuilt hprintable
  have hread : parse p.manifestText = .ok p.manifest := (parse_eq_ok_iff htokens).2 ⟨written, hderives, hmanifest⟩
  have hlength : p.nodes.values.length = q.nodes.values.length := by
    simpa only [List.length_map] using congrArg List.length hsame.nodes
  have hlines : p.furtherLines = q.furtherLines := by
    rw [PluginDeclaration.furtherLines_eq_of_oneLine hprintable.oneLine,
      PluginDeclaration.furtherLines_eq_of_oneLine hone, hlength]
  refine ⟨hread, ?_⟩
  have hsame := halike hlines
  rw [hread] at hsame
  exact Except.mapError_eq_ok_iff.1 hsame.symm

/-- A plugin with a node, described in one line. -/
def shy : PluginDeclaration :=
  (PluginDeclaration.named "p" "1" "").withNode ((NodeDeclaration.named "N").described "x")

/-- The same node under other free text. -/
def loud : PluginDeclaration :=
  (PluginDeclaration.named "\x7b" "\"" "-- types").withNode ((NodeDeclaration.named "N").described "M \x7b \x7d // --")

/-- The same node again, and a line that declares another one in its description. -/
def sly : PluginDeclaration :=
  (PluginDeclaration.named "p" "1" "").withNode ((NodeDeclaration.named "N").described "x\nM \x7b\n\x7d")

theorem shy_built_printable : shy.Built ∧ shy.Printable := by
  refine ⟨.withNode (.named _ _ _) _, by decide, by decide, by decide, nofun, ?_⟩
  rintro n (_ | ⟨_, ⟨⟩⟩)
  exact ⟨by decide +kernel, by rintro _ ⟨⟩; decide, nofun, nofun⟩

theorem loud_read_like_shy :
    shy.SameDeclarations loud ∧ shy.furtherLines = loud.furtherLines ∧ shy.Built ∧ shy.Printable ∧
      (∀ text ∈ loud.freeTexts, '\n' ∉ text.toList) ∧
      (parse shy.manifestText).mapError ParseError.detail = (parse loud.manifestText).mapError ParseError.detail ∧
      parse shy.manifestText = .ok shy.manifest ∧ parse loud.manifestText = .ok shy.manifest := by
  have hsame : shy.SameDeclarations loud := ⟨rfl, rfl⟩
  have hlines : shy.furtherLines = loud.furtherLines := by decide
  have hone : ∀ text ∈ loud.freeTexts, '\n' ∉ text.toList := by decide
  obtain ⟨hbuilt, hprintable⟩ := shy_built_printable
  obtain ⟨halike, hread⟩ := free_text_acts_by_further_lines hsame
  exact ⟨hsame, hlines, hbuilt, hprintable, hone, halike hlines, hread hbuilt hprintable hone⟩

set_option maxRecDepth 2000 in
/-- The line of the description becomes a node of the manifest. -/
theorem sly_declares_more :
    shy.SameDeclarations sly ∧ shy.Built ∧ sly.Built ∧ shy.Printable ∧
      parse shy.manifestText = .ok shy.manifest ∧ shy.manifest.nodes.map ManifestNode.name = ["N"] ∧
      (parse sly.manifestText).map (·.nodes.map ManifestNode.name) = .ok ["M", "N"] ∧
      parse shy.manifestText ≠ parse sly.manifestText := by
  obtain ⟨hbuilt, hprintable⟩ := shy_built_printable
  obtain ⟨tokens, written, htokens, hderives, hmanifest⟩ := derives_manifestText hbuilt hprintable
  have hshy : parse shy.manifestText = .ok shy.manifest := (parse_eq_ok_iff htokens).2 ⟨written, hderives, hmanifest⟩
  have hsly : (parse sly.manifestText).map (·.nodes.map ManifestNode.name) = .ok ["M", "N"] := by cbv
  refine ⟨⟨rfl, rfl⟩, hbuilt, .withNode (.named _ _ _) _, hprintable, hshy, rfl, hsly, ?_⟩
  intro heq
  rw [← heq, hshy] at hsly
  exact absurd hsly (by decide)

end Manifest

end Dataflow
