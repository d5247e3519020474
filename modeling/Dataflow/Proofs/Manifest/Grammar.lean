import Dataflow.Except
import Dataflow.Manifest.Parser
import Dataflow.Proofs.Token.Recognition
import Mathlib
/-!
# The grammar of manifests

What a manifest says is a list of sections, kept here as data: `Section`, `WrittenType`,
`WrittenNode`, `Attribute`, `TypeName`. Each of them has the kinds of tokens that it is written with,
and `Derives` says that the tokens of a text are written for such a list.

No token separates two pairs of a name and a type, or two types. What is read is nevertheless what
was written: a name goes on with a dot or an opening brace wherever it can, and no other name starts
with either (`Items.next?`).
-/

namespace Dataflow.Manifest

open Dataflow.Parser

/-! ## What a manifest says -/

/-- The name of a type, `Name` or `plugin.Name`. -/
inductive TypeName where
  | bare (name : String)
  | qualified (plugin name : String)

namespace TypeName

def kinds : TypeName → List TokenKind
  | .bare name => [.identifier name]
  | .qualified plugin name => [.identifier plugin, .dot, .identifier name]

/-- The name as manifests keep it. -/
def text : TypeName → String
  | .bare name => name
  | .qualified plugin name => s!"{plugin}.{name}"

/-- A bare name would go on with a dot. -/
def next? : TypeName → Option TokenKind
  | .bare _ => some .dot
  | .qualified _ _ => none

end TypeName

/-- A field or a port: its name and the name of its type. -/
abbrev Pair : Type := String × TypeName

namespace Pair

def kinds (p : Pair) : List TokenKind := .identifier p.1 :: p.2.kinds

/-- The pair as manifests keep it. -/
def entry (p : Pair) : String × String := (p.1, p.2.text)

/-- What stands behind the opening brace of a list of pairs. -/
def block (ps : List Pair) : List TokenKind := ps.flatMap kinds ++ [.closeBrace]

/-- The map that the parser makes of the pairs. -/
def map (ps : List Pair) : OrderedMap String := .ofList (ps.map entry)

/-- The names are distinct. -/
def Distinct (ps : List Pair) : Prop := (ps.map Prod.fst).Nodup

end Pair

/-- A type, maybe with fields in braces. -/
structure WrittenType where
  name : String
  fields? : Option (List Pair)

namespace WrittenType

def block (t : WrittenType) : List TokenKind :=
  match t.fields? with
  | none => []
  | some fields => .openBrace :: Pair.block fields

def kinds (t : WrittenType) : List TokenKind := .identifier t.name :: t.block

def type (t : WrittenType) : ManifestType := ⟨t.name, t.fields?.map Pair.map⟩

/-- Its fields have distinct names. -/
def Proper (t : WrittenType) : Prop := ∀ fields, t.fields? = some fields → Pair.Distinct fields

end WrittenType

/-- An attribute of a node. -/
inductive Attribute where
  | mode (m : NodeMode)
  | inputs (ports : List Pair)
  | outputs (ports : List Pair)

namespace Attribute

def word : Attribute → String
  | .mode _ => "mode"
  | .inputs _ => "in"
  | .outputs _ => "out"

/-- What follows the word. -/
def body : Attribute → List TokenKind
  | .mode m => [.identifier m.name]
  | .inputs ports | .outputs ports => .openBrace :: Pair.block ports

def kinds (a : Attribute) : List TokenKind := .identifier a.word :: a.body

def mode? : Attribute → Option NodeMode
  | .mode m => some m
  | _ => none

def inputs? : Attribute → Option (List Pair)
  | .inputs ports => some ports
  | _ => none

def outputs? : Attribute → Option (List Pair)
  | .outputs ports => some ports
  | _ => none

/-- Its ports have distinct names. -/
def Proper : Attribute → Prop
  | .mode _ => True
  | .inputs ports | .outputs ports => Pair.Distinct ports

end Attribute

/-- A node with its attributes. -/
structure WrittenNode where
  name : String
  attributes : List Attribute

namespace WrittenNode

def kinds (n : WrittenNode) : List TokenKind :=
  .identifier n.name :: .openBrace :: (n.attributes.flatMap Attribute.kinds ++ [.closeBrace])

/-- The ports of each of its attributes have distinct names. -/
def Proper (n : WrittenNode) : Prop := ∀ a ∈ n.attributes, a.Proper

end WrittenNode

/-- A section of a manifest. -/
inductive Section where
  | types (written : List WrittenType)
  | nodes (written : List WrittenNode)

namespace Section

def word : Section → String
  | .types _ => "types"
  | .nodes _ => "nodes"

def types? : Section → Option (List WrittenType)
  | .types written => some written
  | .nodes _ => none

def nodes? : Section → Option (List WrittenNode)
  | .types _ => none
  | .nodes written => some written

/-- The tokens between the word of the section and its closing marker. -/
def kinds : Section → List TokenKind
  | .types written => written.flatMap WrittenType.kinds
  | .nodes written => written.flatMap WrittenNode.kinds

/-- What it declares has distinct names, and so has everything in it. -/
def Proper : Section → Prop
  | .types written => (∀ t ∈ written, t.Proper) ∧ (written.map WrittenType.name).Nodup
  | .nodes written => (∀ n ∈ written, n.Proper) ∧ (written.map WrittenNode.name).Nodup

end Section

/-! ## How it is taken in -/

def pairItems : Items (OrderedMap String) Pair where
  fits m p := p.1 ∉ m.keys
  add m p := m.insert p.1 p.2.text
  kinds := Pair.kinds
  next? p := p.2.next?
  starts p := ⟨_, _, rfl⟩
  next p kind h := by cases hp : p.2 <;> simp_all [TypeName.next?]

/-- A type without fields would go on with an opening brace. -/
def typeItems : Items (List ManifestType) WrittenType where
  fits types t := t.Proper ∧ t.name ∉ types.map ManifestType.name
  add types t := types ++ [t.type]
  kinds := WrittenType.kinds
  next? t := if t.fields?.isNone then some .openBrace else none
  starts _ := ⟨_, _, rfl⟩
  next _ _ h := by simp_all

def attributeItems : Items ManifestNode Attribute where
  fits _ a := a.Proper
  add n
    | .mode mode => { n with mode }
    | .inputs ports => { n with inputs := Pair.map ports }
    | .outputs ports => { n with outputs := Pair.map ports }
  kinds := Attribute.kinds
  next? _ := none
  starts _ := ⟨_, _, rfl⟩
  next _ _ h := nomatch h

/-- The node that the parser makes of it. -/
def WrittenNode.node (n : WrittenNode) : ManifestNode :=
  n.attributes.foldl attributeItems.add ⟨n.name, .concurrent, ∅, ∅⟩

def nodeItems : Items (List ManifestNode) WrittenNode where
  fits nodes n := n.Proper ∧ n.name ∉ nodes.map ManifestNode.name
  add nodes n := nodes ++ [n.node]
  kinds := WrittenNode.kinds
  next? _ := none
  starts _ := ⟨_, _, rfl⟩
  next _ _ h := nomatch h

def sectionItems : Sections Manifest Section where
  fits _ s := s.Proper
  add m
    | .types written => { m with types := written.map WrittenType.type }
    | .nodes written => { m with nodes := written.map WrittenNode.node }
  word := Section.word
  Body s _ ts := ts.map Token.kind = s.kinds

/-! ## What each reader reads -/

theorem reads_typeName (context : String) :
    Reads (typeName context) fun ts name rest => ∃ t : TypeName, Spells t.kinds ts rest ∧
      (∀ kind, t.next? = some kind → ¬ StartsWith kind rest) ∧ name = t.text := by
  refine ((reads_identifier _).bind fun first => reads_eat_then .dot ((reads_identifier _).bind fun second =>
    reads_pure s!"{first}.{second}") (reads_pure first)).congr fun ts name rest => ?_
  constructor
  · rintro ⟨first, mid, hfirst, ⟨mid', hdot, second, _, hsecond, rfl, rfl⟩ | ⟨hno, rfl, rfl⟩⟩
    · exact ⟨.qualified first second, spells_first.2 ⟨_, hfirst, spells_first.2 ⟨_, hdot, hsecond⟩⟩, nofun, rfl⟩
    · exact ⟨.bare _, hfirst, by rintro _ ⟨⟩; exact hno, rfl⟩
  · rintro ⟨⟨name⟩ | ⟨plugin, name⟩, ht, hnext, rfl⟩
    · exact ⟨name, _, ht, .inr ⟨hnext _ rfl, rfl, rfl⟩⟩
    · obtain ⟨mid, hfirst, ht⟩ := spells_first.1 ht
      obtain ⟨mid', hdot, hsecond⟩ := spells_first.1 ht
      exact ⟨plugin, mid, hfirst, .inl ⟨mid', hdot, name, _, hsecond, rfl, rfl⟩⟩

theorem reads_readPair (what : String) (m : OrderedMap String) : Reads (readPair what m) (pairItems.One m) := by
  refine (reads_identifierToken_then _ fun name token => (reads_typeName _).bind fun type =>
    reads_unless (reads_failAt _ _) (reads_pure (m.insert name type))).congr fun ts m' rest => ?_
  constructor
  · rintro ⟨name, mid, hname, _, _, ⟨t, ht, hnext, rfl⟩, hknown, rfl, rfl⟩
    exact ⟨(name, t), spells_first.2 ⟨_, hname, ht⟩, hnext, fun h => hknown (OrderedMap.contains_iff.2 h), rfl⟩
  · rintro ⟨⟨name, t⟩, hp, hnext, hfits, rfl⟩
    obtain ⟨mid, hname, ht⟩ := spells_first.1 hp
    exact ⟨name, mid, hname, _, _, ⟨t, ht, hnext, rfl⟩, fun h => hfits (OrderedMap.contains_iff.1 h), rfl, rfl⟩

theorem fit_pairs_iff (ps : List Pair) : pairItems.Fit ∅ ps ↔ Pair.Distinct ps := by
  have h := pairItems.fit_iff_new Prod.fst OrderedMap.keys (s := ∅) (fun _ _ => .rfl)
    (fun m p hp => (m.keys_insert p.1 p.2.text).trans (if_neg hp)) List.nodup_nil ps
  exact h

theorem foldl_pairItems (ps : List Pair) : ps.foldl pairItems.add ∅ = Pair.map ps := by
  rw [Pair.map, OrderedMap.ofList, List.foldl_map]
  rfl

theorem reads_readPairs (what : String) :
    Reads (readPairs what) fun ts m rest =>
      ∃ ps, Spells (Pair.block ps) ts rest ∧ Pair.Distinct ps ∧ m = Pair.map ps := by
  refine (pairItems.reads_untilBrace (reads_readPair what) ∅).congr fun ts m rest => ?_
  simp only [fit_pairs_iff, foldl_pairItems]
  rfl

theorem reads_readType (types : List ManifestType) : Reads (readType types) (typeItems.One types) := by
  have hblock : ∀ name, Reads (eat .openBrace >>= fun eaten =>
      if eaten = true then do return types ++ [⟨name, some (← readPairs "field")⟩] else return types ++ [⟨name, none⟩])
      fun ts types' rest => ∃ t : WrittenType, t.name = name ∧ Spells t.block ts rest ∧
        (∀ kind, typeItems.next? t = some kind → ¬ StartsWith kind rest) ∧ t.Proper ∧ types' = types ++ [t.type] := by
    intro name
    have hyes := (reads_readPairs "field").bind fun fields =>
      reads_pure (types ++ [(⟨name, some fields⟩ : ManifestType)])
    refine (reads_eat_then .openBrace hyes (reads_pure (types ++ [⟨name, none⟩]))).congr fun ts types' rest => ?_
    constructor
    · rintro (⟨mid, hopen, _, _, ⟨ps, hps, hn, rfl⟩, rfl, rfl⟩ | ⟨hno, rfl, rfl⟩)
      · exact ⟨⟨name, some ps⟩, rfl, spells_first.2 ⟨mid, hopen, hps⟩, nofun, by rintro _ ⟨⟩; exact hn, rfl⟩
      · exact ⟨⟨name, none⟩, rfl, spells_nil.2 rfl, by rintro _ ⟨⟩; exact hno, nofun, rfl⟩
    · rintro ⟨⟨name, fields?⟩, rfl, ht, hnext, hn, rfl⟩
      cases fields? with
      | none =>
        obtain rfl := spells_nil.1 ht
        exact .inr ⟨hnext _ rfl, rfl, rfl⟩
      | some ps =>
        obtain ⟨mid, hopen, hps⟩ := spells_first.1 ht
        exact .inl ⟨mid, hopen, _, _, ⟨ps, hps, hn ps rfl, rfl⟩, rfl, rfl⟩
  refine (reads_identifierToken_then _ fun name token => reads_unless (reads_failAt _ _) (hblock name)).congr
    fun ts types' rest => ?_
  constructor
  · rintro ⟨_, mid, hname, hknown, t, rfl, ht, hnext, hn, rfl⟩
    exact ⟨t, spells_first.2 ⟨_, hname, ht⟩, hnext, ⟨hn, by simpa using hknown⟩, rfl⟩
  · rintro ⟨t, ht, hnext, ⟨hn, hknown⟩, rfl⟩
    obtain ⟨mid, hname, ht⟩ := spells_first.1 ht
    exact ⟨t.name, mid, hname, by simpa using hknown, t, rfl, ht, hnext, hn, rfl⟩

theorem ofName_eq_ok_iff {name : String} {mode : NodeMode} : NodeMode.ofName name = .ok mode ↔ name = mode.name := by
  constructor
  · intro h
    unfold NodeMode.ofName at h
    split at h
    · cases h; assumption
    · split at h
      · cases h; assumption
      · cases h
  · rintro rfl
    exact NodeMode.ofName_name mode

/-- What is read behind the word of an attribute. -/
def OneAttribute (n : ManifestNode) (word : String) (ts : List Token) (n' : ManifestNode) (rest : List Token) : Prop :=
  ∃ a : Attribute, a.word = word ∧ Spells a.body ts rest ∧ a.Proper ∧ n' = attributeItems.add n a

theorem reads_mode (n : ManifestNode) :
    Reads (do
        let (name, token) ← identifierToken "for the node mode"
        match NodeMode.ofName name with
        | .ok mode => return { n with mode }
        | .error e => failAt token e.message)
      (OneAttribute n "mode") := by
  have hmode : ∀ (name : String) (token : Token), Reads (match NodeMode.ofName name with
      | .ok mode => pure { n with mode }
      | .error e => failAt token e.message) fun ts n' rest =>
        ∃ m, NodeMode.ofName name = .ok m ∧ n' = { n with mode := m } ∧ ts = rest := by
    intro name token
    cases NodeMode.ofName name with
    | ok m => exact (reads_pure _).congr fun ts n' rest => by simp
    | error e => exact (reads_failAt _ _).congr fun ts n' rest => by simp
  refine (reads_identifierToken_then _ hmode).congr fun ts n' rest => ?_
  constructor
  · rintro ⟨name, _, hname, m, hm, rfl, rfl⟩
    obtain rfl := ofName_eq_ok_iff.1 hm
    exact ⟨.mode m, rfl, hname, trivial, rfl⟩
  · rintro ⟨m | ports | ports, hw, ha, -, rfl⟩
    · exact ⟨m.name, _, ha, m, NodeMode.ofName_name m, rfl, rfl⟩
    all_goals exact absurd hw (by simp [Attribute.word])

/-- The ports under a word. -/
theorem reads_ports (n : ManifestNode) (word context what : String) (set : OrderedMap String → ManifestNode)
    (make : List Pair → Attribute) (hword : ∀ a : Attribute, a.word = word ↔ ∃ ps, a = make ps)
    (hbody : ∀ ps, (make ps).body = .openBrace :: Pair.block ps) (hproper : ∀ ps, (make ps).Proper ↔ Pair.Distinct ps)
    (hadd : ∀ ps, attributeItems.add n (make ps) = set (Pair.map ps)) :
    Reads (do
        let _ ← expect .openBrace context
        let ports ← readPairs what
        return set ports)
      (OneAttribute n word) := by
  refine (reads_expect_then _ _ ((reads_readPairs what).bind fun ports => reads_pure (set ports))).congr
    fun ts n' rest => ?_
  constructor
  · rintro ⟨mid, hopen, _, _, ⟨ps, hps, hn, rfl⟩, rfl, rfl⟩
    exact ⟨make ps, (hword _).2 ⟨ps, rfl⟩, hbody ps ▸ spells_first.2 ⟨_, hopen, hps⟩, (hproper ps).2 hn, (hadd ps).symm⟩
  · rintro ⟨a, hw, ha, hn, rfl⟩
    obtain ⟨ps, rfl⟩ := (hword a).1 hw
    obtain ⟨mid, hopen, hps⟩ := spells_first.1 (hbody ps ▸ ha)
    exact ⟨mid, hopen, _, _, ⟨ps, hps, (hproper ps).1 hn, rfl⟩, hadd ps, rfl⟩

theorem word_eq_in {a : Attribute} : a.word = "in" ↔ ∃ ps, a = .inputs ps := by
  cases a <;> simp [Attribute.word]

theorem word_eq_out {a : Attribute} : a.word = "out" ↔ ∃ ps, a = .outputs ps := by
  cases a <;> simp [Attribute.word]

theorem reads_readAttribute (n : ManifestNode) : Reads (readAttribute n) (attributeItems.One n) := by
  have hattribute : Reads (readAttribute n) fun ts n' rest =>
      ∃ word mid, Spells [.identifier word] ts mid ∧ OneAttribute n word mid n' rest := by
    refine reads_identifierToken_then _ fun word token => ?_
    dsimp only
    split
    · exact reads_mode n
    · exact reads_ports n _ _ _ (fun inputs => { n with inputs }) .inputs (fun _ => word_eq_in) (fun _ => rfl)
        (fun _ => .rfl) fun _ => rfl
    · exact reads_ports n _ _ _ (fun outputs => { n with outputs }) .outputs (fun _ => word_eq_out) (fun _ => rfl)
        (fun _ => .rfl) fun _ => rfl
    · refine (reads_failAt _ _).congr fun ts n' rest => ⟨False.elim, ?_⟩
      rintro ⟨_ | _ | _, rfl, -⟩ <;> simp_all [Attribute.word]
  refine hattribute.congr fun ts n' rest => ?_
  constructor
  · rintro ⟨_, mid, hword, a, rfl, ha, hn, rfl⟩
    exact ⟨a, spells_first.2 ⟨_, hword, ha⟩, nofun, hn, rfl⟩
  · rintro ⟨a, ha, -, hn, rfl⟩
    obtain ⟨mid, hword, ha⟩ := spells_first.1 ha
    exact ⟨a.word, mid, hword, a, rfl, ha, hn, rfl⟩

theorem reads_readNode (nodes : List ManifestNode) : Reads (readNode nodes) (nodeItems.One nodes) := by
  have hattributes : ∀ name, Reads (untilBrace readAttribute ⟨name, .concurrent, ∅, ∅⟩) fun ts node rest =>
      ∃ n : WrittenNode, n.name = name ∧ Spells (n.attributes.flatMap Attribute.kinds ++ [.closeBrace]) ts rest ∧
        n.Proper ∧ node = n.node := by
    intro name
    refine (attributeItems.reads_untilBrace reads_readAttribute _).congr fun ts node rest => ?_
    simp only [attributeItems.fit_iff_forall fun _ _ => Iff.rfl]
    constructor
    · rintro ⟨attributes, ha, hn, rfl⟩
      exact ⟨⟨name, attributes⟩, rfl, ha, hn, rfl⟩
    · rintro ⟨n, rfl, ha, hn, rfl⟩
      exact ⟨n.attributes, ha, hn, rfl⟩
  refine (reads_identifierToken_then _ fun name token => reads_unless (reads_failAt _ _) (reads_expect_then _ _
    ((hattributes name).bind fun node => reads_pure (nodes ++ [node])))).congr fun ts nodes' rest => ?_
  constructor
  · rintro ⟨_, mid, hname, hknown, mid', hopen, _, _, ⟨n, rfl, ha, hn, rfl⟩, rfl, rfl⟩
    exact ⟨n, spells_first.2 ⟨_, hname, spells_first.2 ⟨_, hopen, ha⟩⟩, nofun, ⟨hn, by simpa using hknown⟩, rfl⟩
  · rintro ⟨n, hk, -, ⟨hn, hknown⟩, rfl⟩
    obtain ⟨mid, hname, hk⟩ := spells_first.1 hk
    obtain ⟨mid', hopen, ha⟩ := spells_first.1 hk
    exact ⟨n.name, mid, hname, by simpa using hknown, mid', hopen, _, _, ⟨n, rfl, ha, hn, rfl⟩, rfl, rfl⟩

theorem fit_types_iff (written : List WrittenType) : typeItems.Fit [] written ↔ (Section.types written).Proper :=
  typeItems.fit_iff_own_new (fun types => types.map ManifestType.name) (s := []) (fun _ _ => .rfl)
    (fun _ _ _ => List.map_append) List.nodup_nil written

theorem foldl_typeItems (types : List ManifestType) (written : List WrittenType) :
    written.foldl typeItems.add types = types ++ written.map WrittenType.type := by
  induction written generalizing types with
  | nil => simp
  | cons t written ih => exact (ih _).trans (by simp [typeItems])

theorem node_name (n : WrittenNode) : n.node.name = n.name :=
  attributeItems.foldl_keeps (f := ManifestNode.name) (fun _ a => by cases a <;> rfl) _ _

theorem fit_nodes_iff (written : List WrittenNode) : nodeItems.Fit [] written ↔ (Section.nodes written).Proper :=
  nodeItems.fit_iff_own_new (fun nodes => nodes.map ManifestNode.name) (s := []) (fun _ _ => .rfl)
    (fun nodes n _ => by simp [nodeItems, node_name]) List.nodup_nil written

theorem foldl_nodeItems (nodes : List ManifestNode) (written : List WrittenNode) :
    written.foldl nodeItems.add nodes = nodes ++ written.map WrittenNode.node := by
  induction written generalizing nodes with
  | nil => simp
  | cons n written ih => exact (ih _).trans (by simp [nodeItems])

theorem reads_readSection (word : String) (opening : Token) (m : Manifest) :
    ReadsBefore .marker (readSection word opening m) (sectionItems.One word opening m) := by
  unfold readSection
  split
  · refine ((typeItems.readsBefore_whileIdentifier reads_readType []).map fun types => { m with types }).congr
      fun ts m' rest _ => ?_
    simp only [fit_types_iff, foldl_typeItems, List.nil_append]
    constructor
    · rintro ⟨_, ⟨written, hw, hproper, rfl⟩, rfl⟩
      exact ⟨.types written, rfl, hw, hproper, rfl⟩
    · rintro ⟨written | _, hw, ht, hproper, rfl⟩
      · exact ⟨_, ⟨written, ht, hproper, rfl⟩, rfl⟩
      · exact absurd hw (by simp [sectionItems, Section.word])
  · refine ((nodeItems.readsBefore_whileIdentifier reads_readNode []).map fun nodes => { m with nodes }).congr
      fun ts m' rest _ => ?_
    simp only [fit_nodes_iff, foldl_nodeItems, List.nil_append]
    constructor
    · rintro ⟨_, ⟨written, hw, hproper, rfl⟩, rfl⟩
      exact ⟨.nodes written, rfl, hw, hproper, rfl⟩
    · rintro ⟨_ | written, hw, ht, hproper, rfl⟩
      · exact absurd hw (by simp [sectionItems, Section.word])
      · exact ⟨_, ⟨written, ht, hproper, rfl⟩, rfl⟩
  · refine ((reads_failAt _ _).before .marker).congr fun ts m' rest _ => ⟨False.elim, ?_⟩
    rintro ⟨_ | _, rfl, -⟩ <;> simp_all [sectionItems, Section.word]

/-! ## Derivations -/

/-- The tokens are written for these sections, as the format demands. -/
structure Derives (tokens : List Token) (written : List Section) : Prop where
  sections : sectionItems.Written written tokens
  words : (written.map Section.word).Nodup
  proper : ∀ s ∈ written, s.Proper

/-- The manifest that the sections make. -/
def ofSections (written : List Section) : Manifest := written.foldl sectionItems.add empty

/-- A text is read if its tokens have a derivation, and as any of them says. -/
theorem parse_eq_ok_iff {source : String} {tokens : List Token} (htokens : tokenize .anima source = .ok tokens)
    {m : Manifest} : parse source = .ok m ↔ ∃ written, Derives tokens written ∧ m = ofSections written := by
  rw [parse, Parser.parse_eq_ok_iff htokens ((sectionItems.reads_sections reads_readSection empty).bind fun read =>
    reads_pure read.1)]
  constructor
  · rintro ⟨_, _, _, ⟨written, hw, rfl, hn, hfit, rfl⟩, rfl, rfl⟩
    exact ⟨written, ⟨hw, hn, (sectionItems.fit_iff_forall (fun _ _ => .rfl) _ _).1 hfit⟩, rfl⟩
  · rintro ⟨written, ⟨hw, hn, hproper⟩, rfl⟩
    exact ⟨[], _, _, ⟨written, hw, rfl, hn, (sectionItems.fit_iff_forall (fun _ _ => .rfl) _ _).2 hproper,
      rfl⟩, rfl, rfl⟩

/-- The entries of distinct pairs are the pairs in their order. -/
theorem entries_map {ps : List Pair} (h : Pair.Distinct ps) : (Pair.map ps).entries = ps.map Pair.entry := by
  rw [Pair.map, OrderedMap.ofList, OrderedMap.entries_foldl_insert]
  · rfl
  · have hkeys : (ps.map Pair.entry).map Prod.fst = ps.map Prod.fst := by simp [Pair.entry, Function.comp_def]
    rw [hkeys]
    exact h

/-- The type of the manifest has the name and the fields of the written one, in their order. -/
structure WrittenType.Describes (t : WrittenType) (type : ManifestType) : Prop where
  name : type.name = t.name
  fields : type.fields?.map OrderedMap.entries = t.fields?.map (List.map Pair.entry)

/-- The node of the manifest has the name of the written one and, unless an attribute is written
twice, its mode and its ports, in their order. -/
structure WrittenNode.Describes (n : WrittenNode) (node : ManifestNode) : Prop where
  name : node.name = n.name
  mode : (n.attributes.map Attribute.word).Nodup → node.mode = (n.attributes.findSome? Attribute.mode?).getD .concurrent
  inputs : (n.attributes.map Attribute.word).Nodup →
    node.inputs.entries = ((n.attributes.findSome? Attribute.inputs?).getD []).map Pair.entry
  outputs : (n.attributes.map Attribute.word).Nodup →
    node.outputs.entries = ((n.attributes.findSome? Attribute.outputs?).getD []).map Pair.entry

/-- The manifest lists what the sections say, in the order they say it. -/
structure Lists (m : Manifest) (written : List Section) : Prop where
  types : List.Forall₂ WrittenType.Describes ((written.findSome? Section.types?).getD []) m.types
  nodes : List.Forall₂ WrittenNode.Describes ((written.findSome? Section.nodes?).getD []) m.nodes

theorem describes_type {t : WrittenType} (h : t.Proper) : t.Describes t.type where
  name := rfl
  fields := by
    cases hf : t.fields? with
    | none => simp [WrittenType.type, hf]
    | some fields => simp [WrittenType.type, hf, entries_map (h fields hf)]

/-- What the ports under one word of a node are, where no attribute is written twice. -/
theorem ports_foldl {ports : ManifestNode → OrderedMap String} {ports? : Attribute → Option (List Pair)} {w : String}
    (hadd : ∀ n a, ports (attributeItems.add n a) = ((ports? a).map Pair.map).getD (ports n))
    (hword : ∀ a : Attribute, a.word ≠ w → ports? a = none)
    (hproper : ∀ a ps, ports? a = some ps → a.Proper → Pair.Distinct ps)
    {init : ManifestNode} (hinit : ports init = ∅) {attributes : List Attribute}
    (hattributes : (attributes.map Attribute.word).Nodup) (h : ∀ a ∈ attributes, a.Proper) :
    (ports (attributes.foldl attributeItems.add init)).entries =
      ((attributes.findSome? ports?).getD []).map Pair.entry := by
  have hmap : attributes.findSome? (fun a => (ports? a).map Pair.map) = (attributes.findSome? ports?).map Pair.map :=
    List.map_findSome?.symm
  rw [attributeItems.foldl_sets (w := w) hadd (fun a ha => by simp [hword a ha]) init hattributes, hmap, hinit]
  cases hf : attributes.findSome? ports? with
  | none => rfl
  | some ps =>
    obtain ⟨a, ha, hps⟩ := List.exists_of_findSome?_eq_some hf
    exact entries_map (hproper a ps hps (h a ha))

theorem describes_node {n : WrittenNode} (h : n.Proper) : n.Describes n.node where
  name := node_name n
  mode hn := attributeItems.foldl_sets (w := "mode") (fun _ a => by cases a <;> rfl)
    (fun a ha => by cases a <;> first | rfl | exact absurd rfl ha) _ hn
  inputs hn := ports_foldl (w := "in") (fun _ a => by cases a <;> rfl)
    (fun a ha => by cases a <;> first | rfl | exact absurd rfl ha)
    (fun a ps hps hp => by cases a <;> cases hps; exact hp) rfl hn h
  outputs hn := ports_foldl (w := "out") (fun _ a => by cases a <;> rfl)
    (fun a ha => by cases a <;> first | rfl | exact absurd rfl ha)
    (fun a ps hps hp => by cases a <;> cases hps; exact hp) rfl hn h

/-- Only a section of the word `nodes` declares nodes. -/
theorem Section.nodes?_eq_none (s : Section) (h : s.word ≠ "nodes") : s.nodes? = none := by
  cases s with
  | types _ => rfl
  | nodes _ => exact absurd rfl h

theorem Derives.nodes_ofSections {tokens : List Token} {written : List Section} (h : Derives tokens written) :
    (ofSections written).nodes = ((written.findSome? Section.nodes?).map (List.map WrittenNode.node)).getD [] := by
  rw [List.map_findSome?]
  exact sectionItems.foldl_sets (w := "nodes") (fun _ s => by cases s <;> rfl)
    (fun s hs => by simp [s.nodes?_eq_none hs]) _ h.words

theorem Derives.lists {tokens : List Token} {written : List Section} (h : Derives tokens written) :
    (ofSections written).Lists written := by
  have htypes : (ofSections written).types =
      ((written.findSome? Section.types?).map (List.map WrittenType.type)).getD [] := by
    rw [List.map_findSome?]
    exact sectionItems.foldl_sets (w := "types") (fun _ s => by cases s <;> rfl)
      (fun s hs => by cases s <;> first | rfl | exact absurd rfl hs) _ h.words
  constructor
  · rw [htypes]
    cases hf : written.findSome? Section.types? with
    | none => exact .nil
    | some types =>
      obtain ⟨s, hs, ht⟩ := List.exists_of_findSome?_eq_some hf
      obtain rfl : s = .types types := by cases s <;> cases ht; rfl
      exact List.forall₂_map_right_iff.2 (List.forall₂_same.2 fun t ht => describes_type ((h.proper _ hs).1 t ht))
  · rw [h.nodes_ofSections]
    cases hf : written.findSome? Section.nodes? with
    | none => exact .nil
    | some nodes =>
      obtain ⟨s, hs, hn⟩ := List.exists_of_findSome?_eq_some hf
      obtain rfl : s = .nodes nodes := by cases s <;> cases hn; rfl
      exact List.forall₂_map_right_iff.2 (List.forall₂_same.2 fun n hn => describes_node ((h.proper _ hs).1 n hn))

/-- A text is read if and only if its tokens derive from the grammar, and the manifest that is read lists
what the text declares in its order. -/
theorem parse_accepts_iff_derives {source : String} {tokens : List Token}
    (htokens : tokenize .anima source = .ok tokens) :
    ((∃ m, parse source = .ok m) ↔ ∃ written, Derives tokens written) ∧
      ∀ m written, parse source = .ok m → Derives tokens written → m.Lists written := by
  constructor
  · constructor
    · rintro ⟨m, hm⟩
      obtain ⟨written, hd, -⟩ := (parse_eq_ok_iff htokens).1 hm
      exact ⟨written, hd⟩
    · rintro ⟨written, hd⟩
      exact ⟨_, (parse_eq_ok_iff htokens).2 ⟨written, hd, rfl⟩⟩
  · intro m written hm hd
    have hm' : parse source = .ok (ofSections written) := (parse_eq_ok_iff htokens).2 ⟨written, hd, rfl⟩
    obtain rfl : m = ofSections written := Except.ok.inj (hm.symm.trans hm')
    exact hd.lists

/-- A manifest with its nodes first, whose pairs no token separates. -/
def unseparated : String :=
  "-- nodes n \x7b out \x7b r p.T s U \x7d mode Sequential \x7d -- -- types T \x7b a U b p.T \x7d U --"

set_option maxRecDepth 2000 in
theorem unseparated_accepted :
    ∃ tokens written, ∃ m : Manifest, tokenize .anima unseparated = .ok tokens ∧
      Derives tokens written ∧ m.Lists written ∧
      m.types.map ManifestType.name = ["T", "U"] ∧
      m.nodes.map (fun n => (n.mode, n.outputs.entries)) = [(.sequential, [("r", "p.T"), ("s", "U")])] := by
  have hcount : (tokenize .anima unseparated).map List.length = .ok 30 := by cbv
  have hread : (parse unseparated).map (fun m =>
      (m.types.map ManifestType.name, m.nodes.map (fun n => (n.mode, n.outputs.entries)))) =
      .ok (["T", "U"], [(.sequential, [("r", "p.T"), ("s", "U")])]) := by cbv
  obtain ⟨tokens, htokens, -⟩ := Except.map_eq_ok_iff.1 hcount
  obtain ⟨m, hparse, hm⟩ := Except.map_eq_ok_iff.1 hread
  obtain ⟨hiff, hlists⟩ := parse_accepts_iff_derives htokens
  obtain ⟨written, hd⟩ := hiff.1 ⟨m, hparse⟩
  exact ⟨tokens, written, m, htokens, hd, hlists m written hparse hd, congrArg Prod.fst hm, congrArg Prod.snd hm⟩

end Dataflow.Manifest
