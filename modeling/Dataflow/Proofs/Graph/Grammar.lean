import Dataflow.Except
import Dataflow.Graph.Parser
import Dataflow.Proofs.Token.Recognition
import Mathlib
/-!
# The grammar of graph descriptions

What a graph description says is a list of sections, kept here as data down to the literals:
`Section`, `Block`, `WrittenNode`, `Literal`. Each of them has the kinds of tokens that it is
written with, and `Derives` says that the tokens of a text are written for such a list.

Each reader of `Dataflow.Graph.Parser` is described exactly by the part of the grammar it is for
(`reads_readLiteral` to `reads_readGraph`), so that a text is read if and only if its tokens have a
derivation, and then as the derivation says.
-/

namespace Dataflow.Graph

open Dataflow.Parser

/-! ## What a description says -/

/-- The value given to a parameter. -/
inductive Literal where
  | integer (n : Int64)
  | text (s : String)
  | truth (b : Bool)

namespace Literal

def kind : Literal → TokenKind
  | .integer n => .integer n
  | .text s => .text s
  | .truth true => .identifier "true"
  | .truth false => .identifier "false"

def value : Literal → Json
  | .integer n => .int n
  | .text s => .str s
  | .truth b => .bool b

end Literal

/-- A node `id: plugin.Type`, maybe with parameters in braces. -/
structure WrittenNode where
  id : String
  plugin : String
  type : String
  parameters? : Option (List (String × Literal))

namespace WrittenNode

/-- The parameters in the order they are written in. -/
def parameters (n : WrittenNode) : List (String × Literal) := n.parameters?.getD []

def parameterKinds (p : String × Literal) : List TokenKind := [.identifier p.1, .equals, p.2.kind]

/-- What follows the name of the node's type. -/
def block (n : WrittenNode) : List TokenKind :=
  match n.parameters? with
  | none => []
  | some parameters => .openBrace :: (parameters.flatMap parameterKinds ++ [.closeBrace])

def kinds (n : WrittenNode) : List TokenKind :=
  .identifier n.id :: .colon :: .identifier n.plugin :: .dot :: .identifier n.type :: n.block

/-- The node that the parser makes of it. -/
def node (n : WrittenNode) : Node :=
  n.parameters.foldl (fun node p => node.withParameter p.1 p.2.value) (.named n.id n.plugin n.type)

end WrittenNode

def endpointKinds (e : Endpoint) : List TokenKind := [.identifier e.node, .dot, .identifier e.port]

def connectionKinds (ends : Endpoint × Endpoint) : List TokenKind :=
  endpointKinds ends.1 ++ .arrow :: endpointKinds ends.2

/-- A block of a graph section. -/
inductive Block where
  | nodes (written : List WrittenNode)
  | connections (kind : ConnectionKind) (ends : List (Endpoint × Endpoint))
  | entry (ids : List String)

namespace Block

def word : Block → String
  | .nodes _ => "nodes"
  | .connections kind _ => kind.name
  | .entry _ => "entry"

/-- What stands in the braces. -/
def body : Block → List TokenKind
  | .nodes written => written.flatMap WrittenNode.kinds
  | .connections _ ends => ends.flatMap connectionKinds
  | .entry ids => ids.flatMap fun id => [.identifier id]

def kinds (b : Block) : List TokenKind := .identifier b.word :: .openBrace :: (b.body ++ [.closeBrace])

def declaredNodes : Block → List WrittenNode
  | .nodes written => written
  | _ => []

/-- The connections, each of the kind of the block. -/
def declaredConnections : Block → List Connection
  | .connections kind ends => ends.map fun e => ⟨e.1, e.2, kind⟩
  | _ => []

def declaredEntries : Block → List String
  | .entry ids => ids
  | _ => []

end Block

def importKinds (plugin : String) : List TokenKind := [.identifier plugin, .dot, .identifier "anima"]

/-- A section of a graph description. -/
inductive Section where
  | imports (plugins : List String)
  | graph (name? : Option String) (blocks : List Block)

namespace Section

def word : Section → String
  | .imports _ => "import"
  | .graph _ _ => "graph"

def imports? : Section → Option (List String)
  | .imports plugins => some plugins
  | .graph _ _ => none

def name? : Section → Option String
  | .imports _ => none
  | .graph name? _ => name?

def blocks : Section → List Block
  | .imports _ => []
  | .graph _ blocks => blocks

def nodes (s : Section) : List WrittenNode := s.blocks.flatMap Block.declaredNodes

def connections (s : Section) : List Connection := s.blocks.flatMap Block.declaredConnections

def entries (s : Section) : List String := s.blocks.flatMap Block.declaredEntries

/-- These tokens stand between the word of the section and its closing marker. An identifier on the
line of the opening marker is the name of the graph, whatever it is. -/
def Body : Section → Nat → List Token → Prop
  | .imports plugins, _, ts => ts.map Token.kind = plugins.flatMap importKinds
  | .graph (some name) blocks, line, ts =>
    ∃ more, NamedOnLine line name ts more ∧ more.map Token.kind = blocks.flatMap Block.kinds
  | .graph none blocks, line, ts =>
    ts.map Token.kind = blocks.flatMap Block.kinds ∧ ∀ name more, ¬ NamedOnLine line name ts more

end Section

/-! ## How it is taken in -/

def parameterItems : Items Node (String × Literal) where
  fits _ _ := True
  add n p := n.withParameter p.1 p.2.value
  kinds := WrittenNode.parameterKinds
  next? _ := none
  starts _ := ⟨_, _, rfl⟩
  next _ _ h := nomatch h

/-- A node without parameters would go on with an opening brace. -/
def nodeItems : Items Graph WrittenNode where
  fits g n := n.id ∉ g.ids
  add g n := g.addNode n.node
  kinds := WrittenNode.kinds
  next? n := if n.parameters?.isNone then some .openBrace else none
  starts _ := ⟨_, _, rfl⟩
  next _ _ h := by simp_all

def connectionItems (kind : ConnectionKind) : Items Graph (Endpoint × Endpoint) where
  fits _ _ := True
  add g e := g.connect ⟨e.1, e.2, kind⟩
  kinds := connectionKinds
  next? _ := none
  starts _ := ⟨_, _, rfl⟩
  next _ _ h := nomatch h

def entryItems : Items Graph String where
  fits _ _ := True
  add g id := g.addEntry id
  kinds id := [.identifier id]
  next? _ := none
  starts _ := ⟨_, _, rfl⟩
  next _ _ h := nomatch h

def importItems : Items (List String) String where
  fits imports plugin := plugin ∉ imports
  add imports plugin := imports ++ [plugin]
  kinds := importKinds
  next? _ := none
  starts _ := ⟨_, _, rfl⟩
  next _ _ h := nomatch h

def blockItems : Items Graph Block where
  fits g
    | .nodes written => nodeItems.Fit g written
    | .connections kind ends => (connectionItems kind).Fit g ends
    | .entry ids => entryItems.Fit g ids
  add g
    | .nodes written => written.foldl nodeItems.add g
    | .connections kind ends => ends.foldl (connectionItems kind).add g
    | .entry ids => ids.foldl entryItems.add g
  kinds := Block.kinds
  next? _ := none
  starts _ := ⟨_, _, rfl⟩
  next _ _ h := nomatch h

/-- The graph under the name that the section gives. -/
def withName (g : Graph) (name? : Option String) : Graph := { g with name := name?.getD g.name }

def sectionItems : Sections Graph Section where
  fits g
    | .imports plugins => importItems.Fit [] plugins
    | .graph name? blocks => blockItems.Fit (g.withName name?) blocks
  add g
    | .imports plugins => { g with imports := plugins.foldl importItems.add [] }
    | .graph name? blocks => blocks.foldl blockItems.add (g.withName name?)
  word := Section.word
  Body := Section.Body

/-! ## What each reader reads -/

theorem literal?_eq_some_iff {kind : TokenKind} {value : Json} :
    literal? kind = some value ↔ ∃ l : Literal, l.kind = kind ∧ l.value = value := by
  constructor
  · intro h
    unfold literal? at h
    split at h
    · exact ⟨.integer _, rfl, Option.some.inj h⟩
    · exact ⟨.text _, rfl, Option.some.inj h⟩
    · obtain ⟨b, hb, rfl⟩ := Option.map_eq_some_iff.1 h
      unfold truthValue? at hb
      split at hb
      · exact ⟨.truth true, rfl, congrArg _ (Option.some.inj hb)⟩
      · exact ⟨.truth false, rfl, congrArg _ (Option.some.inj hb)⟩
      · cases hb
    · cases h
  · rintro ⟨⟨⟩ | ⟨⟩ | ⟨⟨⟩⟩, rfl, rfl⟩ <;> rfl

theorem reads_readLiteral :
    Reads readLiteral fun ts value rest => ∃ l : Literal, Spells [l.kind] ts rest ∧ value = l.value := by
  intro c value rest
  unfold readLiteral
  rw [leaves_get]
  simp only [spells_cons, spells_nil]
  split
  · rename_i v hv
    obtain ⟨token, htoken, hl⟩ := Option.bind_eq_some_iff.1 hv
    obtain ⟨more, hc⟩ : ∃ more, c.rest = token :: more := List.head?_eq_some_iff.1 htoken
    rw [reads_advance.bind fun _ => reads_pure v, hc]
    constructor
    · rintro ⟨_, _, ⟨rfl, rfl⟩, rfl, rfl⟩
      obtain ⟨l, hk, rfl⟩ := literal?_eq_some_iff.1 hl
      exact ⟨l, ⟨token, _, rfl, hk.symm, rfl⟩, rfl⟩
    · rintro ⟨l, ⟨_, _, ⟨⟩, hk, rfl⟩, rfl⟩
      have : literal? token.kind = some l.value := literal?_eq_some_iff.2 ⟨l, hk.symm, rfl⟩
      exact ⟨_, more, ⟨rfl, rfl⟩, Option.some.inj (this.symm.trans hl), rfl⟩
  · rename_i hnone
    rw [reads_unexpected]
    refine ⟨False.elim, ?_⟩
    rintro ⟨l, ⟨token, more, hc, hk, -⟩, -⟩
    have hl : literal? token.kind = some l.value := literal?_eq_some_iff.2 ⟨l, hk.symm, rfl⟩
    simp [Cursor.peek?, hc, hl] at hnone

theorem reads_readParameter (n : Node) : Reads (readParameter n) (parameterItems.One n) := by
  refine ((reads_identifier _).bind fun port => reads_expect_then _ _ (reads_readLiteral.bind fun value =>
    reads_pure (n.withParameter port value))).congr fun ts n' rest => ?_
  constructor
  · rintro ⟨port, mid, hport, mid', hequals, _, _, ⟨l, hl, rfl⟩, rfl, rfl⟩
    exact ⟨(port, l), spells_first.2 ⟨_, hport, spells_first.2 ⟨_, hequals, hl⟩⟩, nofun, trivial, rfl⟩
  · rintro ⟨⟨port, l⟩, hp, -, -, rfl⟩
    obtain ⟨mid, hport, hp⟩ := spells_first.1 hp
    obtain ⟨mid', hequals, hl⟩ := spells_first.1 hp
    exact ⟨port, mid, hport, mid', hequals, _, _, ⟨l, hl, rfl⟩, rfl, rfl⟩

/-- Parameters are all that may follow the name of a node. -/
theorem reads_parameters (g : Graph) (id plugin type : String) :
    Reads (eat .openBrace >>= fun eaten =>
        if eaten = true then do return g.addNode (← untilBrace readParameter (Node.named id plugin type))
        else return g.addNode (Node.named id plugin type)) fun ts g' rest =>
      ∃ n : WrittenNode, n.id = id ∧ n.plugin = plugin ∧ n.type = type ∧
        Spells n.block ts rest ∧ (∀ kind, nodeItems.next? n = some kind → ¬ StartsWith kind rest) ∧
        g' = g.addNode n.node := by
  have hyes := (parameterItems.reads_untilBrace reads_readParameter (Node.named id plugin type)).bind fun n =>
    reads_pure (g.addNode n)
  refine (reads_eat_then .openBrace hyes (reads_pure (g.addNode (Node.named id plugin type)))).congr
    fun ts g' rest => ?_
  constructor
  · rintro (⟨mid, hopen, _, _, ⟨ps, hps, -, rfl⟩, rfl, rfl⟩ | ⟨hno, rfl, rfl⟩)
    · exact ⟨⟨id, plugin, type, some ps⟩, rfl, rfl, rfl, spells_first.2 ⟨mid, hopen, hps⟩, nofun, rfl⟩
    · exact ⟨⟨id, plugin, type, none⟩, rfl, rfl, rfl, spells_nil.2 rfl, by rintro _ ⟨⟩; exact hno, rfl⟩
  · rintro ⟨⟨id, plugin, type, parameters?⟩, rfl, rfl, rfl, hps, hnext, rfl⟩
    cases parameters? with
    | none =>
      obtain rfl := spells_nil.1 hps
      exact .inr ⟨hnext _ rfl, rfl, rfl⟩
    | some ps =>
      obtain ⟨mid, hopen, hps⟩ := spells_first.1 hps
      exact .inl ⟨mid, hopen, _, _, ⟨ps, hps, Listing.fit_of_forall (fun _ _ => trivial) _ _, rfl⟩, rfl, rfl⟩

theorem reads_readNode (g : Graph) : Reads (readNode g) (nodeItems.One g) := by
  refine (reads_identifierToken_then _ fun id token =>
    reads_unless (reads_failAt _ _) (reads_expect_then _ _ ((reads_identifier _).bind fun plugin =>
      reads_expect_then _ _ ((reads_identifier _).bind fun type => reads_parameters g id plugin type)))).congr
    fun ts g' rest => ?_
  constructor
  · rintro ⟨id, m₁, hid, hknown, m₂, hcolon, plugin, m₃, hplugin, m₄, hdot, type, m₅, htype, n, rfl, rfl, rfl, hblock,
      hnext, rfl⟩
    refine ⟨n, ?_, hnext, fun h => hknown (OrderedMap.contains_iff.2 h), rfl⟩
    exact spells_first.2 ⟨_, hid, spells_first.2 ⟨_, hcolon, spells_first.2 ⟨_, hplugin, spells_first.2 ⟨_, hdot,
      spells_first.2 ⟨_, htype, hblock⟩⟩⟩⟩⟩
  · rintro ⟨n, hn, hnext, hfits, rfl⟩
    obtain ⟨m₁, hid, hn⟩ := spells_first.1 hn
    obtain ⟨m₂, hcolon, hn⟩ := spells_first.1 hn
    obtain ⟨m₃, hplugin, hn⟩ := spells_first.1 hn
    obtain ⟨m₄, hdot, hn⟩ := spells_first.1 hn
    obtain ⟨m₅, htype, hblock⟩ := spells_first.1 hn
    exact ⟨n.id, m₁, hid, fun h => hfits (OrderedMap.contains_iff.1 h), m₂, hcolon, n.plugin, m₃, hplugin, m₄, hdot,
      n.type, m₅, htype, n, rfl, rfl, rfl, hblock, hnext, rfl⟩

theorem reads_readEndpoint : Reads readEndpoint fun ts e rest => Spells (endpointKinds e) ts rest := by
  refine ((reads_identifier _).bind fun node => reads_expect_then _ _ ((reads_identifier _).bind fun port =>
    reads_pure (⟨node, port⟩ : Endpoint))).congr fun ts e rest => ?_
  constructor
  · rintro ⟨node, m₁, hnode, m₂, hdot, port, _, hport, rfl, rfl⟩
    exact spells_first.2 ⟨_, hnode, spells_first.2 ⟨_, hdot, hport⟩⟩
  · intro he
    obtain ⟨m₁, hnode, he⟩ := spells_first.1 he
    obtain ⟨m₂, hdot, hport⟩ := spells_first.1 he
    exact ⟨e.node, m₁, hnode, m₂, hdot, e.port, _, hport, rfl, rfl⟩

theorem reads_readConnection (kind : ConnectionKind) (g : Graph) :
    Reads (readConnection kind g) ((connectionItems kind).One g) := by
  refine (reads_readEndpoint.bind fun source => reads_expect_then _ _ (reads_readEndpoint.bind fun target =>
    reads_pure (g.connect ⟨source, target, kind⟩))).congr fun ts g' rest => ?_
  constructor
  · rintro ⟨source, m₁, hsource, m₂, harrow, target, _, htarget, rfl, rfl⟩
    exact ⟨(source, target), spells_append.2 ⟨_, hsource, spells_first.2 ⟨_, harrow, htarget⟩⟩, nofun, trivial, rfl⟩
  · rintro ⟨⟨source, target⟩, he, -, -, rfl⟩
    obtain ⟨m₁, hsource, he⟩ := spells_append.1 he
    obtain ⟨m₂, harrow, htarget⟩ := spells_first.1 he
    exact ⟨source, m₁, hsource, m₂, harrow, target, _, htarget, rfl, rfl⟩

theorem reads_readEntry (g : Graph) : Reads (readEntry g) (entryItems.One g) := by
  refine ((reads_identifier _).bind fun id => reads_pure (g.addEntry id)).congr fun ts g' rest => ?_
  constructor
  · rintro ⟨id, _, hid, rfl, rfl⟩
    exact ⟨id, hid, nofun, trivial, rfl⟩
  · rintro ⟨id, hid, -, -, rfl⟩
    exact ⟨id, _, hid, rfl, rfl⟩

theorem reads_readImport (imports : List String) : Reads (readImport imports) (importItems.One imports) := by
  refine (reads_identifierToken_then _ fun plugin token => reads_expect_then _ _ (reads_identifierToken_then _
    fun suffix suffixToken => reads_unless (reads_failAt _ _) (reads_unless (reads_failAt _ _)
      (reads_pure (imports ++ [plugin]))))).congr fun ts imports' rest => ?_
  constructor
  · rintro ⟨plugin, m₁, hplugin, m₂, hdot, suffix, _, hsuffix, hanima, hknown, rfl, rfl⟩
    obtain rfl : suffix = importSuffix := Decidable.not_not.1 hanima
    exact ⟨plugin, spells_first.2 ⟨_, hplugin, spells_first.2 ⟨_, hdot, hsuffix⟩⟩, nofun, hknown, rfl⟩
  · rintro ⟨plugin, hp, -, hknown, rfl⟩
    obtain ⟨m₁, hplugin, hp⟩ := spells_first.1 hp
    obtain ⟨m₂, hdot, hsuffix⟩ := spells_first.1 hp
    exact ⟨plugin, m₁, hplugin, m₂, hdot, importSuffix, _, hsuffix, Decidable.not_not.2 rfl, hknown, rfl, rfl⟩

/-- What is read behind the word of a block and its opening brace. -/
def OneBlock (g : Graph) (word : String) (ts : List Token) (g' : Graph) (rest : List Token) : Prop :=
  ∃ b : Block, b.word = word ∧ Spells (b.body ++ [.closeBrace]) ts rest ∧ blockItems.fits g b ∧ g' = blockItems.add g b

/-- The blocks of one word are the lists of one kind of items. -/
theorem reads_blockOf {ι : Type} {I : Items Graph ι} {step : Graph → Parser Graph}
    (hstep : ∀ g, Reads (step g) (I.One g))
    (g : Graph) {word : String} (block : List ι → Block) (hword : ∀ b : Block, b.word = word ↔ ∃ xs, b = block xs)
    (hbody : ∀ xs, (block xs).body = xs.flatMap I.kinds) (hfits : ∀ xs, blockItems.fits g (block xs) ↔ I.Fit g xs)
    (hadd : ∀ xs, blockItems.add g (block xs) = xs.foldl I.add g) : Reads (untilBrace step g) (OneBlock g word) := by
  refine (I.reads_untilBrace hstep g).congr fun ts g' rest => ?_
  constructor
  · rintro ⟨xs, hxs, hfit, rfl⟩
    exact ⟨block xs, (hword _).2 ⟨xs, rfl⟩, hbody xs ▸ hxs, (hfits xs).2 hfit, (hadd xs).symm⟩
  · rintro ⟨b, hw, hb, hfit, rfl⟩
    obtain ⟨xs, rfl⟩ := (hword b).1 hw
    exact ⟨xs, hbody xs ▸ hb, (hfits xs).1 hfit, hadd xs⟩

theorem word_eq_nodes {b : Block} : b.word = "nodes" ↔ ∃ written, b = .nodes written := by
  rcases b with written | ⟨⟨⟩, ends⟩ | ids <;> simp [Block.word, ConnectionKind.name]

theorem word_eq_kind (kind : ConnectionKind) {b : Block} : b.word = kind.name ↔ ∃ ends, b = .connections kind ends := by
  rcases b with written | ⟨⟨⟩, ends⟩ | ids <;> cases kind <;> simp [Block.word, ConnectionKind.name]

theorem word_eq_entry {b : Block} : b.word = "entry" ↔ ∃ ids, b = .entry ids := by
  rcases b with written | ⟨⟨⟩, ends⟩ | ids <;> simp [Block.word, ConnectionKind.name]

theorem reads_readBlock (g : Graph) : Reads (readBlock g) (blockItems.One g) := by
  have hblock : Reads (readBlock g) fun ts g' rest =>
      ∃ word mid, Spells [.identifier word] ts mid ∧ ∃ mid', Spells [.openBrace] mid mid' ∧
            OneBlock g word mid' g' rest := by
    refine reads_identifierToken_then _ fun word token => reads_expect_then _ _ ?_
    split
    · exact reads_blockOf reads_readNode g .nodes (fun _ => word_eq_nodes) (fun _ => rfl) (fun _ => .rfl) fun _ => rfl
    · exact reads_blockOf (reads_readConnection .data) g (.connections .data)
        (fun _ => word_eq_kind .data) (fun _ => rfl) (fun _ => .rfl) fun _ => rfl
    · exact reads_blockOf (reads_readConnection .control) g (.connections .control)
        (fun _ => word_eq_kind .control) (fun _ => rfl) (fun _ => .rfl) fun _ => rfl
    · exact reads_blockOf reads_readEntry g .entry (fun _ => word_eq_entry) (fun _ => rfl) (fun _ => .rfl) fun _ => rfl
    · refine (reads_failAt _ _).congr fun ts g' rest => ⟨False.elim, ?_⟩
      rintro ⟨written | ⟨⟨⟩, ends⟩ | ids, rfl, -⟩ <;> simp_all [Block.word, ConnectionKind.name]
  refine hblock.congr fun ts g' rest => ?_
  constructor
  · rintro ⟨_, mid, hword, mid', hopen, b, rfl, hb, hfit, rfl⟩
    exact ⟨b, spells_first.2 ⟨_, hword, spells_first.2 ⟨_, hopen, hb⟩⟩, nofun, hfit, rfl⟩
  · rintro ⟨b, hb, -, hfit, rfl⟩
    obtain ⟨mid, hword, hb⟩ := spells_first.1 hb
    obtain ⟨mid', hopen, hb⟩ := spells_first.1 hb
    exact ⟨b.word, mid, hword, mid', hopen, b, rfl, hb, hfit, rfl⟩

theorem reads_imports (g : Graph) (opening : Token) :
    ReadsBefore .marker (do return { g with imports := ← whileIdentifier readImport [] })
      (sectionItems.One "import" opening g) := by
  refine ((importItems.readsBefore_whileIdentifier reads_readImport []).map fun imports =>
    { g with imports }).congr fun ts g' rest _ => ?_
  constructor
  · rintro ⟨_, ⟨plugins, hp, hfit, rfl⟩, rfl⟩
    exact ⟨.imports plugins, rfl, hp, hfit, rfl⟩
  · rintro ⟨plugins | _, hw, hp, hfit, rfl⟩
    · exact ⟨_, ⟨plugins, hp, hfit, rfl⟩, rfl⟩
    · exact absurd hw (by simp [sectionItems, Section.word])

theorem reads_blocks (g : Graph) (opening : Token) :
    ReadsBefore .marker (do
        match ← identifierOnLine? opening.position.line with
        | some name => whileIdentifier readBlock { g with name }
        | none => whileIdentifier readBlock g)
      (sectionItems.One "graph" opening g) := by
  have hblocks : ∀ name? : Option String, ReadsBefore .marker
      (match name? with
        | some name => whileIdentifier readBlock { g with name }
        | none => whileIdentifier readBlock g) fun ts g' rest =>
      ∃ blocks, Spells (blocks.flatMap Block.kinds) ts rest ∧ blockItems.Fit (g.withName name?) blocks ∧
        g' = blocks.foldl blockItems.add (g.withName name?) := by
    rintro (_ | name)
    · exact blockItems.readsBefore_whileIdentifier reads_readBlock g
    · exact blockItems.readsBefore_whileIdentifier reads_readBlock { g with name }
  refine ((reads_identifierOnLine? opening.position.line).bindBefore hblocks).congr fun ts g' rest hrest => ?_
  constructor
  · rintro ⟨name?, mid, ⟨name, rfl, t, rfl, hname⟩ | ⟨rfl, rfl, hno⟩, blocks, ⟨body, rfl, hbody⟩, hfit, rfl⟩
    · exact ⟨.graph (some name) blocks, rfl, ⟨t :: body, rfl, body, ⟨t, rfl, hname⟩, hbody⟩, hfit, rfl⟩
    · refine ⟨.graph none blocks, rfl, ⟨body, rfl, hbody, ?_⟩, hfit, rfl⟩
      rintro name more ⟨t, rfl, hname⟩
      exact hno name _ ⟨t, rfl, hname⟩
  · rintro ⟨_ | ⟨_ | name, blocks⟩, hw, ⟨body, rfl, hbody⟩, hfit, rfl⟩
    · exact absurd hw (by simp [sectionItems, Section.word])
    · refine ⟨none, _, .inr ⟨rfl, rfl, ?_⟩, blocks, ⟨body, rfl, hbody.1⟩, hfit, rfl⟩
      rintro name more ⟨t, ht, hname⟩
      -- The identifier would belong to the body, or be the closing marker.
      cases body with
      | nil =>
        obtain ⟨marker, after, rfl, hmarker⟩ := hrest
        cases ht
        simp [hmarker] at hname
      | cons first body =>
        cases ht
        exact hbody.2 name body ⟨t, rfl, hname⟩
    · obtain ⟨more, ⟨t, rfl, hname⟩, hbody⟩ := hbody
      exact ⟨some name, _, .inl ⟨name, rfl, t, rfl, hname⟩, blocks, ⟨more, rfl, hbody⟩, hfit, rfl⟩

theorem reads_readSection (word : String) (opening : Token) (g : Graph) :
    ReadsBefore .marker (readSection word opening g) (sectionItems.One word opening g) := by
  unfold readSection
  split
  · exact reads_imports g opening
  · exact reads_blocks g opening
  · refine ((reads_failAt _ _).before .marker).congr fun ts g' rest _ => ⟨False.elim, ?_⟩
    rintro ⟨_ | _, rfl, -⟩ <;> simp_all [sectionItems, Section.word]

theorem reads_readGraph :
    Reads readGraph fun ts g rest =>
      ∃ written, sectionItems.Written written ts ∧ rest = [] ∧ (written.map Section.word).Nodup ∧
        "graph" ∈ written.map Section.word ∧ sectionItems.Fit (.named "") written ∧
        g = written.foldl sectionItems.add (.named "") := by
  have hgraph : ∀ read : Graph × List String,
      Reads (if "graph" ∈ read.2 then pure read.1 else unexpected "expected a '-- graph' section")
        fun ts g rest => "graph" ∈ read.2 ∧ g = read.1 ∧ ts = rest := by
    rintro ⟨g, seen⟩
    split
    · rename_i hseen
      exact (reads_pure g).congr fun ts g' rest => by simp [hseen]
    · rename_i hseen
      exact (reads_unexpected _).congr fun ts g' rest => by simp [hseen]
  refine ((sectionItems.reads_sections reads_readSection _).bind hgraph).congr fun ts g rest => ?_
  constructor
  · rintro ⟨_, _, ⟨written, hw, rfl, hn, hfit, rfl⟩, hseen, rfl, rfl⟩
    exact ⟨written, hw, rfl, hn, hseen, hfit, rfl⟩
  · rintro ⟨written, hw, rfl, hn, hseen, hfit, rfl⟩
    exact ⟨_, _, ⟨written, hw, rfl, hn, hfit, rfl⟩, hseen, rfl, rfl⟩

/-! ## Derivations -/

/-- The tokens are written for these sections, as the format demands. -/
structure Derives (tokens : List Token) (written : List Section) : Prop where
  sections : sectionItems.Written written tokens
  words : (written.map Section.word).Nodup
  graph : "graph" ∈ written.map Section.word
  imports : ∀ plugins, Section.imports plugins ∈ written → plugins.Nodup
  ids : ((written.flatMap Section.nodes).map WrittenNode.id).Nodup

/-- The entry of a node in the graph. -/
def WrittenNode.entry (n : WrittenNode) : String × Node := (n.id, n.node)

section Node

variable (n : WrittenNode)

@[simp] theorem node_id : n.node.id = n.id := parameterItems.foldl_keeps (f := Node.id) (fun _ _ => rfl) _ _

@[simp] theorem node_plugin : n.node.plugin = n.plugin :=
  parameterItems.foldl_keeps (f := Node.plugin) (fun _ _ => rfl) _ _

@[simp] theorem node_type : n.node.type = n.type := parameterItems.foldl_keeps (f := Node.type) (fun _ _ => rfl) _ _

theorem parameters_foldl (node : Node) (ps : List (String × Literal)) :
    (ps.foldl parameterItems.add node).parameters =
      (ps.map fun p => (p.1, p.2.value)).foldl (fun m p => m.insert p.1 p.2) node.parameters := by
  induction ps generalizing node with
  | nil => rfl
  | cons p ps ih => exact ih _

theorem parameters_node :
    n.node.parameters = (n.parameters.map fun p => (p.1, p.2.value)).foldl (fun m p => m.insert p.1 p.2) ∅ :=
  parameters_foldl (.named n.id n.plugin n.type) n.parameters

/-- Parameters of distinct ports are kept in their order. -/
theorem node_parameters (h : (n.parameters.map Prod.fst).Nodup) :
    n.node.parameters.entries = n.parameters.map fun p => (p.1, p.2.value) := by
  have hkeys : ((∅ : OrderedMap Json).keys ++ (n.parameters.map fun p => (p.1, p.2.value)).map Prod.fst).Nodup := by
    simpa [Function.comp_def] using h
  rw [parameters_node, OrderedMap.entries_foldl_insert hkeys]
  rfl

end Node

section Contents

variable {g : Graph}

theorem entries_addNode {n : WrittenNode} (h : n.id ∉ g.ids) :
    (g.addNode n.node).nodes.entries = g.nodes.entries ++ [n.entry] := by
  unfold addNode
  rw [node_id]
  exact OrderedMap.entries_insert_of_not_mem h _

/-! What one block adds, and what it leaves. -/

theorem nodes_addBlock {b : Block} (h : blockItems.fits g b) :
    (blockItems.add g b).nodes.entries = g.nodes.entries ++ b.declaredNodes.map WrittenNode.entry := by
  cases b with
  | nodes written =>
    rw [List.map_eq_flatMap]
    exact nodeItems.foldl_append (f := fun g => g.nodes.entries) (fun _ _ => entries_addNode) h
  | connections kind ends =>
    exact ((connectionItems kind).foldl_keeps (f := fun g => g.nodes.entries) (fun _ _ => rfl) g ends).trans
      (List.append_nil _).symm
  | entry ids =>
    exact (entryItems.foldl_keeps (f := fun g => g.nodes.entries) (fun _ _ => rfl) g ids).trans (List.append_nil _).symm

theorem connections_addBlock {b : Block} (h : blockItems.fits g b) :
    (blockItems.add g b).connections = g.connections ++ b.declaredConnections := by
  cases b with
  | nodes written =>
    exact (nodeItems.foldl_keeps (f := Graph.connections) (fun _ _ => rfl) g written).trans (List.append_nil _).symm
  | connections kind ends =>
    rw [Block.declaredConnections, List.map_eq_flatMap]
    exact (connectionItems kind).foldl_append (f := Graph.connections) (fun _ _ _ => rfl) h
  | entry ids =>
    exact (entryItems.foldl_keeps (f := Graph.connections) (fun _ _ => rfl) g ids).trans (List.append_nil _).symm

theorem entries_addBlock {b : Block} (h : blockItems.fits g b) :
    (blockItems.add g b).declaredEntries = g.declaredEntries ++ b.declaredEntries := by
  cases b with
  | nodes written =>
    exact (nodeItems.foldl_keeps (f := Graph.declaredEntries) (fun _ _ => rfl) g written).trans (List.append_nil _).symm
  | connections kind ends =>
    exact ((connectionItems kind).foldl_keeps (f := Graph.declaredEntries) (fun _ _ => rfl) g ends).trans
      (List.append_nil _).symm
  | entry ids =>
    have hids : ids = ids.flatMap fun id => [id] := (List.flatMap_singleton' ids).symm
    rw [Block.declaredEntries, hids]
    exact hids ▸ entryItems.foldl_append (f := Graph.declaredEntries) (fun _ _ _ => rfl) h

/-- Blocks concern neither the name nor the imports. -/
theorem frame_addBlock (g : Graph) (b : Block) :
    ((blockItems.add g b).name, (blockItems.add g b).imports) = (g.name, g.imports) := by
  cases b with
  | nodes written => exact nodeItems.foldl_keeps (f := fun g => (g.name, g.imports)) (fun _ _ => rfl) _ _
  | connections kind ends =>
    exact (connectionItems kind).foldl_keeps (f := fun g => (g.name, g.imports)) (fun _ _ => rfl) _ _
  | entry ids => exact entryItems.foldl_keeps (f := fun g => (g.name, g.imports)) (fun _ _ => rfl) _ _

/-! What one section adds, and what it sets. -/

theorem nodes_addSection {s : Section} (h : sectionItems.fits g s) :
    (sectionItems.add g s).nodes.entries = g.nodes.entries ++ s.nodes.map WrittenNode.entry := by
  cases s with
  | imports plugins => exact (List.append_nil _).symm
  | graph name? blocks =>
    rw [Section.nodes, List.map_flatMap]
    exact blockItems.foldl_append (f := fun g => g.nodes.entries) (fun _ _ => nodes_addBlock) h

theorem connections_addSection {s : Section} (h : sectionItems.fits g s) :
    (sectionItems.add g s).connections = g.connections ++ s.connections := by
  cases s with
  | imports plugins => exact (List.append_nil _).symm
  | graph name? blocks => exact blockItems.foldl_append (f := Graph.connections) (fun _ _ => connections_addBlock) h

theorem entries_addSection {s : Section} (h : sectionItems.fits g s) :
    (sectionItems.add g s).declaredEntries = g.declaredEntries ++ s.entries := by
  cases s with
  | imports plugins => exact (List.append_nil _).symm
  | graph name? blocks => exact blockItems.foldl_append (f := Graph.declaredEntries) (fun _ _ => entries_addBlock) h

theorem foldl_importItems (imports plugins : List String) :
    plugins.foldl importItems.add imports = imports ++ plugins := by
  induction plugins generalizing imports with
  | nil => simp
  | cons plugin plugins ih => exact (ih _).trans (by simp [importItems])

theorem imports_addSection (g : Graph) (s : Section) :
    (sectionItems.add g s).imports = s.imports?.getD g.imports := by
  cases s with
  | imports plugins => exact foldl_importItems [] plugins
  | graph name? blocks =>
    exact congrArg Prod.snd (blockItems.foldl_keeps (f := fun g => (g.name, g.imports)) frame_addBlock _ _)

theorem name_addSection (g : Graph) (s : Section) : (sectionItems.add g s).name = s.name?.getD g.name := by
  cases s with
  | imports plugins => rfl
  | graph name? blocks =>
    exact congrArg Prod.fst (blockItems.foldl_keeps (f := fun g => (g.name, g.imports)) frame_addBlock _ _)

/-! Where everything fits. -/

theorem ids_of_entries {g' : Graph} {l : List WrittenNode}
    (h : g'.nodes.entries = g.nodes.entries ++ l.map WrittenNode.entry) : g'.ids = g.ids ++ l.map WrittenNode.id := by
  simp [Graph.ids, OrderedMap.keys, h, WrittenNode.entry, Function.comp_def]

theorem fits_block_iff (hg : g.ids.Nodup) (b : Block) :
    blockItems.fits g b ↔ (g.ids ++ b.declaredNodes.map WrittenNode.id).Nodup := by
  cases b with
  | nodes written =>
    exact nodeItems.fit_iff_new WrittenNode.id Graph.ids (fun _ _ => .rfl)
      (fun _ n hn => ids_of_entries (l := [n]) (entries_addNode hn)) hg written
  | connections kind ends =>
    refine iff_of_true ((connectionItems kind).fit_of_forall (fun _ _ => trivial) g ends) ?_
    simpa [Block.declaredNodes] using hg
  | entry ids =>
    refine iff_of_true (entryItems.fit_of_forall (fun _ _ => trivial) g ids) ?_
    simpa [Block.declaredNodes] using hg

theorem fits_section_iff (hg : g.ids.Nodup) (s : Section) :
    sectionItems.fits g s ↔
      (∀ plugins, s.imports? = some plugins → plugins.Nodup) ∧ (g.ids ++ s.nodes.map WrittenNode.id).Nodup := by
  cases s with
  | imports plugins =>
    have h : importItems.Fit [] plugins ↔ plugins.Nodup := by
      simpa using importItems.fit_iff_new id id (fun _ _ => .rfl) (fun _ _ _ => rfl) List.nodup_nil plugins
    exact h.trans (by simp [Section.imports?, Section.nodes, Section.blocks, hg])
  | graph name? blocks =>
    have h : blockItems.Fit (g.withName name?) blocks ↔
          (g.ids ++ (Section.graph name? blocks).nodes.map WrittenNode.id).Nodup := by
      rw [Section.nodes, List.map_flatMap]
      exact blockItems.fit_iff_nodup Graph.ids (s := g.withName name?) (fun _ b hg => fits_block_iff hg b)
        (fun _ _ hb => ids_of_entries (nodes_addBlock hb)) hg blocks
    exact h.trans (by simp [Section.imports?])

theorem fit_iff {written : List Section} :
    sectionItems.Fit (.named "") written ↔
      (∀ s ∈ written, ∀ plugins, s.imports? = some plugins → plugins.Nodup) ∧
        ((written.flatMap Section.nodes).map WrittenNode.id).Nodup := by
  rw [List.map_flatMap]
  exact sectionItems.fit_iff Graph.ids (s := .named "") (fun _ s hg => fits_section_iff hg s)
    (fun _ _ hs => ids_of_entries (nodes_addSection hs)) List.nodup_nil written

end Contents

/-- The graph that the sections make. -/
def ofSections (written : List Section) : Graph := written.foldl sectionItems.add (.named "")

/-- A text is read if its tokens have a derivation, and as any of them says. -/
theorem parse_eq_ok_iff {source : String} {tokens : List Token} (htokens : tokenize .weave source = .ok tokens)
    {g : Graph} :
    parse source = .ok g ↔ ∃ written, Derives tokens written ∧ g = ofSections written := by
  rw [parse, Parser.parse_eq_ok_iff htokens reads_readGraph]
  constructor
  · rintro ⟨_, written, hw, rfl, hwords, hgraph, hfit, rfl⟩
    obtain ⟨himports, hids⟩ := fit_iff.1 hfit
    exact ⟨written, ⟨hw, hwords, hgraph, fun plugins hp => himports _ hp plugins rfl, hids⟩, rfl⟩
  · rintro ⟨written, ⟨hw, hwords, hgraph, himports, hids⟩, rfl⟩
    refine ⟨[], written, hw, rfl, hwords, hgraph, fit_iff.2 ⟨?_, hids⟩, rfl⟩
    rintro (plugins | _) hs _ ⟨⟩
    exact himports plugins hs

/-- The entry of the graph is that of the node, whose parameters stand in their order unless a port is
set twice. -/
structure WrittenNode.Describes (n : WrittenNode) (e : String × Node) : Prop where
  key : e.1 = n.id
  id : e.2.id = n.id
  plugin : e.2.plugin = n.plugin
  type : e.2.type = n.type
  parameters : (n.parameters.map Prod.fst).Nodup → e.2.parameters.entries = n.parameters.map fun p => (p.1, p.2.value)

/-- The graph lists what the sections say, in the order they say it. -/
structure Lists (g : Graph) (written : List Section) : Prop where
  name : g.name = (written.findSome? Section.name?).getD ""
  imports : g.imports = (written.findSome? Section.imports?).getD []
  nodes : List.Forall₂ WrittenNode.Describes (written.flatMap Section.nodes) g.nodes.entries
  connections : g.connections = written.flatMap Section.connections
  entries : g.declaredEntries = written.flatMap Section.entries

theorem describes_entry (n : WrittenNode) : n.Describes n.entry where
  key := rfl
  id := node_id n
  plugin := node_plugin n
  type := node_type n
  parameters := node_parameters n

theorem Derives.fit {tokens : List Token} {written : List Section} (h : Derives tokens written) :
    sectionItems.Fit (.named "") written :=
  fit_iff.2 ⟨fun s hs plugins hp => by cases s <;> cases hp; exact h.imports plugins hs, h.ids⟩

theorem Derives.entries {tokens : List Token} {written : List Section} (h : Derives tokens written) :
    (ofSections written).nodes.entries = (written.flatMap Section.nodes).map WrittenNode.entry := by
  rw [List.map_flatMap]
  exact sectionItems.foldl_append (f := fun g => g.nodes.entries) (fun _ _ => nodes_addSection) h.fit

/-- Parameters have values that were written as literals. -/
theorem parse_parameters {source : String} {g : Graph} (h : parse source = .ok g) {id : String} {node : Node}
    (hnode : g.nodes.get? id = some node) : ∀ p ∈ node.parameters.entries, ∃ l : Literal, p.2 = l.value := by
  obtain ⟨tokens, htokens⟩ := tokenize_of_parse h
  obtain ⟨written, hd, rfl⟩ := (parse_eq_ok_iff htokens).1 h
  have hm := OrderedMap.mem_of_get? hnode
  rw [hd.entries] at hm
  obtain ⟨n, -, he⟩ := List.mem_map.1 hm
  cases he
  intro p hp
  rw [parameters_node] at hp
  rcases OrderedMap.mem_foldl_insert hp with hp | hp
  · cases hp
  · obtain ⟨q, -, rfl⟩ := List.mem_map.1 hp
    exact ⟨q.2, rfl⟩

theorem Derives.lists {tokens : List Token} {written : List Section} (h : Derives tokens written) :
    (ofSections written).Lists written where
  name := sectionItems.foldl_sets (w := "graph") name_addSection
    (fun s hs => by cases s <;> first | rfl | exact absurd rfl hs) _ h.words
  imports := sectionItems.foldl_sets (w := "import") imports_addSection
    (fun s hs => by cases s <;> first | rfl | exact absurd rfl hs) _ h.words
  nodes := by
    rw [h.entries, List.forall₂_map_right_iff]
    exact List.forall₂_same.2 fun n _ => describes_entry n
  connections := sectionItems.foldl_append (f := Graph.connections) (fun _ _ => connections_addSection) h.fit
  entries := sectionItems.foldl_append (f := Graph.declaredEntries) (fun _ _ => entries_addSection) h.fit

/-- A text is read if and only if its tokens derive from the grammar, and the graph that is read lists
what the text declares in its order. -/
theorem parse_succeeds_iff_derives {source : String} {tokens : List Token}
    (htokens : tokenize .weave source = .ok tokens) :
    ((∃ g, parse source = .ok g) ↔ ∃ written, Derives tokens written) ∧
      ∀ g written, parse source = .ok g → Derives tokens written → g.Lists written := by
  constructor
  · constructor
    · rintro ⟨g, hg⟩
      obtain ⟨written, hd, -⟩ := (parse_eq_ok_iff htokens).1 hg
      exact ⟨written, hd⟩
    · rintro ⟨written, hd⟩
      exact ⟨_, (parse_eq_ok_iff htokens).2 ⟨written, hd, rfl⟩⟩
  · intro g written hg hd
    have hg' : parse source = .ok (ofSections written) := (parse_eq_ok_iff htokens).2 ⟨written, hd, rfl⟩
    obtain rfl : g = ofSections written := Except.ok.inj (hg.symm.trans hg')
    exact hd.lists

/-- A description whose graph has the name of a block and declares its nodes in two. -/
def twoBlocks : String :=
  "-- graph nodes\nnodes \x7b a: p.T \x7b x = 1 \x7d \x7d nodes \x7b b: p.T \x7d --"

set_option maxRecDepth 2000 in
theorem twoBlocks_succeeds :
    ∃ tokens written, ∃ g : Graph, tokenize .weave twoBlocks = .ok tokens ∧ Derives tokens written ∧ g.Lists written ∧
      g.name = "nodes" ∧ g.ids = ["a", "b"] := by
  have hcount : (tokenize .weave twoBlocks).map List.length = .ok 25 := by cbv
  have hread : (parse twoBlocks).map (fun g => (g.name, g.ids)) = .ok ("nodes", ["a", "b"]) := by cbv
  obtain ⟨tokens, htokens, -⟩ := Except.map_eq_ok_iff.1 hcount
  obtain ⟨g, hgraph, hg⟩ := Except.map_eq_ok_iff.1 hread
  obtain ⟨hiff, hlists⟩ := parse_succeeds_iff_derives htokens
  obtain ⟨written, hd⟩ := hiff.1 ⟨g, hgraph⟩
  exact ⟨tokens, written, g, htokens, hd, hlists g written hgraph hd, congrArg Prod.fst hg, congrArg Prod.snd hg⟩

end Dataflow.Graph
