import Dataflow.Proofs.Graph.Grammar
import Dataflow.Proofs.Token.Naming
/-!
# Names in a graph that is read

The id of a node is written as an identifier, so the ids of a graph that is read have no dots
(`dot_not_mem_id`). Ports are not all written: a plugin may give outputs under any texts.
-/

namespace Dataflow

theorem Parser.Sections.Written.exists_body {σ ι : Type} {F : Parser.Sections σ ι} {xs : List ι} {ts : List Token}
    (h : F.Written xs ts) {x : ι} (hx : x ∈ xs) : ∃ line body, F.Body x line body ∧ ∀ t ∈ body, t ∈ ts := by
  induction xs generalizing ts with
  | nil => cases hx
  | cons y ys ih =>
    obtain ⟨rest, ⟨opening, word, body, closing, rfl, -, -, -, hbody, -⟩, hrest⟩ := h
    rcases List.mem_cons.1 hx with rfl | hx
    · exact ⟨_, body, hbody, fun t ht => by simp [ht]⟩
    · obtain ⟨line, body', hbody', hsub⟩ := ih hrest hx
      exact ⟨line, body', hbody', fun t ht => by simp [hsub t ht]⟩

namespace Graph

open Lexeme
open Dataflow.Parser

theorem Block.id_mem_kinds {b : Block} {n : WrittenNode} (hn : n ∈ b.declaredNodes) : .identifier n.id ∈ b.kinds := by
  cases b with
  | nodes written =>
    have hbody : TokenKind.identifier n.id ∈ (Block.nodes written).body :=
      List.mem_flatMap.2 ⟨n, hn, List.mem_cons_self⟩
    simp [Block.kinds, hbody]
  | connections kind ends => cases hn
  | entry ids => cases hn

theorem Section.Body.kind_mem {s : Section} {line : Nat} {body : List Token} (h : s.Body line body) {b : Block}
    (hb : b ∈ s.blocks) {kind : TokenKind} (hkind : kind ∈ b.kinds) : kind ∈ body.map Token.kind := by
  have hkinds : ∀ blocks : List Block, b ∈ blocks → kind ∈ blocks.flatMap Block.kinds :=
    fun blocks hb => List.mem_flatMap.2 ⟨b, hb, hkind⟩
  rcases s with plugins | ⟨_ | name, blocks⟩
  · cases hb
  · exact h.1 ▸ hkinds blocks hb
  · obtain ⟨more, ⟨t, rfl, -⟩, hmore⟩ := h
    rw [List.map_cons, hmore]
    exact List.mem_cons_of_mem _ (hkinds blocks hb)

theorem Derives.id_mem_kinds {tokens : List Token} {written : List Section} (h : Derives tokens written)
    {n : WrittenNode} (hn : n ∈ written.flatMap Section.nodes) : .identifier n.id ∈ tokens.map Token.kind := by
  obtain ⟨s, hs, hn⟩ := List.mem_flatMap.1 hn
  obtain ⟨b, hb, hn⟩ := List.mem_flatMap.1 hn
  obtain ⟨line, body, hbody, hsub⟩ := h.sections.exists_body hs
  obtain ⟨t, ht, hkind⟩ := List.mem_map.1 (Section.Body.kind_mem hbody hb (Block.id_mem_kinds hn))
  exact List.mem_map.2 ⟨t, hsub t ht, hkind⟩

theorem isName_of_mem_ids {source : String} {g : Graph} (h : parse source = .ok g) {id : String} (hid : id ∈ g.ids) :
    isName id = true := by
  obtain ⟨tokens, htokens⟩ := tokenize_of_parse h
  obtain ⟨written, hd, rfl⟩ := (parse_eq_ok_iff htokens).1 h
  rw [ids, OrderedMap.keys, hd.entries, List.map_map] at hid
  obtain ⟨n, hn, rfl⟩ := List.mem_map.1 hid
  exact isName_of_mem htokens (hd.id_mem_kinds hn)

theorem dot_not_mem_id {source : String} {g : Graph} (h : parse source = .ok g) {id : String} (hid : id ∈ g.ids) :
    '.' ∉ id.toList :=
  dot_not_mem_of_isName (isName_of_mem_ids h hid)

end Graph

end Dataflow
