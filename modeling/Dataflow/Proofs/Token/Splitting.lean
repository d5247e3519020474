import Mathlib.Data.List.DropRight
import Dataflow.Proofs.Token.Spelling
/-!
# Splitting a text

A `Split` cuts a text into lexemes and the gaps around them. A text has tokens if and only if it has a
proper split. It has no other then, and the tokens are those that the lexemes spell, each at the place
where its lexeme starts (`tokenize_eq_ok_iff_split`).

Read from its start, a proper split is one lexeme or one piece of a gap after the other (`Split.push`),
which is how a text is tokenized.
-/

namespace Dataflow

namespace Position

/-- The place behind these characters: lines are counted by the newlines among them, and columns by the
characters since the last newline. -/
def behind (before : List Char) : Position :=
  ⟨1 + before.count '\n', 1 + (before.rtakeWhile (· ≠ '\n')).length⟩

theorem behind_concat (before : List Char) (c : Char) : behind (before ++ [c]) = (behind before).after c := by
  by_cases hc : c = '\n'
  · subst hc
    simp [behind, after]
    omega
  · simp [behind, after, hc]
    omega

theorem behind_append (before cs : List Char) : behind (before ++ cs) = (behind before).advance cs := by
  induction cs generalizing before with
  | nil => simp
  | cons c cs ih =>
    rw [advance_cons, ← behind_concat, ← ih]
    simp

end Position

/-- What may stand between lexemes in front of `after`. -/
inductive Gap : List Char → List Char → Prop
  | nil {after : List Char} : Gap [] after
  | cons {piece cs after : List Char} : Skipped piece (cs ++ after) → Gap cs after → Gap (piece ++ cs) after

/-- A text that is cut up: a gap and a lexeme, again and again, and a last gap. -/
inductive Split where
  | last (gap : List Char)
  | cut (gap lexeme : List Char) (kind : TokenKind) (rest : Split)

namespace Split

def text : Split → List Char
  | .last gap => gap
  | .cut gap lexeme _ rest => gap ++ (lexeme ++ rest.text)

/-- Every gap is one, and every lexeme spells its token and goes on as far as it can. -/
def Proper : Split → Prop
  | .last gap => Gap gap []
  | .cut gap lexeme kind rest =>
    Gap gap (lexeme ++ rest.text) ∧ kind.Spelling lexeme ∧ kind.EndsBefore rest.text ∧ rest.Proper

/-- The tokens of a text that stands behind `before`. -/
def tokensBehind (before : List Char) : Split → List Token
  | .last _ => []
  | .cut gap lexeme kind rest =>
    ⟨kind, .behind (before ++ gap), kind.shown lexeme⟩ :: rest.tokensBehind (before ++ gap ++ lexeme)

def tokens (s : Split) : List Token := s.tokensBehind []

/-! ## One lexeme more -/

/-- The split with a piece of a gap in front. -/
def prepend (piece : List Char) : Split → Split
  | .last gap => .last (piece ++ gap)
  | .cut gap lexeme kind rest => .cut (piece ++ gap) lexeme kind rest

/-- The split with a lexeme in front that starts with `c`. -/
def push (c : Char) (l : Lexeme) (s : Split) : Split :=
  match l.token? with
  | some (kind, _) => .cut [] (c :: l.more) kind s
  | none => s.prepend (c :: l.more)

variable {s : Split} {c : Char} {l : Lexeme}

theorem text_prepend (piece : List Char) (s : Split) : (s.prepend piece).text = piece ++ s.text := by
  cases s <;> simp [prepend, text]

theorem text_push (c : Char) (l : Lexeme) (s : Split) : (s.push c l).text = c :: (l.more ++ s.text) := by
  unfold push
  split
  · simp [text]
  · simp [text_prepend]

theorem tokensBehind_prepend (before piece : List Char) (s : Split) :
    (s.prepend piece).tokensBehind before = s.tokensBehind (before ++ piece) := by
  cases s <;> simp [prepend, tokensBehind]

theorem tokensBehind_push (h : l.Stands c s.text) (before : List Char) :
    (s.push c l).tokensBehind before = l.tokens (.behind before) ++ s.tokensBehind (before ++ c :: l.more) := by
  obtain ⟨more, _ | ⟨kind, text⟩⟩ := l
  · simp [push, Lexeme.tokens, tokensBehind_prepend]
  · obtain ⟨-, -, htext⟩ := h
    dsimp only at htext
    simp [push, Lexeme.tokens, tokensBehind, htext]

theorem proper_push (h : l.Stands c s.text) (hs : s.Proper) : (s.push c l).Proper := by
  obtain ⟨more, _ | ⟨kind, text⟩⟩ := l
  · cases s with
    | last gap =>
      have hpiece : Skipped (c :: more) (gap ++ []) := by
        rw [List.append_nil]
        exact h
      exact Gap.cons hpiece hs
    | cut gap lexeme kind rest => exact ⟨.cons h hs.1, hs.2⟩
  · exact ⟨.nil, h.1, h.2.1, hs⟩

theorem exists_lexeme_of_skipped {piece after : List Char} (h : Skipped piece after) :
    ∃ c more, piece = c :: more ∧ (Lexeme.gap more).Stands c after := by
  cases h with
  | @blank c _ hc => exact ⟨c, [], rfl, .blank hc⟩
  | @comment text _ htext hafter => exact ⟨'/', '/' :: text, rfl, .comment htext hafter⟩

/-- The empty text has one split, and any other starts with a lexeme or a piece of a gap. -/
theorem Proper.cases_push (hs : s.Proper) :
    s = .last [] ∨ ∃ c l, ∃ rest : Split, s = rest.push c l ∧ l.Stands c rest.text ∧ rest.Proper := by
  cases s with
  | last gap =>
    cases hs with
    | nil => exact .inl rfl
    | @cons piece gap _ hpiece hgap =>
      rw [List.append_nil] at hpiece
      obtain ⟨c, more, rfl, hstands⟩ := exists_lexeme_of_skipped hpiece
      exact .inr ⟨c, .gap more, .last gap, rfl, hstands, hgap⟩
  | cut gap lexeme kind rest =>
    obtain ⟨hgap, hspelling, hends, hrest⟩ := hs
    cases hgap with
    | nil =>
      obtain ⟨c, more, rfl⟩ := List.exists_cons_of_ne_nil hspelling.ne_nil
      exact .inr ⟨c, ⟨more, some (kind, kind.shown (c :: more))⟩, rest, rfl, ⟨hspelling, hends, rfl⟩, hrest⟩
    | @cons piece gap _ hpiece hgap =>
      obtain ⟨c, more, rfl, hstands⟩ := exists_lexeme_of_skipped hpiece
      exact .inr ⟨c, .gap more, .cut gap lexeme kind rest, rfl, hstands, hgap, hspelling, hends, hrest⟩

/-- What holds of the split of the empty text and is kept by one lexeme more holds of all proper splits. -/
theorem Proper.induction {motive : (s : Split) → s.Proper → Prop} (last : motive (.last []) .nil)
    (push : ∀ c l (s : Split) (h : l.Stands c s.text) (hs : s.Proper), motive s hs →
      motive (s.push c l) (proper_push h hs)) {s : Split} (hs : s.Proper) : motive s hs := by
  generalize hn : s.text.length = n
  induction n using Nat.strongRecOn generalizing s with
  | ind n ih =>
    rcases hs.cases_push with rfl | ⟨c, l, rest, rfl, hstands, hrest⟩
    · exact last
    · have hlt : rest.text.length < n := by
        rw [← hn, text_push, List.length_cons, List.length_append]
        omega
      exact push c l rest hstands hrest (ih _ hlt hrest rfl)

/-! ## Tokenizing -/

theorem tokensFrom_of_proper (language : Language) (hs : s.Proper) (before : List Char) :
    tokensFrom language (.behind before) s.text = .ok (s.tokensBehind before) := by
  induction hs using Proper.induction generalizing before with
  | last => rw [text, tokensFrom, tokensBehind]
  | push c l s hstands hs ih =>
    rw [text_push, tokensBehind_push hstands]
    apply tokensFrom_read (Lexeme.read_of_stands hstands)
    rw [← Position.behind_append]
    exact ih _

theorem exists_split_of_tokensFrom {language : Language} {before cs : List Char} {tokens : List Token}
    (h : tokensFrom language (.behind before) cs = .ok tokens) : ∃ s : Split, s.Proper ∧ s.text = cs := by
  generalize hn : cs.length = n
  induction n using Nat.strongRecOn generalizing before cs tokens with
  | ind n ih =>
    cases cs with
    | nil => exact ⟨.last [], .nil, rfl⟩
    | cons c rest =>
      rw [tokensFrom] at h
      cases hread : Lexeme.read c rest with
      | error refusal => simp [hread] at h
      | ok l =>
        obtain ⟨after, rfl, hstands⟩ := Lexeme.read_eq_ok_iff.1 hread
        simp only [hread, List.drop_left, ← Position.behind_append] at h
        cases hlater : tokensFrom language (.behind (before ++ c :: l.more)) after with
        | error e => simp [hlater] at h
        | ok later =>
          have hlt : after.length < n := by
            rw [← hn, List.length_cons, List.length_append]
            omega
          obtain ⟨s, hs, rfl⟩ := ih _ hlt hlater rfl
          exact ⟨s.push c l, proper_push hstands hs, text_push c l s⟩

/-- A text has one proper split at most. -/
theorem Proper.unique {s' : Split} (hs : s.Proper) (hs' : s'.Proper) (htext : s.text = s'.text) : s = s' := by
  induction hs using Proper.induction generalizing s' with
  | last =>
    rcases hs'.cases_push with rfl | ⟨c, l, rest, rfl, -, -⟩
    · rfl
    · simp [text_push, text] at htext
  | push c l s hstands hs ih =>
    rcases hs'.cases_push with rfl | ⟨c', l', rest, rfl, hstands', hrest⟩
    · simp [text_push, text] at htext
    · -- The same lexeme is read from the same characters.
      rw [text_push, text_push] at htext
      obtain ⟨rfl, hmore⟩ := List.cons.inj htext
      have hread := Lexeme.read_of_stands hstands
      rw [hmore, Lexeme.read_of_stands hstands'] at hread
      cases hread
      rw [ih hrest (List.append_cancel_left hmore)]

end Split

theorem exists_split_of_tokenize {language : Language} {source : String} {tokens : List Token}
    (h : tokenize language source = .ok tokens) :
    ∃ s : Split, s.Proper ∧ s.text = source.toList ∧ s.tokens = tokens := by
  have hstart : tokensFrom language (.behind []) source.toList = .ok tokens := h
  obtain ⟨s, hs, htext⟩ := Split.exists_split_of_tokensFrom hstart
  rw [← htext, Split.tokensFrom_of_proper language hs, Except.ok.injEq] at hstart
  exact ⟨s, hs, htext, hstart⟩

/-- Both formats have the same tokens. -/
theorem tokenize_eq_ok_of_language {language : Language} {source : String} {tokens : List Token}
    (h : tokenize language source = .ok tokens) (language' : Language) : tokenize language' source = .ok tokens := by
  obtain ⟨s, hs, htext, rfl⟩ := exists_split_of_tokenize h
  rw [tokenize, ← htext]
  exact Split.tokensFrom_of_proper language' hs []

/-- A text has tokens if and only if it splits into gaps and lexemes. The tokens are those that the lexemes
spell, at the places of the lexemes, and there is no second way to split the text. -/
theorem tokenize_eq_ok_iff_split (language : Language) (source : String) :
    (∀ tokens, tokenize language source = .ok tokens ↔
      ∃ s : Split, s.Proper ∧ s.text = source.toList ∧ s.tokens = tokens) ∧
    ∀ s s' : Split, s.Proper → s'.Proper → s.text = source.toList → s'.text = source.toList → s = s' := by
  have hstart : Position.start = .behind [] := rfl
  constructor
  · intro tokens
    rw [tokenize, hstart]
    constructor
    · intro h
      obtain ⟨s, hs, htext⟩ := Split.exists_split_of_tokensFrom h
      rw [← htext, Split.tokensFrom_of_proper language hs, Except.ok.injEq] at h
      exact ⟨s, hs, htext, h⟩
    · rintro ⟨s, hs, htext, rfl⟩
      rw [← htext]
      exact Split.tokensFrom_of_proper language hs []
  · intro s s' hs hs' htext htext'
    exact hs.unique hs' (htext.trans htext'.symm)

/-- A name that a comment ends, an integer that a text ends, and a comment that the input ends. -/
def crowded : String := "--a// b\n -10\"\\n\"// c"

/-- How the crowded text is cut. -/
def crowdedSplit : Split :=
  .cut [] ['-', '-'] .marker <|
    .cut [] ['a'] (.identifier "a") <|
      .cut ['/', '/', ' ', 'b', '\n', ' '] ['-', '1', '0'] (.integer (-10)) <|
        .cut [] ['"', '\\', 'n', '"'] (.text "\n") <|
          .last ['/', '/', ' ', 'c']

theorem crowded_splits_once :
    crowdedSplit.Proper ∧ crowdedSplit.text = crowded.toList ∧
      tokenize .weave crowded = .ok [⟨.marker, ⟨1, 1⟩, "--"⟩, ⟨.identifier "a", ⟨1, 3⟩, "a"⟩,
        ⟨.integer (-10), ⟨2, 2⟩, "-10"⟩, ⟨.text "\n", ⟨2, 5⟩, "\"\n\""⟩] ∧
      ∀ s : Split, s.Proper → s.text = crowded.toList → s = crowdedSplit := by
  have hcomment : ∀ after, Skipped ['/', '/', ' ', 'b'] ('\n' :: after) := by
    intro after
    exact .comment (by decide) (by rintro _ ⟨⟩; rfl)
  have hremark : Skipped ['/', '/', ' ', 'c'] [] := .comment (by decide) (by rintro _ ⟨⟩)
  have hgap : ∀ after, Gap ['/', '/', ' ', 'b', '\n', ' '] after := by
    intro after
    have hspace : Gap [' '] after := Gap.cons (.blank (by decide)) .nil
    have hline : Gap ['\n', ' '] after := Gap.cons (.blank (by decide)) hspace
    exact Gap.cons (hcomment _) hline
  have hend : Gap ['/', '/', ' ', 'c'] [] := Gap.cons hremark .nil
  have hproper : crowdedSplit.Proper := by
    refine ⟨.nil, .marker, trivial, .nil, .identifier (by decide +kernel) nofun, ?_, hgap _, ?_, ?_,
      .nil, ?_, trivial, hend⟩
    · rintro _ ⟨⟩
      decide +kernel
    · exact .negative (by decide) (List.all_eq_true.1 rfl) (by decide)
    · rintro _ ⟨⟩
      decide
    · exact .text (.escape .newline .nil)
  have htext : crowdedSplit.text = crowded.toList := by decide
  obtain ⟨htokens, hunique⟩ := tokenize_eq_ok_iff_split .weave crowded
  refine ⟨hproper, htext, (htokens _).2 ⟨crowdedSplit, hproper, htext, ?_⟩, ?_⟩
  · decide
  · intro s hs hstext
    exact hunique s crowdedSplit hs hproper hstext htext

end Dataflow
