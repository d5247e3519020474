import Dataflow.Proofs.Token.Naming
/-!
# How tokens are shown

A token keeps a text that errors show. It is the lexeme with every escape replaced by the character that
the escape stands for (`Unescaped`). So the text is the slice of the source that the token was read from,
and has its length, unless that slice has an escape (`tokenize_text`).
-/

namespace Dataflow

open Text

/-- Characters and the same without escapes, each replaced by what it stands for. A backslash that
nothing follows is not one. -/
inductive Unescaped : List Char → List Char → Prop
  | nil : Unescaped [] []
  | last : Unescaped ['\\'] ['\\']
  | plain {c : Char} {cs shown : List Char} : c ≠ '\\' → Unescaped cs shown → Unescaped (c :: cs) (c :: shown)
  | escape {e c : Char} {cs shown : List Char} : Escape e c → Unescaped cs shown →
      Unescaped ('\\' :: e :: cs) (c :: shown)

/-- A backslash stands in front of another character. -/
def HasEscape (cs : List Char) : Prop := '\\' ∈ cs.dropLast

instance (cs : List Char) : Decidable (HasEscape cs) := inferInstanceAs (Decidable (_ ∈ _))

section Unescaped

variable {cs shown rest : List Char}

theorem hasEscape_cons {c : Char} : HasEscape (c :: cs) ↔ cs ≠ [] ∧ (c = '\\' ∨ HasEscape cs) := by
  cases cs with
  | nil => simp [HasEscape]
  | cons d cs => simp [HasEscape, eq_comm]

theorem unescaped_self (h : '\\' ∉ cs) : Unescaped cs cs := by
  induction cs with
  | nil => exact .nil
  | cons c cs ih =>
    simp only [List.mem_cons, not_or] at h
    exact .plain (Ne.symm h.1) (ih h.2)

theorem Unescaped.length_le (h : Unescaped cs shown) : shown.length ≤ cs.length := by
  induction h with
  | nil => simp
  | last => simp
  | plain _ _ ih => simpa using ih
  | escape _ _ ih =>
    simp only [List.length_cons]
    omega

theorem Unescaped.length_lt (h : Unescaped cs shown) (he : HasEscape cs) : shown.length < cs.length := by
  induction h with
  | nil => simp [HasEscape] at he
  | last => simp [HasEscape] at he
  | plain hc _ ih =>
    obtain ⟨-, he⟩ := hasEscape_cons.1 he
    simpa using ih (he.resolve_left hc)
  | escape _ h _ =>
    have hle := h.length_le
    simp only [List.length_cons]
    omega

theorem Unescaped.eq_of_not_hasEscape (h : Unescaped cs shown) (he : ¬ HasEscape cs) : shown = cs := by
  induction h with
  | nil => rfl
  | last => rfl
  | @plain c cs shown _ h ih =>
    cases cs with
    | nil =>
      cases h
      rfl
    | cons d cs => rw [ih fun hd => he (hasEscape_cons.2 ⟨by simp, .inr hd⟩)]
  | escape _ _ _ => exact absurd (hasEscape_cons.2 ⟨by simp, .inl rfl⟩) he

/-- Nothing is replaced unless there is an escape, and then the length tells. -/
theorem Unescaped.length_eq_iff (h : Unescaped cs shown) : shown.length = cs.length ↔ ¬ HasEscape cs := by
  constructor
  · intro hlength he
    have hlt := h.length_lt he
    omega
  · intro he
    rw [h.eq_of_not_hasEscape he]

theorem Unescaped.eq_iff (h : Unescaped cs shown) : shown = cs ↔ ¬ HasEscape cs :=
  ⟨fun he => h.length_eq_iff.1 (congrArg List.length he), h.eq_of_not_hasEscape⟩

/-- The value of a text is what stands between its quotes, without escapes. -/
theorem TextBody.unescaped {body value : List Char} (h : TextBody body value) (hrest : Unescaped rest shown) :
    Unescaped (body ++ rest) (value ++ shown) := by
  induction h with
  | nil => exact hrest
  | plain _ hc _ _ ih => exact .plain hc ih
  | escape he _ ih => exact .escape he ih

end Unescaped

namespace TokenKind

variable {kind : TokenKind} {cs : List Char}

theorem Spelling.unescaped (h : kind.Spelling cs) : Unescaped cs (kind.shown cs).toList := by
  have hdigits : ∀ digits : List Char, (∀ d ∈ digits, isDigit d = true) → '\\' ∉ digits :=
    fun digits hd hm => absurd (hd _ hm) (by decide)
  cases h with
  | text hbody => simpa [shown] using Unescaped.plain (by decide) (hbody.unescaped (unescaped_self (by decide)))
  | identifier hc hmore =>
    simpa [shown] using unescaped_self fun hm => absurd (extendsIdentifier_of_mem hc hmore hm) (by decide +kernel)
  | natural _ hd _ => simpa [shown] using unescaped_self (hdigits _ hd)
  | negative _ hd _ => simpa [shown] using Unescaped.plain (by decide) (unescaped_self (hdigits _ hd))
  | _ => simpa [shown] using unescaped_self (by decide)

/-- Only texts have escapes. -/
theorem Spelling.text_of_hasEscape (h : kind.Spelling cs) (he : HasEscape cs) : ∃ value, kind = .text value := by
  cases kind with
  | text value => exact ⟨value, rfl⟩
  | _ =>
    have hshown := h.unescaped.eq_iff.1 (by simp [shown])
    exact absurd he hshown

end TokenKind

/-! ## Where a token was read -/

/-- What is known of a lexeme that is a token. -/
theorem Lexeme.Stands.of_token {c : Char} {l : Lexeme} {after : List Char} {kind : TokenKind} {shown : String}
    (h : l.Stands c after) (htoken : l.token? = some (kind, shown)) :
    kind.Spelling (c :: l.more) ∧ shown = kind.shown (c :: l.more) ∧ Unescaped (c :: l.more) shown.toList := by
  simp only [Stands, htoken] at h
  obtain ⟨hspelling, -, rfl⟩ := h
  exact ⟨hspelling, rfl, hspelling.unescaped⟩

/-- A token of a split is read from a lexeme, behind which the other tokens come from a split again. -/
theorem Split.Proper.exists_lexeme {s : Split} (hs : s.Proper) {before : List Char} {earlier later : List Token}
    {t : Token} (h : s.tokensBehind before = earlier ++ t :: later) :
    ∃ (front : List Char) (c : Char) (l : Lexeme) (rest : Split), rest.Proper ∧
      s.text = front ++ (c :: (l.more ++ rest.text)) ∧ t.position = .behind (before ++ front) ∧
      l.token? = some (t.kind, t.text) ∧ l.Stands c rest.text ∧
      rest.tokensBehind (before ++ front ++ c :: l.more) = later := by
  induction s generalizing before earlier with
  | last gap => simp [tokensBehind] at h
  | cut gap lexeme kind rest ih =>
    obtain ⟨-, hspelling, hends, hrest⟩ := hs
    cases earlier with
    | nil =>
      obtain ⟨rfl, rfl⟩ := List.cons.inj h
      obtain ⟨c, more, rfl⟩ := List.exists_cons_of_ne_nil hspelling.ne_nil
      exact ⟨gap, c, ⟨more, some (kind, kind.shown (c :: more))⟩, rest, hrest, rfl, rfl, rfl,
        ⟨hspelling, hends, rfl⟩, rfl⟩
    | cons u earlier =>
      obtain ⟨front, c, l, last, hlast, htext, hposition, htoken, hstands, hlater⟩ := ih hrest (List.cons.inj h).2
      refine ⟨gap ++ lexeme ++ front, c, l, last, hlast, ?_, ?_, htoken, hstands, ?_⟩
      · simp [text, htext]
      · simpa using hposition
      · simpa using hlater

/-- Every token shows the slice of the source that it was read from, with escapes replaced. That is the slice
itself, and as long as it, if and only if the slice has no escape; and only texts have any. -/
theorem tokenize_text {language : Language} {source : String} {tokens : List Token}
    (h : tokenize language source = .ok tokens) {t : Token} (ht : t ∈ tokens) :
    ∃ (before : List Char) (c : Char) (l : Lexeme) (after : List Char),
      source.toList = before ++ (c :: (l.more ++ after)) ∧ t.position = .behind before ∧
      Lexeme.read c (l.more ++ after) = .ok l ∧ l.token? = some (t.kind, t.text) ∧
      Unescaped (c :: l.more) t.text.toList ∧
      (t.text.toList = c :: l.more ↔ ¬ HasEscape (c :: l.more)) ∧
      (t.text.length = (c :: l.more).length ↔ ¬ HasEscape (c :: l.more)) ∧
      (HasEscape (c :: l.more) → ∃ value, t.kind = .text value) := by
  obtain ⟨s, hs, htext, rfl⟩ := exists_split_of_tokenize h
  obtain ⟨earlier, later, hsplit⟩ := List.append_of_mem ht
  obtain ⟨before, c, l, rest, -, hsource, hposition, htoken, hstands, -⟩ := hs.exists_lexeme hsplit
  have hread := Lexeme.read_of_stands hstands
  obtain ⟨hspelling, -, hunescaped⟩ := hstands.of_token htoken
  refine ⟨before, c, l, rest.text, htext ▸ hsource, hposition, hread, htoken, hunescaped, hunescaped.eq_iff, ?_,
    hspelling.text_of_hasEscape⟩
  rw [← String.length_toList]
  exact hunescaped.length_eq_iff

/-- A parameter whose value has a tab in it, written as an escape. -/
def tabbed : String := "x = \"a\\tb\""

theorem tabbed_tokenize_text :
    ∃ (before : List Char) (c : Char) (l : Lexeme) (after : List Char),
      tabbed.toList = before ++ (c :: (l.more ++ after)) ∧ (⟨1, 5⟩ : Position) = .behind before ∧
      Lexeme.read c (l.more ++ after) = .ok l ∧ l.token? = some (.text "a\tb", "\"a\tb\"") ∧
      Unescaped (c :: l.more) "\"a\tb\"".toList ∧
      ("\"a\tb\"".toList = c :: l.more ↔ ¬ HasEscape (c :: l.more)) ∧
      ("\"a\tb\"".length = (c :: l.more).length ↔ ¬ HasEscape (c :: l.more)) ∧
      (HasEscape (c :: l.more) → ∃ value, TokenKind.text "a\tb" = .text value) := by
  have htokens : tokenize .weave tabbed = .ok
      [⟨.identifier "x", ⟨1, 1⟩, "x"⟩, ⟨.equals, ⟨1, 3⟩, "="⟩, ⟨.text "a\tb", ⟨1, 5⟩, "\"a\tb\""⟩] := by cbv
  exact tokenize_text htokens (t := ⟨.text "a\tb", ⟨1, 5⟩, "\"a\tb\""⟩) (by simp)

/-- A newline, written as an escape between quotes. -/
def lineBreak : String := "\"\\n\""

/-- Its token shows three characters, which stand nowhere in the four of the source. -/
theorem lineBreak_text_not_source :
    tokenize .weave lineBreak = .ok [⟨.text "\n", ⟨1, 1⟩, "\"\n\""⟩] ∧
      ¬ "\"\n\"".toList <:+: lineBreak.toList ∧ "\"\n\"".length = 3 ∧ lineBreak.length = 4 := by
  refine ⟨?_, by decide, by decide, by decide⟩
  cbv

end Dataflow
