import Dataflow.Token.Cursor
import Dataflow.Proofs.Token.Locating
/-!
# Errors cite tokens

An error of a parser `Cites` the tokens that it reads: it shows one of them and stands at it, or it stands
behind the last one. `Stays` is a triple that says so of the failures of a parser, and of its successes that
the cursor is still within the tokens and that the value is right, such as a token that a later error may
cite. Loops stay within the tokens if their rounds do (`stays_untilBrace`, `stays_whileIdentifier`,
`stays_sections`).

What cites the tokens of a text reports characters of the text (`Parser.parse_reports`).
-/

namespace Dataflow

/-- The place behind the last token, or the start if there is none. -/
def endOf (tokens : List Token) : Position := (tokens.getLast?.map Token.endPosition).getD .start

/-- The error shows one of the tokens and stands at it, or it stands behind the last one. -/
inductive ParseError.Cites (e : ParseError) (tokens : List Token) : Prop
  | token {t : Token} : t ∈ tokens → e.position = t.position → e.fragment = t.text → Cites e tokens
  | ending : e.position = endOf tokens → e.fragment = "<end of input>" → Cites e tokens

namespace Cursor

variable {c : Cursor} {tokens rest : List Token} {t : Token}

/-- The cursor stands between tokens of the list, and knows the one before it. -/
def Within (c : Cursor) (tokens : List Token) : Prop :=
  ∃ front, tokens = front ++ c.rest ∧ c.last? = front.getLast?

theorem endPosition_eq (c : Cursor) : c.endPosition = (c.last?.map Token.endPosition).getD .start := by
  unfold endPosition
  cases c.last? <;> rfl

theorem Within.past (h : c.Within tokens) (hrest : c.rest = t :: rest) : (c.past t rest).Within tokens := by
  obtain ⟨front, htokens, -⟩ := h
  exact ⟨front ++ [t], by simp [htokens, hrest, Cursor.past], by simp [Cursor.past]⟩

theorem Within.mem (h : c.Within tokens) (hrest : c.rest = t :: rest) : t ∈ tokens := by
  obtain ⟨front, rfl, -⟩ := h
  simp [hrest]

theorem Within.cites_unexpected (h : c.Within tokens) (expectation : String) :
    (c.unexpected expectation).Cites tokens := by
  unfold unexpected
  split
  next t rest hrest => exact .token (h.mem hrest) rfl rfl
  next hrest =>
    obtain ⟨front, htokens, hlast⟩ := h
    rw [hrest, List.append_nil] at htokens
    have hplace : c.endPosition = endOf tokens := by rw [endPosition_eq, hlast, htokens, endOf]
    exact .ending hplace rfl

end Cursor

namespace Parser

variable {α β σ : Type} {tokens : List Token} {p : Parser α} {f : α → Parser β} {P : α → Prop} {Q : β → Prop}

/-- A value that `P` allows at a place within the tokens, or an error that cites them. -/
def Settled (tokens : List Token) (P : α → Prop) : EStateM.Result ParseError Cursor α → Prop
  | .ok a c => P a ∧ c.Within tokens
  | .error e _ => e.Cites tokens

/-- From a place within the tokens, the parser gives what `P` allows and stays within them, or its error cites
them. -/
def Stays (tokens : List Token) (p : Parser α) (P : α → Prop) : Prop :=
  ∀ c : Cursor, c.Within tokens → Settled tokens P (p c)

theorem Stays.bind (hp : Stays tokens p P) (hf : ∀ a, P a → Stays tokens (f a) Q) : Stays tokens (p >>= f) Q := by
  intro c hc
  have h := hp c hc
  change Settled tokens Q (EStateM.bind p f c)
  unfold EStateM.bind
  cases hr : p c with
  | error e c' =>
    rw [hr] at h
    exact h
  | ok a c' =>
    rw [hr] at h
    exact hf a h.1 c' h.2

theorem stays_pure {a : α} (h : P a) : Stays tokens (pure a) P := fun _ hc => ⟨h, hc⟩

theorem stays_get : Stays tokens get fun c => c.Within tokens := fun _ hc => ⟨hc, hc⟩

theorem stays_failAt {token : Token} (h : token ∈ tokens) (detail : String) : Stays tokens (failAt token detail) P :=
  fun _ _ => .token h rfl rfl

theorem stays_unexpected (expectation : String) : Stays tokens (unexpected expectation) P :=
  fun _ hc => hc.cites_unexpected expectation

/-! ## Single tokens -/

theorem stays_advance : Stays tokens advance fun _ => True := by
  intro c hc
  unfold advance
  split
  next t rest hrest => exact ⟨trivial, hc.past hrest⟩
  next => exact ⟨trivial, hc⟩

theorem stays_eat (kind : TokenKind) : Stays tokens (eat kind) fun _ => True := by
  intro c hc
  unfold eat
  split
  next t rest hrest =>
    split
    · exact ⟨trivial, hc.past hrest⟩
    · exact ⟨trivial, hc⟩
  next => exact ⟨trivial, hc⟩

theorem stays_expect (kind : TokenKind) (context : String) : Stays tokens (expect kind context) fun t => t ∈ tokens := by
  intro c hc
  have hcites := hc.cites_unexpected s!"expected {kind.describe} {context}"
  unfold expect
  split
  next t rest hrest =>
    split
    · exact ⟨hc.mem hrest, hc.past hrest⟩
    · exact hcites
  next => exact hcites

theorem stays_identifierToken (context : String) :
    Stays tokens (identifierToken context) fun x => x.2 ∈ tokens := by
  intro c hc
  have hcites := hc.cites_unexpected s!"expected identifier {context}"
  unfold identifierToken
  split
  next t rest hrest =>
    split
    · exact ⟨hc.mem hrest, hc.past hrest⟩
    · exact hcites
  next => exact hcites

theorem stays_identifierOnLine? (line : Nat) : Stays tokens (identifierOnLine? line) fun _ => True := by
  intro c hc
  unfold identifierOnLine?
  split
  next t rest hrest =>
    split
    · split
      · exact ⟨trivial, hc.past hrest⟩
      · exact ⟨trivial, hc⟩
    · exact ⟨trivial, hc⟩
  next => exact ⟨trivial, hc⟩

theorem stays_identifierIsNext : Stays tokens identifierIsNext fun _ => True := by
  intro c hc
  unfold identifierIsNext
  split
  next => split <;> exact ⟨trivial, hc⟩
  next => exact ⟨trivial, hc⟩

theorem stays_identifier (context : String) : Stays tokens (identifier context) fun _ => True :=
  (stays_identifierToken context).bind fun _ _ => stays_pure trivial

theorem stays_typeName (context : String) : Stays tokens (typeName context) fun _ => True := by
  refine (stays_identifier context).bind fun first _ => (stays_eat .dot).bind fun dot _ => ?_
  split
  · exact (stays_identifier context).bind fun second _ => stays_pure trivial
  · exact stays_pure trivial

/-! ## Loops -/

theorem stays_rounds : Stays tokens rounds fun _ => True := stays_get.bind fun _ _ => stays_pure trivial

variable {step : σ → Parser σ}

theorem stays_untilBrace (hstep : ∀ s, Stays tokens (step s) fun _ => True) (init : σ) :
    Stays tokens (untilBrace step init) fun _ => True := by
  refine stays_rounds.bind fun fuel _ => ?_
  induction fuel generalizing init with
  | zero => exact stays_pure trivial
  | succ fuel ih =>
    refine (stays_eat .closeBrace).bind fun closed _ => ?_
    split
    · exact stays_pure trivial
    · exact (hstep init).bind fun s _ => ih s

theorem stays_whileIdentifier (hstep : ∀ s, Stays tokens (step s) fun _ => True) (init : σ) :
    Stays tokens (whileIdentifier step init) fun _ => True := by
  refine stays_rounds.bind fun fuel _ => ?_
  induction fuel generalizing init with
  | zero => exact stays_pure trivial
  | succ fuel ih =>
    refine stays_identifierIsNext.bind fun next _ => ?_
    split
    · exact (hstep init).bind fun s _ => ih s
    · exact stays_pure trivial

theorem stays_sections {body : String → Token → σ → Parser σ}
    (hbody : ∀ name opening s, opening ∈ tokens → Stays tokens (body name opening s) fun _ => True) (init : σ) :
    Stays tokens (sections body init) fun _ => True := by
  refine stays_rounds.bind fun fuel _ => ?_
  generalize [] = seen
  induction fuel generalizing init seen with
  | zero => exact stays_pure trivial
  | succ fuel ih =>
    refine stays_get.bind fun c _ => ?_
    split
    · exact stays_pure trivial
    · refine (stays_expect _ _).bind fun opening hopening => (stays_identifierOnLine? _).bind fun name? _ => ?_
      cases name? with
      | none => exact stays_failAt hopening _
      | some name =>
        dsimp only
        split
        · exact stays_failAt hopening _
        · exact (hbody name opening init hopening).bind fun s _ => (stays_expect _ _).bind fun _ _ => ih s _

end Parser

/-! ## Whole texts -/

theorem TextBody.newline_not_mem {body value : List Char} (h : TextBody body value) : '\n' ∉ body := by
  induction h with
  | nil => exact List.not_mem_nil
  | plain _ _ hline _ ih =>
    rw [List.mem_cons, not_or]
    exact ⟨Ne.symm hline, ih⟩
  | escape he _ ih =>
    rw [List.mem_cons, List.mem_cons, not_or, not_or]
    refine ⟨by decide, ?_, ih⟩
    rintro rfl
    cases he

namespace TokenKind

variable {kind : TokenKind} {cs : List Char}

/-- Every token is on one line. -/
theorem Spelling.newline_not_mem (h : kind.Spelling cs) : '\n' ∉ cs := by
  have hdigits : ∀ digits : List Char, (∀ d ∈ digits, Text.isDigit d = true) → '\n' ∉ digits :=
    fun digits hd hm => absurd (hd _ hm) (by decide)
  cases h with
  | text hbody => simpa using hbody.newline_not_mem
  | identifier hc hmore => exact fun hm => absurd (extendsIdentifier_of_mem hc hmore hm) (by decide +kernel)
  | natural _ hd _ => exact hdigits _ hd
  | negative _ hd _ => simpa using hdigits _ hd
  | _ => decide

/-- No token is shown as the end of the input is. -/
theorem Spelling.shown_ne (h : kind.Spelling cs) : kind.shown cs ≠ "<end of input>" := by
  intro hend
  have hlist := congrArg String.toList hend
  have hdigits : ∀ digits : List Char, digits ≠ [] → (∀ d ∈ digits, Text.isDigit d = true) →
      digits ≠ "<end of input>".toList := by
    rintro digits - hd rfl
    exact absurd (hd '<' (by decide)) (by decide)
  cases h with
  | @identifier c more hc _ =>
    obtain ⟨rfl, -⟩ : c = '<' ∧ _ := by simpa [shown] using hlist
    exact absurd hc (by decide +kernel)
  | natural hne hd _ => exact hdigits _ hne hd (by simpa [shown] using hlist)
  | _ => simp [shown] at hlist

end TokenKind

namespace ParseError

variable {language : Language} {source : String} {tokens : List Token} {e : ParseError}

/-- Behind the last token, an error reports the last lexeme, or the start of a text without tokens. -/
theorem reports_endOf (htokens : tokenize language source = .ok tokens) (hposition : e.position = endOf tokens)
    (hfragment : e.fragment = "<end of input>") :
    ∃ before lexeme after, source.toList = before ++ (lexeme ++ after) ∧ e.Reports source before lexeme after := by
  obtain ⟨s, hs, htext, hsplit⟩ := exists_split_of_tokenize htokens
  have hunique : ∀ language' tokens', tokenize language' source = .ok tokens' → tokens' = tokens := by
    intro language' tokens' h
    rw [tokenize_eq_ok_of_language htokens language', Except.ok.injEq] at h
    exact h.symm
  rcases List.eq_nil_or_concat tokens with rfl | ⟨earlier, last, rfl⟩
  · cases s with
    | last gap =>
      refine ⟨[], [], gap, htext.symm, .ending ?_ .nil hfragment hs ?_ List.not_mem_nil⟩
      · exact hposition
      · intro language' tokens' last h hlast
        rw [hunique _ _ h] at hlast
        cases hlast
    | cut => cases hsplit
  · rw [List.concat_eq_append] at *
    obtain ⟨before, c, l, rest, hrest, hsource, hplace, htoken, hstands, hlater⟩ := hs.exists_lexeme hsplit
    obtain ⟨gap, rfl⟩ : ∃ gap, rest = .last gap := by
      cases rest with
      | last gap => exact ⟨gap, rfl⟩
      | cut => cases hlater
    obtain ⟨hspelling, -, hunescaped⟩ := hstands.of_token htoken
    refine ⟨before, c :: l.more, gap, htext ▸ hsource,
      .ending ?_ hunescaped hfragment hrest ?_ hspelling.newline_not_mem⟩
    · rw [hposition, endOf, List.getLast?_concat, String.length_toList]
      simp only [Option.map_some, Option.getD_some, Token.endPosition, hplace, List.nil_append]
    · intro language' tokens' last' h hlast
      rw [hunique _ _ h, List.getLast?_concat, Option.some.injEq] at hlast
      subst hlast
      exact ⟨hplace, hspelling⟩

/-- An error that cites the tokens of a text reports characters of the text. -/
theorem Cites.reports (htokens : tokenize language source = .ok tokens) (h : e.Cites tokens) :
    ∃ before lexeme after, source.toList = before ++ (lexeme ++ after) ∧ e.Reports source before lexeme after := by
  cases h with
  | @token t ht hposition hfragment =>
    obtain ⟨s, hs, htext, rfl⟩ := exists_split_of_tokenize htokens
    obtain ⟨earlier, later, hsplit⟩ := List.append_of_mem ht
    obtain ⟨before, c, l, rest, -, hsource, hplace, htoken, hstands, -⟩ := hs.exists_lexeme hsplit
    obtain ⟨hspelling, hshown, hunescaped⟩ := hstands.of_token htoken
    rw [← hfragment] at hshown hunescaped
    have hne : e.fragment ≠ "<end of input>" := by
      rw [hshown]
      exact hspelling.shown_ne
    exact ⟨before, c :: l.more, rest.text, htext ▸ hsource, .lexeme (hposition.trans hplace) hunescaped hne⟩
  | ending hposition hfragment => exact reports_endOf htokens hposition hfragment

end ParseError

/-- A text that is not made of tokens is refused at characters that are reported. -/
theorem tokenize_reports {language : Language} {source : String} {e : ParseError}
    (h : tokenize language source = .error e) :
    ∃ before lexeme after, source.toList = before ++ (lexeme ++ after) ∧ e.Reports source before lexeme after := by
  have hstart : tokensFrom language (.behind []) source.toList = .error e := h
  exact tokensFrom_error hstart source

/-- What stays within the tokens of a text fails with errors that report characters of the text. -/
theorem Parser.parse_reports {α : Type} {P : α → Prop} {p : Parser α} {language : Language} {source : String}
    {e : ParseError} (hp : ∀ tokens, Stays tokens p P) (h : p.parse language source = .error e) :
    ∃ before lexeme after, source.toList = before ++ (lexeme ++ after) ∧ e.Reports source before lexeme after := by
  unfold parse Cursor.ofSource at h
  cases htokens : tokenize language source with
  | error e' =>
    rw [htokens] at h
    cases h
    exact tokenize_reports htokens
  | ok tokens =>
    rw [htokens] at h
    have hstays := hp tokens ⟨language, none, tokens⟩ ⟨[], rfl, rfl⟩
    simp only [Except.map] at h
    cases hr : p ⟨language, none, tokens⟩ with
    | ok a c => simp [hr] at h
    | error e' c =>
      rw [hr] at h hstays
      cases h
      exact hstays.reports htokens

end Dataflow
