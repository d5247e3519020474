import Dataflow.Proofs.Token.Showing
/-!
# Where an error stands

An error is `Located` in a text if its fragment stands at its position or, when the input ended too early, if
its position is right behind the last token. `Reports` says how errors really come by both: they show the
characters at fault without escapes, go by the length of what is shown, and stand behind an escape that
stands for nothing. Both agree unless the characters at fault have an escape (`Reports.located`).

A text that is not made of tokens is refused at such characters (`tokensFrom_error`).
-/

namespace Dataflow

/-- If the text has tokens, the last one is read from `lexeme`, which stands behind `before`. -/
def LastLexeme (source : String) (before lexeme : List Char) : Prop :=
  ∀ language tokens last, tokenize language source = .ok tokens → tokens.getLast? = some last →
    last.position = .behind before ∧ last.kind.Spelling lexeme

namespace ParseError

/-- The text from the position on begins with the fragment. At the end of the input only a gap follows the
position, which is right behind the last token. -/
structure Located (e : ParseError) (source : String) : Prop where
  fragment : e.fragment ≠ "<end of input>" →
    ∃ before after, source.toList = before ++ (e.fragment.toList ++ after) ∧ e.position = .behind before
  ending : e.fragment = "<end of input>" →
    ∃ before lexeme after, source.toList = before ++ (lexeme ++ after) ∧ e.position = .behind (before ++ lexeme) ∧
      Gap after [] ∧ LastLexeme source before lexeme

/-- How an error comes by its position and its fragment, when `lexeme` is at fault, which stands in the text
between `before` and `after`. -/
inductive Reports (e : ParseError) (source : String) (before lexeme after : List Char) : Prop
  /-- The fragment is the lexeme without escapes. -/
  | lexeme : e.position = .behind before → Unescaped lexeme e.fragment.toList → e.fragment ≠ "<end of input>" →
      Reports e source before lexeme after
  /-- An escape that stands for nothing, and the position behind it. -/
  | escape {c : Char} : e.position = .behind (before ++ lexeme) → lexeme = ['\\', c] → (∀ v, ¬ Escape c v) →
      e.fragment.toList = lexeme → Reports e source before lexeme after
  /-- The last lexeme, and the position that it would end at without escapes. -/
  | ending {shown : List Char} :
      e.position = ⟨(Position.behind before).line, (Position.behind before).column + shown.length⟩ →
      Unescaped lexeme shown → e.fragment = "<end of input>" → Gap after [] → LastLexeme source before lexeme →
      '\n' ∉ lexeme → Reports e source before lexeme after

end ParseError

theorem Position.column_behind_le (before : List Char) : (behind before).column ≤ 1 + before.length :=
  Nat.add_le_add_left (List.rtakeWhile_suffix _ before).length_le 1

theorem Position.behind_append_of_not_mem {before cs : List Char} (h : '\n' ∉ cs) :
    behind (before ++ cs) = ⟨(behind before).line, (behind before).column + cs.length⟩ := by
  induction cs generalizing before with
  | nil => simp
  | cons c cs ih =>
    simp only [List.mem_cons, not_or] at h
    rw [List.append_cons, ih h.2, behind_concat, after, if_neg (Ne.symm h.1)]
    simp only [List.length_cons, mk.injEq, true_and]
    omega

theorem ParseError.Reports.located {e : ParseError} {source : String} {before lexeme after : List Char}
    (h : e.Reports source before lexeme after) (hsource : source.toList = before ++ (lexeme ++ after))
    (hescape : ¬ HasEscape lexeme) : e.Located source := by
  cases h with
  | lexeme hposition hshown hfragment =>
    rw [← hshown.eq_of_not_hasEscape hescape] at hsource
    exact ⟨fun _ => ⟨before, after, hsource, hposition⟩, fun hend => absurd hend hfragment⟩
  | escape _ hlexeme _ _ => exact absurd (by simp [hlexeme, HasEscape]) hescape
  | ending hposition hshown hfragment hgap hlast hline =>
    rw [hshown.eq_of_not_hasEscape hescape, ← Position.behind_append_of_not_mem hline] at hposition
    exact ⟨fun hne => absurd hfragment hne, fun _ => ⟨before, lexeme, after, hsource, hposition, hgap, hlast⟩⟩

/-! ## Lexemes that are refused -/

/-- What a refusal shows of the characters that it refuses: the first ones without escapes, or an escape that
stands for nothing, which it passes. -/
inductive Refusal.Shows (r : Refusal) (cs : List Char) : Prop
  | lexeme {lexeme after : List Char} : cs = lexeme ++ after → r.passed = [] → Unescaped lexeme r.fragment.toList →
      r.fragment ≠ "<end of input>" → Shows r cs
  | escape {front after : List Char} {d : Char} : cs = front ++ '\\' :: d :: after → r.passed = front ++ ['\\', d] →
      (∀ v, ¬ Escape d v) → r.fragment.toList = ['\\', d] → Shows r cs

namespace Lexeme

open Text

variable {c : Char} {rest : List Char} {r : Refusal}

/-- A text is refused where it ends too early, or at an escape that stands for nothing. -/
theorem textBody_error {value taken cs : List Char} (h : textBody value taken cs = .error r) :
    ∃ body shown after, cs = body ++ after ∧ TextBody body shown ∧
      (r = unterminated (shown.reverse ++ value) ∨
        ∃ d later, after = '\\' :: d :: later ∧ r.passed = '"' :: (taken.reverse ++ (body ++ ['\\', d])) ∧
          (∀ v, ¬ Escape d v) ∧ r.fragment.toList = ['\\', d]) := by
  fun_induction textBody value taken cs with
  | case1 value taken =>
    cases h
    exact ⟨[], [], [], rfl, .nil, .inl rfl⟩
  | case2 => cases h
  | case3 value taken =>
    cases h
    exact ⟨[], [], ['\\'], rfl, .nil, .inl rfl⟩
  | case4 value taken d rest v hv ih =>
    obtain ⟨body, shown, after, rfl, hbody, hr⟩ := ih h
    refine ⟨'\\' :: d :: body, v :: shown, after, rfl, .escape (escaped?_eq_some_iff.1 hv) hbody, ?_⟩
    simpa using hr
  | case5 value taken d rest hunknown =>
    cases h
    have hescape : ∀ v, ¬ Escape d v := by
      intro v hv
      rw [escaped?_eq_some_iff.2 hv] at hunknown
      cases hunknown
    exact ⟨[], [], '\\' :: d :: rest, rfl, .nil, .inr ⟨d, rest, rfl, by simp, hescape, by simp⟩⟩
  | case6 value taken =>
    cases h
    exact ⟨[], [], _, rfl, .nil, .inl rfl⟩
  | case7 value taken c rest hquote hend hescape hline ih =>
    have hbackslash : c ≠ '\\' := by
      intro hc
      cases rest with
      | nil => exact hend hc rfl
      | cons e rest => exact hescape e rest hc rfl
    obtain ⟨body, shown, after, rfl, hbody, hr⟩ := ih h
    refine ⟨c :: body, c :: shown, after, rfl, .plain hquote hbackslash hline hbody, ?_⟩
    simpa using hr

theorem shows_text (h : textBody [] [] rest = .error r) : r.Shows ('"' :: rest) := by
  obtain ⟨body, shown, after, rfl, hbody, rfl | ⟨d, later, rfl, hpassed, hescape, hfragment⟩⟩ := textBody_error h
  · have hsplit : '"' :: (body ++ after) = ('"' :: body) ++ after := rfl
    refine .lexeme hsplit rfl ?_ ?_
    · simpa [unterminated] using Unescaped.plain (c := '"') (by decide) (hbody.unescaped .nil)
    · intro hend
      simpa [unterminated] using congrArg String.toList hend
  · have hsplit : '"' :: (body ++ '\\' :: d :: later) = ('"' :: body) ++ '\\' :: d :: later := rfl
    exact .escape hsplit (by simpa using hpassed) hescape hfragment

/-- An integer that is out of range is shown as it is written. -/
theorem shows_integer {n : Int} (hless : c ≠ '<') (hbackslash : c ≠ '\\')
    (h : integer c (rest.takeWhile isDigit) n = .error r) : r.Shows (c :: rest) := by
  unfold integer at h
  split at h <;> cases h
  have hsplit : c :: rest = (c :: rest.takeWhile isDigit) ++ rest.dropWhile isDigit := by simp
  have hdigits : ∀ d ∈ rest.takeWhile isDigit, isDigit d = true := fun d hd => List.mem_takeWhile_imp hd
  refine .lexeme hsplit rfl ?_ ?_
  · rw [String.toList_ofList]
    exact .plain hbackslash (unescaped_self fun hm => absurd (hdigits _ hm) (by decide))
  · intro hend
    have hfirst := congrArg (fun s : String => s.toList.head?) hend
    simp [hless] at hfirst

theorem shows_character (c : Char) (rest : List Char) (detail : String) :
    Refusal.Shows ⟨detail, [], c.toString⟩ (c :: rest) := by
  have hfragment : c.toString.toList = [c] := by simp
  have hsplit : c :: rest = [c] ++ rest := rfl
  refine .lexeme hsplit rfl ?_ ?_
  · rw [hfragment]
    by_cases hc : c = '\\'
    · subst hc
      exact .last
    · exact .plain hc .nil
  · intro hend
    rw [show c.toString = "<end of input>" from hend] at hfragment
    simp at hfragment

theorem shows_of_read (h : read c rest = .error r) : r.Shows (c :: rest) := by
  unfold read at h
  split at h
  next => cases h
  split at h
  next hslash =>
    subst hslash
    split at h
    next => cases h
    next =>
      cases h
      exact shows_character '/' rest _
  split at h
  next => cases h
  split at h
  next hdash =>
    subst hdash
    split at h
    next => cases h
    next => cases h
    split at h
    next =>
      cases h
      exact shows_character '-' rest _
    next => exact shows_integer (by decide) (by decide) h
  split at h
  next hquote =>
    subst hquote
    exact shows_text h
  split at h
  next hdigit => exact shows_integer (by rintro rfl; cases hdigit) (by rintro rfl; cases hdigit) h
  split at h
  next => cases h
  next =>
    cases h
    exact shows_character c rest _

end Lexeme

/-- A text without tokens is refused at characters that are reported. -/
theorem tokensFrom_error {language : Language} {before cs : List Char} {e : ParseError}
    (h : tokensFrom language (.behind before) cs = .error e) (source : String) :
    ∃ front lexeme after, cs = front ++ (lexeme ++ after) ∧ e.Reports source (before ++ front) lexeme after := by
  generalize hn : cs.length = n
  induction n using Nat.strongRecOn generalizing before cs with
  | ind n ih =>
    cases cs with
    | nil =>
      rw [tokensFrom] at h
      cases h
    | cons c rest =>
      rw [tokensFrom] at h
      cases hread : Lexeme.read c rest with
      | error refusal =>
        simp only [hread, Except.error.injEq] at h
        subst h
        have hposition : (refusal.toError language (.behind before)).position = .behind (before ++ refusal.passed) :=
          (Position.behind_append _ _).symm
        cases Lexeme.shows_of_read hread with
        | @lexeme lexeme after hsplit hpassed hshown hfragment =>
          refine ⟨[], lexeme, after, hsplit, .lexeme ?_ hshown hfragment⟩
          rw [hposition, hpassed]
        | @escape front after d hsplit hpassed hescape hfragment =>
          refine ⟨front, ['\\', d], after, hsplit, .escape ?_ rfl hescape hfragment⟩
          rw [hposition, hpassed, List.append_assoc]
      | ok l =>
        obtain ⟨after, rfl, -⟩ := Lexeme.read_eq_ok_iff.1 hread
        simp only [hread, List.drop_left, ← Position.behind_append] at h
        cases hlater : tokensFrom language (.behind (before ++ c :: l.more)) after with
        | ok later => simp [hlater] at h
        | error e' =>
          simp only [hlater, Except.error.injEq] at h
          subst h
          have hlt : after.length < n := by
            rw [← hn, List.length_cons, List.length_append]
            omega
          obtain ⟨front, lexeme, last, rfl, hreports⟩ := ih _ hlt hlater rfl
          refine ⟨c :: (l.more ++ front), lexeme, last, by simp, ?_⟩
          simpa using hreports

end Dataflow
