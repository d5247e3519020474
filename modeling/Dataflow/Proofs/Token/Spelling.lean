import Mathlib.Data.List.Induction
import Mathlib.Data.List.TakeWhile
import Mathlib.Data.Nat.Digits.Defs
import Mathlib.Tactic.IntervalCases
import Dataflow.Proofs.Token.Lexing
/-!
# How tokens are written

`TokenKind.Spelling` lists the ways to write a token, and `Skipped` what may stand between tokens. One
lexeme is read exactly where one of these stands and ends (`read_eq_ok_iff`).
-/

namespace Dataflow

open Text

/-- The number that a run of decimal digits denotes. -/
def decimal (digits : List Char) : Nat := Nat.ofDigits 10 (digits.reverse.map digitValue)

/-- An escape and the character it stands for. -/
inductive Escape : Char → Char → Prop
  | newline : Escape 'n' '\n'
  | tab : Escape 't' '\t'
  | quote : Escape '"' '"'
  | backslash : Escape '\\' '\\'

/-- What may stand between the quotes of a text, and the value that it has. -/
inductive TextBody : List Char → List Char → Prop
  | nil : TextBody [] []
  | plain {c : Char} {cs value : List Char} : c ≠ '"' → c ≠ '\\' → c ≠ '\n' → TextBody cs value →
      TextBody (c :: cs) (c :: value)
  | escape {e c : Char} {cs value : List Char} : Escape e c → TextBody cs value →
      TextBody ('\\' :: e :: cs) (c :: value)

namespace TokenKind

/-- The characters are a way to write the token. -/
inductive Spelling : TokenKind → List Char → Prop
  | marker : Spelling .marker ['-', '-']
  | arrow : Spelling .arrow ['-', '>']
  | openBrace : Spelling .openBrace ['{']
  | closeBrace : Spelling .closeBrace ['}']
  | colon : Spelling .colon [':']
  | dot : Spelling .dot ['.']
  | equals : Spelling .equals ['=']
  | identifier {c : Char} {more : List Char} : startsIdentifier c = true →
      (∀ d ∈ more, extendsIdentifier d = true) → Spelling (.identifier (String.ofList (c :: more))) (c :: more)
  | natural {digits : List Char} {n : Int64} : digits ≠ [] → (∀ d ∈ digits, isDigit d = true) →
      n.toInt = decimal digits → Spelling (.integer n) digits
  | negative {digits : List Char} {n : Int64} : digits ≠ [] → (∀ d ∈ digits, isDigit d = true) →
      n.toInt = -(decimal digits : Int) → Spelling (.integer n) ('-' :: digits)
  | text {body value : List Char} : TextBody body value →
      Spelling (.text (String.ofList value)) ('"' :: (body ++ ['"']))

/-- No character follows that would belong to the lexeme too. -/
def EndsBefore : TokenKind → List Char → Prop
  | .identifier _, after => ∀ d ∈ after.head?, extendsIdentifier d = false
  | .integer _, after => ∀ d ∈ after.head?, isDigit d = false
  | _, _ => True

/-- What errors show for a token that is written so. -/
def shown : TokenKind → List Char → String
  | .text value, _ => "\"" ++ value ++ "\""
  | _, lexeme => String.ofList lexeme

theorem Spelling.ne_nil {kind : TokenKind} {cs : List Char} (h : kind.Spelling cs) : cs ≠ [] := by
  cases h <;> first | assumption | simp

end TokenKind

/-- What stands between tokens in one piece: white space, or a comment up to the end of the line or the text. -/
inductive Skipped : List Char → List Char → Prop
  | blank {c : Char} {after : List Char} : isBlank c = true → Skipped [c] after
  | comment {text after : List Char} : '\n' ∉ text → (∀ d ∈ after.head?, d = '\n') →
      Skipped ('/' :: '/' :: text) after

namespace Lexeme

variable {c : Char} {more rest after : List Char} {l : Lexeme} {kind : TokenKind}

/-- The lexeme that starts with `c` is written in front of `after`. -/
def Stands (l : Lexeme) (c : Char) (after : List Char) : Prop :=
  match l.token? with
  | none => Skipped (c :: l.more) after
  | some (kind, text) => kind.Spelling (c :: l.more) ∧ kind.EndsBefore after ∧ text = kind.shown (c :: l.more)

/-! ## Integers -/

theorem magnitude_eq_decimal (digits : List Char) : magnitude digits = decimal digits := by
  induction digits using List.reverseRecOn with
  | nil => rfl
  | append_singleton digits d ih =>
    have hstep : magnitude (digits ++ [d]) = magnitude digits * 10 + digitValue d := by simp [magnitude]
    have hlast : decimal (digits ++ [d]) = digitValue d + 10 * decimal digits := by simp [decimal, Nat.ofDigits_cons]
    omega

theorem fitsWord_iff {n : Int} : fitsWord n = true ↔ (Int64.ofInt n).toInt = n := by
  rw [fitsWord, Bool.and_eq_true, decide_eq_true_eq, decide_eq_true_eq]
  constructor
  · rintro ⟨hlower, hupper⟩
    exact Int64.toInt_ofInt_of_le (by omega) (by omega)
  · intro h
    have hlower := Int64.le_toInt (Int64.ofInt n)
    have hupper := Int64.toInt_lt (Int64.ofInt n)
    rw [h] at hlower hupper
    omega

theorem integer_eq_ok_iff {n : Int} :
    integer c more n = .ok l ↔ ∃ w : Int64, w.toInt = n ∧ l = spelled c more (.integer w) := by
  unfold integer
  by_cases hfits : fitsWord n = true
  · rw [if_pos hfits, Except.ok.injEq]
    have hword := fitsWord_iff.1 hfits
    constructor
    · rintro rfl
      exact ⟨_, hword, rfl⟩
    · rintro ⟨w, rfl, rfl⟩
      rw [Int64.ofInt_toInt]
  · rw [if_neg hfits]
    constructor
    · rintro ⟨⟩
    · rintro ⟨w, rfl, rfl⟩
      exact absurd (fitsWord_iff.2 (by rw [Int64.ofInt_toInt])) hfits

/-- No digit starts another lexeme. -/
theorem isDigit_apart (hc : isDigit c = true) :
    isBlank c = false ∧ punctuation? c = none ∧ c ≠ '/' ∧ c ≠ '-' ∧ c ≠ '>' ∧ c ≠ '"' := by
  obtain ⟨hlower, hupper⟩ := Bool.and_eq_true_iff.1 hc
  have hlower : 48 ≤ c.toNat := of_decide_eq_true hlower
  have hupper : c.toNat ≤ 57 := of_decide_eq_true hupper
  rw [← Char.ofNat_toNat c]
  interval_cases c.toNat <;> decide

theorem read_natural {n : Int64} (hc : isDigit c = true) (hmore : ∀ d ∈ more, isDigit d = true)
    (hrest : ∀ d ∈ rest.head?, isDigit d = false) (hn : n.toInt = decimal (c :: more)) :
    read c (more ++ rest) = .ok (spelled c more (.integer n)) := by
  obtain ⟨hblank, hpunctuation, hslash, hdash, -, hquote⟩ := isDigit_apart hc
  unfold read
  rw [hblank, if_neg Bool.false_ne_true, if_neg hslash, hpunctuation]
  dsimp only
  rw [if_neg hdash, if_neg hquote, if_pos hc, takeWhile_append_stop hmore hrest]
  exact integer_eq_ok_iff.2 ⟨n, by rw [hn, magnitude_eq_decimal], rfl⟩

theorem read_dash {d : Char} (hdash : d ≠ '-') (harrow : d ≠ '>') :
    read '-' (d :: rest) =
      match (d :: rest).takeWhile isDigit with
      | [] => .error ⟨"unexpected '-'", [], "-"⟩
      | digits => integer '-' digits (-(magnitude digits : Int)) := by
  unfold read
  rw [show isBlank '-' = false by decide, if_neg Bool.false_ne_true, if_neg (by decide),
    show punctuation? '-' = none from rfl]
  dsimp only
  rw [if_pos rfl]
  split
  · rename_i h
    cases h
    exact absurd rfl hdash
  · rename_i h
    cases h
    exact absurd rfl harrow
  · rfl

theorem read_negative {n : Int64} {digits : List Char} (hne : digits ≠ []) (hdigits : ∀ d ∈ digits, isDigit d = true)
    (hrest : ∀ d ∈ rest.head?, isDigit d = false) (hn : n.toInt = -(decimal digits : Int)) :
    read '-' (digits ++ rest) = .ok (spelled '-' digits (.integer n)) := by
  obtain ⟨d, more, rfl⟩ := List.exists_cons_of_ne_nil hne
  obtain ⟨-, -, -, hdash, harrow, -⟩ := isDigit_apart (hdigits d List.mem_cons_self)
  rw [List.cons_append, read_dash hdash harrow, ← List.cons_append, takeWhile_append_stop hdigits hrest]
  exact integer_eq_ok_iff.2 ⟨n, by rw [hn, magnitude_eq_decimal], rfl⟩

/-! ## Texts -/

theorem escaped?_eq_some_iff {e : Char} : escaped? e = some c ↔ Escape e c := by
  constructor
  · intro h
    unfold escaped? at h
    split at h <;> cases h <;> constructor
  · rintro ⟨⟩ <;> rfl

theorem textBody_complete {body value : List Char} (h : TextBody body value) (before taken : List Char) :
    textBody before taken (body ++ '"' :: rest) =
      .ok ⟨taken.reverse ++ (body ++ ['"']),
        some (.text (String.ofList (before.reverse ++ value)),
          "\"" ++ String.ofList (before.reverse ++ value) ++ "\"")⟩ := by
  induction h generalizing before taken with
  | nil => simp [textBody]
  | @plain c cs value hquote hbackslash hline h ih =>
    rw [List.cons_append, textBody.eq_5 _ _ _ _ hquote (fun h _ => hbackslash h) (fun _ _ h _ => hbackslash h),
      if_neg hline, ih]
    simp
  | @escape e c cs value he h ih =>
    rw [List.cons_append, List.cons_append, textBody, escaped?_eq_some_iff.2 he]
    dsimp only
    rw [ih]
    simp

theorem textBody_sound {before taken cs : List Char} (h : textBody before taken cs = .ok l) :
    ∃ body value after, TextBody body value ∧ cs = body ++ '"' :: after ∧
      l = ⟨taken.reverse ++ (body ++ ['"']),
        some (.text (String.ofList (before.reverse ++ value)),
          "\"" ++ String.ofList (before.reverse ++ value) ++ "\"")⟩ := by
  fun_induction textBody before taken cs with
  | case1 => cases h
  | case2 before taken after =>
    cases h
    exact ⟨[], [], after, .nil, rfl, by simp +zetaDelta⟩
  | case3 => cases h
  | case4 before taken e rest c he ih =>
    obtain ⟨body, value, after, hbody, rfl, rfl⟩ := ih h
    exact ⟨'\\' :: e :: body, c :: value, after, .escape (escaped?_eq_some_iff.1 he) hbody, rfl, by simp⟩
  | case5 => cases h
  | case6 => cases h
  | case7 before taken c rest hquote hend hescape hline ih =>
    have hbackslash : c ≠ '\\' := by
      intro hc
      cases rest with
      | nil => exact hend hc rfl
      | cons e rest => exact hescape e rest hc rfl
    obtain ⟨body, value, after, hbody, rfl, rfl⟩ := ih h
    exact ⟨c :: body, c :: value, after, .plain hquote hbackslash hline hbody, rfl, by simp⟩

/-! ## One lexeme -/

theorem read_of_stands (h : l.Stands c after) : read c (l.more ++ after) = .ok l := by
  obtain ⟨more, _ | ⟨kind, text⟩⟩ := l
  · cases h with
    | blank hblank =>
      unfold read
      rw [if_pos hblank]
      rfl
    | comment htext hafter => exact read_comment htext hafter
  · obtain ⟨hspelling, hends, htext⟩ := h
    dsimp only at hspelling htext ⊢
    subst htext
    cases hspelling with
    | marker => rfl
    | arrow => rfl
    | openBrace => rfl
    | closeBrace => rfl
    | colon => rfl
    | dot => rfl
    | equals => rfl
    | identifier hc hmore => exact read_identifier hc hmore hends
    | natural hne hdigits hn =>
      obtain ⟨hc, hmore⟩ := List.forall_mem_cons.1 hdigits
      exact read_natural hc hmore hends hn
    | negative hne hdigits hn => exact read_negative hne hdigits hends hn
    | @text body value hbody =>
      have hread : read '"' (body ++ ['"'] ++ after) = textBody [] [] (body ++ '"' :: after) := by
        rw [List.append_assoc]
        rfl
      rw [hread, textBody_complete hbody]
      rfl

/-- What is taken while it is of a class, and what stops it. -/
theorem exists_eq_takeWhile_append (p : Char → Bool) (cs : List Char) :
    ∃ after, cs = cs.takeWhile p ++ after ∧ (∀ d ∈ cs.takeWhile p, p d = true) ∧ ∀ d ∈ after.head?, p d = false := by
  refine ⟨cs.dropWhile p, List.takeWhile_append_dropWhile.symm, fun d hd => List.mem_takeWhile_imp hd, ?_⟩
  intro d hd
  have := List.head?_dropWhile_not p cs
  rw [hd] at this
  simpa using this

theorem stands_punctuation (h : punctuation? c = some kind) : (spelled c [] kind).Stands c after := by
  unfold punctuation? at h
  split at h <;> cases h
  · exact ⟨.openBrace, trivial, rfl⟩
  · exact ⟨.closeBrace, trivial, rfl⟩
  · exact ⟨.colon, trivial, rfl⟩
  · exact ⟨.dot, trivial, rfl⟩
  · exact ⟨.equals, trivial, rfl⟩

theorem stands_comment (hslash : rest.head? = some '/') :
    ∃ after, rest = rest.takeWhile (· ≠ '\n') ++ after ∧ (gap (rest.takeWhile (· ≠ '\n'))).Stands '/' after := by
  obtain ⟨after, hrest, hall, hend⟩ := exists_eq_takeWhile_append (· ≠ '\n') rest
  refine ⟨after, hrest, ?_⟩
  cases rest with
  | nil => cases hslash
  | cons d rest =>
    obtain rfl : d = '/' := by simpa using hslash
    have htake : ('/' :: rest).takeWhile (· ≠ '\n') = '/' :: rest.takeWhile (· ≠ '\n') := by simp
    rw [htake] at hall ⊢
    apply Skipped.comment
    · intro hline
      simpa using hall '\n' (List.mem_cons_of_mem _ hline)
    · intro d hd
      simpa using hend d hd

theorem stands_integer {n : Int} (hspelling : ∀ w : Int64, w.toInt = n →
    TokenKind.Spelling (.integer w) (c :: rest.takeWhile isDigit)) (h : integer c (rest.takeWhile isDigit) n = .ok l) :
    ∃ after, rest = l.more ++ after ∧ l.Stands c after := by
  obtain ⟨after, hrest, -, hend⟩ := exists_eq_takeWhile_append isDigit rest
  obtain ⟨w, hw, rfl⟩ := integer_eq_ok_iff.1 h
  exact ⟨after, hrest, hspelling w hw, hend, rfl⟩

theorem stands_of_read (h : read c rest = .ok l) : ∃ after, rest = l.more ++ after ∧ l.Stands c after := by
  have hdigits := (exists_eq_takeWhile_append isDigit rest).choose_spec.2.1
  unfold read at h
  split at h
  next hblank =>
    cases h
    exact ⟨rest, rfl, .blank hblank⟩
  split at h
  next hslash =>
    subst hslash
    split at h
    next =>
      cases h
      exact stands_comment rfl
    next => cases h
  split at h
  next kind hkind =>
    cases h
    exact ⟨rest, rfl, stands_punctuation hkind⟩
  split at h
  next hdash =>
    subst hdash
    split at h
    next after =>
      cases h
      exact ⟨after, rfl, .marker, trivial, rfl⟩
    next after =>
      cases h
      exact ⟨after, rfl, .arrow, trivial, rfl⟩
    split at h
    next => cases h
    next hne =>
      apply stands_integer _ h
      intro w hw
      exact .negative hne hdigits (by rw [hw, magnitude_eq_decimal])
  split at h
  next hquote =>
    subst hquote
    obtain ⟨body, value, after, hbody, rfl, rfl⟩ := textBody_sound h
    exact ⟨after, by simp, .text hbody, trivial, rfl⟩
  split at h
  next hdigit =>
    apply stands_integer _ h
    intro w hw
    exact .natural (by simp) (List.forall_mem_cons.2 ⟨hdigit, hdigits⟩) (by rw [hw, magnitude_eq_decimal])
  split at h
  next hstart =>
    cases h
    obtain ⟨after, hrest, hall, hend⟩ := exists_eq_takeWhile_append extendsIdentifier rest
    exact ⟨after, hrest, .identifier hstart hall, hend, rfl⟩
  next => cases h

theorem read_eq_ok_iff : read c rest = .ok l ↔ ∃ after, rest = l.more ++ after ∧ l.Stands c after := by
  constructor
  · exact stands_of_read
  · rintro ⟨after, rfl, h⟩
    exact read_of_stands h

end Lexeme

end Dataflow
