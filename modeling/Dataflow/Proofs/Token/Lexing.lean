import Dataflow.Proofs.Text.CharClass
import Dataflow.Token.Lexer
/-!
# Texts and their tokens

`Lexes cs kinds` says that the characters `cs` are tokens of these kinds, wherever they stand and
whatever follows them. It holds of the pieces that a text is put together from, such as a name with
the character that ends it or a whole comment line, and so of the text (`Lexes.append`).
-/

namespace Dataflow

/-- Characters of a class up to one that is not of it. -/
theorem takeWhile_append_stop {p : Char → Bool} {front rest : List Char} (hfront : ∀ d ∈ front, p d = true)
    (hrest : ∀ d ∈ rest.head?, p d = false) : (front ++ rest).takeWhile p = front := by
  rw [List.takeWhile_append_of_pos hfront]
  cases rest with
  | nil => simp
  | cons d rest => simp [hrest d rfl]

namespace Text

/-! ## Letters -/

variable {c : Char}

/-- No white space is a letter, and the letters start behind the digits. -/
theorem letters_apart : ∀ s ∈ CharTable.alphabetic, (∀ r ∈ CharTable.whiteSpace, r.2 < s.1 ∨ s.2 < r.1) ∧
    'A'.toNat ≤ s.1 := by
  decide +kernel

theorem not_isBlank_of_startsIdentifier (h : startsIdentifier c = true) : isBlank c = false := by
  refine Bool.eq_false_iff.2 fun hb => ?_
  obtain ⟨r, hr, hr₁, hr₂⟩ := isBlank_iff.1 hb
  rcases Bool.or_eq_true_iff.1 h with hl | hu
  · obtain ⟨s, hs, hs₁, hs₂⟩ := isLetter_iff.1 hl
    rcases (letters_apart s hs).1 r hr with hlt | hlt <;> omega
  · obtain rfl : c = '_' := by simpa using hu
    exact absurd hb (by decide)

theorem le_toNat_of_startsIdentifier (h : startsIdentifier c = true) : 'A'.toNat ≤ c.toNat := by
  rcases Bool.or_eq_true_iff.1 h with hl | hu
  · obtain ⟨s, hs, hs₁, -⟩ := isLetter_iff.1 hl
    exact Nat.le_trans (letters_apart s hs).2 hs₁
  · obtain rfl : c = '_' := by simpa using hu
    decide

theorem not_isDigit_of_startsIdentifier (h : startsIdentifier c = true) : isDigit c = false := by
  have hle := le_toNat_of_startsIdentifier h
  refine Bool.eq_false_iff.2 fun hd => ?_
  have hlt : c.toNat ≤ '9'.toNat := (Bool.and_eq_true_iff.1 hd).2 |> of_decide_eq_true
  exact absurd (Nat.le_trans hle hlt) (by decide)

theorem not_extendsIdentifier_blank :
    extendsIdentifier ' ' = false ∧ extendsIdentifier '\n' = false ∧ extendsIdentifier '.' = false := by
  decide +kernel

end Text

namespace Lexeme

open Text

/-- The text is a name: it is an identifier of the token grammar. -/
def isName (s : String) : Bool :=
  match s.toList with
  | [] => false
  | c :: more => startsIdentifier c && more.all extendsIdentifier

theorem isName_iff {s : String} :
    isName s = true ↔
      ∃ c more, s.toList = c :: more ∧ startsIdentifier c = true ∧ ∀ d ∈ more, extendsIdentifier d = true := by
  unfold isName
  cases s.toList with
  | nil => simp
  | cons c more =>
    rw [Bool.and_eq_true_iff, List.all_eq_true]
    constructor
    · intro h
      exact ⟨c, more, rfl, h⟩
    · rintro ⟨_, _, ⟨⟩, h⟩
      exact h

theorem punctuation?_eq_none {c : Char} (h : startsIdentifier c = true) : punctuation? c = none := by
  have hle := le_toNat_of_startsIdentifier h
  unfold punctuation?
  split
  · exact absurd h (by decide +kernel)
  · exact absurd h (by decide +kernel)
  · exact absurd h (by decide +kernel)
  · exact absurd h (by decide +kernel)
  · exact absurd h (by decide +kernel)
  · rfl

theorem read_identifier {c : Char} {more rest : List Char} (hc : startsIdentifier c = true)
    (hmore : ∀ d ∈ more, extendsIdentifier d = true) (hrest : ∀ d ∈ rest.head?, extendsIdentifier d = false) :
    read c (more ++ rest) = .ok (spelled c more (.identifier (String.ofList (c :: more)))) := by
  have hne : ∀ d : Char, startsIdentifier d = false → c ≠ d := by
    rintro d hd rfl
    rw [hc] at hd
    cases hd
  have htake : (more ++ rest).takeWhile extendsIdentifier = more := takeWhile_append_stop hmore hrest
  unfold read
  rw [not_isBlank_of_startsIdentifier hc, if_neg Bool.false_ne_true, if_neg (hne '/' (by decide +kernel)),
    punctuation?_eq_none hc]
  dsimp only
  rw [if_neg (hne '-' (by decide +kernel)), if_neg (hne '"' (by decide +kernel)), not_isDigit_of_startsIdentifier hc,
    if_neg Bool.false_ne_true, if_pos hc, htake]

/-- A comment reaches to the end of its line. -/
theorem read_comment {text rest : List Char} (htext : '\n' ∉ text) (hrest : ∀ d ∈ rest.head?, d = '\n') :
    read '/' ('/' :: text ++ rest) = .ok (gap ('/' :: text)) := by
  have htake : ('/' :: text ++ rest).takeWhile (· ≠ '\n') = '/' :: text := by
    apply takeWhile_append_stop
    · intro d hd
      rcases List.mem_cons.1 hd with rfl | hd
      · rfl
      · exact decide_eq_true (ne_of_mem_of_not_mem hd htext)
    · intro d hd
      simpa using hrest d hd
  unfold read
  rw [show isBlank '/' = false by decide, if_neg Bool.false_ne_true, if_pos rfl]
  exact congrArg (fun more => Except.ok (gap more)) htake

end Lexeme

section Lexes

variable {cs ds : List Char} {kinds kinds' : List TokenKind}

/-- A lexeme and what follows it. -/
theorem tokensFrom_read {language : Language} {p : Position} {c : Char} {rest : List Char} {l : Lexeme}
    {later : List Token}
    (hread : Lexeme.read c (l.more ++ rest) = .ok l)
    (h : tokensFrom language (p.advance (c :: l.more)) rest = .ok later) :
    tokensFrom language p (c :: (l.more ++ rest)) = .ok (l.tokens p ++ later) := by
  rw [tokensFrom, hread]
  dsimp only
  rw [List.drop_left, h]

/-- The characters are tokens of these kinds, wherever they stand and whatever follows. -/
def Lexes (cs : List Char) (kinds : List TokenKind) : Prop :=
  ∀ language p rest later, tokensFrom language (p.advance cs) rest = .ok later →
    ∃ ts : List Token, ts.map Token.kind = kinds ∧ tokensFrom language p (cs ++ rest) = .ok (ts ++ later)

theorem lexes_nil : Lexes [] [] := fun _ _ _ _ h => ⟨[], rfl, h⟩

theorem Lexes.append (h : Lexes cs kinds) (h' : Lexes ds kinds') : Lexes (cs ++ ds) (kinds ++ kinds') := by
  intro language p rest later hlater
  rw [Position.advance_append] at hlater
  obtain ⟨ts', hk', ht'⟩ := h' language _ rest later hlater
  obtain ⟨ts, hk, ht⟩ := h language p _ _ ht'
  exact ⟨ts ++ ts', by rw [List.map_append, hk, hk'], by rw [List.append_assoc, ht, List.append_assoc]⟩

/-- What no token stands for can be passed over. -/
theorem Lexes.gap (h : Lexes cs []) {language : Language} {p : Position} {rest : List Char} {later : List Token}
    (hrest : tokensFrom language (p.advance cs) rest = .ok later) : tokensFrom language p (cs ++ rest) = .ok later := by
  obtain ⟨ts, hk, ht⟩ := h language p rest later hrest
  obtain rfl := List.map_eq_nil_iff.1 hk
  exact ht

/-- A lexeme that does not depend on what follows it. -/
theorem lexes_of_read {c : Char} {l : Lexeme} (hread : ∀ rest, Lexeme.read c (l.more ++ rest) = .ok l) :
    Lexes (c :: l.more) (l.token?.map Prod.fst).toList := by
  intro language p rest later h
  refine ⟨l.tokens p, ?_, tokensFrom_read (hread rest) h⟩
  unfold Lexeme.tokens
  rcases l.token? with _ | ⟨kind, text⟩ <;> rfl

theorem lexes_blank {c : Char} (h : Text.isBlank c = true) : Lexes [c] [] :=
  lexes_of_read (l := .gap []) fun rest => by
    unfold Lexeme.read
    rw [if_pos h]

/-- A name ends where a character follows that no name goes on with. -/
theorem tokensFrom_identifier {name : String} (hname : Lexeme.isName name = true) {d : Char}
    (hd : Text.extendsIdentifier d = false) {language : Language} {p : Position} {rest : List Char} {later : List Token}
    (h : tokensFrom language (p.advance name.toList) (d :: rest) = .ok later) :
    tokensFrom language p (name.toList ++ d :: rest) = .ok (⟨.identifier name, p, name⟩ :: later) := by
  obtain ⟨c, more, hcs, hc, hmore⟩ := Lexeme.isName_iff.1 hname
  have hname : String.ofList (c :: more) = name := by rw [← hcs, String.ofList_toList]
  have hread : Lexeme.read c (more ++ d :: rest) = .ok (.spelled c more (.identifier name)) := by
    rw [← hname]
    exact Lexeme.read_identifier hc hmore (by rintro _ ⟨⟩; exact hd)
  rw [hcs] at h ⊢
  have := tokensFrom_read (l := .spelled c more (.identifier name)) hread h
  rwa [Lexeme.tokens, Lexeme.spelled, hname] at this

/-- A name and what ends it. -/
theorem lexes_identifier {name : String} (hname : Lexeme.isName name = true) {d : Char}
    (hd : Text.extendsIdentifier d = false) (h : Lexes (d :: ds) kinds) :
    Lexes (name.toList ++ d :: ds) (.identifier name :: kinds) := by
  intro language p rest later hlater
  rw [Position.advance_append] at hlater
  obtain ⟨ts, hk, ht⟩ := h language _ rest later hlater
  refine ⟨⟨.identifier name, p, name⟩ :: ts, by rw [List.map_cons, hk], ?_⟩
  rw [List.append_assoc]
  exact tokensFrom_identifier hname hd ht

theorem lexes_comment {text : List Char} (htext : '\n' ∉ text) : Lexes ('/' :: '/' :: text ++ ['\n']) [] := by
  intro language p rest later h
  rw [Position.advance_append] at h
  refine ⟨[], rfl, ?_⟩
  rw [List.append_assoc]
  exact tokensFrom_read (l := .gap ('/' :: text)) (Lexeme.read_comment htext (by rintro _ ⟨⟩; rfl))
    ((lexes_blank (by decide)).gap h)

/-- Characters that stand for pieces one by one are lists of what each piece stands for. -/
theorem lexes_flatMap {α β γ : Type} {xs : List α} {text : α → List Char} (shown : α → γ) {P : β → Prop} {view : β → γ}
    {kindsOf : β → List TokenKind} (h : ∀ x ∈ xs, ∃ y, P y ∧ view y = shown x ∧ Lexes (text x) (kindsOf y)) :
    ∃ ys : List β, (∀ y ∈ ys, P y) ∧ ys.map view = xs.map shown ∧ Lexes (xs.flatMap text) (ys.flatMap kindsOf) := by
  induction xs with
  | nil => exact ⟨[], nofun, rfl, lexes_nil⟩
  | cons x xs ih =>
    obtain ⟨y, hy, hview, hx⟩ := h x List.mem_cons_self
    obtain ⟨ys, hys, hviews, hxs⟩ := ih fun z hz => h z (List.mem_cons_of_mem _ hz)
    refine ⟨y :: ys, List.forall_mem_cons.2 ⟨hy, hys⟩, by rw [List.map_cons, hview, hviews, List.map_cons], ?_⟩
    rw [List.flatMap_cons, List.flatMap_cons]
    exact hx.append hxs

/-! Pieces with a meaning of their own. -/

theorem lexes_space : Lexes [' '] [] := lexes_blank (by decide)

theorem lexes_spaces (n : Nat) : Lexes (List.replicate n ' ') [] := by
  induction n with
  | zero => exact lexes_nil
  | succ n ih => exact lexes_space.append ih

theorem lexes_newline : Lexes ['\n'] [] := lexes_blank (by decide)

theorem lexes_openBrace : Lexes ['{'] [.openBrace] := lexes_of_read (l := .spelled '{' [] .openBrace) fun _ => rfl

theorem lexes_closeBrace : Lexes ['}'] [.closeBrace] := lexes_of_read (l := .spelled '}' [] .closeBrace) fun _ => rfl

theorem lexes_dot : Lexes ['.'] [.dot] := lexes_of_read (l := .spelled '.' [] .dot) fun _ => rfl

theorem lexes_marker : Lexes ['-', '-'] [.marker] := lexes_of_read (l := .spelled '-' ['-'] .marker) fun _ => rfl

end Lexes

end Dataflow
