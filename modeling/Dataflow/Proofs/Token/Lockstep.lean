import Dataflow.Token.Cursor
/-!
# Two runs of a parser on differently laid out tokens

`Alike ts ts'` says that two lists of tokens differ in layout only: the kinds are the same, and after
a marker the same of the next two tokens are on the marker's line. A parser looks at no more than that.

`Lockstep P p p' Q` is a Hoare triple about two runs: from cursors related by `P` they both succeed, as `Q`
says, or both fail with the same detail. `InStep` is the case of the parsers that keep alike what is left
to read and give the same value. Loops keep in step what their rounds do (`inStep_untilBrace`,
`inStep_whileIdentifier`, `inStep_sections`).
-/

namespace Dataflow

/-- Which of the next `n` tokens are on this line. -/
def onLine (n line : Nat) (ts : List Token) : List Bool := (ts.take n).map (·.position.line = line)

/-- The same kinds of tokens, and after a marker the same of the next two tokens on its line. -/
inductive Alike : List Token → List Token → Prop
  | nil : Alike [] []
  | cons {t t' : Token} {ts ts' : List Token} : t.kind = t'.kind →
    (t.kind = .marker → onLine 2 t.position.line ts = onLine 2 t'.position.line ts') →
    Alike ts ts' → Alike (t :: ts) (t' :: ts')

theorem alike_cons {t t' : Token} {ts ts' : List Token} :
    Alike (t :: ts) (t' :: ts') ↔ t.kind = t'.kind ∧
      (t.kind = .marker → onLine 2 t.position.line ts = onLine 2 t'.position.line ts') ∧ Alike ts ts' := by
  constructor
  · intro h
    cases h with
    | cons hkind hline h => exact ⟨hkind, hline, h⟩
  · rintro ⟨hkind, hline, h⟩
    exact .cons hkind hline h

instance decidableAlike : (ts ts' : List Token) → Decidable (Alike ts ts')
  | [], [] => .isTrue .nil
  | [], _ :: _ => .isFalse nofun
  | _ :: _, [] => .isFalse nofun
  | _ :: ts, _ :: ts' =>
    have := decidableAlike ts ts'
    decidable_of_iff _ alike_cons.symm

theorem Alike.length_eq {ts ts' : List Token} (h : Alike ts ts') : ts.length = ts'.length := by
  induction h with
  | nil => rfl
  | cons _ _ _ ih => simp [ih]

theorem onLine_of_succ {n line line' : Nat} {ts ts' : List Token}
    (h : onLine (n + 1) line ts = onLine (n + 1) line' ts') : onLine n line ts = onLine n line' ts' := by
  have htake := congrArg (List.take n) h
  simpa [onLine, List.map_take, List.take_take] using htake

namespace Cursor

/-- What is left to read is alike. -/
def Same (c c' : Cursor) : Prop := Alike c.rest c'.rest

/-- What is left to read is alike, and the same of the next `n` tokens are on their lines. -/
def Facing (n line line' : Nat) (c c' : Cursor) : Prop :=
  c.Same c' ∧ onLine n line c.rest = onLine n line' c'.rest

theorem Same.detail_unexpected {c c' : Cursor} (h : c.Same c') (expectation : String) :
    (c.unexpected expectation).detail = (c'.unexpected expectation).detail := by
  obtain ⟨language, last?, ts⟩ := c
  obtain ⟨language', last?', ts'⟩ := c'
  cases h with
  | nil => rfl
  | cons hkind _ _ => simp [unexpected, errorAt, hkind]

theorem Same.kind_peek? {c c' : Cursor} (h : c.Same c') : c.peek?.map Token.kind = c'.peek?.map Token.kind := by
  obtain ⟨language, last?, ts⟩ := c
  obtain ⟨language', last?', ts'⟩ := c'
  cases h with
  | nil => rfl
  | cons hkind _ _ => simp [peek?, hkind]

theorem Same.atEnd_eq {c c' : Cursor} (h : c.Same c') : c.atEnd = c'.atEnd := by
  obtain ⟨language, last?, ts⟩ := c
  obtain ⟨language', last?', ts'⟩ := c'
  cases h with
  | nil => rfl
  | cons _ _ _ => rfl

end Cursor

namespace Parser

open Cursor

/-- Both runs succeed, as `Q` says, or both fail with the same detail. -/
def Agree {α : Type} (Q : α → α → Cursor → Cursor → Prop) :
    EStateM.Result ParseError Cursor α → EStateM.Result ParseError Cursor α → Prop
  | .ok a c, .ok a' c' => Q a a' c c'
  | .error e _, .error e' _ => e.detail = e'.detail
  | _, _ => False

/-- From cursors related by `P`, the runs of the two parsers agree. -/
def Lockstep {α : Type} (P : Cursor → Cursor → Prop) (p p' : Parser α) (Q : α → α → Cursor → Cursor → Prop) : Prop :=
  ∀ c c', P c c' → Agree Q (p c) (p' c')

/-- From alike tokens the parsers give the same value and leave alike tokens. -/
def InStep {α : Type} (p p' : Parser α) : Prop := Lockstep Same p p' fun a a' c c' => a = a' ∧ c.Same c'

variable {α β σ : Type} {P P' : Cursor → Cursor → Prop} {p p' : Parser α} {f f' : α → Parser β}
  {R : α → α → Cursor → Cursor → Prop} {Q : β → β → Cursor → Cursor → Prop}

theorem Lockstep.bind (hp : Lockstep P p p' R) (hf : ∀ a a', Lockstep (R a a') (f a) (f' a') Q) :
    Lockstep P (p >>= f) (p' >>= f') Q := by
  intro c c' hc
  have h := hp c c' hc
  change Agree Q (EStateM.bind p f c) (EStateM.bind p' f' c')
  unfold EStateM.bind
  cases hr : p c <;> cases hr' : p' c' <;> rw [hr, hr'] at h
  · exact hf _ _ _ _ h
  · exact False.elim h
  · exact False.elim h
  · exact h

theorem Lockstep.mono (hp : Lockstep P p p' R) (h : ∀ c c', P' c c' → P c c') : Lockstep P' p p' R :=
  fun c c' hc => hp c c' (h c c' hc)

/-- What is known of the values alone may be assumed. -/
theorem Lockstep.assuming {φ : Prop} (h : φ → Lockstep P p p' R) : Lockstep (fun c c' => φ ∧ P c c') p p' R :=
  fun c c' hc => h hc.1 c c' hc.2

theorem InStep.bind (hp : InStep p p') (hf : ∀ a, InStep (f a) (f' a)) : InStep (p >>= f) (p' >>= f') := by
  refine Lockstep.bind hp fun a a' => Lockstep.assuming ?_
  rintro rfl
  exact hf a

theorem inStep_pure (a : α) : InStep (pure a) (pure a) := fun _ _ h => ⟨rfl, h⟩

theorem Lockstep.get {g g' : Cursor → Parser β} (h : ∀ c c', c.Same c' → Lockstep Same (g c) (g' c') Q) :
    Lockstep Same (get >>= g) (get >>= g') Q := fun c c' hc => h c c' hc c c' hc

/-! ## Single tokens -/

theorem lockstep_failAt (token token' : Token) (detail : String) :
    Lockstep P (failAt token detail) (failAt token' detail) R := fun _ _ _ => rfl

theorem inStep_unexpected (expectation : String) :
    InStep (unexpected expectation : Parser α) (unexpected expectation) :=
  fun _ _ h => h.detail_unexpected expectation

theorem inStep_eat (kind : TokenKind) : InStep (eat kind) (eat kind) := by
  rintro ⟨language, last?, ts⟩ ⟨language', last?', ts'⟩ h
  cases h with
  | nil => exact ⟨rfl, .nil⟩
  | @cons t t' _ _ hkind hline h =>
    simp only [eat, ← hkind]
    split
    · exact ⟨rfl, h⟩
    · exact ⟨rfl, .cons hkind hline h⟩

theorem lockstep_advance : Lockstep Same advance advance fun _ _ c c' => c.Same c' := by
  rintro ⟨language, last?, ts⟩ ⟨language', last?', ts'⟩ h
  cases h with
  | nil => exact .nil
  | cons _ _ h => exact h

theorem lockstep_expect (kind : TokenKind) (context : String) :
    Lockstep Same (expect kind context) (expect kind context) fun t t' c c' =>
      c.Same c' ∧ (kind = .marker → Facing 2 t.position.line t'.position.line c c') := by
  rintro ⟨language, last?, ts⟩ ⟨language', last?', ts'⟩ h
  have hdetail := h.detail_unexpected s!"expected {kind.describe} {context}"
  cases h with
  | nil => exact hdetail
  | @cons t t' _ _ hkind hline h =>
    simp only [expect, ← hkind]
    split
    · rename_i heq
      exact ⟨h, fun hmarker => ⟨h, hline (heq.trans hmarker)⟩⟩
    · exact hdetail

theorem lockstep_identifierToken (context : String) :
    Lockstep Same (identifierToken context) (identifierToken context) fun x x' c c' => x.1 = x'.1 ∧ c.Same c' := by
  rintro ⟨language, last?, ts⟩ ⟨language', last?', ts'⟩ h
  have hdetail := h.detail_unexpected s!"expected identifier {context}"
  cases h with
  | nil => exact hdetail
  | @cons t t' _ _ hkind hline h =>
    simp only [identifierToken, ← hkind]
    split
    · exact ⟨rfl, h⟩
    · exact hdetail

theorem inStep_identifierIsNext : InStep identifierIsNext identifierIsNext := by
  rintro ⟨language, last?, ts⟩ ⟨language', last?', ts'⟩ h
  cases h with
  | nil => exact ⟨rfl, .nil⟩
  | @cons t t' _ _ hkind hline h =>
    simp only [identifierIsNext, ← hkind]
    split <;> exact ⟨rfl, .cons hkind hline h⟩

theorem lockstep_identifierOnLine? (n line line' : Nat) :
    Lockstep (Facing (n + 1) line line') (identifierOnLine? line) (identifierOnLine? line') fun a a' c c' =>
      a = a' ∧ Facing n line line' c c' := by
  rintro ⟨language, last?, ts⟩ ⟨language', last?', ts'⟩ ⟨h, hon⟩
  have hstay : Facing n line line' ⟨language, last?, ts⟩ ⟨language', last?', ts'⟩ := ⟨h, onLine_of_succ hon⟩
  cases h with
  | nil => exact ⟨rfl, hstay⟩
  | @cons t t' _ _ hkind hline h =>
    obtain ⟨hhead, htail⟩ :
        (t.position.line = line ↔ t'.position.line = line') ∧ onLine n line _ = onLine n line' _ := by
      simpa [onLine] using hon
    simp only [identifierOnLine?, ← hkind, ← hhead]
    split
    · split
      · exact ⟨rfl, h, htail⟩
      · exact ⟨rfl, hstay⟩
    · exact ⟨rfl, hstay⟩

/-! ## What follows a token -/

theorem inStep_of_expect {kind : TokenKind} {context : String} {q q' : Parser β} (h : InStep q q') :
    InStep (expect kind context >>= fun _ => q) (expect kind context >>= fun _ => q') :=
  (lockstep_expect kind context).bind fun _ _ => Lockstep.mono h fun _ _ hc => hc.1

/-- The tokens of two identifiers may differ, but not the names. -/
theorem inStep_of_identifierToken {context : String} {g g' : String × Token → Parser β}
    (h : ∀ name t t', InStep (g (name, t)) (g' (name, t'))) :
    InStep (identifierToken context >>= g) (identifierToken context >>= g') := by
  refine (lockstep_identifierToken context).bind fun x x' => Lockstep.assuming ?_
  obtain ⟨name, t⟩ := x
  obtain ⟨name', t'⟩ := x'
  rintro rfl
  exact h name t t'

theorem inStep_identifier (context : String) : InStep (identifier context) (identifier context) :=
  inStep_of_identifierToken fun name _ _ => inStep_pure name

theorem inStep_typeName (context : String) : InStep (typeName context) (typeName context) := by
  refine (inStep_identifier context).bind fun first => (inStep_eat .dot).bind fun dot => ?_
  split
  · exact (inStep_identifier context).bind fun second => inStep_pure _
  · exact inStep_pure first

/-! ## Loops -/

theorem inStep_rounds : InStep rounds rounds :=
  Lockstep.get fun c c' h => by
    rw [h.length_eq]
    exact inStep_pure _

variable {step : σ → Parser σ}

theorem inStep_untilBrace (hstep : ∀ s, InStep (step s) (step s)) (init : σ) :
    InStep (untilBrace step init) (untilBrace step init) := by
  refine inStep_rounds.bind fun fuel => ?_
  induction fuel generalizing init with
  | zero => exact inStep_pure init
  | succ fuel ih =>
    refine (inStep_eat .closeBrace).bind fun closed => ?_
    split
    · exact inStep_pure init
    · exact (hstep init).bind ih

theorem inStep_whileIdentifier (hstep : ∀ s, InStep (step s) (step s)) (init : σ) :
    InStep (whileIdentifier step init) (whileIdentifier step init) := by
  refine inStep_rounds.bind fun fuel => ?_
  induction fuel generalizing init with
  | zero => exact inStep_pure init
  | succ fuel ih =>
    refine inStep_identifierIsNext.bind fun next => ?_
    split
    · exact (hstep init).bind ih
    · exact inStep_pure init

/-- The name of a section takes one of the two tokens behind the marker; its body starts at the other. -/
theorem inStep_sections {body : String → Token → σ → Parser σ}
    (hbody : ∀ name t t' s, Lockstep (Facing 1 t.position.line t'.position.line) (body name t s) (body name t' s)
      fun a a' c c' => a = a' ∧ c.Same c') (init : σ) :
    InStep (sections body init) (sections body init) := by
  refine inStep_rounds.bind fun fuel => ?_
  generalize [] = seen
  induction fuel generalizing init seen with
  | zero => exact inStep_pure _
  | succ fuel ih =>
    refine Lockstep.get fun c c' h => ?_
    rw [h.atEnd_eq]
    split
    · exact inStep_pure _
    · refine (lockstep_expect _ _).bind fun t t' => ?_
      refine Lockstep.mono (P := Facing 2 t.position.line t'.position.line) ?_ fun _ _ hc => hc.2 rfl
      refine (lockstep_identifierOnLine? 1 _ _).bind fun name? name?' => Lockstep.assuming ?_
      rintro rfl
      cases name? with
      | none => exact lockstep_failAt _ _ _
      | some name =>
        dsimp only
        split
        · exact lockstep_failAt _ _ _
        · refine (hbody name t t' init).bind fun s s' => Lockstep.assuming ?_
          rintro rfl
          exact inStep_of_expect (ih s _)

/-! ## Whole texts -/

theorem InStep.parse {p : Parser α} (hp : InStep p p) {language : Language} {source source' : String}
    {tokens tokens' : List Token} (h : tokenize language source = .ok tokens)
    (h' : tokenize language source' = .ok tokens') (halike : Alike tokens tokens') :
    (Parser.parse p language source).mapError ParseError.detail =
      (Parser.parse p language source').mapError ParseError.detail := by
  have hagree := hp ⟨language, none, tokens⟩ ⟨language, none, tokens'⟩ halike
  simp only [Parser.parse, Cursor.ofSource, h, h', Except.map]
  cases hr : p ⟨language, none, tokens⟩ <;> cases hr' : p ⟨language, none, tokens'⟩ <;> rw [hr, hr'] at hagree
  · exact congrArg Except.ok hagree.1
  · exact False.elim hagree
  · exact False.elim hagree
  · exact congrArg Except.error hagree

end Parser

end Dataflow
