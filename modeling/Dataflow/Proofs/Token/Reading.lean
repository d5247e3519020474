import Dataflow.Token.Cursor
/-!
# What a parser gives when it does not fail

`Parser.Gives p P` says that `P` holds of every value that `p` reads, from wherever it starts. A
loop of a parser keeps what each of its rounds keeps (`gives_untilBrace`, `gives_whileIdentifier`,
`gives_sections`).
-/

namespace Dataflow.Parser

variable {α β σ : Type} {P : α → Prop} {Q : β → Prop} {I : σ → Prop}

/-- Whatever the parser gives, from any cursor, satisfies `P`. -/
def Gives (p : Parser α) (P : α → Prop) : Prop := ∀ c a c', p c = .ok a c' → P a

/-- What comes after a parser goes on at the cursor where that one stopped. -/
theorem bind_eq_ok_iff {p : Parser α} {f : α → Parser β} {c c' : Cursor} {b : β} :
    (p >>= f) c = .ok b c' ↔ ∃ a c₁, p c = .ok a c₁ ∧ f a c₁ = .ok b c' := by
  change EStateM.bind p f c = .ok b c' ↔ _
  unfold EStateM.bind
  cases p c with
  | error e c₁ => simp
  | ok a c₁ => simp [and_assoc]

theorem gives_pure {a : α} (h : P a) : Gives (pure a) P := by
  rintro c a' c' ⟨⟩
  exact h

theorem gives_bind {p : Parser α} {f : α → Parser β} (hp : Gives p P) (hf : ∀ a, P a → Gives (f a) Q) :
    Gives (p >>= f) Q := by
  intro c b c' h
  obtain ⟨a, c₁, ha, hb⟩ := bind_eq_ok_iff.1 h
  exact hf a (hp c a c₁ ha) c₁ b c' hb

/-- What is read first does not matter when any value will do. -/
theorem gives_after {p : Parser α} {f : α → Parser β} (hf : ∀ a, Gives (f a) Q) : Gives (p >>= f) Q :=
  gives_bind (P := fun _ => True) (fun _ _ _ _ => trivial) fun a _ => hf a

theorem gives_failAt (token : Token) (detail : String) : Gives (failAt token detail) P := by
  rintro c a c' ⟨⟩

theorem gives_unexpected (expectation : String) : Gives (unexpected expectation) P := by
  rintro c a c' ⟨⟩

/-! ## Loops -/

theorem gives_untilBrace {step : σ → Parser σ} (hstep : ∀ s, I s → Gives (step s) I) {init : σ} (h : I init) :
    Gives (untilBrace step init) I := by
  refine gives_after fun fuel => ?_
  induction fuel generalizing init with
  | zero => exact gives_pure h
  | succ fuel ih =>
    refine gives_after fun closed => ?_
    split
    · exact gives_pure h
    · exact gives_bind (hstep init h) fun s hs => ih hs

theorem gives_whileIdentifier {step : σ → Parser σ} (hstep : ∀ s, I s → Gives (step s) I) {init : σ} (h : I init) :
    Gives (whileIdentifier step init) I := by
  refine gives_after fun fuel => ?_
  induction fuel generalizing init with
  | zero => exact gives_pure h
  | succ fuel ih =>
    refine gives_after fun next => ?_
    split
    · exact gives_bind (hstep init h) fun s hs => ih hs
    · exact gives_pure h

theorem gives_sections {body : String → Token → σ → Parser σ}
    (hbody : ∀ name opening s, I s → Gives (body name opening s) I) {init : σ} (h : I init) :
    Gives (sections body init) fun x => I x.1 := by
  refine gives_after fun fuel => ?_
  generalize [] = seen
  induction fuel generalizing init seen with
  | zero => exact gives_pure h
  | succ fuel ih =>
    refine gives_after fun c => ?_
    split
    · exact gives_pure h
    · refine gives_after fun opening => gives_after fun name => ?_
      split
      · split
        · exact gives_failAt _ _
        · exact gives_bind (hbody _ opening init h) fun s hs => gives_after fun _ => ih hs _
      · exact gives_failAt _ _

theorem parse_gives {p : Parser α} (hp : Gives p P) {language : Language} {source : String} {a : α}
    (h : Parser.parse p language source = .ok a) : P a := by
  unfold Parser.parse at h
  split at h
  · cases h
  · rename_i cursor _
    cases hc : p cursor with
    | error e c => simp [hc] at h
    | ok b c =>
      simp only [hc, Except.ok.injEq] at h
      exact h ▸ hp cursor b c hc

end Dataflow.Parser
