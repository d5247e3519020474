import Mathlib.Data.List.Forall2
import Dataflow.Proofs.Token.Citing
import Dataflow.Proofs.Token.Lockstep
/-!
# Line by line

No lexeme goes beyond the end of its line, nor is what follows the line looked at to read it
(`read_line`). So a text whose lines are put together is tokenized part by part
(`tokensFrom_append`), and a parser cannot tell two parts apart if their tokens are alike
wherever they stand (`Interchangeable`).
-/

namespace Dataflow

/-! ## A line and what follows it -/

namespace Lexeme

variable {c : Char} {cs rest : List Char} {l : Lexeme}

theorem takeWhile_line {p : Char → Bool} (hp : p '\n' = false) (cs rest : List Char) :
    (cs ++ '\n' :: rest).takeWhile p = cs.takeWhile p := by
  induction cs with
  | nil => simp [hp]
  | cons c cs ih => simp only [List.cons_append, List.takeWhile_cons, ih]

theorem textBody_line (value taken cs rest : List Char) :
    textBody value taken (cs ++ '\n' :: rest) = textBody value taken (cs ++ ['\n']) := by
  fun_induction textBody value taken cs with
  | case1 => rfl
  | case2 => rfl
  | case3 => rfl
  | case4 value taken c cs v hv ih =>
    simp only [List.cons_append, textBody, hv]
    exact ih
  | case5 value taken c cs hunknown => simp only [List.cons_append, textBody, hunknown]
  | case6 => rfl
  | case7 value taken c cs hquote hend hescape hline ih =>
    have hbackslash : c ≠ '\\' := by
      intro hc
      cases cs with
      | nil => exact hend hc rfl
      | cons e cs => exact hescape e cs hc rfl
    have hplain : ∀ ds, textBody value taken (c :: ds) = textBody (c :: value) (c :: taken) ds := fun ds => by
      rw [textBody.eq_5 _ _ _ _ hquote (fun h _ => hbackslash h) (fun _ _ h _ => hbackslash h), if_neg hline]
    rw [List.cons_append, List.cons_append, hplain, hplain, ih]

/-- What stands behind the line is not looked at. -/
theorem read_line (c : Char) (cs rest : List Char) : read c (cs ++ '\n' :: rest) = read c (cs ++ ['\n']) := by
  have hcomment := takeWhile_line (p := (· ≠ '\n')) (by decide) cs
  have hdigits := takeWhile_line (p := Text.isDigit) (by decide) cs
  have hname := takeWhile_line (p := Text.extendsIdentifier) (by decide +kernel) cs
  unfold read
  simp only [hcomment, hdigits, hname, textBody_line [] [] cs rest]
  -- Only the branches that look at one more character are left.
  cases cs with
  | nil => rfl
  | cons d cs =>
    by_cases hslash : d = '/'
    · subst hslash
      rfl
    by_cases hdash : d = '-'
    · subst hdash
      rfl
    by_cases harrow : d = '>'
    · subst harrow
      rfl
    simp [hslash, hdash, harrow]

theorem Stands.newline_not_mem {after : List Char} (h : l.Stands c after) : '\n' ∉ l.more := by
  obtain ⟨more, _ | ⟨kind, text⟩⟩ := l
  · cases h with
    | blank => simp
    | comment htext => simpa using htext
  · exact fun hm => h.1.newline_not_mem (List.mem_cons_of_mem _ hm)

/-- A lexeme ends within its line. -/
theorem exists_line_eq (h : read c (cs ++ '\n' :: rest) = .ok l) : ∃ after, cs = l.more ++ after := by
  obtain ⟨after, hsplit, hstands⟩ := read_eq_ok_iff.1 h
  rcases List.append_eq_append_iff.1 hsplit with ⟨front, hmore, hfront⟩ | ⟨front, hcs, -⟩
  · -- The lexeme would go on behind the line break.
    cases front with
    | nil => exact ⟨[], by simpa using hmore.symm⟩
    | cons d front =>
      obtain ⟨rfl, -⟩ := List.cons.inj hfront
      exact absurd (by simp [hmore]) hstands.newline_not_mem
  · exact ⟨front, hcs⟩

end Lexeme

variable {language : Language} {p p' : Position} {cs cs' ds ds' : List Char} {ts ts' us us' : List Token}

/-- What follows a line is tokenized behind it; the line itself is tokenized as if nothing followed. -/
theorem tokensFrom_line (language : Language) (p : Position) (cs rest : List Char) :
    tokensFrom language p (cs ++ '\n' :: rest) =
      (tokensFrom language p (cs ++ ['\n'])).bind fun ts =>
        (tokensFrom language (p.advance (cs ++ ['\n'])) rest).map (ts ++ ·) := by
  generalize hn : cs.length = n
  induction n using Nat.strongRecOn generalizing p cs with
  | ind n ih =>
    cases cs with
    | nil =>
      have hblank : ∀ rest, Lexeme.read '\n' rest = .ok (.gap []) := fun _ => rfl
      rw [List.nil_append, List.nil_append, tokensFrom, tokensFrom, hblank, hblank]
      simp only [Lexeme.gap, Lexeme.tokens, List.length_nil, List.drop_zero, tokensFrom, List.nil_append]
      cases tokensFrom language (p.advance ['\n']) rest <;> rfl
    | cons c cs =>
      rw [List.cons_append, List.cons_append, tokensFrom, tokensFrom, Lexeme.read_line]
      cases hread : Lexeme.read c (cs ++ ['\n']) with
      | error refusal => rfl
      | ok l =>
        -- The lexeme ends within the line, so what is left of the line goes on as before.
        obtain ⟨after, rfl⟩ := Lexeme.exists_line_eq hread
        have hlt : after.length < n := by
          rw [← hn, List.length_cons, List.length_append]
          omega
        have hadvance : p.advance (c :: (l.more ++ after ++ ['\n'])) =
            (p.advance (c :: l.more)).advance (after ++ ['\n']) := by
          rw [← Position.advance_append, List.append_assoc]
          rfl
        simp only [List.append_assoc, List.drop_left] at hadvance ⊢
        rw [ih _ hlt _ _ rfl, hadvance]
        cases tokensFrom language (p.advance (c :: l.more)) (after ++ ['\n']) with
        | error e => rfl
        | ok ts =>
          simp only [Except.bind]
          cases tokensFrom language ((p.advance (c :: l.more)).advance (after ++ ['\n'])) rest with
          | error e => rfl
          | ok us => simp [Except.map]

/-- Every line is complete. -/
def WholeLines (cs : List Char) : Prop := cs = [] ∨ ∃ ds, cs = ds ++ ['\n']

theorem wholeLines_nil : WholeLines [] := .inl rfl

theorem wholeLines_concat (cs : List Char) : WholeLines (cs ++ ['\n']) := .inr ⟨cs, rfl⟩

theorem WholeLines.append (h : WholeLines cs) (h' : WholeLines ds) : WholeLines (cs ++ ds) := by
  rcases h' with rfl | ⟨ds, rfl⟩
  · rwa [List.append_nil]
  · exact .inr ⟨cs ++ ds, (List.append_assoc ..).symm⟩

/-- Behind complete lines a text is tokenized as if it stood alone. -/
theorem tokensFrom_append (h : WholeLines cs) (language : Language) (p : Position) (rest : List Char) :
    tokensFrom language p (cs ++ rest) =
      (tokensFrom language p cs).bind fun ts => (tokensFrom language (p.advance cs) rest).map (ts ++ ·) := by
  rcases h with rfl | ⟨cs, rfl⟩
  · rw [List.nil_append, tokensFrom]
    simp only [Except.bind, Position.advance_nil, List.nil_append]
    cases tokensFrom language p rest <;> rfl
  · rw [List.append_assoc]
    exact tokensFrom_line language p cs rest

/-! ## The lines of tokens -/

theorem Position.line_advance (p : Position) (cs : List Char) : (p.advance cs).line = p.line + cs.count '\n' := by
  induction cs generalizing p with
  | nil => rfl
  | cons c cs ih =>
    rw [advance_cons, ih, after, List.count_cons]
    split
    · simp_all
      omega
    · simp_all

/-- A token starts at a character that is no line break. -/
theorem exists_start_of_tokensFrom (h : tokensFrom language p cs = .ok ts) :
    ∀ t ∈ ts, ∃ before d after, cs = before ++ d :: after ∧ d ≠ '\n' ∧ t.position = p.advance before := by
  fun_induction tokensFrom language p cs generalizing ts with
  | case1 =>
    cases h
    exact nofun
  | case2 => cases h
  | case3 => cases h
  | case4 p c rest l hread later hlater ih =>
    cases h
    obtain ⟨after, rfl, hstands⟩ := Lexeme.read_eq_ok_iff.1 hread
    rw [List.drop_left] at hlater ih
    intro t ht
    rcases List.mem_append.1 ht with ht | ht
    · unfold Lexeme.tokens at ht
      split at ht
      · next kind text htoken =>
        obtain rfl := List.mem_singleton.1 ht
        refine ⟨[], c, l.more ++ after, rfl, ?_, rfl⟩
        rintro rfl
        rw [Lexeme.Stands, htoken] at hstands
        exact hstands.1.newline_not_mem List.mem_cons_self
      · cases ht
    · obtain ⟨before, d, last, rfl, hd, hposition⟩ := ih hlater t ht
      refine ⟨c :: l.more ++ before, d, last, by simp, hd, ?_⟩
      rw [Position.advance_append, hposition]

theorem line_le_of_tokensFrom (h : tokensFrom language p cs = .ok ts) : ∀ t ∈ ts, p.line ≤ t.position.line := by
  intro t ht
  obtain ⟨before, d, after, -, -, hposition⟩ := exists_start_of_tokensFrom h t ht
  rw [hposition, Position.line_advance]
  exact Nat.le_add_right ..

/-- Behind complete lines another line starts. -/
theorem line_lt_of_tokensFrom (hlines : WholeLines cs) (h : tokensFrom language p cs = .ok ts) :
    ∀ t ∈ ts, t.position.line < (p.advance cs).line := by
  intro t ht
  obtain ⟨before, d, after, rfl, hd, hposition⟩ := exists_start_of_tokensFrom h t ht
  have hbreak : '\n' ∈ after := by
    rcases hlines with hnil | ⟨ds, hds⟩
    · simp at hnil
    · cases after using List.reverseRecOn with
      | nil => exact absurd (by simpa using congrArg List.getLast? hds) hd
      | append_singleton after e =>
        have hends : (before ++ d :: after) ++ [e] = ds ++ ['\n'] := by simpa using hds
        obtain ⟨rfl, -⟩ := List.cons.inj (List.append_inj' hends rfl).2
        simp
  have hcount := List.count_pos_iff.2 hbreak
  rw [hposition, Position.line_advance, Position.line_advance, List.count_append, List.count_cons]
  omega

/-! ## Texts of alike tokens -/

/-- The same kinds, on lines that are as far from line `m` as they are from line `n`. -/
def Shifted (m n : Nat) (ts ts' : List Token) : Prop :=
  List.Forall₂ (fun t t' => t.kind = t'.kind ∧ t.position.line + n = t'.position.line + m) ts ts'

theorem Shifted.onLine_eq {m n line line' : Nat} (h : Shifted m n ts ts') (hline : line + n = line' + m) (k : Nat) :
    onLine k line ts = onLine k line' ts' := by
  induction h generalizing k with
  | nil => simp [onLine]
  | @cons t t' ts ts' ht _ ih =>
    cases k with
    | zero => rfl
    | succ k =>
      have hsame : t.position.line = line ↔ t'.position.line = line' := by omega
      exact congrArg₂ List.cons (decide_eq_decide.2 hsame) (ih k)

theorem Shifted.alike {m n : Nat} (h : Shifted m n ts ts') : Alike ts ts' := by
  induction h with
  | nil => exact .nil
  | @cons t t' ts ts' ht hrest ih => exact .cons ht.1 (fun _ => Shifted.onLine_eq hrest ht.2 2) ih

/-- Tokens as related, or errors with the same detail. -/
def AgreeOn (R : List Token → List Token → Prop) :
    Except ParseError (List Token) → Except ParseError (List Token) → Prop
  | .ok ts, .ok ts' => R ts ts'
  | .error e, .error e' => e.detail = e'.detail
  | _, _ => False

/-- Where a text stands changes the lines of its tokens alone. -/
theorem tokensFrom_shifted (language : Language) {m n : Nat} (hline : p.line + n = p'.line + m) (cs : List Char) :
    AgreeOn (Shifted m n) (tokensFrom language p cs) (tokensFrom language p' cs) := by
  generalize hlength : cs.length = k
  induction k using Nat.strongRecOn generalizing p p' cs with
  | ind k ih =>
    cases cs with
    | nil =>
      rw [tokensFrom, tokensFrom]
      exact .nil
    | cons c rest =>
      rw [tokensFrom, tokensFrom]
      cases hread : Lexeme.read c rest with
      | error refusal => rfl
      | ok l =>
        have hlt : (rest.drop l.more.length).length < k := by
          rw [← hlength, List.length_drop, List.length_cons]
          omega
        have hadvance : (p.advance (c :: l.more)).line + n = (p'.advance (c :: l.more)).line + m := by
          rw [Position.line_advance, Position.line_advance]
          omega
        have hlater := ih _ hlt hadvance _ rfl
        dsimp only
        generalize tokensFrom language (p.advance (c :: l.more)) (rest.drop l.more.length) = later at hlater
        generalize tokensFrom language (p'.advance (c :: l.more)) (rest.drop l.more.length) = later' at hlater
        cases later <;> cases later' <;> try exact hlater
        -- The token of this lexeme, if it has one, stands where the text starts.
        refine List.rel_append ?_ hlater
        unfold Lexeme.tokens
        split
        · exact .cons ⟨rfl, hline⟩ .nil
        · exact .nil

theorem onLine_append {k line : Nat} (h : ∀ u ∈ us, u.position.line ≠ line) :
    onLine k line (ts ++ us) = onLine k line ts ++ List.replicate (min (k - ts.length) us.length) false := by
  have hus : onLine (k - ts.length) line us = List.replicate (min (k - ts.length) us.length) false := by
    rw [List.eq_replicate_iff, onLine, List.length_map, List.length_take]
    refine ⟨rfl, fun b hb => ?_⟩
    obtain ⟨u, hu, rfl⟩ := List.mem_map.1 hb
    exact decide_eq_false (h u (List.mem_of_mem_take hu))
  rw [onLine, List.take_append, List.map_append, ← hus]
  rfl

/-- Alike tokens stay alike when others follow them on other lines. -/
theorem Alike.append (h : Alike ts ts') (h' : Alike us us')
    (hlines : ∀ t ∈ ts, ∀ u ∈ us, u.position.line ≠ t.position.line)
    (hlines' : ∀ t ∈ ts', ∀ u ∈ us', u.position.line ≠ t.position.line) : Alike (ts ++ us) (ts' ++ us') := by
  induction h with
  | nil => exact h'
  | @cons t t' ts ts' hkind hline hts ih =>
    rw [List.forall_mem_cons] at hlines hlines'
    rw [List.cons_append, List.cons_append]
    refine .cons hkind (fun hmarker => ?_) (ih hlines.2 hlines'.2)
    rw [onLine_append hlines.1, onLine_append hlines'.1, hline hmarker, hts.length_eq, h'.length_eq]

theorem AgreeOn.mono {R S : List Token → List Token → Prop} (hRS : ∀ ts ts', R ts ts' → S ts ts')
    {x x' : Except ParseError (List Token)} (h : AgreeOn R x x') : AgreeOn S x x' := by
  cases x <;> cases x'
  · exact h
  · exact h
  · exact h
  · exact hRS _ _ h

/-- Complete lines in whose place others can stand: wherever they do, their tokens are alike, or both are
refused with the same detail. -/
structure Interchangeable (cs cs' : List Char) : Prop where
  whole : WholeLines cs
  whole' : WholeLines cs'
  agree : ∀ language p p', AgreeOn Alike (tokensFrom language p cs) (tokensFrom language p' cs')

theorem WholeLines.interchangeable (h : WholeLines cs) : Interchangeable cs cs where
  whole := h
  whole' := h
  agree language p p' := (tokensFrom_shifted language (Nat.add_comm p.line p'.line) cs).mono fun _ _ h => h.alike

theorem Interchangeable.append (h : Interchangeable cs cs') (h' : Interchangeable ds ds') :
    Interchangeable (cs ++ ds) (cs' ++ ds') where
  whole := h.whole.append h'.whole
  whole' := h.whole'.append h'.whole'
  agree language p p' := by
    have hfront := h.agree language p p'
    have hback := h'.agree language (p.advance cs) (p'.advance cs')
    rw [tokensFrom_append h.whole, tokensFrom_append h.whole']
    cases hx : tokensFrom language p cs <;> cases hx' : tokensFrom language p' cs' <;> rw [hx, hx'] at hfront
    · exact hfront
    · exact hfront.elim
    · exact hfront.elim
    · cases hy : tokensFrom language (p.advance cs) ds <;> cases hy' : tokensFrom language (p'.advance cs') ds' <;>
        rw [hy, hy'] at hback
      · exact hback
      · exact hback.elim
      · exact hback.elim
      · refine Alike.append hfront hback (fun t ht u hu => ?_) (fun t ht u hu => ?_)
        · exact (Nat.lt_of_lt_of_le (line_lt_of_tokensFrom h.whole hx t ht) (line_le_of_tokensFrom hy u hu)).ne'
        · exact (Nat.lt_of_lt_of_le (line_lt_of_tokensFrom h.whole' hx' t ht) (line_le_of_tokensFrom hy' u hu)).ne'

theorem interchangeable_flatMap {α : Type} {xs : List α} {f g : α → List Char}
    (h : ∀ x ∈ xs, Interchangeable (f x) (g x)) : Interchangeable (xs.flatMap f) (xs.flatMap g) := by
  induction xs with
  | nil => exact wholeLines_nil.interchangeable
  | cons x xs ih =>
    obtain ⟨hx, hxs⟩ := List.forall_mem_cons.1 h
    rw [List.flatMap_cons, List.flatMap_cons]
    exact hx.append (ih hxs)

end Dataflow
