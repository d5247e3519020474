import Dataflow.Json.Parser
import Dataflow.Json.Printer
import Mathlib
/-!
# JSON texts are read back

What is read from the compact text of a value is the value: `parse?_compress`. Each kind of value is read
back in front of anything that can follow a value inside a container (`EndsValue`), so that elements and
members are read one after the other. Floats are left out: their text is as short as it can be, and is
not looked into here.
-/

namespace Dataflow.Json

open Text

/-! ## Numbers -/

/-- A value ends in front of these characters, and at the end of the text. -/
def EndsValue (rest : List Char) : Prop := ∀ c ∈ rest.head?, c = ',' ∨ c = ']' ∨ c = '}'

section

variable {c : Char} {cs rest : List Char} {fuel n : Nat}

theorem endsValue_nil : EndsValue [] := nofun

theorem endsValue_cons (h : c = ',' ∨ c = ']' ∨ c = '}') : EndsValue (c :: rest) := by
  rintro _ ⟨⟩
  exact h

theorem EndsValue.not_isDigit (h : EndsValue rest) : ∀ c ∈ rest.head?, isDigit c = false := by
  intro c hc
  rcases h c hc with rfl | rfl | rfl <;> rfl

theorem ne_of_isDigit (hc : isDigit c = true) {d : Char} (hd : isDigit d = false) : c ≠ d := by
  rintro rfl
  rw [hc] at hd
  cases hd

theorem not_isGap_of_isDigit (hc : isDigit c = true) : isGap c = false := by
  simp [isGap, ne_of_isDigit hc (d := ' ') rfl, ne_of_isDigit hc (d := '\n') rfl, ne_of_isDigit hc (d := '\t') rfl,
    ne_of_isDigit hc (d := '\r') rfl]

theorem le_ofDigitChars (ds : List Char) (n : Nat) : n ≤ Nat.ofDigitChars 10 ds n := by
  induction ds generalizing n with
  | nil => simp
  | cons d ds ih =>
    rw [Nat.ofDigitChars_cons]
    have := ih (10 * n + (d.toNat - '0'.toNat))
    omega

/-- All digits are taken as long as their number fits a word. -/
theorem takeSignificand_append {ds : List Char} (hds : ∀ d ∈ ds, isDigit d = true)
    (hrest : ∀ c ∈ rest.head?, isDigit c = false) (taken : Nat)
    (hfits : Nat.ofDigitChars 10 ds n ≤ wordLimit) :
    takeSignificand n taken (ds ++ rest) = (Nat.ofDigitChars 10 ds n, taken + ds.length, rest) := by
  induction ds generalizing n taken with
  | nil =>
    cases rest with
    | nil => simp [takeSignificand]
    | cons c rest => simp [takeSignificand, hrest c rfl]
  | cons d ds ih =>
    obtain ⟨hd, hds⟩ := List.forall_mem_cons.1 hds
    have hvalue : n * 10 + digitValue d = 10 * n + (d.toNat - '0'.toNat) := by rw [digitValue, Nat.mul_comm]
    rw [Nat.ofDigitChars_cons] at hfits ⊢
    -- The number only grows with more digits, so the digits up to here fit as well.
    have hle := Nat.le_trans (le_ofDigitChars ds _) hfits
    rw [List.cons_append, takeSignificand, hvalue, if_pos ⟨hd, hle⟩, ih hds _ hfits, List.length_cons,
      Nat.add_right_comm, Nat.add_assoc]

/-- Only the number zero is written with a zero at the start. -/
theorem eq_nil_of_toDigits (n : Nat) {more : List Char} (h : Nat.toDigits 10 n = '0' :: more) : more = [] := by
  induction n using Nat.strong_induction_on generalizing more with
  | _ n ih =>
    rw [Nat.toDigits_eq_if (by decide)] at h
    split at h
    · simp_all
    · rename_i hlarge
      obtain ⟨d, ds, hd⟩ := List.exists_cons_of_ne_nil (Nat.toDigits_ne_nil (n := n / 10) (b := 10))
      rw [hd, List.cons_append] at h
      obtain ⟨rfl, rfl⟩ := List.cons.inj h
      obtain rfl := ih (n / 10) (by omega) hd
      have hzero : Nat.ofDigitChars 10 (Nat.toDigits 10 (n / 10)) 0 = 0 := by rw [hd]; rfl
      rw [Nat.ofDigitChars_ten_toDigits] at hzero
      omega

theorem exists_toDigits_eq (n : Nat) : ∃ d ds, Nat.toDigits 10 n = d :: ds ∧ isDigit d = true := by
  obtain ⟨d, ds, hd⟩ := List.exists_cons_of_ne_nil (Nat.toDigits_ne_nil (n := n) (b := 10))
  exact ⟨d, ds, hd, Nat.isDigit_of_mem_toDigits (b := 10) (n := n) (by decide) (by decide) (by simp [hd])⟩

/-- The digits of a number are read as this number. -/
theorem number?_toDigits (negative : Bool) (h : n ≤ wordLimit) (hrest : EndsValue rest)
    (hnegative : negative = true → n ≠ 0 ∧ n ≤ 0x8000000000000000) :
    number? negative (Nat.toDigits 10 n ++ rest) =
      (WholeNumber.ofInt? (if negative then -n else n)).map fun w => (.whole w, rest) := by
  have hdigits : ∀ d ∈ Nat.toDigits 10 n, isDigit d = true := fun d hd =>
    Nat.isDigit_of_mem_toDigits (by decide) (by decide) hd
  have htake := takeSignificand_append hdigits hrest.not_isDigit 0 (n := 0)
    (by rwa [Nat.ofDigitChars_ten_toDigits])
  rw [Nat.ofDigitChars_ten_toDigits] at htake
  obtain ⟨d, ds, hd, hdigit⟩ := exists_toDigits_eq n
  have hstart : (!isDigit d || (d == '0' && (ds ++ rest).head?.any isDigit)) = false := by
    rw [hdigit, Bool.not_true, Bool.false_or, Bool.and_eq_false_iff]
    by_cases hzero : d = '0'
    · subst hzero
      obtain rfl := eq_nil_of_toDigits n hd
      right
      cases rest with
      | nil => rfl
      | cons c rest => simpa using hrest.not_isDigit c rfl
    · exact .inl (by simpa using hzero)
  have hcount : countDigits rest = (0, rest) := by
    cases rest with
    | nil => rfl
    | cons c rest => simp [countDigits, hrest.not_isDigit c rfl]
  have hsign : ¬ ((negative : Prop) ∧ (n = 0 ∨ 0x8000000000000000 < n)) := by
    rintro ⟨hn, hbad⟩
    have := hnegative hn
    omega
  rw [hd, List.cons_append] at htake ⊢
  rw [number?, hstart, if_neg Bool.false_ne_true, htake]
  dsimp only
  rw [hcount]
  dsimp only
  split
  · exact absurd (hrest '.' rfl) (by decide)
  · exact absurd (hrest 'e' rfl) (by decide)
  · exact absurd (hrest 'E' rfl) (by decide)
  · rw [if_neg (by simp), if_neg hsign]

theorem WholeNumber.ofInt?_val (n : WholeNumber) : WholeNumber.ofInt? n.val = some n := dif_pos ⟨n.lower, n.upper⟩

theorem readValue_digit (hc : isDigit c = true) : readValue (fuel + 1) (c :: cs) = number? false (c :: cs) := by
  have hgap : skipGap (c :: cs) = c :: cs := by simp [skipGap, not_isGap_of_isDigit hc]
  rw [readValue, hgap]
  -- Every other case starts with a character that is no digit.
  split <;> rename_i heq <;> first
    | rfl
    | exact absurd (List.cons.inj heq).1 (ne_of_isDigit hc rfl)

theorem readValue_whole (n : WholeNumber) (hrest : EndsValue rest) :
    readValue (fuel + 1) (wholeChars n ++ rest) = some (.whole n, rest) := by
  have hlower := n.lower
  have hupper := n.upper
  unfold wholeChars
  split
  · rename_i hneg
    have hminus : readValue (fuel + 1) ('-' :: Nat.toDigits 10 n.val.natAbs ++ rest) =
        number? true (Nat.toDigits 10 n.val.natAbs ++ rest) := rfl
    have hval : -(n.val.natAbs : Int) = n.val := by omega
    rw [hminus, number?_toDigits true (by unfold wordLimit; omega) hrest (fun _ => by omega), if_pos rfl, hval,
      WholeNumber.ofInt?_val]
    rfl
  · rename_i hpos
    obtain ⟨d, ds, hd, hdigit⟩ := exists_toDigits_eq n.val.natAbs
    have hval : (n.val.natAbs : Int) = n.val := by omega
    have hread := number?_toDigits false (n := n.val.natAbs) (by unfold wordLimit; omega) hrest nofun
    rw [hd, List.cons_append] at hread ⊢
    rw [readValue_digit hdigit, hread, if_neg Bool.false_ne_true, hval, WholeNumber.ofInt?_val]
    rfl

/-! ## Texts -/

theorem hexValue?_digitChar_eq {d : Nat} (h : d < 16) : hexValue? (Nat.digitChar d) = some d := by
  revert d
  decide

theorem hexQuad?_hexPair (h : n < 256) :
    hexQuad? '0' '0' (Nat.digitChar (n / 16)) (Nat.digitChar (n % 16)) = some n := by
  have hzero : hexValue? '0' = some 0 := rfl
  have hsum : n / 16 * 16 + n % 16 = n := by omega
  simp [hexQuad?, hzero, hexValue?_digitChar_eq (show n / 16 < 16 by omega),
    hexValue?_digitChar_eq (show n % 16 < 16 by omega), hsum]

/-- However a character is written, it is read as this character. -/
theorem textBody?_escapedChar (done : List Char) (c : Char) (rest : List Char) :
    textBody? done (escapedChar c ++ rest) = textBody? (c :: done) rest := by
  unfold escapedChar
  split
  · simp [textBody?, simpleEscape?]
  · simp [textBody?, simpleEscape?]
  · simp [textBody?, simpleEscape?]
  · simp [textBody?, simpleEscape?]
  · simp [textBody?, simpleEscape?]
  · simp [textBody?, simpleEscape?]
  · simp [textBody?, simpleEscape?]
  · split
    · rename_i hcontrol
      have hlow : ¬ (0xD800 ≤ c.toNat ∧ c.toNat < 0xDC00) := by omega
      have hhigh : ¬ (0xDC00 ≤ c.toNat ∧ c.toNat ≤ 0xDFFF) := by omega
      simp only [hexPair, List.cons_append, List.nil_append, textBody?,
        hexQuad?_hexPair (show c.toNat < 256 by omega), if_neg hlow, if_neg hhigh, Char.ofNat_toNat]
    · rename_i hquote hbackslash _ _ _ _ _ hprinted
      rw [List.singleton_append, textBody?.eq_def]
      split <;> simp_all

theorem textBody?_flatMap (done cs rest : List Char) :
    textBody? done (cs.flatMap escapedChar ++ '"' :: rest) = some (String.ofList (done.reverse ++ cs), rest) := by
  induction cs generalizing done with
  | nil => simp [textBody?]
  | cons c cs ih =>
    rw [List.flatMap_cons, List.append_assoc, textBody?_escapedChar, ih]
    simp

theorem textBody?_quoted (s : String) (rest : List Char) :
    textBody? [] (s.toList.flatMap escapedChar ++ '"' :: rest) = some (s, rest) := by
  simpa using textBody?_flatMap [] s.toList rest

/-! ## Values -/

/-- No value starts with a blank or with the end of a container. -/
theorem exists_chars_eq (j : Json) (h : j.isFloatFree = true) :
    ∃ c more, j.chars = c :: more ∧ isGap c = false ∧ c ≠ ']' := by
  cases j with
  | null => exact ⟨'n', _, rfl, rfl, by decide⟩
  | bool b => cases b <;> exact ⟨_, _, rfl, rfl, by decide⟩
  | whole n =>
    change ∃ c more, wholeChars n = c :: more ∧ _
    unfold wholeChars
    split
    · exact ⟨'-', _, rfl, rfl, by decide⟩
    · obtain ⟨d, ds, hd, hdigit⟩ := exists_toDigits_eq n.val.natAbs
      exact ⟨d, ds, hd, not_isGap_of_isDigit hdigit, ne_of_isDigit hdigit rfl⟩
  | float x => cases h
  | str s => exact ⟨'"', _, rfl, rfl, by decide⟩
  | arr items => exact ⟨'[', _, rfl, rfl, by decide⟩
  | obj members => exact ⟨'{', _, rfl, rfl, by decide⟩

/-- What follows an opening bracket is the first element, unless it is the closing one. -/
theorem readValue_items (hc : isGap c = false) (hne : c ≠ ']') :
    readValue (fuel + 1) ('[' :: c :: cs) =
      (readItems fuel [] (c :: cs)).map fun (items, rest) => (.arr items, rest) := by
  have hopen : skipGap ('[' :: c :: cs) = '[' :: c :: cs := rfl
  have hgap : skipGap (c :: cs) = c :: cs := by simp [skipGap, hc]
  simp only [readValue, hopen, hgap]
  split
  · rename_i heq
    exact absurd (List.cons.inj heq).1 hne
  · rfl

theorem quotedChars_append (s : String) (cs : List Char) :
    quotedChars s ++ cs = '"' :: (s.toList.flatMap escapedChar ++ '"' :: cs) := by
  simp [quotedChars]

theorem skipGap_quote (cs : List Char) : skipGap ('"' :: cs) = '"' :: cs := rfl

theorem skipGap_colon (cs : List Char) : skipGap (':' :: cs) = ':' :: cs := rfl

theorem readItems_last {v : Json} {done : List Json} (h : readValue fuel cs = some (v, ']' :: rest)) :
    readItems (fuel + 1) done cs = some (done.reverse ++ [v], rest) := by
  rw [readItems, h]
  simp [skipGap, isGap]

theorem readItems_next {v : Json} {done : List Json} (h : readValue fuel cs = some (v, ',' :: rest)) :
    readItems (fuel + 1) done cs = readItems fuel (v :: done) rest := by
  rw [readItems, h]
  simp [skipGap, isGap]

theorem readMembers_last {k : String} {v : Json} {done : List (String × Json)}
    (h : readValue fuel cs = some (v, '}' :: rest)) :
    readMembers (fuel + 1) done (quotedChars k ++ ':' :: cs) = some (done.reverse ++ [(k, v)], rest) := by
  simp only [quotedChars_append, readMembers, skipGap_quote, textBody?_quoted, skipGap_colon, h]
  simp [skipGap, isGap]

theorem readMembers_next {k : String} {v : Json} {done : List (String × Json)}
    (h : readValue fuel cs = some (v, ',' :: rest)) :
    readMembers (fuel + 1) done (quotedChars k ++ ':' :: cs) = readMembers fuel ((k, v) :: done) rest := by
  simp only [quotedChars_append, readMembers, skipGap_quote, textBody?_quoted, skipGap_colon, h]
  simp [skipGap, isGap]

theorem exists_itemChars_eq {v : Json} (items : List Json) (h : v.isFloatFree = true) :
    ∃ c more, itemChars (v :: items) = c :: more ∧ isGap c = false ∧ c ≠ ']' := by
  obtain ⟨c, more, hc, hstart⟩ := exists_chars_eq v h
  cases items with
  | nil => exact ⟨c, more, hc, hstart⟩
  | cons w items => exact ⟨c, more ++ ',' :: itemChars (w :: items), by simp [itemChars, hc], hstart⟩

theorem exists_memberChars_eq (m : String × Json) (members : List (String × Json)) :
    ∃ more, memberChars (m :: members) = '"' :: more := by
  cases members with
  | nil => exact ⟨_, rfl⟩
  | cons n members => exact ⟨_, rfl⟩

-- The bound counts the characters of the text. Each reader takes at least one of them before it calls
-- another, so induction is on the bound and not on the value.
mutual

/-- The text of a value is read as the value, whatever follows it in a container. -/
theorem readValue_chars (j : Json) (h : j.isFloatFree = true) (fuel : Nat) (rest : List Char)
    (hfuel : j.chars.length < fuel) (hrest : EndsValue rest) : readValue fuel (j.chars ++ rest) = some (j, rest) := by
  cases fuel with | zero => exact absurd hfuel (Nat.not_lt_zero _) | succ fuel =>
  cases j with
  | null => rfl
  | bool b => cases b <;> rfl
  | whole n => exact readValue_whole n hrest
  | float x => cases h
  | str s =>
    have hquote : readValue (fuel + 1) ((Json.str s).chars ++ rest) =
        (textBody? [] (s.toList.flatMap escapedChar ++ ['"'] ++ rest)).map fun (s, rest) => (.str s, rest) := rfl
    rw [hquote, List.append_assoc, List.singleton_append, textBody?_quoted]
    rfl
  | arr items =>
    cases items with
    | nil => rfl
    | cons v items =>
      have htext : (Json.arr (v :: items)).chars ++ rest = '[' :: (itemChars (v :: items) ++ ']' :: rest) := by
        simp [chars]
      have hlength : (itemChars (v :: items)).length + 1 < fuel := by
        have := congrArg List.length htext
        simp only [List.length_append, List.length_cons] at this
        omega
      have hitems := readItems_chars v items h fuel [] rest hlength
      obtain ⟨c, more, hc, hgap, hne⟩ := exists_itemChars_eq items (Bool.and_eq_true_iff.1 h).1
      rw [hc, List.cons_append] at hitems
      rw [htext, hc, List.cons_append, readValue_items hgap hne, hitems]
      rfl
  | obj members =>
    cases members with
    | nil => rfl
    | cons m members =>
      -- A member starts with a quote, so the object is not taken for an empty one.
      have htext : (Json.obj (m :: members)).chars ++ rest = '{' :: (memberChars (m :: members) ++ '}' :: rest) := by
        simp [chars]
      have hlength : (memberChars (m :: members)).length + 1 < fuel := by
        have := congrArg List.length htext
        simp only [List.length_append, List.length_cons] at this
        omega
      have hmembers := readMembers_chars m members h fuel [] rest hlength
      obtain ⟨more, hmore⟩ := exists_memberChars_eq m members
      rw [hmore, List.cons_append] at hmembers
      rw [htext, hmore, List.cons_append]
      change (readMembers fuel [] ('"' :: (more ++ '}' :: rest))).map _ = _
      rw [hmembers]
      rfl
termination_by fuel

/-- The elements of an array are read up to its end. -/
theorem readItems_chars (v : Json) (items : List Json) (h : isFloatFreeItems (v :: items) = true) (fuel : Nat)
    (done : List Json) (rest : List Char) (hfuel : (itemChars (v :: items)).length + 1 < fuel) :
    readItems fuel done (itemChars (v :: items) ++ ']' :: rest) = some (done.reverse ++ v :: items, rest) := by
  cases fuel with | zero => exact absurd hfuel (Nat.not_lt_zero _) | succ fuel =>
  obtain ⟨hv, hitems⟩ := Bool.and_eq_true_iff.1 h
  match items with
  | [] =>
    have hread := readValue_chars v hv fuel (']' :: rest) (Nat.lt_of_succ_lt_succ hfuel)
      (endsValue_cons (.inr (.inl rfl)))
    exact readItems_last hread
  | w :: items =>
    have htext : itemChars (v :: w :: items) = v.chars ++ ',' :: itemChars (w :: items) := rfl
    rw [htext, List.length_append, List.length_cons] at hfuel
    have hread := readValue_chars v hv fuel (',' :: (itemChars (w :: items) ++ ']' :: rest)) (by omega)
      (endsValue_cons (.inl rfl))
    have hitems := readItems_chars w items hitems fuel (v :: done) rest (by omega)
    rw [htext, List.append_assoc, List.cons_append, readItems_next hread, hitems]
    simp
termination_by fuel

/-- The members of an object are read up to its end. -/
theorem readMembers_chars (m : String × Json) (members : List (String × Json))
    (h : isFloatFreeMembers (m :: members) = true) (fuel : Nat) (done : List (String × Json)) (rest : List Char)
    (hfuel : (memberChars (m :: members)).length + 1 < fuel) :
    readMembers fuel done (memberChars (m :: members) ++ '}' :: rest) = some (done.reverse ++ m :: members, rest) := by
  cases fuel with | zero => exact absurd hfuel (Nat.not_lt_zero _) | succ fuel =>
  obtain ⟨k, v⟩ := m
  obtain ⟨hv, hmembers⟩ := Bool.and_eq_true_iff.1 h
  match members with
  | [] =>
    have htext : memberChars [(k, v)] = quotedChars k ++ ':' :: v.chars := rfl
    rw [htext, List.length_append, List.length_cons] at hfuel
    have hread := readValue_chars v hv fuel ('}' :: rest) (by omega) (endsValue_cons (.inr (.inr rfl)))
    rw [htext, List.append_assoc, List.cons_append, readMembers_last hread]
  | n :: members =>
    have htext : memberChars ((k, v) :: n :: members) =
        quotedChars k ++ ':' :: (v.chars ++ ',' :: memberChars (n :: members)) := by
      simp [memberChars]
    simp only [htext, List.length_append, List.length_cons] at hfuel
    have hread := readValue_chars v hv fuel (',' :: (memberChars (n :: members) ++ '}' :: rest)) (by omega)
      (endsValue_cons (.inl rfl))
    have hmembers := readMembers_chars n members hmembers fuel ((k, v) :: done) rest (by omega)
    rw [htext, List.append_assoc, List.cons_append, List.append_assoc, List.cons_append, readMembers_next hread,
      hmembers]
    simp
termination_by fuel

end

end

/-- What is read from the text of a value is the value. -/
theorem parse?_compress {j : Json} (h : j.isFloatFree = true) : parse? j.compress = some j := by
  have hread := readValue_chars j h (j.chars.length + 1) [] (Nat.lt_succ_self _) endsValue_nil
  rw [List.append_nil] at hread
  rw [parse?, compress, String.toList_ofList, String.length_ofList, hread]
  rfl

end Dataflow.Json
