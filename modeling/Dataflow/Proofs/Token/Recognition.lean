import Dataflow.Proofs.Token.Reading
/-!
# What a parser reads, exactly

`Parser.Reads p R` says that `R` is all that `p` does to the tokens in front of it: whenever
`R ts a rest` holds, `p` reads `a` from `ts` and leaves `rest`, and it succeeds in no other case. The
relation of a parser is put together from those of its parts (`Reads.bind`).

The lists of both file formats are made of `Items`, each of which starts with an identifier. A loop
reads exactly the lists of items (`reads_untilBrace`, `readsBefore_whileIdentifier`): its bound is
never reached, because an item has at least one token.
-/

namespace Dataflow

/-! ## Spellings -/

/-- The tokens `ts` start with tokens of these kinds, and `rest` follows. -/
def Spells (kinds : List TokenKind) (ts rest : List Token) : Prop :=
  ∃ front, ts = front ++ rest ∧ front.map Token.kind = kinds

/-- The next token is of this kind. -/
def StartsWith (kind : TokenKind) (ts : List Token) : Prop := ∃ t rest, ts = t :: rest ∧ t.kind = kind

section Spells

variable {kind kind' : TokenKind} {kinds kinds' : List TokenKind} {ts rest : List Token}

@[simp] theorem spells_nil : Spells [] ts rest ↔ ts = rest := by
  constructor
  · rintro ⟨front, rfl, hf⟩
    simp [List.map_eq_nil_iff.1 hf]
  · rintro rfl
    exact ⟨[], rfl, rfl⟩

theorem spells_cons : Spells (kind :: kinds) ts rest ↔
    ∃ t mid, ts = t :: mid ∧ t.kind = kind ∧ Spells kinds mid rest := by
  constructor
  · rintro ⟨front, rfl, hf⟩
    obtain ⟨t, mid, rfl, ht, hm⟩ := List.map_eq_cons_iff.1 hf
    exact ⟨t, mid ++ rest, rfl, ht, mid, rfl, hm⟩
  · rintro ⟨t, _, rfl, rfl, mid, rfl, rfl⟩
    exact ⟨t :: mid, rfl, rfl⟩

theorem spells_append : Spells (kinds ++ kinds') ts rest ↔ ∃ mid, Spells kinds ts mid ∧ Spells kinds' mid rest := by
  constructor
  · rintro ⟨front, rfl, hf⟩
    obtain ⟨first, second, rfl, h₁, h₂⟩ := List.map_eq_append_iff.1 hf
    exact ⟨second ++ rest, ⟨first, by simp, h₁⟩, second, rfl, h₂⟩
  · rintro ⟨mid, ⟨first, rfl, rfl⟩, second, rfl, rfl⟩
    exact ⟨first ++ second, by simp, by simp⟩

theorem spells_first : Spells (kind :: kinds) ts rest ↔ ∃ mid, Spells [kind] ts mid ∧ Spells kinds mid rest := by
  rw [← List.singleton_append, spells_append]

theorem Spells.startsWith (h : Spells (kind :: kinds) ts rest) : StartsWith kind ts := by
  obtain ⟨t, mid, rfl, ht, -⟩ := spells_cons.1 h
  exact ⟨t, mid, rfl, ht⟩

theorem Spells.length (h : Spells kinds ts rest) : ts.length = kinds.length + rest.length := by
  obtain ⟨front, rfl, rfl⟩ := h
  simp

theorem StartsWith.unique (h : StartsWith kind ts) (h' : StartsWith kind' ts) : kind = kind' := by
  obtain ⟨t, rest, rfl, rfl⟩ := h
  obtain ⟨_, _, he, rfl⟩ := h'
  cases he
  rfl

end Spells

namespace Parser

variable {α β σ ι : Type}

/-! ## Exact descriptions -/

/-- From `c` the parser reads `a` and leaves `rest`. -/
def Leaves (p : Parser α) (c : Cursor) (a : α) (rest : List Token) : Prop := ∃ c', p c = .ok a c' ∧ c'.rest = rest

/-- What the parser reads, and when it succeeds, is what `R` says. -/
def Reads (p : Parser α) (R : List Token → α → List Token → Prop) : Prop :=
  ∀ c a rest, Leaves p c a rest ↔ R c.rest a rest

/-- `R` describes the runs of the parser that end before a token of this kind. -/
def ReadsBefore (kind : TokenKind) (p : Parser α) (R : List Token → α → List Token → Prop) : Prop :=
  ∀ c a rest, StartsWith kind rest → (Leaves p c a rest ↔ R c.rest a rest)

variable {p : Parser α} {R R' : List Token → α → List Token → Prop} {f : α → Parser β}
  {S : α → List Token → β → List Token → Prop} {kind : TokenKind}

theorem Reads.congr (h : Reads p R) (hR : ∀ ts a rest, R ts a rest ↔ R' ts a rest) : Reads p R' :=
  fun c a rest => (h c a rest).trans (hR _ _ _)

theorem ReadsBefore.congr (h : ReadsBefore kind p R)
    (hR : ∀ ts a rest, StartsWith kind rest → (R ts a rest ↔ R' ts a rest)) : ReadsBefore kind p R' :=
  fun c a rest hk => (h c a rest hk).trans (hR _ _ _ hk)

theorem Reads.before (h : Reads p R) (kind : TokenKind) : ReadsBefore kind p R := fun c a rest _ => h c a rest

theorem leaves_bind {c : Cursor} {b : β} {rest : List Token} :
    Leaves (p >>= f) c b rest ↔ ∃ a c₁, p c = .ok a c₁ ∧ Leaves (f a) c₁ b rest := by
  constructor
  · rintro ⟨c', h, hr⟩
    obtain ⟨a, c₁, ha, hb⟩ := bind_eq_ok_iff.1 h
    exact ⟨a, c₁, ha, c', hb, hr⟩
  · rintro ⟨a, c₁, ha, c', hb, hr⟩
    exact ⟨c', bind_eq_ok_iff.2 ⟨a, c₁, ha, hb⟩, hr⟩

theorem leaves_get {q : Cursor → Parser β} {c : Cursor} {b : β} {rest : List Token} :
    Leaves (get >>= q) c b rest ↔ Leaves (q c) c b rest := Iff.rfl

theorem Reads.leaves_bind (hp : Reads p R) {c : Cursor} {b : β} {rest : List Token}
    (hf : ∀ a c₁, Leaves (f a) c₁ b rest ↔ S a c₁.rest b rest) :
    Leaves (p >>= f) c b rest ↔ ∃ a mid, R c.rest a mid ∧ S a mid b rest := by
  rw [Parser.leaves_bind]
  constructor
  · rintro ⟨a, c₁, ha, hb⟩
    exact ⟨a, c₁.rest, (hp c a _).1 ⟨c₁, ha, rfl⟩, (hf a c₁).1 hb⟩
  · rintro ⟨a, mid, ha, hb⟩
    obtain ⟨c₁, hc, rfl⟩ := (hp c a mid).2 ha
    exact ⟨a, c₁, hc, (hf a c₁).2 hb⟩

theorem Reads.bind (hp : Reads p R) (hf : ∀ a, Reads (f a) (S a)) :
    Reads (p >>= f) fun ts b rest => ∃ a mid, R ts a mid ∧ S a mid b rest :=
  fun _ b rest => hp.leaves_bind fun a c₁ => hf a c₁ b rest

theorem Reads.bindBefore (hp : Reads p R) (hf : ∀ a, ReadsBefore kind (f a) (S a)) :
    ReadsBefore kind (p >>= f) fun ts b rest => ∃ a mid, R ts a mid ∧ S a mid b rest :=
  fun _ b rest hk => hp.leaves_bind fun a c₁ => hf a c₁ b rest hk

theorem reads_pure (a : α) : Reads (pure a) fun ts a' rest => a' = a ∧ ts = rest := by
  intro c a' rest
  constructor
  · rintro ⟨c', ⟨⟩, hr⟩
    exact ⟨rfl, hr⟩
  · rintro ⟨rfl, hr⟩
    exact ⟨c, rfl, hr⟩

theorem ReadsBefore.map (hp : ReadsBefore kind p R) (f : α → β) :
    ReadsBefore kind (p >>= fun a => pure (f a)) fun ts b rest => ∃ a, R ts a rest ∧ b = f a := by
  intro c b rest hk
  rw [leaves_bind]
  constructor
  · rintro ⟨a, c₁, ha, _, ⟨⟩, rfl⟩
    exact ⟨a, (hp c a _ hk).1 ⟨c₁, ha, rfl⟩, rfl⟩
  · rintro ⟨a, ha, rfl⟩
    obtain ⟨c₁, hc, rfl⟩ := (hp c a rest hk).2 ha
    exact ⟨a, c₁, hc, c₁, rfl, rfl⟩

theorem reads_failAt (token : Token) (detail : String) : Reads (failAt (α := α) token detail) fun _ _ _ => False := by
  refine fun c a rest => ⟨?_, False.elim⟩
  rintro ⟨c', ⟨⟩, -⟩

theorem reads_unexpected (expectation : String) : Reads (unexpected (α := α) expectation) fun _ _ _ => False := by
  refine fun c a rest => ⟨?_, False.elim⟩
  rintro ⟨c', ⟨⟩, -⟩

/-- A check that fails if `P` holds. -/
theorem reads_unless {P : Prop} [Decidable P] {fail : Parser α} (hfail : Reads fail fun _ _ _ => False)
    (hp : Reads p R) :
    Reads (if P then fail else p) fun ts a rest => ¬ P ∧ R ts a rest := by
  split
  · rename_i h
    exact hfail.congr fun ts a rest => by simp [h]
  · rename_i h
    exact hp.congr fun ts a rest => by simp [h]

/-! ## Single tokens -/

theorem reads_advance : Reads advance fun ts t? rest => t? = ts.head? ∧ rest = ts.tail := by
  intro c t? rest
  unfold Leaves advance
  cases hc : c.rest with
  | nil => simp; grind
  | cons token mid => simp [Cursor.past]; grind

theorem reads_expect (kind : TokenKind) (context : String) :
    Reads (expect kind context) fun ts t rest => ts = t :: rest ∧ t.kind = kind := by
  intro c t rest
  unfold Leaves expect
  cases hc : c.rest with
  | nil => simp
  | cons token mid =>
    by_cases hk : token.kind = kind
    · grind [Cursor.past]
    · grind

/-- A token that is expected and then forgotten. -/
theorem reads_expect_then (kind : TokenKind) (context : String) {q : Parser β} {S : List Token → β → List Token → Prop}
    (hq : Reads q S) :
    Reads (expect kind context >>= fun _ => q) fun ts b rest => ∃ mid, Spells [kind] ts mid ∧ S mid b rest := by
  refine ((reads_expect kind context).bind fun _ => hq).congr fun ts b rest => ?_
  simp only [spells_cons, spells_nil]
  constructor
  · rintro ⟨t, mid, ⟨rfl, hk⟩, hb⟩
    exact ⟨mid, ⟨t, mid, rfl, hk, rfl⟩, hb⟩
  · rintro ⟨_, ⟨t, mid, rfl, hk, rfl⟩, hb⟩
    exact ⟨t, mid, ⟨rfl, hk⟩, hb⟩

theorem reads_identifierToken (context : String) :
    Reads (identifierToken context) fun ts x rest => ts = x.2 :: rest ∧ x.2.kind = .identifier x.1 := by
  rintro c ⟨name, t⟩ rest
  unfold Leaves identifierToken
  cases hc : c.rest with
  | nil => simp
  | cons token mid => cases hk : token.kind <;> simp [hk, Cursor.past] <;> grind

theorem reads_identifier (context : String) :
    Reads (identifier context) fun ts name rest => Spells [.identifier name] ts rest := by
  refine ((reads_identifierToken context).bind fun x => reads_pure x.1).congr fun ts name rest => ?_
  simp only [spells_cons, spells_nil]
  constructor
  · rintro ⟨⟨_, t⟩, _, ⟨rfl, hk⟩, rfl, rfl⟩
    exact ⟨t, _, rfl, hk, rfl⟩
  · rintro ⟨t, _, rfl, hk, rfl⟩
    exact ⟨(name, t), _, ⟨rfl, hk⟩, rfl, rfl⟩

theorem reads_eat (kind : TokenKind) :
    Reads (eat kind) fun ts eaten rest =>
      (eaten = true ∧ Spells [kind] ts rest) ∨ (eaten = false ∧ ¬ StartsWith kind ts ∧ ts = rest) := by
  intro c eaten rest
  unfold Leaves eat StartsWith
  simp only [spells_cons, spells_nil]
  cases hc : c.rest with
  | nil => simp; grind
  | cons token mid =>
    by_cases hk : token.kind = kind
    · grind [Cursor.past]
    · grind

/-- A token that may be there decides how to go on. -/
theorem reads_eat_then (kind : TokenKind) {yes no : Parser β} {Y N : List Token → β → List Token → Prop}
    (hyes : Reads yes Y) (hno : Reads no N) :
    Reads (eat kind >>= fun eaten => if eaten = true then yes else no) fun ts b rest =>
      (∃ mid, Spells [kind] ts mid ∧ Y mid b rest) ∨ (¬ StartsWith kind ts ∧ N ts b rest) := by
  have hcases : ∀ eaten : Bool, Reads (if eaten = true then yes else no) fun ts b rest =>
      if eaten = true then Y ts b rest else N ts b rest := by
    rintro ⟨⟩
    · exact hno
    · exact hyes
  refine ((reads_eat kind).bind hcases).congr fun ts b rest => ?_
  constructor
  · rintro ⟨eaten, mid, ⟨rfl, hs⟩ | ⟨rfl, hs, rfl⟩, hb⟩
    · exact .inl ⟨mid, hs, hb⟩
    · exact .inr ⟨hs, hb⟩
  · rintro (⟨mid, hs, hb⟩ | ⟨hs, hb⟩)
    · exact ⟨true, mid, .inl ⟨rfl, hs⟩, hb⟩
    · exact ⟨false, ts, .inr ⟨rfl, hs, rfl⟩, hb⟩

/-- An identifier whose token is of use for messages only. -/
theorem reads_identifierToken_then (context : String) {f : String × Token → Parser β}
    {S : String → List Token → β → List Token → Prop} (hf : ∀ name token, Reads (f (name, token)) (S name)) :
    Reads (identifierToken context >>= f) fun ts b rest =>
      ∃ name mid, Spells [.identifier name] ts mid ∧ S name mid b rest := by
  refine ((reads_identifierToken context).bind fun x => hf x.1 x.2).congr fun ts b rest => ?_
  simp only [spells_cons, spells_nil]
  constructor
  · rintro ⟨x, mid, ⟨rfl, hk⟩, hb⟩
    exact ⟨x.1, mid, ⟨x.2, mid, rfl, hk, rfl⟩, hb⟩
  · rintro ⟨name, _, ⟨t, mid, rfl, hk, rfl⟩, hb⟩
    exact ⟨(name, t), mid, ⟨rfl, hk⟩, hb⟩

/-- An identifier on this line stands next, and `rest` follows. -/
def NamedOnLine (line : Nat) (name : String) (ts rest : List Token) : Prop :=
  ∃ t, ts = t :: rest ∧ t.kind = .identifier name ∧ t.position.line = line

theorem reads_identifierOnLine? (line : Nat) :
    Reads (identifierOnLine? line) fun ts name? rest =>
      (∃ name, name? = some name ∧ NamedOnLine line name ts rest) ∨
        (name? = none ∧ ts = rest ∧ ∀ name rest', ¬ NamedOnLine line name ts rest') := by
  intro c name? rest
  unfold Leaves identifierOnLine? NamedOnLine
  cases hc : c.rest with
  | nil => simp; grind
  | cons token mid => cases hk : token.kind <;> simp [hk, Cursor.past] <;> grind

/-! ## Lists -/

/-- How the items of a list are taken in one by one. -/
structure Listing (σ ι : Type) where
  /-- Whether an item may follow what was taken in. -/
  fits : σ → ι → Prop
  add : σ → ι → σ

/-- Every item fits behind those before it. -/
def Listing.Fit (L : Listing σ ι) : σ → List ι → Prop
  | _, [] => True
  | s, x :: xs => L.fits s x ∧ L.Fit (L.add s x) xs

/-- If an item fits as long as it is right on its own and brings no key that is known, then a list
fits if its items are right and all keys distinct. -/
theorem Listing.fit_iff {L : Listing σ ι} {own : ι → Prop} {keys : ι → List String} (known : σ → List String)
    (hfits : ∀ s x, (known s).Nodup → (L.fits s x ↔ own x ∧ (known s ++ keys x).Nodup))
    (hadd : ∀ s x, L.fits s x → known (L.add s x) = known s ++ keys x) {s : σ} (hs : (known s).Nodup) (xs : List ι) :
    L.Fit s xs ↔ (∀ x ∈ xs, own x) ∧ (known s ++ xs.flatMap keys).Nodup := by
  induction xs generalizing s with
  | nil => simpa [Fit] using hs
  | cons x xs ih =>
    rw [Fit, List.forall_mem_cons, List.flatMap_cons, ← List.append_assoc]
    constructor
    · rintro ⟨hx, hxs⟩
      obtain ⟨hown, hn⟩ := (hfits s x hs).1 hx
      rw [ih (hadd s x hx ▸ hn), hadd s x hx] at hxs
      exact ⟨⟨hown, hxs.1⟩, hxs.2⟩
    · rintro ⟨⟨hown, hall⟩, hn⟩
      have hx := (hfits s x hs).2 ⟨hown, (List.nodup_append.1 hn).1⟩
      refine ⟨hx, (ih (hadd s x hx ▸ (List.nodup_append.1 hn).1)).2 ⟨hall, ?_⟩⟩
      rwa [hadd s x hx]

theorem Listing.fit_iff_nodup {L : Listing σ ι} {keys : ι → List String} (known : σ → List String)
    (hfits : ∀ s x, (known s).Nodup → (L.fits s x ↔ (known s ++ keys x).Nodup))
    (hadd : ∀ s x, L.fits s x → known (L.add s x) = known s ++ keys x) {s : σ} (hs : (known s).Nodup) (xs : List ι) :
    L.Fit s xs ↔ (known s ++ xs.flatMap keys).Nodup := by
  simpa using L.fit_iff known (fun s x hs => (hfits s x hs).trans (iff_of_eq (true_and _)).symm) hadd hs xs

/-- If an item fits as long as it is right on its own and its key is new, then a list fits if its items
are right and its keys new and distinct. -/
theorem Listing.fit_iff_own_new {L : Listing σ ι} {own : ι → Prop} {key : ι → String} (known : σ → List String)
    (hfits : ∀ s x, L.fits s x ↔ own x ∧ key x ∉ known s)
    (hadd : ∀ s x, L.fits s x → known (L.add s x) = known s ++ [key x]) {s : σ} (hs : (known s).Nodup) (xs : List ι) :
    L.Fit s xs ↔ (∀ x ∈ xs, own x) ∧ (known s ++ xs.map key).Nodup := by
  have hnew : ∀ s x, (known s).Nodup → (L.fits s x ↔ own x ∧ (known s ++ [key x]).Nodup) := by
    intro s x hs
    rw [hfits, List.nodup_append]
    refine and_congr_right fun _ => ⟨fun hx => ⟨hs, by simp, ?_⟩, fun h hx => ?_⟩
    · rintro a ha b hb rfl
      exact hx (List.mem_singleton.1 hb ▸ ha)
    · exact h.2.2 _ hx _ (List.mem_singleton_self _) rfl
  rw [List.map_eq_flatMap]
  exact L.fit_iff known hnew hadd hs xs

theorem Listing.fit_iff_new {L : Listing σ ι} (key : ι → String) (known : σ → List String)
    (hfits : ∀ s x, L.fits s x ↔ key x ∉ known s) (hadd : ∀ s x, L.fits s x → known (L.add s x) = known s ++ [key x])
    {s : σ} (hs : (known s).Nodup) (xs : List ι) : L.Fit s xs ↔ (known s ++ xs.map key).Nodup := by
  simpa using L.fit_iff_own_new known (fun s x => (hfits s x).trans (iff_of_eq (true_and _)).symm) hadd hs xs

theorem Listing.fit_iff_forall {L : Listing σ ι} {own : ι → Prop} (h : ∀ s x, L.fits s x ↔ own x) (s : σ)
    (xs : List ι) :
    L.Fit s xs ↔ ∀ x ∈ xs, own x := by
  induction xs generalizing s with
  | nil => simp [Fit]
  | cons x xs ih => rw [Fit, ih, h, List.forall_mem_cons]

theorem Listing.fit_of_forall {L : Listing σ ι} (h : ∀ s x, L.fits s x) (s : σ) (xs : List ι) : L.Fit s xs :=
  (L.fit_iff_forall (fun s x => iff_of_true (h s x) trivial) s xs).2 fun _ _ => trivial

/-- If every item adds to a list, then so do all of them, in order. -/
theorem Listing.foldl_append {L : Listing σ ι} {f : σ → List β} {g : ι → List β}
    (h : ∀ s x, L.fits s x → f (L.add s x) = f s ++ g x) {s : σ} {xs : List ι} (hxs : L.Fit s xs) :
    f (xs.foldl L.add s) = f s ++ xs.flatMap g := by
  induction xs generalizing s with
  | nil => simp
  | cons x xs ih => rw [List.foldl_cons, ih hxs.2, h s x hxs.1, List.flatMap_cons, List.append_assoc]

/-- What no item changes stays. -/
theorem Listing.foldl_keeps {L : Listing σ ι} {f : σ → β} (h : ∀ s x, f (L.add s x) = f s) (s : σ) (xs : List ι) :
    f (xs.foldl L.add s) = f s := by
  induction xs generalizing s with
  | nil => rfl
  | cons x xs ih => rw [List.foldl_cons, ih, h]

/-- If one word alone sets something, and the one that sets it does not come again, then nothing more is set. -/
theorem findSome?_eq_none_of_word {set? : ι → Option β} {word : ι → String} {w : String}
    (hword : ∀ x, word x ≠ w → set? x = none) {x : ι} {xs : List ι} (hx : word x ∉ xs.map word) {a : β}
    (hset : set? x = some a) : xs.findSome? set? = none := by
  obtain rfl : word x = w := Decidable.byContradiction fun hw => by simp [hword x hw] at hset
  exact List.findSome?_eq_none_iff.2 fun y hy => hword y fun he => hx (he ▸ List.mem_map_of_mem hy)

/-- What at most one item sets is what that one sets. -/
theorem Listing.foldl_sets {L : Listing σ ι} {f : σ → β} {set? : ι → Option β} {word : ι → String} {w : String}
    (h : ∀ s x, f (L.add s x) = (set? x).getD (f s)) (hword : ∀ x, word x ≠ w → set? x = none) (s : σ) {xs : List ι}
    (hxs : (xs.map word).Nodup) : f (xs.foldl L.add s) = (xs.findSome? set?).getD (f s) := by
  induction xs generalizing s with
  | nil => rfl
  | cons x xs ih =>
    obtain ⟨hx, hxs⟩ := List.nodup_cons.1 hxs
    rw [List.foldl_cons, ih _ hxs, h s x, List.findSome?_cons]
    cases hset : set? x with
    | none => rfl
    | some a =>
      rw [findSome?_eq_none_of_word hword hx hset]
      rfl

/-- What many items set is what the last of them sets. -/
theorem Listing.foldl_sets_last {L : Listing σ ι} {f : σ → β} {set? : ι → Option β}
    (h : ∀ s x, f (L.add s x) = (set? x).getD (f s)) (s : σ) (xs : List ι) :
    f (xs.foldl L.add s) = (xs.filterMap set?).getLast?.getD (f s) := by
  induction xs generalizing s with
  | nil => rfl
  | cons x xs ih =>
    rw [List.foldl_cons, ih, h, List.filterMap_cons]
    cases set? x with
    | none => rfl
    | some a => simp [List.getLast?_cons]

/-- If one word alone has items, and no word comes twice, then the items of all are those of the one. -/
theorem flatMap_getD_eq {items? : ι → Option (List β)} {word : ι → String} {w : String}
    (hword : ∀ x, word x ≠ w → items? x = none) {xs : List ι} (hxs : (xs.map word).Nodup) :
    xs.flatMap (fun x => (items? x).getD []) = (xs.findSome? items?).getD [] := by
  induction xs with
  | nil => rfl
  | cons x xs ih =>
    obtain ⟨hx, hxs⟩ := List.nodup_cons.1 hxs
    rw [List.flatMap_cons, List.findSome?_cons, ih hxs]
    cases hitems : items? x with
    | none => rfl
    | some items =>
      rw [findSome?_eq_none_of_word hword hx hitems]
      exact List.append_nil items

/-- A kind of items that a text lists, each starting with an identifier. -/
structure Items (σ ι : Type) extends Listing σ ι where
  /-- How an item is written. -/
  kinds : ι → List TokenKind
  /-- The token with which an item would go on. -/
  next? : ι → Option TokenKind
  starts : ∀ x, ∃ name more, kinds x = .identifier name :: more
  next : ∀ x kind, next? x = some kind → kind = .openBrace ∨ kind = .dot

namespace Items

variable {I : Items σ ι} {step : σ → Parser σ} {ts mid rest : List Token}

/-- What the reader of one item reads. -/
def One (I : Items σ ι) (s : σ) (ts : List Token) (s' : σ) (rest : List Token) : Prop :=
  ∃ x, Spells (I.kinds x) ts rest ∧ (∀ kind, I.next? x = some kind → ¬ StartsWith kind rest) ∧ I.fits s x ∧
    s' = I.add s x

theorem startsWith_item {x : ι} (h : Spells (I.kinds x) ts rest) : ∃ name, StartsWith (.identifier name) ts := by
  obtain ⟨name, more, hk⟩ := I.starts x
  exact ⟨name, (hk ▸ h).startsWith⟩

theorem length_lt {x : ι} (h : Spells (I.kinds x) ts rest) : rest.length < ts.length := by
  obtain ⟨name, more, hk⟩ := I.starts x
  have hl := h.length
  simp only [hk, List.length_cons] at hl
  omega

/-- In front of more items, or of what ends the list, no item goes on. -/
theorem not_startsWith_next {xs : List ι} (h : Spells (xs.flatMap I.kinds) ts rest) {kind : TokenKind}
    (hrest : StartsWith kind rest) (hend : kind = .closeBrace ∨ kind = .marker) (x : ι) (k : TokenKind)
    (hk : I.next? x = some k) : ¬ StartsWith k ts := by
  intro hts
  cases xs with
  | nil =>
    obtain rfl : ts = rest := spells_nil.1 h
    obtain rfl := hts.unique hrest
    rcases I.next x k hk with rfl | rfl <;> simp at hend
  | cons y ys =>
    obtain ⟨mid, hy, -⟩ := spells_append.1 h
    obtain ⟨name, hname⟩ := startsWith_item hy
    obtain rfl := hts.unique hname
    simpa using I.next x _ hk

theorem leaves_untilBraceWithin (hstep : ∀ s, Reads (step s) (I.One s)) {fuel : Nat} {s s' : σ} {c : Cursor}
    (hfuel : c.rest.length < fuel) :
    Leaves (untilBraceWithin step fuel s) c s' rest ↔
      ∃ xs, Spells (xs.flatMap I.kinds ++ [.closeBrace]) c.rest rest ∧ I.Fit s xs ∧ s' = xs.foldl I.add s := by
  -- The induction is on the bound, which an item leaves further above the tokens that remain.
  induction fuel generalizing s c with
  | zero => omega
  | succ fuel ih =>
    unfold untilBraceWithin
    rw [leaves_bind]
    constructor
    · rintro ⟨eaten, c₁, heat, h⟩
      rcases (reads_eat _ c eaten _).1 ⟨c₁, heat, rfl⟩ with ⟨rfl, hbrace⟩ | ⟨rfl, -, hrest⟩
      · obtain ⟨rfl, rfl⟩ := (reads_pure s c₁ s' rest).1 h
        exact ⟨[], hbrace, trivial, rfl⟩
      · obtain ⟨s₁, c₂, hx, h⟩ := leaves_bind.1 h
        obtain ⟨x, hkinds, -, hfits, rfl⟩ := (hstep s c₁ s₁ _).1 ⟨c₂, hx, rfl⟩
        rw [← hrest] at hkinds
        have hlt := length_lt hkinds
        obtain ⟨xs, hxs, hfit, rfl⟩ := (ih (by omega)).1 h
        refine ⟨x :: xs, ?_, ⟨hfits, hfit⟩, rfl⟩
        rw [List.flatMap_cons, List.append_assoc]
        exact spells_append.2 ⟨_, hkinds, hxs⟩
    · rintro ⟨xs, hxs, hfit, rfl⟩
      cases xs with
      | nil =>
        obtain ⟨c₁, heat, rfl⟩ := (reads_eat _ c true rest).2 (.inl ⟨rfl, hxs⟩)
        exact ⟨true, c₁, heat, c₁, rfl, rfl⟩
      | cons x xs =>
        rw [List.flatMap_cons, List.append_assoc] at hxs
        obtain ⟨mid, hx, hxs⟩ := spells_append.1 hxs
        have hno : ¬ StartsWith .closeBrace c.rest := by
          obtain ⟨name, hname⟩ := startsWith_item hx
          exact fun hb => by cases hb.unique hname
        obtain ⟨c₁, heat, hrest⟩ := (reads_eat _ c false c.rest).2 (.inr ⟨rfl, hno, rfl⟩)
        obtain ⟨brace, hitems, hbrace⟩ := spells_append.1 hxs
        have hnext := fun k hk => not_startsWith_next hitems hbrace.startsWith (.inl rfl) x k hk
        obtain ⟨c₂, hstep, rfl⟩ := (hstep s c₁ (I.add s x) mid).2 ⟨x, hrest ▸ hx, hnext, hfit.1, rfl⟩
        have hlt := length_lt hx
        exact ⟨false, c₁, heat, leaves_bind.2 ⟨_, c₂, hstep, (ih (by omega)).2 ⟨xs, hxs, hfit.2, rfl⟩⟩⟩

/-- A list in braces, behind its opening brace. -/
theorem reads_untilBrace (hstep : ∀ s, Reads (step s) (I.One s)) (init : σ) :
    Reads (untilBrace step init) fun ts s rest =>
      ∃ xs, Spells (xs.flatMap I.kinds ++ [.closeBrace]) ts rest ∧ I.Fit init xs ∧ s = xs.foldl I.add init :=
  fun c _ _ => leaves_untilBraceWithin hstep (Nat.lt_succ_self c.rest.length)

theorem reads_identifierIsNext :
    Reads identifierIsNext fun ts found rest =>
      ts = rest ∧ (found = true ↔ ∃ name, StartsWith (.identifier name) ts) := by
  intro c found rest
  unfold Leaves identifierIsNext StartsWith
  cases hc : c.rest with
  | nil => simp; grind
  | cons token mid => cases hk : token.kind <;> simp <;> grind

theorem leaves_whileIdentifierWithin (hstep : ∀ s, Reads (step s) (I.One s)) {fuel : Nat} {s s' : σ} {c : Cursor}
    (hfuel : c.rest.length < fuel) (hrest : StartsWith .marker rest) :
    Leaves (whileIdentifierWithin step fuel s) c s' rest ↔
      ∃ xs, Spells (xs.flatMap I.kinds) c.rest rest ∧ I.Fit s xs ∧ s' = xs.foldl I.add s := by
  induction fuel generalizing s c with
  | zero => omega
  | succ fuel ih =>
    unfold whileIdentifierWithin
    rw [leaves_bind]
    constructor
    · rintro ⟨found, c₁, hfound, h⟩
      obtain ⟨hc, -⟩ := (reads_identifierIsNext c found _).1 ⟨c₁, hfound, rfl⟩
      cases found with
      | false =>
        obtain ⟨rfl, rfl⟩ := (reads_pure s c₁ s' rest).1 h
        exact ⟨[], spells_nil.2 hc, trivial, rfl⟩
      | true =>
        obtain ⟨s₁, c₂, hx, h⟩ := leaves_bind.1 h
        obtain ⟨x, hkinds, -, hfits, rfl⟩ := (hstep s c₁ s₁ _).1 ⟨c₂, hx, rfl⟩
        rw [← hc] at hkinds
        have hlt := length_lt hkinds
        obtain ⟨xs, hxs, hfit, rfl⟩ := (ih (by omega)).1 h
        exact ⟨x :: xs, spells_append.2 ⟨_, hkinds, hxs⟩, ⟨hfits, hfit⟩, rfl⟩
    · rintro ⟨xs, hxs, hfit, rfl⟩
      cases xs with
      | nil =>
        have hc : c.rest = rest := spells_nil.1 hxs
        have hno : ¬ ∃ name, StartsWith (.identifier name) c.rest := by
          rintro ⟨name, hname⟩
          cases hname.unique (hc ▸ hrest)
        obtain ⟨c₁, hfound, hc₁⟩ := (reads_identifierIsNext c false c.rest).2 ⟨rfl, by simpa using hno⟩
        exact ⟨false, c₁, hfound, c₁, rfl, hc₁.trans hc⟩
      | cons x xs =>
        obtain ⟨mid, hx, hxs⟩ := spells_append.1 hxs
        obtain ⟨c₁, hfound, hc₁⟩ := (reads_identifierIsNext c true c.rest).2 ⟨rfl, by simpa using startsWith_item hx⟩
        have hnext := fun k hk => not_startsWith_next hxs hrest (.inr rfl) x k hk
        obtain ⟨c₂, hstep, rfl⟩ := (hstep s c₁ (I.add s x) mid).2 ⟨x, hc₁ ▸ hx, hnext, hfit.1, rfl⟩
        have hlt := length_lt hx
        exact ⟨true, c₁, hfound, leaves_bind.2 ⟨_, c₂, hstep, (ih (by omega)).2 ⟨xs, hxs, hfit.2, rfl⟩⟩⟩

/-- A list that the marker of its section ends. -/
theorem readsBefore_whileIdentifier (hstep : ∀ s, Reads (step s) (I.One s)) (init : σ) :
    ReadsBefore .marker (whileIdentifier step init) fun ts s rest =>
      ∃ xs, Spells (xs.flatMap I.kinds) ts rest ∧ I.Fit init xs ∧ s = xs.foldl I.add init :=
  fun c _ _ hrest => leaves_whileIdentifierWithin hstep (Nat.lt_succ_self c.rest.length) hrest

end Items

/-! ## Sections -/

/-- The sections of a file format. -/
structure Sections (σ ι : Type) extends Listing σ ι where
  word : ι → String
  /-- Whether these tokens are the body of the section, whose opening marker stands on the line. -/
  Body : ι → Nat → List Token → Prop

namespace Sections

variable {F : Sections σ ι} {body : String → Token → σ → Parser σ} {rest : List Token}

/-- The section `x` stands in front: a marker, the word of the section on the marker's line, a body
and a closing marker. -/
def Starts (F : Sections σ ι) (x : ι) (ts rest : List Token) : Prop :=
  ∃ opening word body closing, ts = opening :: word :: (body ++ closing :: rest) ∧ opening.kind = .marker ∧
    word.kind = .identifier (F.word x) ∧ word.position.line = opening.position.line ∧
    F.Body x opening.position.line body ∧ closing.kind = .marker

/-- The tokens are these sections, one after the other. -/
def Written (F : Sections σ ι) : List ι → List Token → Prop
  | [], ts => ts = []
  | x :: xs, ts => ∃ rest, F.Starts x ts rest ∧ Written F xs rest

/-- What the reader of a body reads, if a marker follows. -/
def One (F : Sections σ ι) (word : String) (opening : Token) (s : σ) (ts : List Token)
    (s' : σ) (rest : List Token) : Prop :=
  ∃ x, F.word x = word ∧ (∃ body, ts = body ++ rest ∧ F.Body x opening.position.line body) ∧ F.fits s x ∧
    s' = F.add s x

theorem Starts.length_lt {x : ι} {ts : List Token} (h : F.Starts x ts rest) : rest.length < ts.length := by
  obtain ⟨opening, word, tokens, closing, rfl, -⟩ := h
  simp only [List.length_cons, List.length_append]
  omega

/-- One section is read if its word is new and the rest is read behind it. -/
theorem leaves_sectionsWithin_succ
    (hbody : ∀ word opening s, ReadsBefore .marker (body word opening s) (F.One word opening s)) {fuel : Nat}
    {seen : List String} {s : σ} {c : Cursor} {result : σ × List String} {T : ι → List Token → Prop}
    (hend : c.atEnd = false)
    (hT : ∀ x c', F.Starts x c.rest c'.rest → F.word x ∉ seen →
      (Leaves (sectionsWithin body fuel (seen ++ [F.word x]) (F.add s x)) c' result rest ↔ T x c'.rest)) :
    Leaves (sectionsWithin body (fuel + 1) seen s) c result rest ↔
      ∃ x after, F.Starts x c.rest after ∧ F.word x ∉ seen ∧ F.fits s x ∧ T x after := by
  unfold sectionsWithin
  rw [leaves_get]
  simp only [hend, Bool.false_eq_true, if_false]
  rw [leaves_bind]
  constructor
  · rintro ⟨opening, c₁, hopen, h⟩
    obtain ⟨hc, hmarker⟩ := (reads_expect _ _ c opening _).1 ⟨c₁, hopen, rfl⟩
    obtain ⟨name?, c₂, hname, h⟩ := leaves_bind.1 h
    rcases (reads_identifierOnLine? _ c₁ name? _).1 ⟨c₂, hname, rfl⟩ with
      ⟨name, rfl, word, hc₁, hword, hline⟩ | ⟨rfl, -⟩
    · dsimp only at h
      by_cases hm : name ∈ seen
      · rw [if_pos hm, reads_failAt] at h
        exact h.elim
      · rw [if_neg hm] at h
        obtain ⟨s₁, c₃, hs, h⟩ := leaves_bind.1 h
        obtain ⟨closing, c₄, hclose, h⟩ := leaves_bind.1 h
        obtain ⟨hc₃, hmarker'⟩ := (reads_expect _ _ c₃ closing _).1 ⟨c₄, hclose, rfl⟩
        obtain ⟨x, rfl, ⟨tokens, hc₂, hx⟩, hfits, rfl⟩ :=
          (hbody _ opening s c₂ s₁ c₃.rest ⟨closing, _, hc₃, hmarker'⟩).1 ⟨c₃, hs, rfl⟩
        have hstarts : F.Starts x c.rest c₄.rest :=
          ⟨opening, word, tokens, closing, by rw [hc, hc₁, hc₂, hc₃], hmarker, hword, hline, hx, hmarker'⟩
        exact ⟨x, c₄.rest, hstarts, hm, hfits, (hT x c₄ hstarts hm).1 h⟩
    · rw [reads_failAt] at h
      exact h.elim
  · rintro ⟨x, after, hstarts, hm, hfits, h⟩
    have ⟨opening, word, tokens, closing, hc, hmarker, hword, hline, hx, hmarker'⟩ := hstarts
    obtain ⟨c₁, hopen, hc₁⟩ := (reads_expect .marker _ c opening _).2 ⟨hc, hmarker⟩
    obtain ⟨c₂, hname, hc₂⟩ := (reads_identifierOnLine? opening.position.line c₁ (some (F.word x)) _).2
      (.inl ⟨_, rfl, word, hc₁, hword, hline⟩)
    obtain ⟨c₃, hs, hc₃⟩ := (hbody _ opening s c₂ (F.add s x) _ ⟨closing, after, rfl, hmarker'⟩).2
      ⟨x, rfl, ⟨tokens, hc₂, hx⟩, hfits, rfl⟩
    obtain ⟨c₄, hclose, rfl⟩ := (reads_expect .marker _ c₃ closing _).2 ⟨hc₃, hmarker'⟩
    refine ⟨opening, c₁, hopen, leaves_bind.2 ⟨_, c₂, hname, ?_⟩⟩
    dsimp only
    rw [if_neg hm]
    exact leaves_bind.2 ⟨_, c₃, hs, leaves_bind.2 ⟨_, c₄, hclose, (hT x c₄ hstarts hm).2 h⟩⟩

/-- The tokens are sections that fit behind those whose words were seen, and nothing follows. -/
def All (F : Sections σ ι) (seen : List String) (s : σ) (ts : List Token) (result : σ × List String)
    (rest : List Token) :
    Prop :=
  ∃ xs, F.Written xs ts ∧ rest = [] ∧ (seen ++ xs.map F.word).Nodup ∧ F.Fit s xs ∧
    result = (xs.foldl F.add s, seen ++ xs.map F.word)

theorem all_nil {seen : List String} (hseen : seen.Nodup) {s : σ} {result : σ × List String} :
    F.All seen s [] result rest ↔ result = (s, seen) ∧ rest = [] := by
  constructor
  · rintro ⟨xs, hxs, rfl, -, -, rfl⟩
    cases xs with
    | nil => exact ⟨by simp, rfl⟩
    | cons x xs =>
      obtain ⟨after, hx, -⟩ := hxs
      have := hx.length_lt
      simp at this
  · rintro ⟨rfl, rfl⟩
    exact ⟨[], rfl, rfl, by simpa using hseen, trivial, by simp⟩

theorem all_iff_exists {seen : List String} {s : σ} {ts : List Token} {result : σ × List String} (hts : ts ≠ []) :
    F.All seen s ts result rest ↔
      ∃ x after, F.Starts x ts after ∧ F.word x ∉ seen ∧ F.fits s x ∧
        F.All (seen ++ [F.word x]) (F.add s x) after result rest := by
  constructor
  · rintro ⟨xs, hxs, rfl, hn, hfit, rfl⟩
    cases xs with
    | nil => exact absurd hxs hts
    | cons x xs =>
      obtain ⟨after, hx, hxs⟩ := hxs
      have hm : F.word x ∉ seen := fun hm => (List.nodup_append.1 hn).2.2 _ hm _ List.mem_cons_self rfl
      exact ⟨x, after, hx, hm, hfit.1, xs, hxs, rfl, by simpa using hn, hfit.2, by simp⟩
  · rintro ⟨x, after, hx, -, hfits, xs, hxs, rfl, hn, hfit, rfl⟩
    exact ⟨x :: xs, ⟨after, hx, hxs⟩, rfl, by simpa using hn, ⟨hfits, hfit⟩, by simp⟩

theorem leaves_sectionsWithin (hbody : ∀ word opening s, ReadsBefore .marker (body word opening s)
    (F.One word opening s))
    {fuel : Nat} {seen : List String} {s : σ} {c : Cursor} {result : σ × List String} (hseen : seen.Nodup)
    (hfuel : c.rest.length < fuel) :
    Leaves (sectionsWithin body fuel seen s) c result rest ↔ F.All seen s c.rest result rest := by
  induction fuel generalizing seen s c with
  | zero => omega
  | succ fuel ih =>
    cases hend : c.atEnd with
    | true =>
      have hnil : c.rest = [] := List.isEmpty_iff.1 hend
      have hstop : sectionsWithin body (fuel + 1) seen s c = .ok (s, seen) c := by
        change (if c.atEnd = true then pure (s, seen) else _ : Parser (σ × List String)) c = _
        rw [if_pos hend]
        rfl
      rw [hnil, all_nil hseen, Leaves, hstop]
      constructor
      · rintro ⟨_, ⟨⟩, rfl⟩
        exact ⟨rfl, hnil⟩
      · rintro ⟨rfl, rfl⟩
        exact ⟨c, rfl, hnil⟩
    | false =>
      have hne : c.rest ≠ [] := fun hnil => by simp [Cursor.atEnd, hnil] at hend
      -- Behind a section the tokens are fewer, and its word is known.
      rw [all_iff_exists hne, leaves_sectionsWithin_succ hbody hend
        (T := fun x after => F.All (seen ++ [F.word x]) (F.add s x) after result rest)]
      intro x c' hx hm
      have hseen' : (seen ++ [F.word x]).Nodup := by
        simpa [List.nodup_append, hseen] using fun a ha => ne_of_mem_of_not_mem ha hm
      have hlt := hx.length_lt
      exact ih hseen' (by omega)

/-- A whole text is read if it is made of sections, each with a word of its own. -/
theorem reads_sections (hbody : ∀ word opening s, ReadsBefore .marker (body word opening s) (F.One word opening s))
    (init : σ) : Reads (sections body init) (F.All [] init) :=
  fun c _ _ => leaves_sectionsWithin hbody List.nodup_nil (Nat.lt_succ_self c.rest.length)

end Sections

/-- Only a text that has tokens is parsed. -/
theorem tokenize_of_parse {p : Parser α} {language : Language} {source : String} {a : α}
    (h : Parser.parse p language source = .ok a) : ∃ tokens, tokenize language source = .ok tokens := by
  unfold Parser.parse Cursor.ofSource at h
  cases htokens : tokenize language source with
  | ok tokens => exact ⟨tokens, rfl⟩
  | error e => simp [htokens, Except.map] at h

/-- A text is parsed if its tokens are read. -/
theorem parse_eq_ok_iff {language : Language} {source : String} {tokens : List Token}
    (htokens : tokenize language source = .ok tokens) (hp : Reads p R) {a : α} :
    Parser.parse p language source = .ok a ↔ ∃ rest, R tokens a rest := by
  let c : Cursor := ⟨language, none, tokens⟩
  have hparse : Parser.parse p language source = .ok a ↔ ∃ c', p c = .ok a c' := by
    unfold Parser.parse Cursor.ofSource
    rw [htokens]
    simp only [Except.map]
    cases p c <;> simp
  rw [hparse]
  constructor
  · rintro ⟨c', h⟩
    exact ⟨c'.rest, (hp c a _).1 ⟨c', h, rfl⟩⟩
  · rintro ⟨rest, h⟩
    obtain ⟨c', h, -⟩ := (hp c a rest).2 h
    exact ⟨c', h⟩

end Parser

end Dataflow
