import Dataflow.Type.Default
import Dataflow.Proofs.Type.Typing
/-!
# Which types exist

A default can be made of a type if and only if all chains of references from it are short enough and
resolve (`ends_defaultWithin`). Of any other type there is no default, and no value is accepted either
(`createDefault_agrees_validates`), above all of a type that reaches a cycle.
-/

namespace Dataflow.TypeScope

/-! ## How a computation with errors ends -/

section Ends

variable {α β : Type} {x : ExceptT TypeError (StateM Supply) α} {f : α → ExceptT TypeError (StateM Supply) β}
  {P Q : Prop} {E E' : TypeError → Prop}

/-- Whatever the supply, the computation succeeds only if `P` holds and fails only with errors in `E`. -/
def Ends (x : ExceptT TypeError (StateM Supply) α) (P : Prop) (E : TypeError → Prop) : Prop :=
  ∀ supply, match (x supply).1 with
    | .ok _ => P
    | .error e => E e

theorem ends_pure {a : α} (h : P) : Ends (pure a) P E := fun _ => h

theorem ends_throw {e : TypeError} (h : E e) : Ends (throw e : ExceptT TypeError (StateM Supply) α) P E := fun _ => h

theorem ends_lift {m : StateM Supply α} (h : P) : Ends (ExceptT.lift m) P E := fun _ => h

theorem Ends.bind (hx : Ends x P E) (hf : P → ∀ a, Ends (f a) Q E) : Ends (x >>= f) Q E := by
  intro supply
  have h := hx supply
  change match (ExceptT.bindCont f (x supply).1 (x supply).2).1 with
    | .ok _ => Q
    | .error e => E e
  cases hr : (x supply).1 with
  | error e =>
    rw [hr] at h
    exact h
  | ok a =>
    rw [hr] at h
    exact hf h a (x supply).2

theorem Ends.mono (hx : Ends x P E) (hP : P → Q) (hE : ∀ e, E e → E' e) : Ends x Q E' := by
  intro supply
  have h := hx supply
  cases hr : (x supply).1 with
  | error e => exact hE e (by simpa [hr] using h)
  | ok a => exact hP (by simpa [hr] using h)

theorem ends_mapM {γ : Type} {xs : List γ} {g : γ → ExceptT TypeError (StateM Supply) α} {P : γ → Prop}
    (h : ∀ x ∈ xs, Ends (g x) (P x) E) : Ends (xs.mapM g) (∀ x ∈ xs, P x) E := by
  induction xs with
  | nil => exact ends_pure (by simp)
  | cons x xs ih =>
    obtain ⟨hx, hxs⟩ := List.forall_mem_cons.1 h
    rw [List.mapM_cons]
    apply hx.bind
    intro hPx a
    apply (ih hxs).bind
    intro hPxs as
    exact ends_pure (List.forall_mem_cons.2 ⟨hPx, hPxs⟩)

end Ends

/-! ## What is to blame -/

/-- References lead to the name `blamed`, which does not resolve or lies `fuel` references away. -/
def Blames (scope : TypeScope) (fuel : Nat) (name blamed : String) : Prop :=
  ∃ names, scope.Chain name names ∧ names.getLastD name = blamed ∧
    (scope.lookup? blamed = none ∨ names.length = fuel)

variable {scope : TypeScope} {name target blamed : String} {fuel : Nat}

theorem Blames.step (href : scope.Refers name target) (h : scope.Blames fuel target blamed) :
    scope.Blames (fuel + 1) name blamed := by
  obtain ⟨names, hnames, hlast, hwhy⟩ := h
  refine ⟨target :: names, chain_cons.2 ⟨href, hnames⟩, (List.getLastD_cons ..).trans hlast, ?_⟩
  rcases hwhy with hnone | hlen
  · exact .inl hnone
  · exact .inr (by simp [hlen])

theorem Resolves.not_blames (h : scope.Resolves fuel name) : ¬ scope.Blames fuel name blamed := by
  rintro ⟨names, hnames, hlast, hwhy⟩
  obtain ⟨hlt, hall⟩ := h names hnames
  rcases hwhy with hnone | hlen
  · have hmem : blamed ∈ name :: names := hlast ▸ List.getLastD_mem_cons ..
    have := hall blamed hmem
    simp [hnone] at this
  · omega

/-- A default is made of what resolves, and an error names what is to blame. -/
theorem ends_defaultWithin : Ends (scope.defaultWithin fuel name) (scope.Resolves fuel name)
    fun e => ∃ n, e = .unknownType n ∧ scope.Blames fuel name n := by
  induction fuel generalizing name with
  | zero => exact ends_throw ⟨name, rfl, [], chain_nil, rfl, .inr rfl⟩
  | succ fuel ih =>
    have hstep : ∀ target, scope.Refers name target →
        Ends (scope.defaultWithin fuel target) (scope.Resolves fuel target)
          fun e => ∃ n, e = .unknownType n ∧ scope.Blames (fuel + 1) name n := by
      intro target href
      apply ih.mono id
      rintro _ ⟨n, rfl, hn⟩
      exact ⟨n, rfl, hn.step href⟩
    unfold defaultWithin
    cases h : scope.lookup? name with
    | none => exact ends_throw ⟨name, rfl, [], chain_nil, rfl, .inl h⟩
    | some type =>
      simp only [refers_iff h] at hstep
      simp only [resolves_succ_iff, refers_iff h, h, Option.isSome_some, true_and]
      cases hkind : type.kind with
      | primitive shape => exact ends_pure (by simp [TypeKind.references])
      | semantic base rules =>
        simp only [hkind, TypeKind.references, List.mem_singleton, forall_eq] at hstep ⊢
        apply hstep.bind
        intro hbase value
        exact ends_lift hbase
      | composite fields =>
        simp only [hkind, TypeKind.references, forall_mem_values] at hstep ⊢
        have hfield : ∀ e ∈ fields.entries, Ends (do return (e.1, ← scope.defaultWithin fuel e.2))
            (scope.Resolves fuel e.2) fun e => ∃ n, e = .unknownType n ∧ scope.Blames (fuel + 1) name n := by
          intro e he
          apply (hstep e he).bind
          intro hresolves value
          exact ends_pure hresolves
        apply (ends_mapM hfield).bind
        intro hfields members
        exact ends_pure hfields

theorem ends_createDefault : Ends (scope.createDefault name) (scope.Resolves (maxTypeDepth + 1) name)
    fun e => ∃ n, e = .unknownType n ∧ scope.Blames (maxTypeDepth + 1) name n :=
  ends_defaultWithin

theorem createDefault_eq_ok_iff {supply : Supply} :
    (∃ value, (scope.createDefault name supply).1 = .ok value) ↔ scope.Resolves (maxTypeDepth + 1) name := by
  have h := (ends_createDefault : Ends (scope.createDefault name) _ _) supply
  constructor
  · rintro ⟨value, hvalue⟩
    simpa [hvalue] using h
  · intro hresolves
    cases hr : (scope.createDefault name supply).1 with
    | ok value => exact ⟨value, rfl⟩
    | error e =>
      rw [hr] at h
      obtain ⟨n, -, hn⟩ := h
      exact absurd hn hresolves.not_blames

/-- Only a type that resolves has values. -/
theorem resolves_of_validatesWithin {value : Json} (h : scope.validatesWithin fuel value name = true) :
    scope.Resolves fuel name := by
  induction fuel generalizing name value with
  | zero => cases h
  | succ fuel ih =>
    cases hlookup : scope.lookup? name with
    | none => simp [validatesWithin_unknown hlookup] at h
    | some type =>
      simp only [resolves_succ_iff, refers_iff hlookup, hlookup, Option.isSome_some, true_and]
      obtain ⟨declared, kind⟩ := type
      cases kind with
      | primitive shape => simp [TypeKind.references]
      | semantic base rules =>
        rw [validatesWithin_semantic hlookup, Bool.and_eq_true] at h
        simpa [TypeKind.references] using ih h.1
      | composite fields =>
        obtain ⟨members, -, hfields⟩ := (validatesWithin_record hlookup).1 h
        simp only [TypeKind.references, forall_mem_values]
        intro e he
        obtain ⟨v, -, hv⟩ := hfields e he
        exact ih hv

theorem validates_eq_false (h : ¬ scope.Resolves (maxTypeDepth + 1) name) (value : Json) :
    scope.validates value name = false := by
  apply Bool.eq_false_iff.2
  intro hvalid
  exact h (resolves_of_validatesWithin hvalid)

theorem createDefault_eq_error_iff {supply : Supply} :
    (∃ e, (scope.createDefault name supply).1 = .error e) ↔ ¬ scope.Resolves (maxTypeDepth + 1) name := by
  have hok : (∃ value, (scope.createDefault name supply).1 = .ok value) ↔ _ := createDefault_eq_ok_iff
  rw [← hok]
  cases (scope.createDefault name supply).1 <;> simp

/-- A default can be made of a type if and only if every chain of references from it has at most
`maxTypeDepth` references and leads over names that resolve. Otherwise the error names one that does not or
that lies too far away, and the type has no values. A type that reaches a cycle is never accepted. -/
theorem createDefault_agrees_validates (scope : TypeScope) (name : String) (supply : Supply) :
    ((∃ value, (scope.createDefault name supply).1 = .ok value) ↔
      ∀ names, scope.Chain name names →
        names.length ≤ maxTypeDepth ∧ ∀ n ∈ name :: names, (scope.lookup? n).isSome) ∧
    (∀ e, (scope.createDefault name supply).1 = .error e →
      (∃ names, scope.Chain name names ∧ e = .unknownType (names.getLastD name) ∧
        (scope.lookup? (names.getLastD name) = none ∨ names.length = maxTypeDepth + 1)) ∧
      ∀ value, scope.validates value name = false) ∧
    ∀ n, Relation.ReflTransGen scope.Refers name n → Relation.TransGen scope.Refers n n →
      (∃ e, (scope.createDefault name supply).1 = .error e) ∧ ∀ value, scope.validates value name = false := by
  have hends := (ends_createDefault : Ends (scope.createDefault name) _ _) supply
  refine ⟨?_, ?_, ?_⟩
  · rw [createDefault_eq_ok_iff]
    simp only [Resolves, Nat.lt_succ_iff]
  · intro e he
    refine ⟨?_, validates_eq_false (createDefault_eq_error_iff.1 ⟨e, he⟩)⟩
    rw [he] at hends
    obtain ⟨_, rfl, names, hnames, rfl, hwhy⟩ := hends
    exact ⟨names, hnames, rfl, hwhy⟩
  · intro n hreach hcycle
    have hno : ¬ scope.Resolves (maxTypeDepth + 1) name := not_resolves_of_cycle hreach hcycle
    exact ⟨createDefault_eq_error_iff.2 hno, validates_eq_false hno⟩

/-- A record of a number and of a type that is its own base. -/
def looped : TypeScope where
  resolve? name :=
    match name with
    | "Int" => some (⟨"p", "Int"⟩, ⟨"Int", .primitive .integer⟩)
    | "Loop" => some (⟨"p", "Loop"⟩, ⟨"Loop", .semantic "Loop" []⟩)
    | "Pair" => some (⟨"p", "Pair"⟩, ⟨"Pair", .composite (.ofList [("left", "Int"), ("right", "Loop")])⟩)
    | _ => none
  checkRule _ _ _ := true
  refineDefault _ value := pure value
  convert value _ _ := .ok value

theorem createDefault_agrees_validates_looped :
    Relation.ReflTransGen looped.Refers "Pair" "Loop" ∧ Relation.TransGen looped.Refers "Loop" "Loop" ∧
      (∃ e, (looped.createDefault "Pair" default).1 = .error e) ∧
      ∀ value, looped.validates value "Pair" = false := by
  have hfield : looped.Refers "Pair" "Loop" := ⟨_, rfl, by decide⟩
  have hbase : looped.Refers "Loop" "Loop" := ⟨_, rfl, by decide⟩
  have hreach : Relation.ReflTransGen looped.Refers "Pair" "Loop" := .single hfield
  have hcycle : Relation.TransGen looped.Refers "Loop" "Loop" := .single hbase
  exact ⟨hreach, hcycle, (createDefault_agrees_validates looped "Pair" default).2.2 "Loop" hreach hcycle⟩

end Dataflow.TypeScope
