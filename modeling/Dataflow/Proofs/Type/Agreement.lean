import Dataflow.Proofs.Type.Typing
import Dataflow.Type.Cast
import Dataflow.Type.Default
/-!
# Scopes that agree

A type operation asks its scope about the names that references lead to from the given ones, and about no
others. Two scopes that agree on these names (`TypeScope.AgreesOn`) therefore validate, default and cast
alike, errors included.
-/

namespace Dataflow.TypeScope

variable {scope scope' : TypeScope} {P Q : String → Prop} {name source target : String} {value : Json} {fuel : Nat}

/-! ## All that a name leads to -/

/-- The name, and every base and field name that references lead to from it, satisfies `P`. -/
def Within (scope : TypeScope) (P : String → Prop) (name : String) : Prop :=
  ∀ n, Relation.ReflTransGen scope.Refers name n → P n

theorem Within.self (h : scope.Within P name) : P name := h name .refl

theorem Within.step (h : scope.Within P name) (href : scope.Refers name target) : scope.Within P target :=
  fun n hn => h n (.head href hn)

theorem Within.mono (h : scope.Within P name) (hPQ : ∀ n, P n → Q n) : scope.Within Q name :=
  fun n hn => hPQ n (h n hn)

theorem within_of_closed (hstep : ∀ n target, P n → scope.Refers n target → P target) (h : P name) :
    scope.Within P name := by
  intro n hreach
  induction hreach with
  | refl => exact h
  | tail _ href ih => exact hstep _ _ ih href

/-- Names closed under references lead to each other only. -/
theorem within_of_names {names : List String}
    (hclosed : ∀ n ∈ names, ∀ type ∈ scope.lookup? n, ∀ target ∈ type.kind.references, target ∈ names)
    (h : ∀ n ∈ names, P n) (hname : name ∈ names) : scope.Within P name := by
  have hnames : scope.Within (· ∈ names) name := by
    refine within_of_closed ?_ hname
    rintro n target hn ⟨type, htype, href⟩
    exact hclosed n hn type htype target href
  exact hnames.mono h

theorem mem_references_of_base? {type : TypeDeclaration} {base : String} (h : type.base? = some base) :
    base ∈ type.kind.references := by
  obtain ⟨declared, kind⟩ := type
  cases kind <;> simp_all [TypeDeclaration.base?, TypeKind.references]

theorem Within.base (h : scope.Within P name) {x : TypeRef × TypeDeclaration} (hx : scope.resolve? name = some x)
    {base : String} (hbase : x.2.base? = some base) : P base := by
  have hl : scope.lookup? name = some x.2 := by rw [lookup?, hx, Option.map_some]
  exact (h.step ((refers_iff hl).2 (mem_references_of_base? hbase))).self

/-! ## Agreement -/

/-- Names in `P` resolve alike, and where they do resolve the plugins do the same for them. -/
structure AgreesOn (P : String → Prop) (scope scope' : TypeScope) : Prop where
  resolve : ∀ n, P n → scope'.resolve? n = scope.resolve? n
  checkRule : ∀ n, P n → (scope.resolve? n).isSome → scope'.checkRule n = scope.checkRule n
  refineDefault : ∀ n, P n → (scope.resolve? n).isSome → scope'.refineDefault n = scope.refineDefault n
  convert : ∀ m n, P m → P n → (scope.resolve? m).isSome → (scope.resolve? n).isSome →
    ∀ value, scope'.convert value m n = scope.convert value m n

theorem AgreesOn.lookup (h : AgreesOn P scope scope') (hn : P name) : scope'.lookup? name = scope.lookup? name :=
  congrArg (Option.map Prod.snd) (h.resolve name hn)

theorem isSome_resolve? {type : TypeDeclaration} (h : scope.lookup? name = some type) :
    (scope.resolve? name).isSome := by
  obtain ⟨found, hfound, -⟩ := Option.map_eq_some_iff.1 h
  rw [hfound, Option.isSome_some]

theorem AgreesOn.validatesWithin (h : AgreesOn P scope scope') (hn : scope.Within P name) :
    scope'.validatesWithin fuel value name = scope.validatesWithin fuel value name := by
  -- One reference uses up fuel in both scopes and leads to a name that is within `P` again.
  induction fuel generalizing value name with
  | zero => rfl
  | succ fuel ih =>
    cases hl : scope.lookup? name with
    | none => rw [validatesWithin_unknown hl, validatesWithin_unknown ((h.lookup hn.self).trans hl)]
    | some type =>
      have hl' : scope'.lookup? name = some type := (h.lookup hn.self).trans hl
      have hstep : ∀ target ∈ type.kind.references, ∀ value,
          scope'.validatesWithin fuel value target = scope.validatesWithin fuel value target :=
        fun target ht value => ih (hn.step ((refers_iff hl).2 ht))
      obtain ⟨declared, kind⟩ := type
      cases kind with
      | primitive shape => rw [validatesWithin_primitive hl, validatesWithin_primitive hl']
      | semantic base rules =>
        rw [validatesWithin_semantic hl, validatesWithin_semantic hl', hstep base List.mem_cons_self,
          h.checkRule name hn.self (isSome_resolve? hl)]
      | composite fields =>
        simp only [TypeKind.references, forall_mem_values] at hstep
        rw [Bool.eq_iff_iff, validatesWithin_record hl, validatesWithin_record hl']
        refine exists_congr fun members => and_congr_right fun _ => forall₂_congr fun e he => ?_
        simp only [hstep e he]

theorem AgreesOn.validates (h : AgreesOn P scope scope') (hn : scope.Within P name) :
    scope'.validates value name = scope.validates value name :=
  h.validatesWithin hn

theorem mapM_congr {m : Type → Type} [Monad m] [LawfulMonad m] {α β : Type} {f g : α → m β} {xs : List α}
    (h : ∀ x ∈ xs, f x = g x) : xs.mapM f = xs.mapM g := by
  induction xs with
  | nil => rfl
  | cons x xs ih =>
    obtain ⟨hx, hxs⟩ := List.forall_mem_cons.1 h
    rw [List.mapM_cons, List.mapM_cons, hx, ih hxs]

theorem AgreesOn.defaultWithin (h : AgreesOn P scope scope') (hn : scope.Within P name) :
    scope'.defaultWithin fuel name = scope.defaultWithin fuel name := by
  induction fuel generalizing name with
  | zero => rfl
  | succ fuel ih =>
    unfold TypeScope.defaultWithin
    rw [h.lookup hn.self]
    cases hl : scope.lookup? name with
    | none => rfl
    | some type =>
      have hstep : ∀ target ∈ type.kind.references, scope'.defaultWithin fuel target = scope.defaultWithin fuel target :=
        fun target ht => ih (hn.step ((refers_iff hl).2 ht))
      obtain ⟨declared, kind⟩ := type
      cases kind with
      | primitive shape => rfl
      | semantic base rules =>
        dsimp only
        rw [hstep base List.mem_cons_self, h.refineDefault name hn.self (isSome_resolve? hl)]
      | composite fields =>
        simp only [TypeKind.references, forall_mem_values] at hstep
        dsimp only
        rw [mapM_congr fun e he => by rw [hstep e he]]

theorem AgreesOn.createDefault (h : AgreesOn P scope scope') (hn : scope.Within P name) :
    scope'.createDefault name = scope.createDefault name :=
  h.defaultWithin hn

theorem AgreesOn.sameType (h : AgreesOn P scope scope') {a b : String} (ha : P a) (hb : P b) :
    scope'.sameType a b = scope.sameType a b := by
  unfold TypeScope.sameType
  rw [h.resolve a ha, h.resolve b hb]

theorem AgreesOn.cast (h : AgreesOn P scope scope') (hsource : scope.Within P source)
    (htarget : scope.Within P target) : scope'.cast value source target = scope.cast value source target := by
  unfold TypeScope.cast
  rw [h.resolve source hsource.self, h.resolve target htarget.self, h.validates hsource]
  cases hx : scope.resolve? source with
  | none => rfl
  | some x =>
    cases hy : scope.resolve? target with
    | none => rfl
    | some y =>
      obtain ⟨xref, xtype⟩ := x
      obtain ⟨yref, ytype⟩ := y
      dsimp only
      cases hxb : xtype.base? with
      | none => rfl
      | some xbase =>
        cases hyb : ytype.base? with
        | none => rfl
        | some ybase =>
          dsimp only
          rw [h.sameType (hsource.base hx hxb) (htarget.base hy hyb),
            h.convert source target hsource.self htarget.self (by simp [hx]) (by simp [hy])]

end Dataflow.TypeScope
