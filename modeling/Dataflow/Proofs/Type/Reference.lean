import Mathlib.Data.List.Chain
import Dataflow.Type.Scope
/-!
# References between types

A semantic type refers to its base, and a composite type to the types of its fields. Whoever asks what a
name means follows these references, so the answer depends on the chains of references that start at the
name: on how long they are (`Shallow`) and on whether the names along them resolve (`Resolves`).
-/

namespace Dataflow

/-- The names that a type of this kind refers to. -/
def TypeKind.references : TypeKind → List String
  | .primitive _ => []
  | .semantic base _ => [base]
  | .composite fields => fields.values

namespace TypeScope

def Refers (scope : TypeScope) (name target : String) : Prop :=
  ∃ type, scope.lookup? name = some type ∧ target ∈ type.kind.references

/-- The names lead away from `name`, each by a reference of the one before it. -/
def Chain (scope : TypeScope) (name : String) (names : List String) : Prop :=
  (name :: names).IsChain scope.Refers

/-- Every chain from the name has fewer than `fuel` references. -/
def Shallow (scope : TypeScope) (fuel : Nat) (name : String) : Prop :=
  ∀ names, scope.Chain name names → names.length < fuel

/-- Every chain from the name has fewer than `fuel` references, and all names on it resolve. -/
def Resolves (scope : TypeScope) (fuel : Nat) (name : String) : Prop :=
  ∀ names, scope.Chain name names → names.length < fuel ∧ ∀ n ∈ name :: names, (scope.lookup? n).isSome

variable {scope : TypeScope} {name target : String} {names : List String} {type : TypeDeclaration} {fuel : Nat}

theorem chain_nil : scope.Chain name [] := .singleton name

theorem chain_cons : scope.Chain name (target :: names) ↔ scope.Refers name target ∧ scope.Chain target names :=
  List.isChain_cons_cons

theorem refers_iff (h : scope.lookup? name = some type) : scope.Refers name target ↔ target ∈ type.kind.references := by
  simp [Refers, h]

/-! ## One reference -/

theorem not_shallow_zero : ¬ scope.Shallow 0 name := by
  intro h
  exact Nat.not_lt_zero _ (h [] chain_nil)

theorem shallow_succ_iff :
    scope.Shallow (fuel + 1) name ↔ ∀ target, scope.Refers name target → scope.Shallow fuel target := by
  constructor
  · intro h target href names hnames
    have := h (target :: names) (chain_cons.2 ⟨href, hnames⟩)
    simpa using this
  · intro h names hnames
    cases names with
    | nil => simp
    | cons target names =>
      obtain ⟨href, hnames⟩ := chain_cons.1 hnames
      have := h target href names hnames
      simpa using this

theorem not_resolves_zero : ¬ scope.Resolves 0 name := by
  intro h
  exact Nat.not_lt_zero _ (h [] chain_nil).1

theorem resolves_succ_iff :
    scope.Resolves (fuel + 1) name ↔
      (scope.lookup? name).isSome ∧ ∀ target, scope.Refers name target → scope.Resolves fuel target := by
  constructor
  · intro h
    refine ⟨(h [] chain_nil).2 name List.mem_cons_self, ?_⟩
    intro target href names hnames
    obtain ⟨hlen, hall⟩ := h (target :: names) (chain_cons.2 ⟨href, hnames⟩)
    exact ⟨by simpa using hlen, fun n hn => hall n (List.mem_cons_of_mem _ hn)⟩
  · rintro ⟨hname, h⟩ names hnames
    cases names with
    | nil => simpa using hname
    | cons target names =>
      obtain ⟨href, hnames⟩ := chain_cons.1 hnames
      obtain ⟨hlen, hall⟩ := h target href names hnames
      exact ⟨by simpa using hlen, List.forall_mem_cons.2 ⟨hname, hall⟩⟩

/-! ## Cycles -/

/-- A name on a cycle of references would have chains of any length. -/
theorem Resolves.not_transGen (h : scope.Resolves fuel name) : ¬ Relation.TransGen scope.Refers name name := by
  induction fuel generalizing name with
  | zero => exact absurd h not_resolves_zero
  | succ fuel ih =>
    intro hcycle
    obtain ⟨target, href, hback⟩ := Relation.TransGen.head'_iff.1 hcycle
    exact ih ((resolves_succ_iff.1 h).2 target href) (Relation.TransGen.tail' hback href)

theorem Resolves.reaches (h : scope.Resolves fuel name) (hreach : Relation.ReflTransGen scope.Refers name target) :
    ∃ fuel', scope.Resolves fuel' target := by
  induction hreach with
  | refl => exact ⟨fuel, h⟩
  | tail _ href ih =>
    obtain ⟨_ | fuel', h'⟩ := ih
    · exact absurd h' not_resolves_zero
    · exact ⟨fuel', (resolves_succ_iff.1 h').2 _ href⟩

theorem not_resolves_of_cycle (hreach : Relation.ReflTransGen scope.Refers name target)
    (hcycle : Relation.TransGen scope.Refers target target) : ¬ scope.Resolves fuel name := by
  intro h
  obtain ⟨fuel', htarget⟩ := h.reaches hreach
  exact htarget.not_transGen hcycle

end TypeScope

end Dataflow
