import Mathlib.Data.List.Forall2

/-!
Computations that may fail, taken apart and side by side. `Ends` says of one how it may succeed and
how it may fail, and `Lockstep` relates two of them that succeed or fail together; both pass through
a sequence of steps.
-/

set_option autoImplicit false
set_option relaxedAutoImplicit false

namespace Worksheet

variable {ε ε' α α' β β' : Type}

theorem exists_ok_of_bind {x : Except ε α} {f : α → Except ε β} {b : β}
    (h : (x >>= f) = .ok b) : ∃ a, x = .ok a ∧ f a = .ok b := by
  cases x with
  | error e => contradiction
  | ok a => exact ⟨a, rfl, h⟩

theorem mapError_eq_ok_iff {x : Except ε α} {f : ε → ε'} {a : α} :
    x.mapError f = .ok a ↔ x = .ok a := by
  cases x <;> simp [Except.mapError]

theorem bind_ok_mono {x y : Except ε α} {f g : α → Except ε β} {b : β}
    (first : ∀ a, x = .ok a → y = .ok a) (next : ∀ a, f a = .ok b → g a = .ok b)
    (h : (x >>= f) = .ok b) : (y >>= g) = .ok b := by
  obtain ⟨a, ha, hb⟩ := exists_ok_of_bind h
  rw [first a ha]
  exact next a hb

theorem error_cases_of_bind {x : Except ε α} {f : α → Except ε β} {e : ε}
    (h : (x >>= f) = .error e) : x = .error e ∨ ∃ a, x = .ok a ∧ f a = .error e := by
  cases x with
  | error e' =>
    obtain rfl := Except.error.inj h
    exact .inl rfl
  | ok a => exact .inr ⟨a, rfl, h⟩

theorem except_ext [Subsingleton ε] {x y : Except ε α} (h : ∀ a, x = .ok a ↔ y = .ok a) :
    x = y := by
  cases x with
  | ok a => exact ((h a).mp rfl).symm
  | error e =>
    cases y with
    | ok a => exact (h a).mpr rfl
    | error e' => exact congrArg Except.error (Subsingleton.elim e e')

theorem bind_eq_ok_iff {x : Except ε α} {f : α → Except ε β} {b : β} :
    (x >>= f) = .ok b ↔ ∃ a, x = .ok a ∧ f a = .ok b := by
  refine ⟨exists_ok_of_bind, ?_⟩
  rintro ⟨a, rfl, h⟩
  exact h

theorem exists_error_iff {x : Except ε α} : (∃ e, x = .error e) ↔ ¬ ∃ a, x = .ok a := by
  cases x <;> simp

theorem mapM_eq_ok_iff (f : α → Except ε β) (xs : List α) (ys : List β) :
    xs.mapM f = .ok ys ↔ List.Forall₂ (fun x y => f x = .ok y) xs ys := by
  induction xs generalizing ys with
  | nil =>
    rw [List.forall₂_nil_left_iff]
    exact ⟨fun h => (Except.ok.inj h).symm, fun h => congrArg Except.ok h.symm⟩
  | cons x xs ih =>
    rw [List.mapM_cons, List.forall₂_cons_left_iff]
    constructor
    · intro h
      obtain ⟨y, hy, h⟩ := exists_ok_of_bind h
      obtain ⟨zs, hzs, h⟩ := exists_ok_of_bind h
      exact ⟨y, zs, hy, (ih zs).mp hzs, (Except.ok.inj h).symm⟩
    · rintro ⟨y, zs, hy, hzs, rfl⟩
      rw [hy, (ih zs).mpr hzs]
      rfl

theorem exists_mapM_ok {f : α → Except ε β} {xs : List α} (h : ∀ x ∈ xs, ∃ y, f x = .ok y) :
    ∃ ys, xs.mapM f = .ok ys := by
  induction xs with
  | nil => exact ⟨[], rfl⟩
  | cons x xs ih =>
    obtain ⟨y, hy⟩ := h x List.mem_cons_self
    obtain ⟨ys, hys⟩ := ih fun z hz => h z (List.mem_cons_of_mem x hz)
    exact ⟨y :: ys, (mapM_eq_ok_iff f _ _).mpr (.cons hy ((mapM_eq_ok_iff f _ _).mp hys))⟩

theorem exists_getElem?_of_forall₂ {R : α → β → Prop} {xs : List α} {ys : List β}
    (h : List.Forall₂ R xs ys) {j : Nat} {x : α} (hx : xs[j]? = some x) :
    ∃ y, ys[j]? = some y ∧ R x y := by
  induction h generalizing j with
  | nil => exact nomatch hx
  | @cons a b _ _ hab _ ih =>
    cases j with
    | zero =>
      obtain rfl := Option.some.inj hx
      exact ⟨b, rfl, hab⟩
    | succ j => exact ih hx

theorem exists_mapM_ok_iff {f : α → Except ε β} {xs : List α} :
    (∃ ys, xs.mapM f = .ok ys) ↔ ∀ x ∈ xs, ∃ y, f x = .ok y := by
  refine ⟨fun ⟨ys, h⟩ x hx => ?_, exists_mapM_ok⟩
  rw [mapM_eq_ok_iff] at h
  obtain ⟨j, hj⟩ := List.getElem?_of_mem hx
  obtain ⟨y, -, hy⟩ := exists_getElem?_of_forall₂ h hj
  exact ⟨y, hy⟩

theorem forall₂_mem {R : α → β → Prop} {xs : List α} {ys : List β} (h : List.Forall₂ R xs ys) :
    List.Forall₂ (fun x y => x ∈ xs ∧ y ∈ ys ∧ R x y) xs ys := by
  have right : List.Forall₂ (fun y x => y ∈ ys ∧ R x y) ys xs :=
    (List.forall₂_and_left _ _).mpr ⟨fun _ hy => hy, h.flip⟩
  exact (List.forall₂_and_left _ _).mpr ⟨fun _ hx => hx, right.flip⟩

theorem exists_forall₂_iff {γ : Type} {R : α → β → Prop} {S : β → γ → Prop} {xs : List α}
    {zs : List γ} :
    (∃ ys, List.Forall₂ R xs ys ∧ List.Forall₂ S ys zs) ↔
      List.Forall₂ (fun x z => ∃ y, R x y ∧ S y z) xs zs := by
  constructor
  · rintro ⟨ys, first, next⟩
    induction first generalizing zs with
    | nil =>
      obtain rfl := List.forall₂_nil_left_iff.mp next
      exact .nil
    | cons h _ ih =>
      obtain ⟨z, zs, hz, rest, rfl⟩ := List.forall₂_cons_left_iff.mp next
      exact .cons ⟨_, h, hz⟩ (ih rest)
  · intro both
    induction both with
    | nil => exact ⟨[], .nil, .nil⟩
    | cons h _ ih =>
      obtain ⟨y, hx, hz⟩ := h
      obtain ⟨ys, first, next⟩ := ih
      exact ⟨y :: ys, .cons hx first, .cons hz next⟩

/-- Where one element `a` can only go with `b`, they go in at the same place of two lists. -/
theorem forall₂_insertIdx_iff {R : α → β → Prop} {a : α} {b : β} (only : ∀ y, R a y ↔ y = b)
    {i : Nat} {xs : List α} {ys : List β} (inside : i ≤ xs.length) :
    List.Forall₂ R (xs.insertIdx i a) ys ↔
      ∃ zs, List.Forall₂ R xs zs ∧ ys = zs.insertIdx i b := by
  induction i generalizing xs ys with
  | zero => simp [List.forall₂_cons_left_iff, only]
  | succ i ih =>
    cases xs with
    | nil => contradiction
    | cons x xs =>
      simp only [List.insertIdx_succ_cons, List.forall₂_cons_left_iff,
        ih (Nat.le_of_succ_le_succ inside)]
      constructor
      · rintro ⟨y, _, hx, ⟨zs, rest, rfl⟩, rfl⟩
        exact ⟨_, ⟨y, zs, hx, rest, rfl⟩, rfl⟩
      · rintro ⟨_, ⟨y, zs, hx, rest, rfl⟩, rfl⟩
        exact ⟨y, _, hx, ⟨zs, rest, rfl⟩, rfl⟩

/-- A computation that succeeds with a result in `Q`, or fails for a cause in `E`. -/
inductive Ends (E : ε → Prop) (Q : α → Prop) : Except ε α → Prop
  | ok {a : α} (h : Q a) : Ends E Q (.ok a)
  | error {e : ε} (h : E e) : Ends E Q (.error e)

namespace Ends

variable {E E' : ε → Prop} {Q Q' : α → Prop} {P : β → Prop} {x : Except ε α}

theorem bind {f : α → Except ε β} (h : Ends E Q x) (next : ∀ a, Q a → Ends E P (f a)) :
    Ends E P (x >>= f) := by
  cases h with
  | ok h => exact next _ h
  | error h => exact .error h

theorem imp (h : Ends E Q x) (hE : ∀ e, E e → E' e) (hQ : ∀ a, Q a → Q' a) : Ends E' Q' x := by
  cases h with
  | ok h => exact .ok (hQ _ h)
  | error h => exact .error (hE _ h)

theorem of_error {e : ε} (h : Ends E Q (.error e : Except ε α)) : E e := by
  cases h with
  | error h => exact h

theorem of_ok {a : α} (h : Ends E Q (.ok a : Except ε α)) : Q a := by
  cases h with
  | ok h => exact h

end Ends

/-- Two computations that succeed together with results in `R`, or fail together with causes
in `E`. -/
inductive Lockstep (E : ε → ε' → Prop) (R : α → α' → Prop) : Except ε α → Except ε' α' → Prop
  | ok {a : α} {a' : α'} (h : R a a') : Lockstep E R (.ok a) (.ok a')
  | error {e : ε} {e' : ε'} (h : E e e') : Lockstep E R (.error e) (.error e')

namespace Lockstep

variable {E : ε → ε' → Prop} {R : α → α' → Prop} {S : β → β' → Prop}

theorem bind {x : Except ε α} {x' : Except ε' α'} {f : α → Except ε β} {f' : α' → Except ε' β'}
    (h : Lockstep E R x x') (next : ∀ a a', R a a' → Lockstep E S (f a) (f' a')) :
    Lockstep E S (x >>= f) (x' >>= f') := by
  cases h with
  | ok h => exact next _ _ h
  | error h => exact .error h

theorem refl {E : ε → ε → Prop} {R : α → α → Prop} (hE : ∀ e, E e e) (hR : ∀ a, R a a)
    (x : Except ε α) : Lockstep E R x x := by
  cases x with
  | ok a => exact .ok (hR a)
  | error e => exact .error (hE e)

theorem imp {E' : ε → ε' → Prop} {R' : α → α' → Prop} {x : Except ε α} {x' : Except ε' α'}
    (h : Lockstep E R x x') (hE : ∀ e e', E e e' → E' e e') (hR : ∀ a a', R a a' → R' a a') :
    Lockstep E' R' x x' := by
  cases h with
  | ok h => exact .ok (hR _ _ h)
  | error h => exact .error (hE _ _ h)

theorem exists_ok {a : α} {x' : Except ε' α'} (h : Lockstep E R (.ok a) x') :
    ∃ a', x' = .ok a' ∧ R a a' := by
  cases h with
  | ok h => exact ⟨_, rfl, h⟩

end Lockstep

end Worksheet
