import Mathlib.Data.List.Perm.Subperm
import Worksheet.Scope

/-!
Equal scopes. Where each key is bound once, and binding keeps it so, scopes are equal if the same
keys have values that are equal as numbers, whatever the order in which they were bound
(`Scope.beq_iff`).
-/

set_option autoImplicit false
set_option relaxedAutoImplicit false

namespace Worksheet

namespace Bindings

variable {α : Type} [DecidableEq α] {bs cs : Bindings α} {k l : α} {v : Float}

def keys (bs : Bindings α) : List α := bs.map Prod.fst

private theorem mem_keys_iff : k ∈ bs.keys ↔ ∃ v, bs.get? k = some v := by
  induction bs with
  | nil => simp [keys]
  | cons b bs ih =>
    rw [get?_cons, keys, List.map_cons, List.mem_cons]
    split
    · next h => exact ⟨fun _ => ⟨b.2, rfl⟩, fun _ => .inl h.symm⟩
    · next h => rw [← ih]; exact or_iff_right (Ne.symm h)

private theorem mem_of_get? (h : bs.get? k = some v) : (k, v) ∈ bs := by
  obtain ⟨b, found, rfl⟩ := Option.map_eq_some_iff.mp h
  have key : b.1 = k := by simpa using List.find?_some found
  exact key ▸ List.mem_of_find?_eq_some found

private theorem get?_of_mem (once : bs.keys.Nodup) (h : (k, v) ∈ bs) : bs.get? k = some v := by
  induction bs with
  | nil => contradiction
  | cons b bs ih =>
    obtain ⟨fresh, once⟩ := List.nodup_cons.mp once
    rw [get?_cons]
    rcases List.mem_cons.mp h with rfl | h
    · exact if_pos rfl
    · have other : b.1 ≠ k := fun same => fresh (same ▸ List.mem_map_of_mem h)
      rw [if_neg other, ih once h]

private theorem mem_keys_put : l ∈ (put k v bs).keys ↔ k = l ∨ l ∈ bs.keys := by
  rw [mem_keys_iff, mem_keys_iff, get?_put]
  by_cases h : k = l <;> simp [h]

private theorem nodup_keys_put (once : bs.keys.Nodup) : (put k v bs).keys.Nodup := by
  induction bs with
  | nil => simp [put, keys]
  | cons b bs ih =>
    obtain ⟨fresh, once'⟩ := List.nodup_cons.mp once
    rw [put]
    split
    · next h => exact h ▸ once
    · next h =>
      refine List.nodup_cons.mpr ⟨fun inside => ?_, ih once'⟩
      exact (mem_keys_put.mp inside).elim (fun same => h same.symm) fresh

private theorem nodup_keys_ofList (bs : List (α × Float)) : (ofList bs).keys.Nodup := by
  have step : ∀ (bs : List (α × Float)) (done : Bindings α), done.keys.Nodup →
      (bs.foldl (fun acc b => put b.1 b.2 acc) done).keys.Nodup := by
    intro bs
    induction bs with
    | nil => exact fun _ once => once
    | cons b bs ih => exact fun _ once => ih _ (nodup_keys_put once)
  exact step bs [] List.nodup_nil

theorem same_iff (once : bs.keys.Nodup) (once' : cs.keys.Nodup) :
    same bs cs = true ↔
      ∀ k, Option.Rel (fun v w => (v == w) = true) (bs.get? k) (cs.get? k) := by
  rw [same, Bool.and_eq_true, beq_iff_eq, List.all_eq_true]
  constructor
  · rintro ⟨length, equal⟩ k
    have found {k : α} {v : Float} (h : bs.get? k = some v) :
        ∃ w, cs.get? k = some w ∧ (v == w) = true := by
      have any := equal _ (mem_of_get? h)
      rwa [Option.any_eq_true] at any
    have sub : bs.keys ⊆ cs.keys := by
      intro k hk
      obtain ⟨v, hv⟩ := mem_keys_iff.mp hk
      obtain ⟨w, hw, -⟩ := found hv
      exact mem_keys_iff.mpr ⟨w, hw⟩
    have perm : bs.keys.Perm cs.keys :=
      (List.subperm_of_subset once sub).perm_of_length_le (by simp [keys, length])
    cases hv : bs.get? k with
    | some v =>
      obtain ⟨w, hw, equal⟩ := found hv
      exact hw ▸ .some equal
    | none =>
      cases hw : cs.get? k with
      | none => exact .none
      | some w =>
        obtain ⟨v, hv'⟩ := mem_keys_iff.mp (perm.mem_iff.mpr (mem_keys_iff.mpr ⟨w, hw⟩))
        rw [hv] at hv'
        contradiction
  · intro equal
    have perm : bs.keys.Perm cs.keys := by
      refine (List.perm_ext_iff_of_nodup once once').mpr fun k => ?_
      rw [mem_keys_iff, mem_keys_iff]
      have values := equal k
      generalize bs.get? k = x, cs.get? k = y at values
      cases values <;> simp
    refine ⟨by simpa [keys] using perm.length_eq, ?_⟩
    rintro ⟨k, v⟩ hb
    have values := equal k
    rw [get?_of_mem once hb] at values
    generalize cs.get? k = y at values ⊢
    cases values with
    | some equal => exact equal

end Bindings

namespace Scope

/-- Scopes that bind each variable and each line once. -/
structure Distinct (s : Scope) : Prop where
  vars : s.vars.keys.Nodup
  lines : s.lines.keys.Nodup

theorem distinct_ofList (vars : List (String × Float)) (lines : List (Int × Float)) :
    Distinct ⟨Bindings.ofList vars, Bindings.ofList lines⟩ :=
  ⟨Bindings.nodup_keys_ofList vars, Bindings.nodup_keys_ofList lines⟩

theorem Distinct.bind {s : Scope} (h : s.Distinct) (name : String) (v : Float) :
    (s.bind name v).Distinct :=
  ⟨Bindings.nodup_keys_put h.vars, h.lines⟩

theorem beq_iff {s t : Scope} (hs : s.Distinct) (ht : t.Distinct) :
    (s == t) = true ↔
      (∀ name, Option.Rel (fun v w => (v == w) = true) (s.variableValue? name)
        (t.variableValue? name)) ∧
      ∀ k, Option.Rel (fun v w => (v == w) = true) (s.lineValue? k) (t.lineValue? k) :=
  Bool.and_eq_true_iff.trans
    (and_congr (Bindings.same_iff hs.vars ht.vars) (Bindings.same_iff hs.lines ht.lines))

end Scope

end Worksheet
