import Worksheet.Proofs.Sheet.Pass

/-!
The sheets that edits lead to. They are the ends of runs (`reachable_iff`), and each is worked out
anew from its texts (`Reachable.exists_eq_ofInputs`).
-/

set_option autoImplicit false
set_option relaxedAutoImplicit false

namespace Worksheet.Sheet

/-- A sheet without lines, one of some texts, and what edits make of them. An edit that is refused
leaves the sheet as it was. -/
inductive Reachable : Sheet → Prop
  | empty : Reachable empty
  | ofInputs (texts : List String) : Reachable (ofInputs texts)
  | apply {s s' : Sheet} {edit : Edit} (h : Reachable s) (done : s.apply edit = .ok s') :
      Reachable s'

private theorem cleared_eq_ofInputs : cleared = ofInputs [""] := rfl

theorem apply_eq_ok {s s' : Sheet} {edit : Edit} (done : s.apply edit = .ok s') :
    s' = s ∨ ∃ texts, s' = ofInputs texts := by
  cases edit with
  | evaluate inputs => exact .inr ⟨_, (Except.ok.inj done).symm⟩
  | update index text =>
    rw [Sheet.apply] at done
    split at done
    · contradiction
    · obtain rfl := Except.ok.inj done
      unfold update
      split
      · exact .inl rfl
      · exact .inr ⟨_, rfl⟩
  | insert index text =>
    obtain ⟨others, -, done⟩ := exists_ok_of_bind (mapError_eq_ok_iff.mp done)
    exact .inr ⟨_, (Except.ok.inj done).symm⟩
  | remove index =>
    rw [Sheet.apply, mapError_eq_ok_iff, remove] at done
    split at done
    · exact .inl (Except.ok.inj done).symm
    · obtain ⟨others, -, done⟩ := exists_ok_of_bind done
      exact .inr ⟨_, (Except.ok.inj done).symm⟩
  | append text => exact .inr ⟨_, (Except.ok.inj done).symm⟩
  | clear => exact .inr ⟨[""], (Except.ok.inj done).symm.trans cleared_eq_ofInputs⟩

theorem Reachable.exists_eq_ofInputs {s : Sheet} (h : Reachable s) :
    ∃ texts, s = Sheet.ofInputs texts := by
  induction h with
  | empty => exact ⟨[], rfl⟩
  | ofInputs texts => exact ⟨texts, rfl⟩
  | apply _ done ih =>
    rcases apply_eq_ok done with rfl | worked
    · exact ih
    · exact worked

theorem Reachable.ofInputs_inputs {s : Sheet} (h : Reachable s) : Sheet.ofInputs s.inputs = s := by
  obtain ⟨texts, rfl⟩ := h.exists_eq_ofInputs
  simp

/-! ## Runs -/

def after (s : Sheet) (edit : Edit) : Sheet :=
  match s.apply edit with
  | .ok s' => s'
  | .error _ => s

def run (s : Sheet) (edits : List Edit) : Sheet := edits.foldl after s

def built (texts : Option (List String)) : Sheet := texts.elim Sheet.empty Sheet.ofInputs

theorem Reachable.after {s : Sheet} (h : Reachable s) (edit : Edit) : Reachable (s.after edit) := by
  unfold Sheet.after
  split
  · next done => exact h.apply done
  · exact h

theorem Reachable.run {s : Sheet} (h : Reachable s) (edits : List Edit) :
    Reachable (s.run edits) := by
  induction edits generalizing s with
  | nil => exact h
  | cons edit edits ih => exact ih (h.after edit)

theorem reachable_built (texts : Option (List String)) : Reachable (built texts) := by
  cases texts with
  | none => exact .empty
  | some texts => exact .ofInputs texts

theorem reachable_iff {s : Sheet} :
    Reachable s ↔ ∃ texts edits, s = (built texts).run edits := by
  constructor
  · intro h
    induction h with
    | empty => exact ⟨none, [], rfl⟩
    | ofInputs texts => exact ⟨some texts, [], rfl⟩
    | @apply s s' edit _ done ih =>
      obtain ⟨texts, edits, rfl⟩ := ih
      have step : s' = ((built texts).run edits).after edit := by rw [Sheet.after, done]
      exact ⟨texts, edits ++ [edit], by rw [step, Sheet.run, Sheet.run, List.foldl_append]; rfl⟩
  · rintro ⟨texts, edits, rfl⟩
    exact (reachable_built texts).run edits

end Worksheet.Sheet
