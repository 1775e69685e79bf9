import Worksheet.Proofs.Sheet.Meaning
import Worksheet.Proofs.Sheet.Reachable

/-!
Sheets under edits. However a sheet is built and whatever edits follow, also those that are refused,
its lines, their outcomes and its scope agree with each other and with its texts (`run_coherent`).
-/

set_option autoImplicit false
set_option relaxedAutoImplicit false

namespace Worksheet

structure Scope.Finite (s : Scope) : Prop where
  vars : ∀ b ∈ s.vars, b.2.isFinite = true
  lines : ∀ b ∈ s.lines, b.2.isFinite = true

private theorem Bindings.mem_put {α : Type} [DecidableEq α] {k : α} {v : Float} {b : α × Float} :
    ∀ {bs : Bindings α}, b ∈ put k v bs → b = (k, v) ∨ b ∈ bs
  | [], h => .inl (List.mem_singleton.mp h)
  | c :: bs, h => by
    rw [put] at h
    split at h
    · exact (List.mem_cons.mp h).imp_right (List.mem_cons_of_mem c)
    · rcases List.mem_cons.mp h with rfl | h
      · exact .inr List.mem_cons_self
      · exact (mem_put h).imp_right (List.mem_cons_of_mem c)

namespace Scope.Finite

variable {s : Scope} {v : Float}

theorem bind (h : s.Finite) (name : String) (hv : v.isFinite = true) : (s.bind name v).Finite where
  vars _ hb := (Bindings.mem_put hb).elim (fun new => new ▸ hv) (h.vars _)
  lines := h.lines

theorem record (h : s.Finite) (number : Int) (hv : v.isFinite = true) :
    (s.record number v).Finite where
  vars := h.vars
  lines _ hb := (Bindings.mem_put hb).elim (fun new => new ▸ hv) (h.lines _)

private theorem assign (h : s.Finite) (target : Option String) (hv : v.isFinite = true) :
    (s.assign target v).Finite := by
  cases target with
  | none => exact h
  | some name => exact h.bind name hv

theorem after (h : s.Finite) (number : Nat) (text : String) (t : Scope) :
    (s.after number text (lineOutcome text t)).Finite := by
  cases outcome : lineOutcome text t with
  | value v =>
    have finite := isFinite_of_lineOutcome outcome
    exact (h.assign _ finite).record _ finite
  | failure why => exact h
  | blank => exact h

end Scope.Finite

namespace Sheet

/-- A sheet whose parts agree: the places of the lines, what comes of their texts, and what the
scope holds of them. -/
structure Coherent (s : Sheet) : Prop where
  place : ∀ (i : Nat) (l : Line), s.lines[i]? = some l → l.id = i ∧ l.position = i
  blank : ∀ l ∈ s.lines,
    l.outcome = .blank ↔ LineKind.ofText l.input = .blank ∨ LineKind.ofText l.input = .comment
  recorded : ∀ (k : Int) (v : Float), s.scope.lineValue? k = some v ↔
    ∃ l ∈ s.lines, (l.number : Int) = k ∧ l.outcome = .value v
  finite : s.scope.Finite
  again : ofInputs s.inputs = s

private theorem finite_ofInputs (texts : List String) : (ofInputs texts).scope.Finite := by
  induction texts using List.reverseRecOn with
  | nil => exact ⟨nofun, nofun⟩
  | append_singleton texts text ih =>
    rw [ofInputs_concat]
    exact ih.after _ text _

theorem coherent_ofInputs (texts : List String) : (ofInputs texts).Coherent where
  place i l hl := by
    obtain ⟨text, -, rfl⟩ := exists_text hl
    exact ⟨rfl, rfl⟩
  blank l hl := by
    obtain ⟨i, hi⟩ := List.mem_iff_getElem?.mp hl
    obtain ⟨text, -, rfl⟩ := exists_text hi
    rw [lineOutcome_eq_blank]
    cases LineKind.ofText text <;> simp
  recorded k v := by
    rw [(visible_ofInputs texts).line]
    constructor
    · rintro ⟨l, hl, hk, -, value⟩
      exact ⟨l, hl, hk, value⟩
    · rintro ⟨l, hl, hk, value⟩
      exact ⟨l, hl, hk, Nat.lt_succ_of_le (number_le hl).2, value⟩
  finite := finite_ofInputs texts
  again := congrArg ofInputs (inputs_ofInputs texts)

theorem coherent_built (texts : Option (List String)) : (built texts).Coherent := by
  cases texts with
  | none => exact coherent_ofInputs []
  | some texts => exact coherent_ofInputs texts

theorem Coherent.after {s : Sheet} (h : s.Coherent) (edit : Edit) : (s.after edit).Coherent := by
  unfold Sheet.after
  split
  · next s' done =>
    rcases apply_eq_ok done with rfl | ⟨texts, rfl⟩
    · exact h
    · exact coherent_ofInputs texts
  · exact h

theorem Coherent.run {s : Sheet} (h : s.Coherent) (edits : List Edit) :
    (s.run edits).Coherent := by
  induction edits generalizing s with
  | nil => exact h
  | cons edit edits ih => exact ih (h.after edit)

/-- A sheet is coherent however it was built and whatever edits followed. -/
theorem run_coherent (texts : Option (List String)) (edits : List Edit) :
    ((built texts).run edits).Coherent :=
  (coherent_built texts).run edits

end Sheet

end Worksheet
