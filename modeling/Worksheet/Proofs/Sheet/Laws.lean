import Mathlib.Data.List.InsertIdx
import Worksheet.Proofs.Sheet.Insert
import Worksheet.Proofs.Sheet.Remove

/-!
Edits one after the other. Putting in and taking out a line undo each other (`insert_remove_undo`):
the numbers come back since opening a gap and closing it are inverse to each other, and the digits
come back where they were canonical, as a number that moves is written anew. Two lines can be put in
in either order (`insert_comm`), since the gaps can be opened in either order (`openGap_openGap`).
-/

set_option autoImplicit false
set_option relaxedAutoImplicit false

namespace Worksheet

/-! ## Undoing -/

/-- Whether the references of a text to lines from number `n` on are canonical numerals. -/
def CanonicalFrom (n : Nat) (text : String) : Prop :=
  ∀ x ∈ lexemes text, ∀ k ∈ x.reference?, n ≤ k → Numeral.Canonical x.text.toList

instance (n : Nat) (text : String) : Decidable (CanonicalFrom n text) :=
  decidable_of_iff (∀ x ∈ lexemes text, x.reference?.any (n ≤ ·) = true →
    Numeral.Canonical x.text.toList) (by simp [CanonicalFrom, Option.any_eq_true])

private theorem openGap_undo {c : Nat} {text text' : String}
    (canonical : CanonicalFrom (c + 1) text)
    (h : renumber (fun k => openGap c k) text = .ok text') :
    renumber (fun k => closeGap c k) text' = .ok text := by
  refine renumber_undo (fun k _ => closeGap_openGap c k) (fun x hx k hk moved => ?_) h
  refine canonical x hx k hk ?_
  unfold openGap at moved
  split at moved <;> omega

private theorem closeGap_undo {c : Nat} {text text' : String}
    (unreferenced : c + 1 ∉ lineReferences text) (canonical : CanonicalFrom (c + 2) text)
    (h : renumber (fun k => closeGap c k) text = .ok text') :
    renumber (fun k => openGap c k) text' = .ok text := by
  have other : ∀ k ∈ lineReferences text, openGap c (closeGap c k) = k := fun k hk =>
    openGap_closeGap fun same => unreferenced (same ▸ hk)
  refine renumber_undo other (fun x hx k hk moved => ?_) h
  refine canonical x hx k hk ?_
  unfold closeGap at moved
  split at moved <;> omega

namespace Sheet

/-- A line that was put in and is taken out again leaves the sheet as it was, where the numbers that
had to move were canonical. So does a line that was taken out and is put in again, if no other line
referred to it. -/
theorem insert_remove_undo {s : Sheet} (reachable : Reachable s) :
    (∀ index text s', (∀ old ∈ s.inputs, CanonicalFrom (s.insertPlace index + 1) old) →
      s.insert index text = .ok s' → s'.remove (s.insertPlace index) = .ok s) ∧
    ∀ (i : Nat) text, s.inputs[i]? = some text →
      (∀ other ∈ s.inputs.eraseIdx i,
        i + 1 ∉ lineReferences other ∧ CanonicalFrom (i + 2) other) →
      ∃ s', s.remove i = .ok s' ∧ s'.insert i text = .ok s := by
  have restored := reachable.ofInputs_inputs
  constructor
  · intro index text s' canonical done
    obtain ⟨others, moved, rfl⟩ := insert_eq_ok_iff.mp done
    have place : s.insertPlace index ≤ others.length := by
      rw [← moved.length_eq, length_inputs]
      exact Nat.min_le_right _ _
    generalize s.insertPlace index = c at canonical moved place ⊢
    have inside : c < (ofInputs (others.insertIdx c text)).size := by
      simp [List.length_insertIdx_of_le_length place, Nat.lt_succ_of_le place]
    refine (remove_eq_ok_iff inside).mpr ⟨s.inputs, ?_, restored.symm⟩
    rw [inputs_ofInputs, List.eraseIdx_insertIdx_self]
    exact ((forall₂_mem moved).imp fun old new h => openGap_undo (canonical old h.1) h.2.2).flip
  · intro i text line unmet
    obtain ⟨inside, rfl⟩ := List.getElem?_eq_some_iff.mp line
    obtain ⟨others, done, moved⟩ := exists_remove_eq_ok (length_inputs s ▸ inside)
    have length := moved.length_eq
    rw [List.length_eraseIdx_of_lt inside] at length
    have place : (ofInputs others).insertPlace i = i := by
      rw [insertPlace, size_ofInputs, Int.toNat_natCast]
      omega
    refine ⟨_, done, insert_eq_ok_iff.mpr ⟨s.inputs.eraseIdx i, ?_, ?_⟩⟩
    · rw [place, inputs_ofInputs]
      exact ((forall₂_mem moved).imp fun old new h =>
        closeGap_undo (unmet old h.1).1 (unmet old h.1).2 h.2.2).flip
    · rw [place, List.insertIdx_eraseIdx_getElem inside, restored]

theorem insert_remove_undo_unreferenced :
    (ofInputs ["1", "# note", "2", "$x = $01", "$4 * $x"]).remove 1 =
        .ok (ofInputs ["1", "2", "$x = $01", "$3 * $x"]) ∧
      ∃ s', (ofInputs ["1", "2", "$x = $01", "$3 * $x"]).remove 1 = .ok s' ∧
        s'.insert 1 "2" = .ok (ofInputs ["1", "2", "$x = $01", "$3 * $x"]) := by
  have undo := insert_remove_undo (.ofInputs ["1", "2", "$x = $01", "$3 * $x"])
  have place : (ofInputs ["1", "2", "$x = $01", "$3 * $x"]).insertPlace 1 = 1 := by decide +kernel
  rw [inputs_ofInputs] at undo
  constructor
  · have canonical : ∀ old ∈ ["1", "2", "$x = $01", "$3 * $x"], CanonicalFrom 2 old := by
      decide +kernel
    have done : (ofInputs ["1", "2", "$x = $01", "$3 * $x"]).insert 1 "# note" =
        .ok (ofInputs ["1", "# note", "2", "$x = $01", "$4 * $x"]) := by
      decide +kernel
    have back := undo.1 1 "# note" _ (place ▸ canonical) done
    rwa [place] at back
  · have unmet : ∀ other ∈ ["1", "$x = $01", "$3 * $x"],
        1 + 1 ∉ lineReferences other ∧ CanonicalFrom 3 other := by
      decide +kernel
    exact undo.2 1 "2" rfl unmet

end Sheet

/-! ## Two lines in either order -/

theorem openGap_openGap {c d : Nat} (h : c ≤ d) (k : Nat) :
    openGap (d + 1) (openGap c k) = openGap c (openGap d k) := by
  simp only [openGap]
  split_ifs <;> omega

private theorem le_openGap (c k : Nat) : k ≤ openGap c k := by
  unfold openGap
  split <;> omega

private theorem renumber_openGap_bind (c d : Nat) (text : String) :
    (renumber (fun k => openGap c k) text >>= renumber fun k => openGap d k) =
      renumber (fun k => openGap d (openGap c k)) text :=
  renumber_bind (le_openGap c) (le_openGap d) text

private theorem forall₂_renumber_insertIdx {g : Nat → Nat} {a : String} {i : Nat}
    {olds news : List String} (plain : ∀ t ∈ scan a, t.kind ≠ .lineRef) (inside : i ≤ olds.length) :
    List.Forall₂ (fun old new => renumber (fun k => g k) old = .ok new) (olds.insertIdx i a) news ↔
      ∃ others, List.Forall₂ (fun old new => renumber (fun k => g k) old = .ok new) olds others ∧
        news = others.insertIdx i a := by
  have none : lineReferences a = [] := List.filterMap_eq_nil_iff.mpr fun t ht => by
    rw [Lexeme.reference?, if_neg (plain t ht)]
  have same : renumber (fun k => g k) a = .ok a := renumber_eq_self (by simp [none])
  refine forall₂_insertIdx_iff (fun new => ?_) inside
  rw [same, Except.ok.injEq, eq_comm]

namespace Sheet

private theorem insertPlace_of_le {s : Sheet} {c : Nat} (h : c ≤ s.size) : s.insertPlace c = c := by
  rw [insertPlace, Int.toNat_natCast, Nat.min_eq_left h]

private theorem insert_bind_eq_ok_iff {s s' : Sheet} {c d : Nat} {a b : String} (hc : c ≤ s.size)
    (hd : d ≤ s.size + 1) (plain : ∀ t ∈ scan a, t.kind ≠ .lineRef) :
    (s.insert c a >>= fun t => t.insert d b) = .ok s' ↔
      ∃ others, List.Forall₂ (fun old new =>
          renumber (fun k => openGap d (openGap c k)) old = .ok new) s.inputs others ∧
        s' = ofInputs ((others.insertIdx c a).insertIdx d b) := by
  simp only [← renumber_openGap_bind, bind_eq_ok_iff, ← exists_forall₂_iff]
  have next {others : List String} (length : others.length = s.size) :
      (ofInputs (others.insertIdx c a)).insert d b = .ok s' ↔
        ∃ more, List.Forall₂ (fun old new => renumber (fun k => openGap d k) old = .ok new)
            others more ∧
          s' = ofInputs ((more.insertIdx c a).insertIdx d b) := by
    have inside : c ≤ others.length := length ▸ hc
    have place : (ofInputs (others.insertIdx c a)).insertPlace d = d := insertPlace_of_le <| by
      rw [size_ofInputs, List.length_insertIdx_of_le_length inside, length]
      exact hd
    simp only [insert_eq_ok_iff, place, inputs_ofInputs, forall₂_renumber_insertIdx plain inside]
    constructor
    · rintro ⟨_, ⟨more, moved, rfl⟩, rfl⟩
      exact ⟨more, moved, rfl⟩
    · rintro ⟨more, moved, rfl⟩
      exact ⟨_, ⟨more, moved, rfl⟩, rfl⟩
  constructor
  · rintro ⟨t, first, second⟩
    obtain ⟨others, moved, rfl⟩ := insert_eq_ok_iff.mp first
    rw [insertPlace_of_le hc] at moved second
    obtain ⟨more, moved', rfl⟩ :=
      (next (moved.length_eq.symm.trans (length_inputs s))).mp second
    exact ⟨more, ⟨others, moved, moved'⟩, rfl⟩
  · rintro ⟨more, ⟨others, moved, moved'⟩, rfl⟩
    refine ⟨ofInputs (others.insertIdx c a), insert_eq_ok_iff.mpr ⟨others, ?_, ?_⟩,
      (next (moved.length_eq.symm.trans (length_inputs s))).mpr ⟨more, moved', rfl⟩⟩
    · rwa [insertPlace_of_le hc]
    · rw [insertPlace_of_le hc]

/-- Two lines that refer to no line are put in in either order: where one order ends in a sheet, so
does the other, in the same one. -/
theorem insert_comm (s : Sheet) {i j : Nat} (order : i ≤ j) (inside : j ≤ s.size) {a b : String}
    (plain : ∀ t ∈ scan a, t.kind ≠ .lineRef) (plain' : ∀ t ∈ scan b, t.kind ≠ .lineRef) :
    (s.insert i a >>= fun t => t.insert (j + 1 : Nat) b) =
      (s.insert j b >>= fun t => t.insert i a) := by
  refine except_ext fun s' => ?_
  rw [insert_bind_eq_ok_iff (order.trans inside) (Nat.succ_le_succ inside) plain,
    insert_bind_eq_ok_iff inside (by omega) plain']
  simp only [openGap_openGap order]
  refine exists_congr fun others => and_congr_right fun moved => ?_
  rw [List.insertIdx_comm a b order (by rw [← moved.length_eq, length_inputs]; exact inside)]

theorem insert_comm_around :
    ((ofInputs ["2", "$01 * $007", "$٢ + $9"]).insert 1 "# rate" >>= fun t => t.insert 3 "5") =
        .ok (ofInputs ["2", "# rate", "$01 * $9", "5", "$3 + $11"]) ∧
      ((ofInputs ["2", "$01 * $007", "$٢ + $9"]).insert 2 "5" >>= fun t => t.insert 1 "# rate") =
        .ok (ofInputs ["2", "# rate", "$01 * $9", "5", "$3 + $11"]) := by
  have plain : ∀ t ∈ scan "# rate", t.kind ≠ .lineRef := by decide +kernel
  have plain' : ∀ t ∈ scan "5", t.kind ≠ .lineRef := by decide +kernel
  have inside : 2 ≤ (ofInputs ["2", "$01 * $007", "$٢ + $9"]).size := by decide +kernel
  have done : ((ofInputs ["2", "$01 * $007", "$٢ + $9"]).insert 1 "# rate" >>= fun t =>
      t.insert 3 "5") = .ok (ofInputs ["2", "# rate", "$01 * $9", "5", "$3 + $11"]) := by
    decide +kernel
  have same := insert_comm (ofInputs ["2", "$01 * $007", "$٢ + $9"]) (i := 1) (by decide) inside
    plain plain'
  exact ⟨done, same.symm.trans done⟩

end Sheet

end Worksheet
