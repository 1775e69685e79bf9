import Worksheet.Proofs.Sheet.Gap
import Worksheet.Proofs.Sheet.Reachable

/-!
Putting in a line. If it binds no variable, the rest of the sheet does not notice
(`insert_keptAround`).
-/

set_option autoImplicit false
set_option relaxedAutoImplicit false

namespace Worksheet.Sheet

def insertPlace (s : Sheet) (index : Int) : Nat := min index.toNat s.size

/-- A sheet beside what it becomes around a new line in place `c`. Old lines keep their outcomes,
and none of them refers to the new line; variables stay as they are, and the values of lines move
along with them. -/
structure KeptAround (c : Nat) (s s' : Sheet) : Prop where
  size : s'.size = s.size + 1
  line : ∀ j l, s.lines[j]? = some l → ∃ l', s'.lines[if j < c then j else j + 1]? = some l' ∧
    l.outcome.Agrees l'.outcome ∧ c + 1 ∉ lineReferences l'.input
  vars : s'.scope.vars = s.scope.vars
  above : ∀ k : Int, k ≤ c → s'.scope.lineValue? k = s.scope.lineValue? k
  below : ∀ k : Int, c + 1 ≤ k → s'.scope.lineValue? (k + 1) = s.scope.lineValue? k

theorem insert_eq_ok_iff {s s' : Sheet} {index : Int} {text : String} :
    s.insert index text = .ok s' ↔
      ∃ others, List.Forall₂ (fun old new =>
          renumber (fun k => openGap (s.insertPlace index) k) old = .ok new) s.inputs others ∧
        s' = ofInputs (others.insertIdx (s.insertPlace index) text) := by
  have shift : shiftForInsert (min index.toNat s.size + 1 : Nat) =
      renumber fun k => openGap (s.insertPlace index) k :=
    funext fun old => shiftForInsert_eq _ old
  rw [insert, shift, bind_eq_ok_iff]
  refine exists_congr fun others => and_congr (mapM_eq_ok_iff _ _ _) ?_
  exact ⟨fun done => (Except.ok.inj done).symm, fun same => congrArg Except.ok same.symm⟩

private theorem exists_of_insert {texts : List String} {index : Int} {text : String} {s' : Sheet}
    (done : (ofInputs texts).insert index text = .ok s') :
    ∃ others, List.Forall₂ (TextRenumbered (openGap ((ofInputs texts).insertPlace index))) texts
        others ∧
      s' = ofInputs (others.insertIdx ((ofInputs texts).insertPlace index) text) := by
  obtain ⟨others, moved, rfl⟩ := insert_eq_ok_iff.mp done
  rw [inputs_ofInputs] at moved
  exact ⟨others, moved.imp fun _ _ => textRenumbered_of_renumber, rfl⟩

private theorem keptAround_of_gap {c : Nat} {s s' : Sheet} (size : s'.size = s.size + 1)
    (lines : List.Forall₂ (Line.Moved (openGap c)) s.lines (s'.lines.eraseIdx c))
    (scopes : Beside (openGap c) s.scope s'.scope) : KeptAround c s s' where
  size := size
  line j l hl := by
    obtain ⟨l', hl', moved⟩ := exists_getElem?_of_forall₂ lines hl
    refine ⟨l', ?_, moved.outcome, ?_⟩
    · rw [List.getElem?_eraseIdx] at hl'
      split <;> simpa [*] using hl'
    · rw [moved.input.lineReferences]
      simp [openGap_ne]
  vars := scopes.vars
  above _ hk := scopes.lineValue?_of_le hk
  below _ hk := scopes.lineValue?_of_lt (by omega)

/-- A line that binds no variable is put in without a trace in the rest of the sheet, and its number
has a value exactly when it has one. -/
theorem insert_keptAround {s s' : Sheet} {index : Int} {text : String} (reachable : Reachable s)
    (room : (s.size : Int) < maxLine) (computes : ∀ x e, parseText text ≠ .tree (.assign x e))
    (done : s.insert index text = .ok s') :
    KeptAround (s.insertPlace index) s s' ∧
      ∃ l, s'.lines[s.insertPlace index]? = some l ∧ l.input = text ∧
        ∀ v, s'.scope.lineValue? (s.insertPlace index + 1) = some v ↔ l.outcome = .value v := by
  obtain ⟨texts, rfl⟩ := reachable.exists_eq_ofInputs
  obtain ⟨others, renumbered, rfl⟩ := exists_of_insert done
  have inside : (ofInputs texts).insertPlace index ≤ others.length := by
    rw [← renumbered.length_eq, ← size_ofInputs texts]
    exact Nat.min_le_right _ _
  generalize (ofInputs texts).insertPlace index = c at renumbered inside ⊢
  rw [size_ofInputs, renumbered.length_eq] at room
  have length : (others.insertIdx c text).length = others.length + 1 :=
    List.length_insertIdx_of_le_length inside text
  have input : (others.insertIdx c text)[c]? = some text := by
    rw [List.getElem?_insertIdx_self, if_pos inside]
  have line := lines_getElem?_ofInputs (others.insertIdx c text) c
  rw [input, Option.map_some] at line
  have others_moved : List.Forall₂ (TextRenumbered (openGap c)) texts
      ((others.insertIdx c text).eraseIdx c) := by
    rw [List.eraseIdx_insertIdx_self]
    exact renumbered
  obtain ⟨lines, scopes⟩ := beside_of_gap (by omega) others_moved (by omega) fun l hl v _ => by
    obtain rfl := Option.some.inj (line.symm.trans hl)
    exact assigned?_eq_none computes
  have size : (ofInputs (others.insertIdx c text)).size = (ofInputs texts).size + 1 := by
    simp [length, renumbered.length_eq]
  refine ⟨keptAround_of_gap size lines scopes, _, line, rfl, fun v => ?_⟩
  have value := lineValue?_eq_some (visible_ofInputs (others.insertIdx c text)) c v
  rw [Int.natCast_add_one, line] at value
  rw [value]
  constructor
  · rintro ⟨-, m, hm, found⟩
    exact Option.some.inj hm ▸ found
  · exact fun found => ⟨by omega, _, rfl, found⟩

theorem insert_comment_keptAround :
    KeptAround 1 (ofInputs ["2", "$1 * 3", "$2"]) (ofInputs ["2", "# cost", "$1 * 3", "$3"]) ∧
      ∃ l, (ofInputs ["2", "# cost", "$1 * 3", "$3"]).lines[1]? = some l ∧ l.input = "# cost" ∧
        ∀ v, (ofInputs ["2", "# cost", "$1 * 3", "$3"]).scope.lineValue? (1 + 1) = some v ↔
          l.outcome = .value v := by
  have place : (ofInputs ["2", "$1 * 3", "$2"]).insertPlace 1 = 1 := by decide +kernel
  have room : ((ofInputs ["2", "$1 * 3", "$2"]).size : Int) < maxLine := by decide +kernel
  have refused : parseText "# cost" = .refused (.invalid "#") 0 := by decide +kernel
  have done : (ofInputs ["2", "$1 * 3", "$2"]).insert 1 "# cost" =
      .ok (ofInputs ["2", "# cost", "$1 * 3", "$3"]) := by decide +kernel
  have kept := insert_keptAround (.ofInputs _) room (by simp [refused]) done
  rwa [place] at kept

end Worksheet.Sheet
