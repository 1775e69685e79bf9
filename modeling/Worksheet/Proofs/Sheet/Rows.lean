import Worksheet.Proofs.Display
import Worksheet.Proofs.Sheet.Coherent

/-!
The text of a sheet. Something is shown for every outcome but a blank one
(`Outcome.display_eq_empty`), and in a sheet that can be reached those belong to blank texts and
comments; so every line that is worked out has a row with its outcome, and what is copied of a line
is the value in its row (`showLines_rows`).
-/

set_option autoImplicit false
set_option relaxedAutoImplicit false

namespace Worksheet

/-! ## Nothing is shown as nothing -/

private theorem showNumber_ne_empty (v : Float) : showNumber v ≠ "" := by
  by_cases finite : v.isFinite = true
  · intro empty
    exact (isNumeral_showNumber finite).1 (congrArg String.toList empty)
  · unfold showNumber
    dsimp only
    cases parts : Binary64.ofFloat v with
    | nan => decide
    | infinite negative => cases negative <;> decide
    | finite negative m q => exact absurd (Binary64.isFinite_iff.mpr ⟨_, _, _, parts⟩) finite

private theorem showMessage_ne_empty (message : String) : showMessage message ≠ "" := by
  unfold showMessage
  dsimp only
  split_ifs with known _ _ head
  · rintro rfl
    revert known
    decide
  · simp
  · simp
  · rintro rfl
    contradiction
  · decide

theorem Outcome.display_eq_empty {r : Outcome} : r.display = "" ↔ r = .blank := by
  cases r with
  | value v => exact iff_of_false (showNumber_ne_empty v) nofun
  | failure why => exact iff_of_false (showMessage_ne_empty why.message) nofun
  | blank => exact iff_of_true rfl rfl

/-! ## Rows -/

namespace Line

/-- The rows that a line may have: a comment its text alone, and an expression its text and what is
shown for its outcome, which is not nothing. -/
inductive Row (l : Line) : String → Prop
  | comment (kind : LineKind.ofText l.input = .comment) : Row l l.input
  | worked (kind : LineKind.ofText l.input = .expression) (some : l.outcome.display ≠ "") :
      Row l (l.input ++ " = " ++ l.outcome.display)

variable {l : Line}

private theorem row?_eq_none (kind : LineKind.ofText l.input = .blank) : l.row? = none := by
  rw [row?, kind]

private theorem exists_row (worked : l.outcome = .blank ↔
      LineKind.ofText l.input = .blank ∨ LineKind.ofText l.input = .comment)
    (some : LineKind.ofText l.input ≠ .blank) : ∃ row, l.row? = .some row ∧ l.Row row := by
  cases kind : LineKind.ofText l.input with
  | blank => exact absurd kind some
  | comment => exact ⟨l.input, by rw [row?, kind], .comment kind⟩
  | expression =>
    have shown : l.outcome.display ≠ "" := by simp [Outcome.display_eq_empty, worked, kind]
    refine ⟨_, ?_, .worked kind shown⟩
    rw [row?, kind]
    exact congrArg Option.some (if_neg shown)

end Line

private theorem forall₂_rows {lines : List Line} (worked : ∀ l ∈ lines, l.outcome = .blank ↔
      LineKind.ofText l.input = .blank ∨ LineKind.ofText l.input = .comment) :
    List.Forall₂ Line.Row (lines.filter fun l => LineKind.ofText l.input ≠ .blank)
      (lines.filterMap Line.row?) := by
  induction lines with
  | nil => exact .nil
  | cons l lines ih =>
    have rest := ih fun m hm => worked m (List.mem_cons_of_mem l hm)
    by_cases blank : LineKind.ofText l.input = .blank
    · rwa [List.filter_cons_of_neg (by simp [blank]),
        List.filterMap_cons_none (Line.row?_eq_none blank)]
    · obtain ⟨row, shown, hrow⟩ := Line.exists_row (worked l List.mem_cons_self) blank
      rw [List.filter_cons_of_pos (by simp [blank]), List.filterMap_cons_some shown]
      exact .cons hrow rest

/-! ## Copying -/

private theorem copyValue?_eq_some {lines : List Line} {index : Int} {text : String} :
    copyValue? lines index = some text ↔
      0 ≤ index ∧ ∃ l v, lines[index.toNat]? = some l ∧ l.outcome = .value v ∧
        l.outcome.display = text := by
  unfold copyValue?
  split
  · next before => exact iff_of_false nofun fun inside => absurd inside.1 (by omega)
  · next inside =>
    have inside : 0 ≤ index := by omega
    split
    · next line =>
      simp [inside, line, Outcome.display]
    · next none =>
      refine iff_of_false nofun ?_
      rintro ⟨-, ⟨id, position, input, outcome⟩, v, line, rfl, -⟩
      exact none id position input v line

namespace Sheet

/-- The text of a sheet has a row for each line that is not blank, and nothing is copied but the
value in the row of a line that has one. -/
theorem showLines_rows {s : Sheet} (reachable : Reachable s) :
    (∃ rows, showLines s.lines = "\n".intercalate rows ∧
        List.Forall₂ Line.Row (s.lines.filter fun l => LineKind.ofText l.input ≠ .blank) rows) ∧
      ∀ index : Int,
        (copyValue? s.lines index ≠ none ↔
          0 ≤ index ∧ ∃ l v, s.lines[index.toNat]? = some l ∧ l.outcome = .value v) ∧
        ∀ text, copyValue? s.lines index = some text →
          ∃ l, s.lines[index.toNat]? = some l ∧ l.Row (l.input ++ " = " ++ text) := by
  obtain ⟨texts, rfl⟩ := reachable.exists_eq_ofInputs
  have worked := (coherent_ofInputs texts).blank
  refine ⟨⟨_, rfl, forall₂_rows worked⟩, fun index => ⟨?_, fun text copied => ?_⟩⟩
  · rw [Option.ne_none_iff_exists']
    simp only [copyValue?_eq_some]
    constructor
    · rintro ⟨text, inside, l, v, line, value, -⟩
      exact ⟨inside, l, v, line, value⟩
    · rintro ⟨inside, l, v, line, value⟩
      exact ⟨_, inside, l, v, line, value, rfl⟩
  · obtain ⟨-, l, v, line, value, rfl⟩ := copyValue?_eq_some.mp copied
    have outcome : l.outcome ≠ .blank := by rw [value]; nofun
    have kind : LineKind.ofText l.input = .expression := by
      have other := mt (worked l (List.mem_of_getElem? line)).mpr outcome
      cases kind : LineKind.ofText l.input with
      | expression => rfl
      | _ => simp [kind] at other
    exact ⟨l, line, .worked kind (mt Outcome.display_eq_empty.mp outcome)⟩

theorem showLines_rows_sum :
    let s := ofInputs ["# a", "2 = 3", "", "1 + 1"]
    Reachable s ∧ showLines s.lines = "# a\n2 = 3 = ?\n1 + 1 = 2" ∧
      copyValue? s.lines 3 = some "2" ∧
      ∃ l, s.lines[3]? = some l ∧ l.Row (l.input ++ " = " ++ "2") := by
  intro s
  have reachable : Reachable s := .ofInputs _
  have copied : copyValue? s.lines 3 = some "2" := by decide +kernel
  exact ⟨reachable, by decide +kernel, copied, ((showLines_rows reachable).2 3).2 "2" copied⟩

end Sheet

end Worksheet
