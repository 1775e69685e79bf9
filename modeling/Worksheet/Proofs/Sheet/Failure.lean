import Worksheet.Proofs.Expr.Acceptance
import Worksheet.Proofs.Sheet.Insert
import Worksheet.Proofs.Sheet.Remove
import Worksheet.Session

/-!
How operations on a sheet fail. Working out lines never stops, since every number of a text can be
read (`evaluate_eq`), and renumbering stops before anything is replaced (`shiftAll_eq`). So an
operation makes its edit or leaves the sheet as it was (`perform_eq`). The ways to fail are to move
a line whose number is the greatest that is written, and to ask for more blank lines than there is
room for (`perform_fails_iff`).
-/

set_option autoImplicit false
set_option relaxedAutoImplicit false

namespace Worksheet

namespace Sheet

private theorem padding_of_nonneg {s : Sheet} {index : Int} (inside : 0 ≤ index) :
    s.padding index = index.toNat + 1 - s.size := by
  unfold padding
  omega

private theorem paddingError?_of_neg {s : Sheet} {index : Int} (before : index < 0) :
    paddingError? (s.padding index) = none := by
  have none : s.padding index = 0 := by
    unfold padding
    omega
  rw [none]
  rfl

end Sheet

namespace Session

variable {α β : Type} {x : Session α} {f : α → Session β} {s t : Sheet}

private theorem bind_ok {a : α} (h : x s = .ok a t) : (x >>= f) s = f a t := by
  show EStateM.bind x f s = f a t
  rw [EStateM.bind, h]

private theorem bind_error {why : Stopped} (h : x s = .error why t) :
    (x >>= f) s = .error why t := by
  show EStateM.bind x f s = .error why t
  rw [EStateM.bind, h]

/-! ## Operations and edits -/

theorem evaluateText_eq (text : String) (scope : Scope) :
    evaluateText text scope = pure (Worksheet.evaluateText text scope) := by
  unfold evaluateText
  split
  · next h => exact absurd h (parseText_ne_unreadableNumber _ _ _)
  · rfl

private theorem evaluateLine_eq (number : Nat) (text : String) (scope : Scope) :
    evaluateLine number text scope = pure (Worksheet.evaluateLine number text scope) := by
  rw [evaluateLine, Worksheet.evaluateLine]
  cases LineKind.ofText text with
  | expression =>
    dsimp only
    rw [evaluateText_eq, pure_bind]
    rcases Worksheet.evaluateText text scope with ⟨_ | _ | _, after⟩ <;> rfl
  | _ => rfl

private theorem evaluateFrom_eq (n : Nat) (texts : List String) (scope : Scope) :
    evaluateFrom n texts scope = pure (Worksheet.evaluateFrom n texts scope) := by
  induction texts generalizing n scope with
  | nil => rfl
  | cons text texts ih =>
    rw [evaluateFrom, evaluateLine_eq, pure_bind]
    dsimp only
    rw [ih, pure_bind]
    rfl

theorem evaluate_eq (inputs : List String) (s : Sheet) :
    evaluate inputs s = .ok (Sheet.ofInputs inputs).lines (Sheet.ofInputs inputs) := by
  rw [evaluate, evaluateFrom_eq, pure_bind]
  rfl

theorem shiftAll_eq (shift : String → Except RenumberError String) (texts : List String)
    (s : Sheet) : shiftAll shift texts s =
      match texts.mapM shift with
      | .ok texts' => .ok texts' s
      | .error why => .error (.edit (.renumber why)) s := by
  induction texts with
  | nil => rfl
  | cons text texts ih =>
    rw [shiftAll, List.mapM_cons]
    cases shift text with
    | error why => rfl
    | ok text' =>
      cases rest : texts.mapM shift with
      | error why =>
        rw [rest] at ih
        exact bind_error ih
      | ok texts' =>
        rw [rest] at ih
        exact bind_ok ih

private theorem shiftAll_evaluate_eq (shift : String → Except RenumberError String)
    (texts : List String) (arrange : List String → List String) (s : Sheet) :
    (shiftAll shift texts >>= fun others => evaluate (arrange others)) s =
      match texts.mapM shift with
      | .ok others =>
        .ok (Sheet.ofInputs (arrange others)).lines (Sheet.ofInputs (arrange others))
      | .error why => .error (.edit (.renumber why)) s := by
  have shifted := shiftAll_eq shift texts s
  cases done : texts.mapM shift with
  | error why =>
    rw [done] at shifted
    exact bind_error shifted
  | ok others =>
    rw [done] at shifted
    exact (bind_ok shifted).trans (evaluate_eq _ s)

/-- An operation makes its edit and gives the lines after it, or leaves the sheet as it was. -/
theorem perform_eq (edit : Edit) (s : Sheet) : perform edit s =
    match s.apply edit with
    | .ok s' => .ok s'.lines s'
    | .error why => .error (.edit why) s := by
  cases edit with
  | evaluate inputs => exact evaluate_eq inputs s
  | update index text =>
    show (if index < 0 then pure s.lines else _ : Session _) s = _
    rw [Sheet.apply]
    by_cases before : index < 0
    · rw [if_pos before, Sheet.paddingError?_of_neg before, Sheet.update, if_pos before]
      rfl
    · rw [if_neg before]
      cases paddingError? (s.padding index) with
      | some why => rfl
      | none =>
        refine (evaluate_eq _ s).trans ?_
        rw [Sheet.padding_of_nonneg (Int.not_lt.mp before), Sheet.update, if_neg before]
  | insert index text =>
    have step := shiftAll_evaluate_eq (shiftForInsert (min index.toNat s.size + 1 : Nat)) s.inputs
      (List.insertIdx · (min index.toNat s.size) text) s
    refine Eq.trans step ?_
    rw [Sheet.apply, Sheet.insert]
    cases s.inputs.mapM (shiftForInsert (min index.toNat s.size + 1 : Nat)) <;> rfl
  | remove index =>
    show (if index < 0 ∨ (s.size : Int) ≤ index then pure s.lines
      else shiftAll _ _ >>= evaluate : Session _) s = _
    rw [Sheet.apply, Sheet.remove]
    split
    · rfl
    · refine (shiftAll_evaluate_eq _ _ id s).trans ?_
      cases (s.inputs.eraseIdx index.toNat).mapM (shiftForRemove (index + 1)) <;> rfl
  | append text => exact evaluate_eq _ s
  | clear => rfl

end Session

/-! ## Edits that are refused -/

private theorem withinLimit_openGap_iff {c k : Nat} (hk : Numeral.withinLimit k = true) :
    Numeral.withinLimit (openGap c k) = true ↔
      ¬ (k = Numeral.greatest ∧ c + 1 ≤ Numeral.greatest) := by
  rw [Numeral.withinLimit_iff] at hk ⊢
  unfold openGap
  split <;> omega

namespace Sheet

theorem exists_remove_ok (s : Sheet) (index : Int) : ∃ s', s.remove index = .ok s' := by
  by_cases outside : index < 0 ∨ (s.size : Int) ≤ index
  · exact ⟨s, if_pos outside⟩
  · obtain ⟨i, rfl⟩ := Int.eq_ofNat_of_zero_le (show 0 ≤ index by omega)
    have inside : i < s.size := by omega
    obtain ⟨others, done, -⟩ := exists_remove_eq_ok inside
    exact ⟨_, done⟩

private theorem exists_insert_error_iff (s : Sheet) (index : Int) (text : String) :
    (∃ why, s.insert index text = .error why) ↔
      ∃ old ∈ s.inputs, Numeral.greatest ∈ lineReferences old ∧
        s.insertPlace index + 1 ≤ Numeral.greatest := by
  have done : (∃ s', s.insert index text = .ok s') ↔
      ∃ others, s.inputs.mapM (renumber fun k => openGap (s.insertPlace index) k) =
        .ok others := by
    simp only [insert_eq_ok_iff, mapM_eq_ok_iff]
    exact ⟨fun ⟨_, others, moved, _⟩ => ⟨others, moved⟩,
      fun ⟨others, moved⟩ => ⟨_, others, moved, rfl⟩⟩
  rw [exists_error_iff, done, exists_mapM_ok_iff]
  simp only [exists_renumber_iff, not_forall]
  constructor
  · rintro ⟨old, hold, k, hk, beyond⟩
    have within := withinLimit_of_mem_lineReferences hk (Nat.le_refl k)
    rw [withinLimit_openGap_iff within, not_not] at beyond
    obtain ⟨last, moved⟩ := beyond
    exact ⟨old, hold, last ▸ hk, moved⟩
  · rintro ⟨old, hold, hk, moved⟩
    have within := withinLimit_of_mem_lineReferences hk (Nat.le_refl _)
    exact ⟨old, hold, _, hk, fun short =>
      (withinLimit_openGap_iff within).mp short ⟨rfl, moved⟩⟩

private theorem paddingError?_eq_some_iff {count : Nat} {why : PaddingError} :
    paddingError? count = some why ↔
      why = .uncountable ∧ countLimit ≤ count ∨
        why = .outOfMemory ∧ memoryLimit ≤ count ∧ count < countLimit := by
  unfold paddingError?
  split_ifs with uncountable tooMany <;> cases why <;> simp [*]
  all_goals omega

/-- What an edit is refused for: a line that it moves has the greatest number of all and is referred
to, or there is no room for the blank lines that it appends. A reference with more digits than are
read has no number, and stops nothing. -/
inductive Refuses (s : Sheet) : Edit → EditError → Prop
  | greatest {index : Int} {text : String} {l : Line} {t : Token} (line : l ∈ s.lines)
      (mark : t ∈ scan l.input) (refers : t.reference? = some Numeral.greatest)
      (moves : s.insertPlace index + 1 ≤ Numeral.greatest) :
      Refuses s (.insert index text) (.renumber .tooManyDigits)
  | uncountable {index : Int} {text : String} (many : countLimit ≤ s.padding index) :
      Refuses s (.update index text) (.padding .uncountable)
  | outOfMemory {index : Int} {text : String} (many : memoryLimit ≤ s.padding index)
      (countable : s.padding index < countLimit) :
      Refuses s (.update index text) (.padding .outOfMemory)

private theorem refuses_insert_iff {s : Sheet} {index : Int} {text : String} {why : EditError} :
    s.Refuses (.insert index text) why ↔ why = .renumber .tooManyDigits ∧
      ∃ old ∈ s.inputs, Numeral.greatest ∈ lineReferences old ∧
        s.insertPlace index + 1 ≤ Numeral.greatest := by
  constructor
  · rintro ⟨line, mark, refers, moves⟩
    exact ⟨rfl, _, List.mem_map_of_mem line, List.mem_filterMap.mpr ⟨_, mark, refers⟩, moves⟩
  · rintro ⟨rfl, _, hold, refs, moves⟩
    obtain ⟨l, line, rfl⟩ := List.mem_map.mp hold
    obtain ⟨t, mark, refers⟩ := List.mem_filterMap.mp refs
    exact .greatest line mark refers moves

private theorem refuses_update_iff {s : Sheet} {index : Int} {text : String} {why : EditError} :
    s.Refuses (.update index text) why ↔
      ∃ e, why = .padding e ∧ paddingError? (s.padding index) = some e := by
  simp only [paddingError?_eq_some_iff]
  constructor
  · rintro (_ | many | ⟨many, countable⟩)
    · exact ⟨_, rfl, .inl ⟨rfl, many⟩⟩
    · exact ⟨_, rfl, .inr ⟨rfl, many, countable⟩⟩
  · rintro ⟨_, rfl, ⟨rfl, many⟩ | ⟨rfl, many, countable⟩⟩
    · exact .uncountable many
    · exact .outOfMemory many countable

theorem apply_eq_error_iff {s : Sheet} {edit : Edit} {why : EditError} :
    s.apply edit = .error why ↔ s.Refuses edit why := by
  cases edit with
  | update index text =>
    rw [refuses_update_iff, apply]
    cases paddingError? (s.padding index) <;> simp [eq_comm]
  | insert index text =>
    rw [refuses_insert_iff, ← exists_insert_error_iff, apply]
    cases s.insert index text with
    | ok s' => simp [Except.mapError]
    | error e =>
      cases e
      exact ⟨fun h => ⟨(Except.error.inj h).symm, _, rfl⟩, fun h => by rw [h.1]; rfl⟩
  | remove index =>
    obtain ⟨s', done⟩ := s.exists_remove_ok index
    rw [apply, done]
    exact ⟨fun h => by contradiction, fun h => by cases h⟩
  | _ => exact ⟨fun h => by contradiction, fun h => by cases h⟩

end Sheet

/-- An operation fails exactly where its edit is refused, for the same cause, and leaves the sheet
as it was. -/
theorem Session.perform_fails_iff (s : Sheet) (edit : Edit) (why : Stopped) (t : Sheet) :
    perform edit s = .error why t ↔ t = s ∧ ∃ e, why = .edit e ∧ s.Refuses edit e := by
  simp only [← Sheet.apply_eq_error_iff]
  rw [perform_eq]
  cases s.apply edit with
  | ok s' => simp
  | error e => simp [eq_comm, and_comm]

theorem Session.perform_update_uncountable :
    Sheet.empty.Reachable ∧
      perform (.update 9223372036854775808 "x") Sheet.empty =
        .error (.edit (.padding .uncountable)) Sheet.empty :=
  ⟨.empty, rfl⟩

def referenceTo (k : Nat) : String := String.ofList ('$' :: Numeral.ofNat k)

private theorem lineReferences_referenceTo {k : Nat} (short : Numeral.withinLimit k = true) :
    lineReferences (referenceTo k) = [k] := by
  have marks : lexemes (referenceTo k) = [⟨.lineRef, String.ofList (Numeral.ofNat k)⟩] := by
    rw [lexemes, referenceTo, String.toList_ofList,
      cut_reference (Numeral.ofNat_ne_nil k) fun _ => Numeral.isDigit_of_mem_ofNat]
    rfl
  simp [lineReferences_eq, marks, Lexeme.reference?, Numeral.ofDigits?_ofNat short]

theorem Session.exists_perform_error : ∃ s, s.Reachable ∧ ∃ edit,
    perform edit s = .error (.edit (.renumber .tooManyDigits)) s := by
  let s := Sheet.ofInputs [referenceTo Numeral.greatest]
  have refused : s.Refuses (.insert 0 "") (.renumber .tooManyDigits) := by
    refine Sheet.refuses_insert_iff.mpr ⟨rfl, referenceTo Numeral.greatest, ?_, ?_, ?_⟩
    · simp [s]
    · rw [lineReferences_referenceTo (Numeral.withinLimit_iff.mpr (Nat.le_refl _))]
      exact List.mem_singleton_self _
    · have place : s.insertPlace 0 = 0 := Nat.zero_min _
      rw [place]
      exact Numeral.withinLimit_iff.mp (by decide +kernel)
  exact ⟨s, .ofInputs _, .insert 0 "", by rw [perform_eq, Sheet.apply_eq_error_iff.mpr refused]⟩

end Worksheet
