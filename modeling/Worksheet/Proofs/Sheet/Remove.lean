import Worksheet.Proofs.Sheet.Gap
import Worksheet.Proofs.Sheet.Reachable

/-!
Taking out a line. Where the line binds no variable and no other line refers to it, the rest of the
sheet does not notice (`remove_keptWithout`). References to it keep their number, which the line
below takes over; so they stand for nothing only in the lines that do not come after that line
(`remove_reference_kept`).
-/

set_option autoImplicit false
set_option relaxedAutoImplicit false

namespace Worksheet.Sheet

/-- A sheet beside what it becomes without the line in place `i`. The other lines keep their
outcomes; variables stay as they are, and the values of lines move along with them. -/
structure KeptWithout (i : Nat) (s s' : Sheet) : Prop where
  size : s.size = s'.size + 1
  line : ∀ j l, j ≠ i → s.lines[j]? = some l →
    ∃ l', s'.lines[if j < i then j else j - 1]? = some l' ∧ l.outcome.Agrees l'.outcome
  vars : s'.scope.vars = s.scope.vars
  above : ∀ k : Int, k ≤ i → s'.scope.lineValue? k = s.scope.lineValue? k
  below : ∀ k : Int, i + 1 ≤ k → s'.scope.lineValue? k = s.scope.lineValue? (k + 1)

theorem remove_eq_ok_iff {s s' : Sheet} {i : Nat} (inside : i < s.size) :
    s.remove i = .ok s' ↔
      ∃ others, List.Forall₂ (fun old new => renumber (fun k => closeGap i k) old = .ok new)
        (s.inputs.eraseIdx i) others ∧ s' = ofInputs others := by
  have shift : shiftForRemove ((i : Int) + 1) = renumber fun k => closeGap i k :=
    funext fun old => shiftForRemove_eq i old
  rw [remove, if_neg (by omega), Int.toNat_natCast, shift]
  constructor
  · intro done
    obtain ⟨others, moved, done⟩ := exists_ok_of_bind done
    exact ⟨others, (mapM_eq_ok_iff _ _ _).mp moved, (Except.ok.inj done).symm⟩
  · rintro ⟨others, moved, rfl⟩
    rw [(mapM_eq_ok_iff _ _ _).mpr moved]
    rfl

theorem exists_remove_eq_ok {s : Sheet} {i : Nat} (inside : i < s.size) :
    ∃ others, s.remove i = .ok (ofInputs others) ∧
      List.Forall₂ (fun old new => renumber (fun k => closeGap i k) old = .ok new)
        (s.inputs.eraseIdx i) others := by
  obtain ⟨others, moved⟩ := exists_mapM_ok fun text (_ : text ∈ s.inputs.eraseIdx i) =>
    exists_renumber_closeGap i text
  rw [mapM_eq_ok_iff] at moved
  exact ⟨others, (remove_eq_ok_iff inside).mpr ⟨others, moved, rfl⟩, moved⟩

private theorem exists_remove {texts : List String} {i : Nat} (inside : i < texts.length) :
    ∃ others, (ofInputs texts).remove i = .ok (ofInputs others) ∧
      List.Forall₂ (TextRenumbered (closeGap i)) (texts.eraseIdx i) others := by
  obtain ⟨others, done, moved⟩ := exists_remove_eq_ok (s := ofInputs texts) (i := i)
    (by simpa using inside)
  rw [inputs_ofInputs] at moved
  exact ⟨others, done, moved.imp fun _ _ => textRenumbered_of_renumber⟩

private theorem getElem?_eraseIdx_place {α : Type} {xs : List α} {i j : Nat} {x : α} (other : j ≠ i)
    (hx : xs[j]? = some x) : (xs.eraseIdx i)[if j < i then j else j - 1]? = some x := by
  split
  · next before => rwa [List.getElem?_eraseIdx_of_lt before]
  · rwa [List.getElem?_eraseIdx_of_ge (by omega), Nat.sub_add_cancel (by omega)]

private theorem keptWithout_of_gap {i : Nat} {s s' : Sheet} (size : s.size = s'.size + 1)
    (lines : List.Forall₂ (Line.Moved (openGap i)) s'.lines (s.lines.eraseIdx i))
    (scopes : Beside (openGap i) s'.scope s.scope) : KeptWithout i s s' where
  size := size
  line j l hj hl := by
    obtain ⟨l', hl', moved⟩ :=
      exists_getElem?_of_forall₂ lines.flip (getElem?_eraseIdx_place hj hl)
    exact ⟨l', hl', moved.outcome.symm⟩
  vars := scopes.vars.symm
  above _ hk := (scopes.lineValue?_of_le hk).symm
  below _ hk := (scopes.lineValue?_of_lt (by omega)).symm

/-- A line that binds no variable and that no other line refers to is taken out without a trace in
the rest of the sheet. -/
theorem remove_keptWithout {s : Sheet} {i : Nat} (reachable : Reachable s)
    (room : (s.size : Int) ≤ maxLine) (inside : i < s.size)
    (silent : ∀ l, s.lines[i]? = some l → ∀ x v, ¬ l.Binds x v)
    (unreferenced : ∀ text ∈ s.inputs.eraseIdx i, i + 1 ∉ lineReferences text) :
    ∃ s', s.remove i = .ok s' ∧ KeptWithout i s s' := by
  obtain ⟨texts, rfl⟩ := reachable.exists_eq_ofInputs
  simp only [size_ofInputs, inputs_ofInputs] at room inside unreferenced
  obtain ⟨others, done, renumbered⟩ := exists_remove inside
  have back : ∀ text ∈ texts.eraseIdx i, ∀ k ∈ lineReferences text,
      openGap i (closeGap i k) = k :=
    fun text ht k hk => openGap_closeGap fun same => unreferenced text ht (same ▸ hk)
  have restored : List.Forall₂ (TextRenumbered (openGap i)) others (texts.eraseIdx i) :=
    (((List.forall₂_and_left _ _).mpr ⟨back, renumbered⟩).imp fun _ _ h => h.2.symm h.1).flip
  obtain ⟨lines, scopes⟩ := beside_of_gap inside restored room fun l hl v value => by
    cases assigns : assigned? l.input with
    | none => rfl
    | some x => exact absurd (Line.binds_iff.mpr ⟨assigns, value⟩) (silent l hl x v)
  have size : (ofInputs texts).size = (ofInputs others).size + 1 := by
    rw [size_ofInputs, size_ofInputs, ← renumbered.length_eq, List.length_eraseIdx_of_lt inside]
    omega
  exact ⟨_, done, keptWithout_of_gap size lines scopes⟩

theorem remove_unreferenced_keptWithout :
    ∃ s', (ofInputs ["1", "2", "$x = $1", "$3 * $x"]).remove 1 = .ok s' ∧
      KeptWithout 1 (ofInputs ["1", "2", "$x = $1", "$3 * $x"]) s' := by
  have room : ((ofInputs ["1", "2", "$x = $1", "$3 * $x"]).size : Int) ≤ maxLine := by
    decide +kernel
  have inside : 1 < (ofInputs ["1", "2", "$x = $1", "$3 * $x"]).size := by decide +kernel
  have line : (ofInputs ["1", "2", "$x = $1", "$3 * $x"]).lines[1]? =
      some ⟨1, 1, "2", .value 2⟩ := by decide +kernel
  have assigned : assigned? "2" = none := by decide +kernel
  have unreferenced : ∀ text ∈ ["1", "$x = $1", "$3 * $x"], 1 + 1 ∉ lineReferences text := by
    decide +kernel
  refine remove_keptWithout (.ofInputs _) room inside (fun l hl x v binds => ?_) ?_
  · obtain rfl := Option.some.inj (line.symm.trans hl)
    exact nomatch assigned.symm.trans (Line.binds_iff.mp binds).1
  · rw [inputs_ofInputs]
    exact unreferenced

/-! ## References to the line that is gone -/

/-- Whether the line that takes over the number of line `i + 1`, once that is gone, has the value
`w` for the line that stood in place `j`: it is above, and a reference can have its number. -/
structure TakenOver (i j : Nat) (s' : Sheet) (w : Float) : Prop where
  number : (i : Int) + 1 ≤ maxLine
  above : i + 1 < j
  outcome : ∃ m, s'.lines[i]? = some m ∧ m.outcome = .value w

/-- A line that refers to line `i + 1`, beside what it becomes when that line is gone. The reference
stands for a value exactly when that has been taken over; without that the line fails, and a line
that is the reference alone has the value. -/
structure ReferenceKept (i j : Nat) (s' : Sheet) (l l' : Line) : Prop where
  refers : i + 1 ∈ lineReferences l'.input
  stands : ∀ x ∈ lexemes l'.input, x.reference? = some (i + 1) →
    ∀ t, Visible s'.lines l'.number t → ∀ w, x.valueIn? t = some w ↔ TakenOver i j s' w
  resolved : ∀ v, l'.outcome = .value v → ∃ w, TakenOver i j s' w
  alone : ∀ x, lexemes l.input = [x] → ∀ w, l'.outcome = .value w ↔ TakenOver i j s' w

private theorem isFinite_of_value {texts : List String} {j : Nat} {l : Line}
    (hl : (ofInputs texts).lines[j]? = some l) {v : Float} (value : l.outcome = .value v) :
    v.isFinite = true := by
  obtain ⟨text, -, rfl⟩ := exists_text hl
  exact isFinite_of_lineOutcome value

private theorem exists_referenceKept {texts others : List String} {i j : Nat} {l : Line}
    (renumbered : List.Forall₂ (TextRenumbered (closeGap i)) (texts.eraseIdx i) others)
    (other : j ≠ i) (hl : (ofInputs texts).lines[j]? = some l)
    (refers : i + 1 ∈ lineReferences l.input) :
    ∃ l', (ofInputs others).lines[if j < i then j else j - 1]? = some l' ∧
      ReferenceKept i j (ofInputs others) l l' := by
  obtain ⟨text, ht, rfl⟩ := exists_text hl
  obtain ⟨text', ht', moved⟩ :=
    exists_getElem?_of_forall₂ renumbered (getElem?_eraseIdx_place other ht)
  have place : i + 1 < (if j < i then j else j - 1) + 1 ↔ i + 1 < j := by split <;> omega
  generalize (if j < i then j else j - 1) = p at ht' place ⊢
  have line := lines_getElem?_ofInputs others p
  rw [ht', Option.map_some] at line
  have kept : i + 1 ∈ lineReferences text' := by
    rw [moved.lineReferences]
    exact List.mem_map.mpr ⟨i + 1, refers, if_neg (Nat.lt_irrefl _)⟩
  have seen : Visible (ofInputs others).lines (p + 1) (ofInputs (others.take p)).scope :=
    visible_take (List.getElem?_eq_some_iff.mp ht').1.le
  have stands (x : Lexeme) (hx : x ∈ lexemes text') (hn : x.reference? = some (i + 1)) (t : Scope)
      (ht : Visible (ofInputs others).lines (p + 1) t) (w : Float) :
      x.valueIn? t = some w ↔ TakenOver i j (ofInputs others) w := by
    rw [Lexeme.valueIn?_eq_some hx hn, lineValue?_eq_some ht, place]
    exact ⟨fun ⟨_, number, above, outcome⟩ => ⟨number, above, outcome⟩,
      fun h => ⟨Nat.succ_pos i, h.number, h.above, h.outcome⟩⟩
  refine ⟨_, line, kept, stands, fun v value => ?_, fun x marks w => ?_⟩
  · obtain ⟨y, hy, hn, w, found⟩ :=
      exists_valueIn?_of_value (lineOutcome_eq_value.mp value).2 kept
    exact ⟨w, (stands y hy hn _ seen w).mp found⟩
  · obtain ⟨y, marks'⟩ := moved.lone marks
    rw [lineReferences_eq, marks'] at kept
    obtain ⟨_, hy, hn⟩ := List.mem_filterMap.mp kept
    obtain rfl := List.mem_singleton.mp hy
    have hk := Lexeme.kind_of_reference? hn
    rw [lineOutcome_eq_value, evaluateText_lone marks' hk,
      stands _ (marks' ▸ hy) hn _ seen w]
    constructor
    · exact fun h => h.2.1
    · intro h
      obtain ⟨m, hm, value⟩ := h.outcome
      exact ⟨LineKind.ofText_eq_expression marks' hk, h, isFinite_of_value hm value⟩

/-- A reference to a line that is taken out comes to stand for the line that takes over its number,
in the lines below that. -/
theorem remove_reference_kept {s : Sheet} {i : Nat} (reachable : Reachable s)
    (inside : i < s.size) :
    ∃ s', s.remove i = .ok s' ∧ ∀ j l, j ≠ i → s.lines[j]? = some l →
      i + 1 ∈ lineReferences l.input →
        ∃ l', s'.lines[if j < i then j else j - 1]? = some l' ∧ ReferenceKept i j s' l l' := by
  obtain ⟨texts, rfl⟩ := reachable.exists_eq_ofInputs
  rw [size_ofInputs] at inside
  obtain ⟨others, done, renumbered⟩ := exists_remove inside
  exact ⟨_, done, fun j l other hl refers => exists_referenceKept renumbered other hl refers⟩

theorem remove_second_reference_kept :
    (ofInputs ["1", "2", "3", "$2"]).remove (1 : Nat) = .ok (ofInputs ["1", "3", "$2"]) ∧
      ∃ l', (ofInputs ["1", "3", "$2"]).lines[2]? = some l' ∧
        ReferenceKept 1 3 (ofInputs ["1", "3", "$2"]) ⟨3, 3, "$2", .value 2⟩ l' := by
  have inside : 1 < (ofInputs ["1", "2", "3", "$2"]).size := by decide +kernel
  have line : (ofInputs ["1", "2", "3", "$2"]).lines[3]? = some ⟨3, 3, "$2", .value 2⟩ := by
    decide +kernel
  have refers : 1 + 1 ∈ lineReferences "$2" := by decide +kernel
  have result : (ofInputs ["1", "2", "3", "$2"]).remove (1 : Nat) =
      .ok (ofInputs ["1", "3", "$2"]) := by decide +kernel
  obtain ⟨s', done, kept⟩ := remove_reference_kept (.ofInputs ["1", "2", "3", "$2"]) inside
  obtain rfl := Except.ok.inj (result.symm.trans done)
  exact ⟨result, kept 3 _ (by decide) line refers⟩

theorem remove_reference_resolves : ¬ ∀ (s s' : Sheet) (i j : Nat) (l l' : Line), Reachable s →
    i < s.size → s.remove i = .ok s' → j ≠ i → s.lines[j]? = some l →
    LineKind.ofText l.input = .expression → i + 1 ∈ lineReferences l.input →
    s'.lines[if j < i then j else j - 1]? = some l' → ∀ v, l'.outcome ≠ .value v := by
  intro claim
  have inside : 1 < (ofInputs ["1", "2", "3", "$2"]).size := by decide +kernel
  have done : (ofInputs ["1", "2", "3", "$2"]).remove (1 : Nat) =
      .ok (ofInputs ["1", "3", "$2"]) := by decide +kernel
  have line : (ofInputs ["1", "2", "3", "$2"]).lines[3]? = some ⟨3, 3, "$2", .value 2⟩ := by
    decide +kernel
  have line' : (ofInputs ["1", "3", "$2"]).lines[2]? = some ⟨2, 2, "$2", .value 3⟩ := by
    decide +kernel
  exact claim _ _ 1 3 _ _ (.ofInputs _) inside done (by decide) line (by decide)
    (by decide +kernel) line' 3 rfl

end Worksheet.Sheet
