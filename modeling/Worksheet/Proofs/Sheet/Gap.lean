import Worksheet.Proofs.Sheet.Beside
import Worksheet.Proofs.Sheet.Meaning

/-!
A sheet beside the same sheet with one line more. Numbers past the gap go up by one (`openGap`); all
lines but the one in the gap agree, and so do the scopes (`beside_of_gap`).
-/

set_option autoImplicit false
set_option relaxedAutoImplicit false

namespace Worksheet

/-- The number of a line once there is a new line `c + 1`. -/
def openGap (c k : Nat) : Nat := if c < k then k + 1 else k

/-- The number of a line once line `c + 1` is gone. -/
def closeGap (c k : Nat) : Nat := if c + 1 < k then k - 1 else k

private theorem openGap_injective (c : Nat) : Function.Injective (openGap c) := by
  intro j k h
  unfold openGap at h
  split at h <;> split at h <;> omega

theorem openGap_ne (c k : Nat) : openGap c k ≠ c + 1 := by
  unfold openGap
  split <;> omega

theorem openGap_closeGap {c k : Nat} (h : k ≠ c + 1) : openGap c (closeGap c k) = k := by
  unfold openGap closeGap
  split <;> split <;> omega

theorem closeGap_openGap (c k : Nat) : closeGap c (openGap c k) = k := by
  unfold openGap closeGap
  split <;> split <;> omega

private theorem closeGap_le (c k : Nat) : closeGap c k ≤ k := by
  unfold closeGap
  split <;> omega

theorem shiftForInsert_eq (c : Nat) (text : String) :
    shiftForInsert ((c + 1 : Nat) : Int) text = renumber (fun k => (openGap c k : Int)) text := by
  unfold shiftForInsert
  congr 1
  funext k
  unfold openGap
  split <;> split <;> omega

theorem shiftForRemove_eq (c : Nat) (text : String) :
    shiftForRemove ((c : Int) + 1) text = renumber (fun k => (closeGap c k : Int)) text := by
  unfold shiftForRemove
  congr 1
  funext k
  unfold closeGap
  split <;> split <;> omega

theorem exists_renumber_closeGap (c : Nat) (text : String) :
    ∃ text', renumber (fun k => closeGap c k) text = .ok text' :=
  exists_renumber fun k hk => withinLimit_of_mem_lineReferences hk (closeGap_le c k)

namespace Beside

variable {c : Nat} {s t : Scope} {k : Int}

theorem lineValue?_of_le (h : Beside (openGap c) s t) (hk : k ≤ c) :
    t.lineValue? k = s.lineValue? k := by
  rcases Int.lt_or_le k 0 with negative | natural
  · rw [h.right.eq_none (by omega), h.left.eq_none (by omega)]
  · obtain ⟨n, rfl⟩ := Int.eq_ofNat_of_zero_le natural
    have same := h.line n
    rwa [openGap, if_neg (by omega)] at same

theorem lineValue?_of_lt (h : Beside (openGap c) s t) (hk : c < k) :
    t.lineValue? (k + 1) = s.lineValue? k := by
  obtain ⟨n, rfl⟩ := Int.eq_ofNat_of_zero_le (show 0 ≤ k by omega)
  have moved := h.line n
  rwa [openGap, if_pos (by omega), Int.natCast_add_one] at moved

end Beside

namespace Sheet

private theorem beside_of_split {c : Nat} {front front' back back' : List String} (extra : String)
    (length : front.length = c) (hfront : List.Forall₂ (TextRenumbered (openGap c)) front front')
    (hback : List.Forall₂ (TextRenumbered (openGap c)) back back')
    (room : ((c + back.length + 1 : Nat) : Int) ≤ maxLine)
    (silent : ∀ v, lineOutcome extra (ofInputs front').scope = .value v → assigned? extra = none) :
    List.Forall₂ (Line.Moved (openGap c)) (ofInputs (front ++ back)).lines
        ((ofInputs (front' ++ extra :: back')).lines.eraseIdx c) ∧
      Beside (openGap c) (ofInputs (front ++ back)).scope
        (ofInputs (front' ++ extra :: back')).scope := by
  have apart := openGap_injective c
  have start : Beside (openGap c) Scope.empty Scope.empty := ⟨rfl, fun _ => rfl, nofun, nofun⟩
  obtain ⟨lines, scopes⟩ := start.run apart hfront (n := 0) (m := 0)
    (fun i hi => by unfold openGap; split <;> omega) (by omega) (by omega)
  have gap := scopes.extra (n := c + 1) (by omega) (by omega) (openGap_ne c) silent
  obtain ⟨lines', scopes'⟩ := gap.run apart hback (n := c) (m := c + 1)
    (fun i hi => by unfold openGap; split <;> omega) (by omega) (by omega)
  have length' : front'.length = c := hfront.length_eq.symm.trans length
  have place : (evaluateFrom 0 front' Scope.empty).1.length = c :=
    (size_ofInputs front').trans length'
  unfold ofInputs
  rw [evaluateFrom_append, evaluateFrom_append, evaluateFrom_cons, Nat.zero_add, Nat.zero_add,
    length, length', List.eraseIdx_append_of_length_le place.le, place, Nat.sub_self,
    List.eraseIdx_cons_zero]
  exact ⟨List.rel_append lines lines', scopes'⟩

/-- Where a sheet has one line more than another, in place `c`, and the other lines are renumbered
to fit, all of these agree if the line that is more binds no variable. -/
theorem beside_of_gap {c : Nat} {texts texts' : List String} (inside : c < texts'.length)
    (renumbered : List.Forall₂ (TextRenumbered (openGap c)) texts (texts'.eraseIdx c))
    (room : (texts'.length : Int) ≤ maxLine)
    (silent : ∀ l, (ofInputs texts').lines[c]? = some l → ∀ v, l.outcome = .value v →
      assigned? l.input = none) :
    List.Forall₂ (Line.Moved (openGap c)) (ofInputs texts).lines
        ((ofInputs texts').lines.eraseIdx c) ∧
      Beside (openGap c) (ofInputs texts).scope (ofInputs texts').scope := by
  have split : texts' = texts'.take c ++ texts'[c] :: texts'.drop (c + 1) := by
    rw [← List.drop_eq_getElem_cons, List.take_append_drop]
  have fits : (texts'.take c).length = c := by
    rw [List.length_take, Nat.min_eq_left inside.le]
  rw [List.eraseIdx_eq_take_drop_succ] at renumbered
  have front := List.forall₂_take_append _ _ _ renumbered
  have back := List.forall₂_drop_append _ _ _ renumbered
  have count := renumbered.length_eq
  rw [List.length_append, fits, List.length_drop] at count
  rw [fits] at front back
  have length : (texts.take c).length = c := by
    rw [List.length_take, Nat.min_eq_left (by omega)]
  have line := lines_getElem?_ofInputs texts' c
  rw [List.getElem?_eq_getElem inside, Option.map_some] at line
  have gap := beside_of_split texts'[c] length front back
    (by rw [List.length_drop]; omega) (silent _ line)
  rwa [List.take_append_drop, ← split] at gap

end Sheet

end Worksheet
