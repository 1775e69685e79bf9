import Worksheet.Proofs.Sheet.Meaning
import Worksheet.Proofs.Sheet.Reachable

/-!
How far an edit reaches. A line can change only if it is edited or reads a line that can change, by
its number or by a name that it assigns; all other lines keep their outcomes
(`update_unreached`).
-/

set_option autoImplicit false
set_option relaxedAutoImplicit false

namespace Worksheet

def variableReads (text : String) : List String :=
  (withoutTarget (lexemes text)).filterMap fun x => if x.kind = .name then some x.text else none

private theorem lineOutcome_frame {text : String} {s t : Scope}
    (names : ∀ x ∈ variableReads text, t.variableValue? x = s.variableValue? x)
    (lines : ∀ k ∈ lineReferences text, t.lineValue? k = s.lineValue? k) :
    lineOutcome text t = lineOutcome text s := by
  rw [lineOutcome, lineOutcome, evaluateText_frame]
  intro x hx m mention
  unfold Lexeme.mention? at mention
  split at mention
  · next hk =>
    obtain rfl := Option.some.inj mention
    exact names x.text (List.mem_filterMap.mpr ⟨x, hx, if_pos hk⟩)
  · next hk =>
    obtain ⟨k, hn, rfl⟩ := Option.map_eq_some_iff.mp mention
    have member := mem_of_mem_withoutTarget hx
    obtain ⟨n, rfl, href⟩ := reference?_of_lineNumber? member hk hn
    exact lines n (lineReferences_eq text ▸ List.mem_filterMap.mpr ⟨x, member, href⟩)
  · contradiction

namespace Visible

variable {lines lines' : List Line} {n : Nat} {s t : Scope}

private theorem lineValue?_congr (hs : Visible lines n s) (ht : Visible lines' n t) {k : Int}
    (same : ∀ l : Line, (l.number : Int) = k → l.number < n → (l ∈ lines ↔ l ∈ lines')) :
    t.lineValue? k = s.lineValue? k := by
  refine Option.ext fun v => ?_
  rw [hs.line, ht.line]
  constructor
  · rintro ⟨l, hl, number, below, value⟩
    exact ⟨l, (same l number below).mpr hl, number, below, value⟩
  · rintro ⟨l, hl, number, below, value⟩
    exact ⟨l, (same l number below).mp hl, number, below, value⟩

private theorem binding_of_same {x : String} {v : Float}
    (same : ∀ l : Line, l.number < n → (∃ w, l.Binds x w) → (l ∈ lines ↔ l ∈ lines'))
    (h : ∃ l ∈ lines, l.number < n ∧ l.Binds x v ∧
      ∀ m ∈ lines, l.number < m.number → m.number < n → ∀ w, ¬ m.Binds x w) :
    ∃ l ∈ lines', l.number < n ∧ l.Binds x v ∧
      ∀ m ∈ lines', l.number < m.number → m.number < n → ∀ w, ¬ m.Binds x w := by
  obtain ⟨l, hl, below, binds, last⟩ := h
  refine ⟨l, (same l below ⟨v, binds⟩).mp hl, below, binds, fun m hm after hn w rebinds => ?_⟩
  exact last m ((same m hn ⟨w, rebinds⟩).mpr hm) after hn w rebinds

private theorem variableValue?_congr (hs : Visible lines n s) (ht : Visible lines' n t) {x : String}
    (same : ∀ l : Line, l.number < n → (∃ w, l.Binds x w) → (l ∈ lines ↔ l ∈ lines')) :
    t.variableValue? x = s.variableValue? x := by
  refine Option.ext fun v => ?_
  rw [hs.name, ht.name]
  exact ⟨binding_of_same fun l below binds => (same l below binds).symm, binding_of_same same⟩

end Visible

namespace Sheet

/-- The numbers of the lines that an edit of line `edited` reaches, where it makes the sheet `s'` of
`s`: that line, and with a line every line of the sheet below it that refers to it, or reads a name
that it assigns before or after the edit. -/
inductive Reached (s s' : Sheet) (edited : Nat) : Nat → Prop
  | edited : Reached s s' edited edited
  | byNumber {l : Line} {k : Nat} (hk : Reached s s' edited k) (hl : l ∈ s.lines)
      (above : k < l.number) (refers : k ∈ lineReferences l.input) : Reached s s' edited l.number
  | byName {l m : Line} {x : String} (hm : Reached s s' edited m.number)
      (assigning : m ∈ s.lines ∨ m ∈ s'.lines)
      (assigns : ∃ e, parseText m.input = .tree (.assign x e)) (hl : l ∈ s.lines)
      (above : m.number < l.number) (reads : x ∈ variableReads l.input) :
      Reached s s' edited l.number

private theorem Reached.le {s s' : Sheet} {edited n : Nat} (h : Reached s s' edited n) :
    edited ≤ n := by
  induction h with
  | edited => exact Nat.le_refl _
  | byNumber _ _ above _ ih => omega
  | byName _ _ _ _ above _ ih => omega

/-- A line that is not reached has the same outcome in both sheets, where the lines above that are
not reached are lines of both. -/
private theorem outcome_of_kept {s s' : Sheet} {edited : Nat} {l : Line} {t t' : Scope}
    (hl : l ∈ s.lines) (unreached : ¬ Reached s s' edited l.number)
    (kept : ∀ m : Line, m.number < l.number → ¬ Reached s s' edited m.number →
      (m ∈ s.lines ↔ m ∈ s'.lines))
    (seen : Visible s.lines l.number t) (seen' : Visible s'.lines l.number t') :
    lineOutcome l.input t' = lineOutcome l.input t := by
  refine lineOutcome_frame (fun x reads => ?_) fun k refers => ?_
  · refine seen.variableValue?_congr seen' fun m above ⟨w, binds⟩ => ?_
    have free (hm : m ∈ s.lines ∨ m ∈ s'.lines) : ¬ Reached s s' edited m.number := fun reached =>
      unreached (.byName reached hm binds.assigns hl above reads)
    exact ⟨fun hm => (kept m above (free (.inl hm))).mp hm,
      fun hm => (kept m above (free (.inr hm))).mpr hm⟩
  · refine seen.lineValue?_congr seen' fun m hk above => kept m above fun reached => ?_
    obtain rfl := Int.ofNat.inj hk
    exact unreached (.byNumber reached hl above refers)

section

variable {texts others : List String} {i j : Nat}

private theorem mem_iff_of_kept (inside : j ≤ texts.length)
    (kept : ∀ k < j, ∀ l, (ofInputs texts).lines[k]? = some l →
      ¬ Reached (ofInputs texts) (ofInputs others) (i + 1) (k + 1) →
        (ofInputs others).lines[k]? = some l) (l : Line) (above : l.number < j + 1)
    (unreached : ¬ Reached (ofInputs texts) (ofInputs others) (i + 1) l.number) :
    l ∈ (ofInputs texts).lines ↔ l ∈ (ofInputs others).lines := by
  constructor
  · intro hl
    obtain ⟨k, hk⟩ := List.mem_iff_getElem?.mp hl
    have number := number_of_getElem? hk
    exact List.mem_of_getElem? (kept k (by omega) l hk (number ▸ unreached))
  · intro hl
    obtain ⟨k, hk⟩ := List.mem_iff_getElem?.mp hl
    have number := number_of_getElem? hk
    have place : k < texts.length := by omega
    have old := lines_getElem?_ofInputs texts k
    rw [List.getElem?_eq_getElem place, Option.map_some] at old
    have new := kept k (by omega) _ old (number ▸ unreached)
    obtain rfl := Option.some.inj (hk.symm.trans new)
    exact List.mem_of_getElem? old

private theorem lines_of_unreached (same : ∀ j < texts.length, j ≠ i → others[j]? = texts[j]?)
    {l : Line} (hl : (ofInputs texts).lines[j]? = some l)
    (unreached : ¬ Reached (ofInputs texts) (ofInputs others) (i + 1) (j + 1)) :
    (ofInputs others).lines[j]? = some l := by
  induction j using Nat.strong_induction_on generalizing l with
  | h j ih =>
    have member := List.mem_of_getElem? hl
    have place : j ≠ i := fun h => unreached (h ▸ .edited)
    obtain ⟨text, ht, rfl⟩ := exists_text hl
    have inside : j < texts.length := (List.getElem?_eq_some_iff.mp ht).1
    have ht' : others[j]? = some text := (same j inside place).trans ht
    have above := mem_iff_of_kept inside.le fun k hk l => ih k hk
    have outcome := outcome_of_kept member unreached above (visible_take inside.le)
      (visible_take (List.getElem?_eq_some_iff.mp ht').1.le)
    rw [lines_getElem?_ofInputs, ht', Option.map_some, outcome]

end

private theorem exists_update (texts : List String) (i : Nat) (text : String) :
    ∃ others, (ofInputs texts).update i text = ofInputs others ∧ others[i]? = some text ∧
      ∀ j < texts.length, j ≠ i → others[j]? = texts[j]? := by
  have past : ¬ (i : Int) < 0 := by omega
  refine ⟨_, by rw [update, if_neg past], ?_, fun j inside other => ?_⟩
  · rw [Int.toNat_natCast, inputs_ofInputs, size_ofInputs]
    have room : i < (texts ++ List.replicate (i + 1 - texts.length) "").length := by
      rw [List.length_append, List.length_replicate]
      omega
    exact List.getElem?_set_self room
  · rw [Int.toNat_natCast, List.getElem?_set_ne other.symm, inputs_ofInputs,
      List.getElem?_append_left inside]

/-- An edit puts its text in its line, and leaves all lines as they are that it does not reach, and
so all lines above it. -/
theorem update_unreached {s : Sheet} (reachable : Reachable s) (i : Nat) (text : String) :
    (∃ l, (s.update i text).lines[i]? = some l ∧ l.input = text) ∧
      (∀ j l, s.lines[j]? = some l → ¬ Reached s (s.update i text) (i + 1) (j + 1) →
        (s.update i text).lines[j]? = some l) ∧
      ∀ j < i, ∀ l, s.lines[j]? = some l → (s.update i text).lines[j]? = some l := by
  obtain ⟨texts, rfl⟩ := reachable.exists_eq_ofInputs
  obtain ⟨others, updated, edited, same⟩ := exists_update texts i text
  rw [updated]
  refine ⟨?_, fun j l hl => lines_of_unreached same hl, fun j above l hl => ?_⟩
  · have line := lines_getElem?_ofInputs others i
    rw [edited, Option.map_some] at line
    exact ⟨_, line, rfl⟩
  · refine lines_of_unreached same hl ?_
    intro reached
    have := reached.le
    omega

theorem update_first_unreached :
    let s := ofInputs ["$x=1", "$x", "$y=3", "$y"]
    Reachable s ∧ ¬ Reached s (s.update (0 : Nat) "$x=2") 1 4 ∧
      (s.update (0 : Nat) "$x=2").lines[3]? = some ⟨3, 3, "$y", .value 3⟩ := by
  intro s
  have line : s.lines[3]? = some ⟨3, 3, "$y", .value 3⟩ := by decide +kernel
  have noReferences : ∀ l ∈ s.lines, lineReferences l.input = [] := by decide +kernel
  have apart : ∀ l ∈ s.lines, ∀ x ∈ variableReads l.input,
      ∀ m ∈ s.lines ++ (s.update (0 : Nat) "$x=2").lines, assigned? m.input = some x →
        m.number ≠ 3 → l.number ≠ 4 := by
    decide +kernel
  have third : ∀ l ∈ s.lines, l.number = 3 → variableReads l.input = [] := by decide +kernel
  have free {n : Nat} (reached : Reached s (s.update (0 : Nat) "$x=2") 1 n) :
      n ≠ 3 ∧ n ≠ 4 := by
    induction reached with
    | edited => decide
    | @byNumber l _ _ hl _ refers _ =>
      rw [noReferences l hl] at refers
      contradiction
    | @byName l m x _ assigning assigns hl _ reads ih =>
      refine ⟨fun h => ?_, ?_⟩
      · rw [third l hl h] at reads
        contradiction
      · have hx := assigned?_eq_some.mpr assigns
        exact apart l hl x reads m (List.mem_append.mpr assigning) hx ih.1
  have unreached : ¬ Reached s (s.update (0 : Nat) "$x=2") 1 4 := fun h => (free h).2 rfl
  exact ⟨.ofInputs _, unreached, (update_unreached (.ofInputs _) 0 "$x=2").2.1 3 _ line unreached⟩

end Sheet

end Worksheet
