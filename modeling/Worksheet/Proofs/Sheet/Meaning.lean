import Worksheet.Proofs.Evaluation.Alike
import Worksheet.Proofs.References
import Worksheet.Proofs.Sheet.Pass

/-!
What a sheet means, without a pass. `Visible` says what a line sees: the values of the lines above
it, and for every variable the value that the nearest line above gave it. `Meaning` says of all
lines what they come to where each sees just that; the pass keeps to it (`meaning_ofInputs`), and no
other lines do (`Meaning.lines_eq`).
-/

set_option autoImplicit false
set_option relaxedAutoImplicit false

namespace Worksheet

structure Line.Binds (l : Line) (x : String) (v : Float) : Prop where
  assigns : ∃ e, parseText l.input = .tree (.assign x e)
  outcome : l.outcome = .value v

theorem Line.binds_iff {l : Line} {x : String} {v : Float} :
    l.Binds x v ↔ assigned? l.input = some x ∧ l.outcome = .value v := by
  rw [assigned?_eq_some]
  exact ⟨fun h => ⟨h.assigns, h.outcome⟩, fun h => ⟨h.1, h.2⟩⟩

private theorem variableValue?_after_line {s : Scope} {l : Line} {x : String} {v : Float} :
    (s.after l.number l.input l.outcome).variableValue? x = some v ↔
      l.Binds x v ∨ (∀ w, ¬ l.Binds x w) ∧ s.variableValue? x = some v := by
  simp only [Line.binds_iff]
  cases l.outcome with
  | value u =>
    by_cases assigns : assigned? l.input = some x <;> simp [assigns]
  | failure why => simp [Scope.after]
  | blank => simp [Scope.after]

private theorem lineValue?_after_line {s : Scope} {l : Line} {k : Int} {v : Float} :
    (s.after l.number l.input l.outcome).lineValue? k = some v ↔
      (l.number : Int) = k ∧ l.outcome = .value v ∨
        ((l.number : Int) = k → ∀ w, l.outcome ≠ .value w) ∧ s.lineValue? k = some v := by
  cases l.outcome with
  | value u =>
    by_cases same : (l.number : Int) = k <;> simp [same]
  | failure why => simp [Scope.after]
  | blank => simp [Scope.after]

/-- What the lines with numbers below `n` leave for a line to see: their values by number, and by
name the value of the last of them that binds the name. -/
structure Visible (lines : List Line) (n : Nat) (s : Scope) : Prop where
  line : ∀ (k : Int) (v : Float), s.lineValue? k = some v ↔
    ∃ l ∈ lines, (l.number : Int) = k ∧ l.number < n ∧ l.outcome = .value v
  name : ∀ (x : String) (v : Float), s.variableValue? x = some v ↔
    ∃ l ∈ lines, l.number < n ∧ l.Binds x v ∧
      ∀ m ∈ lines, l.number < m.number → m.number < n → ∀ w, ¬ m.Binds x w

/-- Lines in the places of their texts, each with the outcome that its text has in what it sees,
and the scope that all of them leave. -/
structure Meaning (texts : List String) (s : Sheet) : Prop where
  size : s.lines.length = texts.length
  place : ∀ (j : Nat) (l : Line), s.lines[j]? = some l →
    l.id = j ∧ l.position = j ∧ texts[j]? = some l.input
  nothing : ∀ l ∈ s.lines, LineKind.ofText l.input ≠ .expression → l.outcome = .blank
  sees : ∀ l ∈ s.lines, ∃ t, Visible s.lines l.number t
  outcome : ∀ l ∈ s.lines, LineKind.ofText l.input = .expression →
    ∀ t, Visible s.lines l.number t → l.outcome = (evaluateText l.input t).1
  scope : Visible s.lines (texts.length + 1) s.scope
  resolved : ∀ l ∈ s.lines, ∀ v, l.outcome = .value v → ∀ k, RefersTo l.input k →
    ∃ m ∈ s.lines, m.number = k ∧ m.number < l.number ∧ ∃ w, m.outcome = .value w

namespace Visible

variable {lines more : List Line} {n : Nat} {s t : Scope}

private theorem append_iff (h : ∀ l ∈ more, n ≤ l.number) :
    Visible (lines ++ more) n s ↔ Visible lines n s := by
  have unseen : ∀ l ∈ lines ++ more, l.number < n → l ∈ lines := fun l hl below =>
    (List.mem_append.mp hl).resolve_right fun later => absurd below (h l later).not_gt
  have line (k : Int) (v : Float) :
      (∃ l ∈ lines ++ more, (l.number : Int) = k ∧ l.number < n ∧ l.outcome = .value v) ↔
        ∃ l ∈ lines, (l.number : Int) = k ∧ l.number < n ∧ l.outcome = .value v :=
    ⟨fun ⟨l, hl, hk, below, value⟩ => ⟨l, unseen l hl below, hk, below, value⟩,
      fun ⟨l, hl, rest⟩ => ⟨l, List.mem_append_left _ hl, rest⟩⟩
  have name (x : String) (v : Float) :
      (∃ l ∈ lines ++ more, l.number < n ∧ l.Binds x v ∧
          ∀ m ∈ lines ++ more, l.number < m.number → m.number < n → ∀ w, ¬ m.Binds x w) ↔
        ∃ l ∈ lines, l.number < n ∧ l.Binds x v ∧
          ∀ m ∈ lines, l.number < m.number → m.number < n → ∀ w, ¬ m.Binds x w :=
    ⟨fun ⟨l, hl, below, binds, last⟩ =>
      ⟨l, unseen l hl below, below, binds, fun m hm => last m (List.mem_append_left _ hm)⟩,
    fun ⟨l, hl, below, binds, last⟩ =>
      ⟨l, List.mem_append_left _ hl, below, binds,
        fun m hm after hn => last m (unseen m hm hn) after hn⟩⟩
  constructor
  · exact fun h =>
      ⟨fun k v => (h.line k v).trans (line k v), fun x v => (h.name x v).trans (name x v)⟩
  · exact fun h =>
      ⟨fun k v => (h.line k v).trans (line k v).symm, fun x v => (h.name x v).trans (name x v).symm⟩

private theorem take_iff (place : ∀ (j : Nat) (l : Line), lines[j]? = some l → l.position = j)
    (j : Nat) : Visible (lines.take j) (j + 1) s ↔ Visible lines (j + 1) s := by
  have later : ∀ l ∈ lines.drop j, j + 1 ≤ l.number := fun l hl => by
    obtain ⟨i, hi⟩ := List.mem_iff_getElem?.mp hl
    rw [List.getElem?_drop] at hi
    have := place _ _ hi
    rw [Line.number]
    omega
  rw [← append_iff later, List.take_append_drop]

private theorem variableValue?_eq (hs : Visible lines n s) (ht : Visible lines n t) (x : String) :
    t.variableValue? x = s.variableValue? x :=
  Option.ext fun v => (ht.name x v).trans (hs.name x v).symm

private theorem lineValue?_eq (hs : Visible lines n s) (ht : Visible lines n t) (k : Int) :
    t.lineValue? k = s.lineValue? k :=
  Option.ext fun v => (ht.line k v).trans (hs.line k v).symm

private theorem evaluateText_eq (hs : Visible lines n s) (ht : Visible lines n t) (text : String) :
    (evaluateText text t).1 = (evaluateText text s).1 :=
  evaluateText_congr (hs.variableValue?_eq ht) (hs.lineValue?_eq ht) text

private theorem concat {l : Line} (h : Visible lines l.number s)
    (below : ∀ m ∈ lines, m.number < l.number) :
    Visible (lines ++ [l]) (l.number + 1) (s.after l.number l.input l.outcome) where
  line k v := by
    rw [lineValue?_after_line]
    constructor
    · rintro (⟨hk, value⟩ | ⟨-, before⟩)
      · exact ⟨l, List.mem_concat_self, hk, Nat.lt_succ_self _, value⟩
      · obtain ⟨m, hm, hk, hn, value⟩ := (h.line k v).mp before
        exact ⟨m, List.mem_append_left _ hm, hk, Nat.lt_succ_of_lt hn, value⟩
    · rintro ⟨m, hm, hk, -, value⟩
      rcases List.mem_append.mp hm with hm | hm
      · refine .inr ⟨fun same => ?_, (h.line k v).mpr ⟨m, hm, hk, below m hm, value⟩⟩
        exact absurd (below m hm) (by omega)
      · obtain rfl := List.mem_singleton.mp hm
        exact .inl ⟨hk, value⟩
  name x v := by
    rw [variableValue?_after_line]
    constructor
    · rintro (binds | ⟨free, before⟩)
      · refine ⟨l, List.mem_concat_self, Nat.lt_succ_self _, binds, fun m _ after hn => ?_⟩
        exact absurd after (Nat.lt_succ_iff.mp hn).not_gt
      · obtain ⟨m, hm, hn, binds, last⟩ := (h.name x v).mp before
        refine ⟨m, List.mem_append_left _ hm, Nat.lt_succ_of_lt hn, binds, fun p hp after _ => ?_⟩
        rcases List.mem_append.mp hp with hp | hp
        · exact last p hp after (below p hp)
        · exact List.mem_singleton.mp hp ▸ free
    · rintro ⟨m, hm, -, binds, last⟩
      rcases List.mem_append.mp hm with hm | hm
      · refine .inr ⟨last l List.mem_concat_self (below m hm) (Nat.lt_succ_self _), ?_⟩
        exact (h.name x v).mpr ⟨m, hm, below m hm, binds, fun p hp after hn =>
          last p (List.mem_append_left _ hp) after (Nat.lt_succ_of_lt hn)⟩
      · exact .inl (List.mem_singleton.mp hm ▸ binds)

end Visible

namespace Meaning

variable {texts : List String} {s t : Sheet}

private theorem line_eq (hs : Meaning texts s) (ht : Meaning texts t) {j : Nat} {l m : Line}
    (above : s.lines.take j = t.lines.take j) (hl : s.lines[j]? = some l)
    (hm : t.lines[j]? = some m) : l = m := by
  obtain ⟨idl, placel, textl⟩ := hs.place j l hl
  obtain ⟨idm, placem, textm⟩ := ht.place j m hm
  have input : l.input = m.input := Option.some.inj (textl.symm.trans textm)
  have meml := List.mem_of_getElem? hl
  have memm := List.mem_of_getElem? hm
  have outcome : l.outcome = m.outcome := by
    by_cases expression : LineKind.ofText l.input = .expression
    · obtain ⟨u, seen⟩ := hs.sees l meml
      have seen' : Visible t.lines m.number u := by
        rw [Line.number, placel, ← Visible.take_iff (fun i _ h => (hs.place i _ h).2.1), above,
          Visible.take_iff (fun i _ h => (ht.place i _ h).2.1)] at seen
        rwa [Line.number, placem]
      rw [hs.outcome l meml expression u seen, ht.outcome m memm (input ▸ expression) u seen',
        input]
    · rw [hs.nothing l meml expression, ht.nothing m memm (input ▸ expression)]
  obtain ⟨id, position, text, o⟩ := l
  obtain ⟨id', position', text', o'⟩ := m
  dsimp only at idl placel idm placem input outcome
  rw [idl, idm, placel, placem, input, outcome]

theorem lines_eq (hs : Meaning texts s) (ht : Meaning texts t) : s.lines = t.lines := by
  have above (j : Nat) : s.lines.take j = t.lines.take j := by
    induction j with
    | zero => rfl
    | succ j ih =>
      rw [List.take_add_one, List.take_add_one, ih]
      congr 2
      cases hl : s.lines[j]? with
      | some l =>
        cases hm : t.lines[j]? with
        | some m => rw [hs.line_eq ht ih hl hm]
        | none =>
          have inside := (List.getElem?_eq_some_iff.mp hl).1
          have past := List.getElem?_eq_none_iff.mp hm
          exact absurd past (by rw [ht.size, ← hs.size]; exact inside.not_ge)
      | none =>
        have past := List.getElem?_eq_none_iff.mp hl
        rw [hs.size, ← ht.size] at past
        rw [List.getElem?_eq_none past]
  have whole := above texts.length
  rwa [List.take_of_length_le hs.size.le, List.take_of_length_le ht.size.le] at whole

end Meaning

namespace Sheet

theorem number_of_getElem? {texts : List String} {j : Nat} {l : Line}
    (h : (ofInputs texts).lines[j]? = some l) : l.number = j + 1 := by
  obtain ⟨text, -, rfl⟩ := exists_text h
  rfl

theorem number_le {texts : List String} {l : Line} (hl : l ∈ (ofInputs texts).lines) :
    1 ≤ l.number ∧ l.number ≤ texts.length := by
  obtain ⟨j, hj⟩ := List.mem_iff_getElem?.mp hl
  have inside := (List.getElem?_eq_some_iff.mp hj).1
  have length : (ofInputs texts).lines.length = texts.length := size_ofInputs texts
  have number := number_of_getElem? hj
  omega

theorem visible_ofInputs (texts : List String) :
    Visible (ofInputs texts).lines (texts.length + 1) (ofInputs texts).scope := by
  induction texts using List.reverseRecOn with
  | nil =>
    exact ⟨fun _ _ => ⟨nofun, fun ⟨_, hl, _⟩ => nomatch hl⟩,
      fun _ _ => ⟨nofun, fun ⟨_, hl, _⟩ => nomatch hl⟩⟩
  | append_singleton texts text ih =>
    rw [ofInputs_concat, List.length_append]
    exact ih.concat (l := ⟨texts.length, texts.length, text, _⟩)
      fun m hm => Nat.lt_succ_of_le (number_le hm).2

theorem lineValue?_eq_some {texts : List String} {n : Nat} {t : Scope}
    (seen : Visible (ofInputs texts).lines n t) (i : Nat) (w : Float) :
    t.lineValue? (i + 1 : Nat) = some w ↔
      i + 1 < n ∧ ∃ m, (ofInputs texts).lines[i]? = some m ∧ m.outcome = .value w := by
  rw [seen.line]
  constructor
  · rintro ⟨m, hm, number, above, value⟩
    obtain ⟨j, hj⟩ := List.mem_iff_getElem?.mp hm
    have place := number_of_getElem? hj
    obtain rfl : j = i := by omega
    exact ⟨by omega, m, hj, value⟩
  · rintro ⟨above, m, hm, value⟩
    have place := number_of_getElem? hm
    exact ⟨m, List.mem_of_getElem? hm, by omega, by omega, value⟩

theorem visible_take {texts : List String} {j : Nat} (hj : j ≤ texts.length) :
    Visible (ofInputs texts).lines (j + 1) (ofInputs (texts.take j)).scope := by
  have before := visible_ofInputs (texts.take j)
  rw [lines_take, List.length_take, Nat.min_eq_left hj] at before
  exact (Visible.take_iff (fun _ _ h => Nat.succ.inj (number_of_getElem? h)) j).mp before

/-- The pass over some texts works out what they mean. -/
theorem meaning_ofInputs (texts : List String) : Meaning texts (ofInputs texts) := by
  have line {l : Line} (hl : l ∈ (ofInputs texts).lines) : ∃ j, j ≤ texts.length ∧
      l.number = j + 1 ∧ l.outcome = lineOutcome l.input (ofInputs (texts.take j)).scope := by
    obtain ⟨j, hj⟩ := List.mem_iff_getElem?.mp hl
    rw [lines_getElem?_ofInputs, Option.map_eq_some_iff] at hj
    obtain ⟨text, ht, rfl⟩ := hj
    exact ⟨j, (List.getElem?_eq_some_iff.mp ht).1.le, rfl, rfl⟩
  refine ⟨size_ofInputs texts, fun j l hl => ?_, fun l hl other => ?_, fun l hl => ?_,
    fun l hl expression t ht => ?_, visible_ofInputs texts, fun l hl v value k refers => ?_⟩
  · rw [lines_getElem?_ofInputs, Option.map_eq_some_iff] at hl
    obtain ⟨text, ht, rfl⟩ := hl
    exact ⟨rfl, rfl, ht⟩
  · obtain ⟨j, -, -, outcome⟩ := line hl
    exact outcome.trans (lineOutcome_eq_blank.mpr other)
  · obtain ⟨j, inside, number, -⟩ := line hl
    exact ⟨_, number ▸ visible_take inside⟩
  · obtain ⟨j, inside, number, outcome⟩ := line hl
    rw [outcome, lineOutcome, if_pos expression]
    exact ht.evaluateText_eq (number ▸ visible_take inside) l.input
  · obtain ⟨j, inside, number, outcome⟩ := line hl
    obtain ⟨-, evaluated⟩ := lineOutcome_eq_value.mp (outcome.symm.trans value)
    obtain ⟨w, hw⟩ := exists_lineValue_of_refersTo evaluated refers
    obtain ⟨m, hm, hk, above, result⟩ := ((visible_take inside).line k w).mp hw
    exact ⟨m, hm, by omega, number ▸ above, w, result⟩

end Sheet

end Worksheet
