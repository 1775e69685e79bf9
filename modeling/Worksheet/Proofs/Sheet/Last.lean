import Worksheet.Proofs.Sheet.Insert

/-!
The ways to add a last line. Putting a line in at the end writes anew the references that point past
the end. Such a reference stands for no line before or after, so no value changes: the sheet is the
same but for how those references are written and why their lines fail (`add_last_agree`).
-/

set_option autoImplicit false
set_option relaxedAutoImplicit false

namespace Worksheet

/-- Lines in the same place with outcomes that are the same but for the reason of a failure. -/
structure Line.Matches (l l' : Line) : Prop where
  id : l'.id = l.id
  position : l'.position = l.position
  outcome : l.outcome.Agrees l'.outcome

/-- Whether the lines that have a value end by number `c`. -/
def Scope.EndsBy (c : Nat) (s : Scope) : Prop := ∀ k v, s.lineValue? k = some v → k ≤ c

variable {c : Nat} {s : Scope} {text text' : String}

namespace Scope.EndsBy

private theorem after (h : s.EndsBy c) {n : Nat} (inside : n ≤ c) (o : Outcome) :
    (s.after n text o).EndsBy c :=
  of_lineValue?_after h (Int.ofNat_le.mpr inside) o

private theorem seenAlike (h : s.EndsBy c) (texts : TextRenumbered (openGap c) text text') :
    List.Forall₂ (Lexeme.SeenAlike s s) (lexemes text) (lexemes text') := by
  refine (forall₂_mem texts).imp fun x y ⟨hx, hy, moved⟩ =>
    ⟨moved.kind, fun other => ?_, fun _ => ?_⟩
  · rw [moved.same (if_neg other)]
  · cases number : x.reference? with
    | none => rw [moved.same number]
    | some k =>
      have number' : y.reference? = some (openGap c k) := by rw [moved.number, number]; rfl
      apply Option.ext
      intro w
      rw [Lexeme.valueIn?_eq_some hy number', Lexeme.valueIn?_eq_some hx number]
      unfold openGap
      split
      · next past =>
        constructor
        · rintro ⟨-, -, found⟩
          have := h _ _ found
          omega
        · rintro ⟨-, -, found⟩
          have := h _ _ found
          omega
      · exact Iff.rfl

private theorem lineOutcome_agrees (h : s.EndsBy c)
    (texts : TextRenumbered (openGap c) text text') :
    (lineOutcome text s).Agrees (lineOutcome text' s) :=
  lineOutcome_agrees_of texts.lineKind (value_iff_of_seenAlike (fun _ => rfl) (h.seenAlike texts))

private theorem after_eq (h : s.EndsBy c) (texts : TextRenumbered (openGap c) text text')
    (n : Nat) : s.after n text' (lineOutcome text' s) = s.after n text (lineOutcome text s) := by
  have agrees := h.lineOutcome_agrees texts
  generalize value : lineOutcome text s = o, lineOutcome text' s = o' at agrees
  cases agrees with
  | value v =>
    obtain ⟨-, value⟩ := lineOutcome_eq_value.mp value
    have assigned := (value_of_seenAlike (fun _ => rfl) (h.seenAlike texts) value).2
    rw [Scope.after, Scope.after, assigned]
  | failure why why' => rfl
  | blank => rfl

/-- A pass over lines that end by `c` does not tell how their references past `c` are written. -/
theorem run (h : s.EndsBy c) {texts texts' : List String}
    (renumbered : List.Forall₂ (TextRenumbered (openGap c)) texts texts') {n : Nat}
    (inside : n + texts.length ≤ c) :
    List.Forall₂ Line.Matches (evaluateFrom n texts s).1 (evaluateFrom n texts' s).1 ∧
      (evaluateFrom n texts' s).2 = (evaluateFrom n texts s).2 := by
  induction renumbered generalizing n s with
  | nil => exact ⟨.nil, rfl⟩
  | @cons text text' texts texts' first _ ih =>
    rw [List.length_cons] at inside
    rw [evaluateFrom_cons, evaluateFrom_cons, h.after_eq first (n + 1)]
    have next : (s.after (n + 1) text (lineOutcome text s)).EndsBy c := h.after (by omega) _
    obtain ⟨lines, scopes⟩ := ih next (n := n + 1) (by omega)
    exact ⟨.cons ⟨rfl, rfl, h.lineOutcome_agrees first⟩ lines, scopes⟩

end Scope.EndsBy

namespace Sheet

private theorem ofInputs_matches {texts texts' : List String}
    (renumbered : List.Forall₂ (TextRenumbered (openGap texts.length)) texts texts') :
    List.Forall₂ Line.Matches (ofInputs texts).lines (ofInputs texts').lines ∧
      (ofInputs texts').scope = (ofInputs texts).scope := by
  have start : Scope.empty.EndsBy texts.length := nofun
  exact start.run renumbered (n := 0) (by omega)

private theorem ofInputs_concat_matches {texts texts' : List String}
    (renumbered : List.Forall₂ (TextRenumbered (openGap texts.length)) texts texts')
    (text : String) :
    List.Forall₂ Line.Matches (ofInputs (texts ++ [text])).lines
        (ofInputs (texts' ++ [text])).lines ∧
      (ofInputs (texts' ++ [text])).scope = (ofInputs (texts ++ [text])).scope := by
  obtain ⟨lines, scopes⟩ := ofInputs_matches renumbered
  rw [ofInputs_concat, ofInputs_concat, scopes, ← renumbered.length_eq]
  exact ⟨List.rel_append lines (.cons ⟨rfl, rfl, .refl _⟩ .nil), rfl⟩

private theorem insertPlace_of_size_le {s : Sheet} {index : Int} (past : s.size ≤ index) :
    s.insertPlace index = s.size := by
  unfold insertPlace
  omega

theorem update_size (s : Sheet) (text : String) : s.update s.size text = s.append text := by
  have inside : ¬ (s.size : Int) < 0 := by omega
  have blank : s.size + 1 - s.size = 1 := by omega
  have set : (s.inputs ++ [""]).set s.size text = s.inputs ++ [text] := by
    rw [← length_inputs, List.set_append_right _ _ (Nat.le_refl _), Nat.sub_self,
      List.set_cons_zero]
  simp only [update, append, inside, if_false, Int.toNat_natCast, blank, List.replicate_one, set]

private theorem insert_past_eq_ok_iff {s s' : Sheet} {index : Int} {text : String}
    (past : s.size ≤ index) :
    s.insert index text = .ok s' ↔
      ∃ others, List.Forall₂ (fun old new => renumber (fun k => openGap s.size k) old = .ok new)
          s.inputs others ∧ s' = ofInputs (others ++ [text]) := by
  rw [insert_eq_ok_iff, insertPlace_of_size_le past]
  refine exists_congr fun others => and_congr_right fun moved => ?_
  rw [← length_inputs, moved.length_eq, List.insertIdx_length_self]

/-- A last line can be added in three ways: by replacing the text past the end, by adding it, and by
putting it in at the end. The first two are the same. So is the third where no line refers past the
end, and else it makes a sheet that matches line by line, with the same scope. -/
theorem add_last_agree (s : Sheet) (text : String) :
    s.update s.size text = s.append text ∧
      ∀ index : Int, s.size ≤ index →
        ((∀ l ∈ s.lines, ∀ k ∈ lineReferences l.input, k ≤ s.size) →
          s.insert index text = .ok (s.append text)) ∧
        ∀ s', s.insert index text = .ok s' →
          List.Forall₂ Line.Matches (s.append text).lines s'.lines ∧
            s'.scope = (s.append text).scope := by
  refine ⟨s.update_size text, fun index past => ⟨fun inside => ?_, fun s' done => ?_⟩⟩
  · refine (insert_past_eq_ok_iff past).mpr
      ⟨s.inputs, List.forall₂_same.mpr fun old hold => ?_, rfl⟩
    obtain ⟨l, hl, rfl⟩ := List.mem_map.mp hold
    refine renumber_eq_self fun k hk => ?_
    have := inside l hl k hk
    unfold openGap
    split <;> omega
  · obtain ⟨others, moved, rfl⟩ := (insert_past_eq_ok_iff past).mp done
    refine ofInputs_concat_matches ?_ text
    rw [length_inputs]
    exact moved.imp fun _ _ => textRenumbered_of_renumber

theorem add_last_agree_dangling :
    (ofInputs ["2", "$1 + $2147483647"]).update 2 "$1 * 3" =
        ofInputs ["2", "$1 + $2147483647", "$1 * 3"] ∧
      (ofInputs ["2", "$1 + $2"]).insert 7 "$1 * 3" = .ok (ofInputs ["2", "$1 + $2", "$1 * 3"]) ∧
      (ofInputs ["2", "$1 + $2147483647"]).insert 7 "$1 * 3" =
        .ok (ofInputs ["2", "$1 + $2147483648", "$1 * 3"]) ∧
      List.Forall₂ Line.Matches (ofInputs ["2", "$1 + $2147483647", "$1 * 3"]).lines
        (ofInputs ["2", "$1 + $2147483648", "$1 * 3"]).lines ∧
      (ofInputs ["2", "$1 + $2147483648", "$1 * 3"]).scope =
        (ofInputs ["2", "$1 + $2147483647", "$1 * 3"]).scope := by
  have done : (ofInputs ["2", "$1 + $2147483647"]).insert 7 "$1 * 3" =
      .ok (ofInputs ["2", "$1 + $2147483648", "$1 * 3"]) := by decide +kernel
  have within : ∀ l ∈ (ofInputs ["2", "$1 + $2"]).lines, ∀ k ∈ lineReferences l.input,
      k ≤ (ofInputs ["2", "$1 + $2"]).size := by decide +kernel
  obtain ⟨updated, inserted⟩ := add_last_agree (ofInputs ["2", "$1 + $2147483647"]) "$1 * 3"
  obtain ⟨-, inserted'⟩ := add_last_agree (ofInputs ["2", "$1 + $2"]) "$1 * 3"
  have past : ((ofInputs ["2", "$1 + $2147483647"]).size : Int) ≤ 7 := by decide +kernel
  have past' : ((ofInputs ["2", "$1 + $2"]).size : Int) ≤ 7 := by decide +kernel
  obtain ⟨lines, scopes⟩ := (inserted 7 past).2 _ done
  rw [append, inputs_ofInputs] at updated lines scopes
  refine ⟨updated, ?_, done, lines, scopes⟩
  rw [(inserted' 7 past').1 within, append, inputs_ofInputs]
  rfl

end Sheet

end Worksheet
