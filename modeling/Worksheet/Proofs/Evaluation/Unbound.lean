import Worksheet.Proofs.Evaluation.Alike

/-!
Lines that want for a value. A line with a value has bound all its variables and references but the
variable that it assigns, and a line that fails for want of a value names the first of them that
has none (`evaluateText_unbound`).
-/

set_option autoImplicit false
set_option relaxedAutoImplicit false

namespace Worksheet

variable {s : Scope}

structure Lexeme.BoundIn (s : Scope) (x : Lexeme) : Prop where
  name : x.kind = .name → ∃ v, s.variableValue? x.text = some v
  line : x.kind = .lineRef → ∃ v, x.valueIn? s = some v

/-- A variable or a reference without a value, and what a message shows of it: the name of the
variable, or the number that the reference gives. -/
inductive Lexeme.Lacks (s : Scope) (x : Lexeme) (shown : String) : Prop
  | name (kind : x.kind = .name) (text : x.text = shown) (lacks : s.variableValue? shown = none)
  | line {k : Int} (kind : x.kind = .lineRef) (number : lineNumber? x.text = some k)
      (text : String.ofList (Numeral.ofInt k) = shown) (lacks : s.lineValue? k = none)

def Mention.shown : Mention → String
  | .name x => x
  | .line k => String.ofList (Numeral.ofInt k)

private theorem Mention.message_unbound (m : Mention) : m.unbound.message = "? $" ++ m.shown := by
  cases m <;> rfl

private theorem Fault.Arises.of_message {ms : List Mention} {why : Fault} {shown : String}
    (h : why.Arises s ms) (message : why.message = "? $" ++ shown) :
    ∃ before m after, ms = before ++ m :: after ∧ (∀ b ∈ before, b.BoundIn s) ∧ ¬ m.BoundIn s ∧
      m.shown = shown := by
  have letters := congrArg String.toList message
  rw [String.toList_append] at letters
  cases h with
  | @unbound before after m split bound lacks =>
    rw [m.message_unbound] at message
    exact ⟨before, m, after, split, bound, lacks, (String.append_right_inj _).mp message⟩
  | infinite negative =>
    cases negative <;> exact absurd (List.cons.inj letters).1 (by decide)
  | notANumber => exact absurd (List.cons.inj letters).1 (by decide)

private theorem Lexeme.lacks_of_mention? {x : Lexeme} {m : Mention} (mention : x.mention? = some m)
    (lacks : ¬ m.BoundIn s) : x.Lacks s m.shown := by
  unfold Lexeme.mention? at mention
  split at mention
  · next hk =>
    obtain rfl := Option.some.inj mention
    exact .name hk rfl (Option.eq_none_iff_forall_ne_some.mpr fun v hv => lacks ⟨v, hv⟩)
  · next hk =>
    obtain ⟨k, number, rfl⟩ := Option.map_eq_some_iff.mp mention
    exact .line hk number rfl (Option.eq_none_iff_forall_ne_some.mpr fun v hv => lacks ⟨v, hv⟩)
  · contradiction

private theorem Lexeme.boundIn_of_mention? {x : Lexeme} (legible : x.Legible)
    (bound : ∀ m, x.mention? = some m → m.BoundIn s) : x.BoundIn s where
  name hk := bound (.name x.text) (by rw [Lexeme.mention?, hk])
  line hk := by
    obtain ⟨k, number⟩ := legible.number hk
    obtain ⟨v, hv⟩ := bound (.line k) (by rw [Lexeme.mention?, hk]; simp [number])
    exact ⟨v, by rw [Lexeme.valueIn?, number, Option.bind_some, hv]⟩

theorem DerivesLine.fault_cases {xs : List Lexeme} {e : Expr} (line : DerivesLine xs e)
    {text : String} (parsed : parseText text = .tree e) {why : Fault}
    (failed : (evaluateText text s).1 = .failure why) :
    why = .tooDeep ∨ why.Arises s e.mentions := by
  have steps := line.yields s heightLimit
  rw [evaluateText, parsed, Parse.evaluate, Expr.evaluate] at failed
  split at failed
  · split at failed
    · contradiction
    · obtain rfl := Outcome.failure.inj failed
      unfold Fault.ofValue
      split
      · exact .inr .notANumber
      · exact .inr (.infinite _)
  · next why' found =>
    obtain rfl := Outcome.failure.inj failed
    rcases (found ▸ steps).of_error with deep | value
    · exact .inl deep
    · exact .inr (value ▸ line.answers (s := s)).of_error

private theorem DerivesLine.arises_of_failure {xs : List Lexeme} {e : Expr}
    (line : DerivesLine xs e) {text shown : String} (parsed : parseText text = .tree e)
    {why : Fault} (failed : (evaluateText text s).1 = .failure why)
    (message : why.message = "? $" ++ shown) : why.Arises s e.mentions := by
  rcases line.fault_cases parsed failed with rfl | arises
  · have letters := congrArg String.toList message
    rw [String.toList_append] at letters
    exact absurd (List.cons.inj letters).2.symm (List.cons_ne_nil _ _)
  · exact arises

/-- A line with a value has bound all that it reads, and one that fails for want of a value names
the first mark that has none. -/
theorem evaluateText_unbound {text : String} {e : Expr} (parsed : parseText text = .tree e)
    (s : Scope) :
    (∀ v, (evaluateText text s).1 = .value v → ∀ x ∈ withoutTarget (lexemes text), x.BoundIn s) ∧
      ∀ why shown, (evaluateText text s).1 = .failure why → why.message = "? $" ++ shown →
        ∃ before x after, withoutTarget (lexemes text) = before ++ x :: after ∧
          x.Lacks s shown ∧ ∀ y ∈ before, y.BoundIn s := by
  have line := derives_of_parseText parsed
  have legible : ∀ x ∈ withoutTarget (lexemes text), x.Legible := fun x hx =>
    line.legible x (mem_of_mem_withoutTarget hx)
  constructor
  · intro v value x hx
    obtain ⟨e', after, parsed', evaluated, -⟩ := evaluateText_eq_value value
    obtain rfl := Parse.tree.inj (parsed.symm.trans parsed')
    refine Lexeme.boundIn_of_mention? (legible x hx) fun m mention => (line.eval evaluated).2 m ?_
    rw [line.mentions]
    exact List.mem_filterMap.mpr ⟨x, hx, mention⟩
  · intro why shown failed message
    obtain ⟨first, m, rest, split, bound, lacks, rfl⟩ :=
      (line.arises_of_failure parsed failed message).of_message message
    rw [line.mentions] at split
    obtain ⟨front, back, marks, hfront, hback⟩ := List.filterMap_eq_append_iff.mp split
    obtain ⟨plain, x, after, hback', silent, mention, -⟩ := List.filterMap_eq_cons_iff.mp hback
    refine ⟨front ++ plain, x, after, ?_, Lexeme.lacks_of_mention? mention lacks, ?_⟩
    · rw [marks, hback', List.append_assoc]
    · intro y hy
      have member : y ∈ withoutTarget (lexemes text) := by
        rw [marks, hback']
        rcases List.mem_append.mp hy with hy | hy <;> simp [hy]
      refine Lexeme.boundIn_of_mention? (legible y member) fun m' mention' => ?_
      rcases List.mem_append.mp hy with hy | hy
      · exact bound m' (hfront ▸ List.mem_filterMap.mpr ⟨y, hy, mention'⟩)
      · exact absurd (mention'.symm.trans (silent y hy)) nofun

theorem evaluateText_unbound_line :
    parseText "$a + $01 + $b" =
        .tree (.binary .add (.binary .add (.var "a") (.line 1)) (.var "b")) ∧
      (evaluateText "$a + $01 + $b" ⟨[("a", 2)], []⟩).1 = .failure (.unboundLine 1) ∧
      ∃ before x after, withoutTarget (lexemes "$a + $01 + $b") = before ++ x :: after ∧
        x.Lacks ⟨[("a", 2)], []⟩ "1" ∧ ∀ y ∈ before, y.BoundIn ⟨[("a", 2)], []⟩ := by
  have parsed : parseText "$a + $01 + $b" =
      .tree (.binary .add (.binary .add (.var "a") (.line 1)) (.var "b")) := by decide +kernel
  have failed : (evaluateText "$a + $01 + $b" ⟨[("a", 2)], []⟩).1 = .failure (.unboundLine 1) := by
    decide +kernel
  have unbound := evaluateText_unbound parsed ⟨[("a", 2)], []⟩
  exact ⟨parsed, failed, unbound.2 _ "1" failed (by decide +kernel)⟩

end Worksheet
