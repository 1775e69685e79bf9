import Worksheet.Evaluation
import Worksheet.Proofs.Expr.Occurrences

/-!
The value of an expression, and the order in which it is worked out. An expression with no
assignment within it has its value whatever its height, unless the bound on height is met, and
leaves the scope as it was (`Expr.AssignFree.yields`). It is worked out from the left to the right,
so one with a value has bound all that it mentions, and one that fails for want of a value names the
first of its mentions without one (`Expr.Formed.answers`).
-/

set_option autoImplicit false
set_option relaxedAutoImplicit false

namespace Worksheet

/-! ## Values -/

variable {s : Scope}

/-- The value of an expression in a scope that no part of it changes. -/
def Expr.value (s : Scope) : Expr → Except Fault Float
  | .number v => .ok v
  | .binary op left right => do
    let a ← left.value s
    let b ← right.value s
    op.apply a b
  | .neg operand => do
    let a ← operand.value s
    .ok (-a)
  | .percent operand => do
    let a ← operand.value s
    .ok (a / 100)
  | .percentOf operand base => do
    let a ← operand.value s
    let b ← base.value s
    .ok (b * (a / 100))
  | .var name =>
    match s.variableValue? name with
    | some v => .ok v
    | none => .error (.unboundName name)
  | .line n =>
    match s.lineValue? n with
    | some v => .ok v
    | none => .error (.unboundLine n)
  | .assign _ value => value.value s
  | .call function argument =>
    match Builtin.named? function with
    | none => .error (.unknownFunction function)
    | some f => do
      let a ← argument.value s
      f.apply a

/-- An evaluation that ends at the bound on height, or gives what `r` says and a scope for it. -/
inductive Yields (after : Float → Scope) (r : Except Fault Float) :
    Except Fault (Float × Scope) → Prop
  | tooDeep : Yields after r (.error .tooDeep)
  | done : Yields after r (r >>= fun v => .ok (v, after v))

namespace Yields

variable {after : Float → Scope} {r : Except Fault Float}

theorem bind {x : Except Fault (Float × Scope)} {g : Float → Except Fault Float}
    {f : Float × Scope → Except Fault (Float × Scope)} (h : Yields (fun _ => s) r x)
    (next : ∀ v, Yields after (g v) (f (v, s))) : Yields after (r >>= g) (x >>= f) := by
  cases h with
  | tooDeep => exact .tooDeep
  | done =>
    cases r with
    | error why => exact .done
    | ok v => exact next v

theorem of_ok {v : Float} {t : Scope} (h : Yields after r (.ok (v, t))) :
    r = .ok v ∧ t = after v := by
  generalize hx : (.ok (v, t) : Except Fault (Float × Scope)) = x at h
  cases h with
  | tooDeep => exact nomatch hx
  | done =>
    cases r with
    | error why => exact nomatch hx
    | ok w =>
      obtain ⟨rfl, rfl⟩ := Prod.mk.inj (Except.ok.inj hx)
      exact ⟨rfl, rfl⟩

theorem of_error {why : Fault} (h : Yields after r (.error why)) :
    why = .tooDeep ∨ r = .error why := by
  generalize hx : (.error why : Except Fault (Float × Scope)) = x at h
  cases h with
  | tooDeep => exact .inl (Except.error.inj hx)
  | done =>
    cases r with
    | error why' => exact .inr (congrArg _ (Except.error.inj hx).symm)
    | ok w => exact nomatch hx

end Yields

theorem Expr.AssignFree.yields {e : Expr} (free : e.AssignFree) (d : Nat) :
    Yields (fun _ => s) (e.value s) (e.eval d s) := by
  induction d generalizing e with
  | zero => cases e <;> exact .tooDeep
  | succ d ih =>
    cases e with
    | number v => exact .done
    | binary op left right => exact (ih free.1).bind fun a => (ih free.2).bind fun b => .done
    | neg operand => exact (ih (e := operand) free).bind fun a => .done
    | percent operand => exact (ih (e := operand) free).bind fun a => .done
    | percentOf operand base => exact (ih free.1).bind fun a => (ih free.2).bind fun b => .done
    | var name =>
      rw [Expr.value, Expr.eval]
      cases s.variableValue? name <;> exact .done
    | line k =>
      rw [Expr.value, Expr.eval]
      cases s.lineValue? k <;> exact .done
    | assign name value => exact free.elim
    | call function argument =>
      rw [Expr.value, Expr.eval]
      cases Builtin.named? function with
      | none => exact .done
      | some f => exact (ih (e := argument) free).bind fun a => .done

theorem Expr.eval_succ {e : Expr} {d : Nat} {r : Float × Scope} (h : e.eval d s = .ok r) :
    e.eval (d + 1) s = .ok r := by
  induction d generalizing e s r with
  | zero => cases e <;> exact nomatch h
  | succ d ih =>
    cases e with
    | number v => exact h
    | binary op left right =>
      refine bind_ok_mono (fun r => ih) (fun r hr => ?_) h
      exact bind_ok_mono (fun r => ih) (fun r hr => hr) hr
    | neg operand => exact bind_ok_mono (fun r => ih) (fun r hr => hr) h
    | percent operand => exact bind_ok_mono (fun r => ih) (fun r hr => hr) h
    | percentOf operand base =>
      refine bind_ok_mono (fun r => ih) (fun r hr => ?_) h
      exact bind_ok_mono (fun r => ih) (fun r hr => hr) hr
    | var name => exact h
    | line k => exact h
    | assign name value => exact bind_ok_mono (fun r => ih) (fun r hr => hr) h
    | call function argument =>
      rw [Expr.eval] at h ⊢
      cases hf : Builtin.named? function with
      | none => rw [hf] at h; exact nomatch h
      | some f =>
        rw [hf] at h
        exact bind_ok_mono (fun r => ih) (fun r hr => hr) h

/-! ## Order -/

def Mention.BoundIn (s : Scope) : Mention → Prop
  | .name x => ∃ v, s.variableValue? x = some v
  | .line k => ∃ v, s.lineValue? k = some v

def Mention.unbound : Mention → Fault
  | .name x => .unboundName x
  | .line k => .unboundLine k

variable {ms ms' : List Mention}

/-- The causes for which what mentions `ms` fails: the first mention without a value, or an
operation without a finite one. -/
inductive Fault.Arises (s : Scope) (ms : List Mention) : Fault → Prop
  | unbound {before after : List Mention} {m : Mention} (split : ms = before ++ m :: after)
      (bound : ∀ b ∈ before, b.BoundIn s) (lacks : ¬ m.BoundIn s) : Arises s ms m.unbound
  | infinite (negative : Bool) : Arises s ms (.infinite negative)
  | notANumber : Arises s ms .notANumber

namespace Fault.Arises

variable {why : Fault}

private theorem alone {m : Mention} (lacks : ¬ m.BoundIn s) : m.unbound.Arises s [m] :=
  .unbound (List.nil_append _).symm nofun lacks

private theorem before (h : why.Arises s ms) (ms' : List Mention) : why.Arises s (ms ++ ms') := by
  cases h with
  | unbound split bound lacks =>
    exact .unbound (by rw [split, List.append_assoc, List.cons_append]) bound lacks
  | infinite negative => exact .infinite negative
  | notANumber => exact .notANumber

private theorem after (h : why.Arises s ms') (bound : ∀ m ∈ ms, m.BoundIn s) :
    why.Arises s (ms ++ ms') := by
  cases h with
  | unbound split bound' lacks =>
    exact .unbound (by rw [split, List.append_assoc])
      (List.forall_mem_append.mpr ⟨bound, bound'⟩) lacks
  | infinite negative => exact .infinite negative
  | notANumber => exact .notANumber

end Fault.Arises

/-- A computation that has bound all its mentions where it has a value, and fails for a cause that
goes with them. -/
abbrev Answers (s : Scope) (ms : List Mention) : Except Fault Float → Prop :=
  Ends (Fault.Arises s ms) fun _ => ∀ m ∈ ms, m.BoundIn s

namespace Answers

private theorem divide (bound : ∀ m ∈ ms, m.BoundIn s) (a b : Float) :
    Answers s ms (Arithmetic.divide a b) := by
  unfold Arithmetic.divide
  split
  · split
    · exact .error .notANumber
    · exact .error (.infinite _)
  · exact .ok bound

private theorem power (bound : ∀ m ∈ ms, m.BoundIn s) (a b : Float) :
    Answers s ms (Arithmetic.power a b) := by
  unfold Arithmetic.power
  extract_lets odd r
  split
  · exact .ok bound
  split
  · exact .ok bound
  split
  · exact .ok bound
  split
  · exact .ok bound
  split
  · exact .ok bound
  split
  · split
    · exact .ok bound
    · exact .error (.infinite _)
  split
  · exact .error .notANumber
  split
  · exact .error (.infinite _)
  · exact .ok bound

private theorem apply (bound : ∀ m ∈ ms, m.BoundIn s) (op : BinaryOp) (a b : Float) :
    Answers s ms (op.apply a b) := by
  cases op with
  | divide => exact divide bound a b
  | power => exact power bound a b
  | _ => exact .ok bound

private theorem sqrt (bound : ∀ m ∈ ms, m.BoundIn s) (a : Float) :
    Answers s ms (Builtin.sqrt.apply a) := by
  rw [Builtin.apply]
  split
  · exact .error .notANumber
  · exact .ok bound

private theorem binary {left right : Except Fault Float} (hl : Answers s ms left)
    (hr : (∀ m ∈ ms, m.BoundIn s) → Answers s (ms ++ ms') right) (op : BinaryOp) :
    Answers s (ms ++ ms') (left >>= fun a => right >>= op.apply a) := by
  refine (hl.imp (fun _ h => h.before ms') fun _ h => h).bind fun a boundl => ?_
  exact (hr boundl).bind fun b bound => apply bound op a b

private theorem next {right : Except Fault Float} (hr : Answers s ms' right)
    (bound : ∀ m ∈ ms, m.BoundIn s) : Answers s (ms ++ ms') right :=
  hr.imp (fun _ h => h.after bound) fun _ h => List.forall_mem_append.mpr ⟨bound, h⟩

end Answers

/-- Evaluation goes from the left to the right. -/
theorem Expr.Formed.answers {e : Expr} (h : e.Formed) : Answers s e.mentions (e.value s) := by
  induction h with
  | number v => exact .ok nofun
  | var name =>
    rw [Expr.value]
    cases hv : s.variableValue? name with
    | none =>
      have lacks : ¬ (Mention.name name).BoundIn s := by
        rintro ⟨v, h⟩
        exact Option.some_ne_none v (h.symm.trans hv)
      exact .error (.alone lacks)
    | some v => exact .ok fun m hm => List.mem_singleton.mp hm ▸ ⟨v, hv⟩
  | @line k _ _ =>
    rw [Expr.value]
    cases hv : s.lineValue? k with
    | none =>
      have lacks : ¬ (Mention.line k).BoundIn s := by
        rintro ⟨v, h⟩
        exact Option.some_ne_none v (h.symm.trans hv)
      exact .error (.alone lacks)
    | some v => exact .ok fun m hm => List.mem_singleton.mp hm ▸ ⟨v, hv⟩
  | neg _ ih => exact ih.bind fun a bound => .ok bound
  | percent _ ih => exact ih.bind fun a bound => .ok bound
  | sqrt _ ih => exact ih.bind fun a bound => Answers.sqrt bound a
  | binary _ _ _ ihl ihr => exact ihl.binary ihr.next _
  | sum _ _ _ _ ihl ihr => exact ihl.binary ihr.next _
  | share _ _ _ ihl iho =>
    refine ihl.binary (fun boundl => ?_) _
    refine (iho.next boundl).bind fun q bound => ?_
    exact (ihl.imp (fun _ h => h.before _) fun _ _ => bound).bind fun b bound => .ok bound

theorem DerivesLine.answers {xs : List Lexeme} {e : Expr} (line : DerivesLine xs e) :
    Answers s e.mentions (e.value s) := by
  cases line with
  | sum h => exact h.formed.answers
  | assign _ _ h => exact h.formed.answers

end Worksheet
