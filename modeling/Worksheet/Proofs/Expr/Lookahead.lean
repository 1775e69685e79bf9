import Worksheet.Proofs.Expr.Completeness

/-!
What reading looks at. It decides by the marks up to the one at which it stops; the marks after that
one could be any others (`read_sameUpTo`). So where reading stops at a mark of its own accord, no
phrase begins with the marks up to that one (`LeavesAt.not_derives`); and where a reference may come
next, one that is no line is refused as such (`read_unreadable`).
-/

set_option autoImplicit false
set_option relaxedAutoImplicit false

namespace Worksheet

variable {x y : Lexeme} {us vs : List Lexeme}

/-- Whether reading takes a mark `y` for `x` until it wants an operand: `y` is that mark, or both
are references, of which `x` is a line and `y` is none. -/
inductive Lexeme.StandsFor (x : Lexeme) : Lexeme → Prop
  | self : StandsFor x x
  | reference {y : Lexeme} {k : Int} (hx : x.kind = .lineRef) (hy : y.kind = .lineRef)
      (number : lineNumber? x.text = some k) (unreadable : lineNumber? y.text = none) :
      StandsFor x y

namespace Lexeme.StandsFor

private theorem kind (h : x.StandsFor y) : y.kind = x.kind := by
  cases h with
  | self => rfl
  | reference hx hy _ _ => exact hy.trans hx.symm

private theorem eq_of_ne (h : x.StandsFor y) (hx : x.kind ≠ .lineRef) : y = x := by
  cases h with
  | self => rfl
  | reference hx' _ _ _ => exact absurd hx' hx

end Lexeme.StandsFor

abbrev Reading.noLine (y : Lexeme) (vs : List Lexeme) : Reading :=
  .error ⟨.lineOutOfRange y.text, y :: vs⟩

/-- Readings of marks that are the same up to a mark `x` in the one and `y` in the other, with `us`
and `vs` after it. They come to the same and leave the same marks up to that one, or the first of
them has gone past it; then the second has refused `y` if that is another mark. -/
inductive Reading.SameUpTo (x y : Lexeme) (us vs : List Lexeme) : Reading → Reading → Prop
  | ok (e : Expr) (front : List Lexeme) :
      SameUpTo x y us vs (.ok (e, front ++ x :: us)) (.ok (e, front ++ y :: vs))
  | error {why why' : SyntaxError} (front : List Lexeme)
      (deep : why = .tooDeep ↔ why' = .tooDeep) :
      SameUpTo x y us vs (.error ⟨why, front ++ x :: us⟩) (.error ⟨why', front ++ y :: vs⟩)
  | past {r r' : Reading} (h : r.Within us) (h' : y = x ∨ r' = Reading.noLine y vs) :
      SameUpTo x y us vs r r'

namespace Reading.SameUpTo

private theorem bind {r r' : Reading} {f f' : Expr × List Lexeme → Reading}
    (h : SameUpTo x y us vs r r') (within : ∀ s, (f s).Within s.2)
    (next : ∀ e front, SameUpTo x y us vs (f (e, front ++ x :: us)) (f' (e, front ++ y :: vs))) :
    SameUpTo x y us vs (r >>= f) (r' >>= f') := by
  cases h with
  | ok e front => exact next e front
  | error front deep => exact .error front deep
  | past h h' =>
    refine .past (h.bind fun s hs => (within s).mono hs) (h'.imp_right ?_)
    rintro rfl
    rfl

private theorem map {r r' : Reading} (h : SameUpTo x y us vs r r') (wrap : Expr → Expr) :
    SameUpTo x y us vs (r >>= fun s => .ok (wrap s.1, s.2))
      (r' >>= fun s => .ok (wrap s.1, s.2)) :=
  h.bind (fun _ => .ok List.suffix_rfl) fun e front => .ok (wrap e) front

private theorem refused {why why' : SyntaxError} (front : List Lexeme) (h : why ≠ .tooDeep)
    (h' : why' ≠ .tooDeep) :
    SameUpTo x y us vs (.error ⟨why, front ++ x :: us⟩) (.error ⟨why', front ++ y :: vs⟩) :=
  .error front (iff_of_false h h')

end Reading.SameUpTo

section Chain

variable {op? : TokenKind → Option BinaryOp} {join : BinaryOp → Expr → Expr → Expr}
  {operand : List Lexeme → Reading}

private theorem readChain_steps_sameUpTo (stands : x.StandsFor y) (none : op? .lineRef = none)
    (operands : ∀ xs, (operand xs).Within xs)
    (same : ∀ front, Reading.SameUpTo x y us vs (operand (front ++ x :: us))
      (operand (front ++ y :: vs))) (n : Nat) :
    ∀ (left : Expr) (front : List Lexeme),
      Reading.SameUpTo x y us vs (readChain op? join operand n left (front ++ x :: us))
        (readChain op? join operand n left (front ++ y :: vs)) := by
  induction n with
  | zero =>
    intro left front
    cases front with
    | nil => exact .ok left []
    | cons z front => exact .ok left (z :: front)
  | succ n ih =>
    intro left front
    cases front with
    | nil =>
      rw [List.nil_append, List.nil_append, readChain, readChain, stands.kind]
      cases hop : op? x.kind with
      | none => exact .ok left []
      | some op =>
        have other : x.kind ≠ .lineRef := fun hx => by
          rw [hx, none] at hop
          contradiction
        exact .past ((operands us).bind fun r hr =>
          Reading.Within.mono (readChain_within operands n _ r.2) hr) (.inl (stands.eq_of_ne other))
    | cons z front =>
      rw [List.cons_append, List.cons_append, readChain, readChain]
      cases op? z.kind with
      | none => exact .ok left (z :: front)
      | some op =>
        exact (same front).bind (fun r => readChain_within operands n _ r.2)
          fun right front => ih (join op left right) front

private theorem readChain_sameUpTo (stands : x.StandsFor y) (none : op? .lineRef = none)
    (operands : ∀ xs, (operand xs).Within xs)
    (same : ∀ front, Reading.SameUpTo x y us vs (operand (front ++ x :: us))
      (operand (front ++ y :: vs))) (left : Expr) (front : List Lexeme) :
    Reading.SameUpTo x y us vs
      (readChain op? join operand (front ++ x :: us).length left (front ++ x :: us))
      (readChain op? join operand (front ++ y :: vs).length left (front ++ y :: vs)) := by
  have shrinks {xs rest : List Lexeme} {e : Expr} (h : operand xs = .ok (e, rest)) :
      rest.length ≤ xs.length := by
    have within : Reading.Within xs (.ok (e, rest)) := h ▸ operands xs
    exact within.of_ok.length_le
  have steps := @readChain_steps_sameUpTo x y us vs op? join operand stands none operands same
    ((front ++ x :: us).length + (front ++ y :: vs).length) left front
  rwa [readChain_enough shrinks _ _ _ (Nat.le_add_right _ _),
    readChain_enough shrinks _ _ _ (Nat.le_add_left _ _)] at steps

end Chain

/-! ## What may come after a part of a phrase -/

private theorem closeParen_sameUpTo (stands : x.StandsFor y) (e : Expr) (front : List Lexeme) :
    Reading.SameUpTo x y us vs (closeParen e (front ++ x :: us))
      (closeParen e (front ++ y :: vs)) := by
  cases front with
  | nil =>
    rw [List.nil_append, List.nil_append, closeParen, closeParen, stands.kind]
    split
    · next hx => exact .past (.ok List.suffix_rfl) (.inl (stands.eq_of_ne (by simp [hx])))
    · exact .refused [] SyntaxError.noConfusion SyntaxError.noConfusion
  | cons z front =>
    rw [List.cons_append, List.cons_append, closeParen, closeParen]
    split
    · exact .ok e front
    · exact .refused (z :: front) SyntaxError.noConfusion SyntaxError.noConfusion

private theorem takePercent_sameUpTo (stands : x.StandsFor y) (e : Expr) (front : List Lexeme) :
    Reading.SameUpTo x y us vs (takePercent e (front ++ x :: us))
      (takePercent e (front ++ y :: vs)) := by
  cases front with
  | nil =>
    rw [List.nil_append, List.nil_append, takePercent, takePercent, stands.kind]
    split
    · next hx => exact .past (.ok List.suffix_rfl) (.inl (stands.eq_of_ne (by simp [hx])))
    · exact .ok e []
  | cons z front =>
    rw [List.cons_append, List.cons_append, takePercent, takePercent]
    split
    · exact .ok (.percent e) front
    · exact .ok e (z :: front)

private theorem takeExponent_sameUpTo (stands : x.StandsFor y) {operand : List Lexeme → Reading}
    (operands : ∀ xs, (operand xs).Within xs)
    (same : ∀ front, Reading.SameUpTo x y us vs (operand (front ++ x :: us))
      (operand (front ++ y :: vs))) (base : Expr) (front : List Lexeme) :
    Reading.SameUpTo x y us vs (takeExponent operand base (front ++ x :: us))
      (takeExponent operand base (front ++ y :: vs)) := by
  cases front with
  | nil =>
    rw [List.nil_append, List.nil_append, takeExponent, takeExponent, stands.kind]
    split
    · next hx =>
      exact .past ((operands us).bind fun _ hr => .ok hr) (.inl (stands.eq_of_ne (by simp [hx])))
    · exact .ok base []
  | cons z front =>
    rw [List.cons_append, List.cons_append, takeExponent, takeExponent]
    split
    · exact (same front).map (.binary .power base)
    · exact .ok base (z :: front)

private theorem paren_within {d : Nat} (wrap : Expr → Expr) {xs : List Lexeme} (h : xs <:+ us) :
    Reading.Within us (Phrase.read d .sum xs >>= fun r => closeParen (wrap r.1) r.2) :=
  ((read_within d .sum xs).mono h).bind fun r hr => (closeParen_within _ r.2).mono hr

private theorem primary_self_sameUpTo (d : Nat) :
    Reading.SameUpTo x x us vs (Phrase.read (d + 1) .primary (x :: us))
      (Phrase.read (d + 1) .primary (x :: vs)) := by
  have past {r r' : Reading} (h : r.Within us) : Reading.SameUpTo x x us vs r r' :=
    .past h (.inl rfl)
  simp only [Phrase.read]
  cases hx : x.kind with
  | number =>
    dsimp only
    split
    · exact past (.ok List.suffix_rfl)
    · exact .refused [] SyntaxError.noConfusion SyntaxError.noConfusion
  | name => exact past (.ok List.suffix_rfl)
  | lineRef =>
    dsimp only
    split
    · exact past (.ok List.suffix_rfl)
    · exact .refused [] SyntaxError.noConfusion SyntaxError.noConfusion
  | leftParen => exact past (paren_within id List.suffix_rfl)
  | sqrt =>
    cases us with
    | nil => exact past (.error ⟨.missingArgument [], List.suffix_rfl⟩)
    | cons z us =>
      dsimp only
      split
      · exact past (paren_within (.call "sqrt") (List.suffix_cons z us))
      · exact past (.error ⟨.missingArgument _, List.suffix_rfl⟩)
  | _ => exact .refused [] SyntaxError.noConfusion SyntaxError.noConfusion

private theorem primary_at_sameUpTo (stands : x.StandsFor y) (d : Nat) :
    Reading.SameUpTo x y us vs (Phrase.read (d + 1) .primary (x :: us))
      (Phrase.read (d + 1) .primary (y :: vs)) := by
  cases stands with
  | self => exact primary_self_sameUpTo d
  | reference hx hy number unreadable =>
    simp only [Phrase.read, hx, hy, number, unreadable]
    exact .past (.ok List.suffix_rfl) (.inr rfl)

private theorem primary_before_sameUpTo (stands : x.StandsFor y) {d : Nat}
    (same : ∀ front, Reading.SameUpTo x y us vs (Phrase.read d .sum (front ++ x :: us))
      (Phrase.read d .sum (front ++ y :: vs))) (z : Lexeme) (front : List Lexeme) :
    Reading.SameUpTo x y us vs (Phrase.read (d + 1) .primary (z :: (front ++ x :: us)))
      (Phrase.read (d + 1) .primary (z :: (front ++ y :: vs))) := by
  have paren (wrap : Expr → Expr) (front : List Lexeme) : Reading.SameUpTo x y us vs
      (Phrase.read d .sum (front ++ x :: us) >>= fun r => closeParen (wrap r.1) r.2)
      (Phrase.read d .sum (front ++ y :: vs) >>= fun r => closeParen (wrap r.1) r.2) :=
    (same front).bind (fun r => closeParen_within _ r.2)
      fun e front => closeParen_sameUpTo stands (wrap e) front
  simp only [Phrase.read]
  cases hz : z.kind with
  | number =>
    dsimp only
    split
    · exact .ok _ front
    · exact .refused (z :: front) SyntaxError.noConfusion SyntaxError.noConfusion
  | name => exact .ok _ front
  | lineRef =>
    dsimp only
    split
    · exact .ok _ front
    · exact .refused (z :: front) SyntaxError.noConfusion SyntaxError.noConfusion
  | leftParen => exact paren id front
  | sqrt =>
    cases front with
    | nil =>
      dsimp only [List.nil_append]
      rw [stands.kind]
      split
      · next hx =>
        exact .past (paren_within (.call "sqrt") List.suffix_rfl)
          (.inl (stands.eq_of_ne (by simp [hx])))
      · exact .refused [] SyntaxError.noConfusion SyntaxError.noConfusion
    | cons w front =>
      dsimp only [List.cons_append]
      split
      · exact paren (.call "sqrt") front
      · exact .refused (w :: front) SyntaxError.noConfusion SyntaxError.noConfusion
  | _ => exact .refused (z :: front) SyntaxError.noConfusion SyntaxError.noConfusion

/-! ## Phrases -/

/-- Reading is the same for all marks after the one at which it stops. -/
theorem read_sameUpTo (stands : x.StandsFor y) (d : Nat) : ∀ (p : Phrase) (front : List Lexeme),
    Reading.SameUpTo x y us vs (Phrase.read d p (front ++ x :: us))
      (Phrase.read d p (front ++ y :: vs)) := by
  induction d with
  | zero => exact fun p front => .error front Iff.rfl
  | succ d ih =>
    intro p front
    have within (q : Phrase) (xs : List Lexeme) : (Phrase.read d q xs).Within xs :=
      read_within d q xs
    cases p with
    | sum =>
      exact (ih .product front).bind (fun r => readChain_within (within .product) _ _ _)
        fun e front => readChain_sameUpTo stands rfl (within .product) (ih .product) e front
    | product =>
      exact (ih .percent front).bind (fun r => readChain_within (within .percent) _ _ _)
        fun e front => readChain_sameUpTo stands rfl (within .percent) (ih .percent) e front
    | percent =>
      rw [read_percent, read_percent]
      exact (ih .power front).bind (fun r => takePercent_within r.1 r.2)
        fun e front => takePercent_sameUpTo stands e front
    | power =>
      rw [read_power, read_power]
      exact (ih .unary front).bind (fun r => takeExponent_within (within .power) r.1 r.2)
        fun base front =>
          takeExponent_sameUpTo stands (within .power) (ih .power) base front
    | unary =>
      cases front with
      | nil =>
        rw [List.nil_append, List.nil_append, Phrase.read, Phrase.read, stands.kind]
        split
        · next hx =>
          exact .past ((within .unary us).bind fun _ hr => .ok hr)
            (.inl (stands.eq_of_ne (by simp [hx])))
        · exact ih .primary []
      | cons z front =>
        rw [List.cons_append, List.cons_append, Phrase.read, Phrase.read]
        split
        · exact (ih .unary front).map .neg
        · exact ih .primary (z :: front)
    | primary =>
      cases front with
      | nil => exact primary_at_sameUpTo stands d
      | cons z front => exact primary_before_sameUpTo stands (ih .sum) z front

private theorem read_whole {p : Phrase} {xs : List Lexeme} {e : Expr} (derived : Derives p xs e)
    (d : Nat) : UnlessTooDeep (Phrase.read d p xs) (.ok (e, [])) := by
  have whole := Phrase.read_unless_of_resume (fun d => read_of_derives derived d [] nofun) nofun d
  rwa [List.append_nil] at whole

abbrev Reading.LeavesAt (xs : List Lexeme) : Reading → Prop :=
  Ends (fun r => r.why ≠ .tooDeep ∧ r.rest = xs) fun r => r.2 = xs

theorem Reading.LeavesAt.not_derives {p : Phrase} {d : Nat} {before rest : List Lexeme}
    (h : (Phrase.read d p (before ++ x :: rest)).LeavesAt (x :: rest)) (more : List Lexeme)
    (e : Expr) : ¬ Derives p (before ++ x :: more) e := by
  intro derived
  have whole := read_whole derived d
  have same := @read_sameUpTo x x rest more .self d p before
  generalize Phrase.read d p (before ++ x :: rest) = r,
    Phrase.read d p (before ++ x :: more) = r' at h whole same
  cases same with
  | ok e' front =>
    have left : front ++ x :: more = [] := (Prod.mk.inj (Except.ok.inj (whole.eq_of_ne nofun))).2
    exact List.cons_ne_nil _ _ (List.append_eq_nil_iff.mp left).2
  | error front deep =>
    cases whole with
    | tooDeep _ => exact h.of_error.1 (deep.mpr rfl)
  | past within =>
    have shorter {zs : List Lexeme} (suffix : zs <:+ rest) (here : zs = x :: rest) : False :=
      absurd suffix.length_le (by simp [here])
    cases h with
    | ok here => exact shorter within.of_ok here
    | error here => exact shorter within.of_error.suffix here.2

theorem read_unreadable {p : Phrase} {before more : List Lexeme} {e : Expr} {k : Int}
    (derived : Derives p (before ++ x :: more) e) (hx : x.kind = .lineRef)
    (number : lineNumber? x.text = some k) (hy : y.kind = .lineRef)
    (unreadable : lineNumber? y.text = none) (rest : List Lexeme) (d : Nat) :
    UnlessTooDeep (Phrase.read d p (before ++ y :: rest)) (Reading.noLine y rest) := by
  have whole := read_whole derived d
  have same := @read_sameUpTo x y more rest (.reference hx hy number unreadable) d p before
  generalize Phrase.read d p (before ++ x :: more) = r,
    Phrase.read d p (before ++ y :: rest) = r' at whole same
  cases same with
  | ok e' front =>
    have left : front ++ x :: more = [] := (Prod.mk.inj (Except.ok.inj (whole.eq_of_ne nofun))).2
    exact absurd (List.append_eq_nil_iff.mp left).2 (List.cons_ne_nil _ _)
  | error front deep =>
    cases whole with
    | tooDeep _ =>
      obtain rfl := deep.mp rfl
      exact .tooDeep _ _
  | past _ refused =>
    rcases refused with rfl | rfl
    · exact absurd (number.symm.trans unreadable) nofun
    · exact .same _

end Worksheet
