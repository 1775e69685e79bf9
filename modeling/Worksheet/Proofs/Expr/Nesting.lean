import Worksheet.Proofs.Expr.Grammar
import Worksheet.Proofs.Expr.Refusal

/-!
The bound on nesting. A list of marks costs six for every opening parenthesis, and one for every
power and every sign before an operand; where the bound covers the cost, reading does not fail for
depth (`read_shallow`). Chains of operations cost nothing, however long they are.
-/

set_option autoImplicit false
set_option relaxedAutoImplicit false

namespace Worksheet

def TokenKind.awaitsOperand : TokenKind → Bool
  | .plus | .minus | .times | .divide | .power | .leftParen => true
  | _ => false

def TokenKind.nestingCost (operand : Bool) : TokenKind → Nat
  | .leftParen => 6
  | .power => 1
  | .minus => if operand then 1 else 0
  | _ => 0

/-- What marks take from the bound on nesting. The first argument says whether an operand should
stand at the front. -/
def nestingCost : Bool → List Lexeme → Nat
  | _, [] => 0
  | operand, x :: xs => x.kind.nestingCost operand + nestingCost x.kind.awaitsOperand xs

/-- What a phrase takes from the bound when it is a single mark: itself and the phrases in it. -/
def Phrase.height : Phrase → Nat
  | .sum => 6
  | .product => 5
  | .percent => 4
  | .power => 3
  | .unary => 2
  | .primary => 1

theorem nestingCost_le (operand : Bool) (xs : List Lexeme) :
    nestingCost operand xs ≤ 6 * xs.length := by
  induction xs generalizing operand with
  | nil => exact Nat.le_refl 0
  | cons x xs ih =>
    have first : x.kind.nestingCost operand ≤ 6 := by
      cases x.kind <;> cases operand <;> decide
    have rest := ih x.kind.awaitsOperand
    rw [nestingCost, List.length_cons]
    omega

abbrev Reading.Shallow (c : Nat) : Reading → Prop :=
  Ends (fun r => r.why ≠ .tooDeep) fun r => nestingCost false r.2 ≤ c

private theorem Reading.Shallow.mono {c c' : Nat} {r : Reading} (h : r.Shallow c) (le : c ≤ c') :
    r.Shallow c' :=
  h.imp (fun _ hr => hr) fun _ hr => Nat.le_trans hr le

@[simp] private theorem nestingCost_cons {x : Lexeme} {k : TokenKind} (hx : x.kind = k) (operand : Bool)
    (xs : List Lexeme) :
    nestingCost operand (x :: xs) = k.nestingCost operand + nestingCost k.awaitsOperand xs := by
  rw [nestingCost, hx]

private theorem closeParen_shallow {c : Nat} (e : Expr) {xs : List Lexeme}
    (h : nestingCost false xs ≤ c) : (closeParen e xs).Shallow c := by
  cases xs with
  | nil => exact .error SyntaxError.noConfusion
  | cons x xs =>
    rw [closeParen]
    split
    · next hx =>
      rw [nestingCost_cons hx] at h
      exact .ok (Nat.le_trans (Nat.le_add_left _ _) h)
    · exact .error SyntaxError.noConfusion

private theorem readChain_shallow {d c : Nat} {op? : TokenKind → Option BinaryOp}
    {join : BinaryOp → Expr → Expr → Expr} {q : Phrase}
    (free : ∀ k op, op? k = some op → k.nestingCost false = 0 ∧ k.awaitsOperand = true)
    (operand : ∀ ys, nestingCost true ys ≤ c →
      (Phrase.read d q ys).Shallow (nestingCost true ys))
    (r : Expr × List Lexeme) (hr : nestingCost false r.2 ≤ c) :
    Reading.Shallow c (readChain op? join (Phrase.read d q) r.2.length r.1 r.2) := by
  refine readChain_ends (I := fun ys => nestingCost false ys ≤ c) ?_ _ _ _ hr
  intro x ys op hys hop
  obtain ⟨none, awaits⟩ := free x.kind op hop
  rw [nestingCost, none, awaits, Nat.zero_add] at hys
  exact Reading.Shallow.mono (operand ys hys) hys

private theorem additive?_free (k : TokenKind) (op : BinaryOp) (h : additive? k = some op) :
    k.nestingCost false = 0 ∧ k.awaitsOperand = true := by
  rcases additive?_eq_some h with rfl | rfl <;> decide

private theorem multiplicative?_free (k : TokenKind) (op : BinaryOp)
    (h : multiplicative? k = some op) : k.nestingCost false = 0 ∧ k.awaitsOperand = true := by
  rcases multiplicative?_eq_some h with rfl | rfl <;> decide

/-- Where the bound covers the cost of the marks and the height of the phrase, reading does not fail
for depth. -/
theorem read_shallow (d : Nat) : ∀ (p : Phrase) (xs : List Lexeme),
    nestingCost true xs + p.height ≤ d → (Phrase.read d p xs).Shallow (nestingCost true xs) := by
  induction d with
  | zero =>
    intro p xs h
    cases p <;> simp [Phrase.height] at h
  | succ d ih =>
    intro p xs h
    have within (q : Phrase) (lower : q.height < p.height) (ys : List Lexeme)
        (le : nestingCost true ys ≤ nestingCost true xs) :
        (Phrase.read d q ys).Shallow (nestingCost true ys) := ih q ys (by omega)
    cases p with
    | sum =>
      have operand := within .product (by decide)
      exact (operand xs (Nat.le_refl _)).bind fun r hr =>
        readChain_shallow additive?_free operand r hr
    | product =>
      have operand := within .percent (by decide)
      exact (operand xs (Nat.le_refl _)).bind fun r hr =>
        readChain_shallow multiplicative?_free operand r hr
    | percent =>
      refine (within .power (by decide) xs (Nat.le_refl _)).bind ?_
      rintro ⟨e, rest⟩ hr
      cases rest with
      | nil => exact .ok hr
      | cons x rest =>
        dsimp only
        split
        · next hx =>
          rw [nestingCost_cons hx] at hr
          exact .ok (Nat.le_trans (Nat.le_add_left _ _) hr)
        · exact .ok hr
    | power =>
      refine (within .unary (by decide) xs (Nat.le_refl _)).bind ?_
      rintro ⟨e, rest⟩ hr
      cases rest with
      | nil => exact .ok hr
      | cons x rest =>
        dsimp only
        split
        · next hx =>
          have cost : 1 + nestingCost true rest ≤ nestingCost true xs := by
            rwa [nestingCost_cons hx] at hr
          have le : nestingCost true rest ≤ nestingCost true xs := by omega
          exact Ends.bind (ih .power rest (by omega)) fun r hr => .ok (Nat.le_trans hr le)
        · exact .ok hr
    | unary =>
      cases xs with
      | nil => exact within .primary (by decide) [] (Nat.le_refl _)
      | cons x xs =>
        rw [Phrase.read]
        split
        · next hx =>
          have cost : nestingCost true (x :: xs) = 1 + nestingCost true xs :=
            nestingCost_cons hx _ _
          have le : nestingCost true xs ≤ nestingCost true (x :: xs) := by omega
          exact Ends.bind (ih .unary xs (by omega)) fun r hr => .ok (Nat.le_trans hr le)
        · exact within .primary (by decide) (x :: xs) (Nat.le_refl _)
    | primary =>
      cases xs with
      | nil => exact .error SyntaxError.noConfusion
      | cons x xs =>
        have paren (ys : List Lexeme) (wrap : Expr → Expr)
            (cost : nestingCost true (x :: xs) = 6 + nestingCost true ys) :
            Reading.Shallow (nestingCost true (x :: xs))
              (Phrase.read d .sum ys >>= fun r => closeParen (wrap r.1) r.2) := by
          have heights : Phrase.sum.height = 6 ∧ Phrase.primary.height = 1 := ⟨rfl, rfl⟩
          refine Ends.bind (ih .sum ys (by omega)) fun r hr => ?_
          exact closeParen_shallow _ (by omega)
        have first := read_primary d x xs
        generalize Phrase.read (d + 1) .primary (x :: xs) = r at first ⊢
        cases first with
        | operand e hx =>
          have cost : nestingCost false xs ≤ nestingCost true (x :: xs) := by
            rcases hx with hx | hx | hx <;> rw [nestingCost_cons hx] <;>
              exact Nat.le_add_left _ _
          exact .ok cost
        | paren hx => exact paren xs id (nestingCost_cons hx _ _)
        | sqrt hxs hx hy =>
          refine paren _ (.call "sqrt") ?_
          rw [hxs, nestingCost_cons hx, nestingCost_cons hy]
          exact Nat.zero_add _
        | refused _ shallow => exact .error shallow

theorem readLine_eq (xs : List Lexeme) : ∃ wrap : Expr → Expr,
    readLine xs = readSum (withoutTarget xs) >>= fun r => .ok (wrap r.1, r.2) := by
  have sum (ys : List Lexeme) : readSum ys = readSum ys >>= fun r => .ok (id r.1, r.2) := by
    cases readSum ys <;> rfl
  match xs with
  | [] => exact ⟨id, sum []⟩
  | [x] => exact ⟨id, sum [x]⟩
  | x :: y :: ys =>
    rw [readLine, withoutTarget]
    split
    · exact ⟨.assign x.text, rfl⟩
    · exact ⟨id, sum (x :: y :: ys)⟩

theorem readAll_shallow {xs : List Lexeme}
    (h : nestingCost true (withoutTarget xs) + Phrase.sum.height ≤ nestingLimit) :
    Ends (fun r => r.why ≠ .tooDeep) (fun _ => True) (readAll xs) := by
  obtain ⟨wrap, line⟩ := readLine_eq xs
  rw [readAll, line]
  have sum := read_shallow nestingLimit .sum (withoutTarget xs) h
  refine Ends.bind (sum.bind (P := fun _ => True) fun _ _ => .ok trivial) ?_
  rintro ⟨e, rest⟩ -
  cases rest with
  | nil => exact .ok trivial
  | cons x rest =>
    dsimp only
    split
    · exact .ok trivial
    · exact .error SyntaxError.noConfusion

/-! ## Lines without nesting -/

inductive SignedOperand : List Lexeme → Prop
  | front {x : Lexeme} (xs : List Lexeme) (hx : x.kind = .minus) : SignedOperand (x :: xs)
  | after {x y : Lexeme} (front back : List Lexeme) (hx : x.kind.awaitsOperand = true)
      (hy : y.kind = .minus) : SignedOperand (front ++ x :: y :: back)

/-- Marks in which nothing is nested: chains of operands at most. -/
structure Flat (xs : List Lexeme) : Prop where
  noParen : ∀ x ∈ xs, x.kind ≠ .leftParen
  noSqrt : ∀ x ∈ xs, x.kind ≠ .sqrt
  noPower : ∀ x ∈ xs, x.kind ≠ .power
  noSign : ¬ SignedOperand xs

private theorem nestingCost_eq_zero {xs : List Lexeme} (noParen : ∀ x ∈ xs, x.kind ≠ .leftParen)
    (noPower : ∀ x ∈ xs, x.kind ≠ .power) : ∀ {operand : Bool},
    (∀ x ys, xs = x :: ys → operand = true → x.kind ≠ .minus) →
    (∀ front x y back, xs = front ++ x :: y :: back → x.kind.awaitsOperand = true →
      y.kind ≠ .minus) → nestingCost operand xs = 0 := by
  induction xs with
  | nil => exact fun _ _ => rfl
  | cons x xs ih =>
    intro operand first between
    have here : x.kind.nestingCost operand = 0 := by
      have sign := first x xs rfl
      have paren := noParen x List.mem_cons_self
      have power := noPower x List.mem_cons_self
      revert sign paren power
      cases x.kind <;> cases operand <;> decide
    have later : nestingCost x.kind.awaitsOperand xs = 0 := ih
      (fun y hy => noParen y (List.mem_cons_of_mem x hy))
      (fun y hy => noPower y (List.mem_cons_of_mem x hy))
      (fun y ys h awaits => between [] x y ys (by rw [h]; rfl) awaits)
      (fun front y z back h => between (x :: front) y z back (by rw [h]; rfl))
    rw [nestingCost, here, later]

theorem Flat.nestingCost {xs : List Lexeme} (h : Flat xs) : nestingCost true xs = 0 :=
  nestingCost_eq_zero h.noParen h.noPower
    (fun _ ys hxs _ hx => h.noSign (hxs ▸ .front ys hx))
    (fun front _ _ back hxs hx hy => h.noSign (hxs ▸ .after front back hx hy))

theorem nestingCost_concat_stop (operand : Bool) (xs : List Lexeme) {x : Lexeme}
    (hx : x.kind = .stop) : Worksheet.nestingCost operand (xs ++ [x]) =
      Worksheet.nestingCost operand xs := by
  induction xs generalizing operand with
  | nil => exact nestingCost_cons hx operand []
  | cons y ys ih => rw [List.cons_append, Worksheet.nestingCost, Worksheet.nestingCost, ih]

theorem withoutTarget_concat_stop (xs : List Lexeme) {x : Lexeme} (hx : x.kind = .stop) :
    withoutTarget (xs ++ [x]) = withoutTarget xs ++ [x] := by
  cases xs with
  | nil => rfl
  | cons y ys =>
    cases ys with
    | nil =>
      have other : ¬ (y.kind = .name ∧ x.kind = .equals) := by simp [hx]
      exact if_neg other
    | cons z zs =>
      simp only [List.cons_append, withoutTarget]
      split <;> rfl

end Worksheet
