import Worksheet.Proofs.Expr.Nesting

/-!
Reading finds every phrase. Marks that are a phrase, before marks that do not go on with it, are
read as that phrase and no further, unless the bound on nesting is met (`read_of_derives`). So the
marks of a line have one tree (`DerivesLine.unique`), and it is the tree that is read
(`readAll_of_derivesLine`).
-/

set_option autoImplicit false
set_option relaxedAutoImplicit false

namespace Worksheet

variable {α β : Type}

/-- Whether two results of reading are the same, or the first ends at the bound on nesting. -/
inductive UnlessTooDeep : Except Refusal α → Except Refusal α → Prop
  | tooDeep (rest : List Lexeme) (r : Except Refusal α) :
      UnlessTooDeep (.error ⟨.tooDeep, rest⟩) r
  | same (r : Except Refusal α) : UnlessTooDeep r r

namespace UnlessTooDeep

private theorem trans {r s t : Except Refusal α} (h : UnlessTooDeep r s) (h' : UnlessTooDeep s t) :
    UnlessTooDeep r t := by
  cases h with
  | tooDeep rest => exact .tooDeep rest t
  | same => exact h'

private theorem bind_ok {x : Except Refusal α} {a : α} {f : α → Except Refusal β}
    {r : Except Refusal β}
    (h : UnlessTooDeep x (.ok a)) (next : UnlessTooDeep (f a) r) : UnlessTooDeep (x >>= f) r := by
  cases h with
  | tooDeep rest => exact .tooDeep rest r
  | same => exact next

theorem eq_of_ne {r : Except Refusal α} {a : α} (h : UnlessTooDeep r (.ok a))
    (shallow : ∀ e, r = .error e → e.why ≠ .tooDeep) : r = .ok a := by
  cases h with
  | tooDeep rest => exact absurd rfl (shallow _ rfl)
  | same => rfl

end UnlessTooDeep

/-! ## Chains -/

section Chain

variable {op? : TokenKind → Option BinaryOp} {join : BinaryOp → Expr → Expr → Expr}
  {operand : List Lexeme → Reading}

theorem readChain_stops (n : Nat) (left : Expr) {xs : List Lexeme}
    (h : ∀ x ∈ xs.head?, op? x.kind = none) :
    readChain op? join operand n left xs = .ok (left, xs) := by
  cases xs with
  | nil => cases n <;> rfl
  | cons x xs =>
    cases n with
    | zero => rfl
    | succ n => rw [readChain, h x rfl]

theorem readChain_enough (shrinks : ∀ {xs e rest}, operand xs = .ok (e, rest) →
      rest.length ≤ xs.length) (n : Nat) :
    ∀ (left : Expr) (xs : List Lexeme), xs.length ≤ n →
      readChain op? join operand n left xs = readChain op? join operand xs.length left xs := by
  induction n using Nat.strong_induction_on with
  | _ n ih =>
    intro left xs h
    cases xs with
    | nil => cases n <;> rfl
    | cons x xs =>
      obtain ⟨n, rfl⟩ : ∃ m, n = m + 1 := ⟨n - 1, by simp at h; omega⟩
      rw [List.length_cons] at h ⊢
      rw [readChain, readChain]
      cases op? x.kind with
      | none => rfl
      | some op =>
        dsimp only
        cases hr : operand xs with
        | error e => rfl
        | ok r =>
          obtain ⟨right, rest⟩ := r
          have le : rest.length ≤ xs.length := shrinks hr
          have here := ih n (Nat.lt_succ_self n) (join op left right) rest (by omega)
          have there := ih xs.length (by omega) (join op left right) rest le
          exact here.trans there.symm

private theorem readChain_link (shrinks : ∀ {xs e rest}, operand xs = .ok (e, rest) →
      rest.length ≤ xs.length) {x : Lexeme} {op : BinaryOp} (hx : op? x.kind = some op)
    (left : Expr) {right : Expr} {ys rest : List Lexeme}
    (hr : UnlessTooDeep (operand (ys ++ rest)) (.ok (right, rest))) :
    UnlessTooDeep
      (readChain op? join operand (x :: ys ++ rest).length left (x :: ys ++ rest))
      (readChain op? join operand rest.length (join op left right) rest) := by
  rw [List.cons_append, List.length_cons, readChain, hx]
  refine hr.bind_ok ?_
  have enough : readChain op? join operand (ys ++ rest).length (join op left right) rest =
      readChain op? join operand rest.length (join op left right) rest :=
    readChain_enough shrinks _ _ rest (by simp)
  exact enough ▸ .same _

end Chain

/-! ## Phrases before other marks -/

namespace Phrase

def op? : Phrase → TokenKind → Option BinaryOp
  | .sum => additive?
  | .product => multiplicative?
  | _ => fun _ => none

def goesOn : Phrase → TokenKind → Bool
  | .sum, k => (multiplicative? k).isSome || k == .percent || k == .power
  | .product, k | .percent, k => k == .percent || k == .power
  | .power, k => k == .power
  | .unary, _ | .primary, _ => false

/-- What is left to read once the first part of a phrase has the tree `e`: the rest of a chain. -/
def resume (d : Nat) (e : Expr) (rest : List Lexeme) : Phrase → Reading
  | .sum => readChain additive? Expr.addTo (read d .product) rest.length e rest
  | .product => readChain multiplicative? .binary (read d .percent) rest.length e rest
  | _ => .ok (e, rest)

private theorem resume_eq_ok (p : Phrase) (d : Nat) (e : Expr) {rest : List Lexeme}
    (h : ∀ x ∈ rest.head?, p.op? x.kind = none) : p.resume d e rest = .ok (e, rest) := by
  cases p with
  | sum => exact readChain_stops _ e h
  | product => exact readChain_stops _ e h
  | _ => rfl

private theorem length_le_of_read {p : Phrase} {d : Nat} {xs rest : List Lexeme} {e : Expr}
    (h : read d p xs = .ok (e, rest)) : rest.length ≤ xs.length := by
  have within : Reading.Within xs (.ok (e, rest)) := h ▸ read_within d p xs
  exact within.of_ok.length_le

theorem read_unless_of_resume {p : Phrase} {xs rest : List Lexeme} {e : Expr}
    (h : ∀ d, UnlessTooDeep (read (d + 1) p xs) (p.resume d e rest))
    (ends : ∀ x ∈ rest.head?, p.op? x.kind = none) (d : Nat) :
    UnlessTooDeep (read d p xs) (.ok (e, rest)) := by
  cases d with
  | zero => exact .tooDeep xs _
  | succ d => exact p.resume_eq_ok d e ends ▸ h d

end Phrase

private theorem goesOn_of_sum {k : TokenKind} (h : Phrase.sum.goesOn k = false) :
    Phrase.product.goesOn k = false ∧ Phrase.product.op? k = none := by
  revert h
  cases k <;> decide

private theorem sum_not_goesOn {k : TokenKind} {op : BinaryOp} (h : additive? k = some op) :
    Phrase.sum.goesOn k = false := by
  rcases additive?_eq_some h with rfl | rfl <;> decide

private theorem product_not_goesOn {k : TokenKind} {op : BinaryOp}
    (h : multiplicative? k = some op) : Phrase.product.goesOn k = false := by
  rcases multiplicative?_eq_some h with rfl | rfl <;> decide

private theorem of_head {P : Lexeme → Prop} {x : Lexeme} {xs : List Lexeme} (h : P x) :
    ∀ y ∈ (x :: xs).head?, P y := by
  intro y hy
  exact Option.some.inj hy ▸ h

private theorem Derives.head_ne_minus {xs : List Lexeme} {e : Expr} (h : Derives .primary xs e) :
    ∃ x ys, xs = x :: ys ∧ x.kind ≠ .minus := by
  cases h with
  | number hx _ => exact ⟨_, [], rfl, by simp [hx]⟩
  | name hx => exact ⟨_, [], rfl, by simp [hx]⟩
  | line hx _ => exact ⟨_, [], rfl, by simp [hx]⟩
  | paren hx _ _ => exact ⟨_, _, rfl, by simp [hx]⟩
  | sqrt hx _ _ _ => exact ⟨_, _, rfl, by simp [hx]⟩

/-- Marks that are a phrase are read as its first part and the rest of its chain, before any marks
that do not make its last part longer. -/
theorem read_of_derives {p : Phrase} {xs : List Lexeme} {e : Expr} (h : Derives p xs e) :
    ∀ (d : Nat) (rest : List Lexeme), (∀ x ∈ rest.head?, p.goesOn x.kind = false) →
      UnlessTooDeep (Phrase.read (d + 1) p (xs ++ rest)) (p.resume d e rest) := by
  induction h with
  | product _ ih =>
    intro d rest stops
    have part := Phrase.read_unless_of_resume
      (fun d => ih d rest fun x hx => (goesOn_of_sum (stops x hx)).1)
      (fun x hx => (goesOn_of_sum (stops x hx)).2) d
    exact part.bind_ok (.same _)
  | @add xs ys x op left right _ hx _ ihl ihr =>
    intro d rest stops
    have first := ihl d (x :: ys ++ rest) (of_head (sum_not_goesOn hx))
    have part := Phrase.read_unless_of_resume
      (fun d => ihr d rest fun x hx => (goesOn_of_sum (stops x hx)).1)
      (fun x hx => (goesOn_of_sum (stops x hx)).2) d
    rw [List.append_assoc]
    exact first.trans (readChain_link Phrase.length_le_of_read hx left part)
  | factor _ ih =>
    intro d rest stops
    exact (Phrase.read_unless_of_resume (fun d => ih d rest stops) (fun _ _ => rfl) d).bind_ok
      (.same _)
  | @multiply xs ys x op left right _ hx _ ihl ihr =>
    intro d rest stops
    have first := ihl d (x :: ys ++ rest) (of_head (product_not_goesOn hx))
    have part := Phrase.read_unless_of_resume (fun d => ihr d rest stops) (fun _ _ => rfl) d
    rw [List.append_assoc]
    exact first.trans (readChain_link Phrase.length_le_of_read hx left part)
  | @power xs e _ ih =>
    intro d rest stops
    have part := Phrase.read_unless_of_resume
      (fun d => ih d rest fun x hx => (Bool.or_eq_false_iff.mp (stops x hx)).2) (fun _ _ => rfl) d
    refine part.bind_ok ?_
    cases rest with
    | nil => exact .same _
    | cons x rest =>
      have other : x.kind ≠ .percent := by simpa using (Bool.or_eq_false_iff.mp (stops x rfl)).1
      dsimp only
      rw [if_neg other]
      exact .same _
  | @percent xs x e _ hx ih =>
    intro d rest _
    have part := Phrase.read_unless_of_resume
      (fun d => ih d (x :: rest) (of_head (by rw [hx]; rfl))) (fun _ _ => rfl) d
    rw [List.append_assoc]
    refine part.bind_ok ?_
    dsimp only
    rw [if_pos hx]
    exact .same _
  | @unary xs e _ ih =>
    intro d rest stops
    have part := Phrase.read_unless_of_resume (fun d => ih d rest fun _ _ => rfl) (fun _ _ => rfl) d
    refine part.bind_ok ?_
    cases rest with
    | nil => exact .same _
    | cons x rest =>
      have other : x.kind ≠ .power := by simpa [Phrase.goesOn] using stops x rfl
      dsimp only
      rw [if_neg other]
      exact .same _
  | @raise xs ys x base exponent _ hx _ ihb ihe =>
    intro d rest stops
    have first := Phrase.read_unless_of_resume
      (fun d => ihb d (x :: ys ++ rest) fun _ _ => rfl) (fun _ _ => rfl) d
    have second := Phrase.read_unless_of_resume (fun d => ihe d rest stops) (fun _ _ => rfl) d
    rw [List.append_assoc]
    refine first.bind_ok ?_
    dsimp only [List.cons_append]
    rw [if_pos hx]
    exact second.bind_ok (.same _)
  | primary h ih =>
    intro d rest _
    have part := Phrase.read_unless_of_resume (fun d => ih d rest fun _ _ => rfl) (fun _ _ => rfl) d
    obtain ⟨x, ys, rfl, other⟩ := h.head_ne_minus
    rw [List.cons_append, Phrase.read, if_neg other]
    exact part
  | neg hx _ ih =>
    intro d rest _
    have part := Phrase.read_unless_of_resume (fun d => ih d rest fun _ _ => rfl) (fun _ _ => rfl) d
    rw [List.cons_append, Phrase.read, if_pos hx]
    exact part.bind_ok (.same _)
  | number hx hv =>
    intro d rest _
    simp only [List.cons_append, List.nil_append, Phrase.read, hx, hv]
    exact .same _
  | name hx =>
    intro d rest _
    simp only [List.cons_append, List.nil_append, Phrase.read, hx]
    exact .same _
  | line hx hk =>
    intro d rest _
    simp only [List.cons_append, List.nil_append, Phrase.read, hx, hk]
    exact .same _
  | @paren xs x y e hx _ hy ih =>
    intro d rest _
    have part := Phrase.read_unless_of_resume
      (fun d => ih d (y :: rest) (of_head (by rw [hy]; rfl))) (of_head (by rw [hy]; rfl)) d
    simp only [List.append_assoc, List.cons_append, List.nil_append, Phrase.read, hx]
    refine part.bind_ok ?_
    rw [closeParen, if_pos hy]
    exact .same _
  | @sqrt xs x y z e hx hy _ hz ih =>
    intro d rest _
    have part := Phrase.read_unless_of_resume
      (fun d => ih d (z :: rest) (of_head (by rw [hz]; rfl))) (of_head (by rw [hz]; rfl)) d
    simp only [List.append_assoc, List.cons_append, List.nil_append, Phrase.read, hx, hy, if_true]
    refine part.bind_ok ?_
    rw [closeParen, if_pos hz]
    exact .same _

/-! ## One tree -/

private theorem height_le (p : Phrase) : p.height ≤ 6 := by
  cases p <;> decide

theorem Derives.unique {p : Phrase} {xs : List Lexeme} {e e' : Expr} (h : Derives p xs e)
    (h' : Derives p xs e') : e = e' := by
  have whole {e : Expr} (h : Derives p xs e) :
      Phrase.read (6 * xs.length + 6) p xs = .ok (e, []) := by
    have found := Phrase.read_unless_of_resume (fun d => read_of_derives h d [] nofun) nofun
      (6 * xs.length + 6)
    rw [List.append_nil] at found
    have cost := nestingCost_le true xs
    have height := height_le p
    have shallow := read_shallow (6 * xs.length + 6) p xs (by omega)
    exact found.eq_of_ne fun r hr => (hr ▸ shallow).of_error
  exact (Prod.mk.inj (Except.ok.inj ((whole h).symm.trans (whole h')))).1

theorem DerivesLine.unique {xs : List Lexeme} {e e' : Expr} (h : DerivesLine xs e)
    (h' : DerivesLine xs e') : e = e' := by
  have apart {x y : Lexeme} {ys : List Lexeme} {e : Expr} (hy : y.kind = .equals)
      (h : Derives .sum (x :: y :: ys) e) : False :=
    (h.inner y (by simp)).ne_equals hy
  cases h with
  | sum h =>
    cases h' with
    | sum h' => exact h.unique h'
    | assign _ hy _ => exact (apart hy h).elim
  | assign _ hy h =>
    cases h' with
    | sum h' => exact (apart hy h').elim
    | assign _ _ h' => rw [h.unique h']

private theorem readSum_of_derives {xs : List Lexeme} {e : Expr} (h : Derives .sum xs e)
    {x : Lexeme} (hx : x.kind = .stop) :
    UnlessTooDeep (readSum (xs ++ [x])) (.ok (e, [x])) :=
  Phrase.read_unless_of_resume
    (fun d => read_of_derives h d [x] (of_head (by rw [hx]; rfl))) (of_head (by rw [hx]; rfl)) _

private theorem readLine_eq_readSum {xs : List Lexeme} (h : ∀ x ∈ xs, x.kind ≠ .equals) :
    readLine xs = readSum xs := by
  match xs with
  | [] => rfl
  | [x] => rfl
  | x :: y :: ys => exact if_neg fun assigns => h y (by simp) assigns.2

theorem readAll_of_derivesLine {xs : List Lexeme} {e : Expr} (line : DerivesLine xs e) {x : Lexeme}
    (hx : x.kind = .stop) : UnlessTooDeep (readAll (xs ++ [x])) (.ok e) := by
  have read : UnlessTooDeep (readLine (xs ++ [x])) (.ok (e, [x])) := by
    cases line with
    | sum h =>
      have noEquals : ∀ y ∈ xs ++ [x], y.kind ≠ .equals := by
        intro y hy
        rcases List.mem_append.mp hy with hy | hy
        · exact (h.inner y hy).ne_equals
        · simp [List.mem_singleton.mp hy, hx]
      exact readLine_eq_readSum noEquals ▸ readSum_of_derives h hx
    | assign hname hequals h =>
      rw [List.cons_append, List.cons_append, readLine, if_pos ⟨hname, hequals⟩]
      exact (readSum_of_derives h hx).bind_ok (.same _)
  refine read.bind_ok ?_
  dsimp only
  rw [if_pos hx]
  exact .same _

private theorem upToInvalidMark_legible {xs : List Lexeme} (legible : ∀ x ∈ xs, x.Legible) :
    upToInvalidMark xs = xs ++ [⟨.stop, ""⟩] := by
  induction xs with
  | nil => rfl
  | cons x xs ih =>
    have valid := (legible x List.mem_cons_self).ne_invalid
    rw [upToInvalidMark, if_neg valid, ih fun y hy => legible y (List.mem_cons_of_mem x hy),
      List.cons_append]

theorem parseText_of_derivesLine {text : String} {e : Expr} (line : DerivesLine (lexemes text) e)
    (cost : nestingCost true (withoutTarget (lexemes text)) + Phrase.sum.height ≤ nestingLimit) :
    parseText text = .tree e := by
  have stop : (⟨.stop, ""⟩ : Lexeme).kind = .stop := rfl
  have shallow : Ends (fun r => r.why ≠ .tooDeep) (fun _ => True)
      (readAll (lexemes text ++ [⟨.stop, ""⟩])) := by
    apply readAll_shallow
    rw [withoutTarget_concat_stop _ stop, nestingCost_concat_stop _ _ stop]
    exact cost
  rw [parseText_eq_tree, upToInvalidMark_legible line.legible]
  exact ⟨line.ne_nil, (readAll_of_derivesLine line stop).eq_of_ne fun _ refused =>
    (refused ▸ shallow).of_error⟩

end Worksheet
