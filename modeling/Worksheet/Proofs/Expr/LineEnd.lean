import Worksheet.Proofs.Expr.Completeness

/-!
The end of a line. It is a stop, whatever comes after that, or the end of the marks. No phrase steps
over a stop, and reading takes both kinds of end alike (`read_sameBefore`); so parsing does not
depend on what comes after a stop, nor on whether there is one at all (`parse_lineEnd`).
-/

set_option autoImplicit false
set_option relaxedAutoImplicit false

namespace Worksheet

def EndsBefore (us : List Lexeme) : Prop := ∀ x ∈ us.head?, x.kind = .stop

@[simp] private theorem endsBefore_nil : EndsBefore [] := nofun

@[simp] private theorem endsBefore_cons {x : Lexeme} (hx : x.kind = .stop) (xs : List Lexeme) :
    EndsBefore (x :: xs) := by
  rintro y hy
  exact Option.some.inj hy ▸ hx

variable {us vs : List Lexeme}

/-- What reading leaves of some marks before `us`, beside what it leaves of them before `vs`. -/
inductive ReadBefore (us vs : List Lexeme) : Expr × List Lexeme → Expr × List Lexeme → Prop
  | intro (e : Expr) (left : List Lexeme) : ReadBefore us vs (e, left ++ us) (e, left ++ vs)

inductive Refusal.SameBefore (us vs : List Lexeme) : Refusal → Refusal → Prop
  | intro (why : SyntaxError) (left : List Lexeme) :
      SameBefore us vs ⟨why, left ++ us⟩ ⟨why, left ++ vs⟩

abbrev Reading.SameBefore (us vs : List Lexeme) : Reading → Reading → Prop :=
  Lockstep (Refusal.SameBefore us vs) (ReadBefore us vs)

namespace Reading.SameBefore

private theorem ok (e : Expr) (left : List Lexeme) :
    SameBefore us vs (.ok (e, left ++ us)) (.ok (e, left ++ vs)) :=
  Lockstep.ok (.intro e left)

private theorem error (why : SyntaxError) (left : List Lexeme) :
    SameBefore us vs (.error ⟨why, left ++ us⟩) (.error ⟨why, left ++ vs⟩) :=
  Lockstep.error (.intro why left)

private theorem next {r r' : Reading} {f f' : Expr × List Lexeme → Reading}
    (h : SameBefore us vs r r')
    (same : ∀ e left, SameBefore us vs (f (e, left ++ us)) (f' (e, left ++ vs))) :
    SameBefore us vs (r >>= f) (r' >>= f') := by
  refine h.bind ?_
  rintro _ _ ⟨e, left⟩
  exact same e left

private theorem map {r r' : Reading} (h : SameBefore us vs r r') (wrap : Expr → Expr) :
    SameBefore us vs (r >>= fun s => .ok (wrap s.1, s.2))
      (r' >>= fun s => .ok (wrap s.1, s.2)) :=
  h.next fun e left => .ok (wrap e) left

end Reading.SameBefore

/-! ## At the end -/

def closeLine (e : Expr) : List Lexeme → Except Refusal Expr
  | [] => .ok e
  | x :: rest => if x.kind = .stop then .ok e else .error ⟨.unexpected x.text, x :: rest⟩

private theorem readAll_eq (xs : List Lexeme) :
    readAll xs = readLine xs >>= fun r => closeLine r.1 r.2 := by
  rw [readAll]
  rcases readLine xs with _ | ⟨e, _ | ⟨x, rest⟩⟩ <;> rfl

namespace EndsBefore

private theorem ne (h : EndsBefore us) (k : TokenKind) (hk : k ≠ .stop) :
    ∀ x ∈ us.head?, x.kind ≠ k :=
  fun x hx same => hk (same.symm.trans (h x hx))

private theorem closeParen_eq (h : EndsBefore us) (e : Expr) :
    closeParen e us = .error ⟨.missingParen, us⟩ := by
  cases us with
  | nil => rfl
  | cons x us => exact if_neg (h.ne .rightParen (by decide) x rfl)

private theorem takePercent_eq (h : EndsBefore us) (e : Expr) : takePercent e us = .ok (e, us) := by
  cases us with
  | nil => rfl
  | cons x us => exact if_neg (h.ne .percent (by decide) x rfl)

private theorem takeExponent_eq (h : EndsBefore us) (operand : List Lexeme → Reading)
    (base : Expr) : takeExponent operand base us = .ok (base, us) := by
  cases us with
  | nil => rfl
  | cons x us => exact if_neg (h.ne .power (by decide) x rfl)

private theorem read_unary (h : EndsBefore us) (d : Nat) :
    Phrase.read (d + 1) .unary us = Phrase.read d .primary us := by
  cases us with
  | nil => rfl
  | cons x us => rw [Phrase.read, if_neg (h.ne .minus (by decide) x rfl)]

private theorem read_primary (h : EndsBefore us) (d : Nat) :
    Phrase.read (d + 1) .primary us = .error ⟨.endOfInput, us⟩ := by
  cases us with
  | nil => rfl
  | cons x us => simp only [Phrase.read, h x rfl]

private theorem read_sqrt (h : EndsBefore us) {x : Lexeme} (hx : x.kind = .sqrt) (d : Nat) :
    Phrase.read (d + 1) .primary (x :: us) = .error ⟨.missingArgument, us⟩ := by
  cases us with
  | nil => simp only [Phrase.read, hx]
  | cons y us => simp only [Phrase.read, hx, if_neg (h.ne .leftParen (by decide) y rfl)]

private theorem closeLine_eq (h : EndsBefore us) (e : Expr) : closeLine e us = .ok e := by
  cases us with
  | nil => rfl
  | cons x us => exact if_pos (h x rfl)

private theorem readLine_eq (h : EndsBefore us) : readLine us = readSum us := by
  match us with
  | [] => rfl
  | [x] => rfl
  | x :: y :: us => exact if_neg fun assigns => h.ne .name (by decide) x rfl assigns.1

private theorem readLine_cons (h : EndsBefore us) (x : Lexeme) :
    readLine (x :: us) = readSum (x :: us) := by
  cases us with
  | nil => rfl
  | cons y us => exact if_neg fun assigns => h.ne .equals (by decide) y rfl assigns.2

end EndsBefore

/-! ## Parts of phrases -/

private theorem readChain_zero (op? : TokenKind → Option BinaryOp)
    (join : BinaryOp → Expr → Expr → Expr) (operand : List Lexeme → Reading) (left : Expr)
    (xs : List Lexeme) : readChain op? join operand 0 left xs = .ok (left, xs) := by
  cases xs <;> rfl

section Parts

variable (hu : EndsBefore us) (hv : EndsBefore vs)

include hu hv

private theorem closeParen_sameBefore (e : Expr) (front : List Lexeme) :
    Reading.SameBefore us vs (closeParen e (front ++ us)) (closeParen e (front ++ vs)) := by
  cases front with
  | nil =>
    rw [List.nil_append, List.nil_append, hu.closeParen_eq, hv.closeParen_eq]
    exact .error .missingParen []
  | cons z front =>
    rw [List.cons_append, List.cons_append, closeParen, closeParen]
    split
    · exact .ok e front
    · exact .error .missingParen (z :: front)

private theorem takePercent_sameBefore (e : Expr) (front : List Lexeme) :
    Reading.SameBefore us vs (takePercent e (front ++ us)) (takePercent e (front ++ vs)) := by
  cases front with
  | nil =>
    rw [List.nil_append, List.nil_append, hu.takePercent_eq, hv.takePercent_eq]
    exact .ok e []
  | cons z front =>
    rw [List.cons_append, List.cons_append, takePercent, takePercent]
    split
    · exact .ok (.percent e) front
    · exact .ok e (z :: front)

section Operands

variable {operand : List Lexeme → Reading}
  (same : ∀ front, Reading.SameBefore us vs (operand (front ++ us)) (operand (front ++ vs)))

include same

private theorem takeExponent_sameBefore (base : Expr) (front : List Lexeme) :
    Reading.SameBefore us vs (takeExponent operand base (front ++ us))
      (takeExponent operand base (front ++ vs)) := by
  cases front with
  | nil =>
    rw [List.nil_append, List.nil_append, hu.takeExponent_eq, hv.takeExponent_eq]
    exact .ok base []
  | cons z front =>
    rw [List.cons_append, List.cons_append, takeExponent, takeExponent]
    split
    · exact (same front).map (.binary .power base)
    · exact .ok base (z :: front)

variable {op? : TokenKind → Option BinaryOp} (none : op? .stop = none)
  (join : BinaryOp → Expr → Expr → Expr)

include none

private theorem readChain_steps_sameBefore (n : Nat) : ∀ (left : Expr) (front : List Lexeme),
    Reading.SameBefore us vs (readChain op? join operand n left (front ++ us))
      (readChain op? join operand n left (front ++ vs)) := by
  induction n with
  | zero =>
    intro left front
    rw [readChain_zero, readChain_zero]
    exact .ok left front
  | succ n ih =>
    intro left front
    cases front with
    | nil =>
      rw [List.nil_append, List.nil_append, readChain_stops _ left fun x hx => hu x hx ▸ none,
        readChain_stops _ left fun x hx => hv x hx ▸ none]
      exact .ok left []
    | cons z front =>
      rw [List.cons_append, List.cons_append, readChain, readChain]
      cases op? z.kind with
      | none => exact .ok left (z :: front)
      | some op => exact (same front).next fun right front => ih (join op left right) front

private theorem readChain_sameBefore (operands : ∀ xs, (operand xs).Within xs) (left : Expr)
    (front : List Lexeme) :
    Reading.SameBefore us vs
      (readChain op? join operand (front ++ us).length left (front ++ us))
      (readChain op? join operand (front ++ vs).length left (front ++ vs)) := by
  have shrinks {xs rest : List Lexeme} {e : Expr} (h : operand xs = .ok (e, rest)) :
      rest.length ≤ xs.length := by
    have within : Reading.Within xs (.ok (e, rest)) := h ▸ operands xs
    exact within.of_ok.length_le
  have steps := readChain_steps_sameBefore hu hv same none join
    ((front ++ us).length + (front ++ vs).length) left front
  rwa [readChain_enough shrinks _ _ _ (Nat.le_add_right _ _),
    readChain_enough shrinks _ _ _ (Nat.le_add_left _ _)] at steps

end Operands

private theorem primary_sameBefore {d : Nat}
    (same : ∀ front, Reading.SameBefore us vs (Phrase.read d .sum (front ++ us))
      (Phrase.read d .sum (front ++ vs))) (z : Lexeme) (front : List Lexeme) :
    Reading.SameBefore us vs (Phrase.read (d + 1) .primary (z :: (front ++ us)))
      (Phrase.read (d + 1) .primary (z :: (front ++ vs))) := by
  have paren (wrap : Expr → Expr) (front : List Lexeme) : Reading.SameBefore us vs
      (Phrase.read d .sum (front ++ us) >>= fun r => closeParen (wrap r.1) r.2)
      (Phrase.read d .sum (front ++ vs) >>= fun r => closeParen (wrap r.1) r.2) :=
    (same front).next fun e front => closeParen_sameBefore hu hv (wrap e) front
  cases hz : z.kind with
  | sqrt =>
    cases front with
    | nil =>
      rw [List.nil_append, List.nil_append, hu.read_sqrt hz, hv.read_sqrt hz]
      exact .error .missingArgument []
    | cons w front =>
      simp only [Phrase.read, hz, List.cons_append]
      split
      · exact paren (.call "sqrt") front
      · exact .error .missingArgument (w :: front)
  | number =>
    simp only [Phrase.read, hz]
    split
    · exact .ok _ front
    · exact .error _ (z :: front)
  | lineRef =>
    simp only [Phrase.read, hz]
    split
    · exact .ok _ front
    · exact .error _ (z :: front)
  | name =>
    simp only [Phrase.read, hz]
    exact .ok _ front
  | leftParen =>
    simp only [Phrase.read, hz]
    exact paren id front
  | _ =>
    simp only [Phrase.read, hz]
    exact .error _ (z :: front)

/-! ## Phrases and lines -/

/-- Reading comes to the same at both kinds of end. -/
theorem read_sameBefore (d : Nat) : ∀ (p : Phrase) (front : List Lexeme),
    Reading.SameBefore us vs (Phrase.read d p (front ++ us)) (Phrase.read d p (front ++ vs)) := by
  -- The end can come at each mark, so every case that reads a mark asks if there is one before it.
  induction d with
  | zero => exact fun p front => .error .tooDeep front
  | succ d ih =>
    intro p front
    cases p with
    | sum =>
      exact (ih .product front).next fun e front =>
        readChain_sameBefore hu hv (ih .product) rfl _ (read_within d .product) e front
    | product =>
      exact (ih .percent front).next fun e front =>
        readChain_sameBefore hu hv (ih .percent) rfl _ (read_within d .percent) e front
    | percent =>
      rw [read_percent, read_percent]
      exact (ih .power front).next fun e front => takePercent_sameBefore hu hv e front
    | power =>
      rw [read_power, read_power]
      exact (ih .unary front).next fun base front =>
        takeExponent_sameBefore hu hv (ih .power) base front
    | unary =>
      cases front with
      | nil =>
        rw [List.nil_append, List.nil_append, hu.read_unary, hv.read_unary]
        exact ih .primary []
      | cons z front =>
        rw [List.cons_append, List.cons_append, Phrase.read, Phrase.read]
        split
        · exact (ih .unary front).map .neg
        · exact ih .primary (z :: front)
    | primary =>
      cases front with
      | nil =>
        rw [List.nil_append, List.nil_append, hu.read_primary, hv.read_primary]
        exact .error .endOfInput []
      | cons z front => exact primary_sameBefore hu hv (ih .sum) z front

private theorem readLine_sameBefore (front : List Lexeme) :
    Reading.SameBefore us vs (readLine (front ++ us)) (readLine (front ++ vs)) := by
  match front with
  | [] =>
    rw [List.nil_append, List.nil_append, hu.readLine_eq, hv.readLine_eq]
    exact read_sameBefore hu hv nestingLimit .sum []
  | [z] =>
    rw [List.singleton_append, List.singleton_append, hu.readLine_cons, hv.readLine_cons]
    exact read_sameBefore hu hv nestingLimit .sum [z]
  | z :: w :: front =>
    simp only [List.cons_append, readLine]
    split
    · exact (read_sameBefore hu hv nestingLimit .sum front).map (.assign z.text)
    · exact read_sameBefore hu hv nestingLimit .sum (z :: w :: front)

private theorem readAll_sameBefore (front : List Lexeme) :
    Lockstep (Refusal.SameBefore us vs) Eq (readAll (front ++ us)) (readAll (front ++ vs)) := by
  rw [readAll_eq, readAll_eq]
  refine (readLine_sameBefore hu hv front).bind ?_
  rintro _ _ ⟨e, left⟩
  cases left with
  | nil =>
    rw [List.nil_append, List.nil_append, hu.closeLine_eq, hv.closeLine_eq]
    exact .ok rfl
  | cons z left =>
    rw [List.cons_append, List.cons_append, closeLine, closeLine]
    split
    · exact .ok rfl
    · exact .error (.intro (.unexpected z.text) (z :: left))

end Parts

/-! ## Tokens -/

private theorem offsetFromEnd_stop {body : List Token} {n : Nat} (le : n ≤ body.length)
    (stop : Token) (rest : List Token) :
    offsetFromEnd (body ++ stop :: rest) (n + (rest.length + 1)) =
      offsetFromEnd (body ++ [stop]) (n + 1) := by
  have place : (body ++ stop :: rest).length - (n + (rest.length + 1)) = body.length - n := by
    rw [List.length_append, List.length_cons]
    omega
  have place' : (body ++ [stop]).length - (n + 1) = body.length - n := by
    rw [List.length_append, List.length_singleton]
    omega
  rw [offsetFromEnd, offsetFromEnd, place, place',
    List.drop_append_of_le_length (Nat.sub_le _ _), List.drop_append_of_le_length (Nat.sub_le _ _)]
  cases body.drop (body.length - n) <;> rfl

private theorem isVacant_append {xs ys : List Lexeme} (hx : xs ≠ []) (hy : ys ≠ []) :
    isVacant (xs ++ ys) = false := by
  match xs, ys with
  | [x], y :: ys => rfl
  | x :: z :: xs, ys => rfl

theorem parse_stop {body : List Token} (some : body ≠ []) {stop : Token}
    (hstop : stop.kind = .stop) (rest : List Token) :
    parse (body ++ stop :: rest) = parse (body ++ [stop]) := by
  have marks : body.map Token.toLexeme ≠ [] := mt List.map_eq_nil_iff.mp some
  have more : EndsBefore (stop.toLexeme :: rest.map Token.toLexeme) := endsBefore_cons hstop _
  have none : EndsBefore [stop.toLexeme] := endsBefore_cons hstop []
  have steps := readAll_sameBefore more none (body.map Token.toLexeme)
  have within := readAll_within
    (body.map Token.toLexeme ++ stop.toLexeme :: rest.map Token.toLexeme)
  rw [parse, parse]
  simp only [List.map_append, List.map_cons, List.map_nil]
  rw [isVacant_append marks (List.cons_ne_nil _ _), isVacant_append marks (List.cons_ne_nil _ _)]
  generalize readAll (body.map Token.toLexeme ++ stop.toLexeme :: rest.map Token.toLexeme) = r,
    readAll (body.map Token.toLexeme ++ [stop.toLexeme]) = r' at steps within ⊢
  cases steps with
  | ok same => rw [same]
  | error same =>
    obtain ⟨why, left⟩ := same
    have length := within.of_error.suffix.length_le
    simp only [List.length_append, List.length_map, List.length_cons] at length
    have le : left.length ≤ body.length := by omega
    have place := offsetFromEnd_stop le stop rest
    simp only [Bool.false_eq_true, if_false, List.length_append, List.length_map, List.length_cons,
      List.length_nil, place]

/-- What tokens are parsed to, beside what others are parsed to: the same tree, or a refusal for the
same cause, maybe at another offset. -/
inductive Parse.SameCause : Parse → Parse → Prop
  | tree (e : Expr) : SameCause (.tree e) (.tree e)
  | refused (why : SyntaxError) (position position' : Int) :
      SameCause (.refused why position) (.refused why position')

theorem parse_concat_stop {body : List Token} (some : body ≠ [])
    (noStop : ∀ t ∈ body, t.kind ≠ .stop) {stop : Token} (hstop : stop.kind = .stop) :
    (parse body).SameCause (parse (body ++ [stop])) := by
  have marks : body.map Token.toLexeme ≠ [] := mt List.map_eq_nil_iff.mp some
  have stopped : EndsBefore [stop.toLexeme] := endsBefore_cons hstop []
  have steps := readAll_sameBefore endsBefore_nil stopped (body.map Token.toLexeme)
  have full : isVacant (body.map Token.toLexeme) = false := by
    match body with
    | [t] => exact beq_eq_false_iff_ne.mpr (noStop t List.mem_cons_self)
    | t :: u :: body => rfl
  rw [List.append_nil] at steps
  rw [parse, parse, List.map_append, List.map_singleton, full,
    isVacant_append marks (List.cons_ne_nil _ _)]
  generalize readAll (body.map Token.toLexeme) = r,
    readAll (body.map Token.toLexeme ++ [stop.toLexeme]) = r' at steps ⊢
  cases steps with
  | ok same => exact same ▸ .tree _
  | error same =>
    obtain ⟨why, left⟩ := same
    exact .refused why _ _

/-- Parsing depends on the tokens up to a stop, but for one that is the first of all; and tokens
without a stop are parsed as they are with one at their end, but for the offset of a refusal. -/
theorem parse_lineEnd :
    (∀ (tokens : List Token) (k : Nat) (stop : Token), 1 ≤ k → tokens[k]? = some stop →
        stop.kind = .stop → parse tokens = parse (tokens.take (k + 1))) ∧
      ∀ (tokens : List Token) (stop : Token), tokens ≠ [] → (∀ t ∈ tokens, t.kind ≠ .stop) →
        stop.kind = .stop → (parse tokens).SameCause (parse (tokens ++ [stop])) := by
  constructor
  · intro tokens k stop later here hstop
    obtain ⟨inside, rfl⟩ := List.getElem?_eq_some_iff.mp here
    have some : tokens.take k ≠ [] := by
      refine List.ne_nil_of_length_pos ?_
      rw [List.length_take]
      omega
    have split : tokens.take k ++ tokens[k] :: tokens.drop (k + 1) = tokens := by
      rw [List.getElem_cons_drop, List.take_append_drop]
    rw [List.take_succ_eq_append_getElem inside, ← parse_stop some hstop (tokens.drop (k + 1)),
      split]
  · intro tokens stop some noStop hstop
    exact parse_concat_stop some noStop hstop

theorem parse_lineEnd_sum :
    let body : List Token := [⟨⟨.number, "1"⟩, 0⟩, ⟨⟨.plus, "+"⟩, 2⟩]
    let stop : Token := ⟨⟨.stop, ""⟩, 3⟩
    let tokens : List Token := body ++ [stop, ⟨⟨.number, "2"⟩, 4⟩]
    parse tokens = parse (body ++ [stop]) ∧ parse tokens = .refused .endOfInput 3 ∧
      (parse body).SameCause (parse (body ++ [stop])) ∧ parse body = .refused .endOfInput 2 := by
  intro body stop tokens
  exact ⟨parse_lineEnd.1 tokens 2 stop (by decide) rfl rfl, by decide +kernel,
    parse_lineEnd.2 body stop (by decide) (by decide) rfl, by decide +kernel⟩

end Worksheet
