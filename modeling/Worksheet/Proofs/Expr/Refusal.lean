import Worksheet.Expr
import Worksheet.Proofs.Lockstep

/-!
What a refusal tells. The lexemes that it keeps are the end of those that were read, and its cause
goes with the first of them, as `SyntaxError.Blames` says (`read_within`, `readAll_within`).
-/

set_option autoImplicit false
set_option relaxedAutoImplicit false

namespace Worksheet

/-- The causes for which reading may stop before some lexemes. A cause that shows a text shows that
of the first of them. -/
inductive SyntaxError.Blames : SyntaxError → List Lexeme → Prop
  | exhausted : Blames .endOfInput []
  | stop {x : Lexeme} {xs : List Lexeme} (hx : x.kind = .stop) : Blames .endOfInput (x :: xs)
  | unexpected (x : Lexeme) (xs : List Lexeme) : Blames (.unexpected x.text) (x :: xs)
  | invalid {x : Lexeme} {xs : List Lexeme} (hx : x.kind = .invalid) :
      Blames (.invalid x.text) (x :: xs)
  | missingArgument (xs : List Lexeme) : Blames .missingArgument xs
  | missingParen (xs : List Lexeme) : Blames .missingParen xs
  | lineOutOfRange {x : Lexeme} {xs : List Lexeme} (hx : x.kind = .lineRef)
      (hk : lineNumber? x.text = none) : Blames (.lineOutOfRange x.text) (x :: xs)
  | unreadableNumber {x : Lexeme} {xs : List Lexeme} (hx : x.kind = .number)
      (hv : Numeral.readFloat? x.text.toList = none) :
      Blames (.unreadableNumber x.text) (x :: xs)
  | tooDeep (xs : List Lexeme) : Blames .tooDeep xs

namespace SyntaxError.Blames

variable {x : Lexeme} {text : String} {rest : List Lexeme}

theorem text_unexpected (h : (SyntaxError.unexpected text).Blames rest)
    (first : ∀ z zs, rest = z :: zs → x = z) : text = x.text := by
  cases h with
  | unexpected z zs => rw [first z zs rfl]

theorem text_lineOutOfRange (h : (SyntaxError.lineOutOfRange text).Blames rest)
    (first : ∀ z zs, rest = z :: zs → x = z) : x.kind = .lineRef ∧ text = x.text := by
  cases h with
  | @lineOutOfRange z zs hz _ =>
    rw [first z zs rfl]
    exact ⟨hz, rfl⟩

end SyntaxError.Blames

@[simp] theorem offsetFromEnd_append (before : List Token) (t : Token) (after : List Token) :
    offsetFromEnd (before ++ t :: after) (after.length + 1) = t.position := by
  have place : (before ++ t :: after).length - (after.length + 1) = before.length := by simp
  rw [offsetFromEnd, place, List.drop_left]

structure Refusal.Within (xs : List Lexeme) (r : Refusal) : Prop where
  blames : r.why.Blames r.rest
  suffix : r.rest <:+ xs

private theorem Refusal.Within.mono {xs ys : List Lexeme} {r : Refusal} (h : r.Within ys)
    (le : ys <:+ xs) : r.Within xs :=
  ⟨h.blames, h.suffix.trans le⟩

abbrev Reading.Within (xs : List Lexeme) : Reading → Prop :=
  Ends (Refusal.Within xs) fun r => r.2 <:+ xs

theorem Reading.Within.mono {xs ys : List Lexeme} {r : Reading} (h : r.Within ys)
    (le : ys <:+ xs) : r.Within xs :=
  h.imp (fun _ hr => hr.mono le) fun _ hr => hr.trans le

theorem readChain_ends {E : Refusal → Prop} {I : List Lexeme → Prop}
    {op? : TokenKind → Option BinaryOp} {join : BinaryOp → Expr → Expr → Expr}
    {operand : List Lexeme → Reading}
    (step : ∀ x xs op, I (x :: xs) → op? x.kind = some op →
      Ends E (fun r => I r.2) (operand xs)) (n : Nat) :
    ∀ (left : Expr) (xs : List Lexeme), I xs →
      Ends E (fun r => I r.2) (readChain op? join operand n left xs) := by
  induction n with
  | zero =>
    intro left xs h
    cases xs <;> exact .ok h
  | succ n ih =>
    intro left xs h
    cases xs with
    | nil => exact .ok h
    | cons x xs =>
      rw [readChain]
      cases hx : op? x.kind with
      | none => exact .ok h
      | some op => exact (step x xs op h hx).bind fun r hr => ih _ _ hr

theorem readChain_within {op? : TokenKind → Option BinaryOp} {join : BinaryOp → Expr → Expr → Expr}
    {operand : List Lexeme → Reading} (operands : ∀ xs, (operand xs).Within xs) (n : Nat)
    (left : Expr) (xs : List Lexeme) : (readChain op? join operand n left xs).Within xs := by
  refine readChain_ends (I := (· <:+ xs)) (fun x ys _ hys _ => ?_) n left xs List.suffix_rfl
  exact Reading.Within.mono (operands ys) ((List.suffix_cons x ys).trans hys)

private theorem suffix_of_cons {x : Lexeme} {xs ys : List Lexeme} (h : x :: xs <:+ ys) :
    xs <:+ ys :=
  (List.suffix_cons x xs).trans h

theorem closeParen_within (e : Expr) (xs : List Lexeme) :
    (closeParen e xs).Within xs := by
  cases xs with
  | nil => exact .error ⟨.missingParen [], List.suffix_rfl⟩
  | cons x xs =>
    rw [closeParen]
    split
    · exact .ok (List.suffix_cons x xs)
    · exact .error ⟨.missingParen _, List.suffix_rfl⟩

def takePercent (e : Expr) : List Lexeme → Reading
  | [] => .ok (e, [])
  | x :: rest => if x.kind = .percent then .ok (.percent e, rest) else .ok (e, x :: rest)

def takeExponent (operand : List Lexeme → Reading) (base : Expr) : List Lexeme → Reading
  | [] => .ok (base, [])
  | x :: rest =>
    if x.kind = .power then operand rest >>= fun r => .ok (.binary .power base r.1, r.2)
    else .ok (base, x :: rest)

theorem read_percent (d : Nat) (xs : List Lexeme) :
    Phrase.read (d + 1) .percent xs = Phrase.read d .power xs >>= fun r => takePercent r.1 r.2 := by
  rw [Phrase.read]
  rcases Phrase.read d .power xs with _ | ⟨e, _ | ⟨x, rest⟩⟩ <;> rfl

theorem read_power (d : Nat) (xs : List Lexeme) :
    Phrase.read (d + 1) .power xs =
      Phrase.read d .unary xs >>= fun r => takeExponent (Phrase.read d .power) r.1 r.2 := by
  rw [Phrase.read]
  rcases Phrase.read d .unary xs with _ | ⟨e, _ | ⟨x, rest⟩⟩ <;> rfl

theorem takePercent_within (e : Expr) (xs : List Lexeme) : (takePercent e xs).Within xs := by
  cases xs with
  | nil => exact .ok List.suffix_rfl
  | cons x rest =>
    rw [takePercent]
    split
    · exact .ok (List.suffix_cons x rest)
    · exact .ok List.suffix_rfl

theorem takeExponent_within {operand : List Lexeme → Reading}
    (operands : ∀ xs, (operand xs).Within xs) (base : Expr) (xs : List Lexeme) :
    (takeExponent operand base xs).Within xs := by
  cases xs with
  | nil => exact .ok List.suffix_rfl
  | cons x rest =>
    rw [takeExponent]
    split
    · exact (Reading.Within.mono (operands rest) (List.suffix_cons x rest)).bind fun _ hr => .ok hr
    · exact .ok List.suffix_rfl

/-- What reading makes of a primary that starts with the mark `x`: an operand of that one mark, a
sum in parentheses, or a refusal that is not for depth. -/
inductive PrimaryReading (d : Nat) (x : Lexeme) (xs : List Lexeme) : Reading → Prop
  | operand (e : Expr) (hx : x.kind = .number ∨ x.kind = .name ∨ x.kind = .lineRef) :
      PrimaryReading d x xs (.ok (e, xs))
  | paren (hx : x.kind = .leftParen) :
      PrimaryReading d x xs (Phrase.read d .sum xs >>= fun r => closeParen r.1 r.2)
  | sqrt {y : Lexeme} {ys : List Lexeme} (hxs : xs = y :: ys) (hx : x.kind = .sqrt)
      (hy : y.kind = .leftParen) :
      PrimaryReading d x xs (Phrase.read d .sum ys >>= fun r => closeParen (.call "sqrt" r.1) r.2)
  | refused {r : Refusal} (h : r.Within (x :: xs)) (shallow : r.why ≠ .tooDeep) :
      PrimaryReading d x xs (.error r)

theorem read_primary (d : Nat) (x : Lexeme) (xs : List Lexeme) :
    PrimaryReading d x xs (Phrase.read (d + 1) .primary (x :: xs)) := by
  have here {why : SyntaxError} (h : why.Blames (x :: xs)) (shallow : why ≠ .tooDeep) :
      PrimaryReading d x xs (.error ⟨why, x :: xs⟩) := .refused ⟨h, List.suffix_rfl⟩ shallow
  simp only [Phrase.read]
  cases hx : x.kind with
  | number =>
    dsimp only
    split
    · exact .operand _ (.inl hx)
    · next hv => exact here (.unreadableNumber hx hv) nofun
  | name => exact .operand _ (.inr (.inl hx))
  | lineRef =>
    dsimp only
    split
    · exact .operand _ (.inr (.inr hx))
    · next hk => exact here (.lineOutOfRange hx hk) nofun
  | leftParen => exact .paren hx
  | sqrt =>
    cases xs with
    | nil => exact .refused ⟨.missingArgument [], List.suffix_cons x []⟩ nofun
    | cons y ys =>
      dsimp only
      split
      · next hy => exact .sqrt rfl hx hy
      · exact .refused ⟨.missingArgument _, List.suffix_cons x (y :: ys)⟩ nofun
  | stop => exact here (.stop hx) nofun
  | invalid => exact here (.invalid hx) nofun
  | _ => exact here (.unexpected x xs) nofun

/-- A phrase is read from the front, or refused for the mark at which reading stops. -/
theorem read_within (d : Nat) : ∀ (p : Phrase) (xs : List Lexeme),
    (Phrase.read d p xs).Within xs := by
  induction d with
  | zero => exact fun p xs => .error ⟨.tooDeep xs, List.suffix_rfl⟩
  | succ d ih =>
    intro p xs
    cases p with
    | sum =>
      exact (ih .product xs).bind fun r hr =>
        Reading.Within.mono (readChain_within (ih .product) _ _ _) hr
    | product =>
      exact (ih .percent xs).bind fun r hr =>
        Reading.Within.mono (readChain_within (ih .percent) _ _ _) hr
    | percent =>
      rw [read_percent]
      exact (ih .power xs).bind fun r hr => (takePercent_within r.1 r.2).mono hr
    | power =>
      rw [read_power]
      exact (ih .unary xs).bind fun r hr => (takeExponent_within (ih .power) r.1 r.2).mono hr
    | unary =>
      cases xs with
      | nil => exact ih .primary []
      | cons x xs =>
        rw [Phrase.read]
        split
        · exact (Reading.Within.mono (ih .unary xs) (List.suffix_cons x xs)).bind
            fun _ hr => .ok hr
        · exact ih .primary (x :: xs)
    | primary =>
      cases xs with
      | nil => exact .error ⟨.exhausted, List.suffix_rfl⟩
      | cons x xs =>
        have paren (ys : List Lexeme) (wrap : Expr → Expr) (h : ys <:+ x :: xs) :
            Reading.Within (x :: xs)
              (Phrase.read d .sum ys >>= fun r => closeParen (wrap r.1) r.2) :=
          (Reading.Within.mono (ih .sum ys) h).bind fun r hr =>
            Reading.Within.mono (closeParen_within _ r.2) hr
        have tail : xs <:+ x :: xs := List.suffix_cons x xs
        have first := read_primary d x xs
        generalize Phrase.read (d + 1) .primary (x :: xs) = r at first ⊢
        cases first with
        | operand e _ => exact .ok tail
        | paren _ => exact paren xs id tail
        | sqrt hxs _ _ =>
          subst hxs
          exact paren _ (.call "sqrt") (suffix_of_cons tail)
        | refused h _ => exact .error h

private theorem readLine_within (xs : List Lexeme) : (readLine xs).Within xs := by
  unfold readLine
  split
  · next x y xs =>
    split
    · have tail : xs <:+ x :: y :: xs := suffix_of_cons (List.suffix_cons x (y :: xs))
      exact (Reading.Within.mono (read_within _ .sum xs) tail).bind fun _ hr => .ok hr
    · exact read_within _ .sum _
  · exact read_within _ .sum _

theorem readAll_within (xs : List Lexeme) :
    Ends (Refusal.Within xs) (fun _ => True) (readAll xs) := by
  refine (readLine_within xs).bind ?_
  rintro ⟨e, rest⟩ h
  cases rest with
  | nil => exact .ok trivial
  | cons x rest =>
    dsimp only
    split
    · exact .ok trivial
    · exact .error ⟨.unexpected x rest, h⟩

end Worksheet
