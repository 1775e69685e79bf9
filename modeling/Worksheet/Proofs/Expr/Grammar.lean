import Worksheet.Expr
import Worksheet.Proofs.Lockstep
import Worksheet.Proofs.Token.Cut

/-!
The grammar as a relation: `Derives p xs e` says that the marks `xs` are a phrase `p` with the tree
`e`, and `DerivesLine` the same of whole lines. What is read is derived (`derives_of_read`), so a
text that parses is a line of the grammar from its first mark to its last (`derives_of_parseText`).
-/

set_option autoImplicit false
set_option relaxedAutoImplicit false

namespace Worksheet

/-- The marks of a phrase and its tree. Sums and products group from the left, powers from the
right, and a percentage beside a sum takes all that stands to its left for its base. -/
inductive Derives : Phrase → List Lexeme → Expr → Prop
  | product {xs : List Lexeme} {e : Expr} (h : Derives .product xs e) : Derives .sum xs e
  | add {xs ys : List Lexeme} {x : Lexeme} {op : BinaryOp} {left right : Expr}
      (hl : Derives .sum xs left) (hx : additive? x.kind = some op)
      (hr : Derives .product ys right) : Derives .sum (xs ++ x :: ys) (Expr.addTo op left right)
  | factor {xs : List Lexeme} {e : Expr} (h : Derives .percent xs e) : Derives .product xs e
  | multiply {xs ys : List Lexeme} {x : Lexeme} {op : BinaryOp} {left right : Expr}
      (hl : Derives .product xs left) (hx : multiplicative? x.kind = some op)
      (hr : Derives .percent ys right) : Derives .product (xs ++ x :: ys) (.binary op left right)
  | power {xs : List Lexeme} {e : Expr} (h : Derives .power xs e) : Derives .percent xs e
  | percent {xs : List Lexeme} {x : Lexeme} {e : Expr} (h : Derives .power xs e)
      (hx : x.kind = .percent) : Derives .percent (xs ++ [x]) (.percent e)
  | unary {xs : List Lexeme} {e : Expr} (h : Derives .unary xs e) : Derives .power xs e
  | raise {xs ys : List Lexeme} {x : Lexeme} {base exponent : Expr} (hb : Derives .unary xs base)
      (hx : x.kind = .power) (he : Derives .power ys exponent) :
      Derives .power (xs ++ x :: ys) (.binary .power base exponent)
  | primary {xs : List Lexeme} {e : Expr} (h : Derives .primary xs e) : Derives .unary xs e
  | neg {xs : List Lexeme} {x : Lexeme} {e : Expr} (hx : x.kind = .minus)
      (h : Derives .unary xs e) : Derives .unary (x :: xs) (.neg e)
  | number {x : Lexeme} {v : Float} (hx : x.kind = .number)
      (hv : Numeral.readFloat? x.text.toList = some v) : Derives .primary [x] (.number v)
  | name {x : Lexeme} (hx : x.kind = .name) : Derives .primary [x] (.var x.text)
  | line {x : Lexeme} {k : Int} (hx : x.kind = .lineRef) (hk : lineNumber? x.text = some k) :
      Derives .primary [x] (.line k)
  | paren {xs : List Lexeme} {x y : Lexeme} {e : Expr} (hx : x.kind = .leftParen)
      (h : Derives .sum xs e) (hy : y.kind = .rightParen) : Derives .primary (x :: xs ++ [y]) e
  | sqrt {xs : List Lexeme} {x y z : Lexeme} {e : Expr} (hx : x.kind = .sqrt)
      (hy : y.kind = .leftParen) (h : Derives .sum xs e) (hz : z.kind = .rightParen) :
      Derives .primary (x :: y :: xs ++ [z]) (.call "sqrt" e)

inductive DerivesLine : List Lexeme → Expr → Prop
  | sum {xs : List Lexeme} {e : Expr} (h : Derives .sum xs e) : DerivesLine xs e
  | assign {xs : List Lexeme} {x y : Lexeme} {e : Expr} (hx : x.kind = .name)
      (hy : y.kind = .equals) (h : Derives .sum xs e) :
      DerivesLine (x :: y :: xs) (.assign x.text e)

private theorem readChain_sound {op? : TokenKind → Option BinaryOp}
    {join : BinaryOp → Expr → Expr → Expr} {operand : List Lexeme → Reading}
    {chain link : List Lexeme → Expr → Prop}
    (sound : ∀ {xs e rest}, operand xs = .ok (e, rest) → ∃ body, xs = body ++ rest ∧ link body e)
    (joined : ∀ {xs x ys op left right}, chain xs left → op? (Lexeme.kind x) = some op →
      link ys right → chain (xs ++ x :: ys) (join op left right)) :
    ∀ (n : Nat) {done xs : List Lexeme} {left e : Expr} {rest : List Lexeme}, chain done left →
      readChain op? join operand n left xs = .ok (e, rest) →
      ∃ body, xs = body ++ rest ∧ chain (done ++ body) e := by
  have stay {done xs : List Lexeme} {left e : Expr} {rest : List Lexeme} (hleft : chain done left)
      (h : (.ok (left, xs) : Reading) = .ok (e, rest)) :
      ∃ body, xs = body ++ rest ∧ chain (done ++ body) e := by
    obtain ⟨rfl, rfl⟩ := Prod.mk.inj (Except.ok.inj h)
    exact ⟨[], rfl, by simpa using hleft⟩
  intro n
  induction n with
  | zero =>
    intro done xs left e rest hleft h
    cases xs with
    | nil => exact stay hleft h
    | cons x xs => exact stay hleft h
  | succ n ih =>
    intro done xs left e rest hleft h
    cases xs with
    | nil => exact stay hleft h
    | cons x xs =>
      rw [readChain] at h
      cases hop : op? x.kind with
      | none =>
        rw [hop] at h
        exact stay hleft h
      | some op =>
        rw [hop] at h
        obtain ⟨⟨right, left'⟩, hr, tail⟩ := exists_ok_of_bind h
        obtain ⟨ys, rfl, hlink⟩ := sound hr
        obtain ⟨zs, rfl, hchain⟩ := ih (joined hleft hop hlink) tail
        exact ⟨x :: (ys ++ zs), by simp, by simpa using hchain⟩

private theorem closeParen_sound {e e' : Expr} {xs rest : List Lexeme}
    (h : closeParen e xs = .ok (e', rest)) :
    e' = e ∧ ∃ y, y.kind = .rightParen ∧ xs = y :: rest := by
  cases xs with
  | nil => exact nomatch h
  | cons y ys =>
    rw [closeParen] at h
    split at h
    · next hy =>
      obtain ⟨rfl, rfl⟩ := Prod.mk.inj (Except.ok.inj h)
      exact ⟨rfl, y, hy, rfl⟩
    · exact nomatch h

/-- What is read is a phrase, and the rest is what is left of the marks. -/
theorem derives_of_read (d : Nat) : ∀ (p : Phrase) {xs rest : List Lexeme} {e : Expr},
    Phrase.read d p xs = .ok (e, rest) → ∃ body, xs = body ++ rest ∧ Derives p body e := by
  induction d with
  | zero => exact fun _ _ _ _ h => nomatch h
  | succ d ih =>
    intro p xs rest e h
    cases p with
    | sum =>
      obtain ⟨⟨first, left⟩, hf, tail⟩ := exists_ok_of_bind h
      obtain ⟨ys, rfl, hfirst⟩ := ih .product hf
      obtain ⟨zs, rfl, hsum⟩ :=
        readChain_sound (ih .product) Derives.add _ (Derives.product hfirst) tail
      exact ⟨ys ++ zs, by simp, hsum⟩
    | product =>
      obtain ⟨⟨first, left⟩, hf, tail⟩ := exists_ok_of_bind h
      obtain ⟨ys, rfl, hfirst⟩ := ih .percent hf
      obtain ⟨zs, rfl, hproduct⟩ :=
        readChain_sound (ih .percent) Derives.multiply _ (Derives.factor hfirst) tail
      exact ⟨ys ++ zs, by simp, hproduct⟩
    | percent =>
      obtain ⟨⟨first, left⟩, hf, tail⟩ := exists_ok_of_bind h
      obtain ⟨ys, rfl, hfirst⟩ := ih .power hf
      cases left with
      | nil =>
        obtain ⟨rfl, rfl⟩ := Prod.mk.inj (Except.ok.inj tail)
        exact ⟨ys, rfl, .power hfirst⟩
      | cons x left =>
        dsimp only at tail
        split at tail
        · next hx =>
          obtain ⟨rfl, rfl⟩ := Prod.mk.inj (Except.ok.inj tail)
          exact ⟨ys ++ [x], by simp, .percent hfirst hx⟩
        · obtain ⟨rfl, rfl⟩ := Prod.mk.inj (Except.ok.inj tail)
          exact ⟨ys, rfl, .power hfirst⟩
    | power =>
      obtain ⟨⟨base, left⟩, hb, tail⟩ := exists_ok_of_bind h
      obtain ⟨ys, rfl, hbase⟩ := ih .unary hb
      cases left with
      | nil =>
        obtain ⟨rfl, rfl⟩ := Prod.mk.inj (Except.ok.inj tail)
        exact ⟨ys, rfl, .unary hbase⟩
      | cons x left =>
        dsimp only at tail
        split at tail
        · next hx =>
          obtain ⟨⟨exponent, after⟩, he, last⟩ := exists_ok_of_bind tail
          obtain ⟨zs, rfl, hexponent⟩ := ih .power he
          obtain ⟨rfl, rfl⟩ := Prod.mk.inj (Except.ok.inj last)
          exact ⟨ys ++ x :: zs, by simp, .raise hbase hx hexponent⟩
        · obtain ⟨rfl, rfl⟩ := Prod.mk.inj (Except.ok.inj tail)
          exact ⟨ys, rfl, .unary hbase⟩
    | unary =>
      cases xs with
      | nil =>
        obtain ⟨ys, hxs, hprimary⟩ := ih .primary h
        exact ⟨ys, hxs, .primary hprimary⟩
      | cons x xs =>
        rw [Phrase.read] at h
        split at h
        · next hx =>
          obtain ⟨⟨operand, left⟩, ho, tail⟩ := exists_ok_of_bind h
          obtain ⟨ys, rfl, hoperand⟩ := ih .unary ho
          obtain ⟨rfl, rfl⟩ := Prod.mk.inj (Except.ok.inj tail)
          exact ⟨x :: ys, rfl, .neg hx hoperand⟩
        · obtain ⟨ys, hxs, hprimary⟩ := ih .primary h
          exact ⟨ys, hxs, .primary hprimary⟩
    | primary =>
      cases xs with
      | nil => exact nomatch h
      | cons x xs =>
        simp only [Phrase.read] at h
        split at h
        · next hx =>
          split at h
          · next v hv =>
            obtain ⟨rfl, rfl⟩ := Prod.mk.inj (Except.ok.inj h)
            exact ⟨[x], rfl, .number hx hv⟩
          · exact nomatch h
        · next hx =>
          obtain ⟨rfl, rfl⟩ := Prod.mk.inj (Except.ok.inj h)
          exact ⟨[x], rfl, .name hx⟩
        · next hx =>
          split at h
          · next k hk =>
            obtain ⟨rfl, rfl⟩ := Prod.mk.inj (Except.ok.inj h)
            exact ⟨[x], rfl, .line hx hk⟩
          · exact nomatch h
        · next hx =>
          obtain ⟨⟨inner, left⟩, hi, tail⟩ := exists_ok_of_bind h
          obtain ⟨ys, rfl, hinner⟩ := ih .sum hi
          obtain ⟨rfl, y, hy, rfl⟩ := closeParen_sound tail
          exact ⟨x :: ys ++ [y], by simp, .paren hx hinner hy⟩
        · next hx =>
          split at h
          · exact nomatch h
          · next y ys =>
            split at h
            · next hy =>
              obtain ⟨⟨inner, left⟩, hi, tail⟩ := exists_ok_of_bind h
              obtain ⟨zs, rfl, hinner⟩ := ih .sum hi
              obtain ⟨rfl, z, hz, rfl⟩ := closeParen_sound tail
              exact ⟨x :: y :: zs ++ [z], by simp, .sqrt hx hy hinner hz⟩
            · exact nomatch h
        · exact nomatch h
        · exact nomatch h
        · exact nomatch h

theorem derivesLine_of_readLine {xs rest : List Lexeme} {e : Expr}
    (h : readLine xs = .ok (e, rest)) : ∃ body, xs = body ++ rest ∧ DerivesLine body e := by
  have sum {ys : List Lexeme} (h : readSum ys = .ok (e, rest)) :
      ∃ body, ys = body ++ rest ∧ DerivesLine body e := by
    obtain ⟨body, hys, hsum⟩ := derives_of_read nestingLimit .sum h
    exact ⟨body, hys, .sum hsum⟩
  unfold readLine at h
  split at h
  · next x y xs =>
    split at h
    · next hxy =>
      obtain ⟨⟨value, left⟩, hv, last⟩ := exists_ok_of_bind h
      obtain ⟨ys, rfl, hvalue⟩ := derives_of_read nestingLimit .sum hv
      obtain ⟨rfl, rfl⟩ := Prod.mk.inj (Except.ok.inj last)
      exact ⟨x :: y :: ys, rfl, .assign hxy.1 hxy.2 hvalue⟩
    · exact sum h
  · exact sum h

structure Lexeme.Legible (x : Lexeme) : Prop where
  ne_stop : x.kind ≠ .stop
  ne_invalid : x.kind ≠ .invalid
  number : x.kind = .lineRef → ∃ k, lineNumber? x.text = some k

structure Lexeme.Inner (x : Lexeme) : Prop extends x.Legible where
  ne_equals : x.kind ≠ .equals

private theorem legible_of_kind {x : Lexeme} {k : TokenKind} (h : x.kind = k)
    (hs : k ≠ .stop := by decide) (hi : k ≠ .invalid := by decide)
    (hl : k ≠ .lineRef := by decide) : x.Legible :=
  ⟨h ▸ hs, h ▸ hi, fun hx => absurd (h.symm.trans hx) hl⟩

private theorem inner_of_kind {x : Lexeme} {k : TokenKind} (h : x.kind = k)
    (hs : k ≠ .stop := by decide) (hi : k ≠ .invalid := by decide)
    (hl : k ≠ .lineRef := by decide) (he : k ≠ .equals := by decide) : x.Inner :=
  ⟨legible_of_kind h hs hi hl, h ▸ he⟩

theorem additive?_eq_some {k : TokenKind} {op : BinaryOp} (h : additive? k = some op) :
    k = .plus ∨ k = .minus := by
  unfold additive? at h
  split at h
  · exact .inl rfl
  · exact .inr rfl
  · contradiction

theorem multiplicative?_eq_some {k : TokenKind} {op : BinaryOp}
    (h : multiplicative? k = some op) : k = .times ∨ k = .divide := by
  unfold multiplicative? at h
  split at h
  · exact .inl rfl
  · exact .inr rfl
  · contradiction

private theorem Derives.ne_nil {p : Phrase} {xs : List Lexeme} {e : Expr} (h : Derives p xs e) :
    xs ≠ [] := by
  induction h with
  | product _ ih => exact ih
  | factor _ ih => exact ih
  | power _ ih => exact ih
  | unary _ ih => exact ih
  | primary _ ih => exact ih
  | _ => simp

theorem Derives.inner {p : Phrase} {xs : List Lexeme} {e : Expr} (h : Derives p xs e) :
    ∀ x ∈ xs, x.Inner := by
  induction h with
  | product _ ih => exact ih
  | factor _ ih => exact ih
  | power _ ih => exact ih
  | unary _ ih => exact ih
  | primary _ ih => exact ih
  | add _ hx _ ihl ihr =>
    have op := (additive?_eq_some hx).elim inner_of_kind inner_of_kind
    simpa [or_imp, forall_and, op] using ⟨ihl, ihr⟩
  | multiply _ hx _ ihl ihr =>
    have op := (multiplicative?_eq_some hx).elim inner_of_kind inner_of_kind
    simpa [or_imp, forall_and, op] using ⟨ihl, ihr⟩
  | percent _ hx ih => simpa [or_imp, forall_and, inner_of_kind hx] using ih
  | raise _ hx _ ihb ihe => simpa [or_imp, forall_and, inner_of_kind hx] using ⟨ihb, ihe⟩
  | neg hx _ ih => simpa [or_imp, forall_and, inner_of_kind hx] using ih
  | number hx _ => simpa using inner_of_kind hx
  | name hx => simpa using inner_of_kind hx
  | line hx hk => simpa using
      (⟨⟨by simp [hx], by simp [hx], fun _ => ⟨_, hk⟩⟩, by simp [hx]⟩ : Lexeme.Inner _)
  | paren hx _ hy ih =>
    simpa [or_imp, forall_and, inner_of_kind hx, inner_of_kind hy] using ih
  | sqrt hx hy _ hz ih =>
    simpa [or_imp, forall_and, inner_of_kind hx, inner_of_kind hy, inner_of_kind hz] using ih

theorem DerivesLine.legible {xs : List Lexeme} {e : Expr} (h : DerivesLine xs e) :
    ∀ x ∈ xs, x.Legible := by
  cases h with
  | sum h => exact fun x hx => (h.inner x hx).toLegible
  | assign hx hy h =>
    have value := fun x hx => (h.inner x hx).toLegible
    simpa [or_imp, forall_and, legible_of_kind hx, legible_of_kind hy] using value

theorem DerivesLine.ne_nil {xs : List Lexeme} {e : Expr} (h : DerivesLine xs e) : xs ≠ [] := by
  cases h with
  | sum h => exact h.ne_nil
  | assign _ _ _ => exact List.cons_ne_nil _ _

private theorem eq_of_upToInvalidMark {ls body rest : List Lexeme}
    (noStop : ∀ x ∈ ls, x.kind ≠ .stop) (marks : ∀ x ∈ body, x.Legible)
    (ends : ∀ x xs, rest = x :: xs → x.kind = .stop) (h : upToInvalidMark ls = body ++ rest) :
    body = ls := by
  induction ls generalizing body with
  | nil =>
    cases body with
    | nil => rfl
    | cons x body =>
      obtain ⟨rfl, -⟩ := List.cons.inj h
      exact absurd rfl (marks _ List.mem_cons_self).ne_stop
  | cons y ls ih =>
    have head : upToInvalidMark (y :: ls) = y :: (upToInvalidMark (y :: ls)).tail := by
      unfold upToInvalidMark
      split <;> rfl
    cases body with
    | nil => exact absurd (ends _ _ (h.symm.trans head)) (noStop y List.mem_cons_self)
    | cons x body =>
      obtain ⟨rfl, -⟩ := List.cons.inj (head.symm.trans h)
      have valid := (marks y List.mem_cons_self).ne_invalid
      rw [upToInvalidMark, if_neg valid, List.cons_append] at h
      rw [ih (fun z hz => noStop z (List.mem_cons_of_mem y hz))
        (fun z hz => marks z (List.mem_cons_of_mem y hz)) (List.cons.inj h).2]

theorem readAll_eq_ok {xs : List Lexeme} {e : Expr} (h : readAll xs = .ok e) :
    ∃ body rest, xs = body ++ rest ∧ DerivesLine body e ∧
      ∀ y ys, rest = y :: ys → y.kind = .stop := by
  obtain ⟨⟨line, rest⟩, hl, tail⟩ := exists_ok_of_bind h
  obtain ⟨body, rfl, hline⟩ := derivesLine_of_readLine hl
  cases rest with
  | nil =>
    obtain rfl := Except.ok.inj tail
    exact ⟨body, [], rfl, hline, nofun⟩
  | cons x rest =>
    dsimp only at tail
    split at tail
    · next hx =>
      obtain rfl := Except.ok.inj tail
      refine ⟨body, x :: rest, rfl, hline, fun y ys hy => ?_⟩
      exact (List.cons.inj hy).1 ▸ hx
    · exact nomatch tail

private theorem isVacant_upToInvalidMark (ls : List Lexeme) :
    isVacant (upToInvalidMark ls) = true ↔ ls = [] := by
  cases ls with
  | nil => simp [upToInvalidMark, isVacant]
  | cons x ls =>
    have long (y : Lexeme) (ys : List Lexeme) : isVacant (x :: y :: ys) = false := rfl
    have more : ∃ y ys, upToInvalidMark (x :: ls) = x :: y :: ys := by
      unfold upToInvalidMark
      split
      · exact ⟨_, _, rfl⟩
      · unfold upToInvalidMark
        split
        · exact ⟨_, _, rfl⟩
        · split <;> exact ⟨_, _, rfl⟩
    obtain ⟨y, ys, hls⟩ := more
    simp [hls, long]

theorem parseText_eq_tree {text : String} {e : Expr} : parseText text = .tree e ↔
    lexemes text ≠ [] ∧ readAll (upToInvalidMark (lexemes text)) = .ok e := by
  unfold parseText parse
  rw [map_tokenize]
  dsimp only
  split
  · next vacant => simp [(isVacant_upToInvalidMark _).mp vacant]
  · next full =>
    rw [isVacant_upToInvalidMark] at full
    cases readAll (upToInvalidMark (lexemes text)) with
    | ok e' => simp [full]
    | error r => simp

theorem parseText_eq_empty {text : String} : parseText text = .empty ↔ lexemes text = [] := by
  unfold parseText parse
  rw [map_tokenize, ← isVacant_upToInvalidMark]
  dsimp only
  split
  · next vacant => simp [vacant]
  · next full =>
    cases readAll (upToInvalidMark (lexemes text)) <;> simp [full]

theorem derives_of_parseText {text : String} {e : Expr} (h : parseText text = .tree e) :
    DerivesLine (lexemes text) e := by
  obtain ⟨body, rest, split, line, ends⟩ := readAll_eq_ok (parseText_eq_tree.mp h).2
  have noStop : ∀ x ∈ lexemes text, x.kind ≠ .stop := fun x hx =>
    (exists_fitsBefore hx).elim fun _ fits => fits.kind_ne_stop
  exact eq_of_upToInvalidMark noStop line.legible ends split ▸ line

/-! ## What a line mentions -/

inductive Mention
  | name (name : String)
  | line (number : Int)
deriving DecidableEq

/-- What an expression mentions, from the left to the right. The base of a percentage stands for
what was mentioned before, and the variable of an assignment is not read. -/
def Expr.mentions : Expr → List Mention
  | .number _ => []
  | .binary _ left right => left.mentions ++ right.mentions
  | .neg operand => operand.mentions
  | .percent operand => operand.mentions
  | .percentOf operand _ => operand.mentions
  | .var name => [.name name]
  | .line k => [.line k]
  | .assign _ value => value.mentions
  | .call _ argument => argument.mentions

def Lexeme.mention? (x : Lexeme) : Option Mention :=
  match x.kind with
  | .name => some (.name x.text)
  | .lineRef => (lineNumber? x.text).map .line
  | _ => none

private theorem Expr.mentions_addTo (op : BinaryOp) (left right : Expr) :
    (addTo op left right).mentions = left.mentions ++ right.mentions := by
  cases right <;> rfl

theorem Derives.mentions {p : Phrase} {xs : List Lexeme} {e : Expr} (h : Derives p xs e) :
    e.mentions = xs.filterMap Lexeme.mention? := by
  have silent {x : Lexeme} (k : TokenKind) (h : x.kind = k) (hn : k ≠ .name := by decide)
      (hl : k ≠ .lineRef := by decide) : x.mention? = none := by
    subst h
    unfold Lexeme.mention?
    split <;> first | contradiction | rfl
  induction h with
  | product _ ih => exact ih
  | factor _ ih => exact ih
  | power _ ih => exact ih
  | unary _ ih => exact ih
  | primary _ ih => exact ih
  | add _ hx _ ihl ihr =>
    have op := (additive?_eq_some hx).elim (silent _) (silent _)
    rw [Expr.mentions_addTo, ihl, ihr, List.filterMap_append, List.filterMap_cons_none op]
  | multiply _ hx _ ihl ihr =>
    have op := (multiplicative?_eq_some hx).elim (silent _) (silent _)
    rw [Expr.mentions, ihl, ihr, List.filterMap_append, List.filterMap_cons_none op]
  | percent _ hx ih =>
    rw [Expr.mentions, ih, List.filterMap_append, List.filterMap_cons_none (silent _ hx)]
    simp
  | raise _ hx _ ihb ihe =>
    rw [Expr.mentions, ihb, ihe, List.filterMap_append, List.filterMap_cons_none (silent _ hx)]
  | neg hx _ ih => rw [Expr.mentions, ih, List.filterMap_cons_none (silent _ hx)]
  | number hx _ => simp [Expr.mentions, silent _ hx]
  | name hx => simp [Expr.mentions, Lexeme.mention?, hx]
  | line hx hk => simp [Expr.mentions, Lexeme.mention?, hx, hk]
  | paren hx _ hy ih => simp [ih, silent _ hx, silent _ hy]
  | sqrt hx hy _ hz ih => simp [Expr.mentions, ih, silent _ hx, silent _ hy, silent _ hz]

/-- The marks of a line without the variable that it assigns and the equals sign. -/
def withoutTarget : List Lexeme → List Lexeme
  | x :: y :: xs => if x.kind = .name ∧ y.kind = .equals then xs else x :: y :: xs
  | xs => xs

theorem mem_of_mem_withoutTarget {xs : List Lexeme} {x : Lexeme} (h : x ∈ withoutTarget xs) :
    x ∈ xs := by
  unfold withoutTarget at h
  split at h
  · split at h
    · exact List.mem_cons_of_mem _ (List.mem_cons_of_mem _ h)
    · exact h
  · exact h

theorem withoutTarget_eq_self {xs : List Lexeme} (h : ∀ x ∈ xs, x.kind ≠ .equals) :
    withoutTarget xs = xs := by
  unfold withoutTarget
  split
  · next x y xs => exact if_neg fun assigns => h y (by simp) assigns.2
  · rfl

theorem DerivesLine.mentions {xs : List Lexeme} {e : Expr} (line : DerivesLine xs e) :
    e.mentions = (withoutTarget xs).filterMap Lexeme.mention? := by
  cases line with
  | sum h =>
    rw [withoutTarget_eq_self fun x hx => (h.inner x hx).ne_equals]
    exact h.mentions
  | assign hx hy h =>
    rw [withoutTarget, if_pos ⟨hx, hy⟩]
    exact h.mentions

end Worksheet
