import Worksheet.Proofs.Expr.Acceptance
import Worksheet.Proofs.Expr.Lookahead
import Worksheet.Proofs.Token.Spans

/-!
A refusal is at the first mark that cannot be. The marks before it begin a phrase, since all that is
still open there can be closed (`viable_of_read`); no phrase goes on with the mark itself, since
reading would have gone on with it (`LeavesAt.not_derives`). For the lines of texts that is
`parseText_refused_earliest`.
-/

set_option autoImplicit false
set_option relaxedAutoImplicit false

namespace Worksheet

/-! ## What is open can be closed -/

def Phrase.Begins (p : Phrase) (xs : List Lexeme) : Prop := ∃ more e, Derives p (xs ++ more) e

private theorem Phrase.Begins.within {p q : Phrase} {xs : List Lexeme} (h : q.Begins xs)
    {front back : List Lexeme}
    (wrap : ∀ ys e, Derives q ys e → ∃ e', Derives p (front ++ ys ++ back) e') :
    p.Begins (front ++ xs) := by
  obtain ⟨more, e, derived⟩ := h
  obtain ⟨e', whole⟩ := wrap _ e derived
  exact ⟨more ++ back, e', by simpa only [List.append_assoc] using whole⟩

private def anyName : Lexeme := ⟨.name, "x"⟩

private def anyLine : Lexeme := ⟨.lineRef, "1"⟩

private def closing : Lexeme := ⟨.rightParen, ")"⟩

/-- A refusal after marks with which a phrase begins. Where a reference is refused as no line, the
phrase goes on with one that is a line. -/
def Refusal.Viable (p : Phrase) (xs : List Lexeme) (r : Refusal) : Prop :=
  ∃ before, xs = before ++ r.rest ∧ p.Begins before ∧
    ∀ text, r.why = .lineOutOfRange text → p.Begins (before ++ [anyLine])

namespace Refusal.Viable

variable {p q : Phrase} {xs : List Lexeme} {r : Refusal}

private theorem within (h : r.Viable q xs) (front back : List Lexeme)
    (wrap : ∀ ys e, Derives q ys e → ∃ e', Derives p (front ++ ys ++ back) e') :
    r.Viable p (front ++ xs) := by
  obtain ⟨before, rfl, begins, due⟩ := h
  refine ⟨front ++ before, (List.append_assoc _ _ _).symm, begins.within wrap, fun text hw => ?_⟩
  rw [List.append_assoc]
  exact (due text hw).within wrap

private theorem lift (h : r.Viable q xs) (wrap : ∀ {ys e}, Derives q ys e → Derives p ys e) :
    r.Viable p xs :=
  h.within [] [] fun ys e derived => ⟨e, by simpa using wrap derived⟩

end Refusal.Viable

private theorem primary_anyName : Derives .primary [anyName] (.var "x") := .name rfl

private theorem primary_anyLine : Derives .primary [anyLine] (.line 1) :=
  .line rfl (by decide)

private theorem sum_anyName : Derives .sum [anyName] (.var "x") :=
  .product (.factor (.power (.unary (.primary primary_anyName))))

private theorem begins_sqrt {x : Lexeme} (hx : x.kind = .sqrt) : Phrase.primary.Begins [x] :=
  ⟨[⟨.leftParen, "("⟩, anyName, closing], _, .sqrt hx rfl sum_anyName rfl⟩

private theorem readChain_viable {op? : TokenKind → Option BinaryOp}
    {join : BinaryOp → Expr → Expr → Expr} {d : Nat} {p q : Phrase}
    (operand : ∀ {xs r}, Phrase.read d q xs = .error r → r.why ≠ .tooDeep → r.Viable q xs)
    (joined : ∀ {xs x ys op left right}, Derives p xs left → op? (Lexeme.kind x) = some op →
      Derives q ys right → Derives p (xs ++ x :: ys) (join op left right)) :
    ∀ (n : Nat) {done xs : List Lexeme} {left : Expr} {r : Refusal}, Derives p done left →
      readChain op? join (Phrase.read d q) n left xs = .error r → r.why ≠ .tooDeep →
      r.Viable p (done ++ xs) := by
  intro n
  induction n with
  | zero =>
    intro done xs left r _ h
    cases xs <;> contradiction
  | succ n ih =>
    intro done xs left r hleft h shallow
    cases xs with
    | nil => contradiction
    | cons x xs =>
      rw [readChain] at h
      cases hop : op? x.kind with
      | none =>
        rw [hop] at h
        contradiction
      | some op =>
        rw [hop] at h
        rw [List.append_cons]
        rcases error_cases_of_bind h with h | ⟨⟨right, rest⟩, hr, tail⟩
        · refine (operand h shallow).within (done ++ [x]) [] fun ys e derived => ?_
          exact ⟨_, by simpa using joined hleft hop derived⟩
        · obtain ⟨ys, rfl, hright⟩ := derives_of_read d q hr
          simpa using ih (joined hleft hop hright) tail shallow

private theorem takePercent_ne_error (e : Expr) (xs : List Lexeme) (r : Refusal) :
    takePercent e xs ≠ .error r := by
  cases xs with
  | nil => simp [takePercent]
  | cons x rest =>
    rw [takePercent]
    split <;> simp

private theorem takeExponent_viable {d : Nat} {done xs : List Lexeme} {base : Expr} {r : Refusal}
    (operand : ∀ {xs r}, Phrase.read d .power xs = .error r → r.why ≠ .tooDeep →
      r.Viable .power xs)
    (hbase : Derives .unary done base)
    (h : takeExponent (Phrase.read d .power) base xs = .error r) (shallow : r.why ≠ .tooDeep) :
    r.Viable .power (done ++ xs) := by
  cases xs with
  | nil => contradiction
  | cons x rest =>
    rw [takeExponent] at h
    split at h
    · next hx =>
      rcases error_cases_of_bind h with h | ⟨s, -, last⟩
      · rw [List.append_cons]
        refine (operand h shallow).within (done ++ [x]) [] fun ys e derived => ?_
        exact ⟨_, by simpa using Derives.raise hbase hx derived⟩
      · contradiction
    · contradiction

private theorem closeParen_eq_error {e : Expr} {xs : List Lexeme} {r : Refusal}
    (h : closeParen e xs = .error r) : r = ⟨.missingParen, xs⟩ := by
  cases xs with
  | nil => exact (Except.error.inj h).symm
  | cons x xs =>
    rw [closeParen] at h
    split at h
    · contradiction
    · exact (Except.error.inj h).symm

private theorem paren_viable {d : Nat} {front xs : List Lexeme} {wrap : Expr → Expr} {r : Refusal}
    (sum : ∀ {xs r}, Phrase.read d .sum xs = .error r → r.why ≠ .tooDeep → r.Viable .sum xs)
    (whole : ∀ {ys e}, Derives .sum ys e → Derives .primary (front ++ ys ++ [closing]) (wrap e))
    (h : (Phrase.read d .sum xs >>= fun s => closeParen (wrap s.1) s.2) = .error r)
    (shallow : r.why ≠ .tooDeep) : r.Viable .primary (front ++ xs) := by
  rcases error_cases_of_bind h with h | ⟨⟨e, rest⟩, hs, tail⟩
  · exact (sum h shallow).within front [closing] fun ys e derived => ⟨_, whole derived⟩
  · obtain ⟨ys, rfl, derived⟩ := derives_of_read d .sum hs
    obtain rfl := closeParen_eq_error tail
    exact ⟨front ++ ys, (List.append_assoc _ _ _).symm, ⟨[closing], _, whole derived⟩, nofun⟩

private theorem primary_viable {d : Nat} {xs : List Lexeme} {r : Refusal}
    (sum : ∀ {xs r}, Phrase.read d .sum xs = .error r → r.why ≠ .tooDeep → r.Viable .sum xs)
    (h : Phrase.read (d + 1) .primary xs = .error r) (shallow : r.why ≠ .tooDeep) :
    r.Viable .primary xs := by
  -- The first mark is refused: any name might stand in its place.
  have here {why : SyntaxError} {xs : List Lexeme}
      (h : (.error ⟨why, xs⟩ : Reading) = .error r) : r.Viable .primary xs := by
    obtain rfl := Except.error.inj h
    exact ⟨[], rfl, ⟨[anyName], _, primary_anyName⟩, fun _ _ => ⟨[], _, primary_anyLine⟩⟩
  cases xs with
  | nil => exact here h
  | cons x xs =>
    simp only [Phrase.read] at h
    split at h
    · split at h
      · contradiction
      · exact here h
    · contradiction
    · split at h
      · contradiction
      · exact here h
    · next hx =>
      have whole {ys : List Lexeme} {e : Expr} (derived : Derives .sum ys e) :
          Derives .primary ([x] ++ ys ++ [closing]) (id e) := .paren hx derived rfl
      exact paren_viable sum whole h shallow
    · next hx =>
      split at h
      · obtain rfl := Except.error.inj h
        exact ⟨[x], rfl, begins_sqrt hx, fun _ => SyntaxError.noConfusion⟩
      · next y ys =>
        split at h
        · next hy =>
          have whole {zs : List Lexeme} {e : Expr} (derived : Derives .sum zs e) :
              Derives .primary ([x, y] ++ zs ++ [closing]) (.call "sqrt" e) :=
            .sqrt hx hy derived rfl
          exact paren_viable sum whole h shallow
        · obtain rfl := Except.error.inj h
          exact ⟨[x], rfl, begins_sqrt hx, fun _ => SyntaxError.noConfusion⟩
    · exact here h
    · exact here h
    · exact here h

/-- Where reading is refused, the marks before are the beginning of a phrase. -/
theorem viable_of_read (d : Nat) : ∀ (p : Phrase) {xs : List Lexeme} {r : Refusal},
    Phrase.read d p xs = .error r → r.why ≠ .tooDeep → r.Viable p xs := by
  induction d with
  | zero =>
    intro p xs r h shallow
    obtain rfl := Except.error.inj h
    exact absurd rfl shallow
  | succ d ih =>
    intro p xs r h shallow
    cases p with
    | sum =>
      rcases error_cases_of_bind h with h | ⟨⟨first, rest⟩, hf, tail⟩
      · exact (ih .product h shallow).lift .product
      · obtain ⟨ys, rfl, hfirst⟩ := derives_of_read d .product hf
        exact readChain_viable (ih .product) Derives.add _ (.product hfirst) tail shallow
    | product =>
      rcases error_cases_of_bind h with h | ⟨⟨first, rest⟩, hf, tail⟩
      · exact (ih .percent h shallow).lift .factor
      · obtain ⟨ys, rfl, hfirst⟩ := derives_of_read d .percent hf
        exact readChain_viable (ih .percent) Derives.multiply _ (.factor hfirst) tail shallow
    | percent =>
      rw [read_percent] at h
      rcases error_cases_of_bind h with h | ⟨⟨e, rest⟩, -, tail⟩
      · exact (ih .power h shallow).lift .power
      · exact absurd tail (takePercent_ne_error e rest r)
    | power =>
      rw [read_power] at h
      rcases error_cases_of_bind h with h | ⟨⟨base, rest⟩, hb, tail⟩
      · exact (ih .unary h shallow).lift .unary
      · obtain ⟨ys, rfl, hbase⟩ := derives_of_read d .unary hb
        exact takeExponent_viable (ih .power) hbase tail shallow
    | unary =>
      cases xs with
      | nil => exact (ih .primary h shallow).lift .primary
      | cons x xs =>
        rw [Phrase.read] at h
        split at h
        · next hx =>
          rcases error_cases_of_bind h with h | ⟨s, -, last⟩
          · refine (ih .unary h shallow).within [x] [] fun ys e derived => ?_
            exact ⟨_, by simpa using Derives.neg hx derived⟩
          · contradiction
        · exact (ih .primary h shallow).lift .primary
    | primary => exact primary_viable (ih .sum) h shallow

/-! ## Lines -/

def BeginsLine (xs : List Lexeme) : Prop := ∃ more e, DerivesLine (xs ++ more) e

/-- Whether the mark `x` cannot come after the marks `xs` on a line. A stop is the end of the
line. -/
def BlocksLine (xs : List Lexeme) (x : Lexeme) : Prop :=
  if x.kind = .stop then ∀ e, ¬ DerivesLine xs e else ¬ BeginsLine (xs ++ [x])

/-- Whether an operand may come after the marks `xs` on a line, say the first of its lines. -/
def OperandDue (xs : List Lexeme) : Prop := BeginsLine (xs ++ [⟨.lineRef, "1"⟩])

theorem withoutTarget_cases (xs : List Lexeme) :
    (∃ x y, x.kind = .name ∧ y.kind = .equals ∧ xs = x :: y :: withoutTarget xs) ∨
      withoutTarget xs = xs ∧ ∀ x y ys, xs = x :: y :: ys → x.kind = .name → y.kind ≠ .equals := by
  match xs with
  | [] => exact .inr ⟨rfl, fun _ _ _ h => nomatch h⟩
  | [x] => exact .inr ⟨rfl, fun _ _ _ h => nomatch h⟩
  | x :: y :: ys =>
    rw [withoutTarget]
    split
    · next assigns => exact .inl ⟨x, y, assigns.1, assigns.2, rfl⟩
    · next other =>
      refine .inr ⟨rfl, fun a b zs same ha hb => other ?_⟩
      obtain ⟨rfl, rfl, -⟩ : x = a ∧ y = b ∧ ys = zs := by simpa using same
      exact ⟨ha, hb⟩

theorem readAll_eq_error {xs : List Lexeme} {r : Refusal} (h : readAll xs = .error r)
    (shallow : r.why ≠ .tooDeep) : (readSum (withoutTarget xs)).LeavesAt r.rest ∧
      ∃ before, xs = before ++ r.rest ∧ BeginsLine before ∧
        ∀ text, r.why = .lineOutOfRange text → OperandDue before := by
  obtain ⟨wrap, line⟩ := readLine_eq xs
  rcases error_cases_of_bind h with h | ⟨⟨e, rest⟩, hl, tail⟩
  · rw [line] at h
    rcases error_cases_of_bind h with h | ⟨s, -, last⟩
    · refine ⟨h ▸ .error ⟨shallow, rfl⟩, ?_⟩
      obtain ⟨before, split, begins, due⟩ := viable_of_read nestingLimit .sum h shallow
      rcases withoutTarget_cases xs with ⟨x, y, hx, hy, whole⟩ | ⟨whole, -⟩
      · have target {zs : List Lexeme} (h : Phrase.sum.Begins zs) : BeginsLine (x :: y :: zs) :=
          h.elim fun more ⟨_, derived⟩ => ⟨more, _, .assign hx hy derived⟩
        rw [split] at whole
        exact ⟨x :: y :: before, whole, target begins, fun text hw => target (due text hw)⟩
      · have sum {zs : List Lexeme} (h : Phrase.sum.Begins zs) : BeginsLine zs :=
          h.elim fun more ⟨_, derived⟩ => ⟨more, _, .sum derived⟩
        exact ⟨before, whole.symm.trans split, sum begins, fun text hw => sum (due text hw)⟩
    · exact nomatch last
  · cases rest with
    | nil => exact nomatch tail
    | cons x rest =>
      dsimp only at tail
      split at tail
      · exact nomatch tail
      · obtain rfl := Except.error.inj tail
        obtain ⟨body, whole, derived⟩ := derivesLine_of_readLine hl
        refine ⟨?_, body, whole, ⟨[], e, by rwa [List.append_nil]⟩, nofun⟩
        rw [line] at hl
        obtain ⟨s, hs, last⟩ := exists_ok_of_bind hl
        obtain ⟨-, left⟩ := Prod.mk.inj (Except.ok.inj last)
        exact hs ▸ .ok left

private theorem not_beginsLine {xs before rest : List Lexeme} {x : Lexeme}
    (left : (readSum (withoutTarget xs)).LeavesAt (x :: rest)) (split : xs = before ++ x :: rest) :
    ¬ BeginsLine (before ++ [x]) := by
  rintro ⟨more, e, line⟩
  rw [List.append_assoc, List.singleton_append] at line
  have within : (readSum (withoutTarget xs)).Within (withoutTarget xs) := read_within _ .sum _
  have suffix : x :: rest <:+ withoutTarget xs := by
    generalize readSum (withoutTarget xs) = r at left within
    cases left with
    | ok h => exact h ▸ within.of_ok
    | error h => exact h.2 ▸ within.of_error.suffix
  obtain ⟨front, hfront⟩ := suffix
  have blocked (more : List Lexeme) (e : Expr) : ¬ Derives .sum (front ++ x :: more) e := by
    rw [← hfront] at left
    exact left.not_derives more e
  rcases withoutTarget_cases xs with ⟨a, b, ha, hb, whole⟩ | ⟨whole, untargeted⟩
  · rw [← hfront] at whole
    obtain rfl : before = a :: b :: front :=
      List.append_cancel_right (split.symm.trans whole)
    cases line with
    | sum h => exact (h.inner b (by simp)).ne_equals hb
    | assign _ _ h => exact blocked more _ h
  · obtain rfl : before = front :=
      List.append_cancel_right (split.symm.trans (whole.symm.trans hfront.symm))
    generalize hline : before ++ x :: more = zs at line
    cases line with
    | sum h => exact blocked more _ (hline ▸ h)
    | @assign ys a b e ha hb h =>
      rcases before with _ | ⟨c, _ | ⟨c', before⟩⟩ <;>
        simp only [List.nil_append, List.cons_append, List.cons.injEq] at hline split
      · obtain ⟨rfl, -⟩ := hline
        exact blocked [] _ (.product (.factor (.power (.unary (.primary (.name ha))))))
      · obtain ⟨rfl, rfl, -⟩ := hline
        exact untargeted _ _ _ split ha hb
      · obtain ⟨rfl, rfl, -⟩ := hline
        exact untargeted _ _ _ split ha hb

/-! ## Messages -/

def SyntaxError.showing : List String :=
  ["Unexpected token: ", "Invalid token: ", "Invalid line reference: $"]

private theorem showing_apart : ∀ p ∈ SyntaxError.showing, ∀ q ∈ SyntaxError.showing,
    p.toList <+: q.toList → p = q := by
  decide

private theorem text_of_showing {p q a v : String} (hp : p ∈ SyntaxError.showing)
    (hq : q ∈ SyntaxError.showing) (h : q ++ a = p ++ v) : v = a := by
  have front : q.toList <+: (p ++ v).toList :=
    h ▸ String.toList_append ▸ List.prefix_append q.toList a.toList
  have front' : p.toList <+: (p ++ v).toList :=
    String.toList_append ▸ List.prefix_append p.toList v.toList
  have same : p = q := (List.prefix_or_prefix_of_prefix front' front).elim
    (showing_apart p hp q hq) fun h => (showing_apart q hq p hp h).symm
  subst same
  exact ((String.append_right_inj p).mp h).symm

private theorem SyntaxError.Blames.shown {why : SyntaxError} {x : Lexeme} {xs : List Lexeme}
    (h : why.Blames (x :: xs)) (shallow : why ≠ .tooDeep)
    (readable : ∀ text, why ≠ .unreadableNumber text) {p v : String} (hp : p ∈ showing)
    (hv : why.message = p ++ v) : v = x.text := by
  have front : p.toList <+: why.message.toList :=
    hv ▸ String.toList_append ▸ List.prefix_append p.toList v.toList
  have other {message : String} (h : ∀ p ∈ showing, ¬ p.toList <+: message.toList)
      (hm : why.message = message) : v = x.text :=
    absurd (hm ▸ front) (h p hp)
  cases h with
  | stop _ => exact other (by decide) rfl
  | unexpected => exact text_of_showing hp (by decide) hv
  | invalid _ => exact text_of_showing hp (by decide) hv
  | missingArgument => exact other (by decide) rfl
  | missingParen => exact other (by decide) rfl
  | lineOutOfRange _ _ => exact text_of_showing hp (by decide) hv
  | unreadableNumber _ _ => exact absurd rfl (readable _)
  | tooDeep => exact absurd rfl shallow

/-! ## Texts -/

structure EarliestRefusal (ts : List Token) (why : SyntaxError) (position : Int)
    (before : List Token) (t : Token) (after : List Token) : Prop where
  split : ts = before ++ t :: after
  place : t.position = position
  begins : BeginsLine (before.map Token.toLexeme)
  blocks : BlocksLine (before.map Token.toLexeme) t.toLexeme
  shown : ∀ p ∈ SyntaxError.showing, ∀ v, why.message = p ++ v → v = t.text

private theorem EndsWithStop.eq_nil_of_stop {body before after : List Token} {stop t : Token}
    (ends : EndsWithStop body stop) (split : body ++ [stop] = before ++ t :: after)
    (ht : t.kind = .stop) : after = [] := by
  rcases List.eq_nil_or_concat' after with none | ⟨front, last, rfl⟩
  · exact none
  · rw [← List.cons_append, ← List.append_assoc] at split
    obtain ⟨rfl, -⟩ := List.append_inj' split rfl
    exact absurd ht (ends.noStop t (by simp))

private theorem EndsWithStop.earliestRefusal {body : List Token} {stop : Token}
    (ends : EndsWithStop body stop) {why : SyntaxError} {position : Int}
    (h : parse (body ++ [stop]) = .refused why position) (shallow : why ≠ .tooDeep) :
    ∃ before t after, EarliestRefusal (body ++ [stop]) why position before t after := by
  obtain ⟨rest, read, rfl⟩ := ends.exists_of_refused h
  obtain ⟨left, marks, split, begins, -⟩ := readAll_eq_error read shallow
  have blames := (read ▸ readAll_within _ : Ends _ _ (.error _)).of_error.blames
  have readable := ends.ne_unreadableNumber read
  cases rest with
  | nil =>
    obtain ⟨more, e, line⟩ := begins
    have member : stop.toLexeme ∈ marks ++ more := by
      rw [List.append_nil] at split
      simp [← split]
    exact absurd ends.last (line.legible _ member).ne_stop
  | cons x rest =>
    have whole : (body ++ [stop]).map Token.toLexeme = marks ++ x :: rest := by
      rw [← split, List.map_append, List.map_singleton]
    obtain ⟨before, back, tokens, rfl, hback⟩ := List.map_eq_append_iff.mp whole
    obtain ⟨t, after, rfl, rfl, rfl⟩ := List.map_eq_cons_iff.mp hback
    refine ⟨before, t, after, tokens, ?_, begins, ?_, fun p hp v hv => ?_⟩
    · rw [tokens, List.length_cons, List.length_map, offsetFromEnd_append]
    · rw [BlocksLine]
      split
      · next hstop =>
        intro e line
        obtain rfl := ends.eq_nil_of_stop tokens hstop
        have found := readAll_of_derivesLine line hstop
        rw [List.map_nil] at split
        rw [← split] at found
        have ok := found.eq_of_ne fun r' hr => Except.error.inj (read.symm.trans hr) ▸ shallow
        exact nomatch read.symm.trans ok
      · exact not_beginsLine left split
    · exact blames.shown shallow readable hp hv

/-- A text is refused at the first token that cannot be. -/
theorem parseText_refused_earliest {text : String} {why : SyntaxError} {position : Int}
    (h : parseText text = .refused why position) (shallow : why ≠ .tooDeep) :
    (0 ≤ position ∧ position ≤ text.length) ∧
      ∃ before t after, EarliestRefusal (tokenize text) why position before t after ∧
        ∀ u ∈ before ++ after, u.position ≠ position := by
  obtain ⟨body, stop, tokens, ends⟩ := exists_endsWithStop text
  have ordered := tokenize_ordered text
  rw [parseText, tokens] at h
  rw [tokens] at ordered ⊢
  obtain ⟨before, t, after, earliest⟩ := ends.earliestRefusal h shallow
  rw [earliest.split, List.pairwise_append, List.pairwise_cons] at ordered
  obtain ⟨⟨-, ⟨later, -⟩, sooner⟩, inside⟩ := ordered
  rw [← earliest.place]
  refine ⟨inside t (by simp), before, t, after, earliest.place ▸ earliest, fun u hu => ?_⟩
  rcases List.mem_append.mp hu with hu | hu
  · exact Int.ne_of_lt (sooner u hu t List.mem_cons_self)
  · exact Int.ne_of_gt (later u hu)

theorem parseText_refused_noLine :
    parseText "($a + $0)" = .refused (.lineOutOfRange "0") 6 ∧
      (0 ≤ (6 : Int) ∧ (6 : Int) ≤ ("($a + $0)" : String).length) ∧
      ∃ before t after,
        EarliestRefusal (tokenize "($a + $0)") (.lineOutOfRange "0") 6 before t after ∧
          ∀ u ∈ before ++ after, u.position ≠ 6 := by
  have refused : parseText "($a + $0)" = .refused (.lineOutOfRange "0") 6 := by decide +kernel
  exact ⟨refused, parseText_refused_earliest refused nofun⟩

end Worksheet
