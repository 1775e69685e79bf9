import Worksheet.Proofs.Expr.Completeness
import Worksheet.Proofs.Numeral.Decimal

/-!
Parsing and the grammar. Marks before a stop are parsed to a tree exactly when they are a line of
the grammar with that tree, and refused otherwise, unless the bound on nesting is met; marks in
which nothing is nested never meet it (`parse_byGrammar`).
-/

set_option autoImplicit false
set_option relaxedAutoImplicit false

namespace Worksheet

/-- A list of tokens as the grammar takes it, but for its last token: the only stop is that one, and
every number can be read. -/
structure EndsWithStop (body : List Token) (stop : Token) : Prop where
  last : stop.kind = .stop
  noStop : ∀ t ∈ body, t.kind ≠ .stop
  readable : ∀ t ∈ body, t.kind = .number → ∃ v, Numeral.readFloat? t.text.toList = some v

/-- What the grammar says of the marks before a stop. They are nothing, a line with its tree, or
else refused. -/
structure Parse.ByGrammar (xs : List Lexeme) (r : Parse) : Prop where
  empty : r = .empty ↔ xs = []
  tree : ∀ e, r = .tree e ↔ DerivesLine xs e
  refused : (∃ why position, r = .refused why position ∧ ∀ text, why ≠ .unreadableNumber text) ↔
    xs ≠ [] ∧ ∀ e, ¬ DerivesLine xs e

theorem exists_of_upToInvalid (finish : Nat) (ts : List Token) :
    ∃ body stop, upToInvalid finish ts = body ++ [stop] ∧ stop.kind = .stop ∧
      ∀ t ∈ body, t ∈ ts := by
  induction ts with
  | nil => exact ⟨[], _, rfl, rfl, nofun⟩
  | cons t ts ih =>
    rw [upToInvalid]
    split
    · exact ⟨[t], _, rfl, rfl, fun u hu => List.mem_singleton.mp hu ▸ List.mem_cons_self⟩
    · obtain ⟨body, stop, split, hstop, among⟩ := ih
      refine ⟨t :: body, stop, by rw [split]; rfl, hstop, fun u hu => ?_⟩
      rcases List.mem_cons.mp hu with rfl | hu
      · exact List.mem_cons_self
      · exact List.mem_cons_of_mem t (among u hu)

theorem exists_endsWithStop (text : String) :
    ∃ body stop, tokenize text = body ++ [stop] ∧ EndsWithStop body stop := by
  obtain ⟨body, stop, split, hstop, among⟩ := exists_of_upToInvalid text.length (scan text)
  have fits : ∀ t ∈ body, ∃ rest, t.toLexeme.FitsBefore rest := fun t ht =>
    exists_fitsBefore (map_scan text ▸ List.mem_map_of_mem (among t ht))
  refine ⟨body, stop, split, hstop, fun t ht => ?_, fun t ht hk => ?_⟩
  · obtain ⟨rest, ht⟩ := fits t ht
    exact ht.kind_ne_stop
  · obtain ⟨rest, ht⟩ := fits t ht
    exact Numeral.exists_readFloat? (ht.isDecimal hk)

namespace EndsWithStop

variable {body : List Token} {stop : Token}

private theorem isVacant_iff (ends : EndsWithStop body stop) :
    isVacant (body.map Token.toLexeme ++ [stop.toLexeme]) = true ↔
      body.map Token.toLexeme = [] := by
  match body.map Token.toLexeme with
  | [] => simp [isVacant, ends.last]
  | [x] => simp [isVacant]
  | x :: y :: xs => simp [isVacant]

theorem parse_cases (ends : EndsWithStop body stop) :
    body.map Token.toLexeme = [] ∧ parse (body ++ [stop]) = .empty ∨
      body.map Token.toLexeme ≠ [] ∧
        ((∃ e, readAll (body.map Token.toLexeme ++ [stop.toLexeme]) = .ok e ∧
            parse (body ++ [stop]) = .tree e) ∨
          ∃ r, readAll (body.map Token.toLexeme ++ [stop.toLexeme]) = .error r ∧
            parse (body ++ [stop]) =
              .refused r.why (offsetFromEnd (body ++ [stop]) r.rest.length)) := by
  rw [ne_eq, ← ends.isVacant_iff, parse, List.map_append, List.map_singleton]
  by_cases vacant : isVacant (body.map Token.toLexeme ++ [stop.toLexeme]) = true
  · exact .inl ⟨vacant, if_pos vacant⟩
  · refine .inr ⟨vacant, ?_⟩
    rw [if_neg vacant]
    cases readAll (body.map Token.toLexeme ++ [stop.toLexeme]) with
    | ok e => exact .inl ⟨e, rfl, rfl⟩
    | error r => exact .inr ⟨r, rfl, rfl⟩

theorem exists_of_refused (ends : EndsWithStop body stop) {why : SyntaxError} {position : Int}
    (h : parse (body ++ [stop]) = .refused why position) :
    ∃ rest, readAll (body.map Token.toLexeme ++ [stop.toLexeme]) = .error ⟨why, rest⟩ ∧
      position = offsetFromEnd (body ++ [stop]) rest.length := by
  rcases ends.parse_cases with ⟨-, parsed⟩ | ⟨-, ⟨e, -, parsed⟩ | ⟨r, read, parsed⟩⟩
  · exact nomatch h.symm.trans parsed
  · exact nomatch h.symm.trans parsed
  · obtain ⟨rfl, place⟩ := Parse.refused.inj (h.symm.trans parsed)
    exact ⟨r.rest, read, place⟩

/-- What is read up to the stop is a line of the grammar. -/
private theorem derivesLine_of_readAll (ends : EndsWithStop body stop) {e : Expr}
    (h : readAll (body.map Token.toLexeme ++ [stop.toLexeme]) = .ok e) :
    DerivesLine (body.map Token.toLexeme) e := by
  obtain ⟨line, rest, split, derived, stops⟩ := readAll_eq_ok h
  have body_free : ∀ x ∈ body.map Token.toLexeme, (x.kind != .stop) = true := by
    simpa using ends.noStop
  have line_free : ∀ x ∈ line, (x.kind != .stop) = true := fun x hx => by
    simpa using (derived.legible x hx).ne_stop
  have body_ends : [stop.toLexeme].head?.any (fun x => x.kind != .stop) = false := by
    simp [ends.last]
  have line_ends : rest.head?.any (fun x => x.kind != .stop) = false := by
    cases rest with
    | nil => rfl
    | cons x xs => simp [stops x xs rfl]
  have run := (span_of_boundary line_free line_ends).1
  rw [← split, (span_of_boundary body_free body_ends).1] at run
  exact run ▸ derived

theorem ne_unreadableNumber (ends : EndsWithStop body stop) {r : Refusal}
    (h : readAll (body.map Token.toLexeme ++ [stop.toLexeme]) = .error r) (text : String) :
    r.why ≠ .unreadableNumber text := by
  intro why
  obtain ⟨blames, suffix⟩ := (h ▸ readAll_within _).of_error
  obtain ⟨why, rest⟩ := r
  cases why
  cases blames with
  | @unreadableNumber x xs hx hv =>
    have member := suffix.subset List.mem_cons_self
    rcases List.mem_append.mp member with member | member
    · obtain ⟨t, ht, rfl⟩ := List.mem_map.mp member
      obtain ⟨v, value⟩ := ends.readable t ht hx
      exact Option.some_ne_none v (value.symm.trans hv)
    · obtain rfl := List.mem_singleton.mp member
      exact TokenKind.noConfusion (hx.symm.trans ends.last)

theorem parse_ne_tooDeep (ends : EndsWithStop body stop)
    (flat : Flat (withoutTarget (body.map Token.toLexeme))) (position : Int) :
    parse (body ++ [stop]) ≠ .refused .tooDeep position := by
  have cost : nestingCost true
      (withoutTarget (body.map Token.toLexeme ++ [stop.toLexeme])) = 0 := by
    rw [withoutTarget_concat_stop _ ends.last, nestingCost_concat_stop _ _ ends.last,
      flat.nestingCost]
  have covered : nestingCost true (withoutTarget (body.map Token.toLexeme ++ [stop.toLexeme])) +
      Phrase.sum.height ≤ nestingLimit := by
    rw [cost]
    decide
  have shallow := readAll_shallow covered
  intro h
  obtain ⟨rest, read, -⟩ := ends.exists_of_refused h
  exact (read ▸ shallow).of_error rfl

private theorem byGrammar (ends : EndsWithStop body stop)
    (shallow : ∀ position, parse (body ++ [stop]) ≠ .refused .tooDeep position) :
    (parse (body ++ [stop])).ByGrammar (body.map Token.toLexeme) := by
  rcases ends.parse_cases with ⟨none, parsed⟩ | ⟨marks, ⟨e, read, parsed⟩ | ⟨r, read, parsed⟩⟩
  · have noLine (e : Expr) : ¬ DerivesLine (body.map Token.toLexeme) e := fun line =>
      line.ne_nil none
    rw [parsed]
    exact ⟨by simp [none], fun e => by simp [noLine], by simp [none]⟩
  · have line := ends.derivesLine_of_readAll read
    have tree (e' : Expr) : e = e' ↔ DerivesLine (body.map Token.toLexeme) e' :=
      ⟨fun h => h ▸ line, line.unique⟩
    rw [parsed]
    exact ⟨by simp [marks], fun e' => by simp [tree],
      by simpa [marks] using ⟨e, line⟩⟩
  · rw [parsed] at shallow
    have noLine (e : Expr) : ¬ DerivesLine (body.map Token.toLexeme) e := by
      intro line
      have found := (readAll_of_derivesLine line ends.last).eq_of_ne fun r' hr deep => by
        obtain rfl := Except.error.inj (read.symm.trans hr)
        exact shallow _ (by rw [deep])
      exact nomatch read.symm.trans found
    rw [parsed]
    refine ⟨by simp [marks], fun e => by simp [noLine], ?_⟩
    simpa [marks, noLine] using ends.ne_unreadableNumber read

end EndsWithStop

theorem parseText_ne_unreadableNumber (text number : String) (position : Int) :
    parseText text ≠ .refused (.unreadableNumber number) position := by
  obtain ⟨body, stop, tokens, ends⟩ := exists_endsWithStop text
  rw [parseText, tokens]
  intro h
  obtain ⟨rest, read, -⟩ := ends.exists_of_refused h
  exact ends.ne_unreadableNumber read number rfl

/-- The parser accepts its grammar and builds its trees. The tokens of every text are of the form
that this is about. -/
theorem parse_byGrammar :
    (∀ text, ∃ body stop, tokenize text = body ++ [stop] ∧ EndsWithStop body stop) ∧
      ∀ body stop, EndsWithStop body stop →
        ((∀ position, parse (body ++ [stop]) ≠ .refused .tooDeep position) →
          (parse (body ++ [stop])).ByGrammar (body.map Token.toLexeme)) ∧
        (∀ e e', DerivesLine (body.map Token.toLexeme) e →
          DerivesLine (body.map Token.toLexeme) e' → e = e') ∧
        (Flat (withoutTarget (body.map Token.toLexeme)) →
          ∀ position, parse (body ++ [stop]) ≠ .refused .tooDeep position) :=
  ⟨exists_endsWithStop, fun _ _ ends =>
    ⟨ends.byGrammar, fun _ _ h h' => h.unique h', ends.parse_ne_tooDeep⟩⟩

theorem parse_percentage_byGrammar :
    let body : List Token := [⟨⟨.number, "1"⟩, 0⟩, ⟨⟨.plus, "+"⟩, 1⟩, ⟨⟨.number, "10"⟩, 2⟩,
      ⟨⟨.percent, "%"⟩, 4⟩]
    let stop : Token := ⟨⟨.stop, ""⟩, 5⟩
    tokenize "1+10%" = body ++ [stop] ∧ EndsWithStop body stop ∧
      (parse (body ++ [stop])).ByGrammar (body.map Token.toLexeme) ∧
      DerivesLine (body.map Token.toLexeme)
        (.binary .add (.number 1) (.percentOf (.number 10) (.number 1))) := by
  intro body stop
  have tokens : tokenize "1+10%" = body ++ [stop] := by decide +kernel
  have one : Numeral.readFloat? ['1'] = some 1 := by decide +kernel
  have ten : Numeral.readFloat? ['1', '0'] = some 10 := by decide +kernel
  have tree : parse (body ++ [stop]) =
      .tree (.binary .add (.number 1) (.percentOf (.number 10) (.number 1))) := by decide +kernel
  have ends : EndsWithStop body stop := ⟨rfl, by simp [body], by simp [body, one, ten]⟩
  have grammar := (parse_byGrammar.2 body stop ends).1 fun position => by simp [tree]
  exact ⟨tokens, ends, grammar, (grammar.tree _).mp tree⟩

end Worksheet
