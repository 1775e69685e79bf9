import Worksheet.Proofs.Numeral.Digits
import Worksheet.Proofs.Token.Cut

/-!
Decimals in texts. A mark that is a number is a decimal, digits with one point at most
(`FitsBefore.isDecimal`), and a decimal is such a mark (`fitsBefore_decimal`); every decimal is read
as a double (`exists_readFloat?`).
-/

set_option autoImplicit false
set_option relaxedAutoImplicit false

namespace Worksheet

open Text Binary64

namespace Numeral

/-- Digits with one point at most, and one digit at least. -/
inductive IsDecimal : List Char → Prop
  | whole {ds : List Char} (hne : ds ≠ []) (hd : ∀ c ∈ ds, isDigit c = true) : IsDecimal ds
  | point {ds fs : List Char} (hne : ds ≠ [] ∨ fs ≠ []) (hd : ∀ c ∈ ds, isDigit c = true)
      (hf : ∀ c ∈ fs, isDigit c = true) : IsDecimal (ds ++ '.' :: fs)

private theorem IsDecimal.ne_nil {ds : List Char} (h : IsDecimal ds) : ds ≠ [] := by
  cases h with
  | whole hne _ => exact hne
  | point _ _ _ => simp

theorem IsDecimal.char {ds : List Char} (h : IsDecimal ds) {c : Char} (hc : c ∈ ds) :
    isDigit c = true ∨ c = '.' := by
  cases h with
  | whole _ hd => exact .inl (hd c hc)
  | point _ hd hf =>
    rcases List.mem_append.mp hc with hc | hc
    · exact .inl (hd c hc)
    · rcases List.mem_cons.mp hc with rfl | hc
      · exact .inr rfl
      · exact .inl (hf c hc)

private theorem capitals_disjoint : ∀ z ∈ digitZeros, z + 10 ≤ 'A'.toNat ∨ 'Z'.toNat < z := by
  decide

private theorem toLower_of_isDigit {c : Char} (h : isDigit c = true) : c.toLower = c := by
  obtain ⟨z, hz, low, high⟩ := isDigit_iff.mp h
  have apart := capitals_disjoint z hz
  have small : ¬ (c.val ≥ 'A'.val ∧ c.val ≤ 'Z'.val) := by
    rintro ⟨first, last⟩
    have first := UInt32.le_iff_toNat_le.mp first
    have last := UInt32.le_iff_toNat_le.mp last
    simp only [Char.toNat] at low high apart
    omega
  exact dif_neg small

private theorem toLower_ne {c : Char} (h : isDigit c = true ∨ c = '.') (x : Char)
    (hx : isDigit x = false ∧ x ≠ '.') : c.toLower ≠ x := by
  rcases h with h | rfl
  · rw [toLower_of_isDigit h]
    rintro rfl
    exact Bool.false_ne_true (hx.1.symm.trans h)
  · intro h
    exact hx.2 h.symm

private theorem takeDecimal_whole {ds : List Char} (hd : ∀ c ∈ ds, isDigit c = true) :
    takeDecimal ds = (ds, [], []) := by
  have ends : ([] : List Char).head?.any isDigit = false := rfl
  obtain ⟨run, left⟩ := span_of_boundary hd ends
  rw [List.append_nil] at run left
  rw [takeDecimal, run, left]

private theorem takeDecimal_point {ds fs : List Char} (hd : ∀ c ∈ ds, isDigit c = true)
    (hf : ∀ c ∈ fs, isDigit c = true) : takeDecimal (ds ++ '.' :: fs) = (ds, fs, []) := by
  have point : ('.' :: fs).head?.any isDigit = false := show isDigit '.' = false by decide
  have ends : ([] : List Char).head?.any isDigit = false := rfl
  obtain ⟨run, left⟩ := span_of_boundary hd point
  obtain ⟨run', left'⟩ := span_of_boundary hf ends
  rw [List.append_nil] at run' left'
  simp only [takeDecimal, run, left, run', left']

private theorem readMagnitude?_eq {ds whole fraction : List Char} (h : IsDecimal ds)
    (taken : takeDecimal ds = (whole, fraction, [])) (hne : whole ≠ [] ∨ fraction ≠ []) :
    readMagnitude? ds =
      some (nearestDecimal (value (whole ++ fraction)) (-(fraction.length : Int))) := by
  obtain ⟨c, cs, hds⟩ := List.exists_cons_of_ne_nil h.ne_nil
  have first := h.char (c := c) (hds ▸ List.mem_cons_self)
  have other (name : String) (x : Char) (xs : List Char) (hname : name.toList = x :: xs)
      (hx : isDigit x = false ∧ x ≠ '.') : String.ofList (ds.map Char.toLower) ≠ name := by
    intro same
    have chars := congrArg String.toList same
    rw [String.toList_ofList, hds, List.map_cons, hname] at chars
    exact toLower_ne first x hx (List.cons.inj chars).1
  have inf := other "inf" 'i' ['n', 'f'] (by decide) (by decide)
  have infinity := other "infinity" 'i' ['n', 'f', 'i', 'n', 'i', 't', 'y'] (by decide) (by decide)
  have nan := other "nan" 'n' ['a', 'n'] (by decide) (by decide)
  have digits : (whole.isEmpty && fraction.isEmpty) = false := by
    rcases hne with hne | hne <;> simp [hne]
  unfold readMagnitude?
  simp only [inf, infinity, nan, or_self, if_false, taken, digits, readExponent?, Option.map_some]
  rw [if_neg Bool.false_ne_true, Int.zero_sub]

private theorem readFloat?_eq {ds : List Char} (h : IsDecimal ds) :
    readFloat? ds = readMagnitude? ds := by
  have other (x : Char) (hx : isDigit x = false ∧ x ≠ '.') (c : Char) (hc : c ∈ ds) : c ≠ x := by
    rintro rfl
    rcases h.char hc with digit | point
    · exact Bool.false_ne_true (hx.1.symm.trans digit)
    · exact hx.2 point
  have trimmed : trimBoth isMargin ds = ds := by
    refine trimBoth_eq_self fun c hc => ?_
    rcases h.char hc with digit | rfl
    · simp [isMargin, isBlank_of_isDigit digit]
    · decide
  have joined : joinGroups? false ds = some ds := joinGroups?_eq_some (other '_' (by decide))
  have unsigned : takeSign ds = (false, ds) := by
    obtain ⟨c, cs, rfl⟩ := List.exists_cons_of_ne_nil h.ne_nil
    exact takeSign_eq cs (other '-' (by decide) c List.mem_cons_self)
      (other '+' (by decide) c List.mem_cons_self)
  simp only [readFloat?, trimmed, joined, unsigned, Option.bind_eq_bind, Option.bind_some]
  cases readMagnitude? ds <;> rfl

theorem readFloat?_whole {ds : List Char} (hne : ds ≠ []) (hd : ∀ c ∈ ds, isDigit c = true) :
    readFloat? ds = some (nearestDecimal (value ds) 0) := by
  have h : IsDecimal ds := .whole hne hd
  rw [readFloat?_eq h, readMagnitude?_eq h (takeDecimal_whole hd) (.inl hne), List.append_nil]
  rfl

theorem readFloat?_point {ds fs : List Char} (hne : ds ≠ [] ∨ fs ≠ [])
    (hd : ∀ c ∈ ds, isDigit c = true) (hf : ∀ c ∈ fs, isDigit c = true) :
    readFloat? (ds ++ '.' :: fs) =
      some (nearestDecimal (value (ds ++ fs)) (-(fs.length : Int))) := by
  have h : IsDecimal (ds ++ '.' :: fs) := .point hne hd hf
  rw [readFloat?_eq h, readMagnitude?_eq h (takeDecimal_point hd hf) hne]

theorem exists_readFloat? {ds : List Char} (h : IsDecimal ds) : ∃ v, readFloat? ds = some v := by
  cases h with
  | whole hne hd => exact ⟨_, readFloat?_whole hne hd⟩
  | point hne hd hf => exact ⟨_, readFloat?_point hne hd hf⟩

end Numeral

namespace Lexeme

private theorem isDecimal_spanNumber {c : Char} {cs : List Char} (h : startsNumber c cs = true) :
    Numeral.IsDecimal (spanNumber (c :: cs)).1 := by
  have digits (ds : List Char) : ∀ x ∈ ds.takeWhile isDigit, isDigit x = true :=
    fun _ hx => List.mem_takeWhile_imp hx
  have start : (c :: cs).takeWhile isDigit ≠ [] ∨
      ∃ d ds, isDigit d = true ∧ (c :: cs).dropWhile isDigit = '.' :: d :: ds := by
    by_cases hc : isDigit c = true
    · exact .inl (by rw [List.takeWhile_cons_of_pos hc]; exact List.cons_ne_nil _ _)
    · have hc := Bool.eq_false_iff.mpr hc
      have point : c = '.' ∧ cs.head?.any isDigit = true := by simpa [startsNumber, hc] using h
      obtain ⟨d, ds, rfl⟩ := List.exists_cons_of_ne_nil (l := cs) fun none => by
        simp [none] at point
      refine .inr ⟨d, ds, by simpa using point.2, ?_⟩
      rw [List.dropWhile_cons_of_neg (by simp [hc]), point.1]
  unfold spanNumber
  dsimp only
  split
  · next rest hr =>
    refine .point ?_ (digits _) (digits _)
    rcases start with start | ⟨d, ds, hd, later⟩
    · exact .inl start
    · obtain ⟨-, rfl⟩ := List.cons.inj (hr.symm.trans later)
      exact .inr (by rw [List.takeWhile_cons_of_pos hd]; exact List.cons_ne_nil _ _)
  · next noPoint =>
    rcases start with start | ⟨d, ds, -, later⟩
    · exact .whole start (digits _)
    · exact (noPoint _ later).elim

theorem FitsBefore.isDecimal {x : Lexeme} {rest : List Char} (h : x.FitsBefore rest)
    (hk : x.kind = .number) : Numeral.IsDecimal x.text.toList := by
  obtain ⟨c, body, -, reads⟩ := h.reads
  cases reads with
  | number hn =>
    rw [String.toList_ofList]
    exact isDecimal_spanNumber hn
  | sign _ sign => exact absurd hk (kind_of_signKind? sign).2.1
  | word _ word => rcases word with rfl | rfl <;> contradiction
  | _ => contradiction

private theorem startsNumber_decimal {c : Char} {cs : List Char}
    (h : Numeral.IsDecimal (c :: cs)) : startsNumber c cs = true := by
  have first (digit : isDigit c = true) : startsNumber c cs = true := by simp [startsNumber, digit]
  generalize hds : c :: cs = ds at h
  cases h with
  | whole _ hd => exact first (hd c (hds ▸ List.mem_cons_self))
  | @point ds fs hne hd hf =>
    cases ds with
    | nil =>
      obtain ⟨rfl, rfl⟩ := List.cons.inj hds
      obtain ⟨f, fs, rfl⟩ := List.exists_cons_of_ne_nil (hne.resolve_left fun some => some rfl)
      simp [startsNumber, hf f List.mem_cons_self]
    | cons d ds =>
      obtain ⟨rfl, -⟩ := List.cons.inj hds
      exact first (hd c List.mem_cons_self)

private theorem spanNumber_decimal {ds : List Char} (h : Numeral.IsDecimal ds) :
    spanNumber ds = (ds, []) := by
  have ends : ([] : List Char).head?.any isDigit = false := rfl
  cases h with
  | whole _ hd =>
    obtain ⟨run, left⟩ := span_of_boundary hd ends
    rw [List.append_nil] at run left
    rw [spanNumber, run, left]
  | @point ds fs _ hd hf =>
    have point : ('.' :: fs).head?.any isDigit = false := show isDigit '.' = false by decide
    obtain ⟨run, left⟩ := span_of_boundary hd point
    obtain ⟨run', left'⟩ := span_of_boundary hf ends
    rw [List.append_nil] at run' left'
    simp only [spanNumber, run, left, run', left']

theorem fitsBefore_decimal {ds : List Char} (h : Numeral.IsDecimal ds) :
    FitsBefore ⟨.number, String.ofList ds⟩ [] := by
  obtain ⟨c, cs, rfl⟩ := List.exists_cons_of_ne_nil h.ne_nil
  have blank : isBlank c = false := by
    rcases h.char List.mem_cons_self with digit | rfl
    · exact isBlank_of_isDigit digit
    · decide
  refine ⟨c, cs, blank, by simp [spelling, TokenKind.hasSigil], ?_⟩
  rw [List.append_nil, read_number (startsNumber_decimal h), spanNumber_decimal h]

end Lexeme

end Worksheet
