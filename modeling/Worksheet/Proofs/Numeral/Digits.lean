import Worksheet.Numeral.Reading

/-!
Numerals of natural numbers and their digits. The numeral of a number is made of digits and reads
back as that number; a text of digits alone is read as a whole number exactly when it keeps to the
limit.
-/

set_option autoImplicit false
set_option relaxedAutoImplicit false

namespace Worksheet

namespace Text

theorem isDigit_iff {c : Char} :
    isDigit c = true ↔ ∃ z ∈ digitZeros, z ≤ c.toNat ∧ c.toNat < z + 10 := by
  simp [isDigit, digitValue?]

private theorem blanks_disjoint :
    ∀ r ∈ blanks, ∀ z ∈ digitZeros, r.2 < z ∨ z + 10 ≤ r.1 := by decide

theorem isBlank_of_isDigit {c : Char} (h : isDigit c = true) : isBlank c = false := by
  obtain ⟨z, hz, low, high⟩ := isDigit_iff.mp h
  refine Bool.eq_false_iff.mpr fun blank => ?_
  obtain ⟨r, hr, first, last⟩ := Ranges.has_iff.mp blank
  have := blanks_disjoint r hr z hz
  omega

private theorem toNat_of_ascii {c : Char} (h : c.isDigit = true) :
    48 ≤ c.toNat ∧ c.toNat < 58 := by
  simp only [Char.isDigit, Bool.and_eq_true, decide_eq_true_eq, ge_iff_le] at h
  have low := UInt32.le_iff_toNat_le.mp h.1
  have high := UInt32.le_iff_toNat_le.mp h.2
  exact ⟨low, Nat.lt_succ_of_le high⟩

private theorem digitValue?_of_ascii {c : Char} (h : c.isDigit = true) :
    digitValue? c = some (c.toNat - '0'.toNat) := by
  have bounds := toNat_of_ascii h
  simp [digitValue?, digitZeros, bounds]

private theorem digitChar_digitValue {c : Char} (h : c.isDigit = true) :
    (digitValue c).digitChar = c := by
  have bounds := toNat_of_ascii h
  have value : digitValue c = c.toNat - 48 := by
    rw [digitValue, digitValue?_of_ascii h]
    rfl
  apply Char.toNat_inj.mp
  rw [Nat.toNat_digitChar_of_lt_ten (digitValue_lt c)]
  omega

end Text

namespace Numeral

open Text

theorem isDigit_of_mem_ofNat {n : Nat} {c : Char} (h : c ∈ ofNat n) : isDigit c = true := by
  have ascii := Nat.isDigit_of_mem_toDigits (by decide) (by decide) h
  simp [isDigit, digitValue?_of_ascii ascii]

theorem ofNat_ne_nil (n : Nat) : ofNat n ≠ [] := Nat.toDigits_ne_nil

theorem ofInt_natCast (n : Nat) : ofInt n = ofNat n := by
  simp [ofInt]

private theorem foldl_ofDigitChars (ds : List Char) (h : ∀ c ∈ ds, c.isDigit = true) (n : Nat) :
    ds.foldl (fun n c => 10 * n + digitValue c) n = Nat.ofDigitChars 10 ds n := by
  induction ds generalizing n with
  | nil => simp
  | cons c ds ih =>
    have value : digitValue c = c.toNat - '0'.toNat := by
      simp [digitValue, digitValue?_of_ascii (h c List.mem_cons_self)]
    rw [List.foldl_cons, Nat.ofDigitChars_cons, value]
    exact ih (fun d hd => h d (List.mem_cons_of_mem c hd)) _

@[simp] theorem value_ofNat (n : Nat) : value (ofNat n) = n := by
  have ascii : ∀ c ∈ ofNat n, c.isDigit = true := fun c hc =>
    Nat.isDigit_of_mem_toDigits (by decide) (by decide) hc
  exact (foldl_ofDigitChars (ofNat n) ascii 0).trans Nat.ofDigitChars_ten_toDigits

/-- A numeral as numbers are written: in digits of ASCII, and with no zero before others. -/
structure Canonical (ds : List Char) : Prop where
  ascii : ∀ c ∈ ds, c.isDigit = true
  lead : ds.head? = some '0' → ds = ['0']

instance (ds : List Char) : Decidable (Canonical ds) :=
  decidable_of_iff (ds.all Char.isDigit = true ∧ (ds.head? = some '0' → ds = ['0']))
    ⟨fun h => ⟨List.all_eq_true.mp h.1, h.2⟩, fun h => ⟨List.all_eq_true.mpr h.ascii, h.lead⟩⟩

private theorem ofNat_append (cs : List Char) (ascii : ∀ c ∈ cs, c.isDigit = true) {n : Nat}
    (hn : 0 < n) : ofNat n ++ cs = ofNat (cs.foldl (fun n c => 10 * n + digitValue c) n) := by
  induction cs generalizing n with
  | nil => rw [List.append_nil, List.foldl_nil]
  | cons c cs ih =>
    have digit : ofNat n ++ [c] = ofNat (10 * n + digitValue c) := by
      have step := Nat.toDigits_append_toDigits (b := 10) (by decide) hn (digitValue_lt c)
      rwa [Nat.toDigits_of_lt_base (digitValue_lt c),
        digitChar_digitValue (ascii c List.mem_cons_self)] at step
    calc
      ofNat n ++ c :: cs = ofNat n ++ [c] ++ cs := List.append_cons _ _ _
      _ = ofNat (10 * n + digitValue c) ++ cs := by rw [digit]
      _ = ofNat ((c :: cs).foldl (fun n c => 10 * n + digitValue c) n) :=
        ih (fun d hd => ascii d (List.mem_cons_of_mem c hd)) (by omega)

theorem Canonical.ofNat_value {ds : List Char} (h : Canonical ds) (digits : ds ≠ []) :
    ofNat (value ds) = ds := by
  obtain ⟨c, cs, rfl⟩ := List.exists_cons_of_ne_nil digits
  by_cases zero : c = '0'
  · subst zero
    rw [h.lead rfl]
    decide
  · have first : ofNat (digitValue c) = [c] := by
      rw [ofNat, Nat.toDigits_of_lt_base (digitValue_lt c),
        digitChar_digitValue (h.ascii c List.mem_cons_self)]
    have positive : 0 < digitValue c := by
      refine Nat.pos_of_ne_zero fun none => zero ?_
      rw [← digitChar_digitValue (h.ascii c List.mem_cons_self), none]
      rfl
    have rest := ofNat_append cs (fun d hd => h.ascii d (List.mem_cons_of_mem c hd)) positive
    rw [first] at rest
    rw [value, List.foldl_cons, Nat.mul_zero, Nat.zero_add]
    exact rest.symm

theorem length_ofNat_le {n k : Nat} (hk : 0 < k) (h : n < Nat.pow 10 k) :
    (ofNat n).length ≤ k :=
  (Nat.length_toDigits_le_iff (by decide) hk).mpr h

theorem ofDigits?_ofNat {n : Nat} (h : withinLimit n = true) : ofDigits? (ofNat n) = some n := by
  have short : (ofNat n).length ≤ digitLimit :=
    length_ofNat_le (by decide) (of_decide_eq_true h)
  rw [ofDigits?, if_pos short, value_ofNat]

private theorem foldl_value_lt (ds : List Char) (n : Nat) :
    ds.foldl (fun n c => 10 * n + digitValue c) n < (n + 1) * Nat.pow 10 ds.length := by
  induction ds generalizing n with
  | nil => exact (Nat.mul_one (n + 1)).symm ▸ Nat.lt_succ_self n
  | cons c ds ih =>
    have next : 10 * n + digitValue c + 1 ≤ (n + 1) * 10 := by
      have := digitValue_lt c
      omega
    calc
      (c :: ds).foldl (fun n c => 10 * n + digitValue c) n
          < (10 * n + digitValue c + 1) * Nat.pow 10 ds.length := ih _
      _ ≤ (n + 1) * 10 * Nat.pow 10 ds.length := Nat.mul_le_mul_right _ next
      _ = (n + 1) * Nat.pow 10 (c :: ds).length := by
        rw [Nat.mul_assoc, Nat.mul_comm 10]
        rfl

theorem value_of_ofDigits? {ds : List Char} {k : Nat} (h : ofDigits? ds = some k) :
    value ds = k := by
  unfold ofDigits? at h
  split at h
  · exact Option.some.inj h
  · contradiction

theorem withinLimit_of_ofDigits? {ds : List Char} {k n : Nat} (h : ofDigits? ds = some k)
    (hn : n ≤ k) : withinLimit n = true := by
  unfold ofDigits? at h
  split at h
  · next short =>
    obtain rfl := Option.some.inj h
    have small : value ds < Nat.pow 10 ds.length := by
      simpa only [Nat.zero_add, Nat.one_mul, value] using foldl_value_lt ds 0
    have grow {a b : Nat} (hab : a ≤ b) : Nat.pow 10 a ≤ Nat.pow 10 b :=
      Nat.pow_le_pow_right (by decide) hab
    exact decide_eq_true (Nat.lt_of_le_of_lt hn (Nat.lt_of_lt_of_le small (grow short)))
  · contradiction

/-- The greatest number that keeps to the limit. -/
def greatest : Nat := Nat.pow 10 digitLimit - 1

theorem withinLimit_iff {k : Nat} : withinLimit k = true ↔ k ≤ greatest := by
  have positive (n : Nat) : 0 < Nat.pow 10 n := Nat.pow_pos (by decide)
  rw [withinLimit, Int.natAbs_natCast, decide_eq_true_eq, greatest]
  exact Nat.lt_iff_le_pred (positive digitLimit)

theorem trimBoth_eq_self {p : Char → Bool} {cs : List Char}
    (h : ∀ c ∈ cs, p c = false) : trimBoth p cs = cs := by
  have keep (ds : List Char) (hd : ∀ c ∈ ds, p c = false) : ds.dropWhile p = ds := by
    cases ds with
    | nil => rfl
    | cons d ds => exact List.dropWhile_cons_of_neg (by simp [hd d List.mem_cons_self])
  unfold trimBoth
  rw [keep cs h, keep cs.reverse (fun c hc => h c (List.mem_reverse.mp hc)), List.reverse_reverse]

theorem joinGroups?_eq_some {b : Bool} {cs : List Char} (h : ∀ c ∈ cs, c ≠ '_') :
    joinGroups? b cs = some cs := by
  induction cs generalizing b with
  | nil => rfl
  | cons c cs ih =>
    rw [joinGroups?, if_neg (h c List.mem_cons_self),
      ih (fun d hd => h d (List.mem_cons_of_mem c hd)), Option.map_some]

theorem takeSign_eq {c : Char} (cs : List Char) (hm : c ≠ '-') (hp : c ≠ '+') :
    takeSign (c :: cs) = (false, c :: cs) := by
  unfold takeSign
  split
  · next h => exact absurd (List.cons.inj h).1 hm
  · next h => exact absurd (List.cons.inj h).1 hp
  · rfl

theorem readInt?_of_digits {ds : List Char} (hne : ds ≠ []) (h : ∀ c ∈ ds, isDigit c = true) :
    readInt? ds = (ofDigits? ds).map Int.ofNat := by
  have other (x : Char) (hx : isDigit x = false) (c : Char) (hc : c ∈ ds) : c ≠ x := by
    rintro rfl
    exact Bool.false_ne_true (hx.symm.trans (h c hc))
  have trimmed : trimBoth isMargin ds = ds :=
    trimBoth_eq_self fun c hc => by simp [isMargin, isBlank_of_isDigit (h c hc)]
  have joined : joinGroups? false ds = some ds := joinGroups?_eq_some (other '_' (by decide))
  obtain ⟨d, rest, rfl⟩ := List.exists_cons_of_ne_nil hne
  have unsigned := takeSign_eq rest (other '-' (by decide) d List.mem_cons_self)
    (other '+' (by decide) d List.mem_cons_self)
  have digits : (d :: rest).all isDigit = true := List.all_eq_true.mpr h
  simp only [readInt?, trimmed, joined, unsigned, digits, Option.bind_eq_bind, Option.bind_some]
  cases ofDigits? (d :: rest) <;> rfl

end Numeral

end Worksheet
