import Worksheet.Proofs.Token.Cut

/-!
Where tokens stand. The tokens of a text take up spans that follow each other, all else in the text
is blank, and gaps and spans make up the text (`scan_covers`). The tokens for the grammar stand in
the same order, the stop after all others (`tokenize_ordered`).
-/

set_option autoImplicit false
set_option relaxedAutoImplicit false

namespace Worksheet

open Text

inductive Tiles : Nat → List Token → List Char → Prop
  | tail {start : Nat} {cs : List Char} (blank : ∀ c ∈ cs, isBlank c = true) : Tiles start [] cs
  | token {start : Nat} {gap rest : List Char} {t : Token} {ts : List Token}
      (blank : ∀ c ∈ gap, isBlank c = true) (place : t.position = (start + gap.length : Nat))
      (mark : t.spelling ≠ []) (h : Tiles (start + gap.length + t.spelling.length) ts rest) :
      Tiles start (t :: ts) (gap ++ (t.spelling ++ rest))

private theorem tiles_tokensFrom {tail : List Char} {ps : List Piece}
    (proper : Cut.ProperBefore tail ps) (start : Nat) :
    Tiles start (tokensFrom start ps) (Cut.spelling ⟨ps, tail⟩) := by
  induction ps generalizing start with
  | nil => exact .tail proper
  | cons p ps ih =>
    obtain ⟨blank, ⟨c, body, -, hx, -⟩, proper⟩ := proper
    have length : p.spelling.length = p.gap.length + p.lexeme.spelling.length := by
      rw [Piece.spelling, List.length_append]
    rw [Cut.spelling_cons, tokensFrom, length, ← Nat.add_assoc]
    exact .token blank rfl (by simp [hx]) (ih proper _)

theorem tiles_scan (text : String) : Tiles 0 (scan text) text.toList := by
  have tiles := tiles_tokensFrom (proper_cut text.toList) 0
  rwa [show Cut.spelling ⟨_, _⟩ = text.toList from spelling_cut text.toList] at tiles

/-- The characters from offset `start` on, put together again: before each token what stands there,
and the token as it is written. -/
def interleave (cs : List Char) : Nat → List Token → List Char
  | start, [] => cs.drop start
  | start, t :: ts =>
    cs.extract start t.position.toNat ++ t.spelling ++ interleave cs t.finish.toNat ts

theorem extract_middle (front part rest : List Char) {i j : Nat} (hi : i = front.length)
    (hj : j = front.length + part.length) : (front ++ (part ++ rest)).extract i j = part := by
  rw [List.extract_eq_take_drop, hi, hj, List.drop_left, Nat.add_sub_cancel_left, List.take_left]

namespace Tiles

variable {start : Nat} {ts : List Token} {cs : List Char}

theorem finish_eq {gap : List Char} {t : Token}
    (place : t.position = (start + gap.length : Nat)) :
    t.finish = (start + gap.length + t.spelling.length : Nat) := by
  rw [Token.finish, place, Int.natCast_add (start + gap.length)]

theorem inside (h : Tiles start ts cs) : ∀ t ∈ ts,
    (start : Int) ≤ t.position ∧ t.position < t.finish ∧
      t.finish ≤ (start + cs.length : Nat) := by
  induction h with
  | tail _ => simp
  | @token start gap rest t ts _ place mark _ ih =>
    have finish := finish_eq place
    have length : 0 < t.spelling.length := List.length_pos_iff.mpr mark
    intro u hu
    rw [List.length_append, List.length_append]
    rcases List.mem_cons.mp hu with rfl | hu
    · omega
    · have later := ih u hu
      omega

private theorem ordered (h : Tiles start ts cs) : ts.Pairwise fun t u => t.finish ≤ u.position := by
  induction h with
  | tail _ => exact .nil
  | token _ place _ h ih =>
    refine .cons (fun u hu => ?_) ih
    rw [finish_eq place]
    exact (h.inside u hu).1

private theorem length_le (h : Tiles start ts cs) : ts.length ≤ cs.length := by
  induction h with
  | tail _ => exact Nat.zero_le _
  | token _ _ mark _ ih =>
    have length := List.length_pos_iff.mpr mark
    rw [List.length_cons, List.length_append, List.length_append]
    omega

private theorem blank (h : Tiles start ts cs) {i : Nat} {c : Char} (hc : cs[i]? = some c)
    (outside : ∀ t ∈ ts, ¬ (t.position ≤ (start + i : Nat) ∧ (start + i : Nat) < t.finish)) :
    isBlank c = true := by
  induction h generalizing i with
  | tail blank => exact blank c (List.mem_of_getElem? hc)
  | @token start gap rest t ts blank place _ _ ih =>
    have finish := finish_eq place
    have here := outside t List.mem_cons_self
    rcases Nat.lt_or_ge i gap.length with before | past
    · rw [List.getElem?_append_left before] at hc
      exact blank c (List.mem_of_getElem? hc)
    · have after : t.spelling.length ≤ i - gap.length := by omega
      rw [List.getElem?_append_right past, List.getElem?_append_right after] at hc
      refine ih hc fun u hu => ?_
      have later := outside u (List.mem_cons_of_mem t hu)
      rwa [show start + gap.length + t.spelling.length + (i - gap.length - t.spelling.length) =
        start + i by omega]

private theorem spelled (h : Tiles start ts cs) (front : List Char)
    (length : front.length = start) :
    ∀ t ∈ ts, (front ++ cs).extract t.position.toNat t.finish.toNat = t.spelling := by
  induction h generalizing front with
  | tail _ => simp
  | @token start gap rest t ts _ place _ _ ih =>
    have finish := finish_eq place
    have total : (front ++ gap).length = start + gap.length := by rw [List.length_append, length]
    intro u hu
    rw [← List.append_assoc]
    rcases List.mem_cons.mp hu with rfl | hu
    · exact extract_middle (front ++ gap) u.spelling rest (by omega) (by omega)
    · rw [← List.append_assoc]
      exact ih (front ++ gap ++ t.spelling) (by rw [List.length_append]; omega) u hu

private theorem interleave_eq (h : Tiles start ts cs) (front : List Char)
    (length : front.length = start) : interleave (front ++ cs) start ts = cs := by
  induction h generalizing front with
  | tail _ => rw [interleave, ← length, List.drop_left]
  | @token start gap rest t ts _ place _ _ ih =>
    have finish := finish_eq place
    have before : (front ++ (gap ++ (t.spelling ++ rest))).extract start t.position.toNat = gap :=
      extract_middle front gap _ length.symm (by omega)
    have after := ih (front ++ (gap ++ t.spelling)) (by simp only [List.length_append]; omega)
    simp only [List.append_assoc] at after
    rw [interleave, before, finish, Int.toNat_natCast, after, List.append_assoc]

end Tiles

/-- Tokens in their order in a text. Their spans do not overlap, each holds what the token is
written with, all else in the text is blank, and the text is made up of spans and gaps. -/
structure Covers (text : String) (ts : List Token) : Prop where
  inside : ∀ t ∈ ts, 0 ≤ t.position ∧ t.position < t.finish ∧ t.finish ≤ text.length
  ordered : ts.Pairwise fun t u => t.finish ≤ u.position
  spelled : ∀ t ∈ ts, text.toList.extract t.position.toNat t.finish.toNat = t.spelling
  blank : ∀ (i : Nat) (c : Char), text.toList[i]? = some c →
    (∀ t ∈ ts, ¬ (t.position ≤ i ∧ i < t.finish)) → isBlank c = true
  rebuilt : interleave text.toList 0 ts = text.toList
  count : ts.length ≤ text.length

/-- Tokens, and the part of them for the grammar: all up to the first that is no mark, and a stop
past that one, or at `finish` if there is none. -/
inductive StopsAtInvalid (finish : Int) : List Token → List Token → Prop
  | all {ts : List Token} (valid : ∀ t ∈ ts, t.kind ≠ .invalid) :
      StopsAtInvalid finish ts (ts ++ [⟨⟨.stop, ""⟩, finish⟩])
  | first {before after : List Token} {t : Token} (valid : ∀ u ∈ before, u.kind ≠ .invalid)
      (ht : t.kind = .invalid) : StopsAtInvalid finish (before ++ t :: after)
        (before ++ [t, ⟨⟨.stop, ""⟩, t.finish⟩])

private theorem stopsAtInvalid_upToInvalid (finish : Nat) (ts : List Token) :
    StopsAtInvalid finish ts (upToInvalid finish ts) := by
  induction ts with
  | nil => exact .all nofun
  | cons t ts ih =>
    rw [upToInvalid]
    split
    · next ht => exact @StopsAtInvalid.first finish [] ts t nofun ht
    · next ht =>
      have valid {us : List Token} (h : ∀ u ∈ us, u.kind ≠ .invalid) :
          ∀ u ∈ t :: us, u.kind ≠ .invalid := List.forall_mem_cons.mpr ⟨ht, h⟩
      generalize upToInvalid finish ts = us at ih
      cases ih with
      | all h => exact .all (valid h)
      | @first before after u h hu =>
        exact @StopsAtInvalid.first finish (t :: before) after u (valid h) hu

/-- The tokens of a text lose nothing of it and add nothing to it, and those for the grammar are the
part of them up to the first that is no mark. -/
theorem scan_covers (text : String) :
    Covers text (scan text) ∧ StopsAtInvalid text.length (scan text) (tokenize text) := by
  have tiles := tiles_scan text
  have length : text.toList.length = text.length := String.length_toList
  have inside := tiles.inside
  rw [Nat.zero_add, length] at inside
  refine ⟨⟨inside, tiles.ordered, tiles.spelled [] rfl, fun i c hc outside => ?_,
    tiles.interleave_eq [] rfl, length ▸ tiles.length_le⟩, stopsAtInvalid_upToInvalid _ _⟩
  exact tiles.blank hc (by simpa using outside)

private theorem Tiles.ordered_upToInvalid {start : Nat} {ts : List Token} {cs : List Char}
    (h : Tiles start ts cs) {finish : Nat} (room : start + cs.length ≤ finish) :
    (upToInvalid finish ts).Pairwise (fun t u => t.position < u.position) ∧
      ∀ t ∈ upToInvalid finish ts, (start : Int) ≤ t.position ∧ t.position ≤ finish := by
  induction h with
  | tail _ =>
    refine ⟨List.pairwise_singleton _ _, fun t ht => ?_⟩
    obtain rfl := List.mem_singleton.mp ht
    dsimp only
    omega
  | @token start gap rest t ts blank place mark h ih =>
    have finish_t := finish_eq place
    have length := List.length_pos_iff.mpr mark
    rw [List.length_append, List.length_append] at room
    rw [upToInvalid]
    split
    · refine ⟨List.pairwise_pair.mpr ?_, List.forall_mem_cons.mpr ⟨?_, fun u hu => ?_⟩⟩
      · dsimp only
        omega
      · omega
      · obtain rfl := List.mem_singleton.mp hu
        dsimp only
        omega
    · obtain ⟨ordered, inside⟩ := ih (by omega)
      refine ⟨.cons (fun u hu => ?_) ordered, List.forall_mem_cons.mpr ⟨?_, fun u hu => ?_⟩⟩
      · have := inside u hu
        omega
      · omega
      · have := inside u hu
        omega

theorem tokenize_ordered (text : String) :
    (tokenize text).Pairwise (fun t u => t.position < u.position) ∧
      ∀ t ∈ tokenize text, 0 ≤ t.position ∧ t.position ≤ text.length := by
  have length : text.toList.length = text.length := String.length_toList
  exact (tiles_scan text).ordered_upToInvalid (by omega)

end Worksheet
