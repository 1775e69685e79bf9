import Worksheet.Text.Classes

/-!
From text to tokens. `Lexeme.read` takes the longest mark that starts with a given character; its
spelling and the rest make up the text again, and it takes a character at least. A line is cut into
pieces, each a gap of blanks and a mark, so that the pieces and the blanks at the end make up the
line again. `scan` gives all tokens with their offsets; `tokenize` stops at the first mark that is
not of the language and ends with a stop.
-/

set_option autoImplicit false
set_option relaxedAutoImplicit false

namespace Worksheet

inductive TokenKind
  | number | plus | minus | times | divide | percent | power | equals
  | leftParen | rightParen
  /-- A variable, written as a dollar sign and a name. -/
  | name
  /-- A reference to a line, written as a dollar sign and digits. -/
  | lineRef
  | sqrt
  | stop
  /-- Text that is no mark of the language. -/
  | invalid
deriving DecidableEq, Repr

/-- Whether marks of this kind are written with a dollar sign that their text leaves out. -/
def TokenKind.hasSigil : TokenKind → Bool
  | .name | .lineRef => true
  | _ => false

/-- A mark: its kind and its text, without the dollar sign of a name or a reference. -/
structure Lexeme where
  kind : TokenKind
  text : String
deriving DecidableEq, Repr

def Lexeme.spelling (x : Lexeme) : List Char :=
  if x.kind.hasSigil then '$' :: x.text.toList else x.text.toList

/-- A mark and the offset of its first character. Offsets may be any integers, since a list of
tokens can be put together by hand. -/
structure Token extends Lexeme where
  position : Int
deriving DecidableEq, Repr

def Token.finish (t : Token) : Int := t.position + t.spelling.length

/-! ## The mark at the front of a text -/

open Text

/-- The kind of a mark that is a single sign. Signs on keys and signs of print are alike. -/
def signKind? : Char → Option TokenKind
  | '+' => some .plus
  | '-' => some .minus
  | '−' => some .minus
  | '*' => some .times
  | '×' => some .times
  | '/' => some .divide
  | '÷' => some .divide
  | '%' => some .percent
  | '^' => some .power
  | '=' => some .equals
  | '(' => some .leftParen
  | ')' => some .rightParen
  | _ => none

def spanNumber (cs : List Char) : List Char × List Char :=
  let whole := cs.takeWhile isDigit
  match cs.dropWhile isDigit with
  | '.' :: rest => (whole ++ '.' :: rest.takeWhile isDigit, rest.dropWhile isDigit)
  | rest => (whole, rest)

/-- Whether a word is the name of the square root, in letters of either case. No letter outside
ASCII has a lower case among these four. -/
def isSqrtWord (word : List Char) : Bool := word.map Char.toLower == ['s', 'q', 'r', 't']

namespace Lexeme

def readDollar (cs : List Char) : Lexeme × List Char :=
  match cs with
  | [] => (⟨.invalid, "$"⟩, [])
  | c :: _ =>
    if isDigit c then (⟨.lineRef, String.ofList (cs.takeWhile isDigit)⟩, cs.dropWhile isDigit)
    else if isLetter c then (⟨.name, String.ofList (cs.takeWhile isWord)⟩, cs.dropWhile isWord)
    else (⟨.invalid, "$"⟩, cs)

def read (c : Char) (cs : List Char) : Lexeme × List Char :=
  if isDigit c || (c == '.' && cs.head?.any isDigit) then
    let (text, rest) := spanNumber (c :: cs)
    (⟨.number, String.ofList text⟩, rest)
  else if c = '$' then readDollar cs
  else match signKind? c with
  | some kind => (⟨kind, String.ofList [c]⟩, cs)
  | none =>
    if isLetter c then
      let word := (c :: cs).takeWhile isWord
      (⟨if isSqrtWord word then .sqrt else .invalid, String.ofList word⟩,
        (c :: cs).dropWhile isWord)
    else (⟨.invalid, String.ofList [c]⟩, cs)

private theorem length_dropWhile_le (p : Char → Bool) (cs : List Char) :
    (cs.dropWhile p).length ≤ cs.length :=
  (List.dropWhile_sublist p).length_le

private theorem spanNumber_append (cs : List Char) :
    (spanNumber cs).1 ++ (spanNumber cs).2 = cs := by
  have h := List.takeWhile_append_dropWhile (p := isDigit) (l := cs)
  unfold spanNumber
  dsimp only
  split
  · next rest hrest =>
    rw [hrest] at h
    simpa using h
  · exact h

private theorem length_spanNumber_le {c : Char} (cs : List Char)
    (h : (isDigit c || c == '.') = true) : (spanNumber (c :: cs)).2.length ≤ cs.length := by
  unfold spanNumber
  dsimp only
  by_cases hd : isDigit c = true
  · simp only [List.dropWhile_cons_of_pos hd]
    split
    · next rest hrest =>
      have := length_dropWhile_le isDigit cs
      have := length_dropWhile_le isDigit rest
      rw [hrest] at *
      simp only [List.length_cons] at *
      omega
    · exact length_dropWhile_le isDigit cs
  · have hc : c = '.' := by simpa [hd] using h
    subst hc
    simp only [List.dropWhile_cons_of_neg hd]
    exact length_dropWhile_le isDigit cs

private theorem readDollar_append (cs : List Char) :
    (readDollar cs).1.spelling ++ (readDollar cs).2 = '$' :: cs := by
  unfold readDollar
  split
  · simp [spelling, TokenKind.hasSigil]
  · split
    · simp [spelling, TokenKind.hasSigil, List.takeWhile_append_dropWhile]
    · split <;> simp [spelling, TokenKind.hasSigil, List.takeWhile_append_dropWhile]

private theorem length_readDollar_le (cs : List Char) : (readDollar cs).2.length ≤ cs.length := by
  unfold readDollar
  split
  · simp
  · split
    · exact length_dropWhile_le isDigit _
    · split
      · exact length_dropWhile_le isWord _
      · simp

theorem hasSigil_of_signKind? {c : Char} {k : TokenKind} (h : signKind? c = some k) :
    k.hasSigil = false := by
  unfold signKind? at h
  split at h <;> first | (injection h with h; subst h; rfl) | contradiction

theorem read_append (c : Char) (cs : List Char) :
    (read c cs).1.spelling ++ (read c cs).2 = c :: cs := by
  unfold read
  split
  · simpa [spelling, TokenKind.hasSigil] using spanNumber_append (c :: cs)
  · split
    · next h => rw [h]; exact readDollar_append cs
    · split
      · next h => simp [spelling, hasSigil_of_signKind? h]
      · split
        · dsimp only
          split <;> simp [spelling, TokenKind.hasSigil, List.takeWhile_append_dropWhile]
        · simp [spelling, TokenKind.hasSigil]

theorem length_read_le (c : Char) (cs : List Char) : (read c cs).2.length ≤ cs.length := by
  unfold read
  split
  · next h =>
    refine length_spanNumber_le cs ?_
    revert h
    cases isDigit c <;> simp_all
  · split
    · exact length_readDollar_le cs
    · split
      · exact Nat.le_refl _
      · split
        · next h =>
          simp only [List.dropWhile_cons_of_pos (isWord_of_isLetter h)]
          exact length_dropWhile_le isWord cs
        · exact Nat.le_refl _

end Lexeme

/-! ## The marks of a text -/

structure Piece where
  gap : List Char
  lexeme : Lexeme
deriving DecidableEq, Repr

def Piece.spelling (p : Piece) : List Char := p.gap ++ p.lexeme.spelling

structure Cut where
  pieces : List Piece
  tail : List Char
deriving DecidableEq, Repr

def Cut.spelling (c : Cut) : List Char := c.pieces.flatMap Piece.spelling ++ c.tail

def cut (cs : List Char) : Cut :=
  let gap := cs.takeWhile isBlank
  match _h : cs.dropWhile isBlank with
  | [] => ⟨[], gap⟩
  | c :: rest =>
    let after := cut (Lexeme.read c rest).2
    ⟨⟨gap, (Lexeme.read c rest).1⟩ :: after.pieces, after.tail⟩
termination_by cs.length
decreasing_by
  have h₁ := (List.dropWhile_sublist isBlank (l := cs)).length_le
  have h₂ := Lexeme.length_read_le c rest
  rw [_h] at h₁
  simp only [List.length_cons] at h₁
  omega

theorem spelling_cut (cs : List Char) : (cut cs).spelling = cs := by
  fun_induction cut cs with
  | case1 cs gap h =>
    have := List.takeWhile_append_dropWhile (p := isBlank) (l := cs)
    rw [h, List.append_nil] at this
    exact this
  | case2 cs gap c rest h after ih =>
    have := List.takeWhile_append_dropWhile (p := isBlank) (l := cs)
    rw [h, ← Lexeme.read_append c rest] at this
    unfold Cut.spelling at ih ⊢
    simp only [List.flatMap_cons, Piece.spelling, List.append_assoc]
    rw [ih]
    exact this

def tokensFrom (start : Nat) : List Piece → List Token
  | [] => []
  | p :: ps => ⟨p.lexeme, (start + p.gap.length : Nat)⟩ :: tokensFrom (start + p.spelling.length) ps

def scan (text : String) : List Token := tokensFrom 0 (cut text.toList).pieces

def upToInvalid (finish : Nat) : List Token → List Token
  | [] => [⟨⟨.stop, ""⟩, finish⟩]
  | t :: ts =>
    if t.kind = .invalid then [t, ⟨⟨.stop, ""⟩, t.finish⟩] else t :: upToInvalid finish ts

/-- The tokens of a line for the grammar. They end with a stop, and nothing comes after text that is
no mark but that stop. -/
def tokenize (text : String) : List Token := upToInvalid text.length (scan text)

end Worksheet
