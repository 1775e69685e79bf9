import Worksheet.Numeral.Basic
import Worksheet.Token

/-!
References to lines in a text, and their renumbering. A reference is renumbered where it stands;
spacing, comments and text that is no mark stay as they are. Moving lines about renumbers with
`shiftForInsert` and `shiftForRemove`.
-/

set_option autoImplicit false
set_option relaxedAutoImplicit false

namespace Worksheet

/-- The number of a reference. A mark of another kind has none, nor has one with too many digits. -/
def Lexeme.reference? (x : Lexeme) : Option Nat :=
  if x.kind = .lineRef then Numeral.ofDigits? x.text.toList else none

def lineReferences (text : String) : List Nat :=
  (scan text).filterMap fun t => t.toLexeme.reference?

inductive RenumberError
  /-- A new number would have more digits than numbers are written with. -/
  | tooManyDigits
deriving DecidableEq, Repr

/-- The mark with its reference renumbered. One whose number stays the same keeps its digits. -/
def Lexeme.renumber (f : Nat → Int) (x : Lexeme) : Except RenumberError Lexeme :=
  match x.reference? with
  | none => .ok x
  | some k =>
    if f k = k then .ok x
    else if Numeral.withinLimit (f k) then .ok ⟨.lineRef, String.ofList (Numeral.ofInt (f k))⟩
    else .error .tooManyDigits

def Piece.renumber (f : Nat → Int) (p : Piece) : Except RenumberError Piece := do
  let x ← p.lexeme.renumber f
  .ok ⟨p.gap, x⟩

def renumber (f : Nat → Int) (text : String) : Except RenumberError String := do
  let c := cut text.toList
  let pieces ← c.pieces.mapM (Piece.renumber f)
  .ok (String.ofList (Cut.spelling ⟨pieces, c.tail⟩))

/-- The text for a sheet in which a line was put in at number `inserted`: the lines from there on
have moved down. -/
def shiftForInsert (inserted : Int) (text : String) : Except RenumberError String :=
  renumber (fun k => if inserted ≤ k then k + 1 else k) text

/-- The text for a sheet from which line `removed` was taken: the lines after it have moved up. A
reference to that line itself stays as it is. -/
def shiftForRemove (removed : Int) (text : String) : Except RenumberError String :=
  renumber (fun k => if removed < k then k - 1 else k) text

end Worksheet
