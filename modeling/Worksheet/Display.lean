import Worksheet.Binary64
import Worksheet.Numeral.Basic
import Worksheet.Numeral.Reading
import Worksheet.Sheet
import Worksheet.Text.Classes
import Worksheet.Text.Quoted

/-!
How outcomes and sheets are shown. Whole numbers are shown in full up to fifteen digits and all
others with ten significant digits; a failure shows what cannot be had or a question mark.
-/

set_option autoImplicit false
set_option relaxedAutoImplicit false

namespace Worksheet

open Binary64 Numeral Text

/-- Numbers are shown by position from ten thousandths up to ten places. -/
def displayLayout : Layout := ⟨-4, 10, false⟩

def wholeBound : Nat := Nat.pow 10 15

def showQuotient (num den : Nat) : List Char :=
  let (d, lead) := roundTo 10 num den
  displayLayout.write (significantDigits d) lead

def showNumber (x : Float) : String :=
  let v := ofFloat x
  match v with
  | .nan => "NaN"
  | .infinite negative => if negative then "-∞" else "∞"
  | .finite negative m q =>
    match v.whole?.filter (· < wholeBound) with
    | some n => String.ofList (ofInt (if negative then -(n : Int) else n))
    | none =>
      let (num, den) := quotient m q
      String.ofList ((if negative then ['-'] else []) ++ showQuotient num den)

def occursIn (phrase : List Char) : List Char → Bool
  | [] => phrase.isEmpty
  | c :: cs => phrase.isPrefixOf (c :: cs) || occursIn phrase cs

/-- The first dollar sign in a text with characters of the class `p` after it, and all of those that
follow at once. -/
def firstMark (p : Char → Bool) : List Char → List Char
  | [] => []
  | c :: cs => if c = '$' && cs.head?.any p then '$' :: cs.takeWhile p else firstMark p cs

/-- What is shown for the message of a failure. Infinities, `NaN` and messages with a leading
question mark are shown as they are. Of a variable or a reference that a message complains about,
the first mark is shown; letters of either case make up the complaint, none of them outside ASCII.
Anything else is a question mark. -/
def showMessage (message : String) : String :=
  let cs := message.toList
  let lower := cs.map Char.toLower
  if message = "∞" ∨ message = "-∞" ∨ message = "NaN" then message
  else if occursIn "undefined variable".toList lower then
    "? " ++ String.ofList (firstMark isWord cs)
  else if occursIn "invalid line reference".toList lower then
    "? " ++ String.ofList (firstMark isDigit cs)
  else if cs.head? = some '?' then message
  else "?"

def Fault.display (why : Fault) : String := showMessage why.message

def Outcome.display : Outcome → String
  | .value v => showNumber v
  | .failure why => why.display
  | .blank => ""

/-- The row of a line in the text of a sheet: none for a blank text, the text of a comment, and else
the text with its outcome. -/
def Line.row? (l : Line) : Option String :=
  match LineKind.ofText l.input with
  | .blank => none
  | .comment => some l.input
  | .expression =>
    let shown := l.outcome.display
    some (if shown = "" then l.input else l.input ++ " = " ++ shown)

def showLines (lines : List Line) : String := "\n".intercalate (lines.filterMap Line.row?)

def copyValue? (lines : List Line) (index : Int) : Option String :=
  if index < 0 then none
  else match lines[index.toNat]? with
  | some ⟨_, _, _, .value v⟩ => some (showNumber v)
  | _ => none

def Sheet.describe (s : Sheet) : String :=
  "<SheetEngine lines=" ++ String.ofList (ofNat s.size) ++ ">"

/-! ## Scopes as text

All bindings in their order, names in quotes and numbers with the fewest digits that read back. -/

def Bindings.describe {α : Type} (key : α → String) (bs : Bindings α) : String :=
  let entries := bs.map fun b => key b.1 ++ ": " ++ String.ofList (Numeral.shortest b.2)
  "\x7b" ++ ", ".intercalate entries ++ "\x7d"

def Scope.describe (s : Scope) : String :=
  "Scope(variables=" ++ s.vars.describe Text.quoted ++ ", line_results=" ++
    s.lines.describe (fun k => String.ofList (Numeral.ofInt k)) ++ ")"

end Worksheet
