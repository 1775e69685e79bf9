import Worksheet.Numeral.Basic
import Worksheet.Text.Quoted

/-!
What becomes of a line: a value, or a fault with its message. A line that cannot be read as an
expression fails for a cause of its own.
-/

set_option autoImplicit false
set_option relaxedAutoImplicit false

namespace Worksheet

inductive SyntaxError
  | endOfInput
  /-- A mark stands where it may not. -/
  | unexpected (text : String)
  /-- Text that is no mark stands where an operand should be. -/
  | invalid (text : String)
  | missingArgument
  | missingParen
  /-- A reference is no whole number, or none that a line can have. -/
  | lineOutOfRange (text : String)
  /-- A number is no decimal numeral. No token that was cut from a text is refused for this. -/
  | unreadableNumber (text : String)
  | tooDeep
  /-- A refusal of which only the message is left. -/
  | reported (message : String)
deriving DecidableEq, Repr

def SyntaxError.message : SyntaxError → String
  | endOfInput => "Unexpected end of input"
  | unexpected text => "Unexpected token: " ++ text
  | invalid text => "Invalid token: " ++ text
  | missingArgument => "Expected '(' after sqrt"
  | missingParen => "Expected ')'"
  | lineOutOfRange text => "Invalid line reference: $" ++ text
  | unreadableNumber text => "could not convert string to float: " ++ Text.quoted text
  | tooDeep => "Expression too deeply nested"
  | reported message => message

inductive Fault
  | refused (why : SyntaxError)
  | unboundName (name : String)
  /-- A line without a value is referred to. -/
  | unboundLine (number : Int)
  | unknownFunction (name : String)
  /-- A value is past the largest double, or a quotient by zero. -/
  | infinite (negative : Bool)
  /-- An operation has no meaning for its operands. -/
  | notANumber
  | tooDeep
  /-- A failure of which only the message is left. -/
  | reported (message : String)
deriving DecidableEq, Repr

def Fault.message : Fault → String
  | refused why => why.message
  | unboundName name => "? $" ++ name
  | unboundLine number => "? $" ++ String.ofList (Numeral.ofInt number)
  | unknownFunction name => "Unknown function: " ++ name
  | infinite false => "∞"
  | infinite true => "-∞"
  | notANumber => "NaN"
  | tooDeep => "?"
  | reported message => message

def Fault.ofValue (v : Float) : Fault :=
  if v.isNaN then .notANumber else .infinite (decide (v < 0))

inductive Outcome
  | value (v : Float)
  | failure (why : Fault)
  /-- There is nothing to work out. -/
  | blank
deriving DecidableEq

end Worksheet
