import Worksheet.Evaluation
import Worksheet.Reference

/-!
Sheets: lines worked out from the top down in a running scope. A line sees the variables bound and
the values of the lines above it, never those of itself or of a line below. Every edit works the
whole sheet out again; `Edit` lists the edits and `Sheet.apply` makes one, unless a reference cannot
be renumbered or there is no room for the blank lines that it asks for.
-/

set_option autoImplicit false
set_option relaxedAutoImplicit false

namespace Worksheet

inductive LineKind
  | blank
  /-- The first character that is no blank is a number sign. -/
  | comment
  | expression
deriving DecidableEq, Repr

def LineKind.ofText (text : String) : LineKind :=
  match text.toList.dropWhile Text.isBlank with
  | [] => .blank
  | c :: _ => if c = '#' then .comment else .expression

structure Line where
  id : Nat
  /-- The place in the sheet, counted from zero. -/
  position : Nat
  input : String
  outcome : Outcome
deriving DecidableEq

def Line.number (l : Line) : Nat := l.position + 1

/-- The outcome of a line with a number, and the scope for the line after it: a line with a value is
recorded under its number. -/
def evaluateLine (number : Nat) (text : String) (s : Scope) : Outcome × Scope :=
  match LineKind.ofText text with
  | .expression =>
    match evaluateText text s with
    | (.value v, after) => (.value v, after.record number v)
    | other => other
  | _ => (.blank, s)

def evaluateFrom : Nat → List String → Scope → List Line × Scope
  | _, [], s => ([], s)
  | n, text :: texts, s =>
    let (outcome, s) := evaluateLine (n + 1) text s
    let (lines, s) := evaluateFrom (n + 1) texts s
    (⟨n, n, text, outcome⟩ :: lines, s)

/-- The lines of a sheet, and the scope after the last of them. -/
structure Sheet where
  lines : List Line
  scope : Scope
deriving DecidableEq

namespace Sheet

def empty : Sheet := ⟨[], Scope.empty⟩

def ofInputs (inputs : List String) : Sheet :=
  let (lines, scope) := evaluateFrom 0 inputs Scope.empty
  ⟨lines, scope⟩

def inputs (s : Sheet) : List String := s.lines.map Line.input

def size (s : Sheet) : Nat := s.lines.length

def variableNames (s : Sheet) : List String :=
  (s.scope.vars.map Prod.fst).mergeSort fun a b => decide (a ≤ b)

def padding (s : Sheet) (index : Int) : Nat := (index + 1).toNat - s.size

/-- Replaces the text at a place. Blank lines fill the sheet up to a place past its end, and a place
before the start is none. Whether there is room for them is not asked here; `apply` asks it. -/
def update (s : Sheet) (index : Int) (text : String) : Sheet :=
  if index < 0 then s
  else
    let i := index.toNat
    let padded := s.inputs ++ List.replicate (i + 1 - s.size) ""
    ofInputs (padded.set i text)

/-- Puts a text in at a place, moved into the sheet if it lies outside, and renumbers the references
of the other lines so that they keep to the lines they meant. -/
def insert (s : Sheet) (index : Int) (text : String) : Except RenumberError Sheet := do
  let i := min index.toNat s.size
  let others ← s.inputs.mapM (shiftForInsert (i + 1 : Nat))
  .ok (ofInputs (others.insertIdx i text))

def remove (s : Sheet) (index : Int) : Except RenumberError Sheet :=
  if index < 0 ∨ (s.size : Int) ≤ index then .ok s
  else do
    let others ← (s.inputs.eraseIdx index.toNat).mapM (shiftForRemove (index + 1))
    .ok (ofInputs others)

def append (s : Sheet) (text : String) : Sheet := ofInputs (s.inputs ++ [text])

def cleared : Sheet := ⟨[⟨0, 0, "", .blank⟩], Scope.empty⟩

end Sheet

inductive Edit
  | evaluate (inputs : List String)
  | update (index : Int) (text : String)
  | insert (index : Int) (text : String)
  | remove (index : Int)
  | append (text : String)
  | clear
deriving DecidableEq, Repr

/-- Lengths of lists and amounts of memory are counted below this number. -/
def countLimit : Nat := Nat.pow 2 63

/-- A list has fewer places than this, since each takes eight bytes of memory. How much less memory
there really is at a time is no part of the library. -/
def memoryLimit : Nat := Nat.pow 2 60

inductive PaddingError
  | uncountable
  | outOfMemory
deriving DecidableEq, Repr

def paddingError? (count : Nat) : Option PaddingError :=
  if countLimit ≤ count then some .uncountable
  else if memoryLimit ≤ count then some .outOfMemory
  else none

inductive EditError
  | renumber (why : RenumberError)
  | padding (why : PaddingError)
deriving DecidableEq, Repr

def Sheet.apply (s : Sheet) : Edit → Except EditError Sheet
  | .evaluate inputs => .ok (ofInputs inputs)
  | .update index text =>
    match paddingError? (s.padding index) with
    | some why => .error (.padding why)
    | none => .ok (s.update index text)
  | .insert index text => (s.insert index text).mapError .renumber
  | .remove index => (s.remove index).mapError .renumber
  | .append text => .ok (s.append text)
  | .clear => .ok cleared

end Worksheet
