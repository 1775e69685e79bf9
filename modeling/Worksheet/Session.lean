import Worksheet.Sheet

/-!
A sheet that is kept and edited in place. An operation reads the sheet, works, and then replaces the
lines and the scope, one after the other. It may stop on the way: at a reference that cannot be
renumbered, for want of room for blank lines, or at a number that cannot be read. Whatever was
replaced by then stays replaced.
-/

set_option autoImplicit false
set_option relaxedAutoImplicit false

namespace Worksheet

inductive Stopped
  | edit (why : EditError)
  /-- A number is no decimal numeral. -/
  | unreadableNumber (text : String)
deriving DecidableEq, Repr

/-- Work on a sheet that is kept. Where it stops, the sheet is as it is by then. -/
abbrev Session := EStateM Stopped Sheet

namespace Session

def evaluateText (text : String) (s : Scope) : Session (Outcome × Scope) :=
  match parseText text with
  | .refused (.unreadableNumber number) _ => throw (.unreadableNumber number)
  | p => pure (p.evaluate s)

def evaluateLine (number : Nat) (text : String) (s : Scope) : Session (Outcome × Scope) :=
  match LineKind.ofText text with
  | .expression => do
    match ← evaluateText text s with
    | (.value v, after) => pure (.value v, after.record number v)
    | other => pure other
  | _ => pure (.blank, s)

def evaluateFrom : Nat → List String → Scope → Session (List Line × Scope)
  | _, [], s => pure ([], s)
  | n, text :: texts, s => do
    let (outcome, s) ← evaluateLine (n + 1) text s
    let (lines, s) ← evaluateFrom (n + 1) texts s
    pure (⟨n, n, text, outcome⟩ :: lines, s)

def evaluate (inputs : List String) : Session (List Line) := do
  let (lines, scope) ← evaluateFrom 0 inputs Scope.empty
  modify fun s => { s with lines := lines }
  modify fun s => { s with scope := scope }
  pure lines

def shiftAll (shift : String → Except RenumberError String) : List String → Session (List String)
  | [] => pure []
  | text :: texts =>
    match shift text with
    | .error why => throw (.edit (.renumber why))
    | .ok text => do
      let texts ← shiftAll shift texts
      pure (text :: texts)

def perform : Edit → Session (List Line)
  | .evaluate inputs => evaluate inputs
  | .update index text => do
    let s ← get
    if index < 0 then pure s.lines
    else
      match paddingError? (s.padding index) with
      | some why => throw (.edit (.padding why))
      | none => evaluate ((s.inputs ++ List.replicate (s.padding index) "").set index.toNat text)
  | .insert index text => do
    let s ← get
    let i := min index.toNat s.size
    let others ← shiftAll (shiftForInsert (i + 1 : Nat)) s.inputs
    evaluate (others.insertIdx i text)
  | .remove index => do
    let s ← get
    if index < 0 ∨ (s.size : Int) ≤ index then pure s.lines
    else
      let others ← shiftAll (shiftForRemove (index + 1)) (s.inputs.eraseIdx index.toNat)
      evaluate others
  | .append text => do
    let s ← get
    evaluate (s.inputs ++ [text])
  | .clear => do
    modify fun s => { s with scope := Scope.empty }
    modify fun s => { s with lines := [⟨0, 0, "", .blank⟩] }
    return (← get).lines

end Session

end Worksheet
