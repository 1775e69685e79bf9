/-!
Scopes: the variables and the values of lines that a line can refer to. Bindings keep the order in
which their keys first came; binding a key again changes its value in place.
-/

set_option autoImplicit false
set_option relaxedAutoImplicit false

namespace Worksheet

/-- Keys with their values, each key once, in the order in which they were first bound. -/
abbrev Bindings (α : Type) := List (α × Float)

namespace Bindings

variable {α : Type} [DecidableEq α]

def get? (bs : Bindings α) (k : α) : Option Float :=
  (bs.find? fun b => decide (b.1 = k)).map Prod.snd

def put (k : α) (v : Float) : Bindings α → Bindings α
  | [] => [(k, v)]
  | b :: bs => if b.1 = k then (k, v) :: bs else b :: put k v bs

def ofList (bs : List (α × Float)) : Bindings α := bs.foldl (fun acc b => put b.1 b.2 acc) []

def same (bs cs : Bindings α) : Bool :=
  bs.length == cs.length && bs.all fun b => (get? cs b.1).any (b.2 == ·)

@[simp] theorem get?_nil (k : α) : get? ([] : Bindings α) k = none := rfl

@[simp] theorem get?_cons (b : α × Float) (bs : Bindings α) (k : α) :
    get? (b :: bs) k = if b.1 = k then some b.2 else get? bs k := by
  unfold get?
  by_cases h : b.1 = k <;> simp [h]

@[simp] theorem get?_put (bs : Bindings α) (k l : α) (v : Float) :
    get? (put k v bs) l = if k = l then some v else get? bs l := by
  induction bs with
  | nil => simp [put]
  | cons b bs ih =>
    unfold put
    split
    · next h => by_cases hl : k = l <;> simp [h, hl]
    · next h =>
      rw [get?_cons, get?_cons, ih]
      by_cases hl : k = l
      · have : b.1 ≠ l := fun e => h (e.trans hl.symm)
        simp [hl, this]
      · simp [hl]

end Bindings

structure Scope where
  vars : Bindings String
  lines : Bindings Int
deriving DecidableEq

namespace Scope

def empty : Scope := ⟨[], []⟩

def variableValue? (s : Scope) (name : String) : Option Float := s.vars.get? name

def lineValue? (s : Scope) (number : Int) : Option Float := s.lines.get? number

def bind (s : Scope) (name : String) (v : Float) : Scope :=
  { s with vars := s.vars.put name v }

def record (s : Scope) (number : Int) (v : Float) : Scope :=
  { s with lines := s.lines.put number v }

@[simp] theorem variableValue?_bind (s : Scope) (name x : String) (v : Float) :
    (s.bind name v).variableValue? x = if name = x then some v else s.variableValue? x :=
  Bindings.get?_put s.vars name x v

@[simp] theorem lineValue?_record (s : Scope) (number k : Int) (v : Float) :
    (s.record number v).lineValue? k = if number = k then some v else s.lineValue? k :=
  Bindings.get?_put s.lines number k v

/-- Scopes are equal when they bind the same keys to equal numbers; the order does not count. -/
instance : BEq Scope := ⟨fun s t => s.vars.same t.vars && s.lines.same t.lines⟩

/-- The hash of a number. The two zeros, which are equal, have one hash. -/
def numberHash (v : Float) : UInt64 := if v == 0 then 0 else hash v.toBits

def bindingsHash {α : Type} [Hashable α] (bs : Bindings α) : UInt64 :=
  (bs.map fun b => mixHash (hash b.1) (numberHash b.2)).foldl (· + ·) 0

instance : Hashable Scope := ⟨fun s => mixHash (bindingsHash s.vars) (bindingsHash s.lines)⟩

end Scope

end Worksheet
