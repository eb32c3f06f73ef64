import Widgetry.Literal.Basic

/-!
Scopes: stacks of frames that bind names to literals.
-/

namespace Widgetry

/-- One level of bindings. -/
abbrev Frame := Bag Literal

/-- The frames that are open, the innermost first. -/
structure Scope where
  frames : List Frame := []

namespace Scope

def empty : Scope := {}

def push (frame : Frame) (scope : Scope) : Scope := ⟨frame :: scope.frames⟩

def pop (scope : Scope) : Scope := ⟨scope.frames.tail⟩

def depth (scope : Scope) : Nat := scope.frames.length

/-- Binds a name in the innermost frame, opening one when there is none. -/
def bind (name : String) (value : Literal) (scope : Scope) : Scope :=
  match scope.frames with
  | [] => ⟨[[(name, value)]]⟩
  | frame :: outer => ⟨Bag.put name value frame :: outer⟩

/-- The value of a name in the innermost frame that binds it. -/
def lookup? (name : String) (scope : Scope) : Option Literal :=
  scope.frames.findSome? (Bag.find? name)

@[simp] theorem pop_push (frame : Frame) (scope : Scope) : (scope.push frame).pop = scope := rfl

@[simp] theorem depth_push (frame : Frame) (scope : Scope) :
    (scope.push frame).depth = scope.depth + 1 := rfl

@[simp] theorem lookup?_bind_self (name : String) (value : Literal) (scope : Scope) :
    (scope.bind name value).lookup? name = some value := by
  unfold bind lookup?
  split <;> simp [Bag.find?]

end Scope

end Widgetry
