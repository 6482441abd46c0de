import CommandShell.Console.Action.Rules

/-!
The values that trees stand for, as far as they can fail: a value is a number, a text, a constant, or a
collection of values. What sets hold and what dictionaries look up must not change.
-/

namespace CommandShell.Action

/-- Why a tree stands for no value. -/
inductive Misfit where
  /-- A collection that can change is held by a set or looked up in a dictionary. -/
  | changeable (kind : String)
  /-- A dictionary takes over the entries of another one. -/
  | spread
  /-- The tree is an expression, but no value. -/
  | expression
  deriving DecidableEq, Repr

/-- The text that names a misfit. -/
def Misfit.message : Misfit → String
  | .changeable kind => "unhashable type: '" ++ kind ++ "'"
  | .spread => "malformed node or string: None"
  | .expression => "malformed node or string"

/-- What is known about a value. -/
inductive Value where
  | real
  | imaginary
  | other
  | tuple (items : List Value)
  /-- A collection that can change. -/
  | changeable (kind : String)

/-- Why a value cannot be in a set, if it cannot. -/
def Value.misfit? : Value → Option Misfit
  | .changeable kind => some (.changeable kind)
  | .tuple items => firstMisfit items
  | _ => none
where
  /-- The first reason among values. -/
  firstMisfit : List Value → Option Misfit
    | [] => none
    | item :: rest => (misfit? item).orElse fun _ => firstMisfit rest

/-- A number, with a sign before it or without. -/
def signedNumber? : Tree → Option Value
  | .node (.unary "+") [.node (.number isImaginary) _] => some (numberOf isImaginary)
  | .node (.unary "-") [.node (.number isImaginary) _] => some (numberOf isImaginary)
  | .node (.number isImaginary) _ => some (numberOf isImaginary)
  | _ => none
where
  /-- A number by its kind. -/
  numberOf (isImaginary : Bool) : Value := if isImaginary then .imaginary else .real

/-- A value that a set can hold. -/
def Value.held (value : Value) : Except Misfit Value :=
  match value.misfit? with
  | some misfit => .error misfit
  | none => .ok value

/-- The value of a real number and an imaginary one with a sign between them. -/
def complexNumber (left right : Tree) : Except Misfit Value :=
  match signedNumber? left, right with
  | some .real, .node (.number true) _ => .ok .imaginary
  | _, _ => .error .expression

/-- The value of a tree. -/
def Tree.value : Tree → Except Misfit Value
  | .token _ => .error .expression
  | .node form parts => match form with
    | .constant _ => .ok .other
    | .text => .ok .other
    | .number isImaginary => .ok (if isImaginary then .imaginary else .real)
    | .tuple => (values parts).map .tuple
    | .list => (values parts).map fun _ => .changeable "list"
    | .set => (heldValues parts).map fun _ => .changeable "set"
    | .dictionary => (entries parts).map fun _ => .changeable "dict"
    | .call => match parts with
      | [.token callee] =>
          if callee.text = "set".toList then .ok (.changeable "set") else .error .expression
      | _ => .error .expression
    | .binary sign => match parts with
      | [left, right] =>
          if sign = "+" ∨ sign = "-" then complexNumber left right else .error .expression
      | _ => .error .expression
    | .unary sign => match signedNumber? (.node (.unary sign) parts) with
      | some value => .ok value
      | none => .error .expression
    | _ => .error .expression
where
  /-- The values of trees, in order. -/
  values : List Tree → Except Misfit (List Value)
    | [] => .ok []
    | tree :: rest => do
        let first ← value tree
        return first :: (← values rest)
  /-- The values of trees that a set holds. -/
  heldValues : List Tree → Except Misfit Unit
    | [] => .ok ()
    | tree :: rest => do
        let _ ← (← value tree).held
        heldValues rest
  /-- The values of the entries of a dictionary. -/
  entries : List Tree → Except Misfit Unit
    | [] => .ok ()
    | .node .entry [key, content] :: rest => do
        let found ← value key
        let _ ← value content
        let _ ← found.held
        entries rest
    | _ :: _ => .error .spread

end CommandShell.Action
