/-!
The syntax tree of a widget's source, as far as its meaning is used: expressions that can have a
value, markup elements, and the functions and statements around them. Every other form keeps only
its parts in the order of the text, so that markup inside it can still be found.
-/

namespace Widgetry.Source

/-- Operators with one operand. -/
inductive UnaryOp where
  | not
  | negate
  | plus
  | typeOf
  | void
  | bitNot
  | delete
deriving DecidableEq, Repr

/-- Operators that may leave their right operand unread. -/
inductive LogicalOp where
  | and
  | or
  | coalesce
deriving DecidableEq, Repr

/-- Operators that read both operands; `unsupported` stands for those that have no value here. -/
inductive BinaryOp where
  | add
  | subtract
  | multiply
  | divide
  | remainder
  | power
  | strictEqual
  | strictUnequal
  | equal
  | unequal
  | less
  | greater
  | lessOrEqual
  | greaterOrEqual
  | unsupported
deriving DecidableEq, Repr

/-- Type annotations on an expression, which do not change its value. -/
inductive Cast where
  | asType
  | satisfies
  | nonNull
deriving DecidableEq, Repr

inductive DeclarationKind where
  | constant
  | mutable
deriving DecidableEq, Repr

mutual

inductive Expr where
  | string (value : String)
  | number (value : Float)
  | bool (value : Bool)
  | null
  | identifier (name : String)
  /-- Texts with a hole between each two of them. -/
  | template (texts : List String) (holes : List Expr)
  | paren (inner : Expr)
  | cast (kind : Cast) (inner : Expr)
  | unary (op : UnaryOp) (operand : Expr)
  | logical (op : LogicalOp) (left right : Expr)
  | binary (op : BinaryOp) (left right : Expr)
  | conditional (test consequent alternate : Expr)
  | array (items : List Item)
  | object (members : List Member)
  | member (object : Expr) (name : String)
  | index (object key : Expr)
  | privateMember (object : Expr)
  | call (callee : Expr) (arguments : List Item)
  | function (value : Function)
  | element (value : Element)
  | fragment (children : List Child)
  /-- A type in angle brackets before an expression. -/
  | assertion (inner : Expr)
  /-- A value given to a target by a plain equals sign. -/
  | assign (target value : Expr)
  /-- A form without a value at compile time. -/
  | other (parts : List Part)

/-- An item of a list or an argument of a call. A spread item may have a comma behind it. -/
inductive Item where
  | value (value : Expr)
  | spread (value : Expr) (hasComma : Bool)
  | hole

/-- A member of an object; the name of a computed one is not written down. -/
inductive Member where
  | field (name : String) (value : Expr)
  | computed (key value : Expr)
  | spread (value : Expr) (hasComma : Bool)

/-- A function: its parameters, what else stands in its head, and its body. -/
inductive Function where
  | mk (params : List Param) (head : List Part) (body : Body)

/-- A parameter; one that takes its argument apart has no name. -/
inductive Param where
  | mk (name : Option String) (parts : List Part)

inductive Body where
  | absent
  | concise (value : Expr)
  | block (statements : List Statement)

inductive Statement where
  | declare (kind : DeclarationKind) (declarators : List Declarator)
  | returns (value : Option Expr)
  | expression (value : Expr)
  | empty
  | function (value : Function)
  | exported (declaration : Statement)
  | exportedDefault (value : Expr)
  | other (parts : List Part)

/-- A declared variable; one that takes its value apart has no name. -/
inductive Declarator where
  | mk (name : Option String) (parts : List Part) (value : Option Expr)

/-- Something inside a form that is not interpreted. -/
inductive Part where
  | expression (value : Expr)
  | statement (value : Statement)

/-- A markup element with its tag as it is written. -/
inductive Element where
  | mk (tag : String) (attributes : List Attribute) (children : List Child)

inductive Attribute where
  | named (name : String) (value : AttributeValue)
  | namespaced (value : AttributeValue)
  | spread (value : Expr)

inductive AttributeValue where
  | flag
  | text (value : String)
  /-- An expression in braces, and its text in the source. -/
  | expression (value : Expr) (written : String)
  | markup (value : Expr)
  | empty

inductive Child where
  | text (raw : String)
  | element (value : Element)
  | fragment (children : List Child)
  | expression (value : Expr)
  | empty
  | spread (value : Expr)

end

instance : Inhabited Expr := ⟨.null⟩

instance : Inhabited Statement := ⟨.empty⟩

/-- A statement of a file and the byte at which it starts. -/
structure TopStatement where
  start : Nat
  statement : Statement

/-- The statements of a file. -/
abbrev Program := List TopStatement

end Widgetry.Source
