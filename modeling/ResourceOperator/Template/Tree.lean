import ResourceOperator.Number.Extended

/-!
# The structure of a template

A template is a list of statements. Expressions and statements are plain trees; a template holds no
values but literals.
-/

namespace ResourceOperator.Template

/-- Operators between two expressions. -/
inductive BinaryOp where
  | or
  | and
  | equal
  | notEqual
  | less
  | lessEqual
  | greater
  | greaterEqual
  | isIn
  | add
  | subtract
  | join
  | multiply
  | divide
  | floorDivide
  | remainder
  | power
  deriving DecidableEq, Repr

/-- Operators before one expression. -/
inductive UnaryOp where
  | not
  | negate
  deriving DecidableEq, Repr

/-- A value written in a template. -/
inductive Literal where
  | none
  | bool (value : Bool)
  | integer (value : Nat)
  | decimal (value : Extended)
  | string (value : String)
  deriving DecidableEq, Repr

mutual

/-- An expression. -/
inductive Expr where
  | literal (value : Literal)
  | name (name : String)
  | unary (op : UnaryOp) (operand : Expr)
  | binary (op : BinaryOp) (left right : Expr)
  | choice (test yes : Expr) (no : Option Expr)
  | attribute (base : Expr) (name : String)
  | item (base index : Expr)
  | slice (base : Expr) (start stop step : Option Expr)
  | call (function : Expr) (arguments : List Argument)
  | filter (name : String) (value : Expr) (arguments : List Argument)
  | test (name : String) (value : Expr) (arguments : List Argument)
  | list (items : List Expr)
  | map (entries : List (Expr × Expr))

/-- An argument of a call. -/
inductive Argument where
  | positional (value : Expr)
  | named (name : String) (value : Expr)
  | spread (values : Expr)
  | spreadNamed (values : Expr)

end

/-- What a value is stored in. -/
inductive Target where
  | name (name : String)
  | attribute (base : Target) (name : String)
  | list (items : List Target)

/-- Filters that are applied one after the other. -/
abbrev FilterChain := List (String × List Argument)

mutual

/-- A statement. -/
inductive Statement where
  | text (value : String)
  | output (value : Expr)
  | loop (target : Target) (items : Expr) (condition : Option Expr) (recursive : Bool)
      (body otherwise : List Statement)
  | branch (test : Expr) (yes no : List Statement)
  | bind (bindings : List (Target × Expr)) (body : List Statement)
  | set (target : Target) (value : Expr)
  | capture (target : Target) (filters : FilterChain) (body : List Statement)
  | escaping (mode : Expr) (body : List Statement)
  | filtered (filters : FilterChain) (body : List Statement)
  | block (name : String) (body : List Statement)
  | extend (template : Expr)
  | include (template : Expr) (ignoreMissing : Bool)
  | importFrom (template : Expr)
  | define (name : String) (callable : Callable)
  | callWith (function : Expr) (arguments : List Argument) (caller : Callable)
  | perform (call : Expr)

/-- Parameters and a body, which may mention its caller. The last parameters may have defaults. -/
inductive Callable where
  | mk (parameters : List String) (defaults : List Expr) (body : List Statement) (usesCaller : Bool)

end


/-- Whether an argument is given by name. -/
def Argument.isNamed : Argument → Bool
  | .named _ _ | .spreadNamed _ => true
  | _ => false

end ResourceOperator.Template
