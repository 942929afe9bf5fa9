import ResourceOperator.Template.Token
import ResourceOperator.Template.Tree

/-!
# Reading tokens in order

The state of reading a template and the steps over its tokens. Every step that finds something other
than it expects fails with a syntax error, or with the failure of the broken token it has reached.
-/

namespace ResourceOperator.Template

/-- What is left to read, how deep the reader is, the blocks it has met, and whether it is inside a
callable. -/
structure ReadState where
  tokens : List Token
  depth : Nat
  blocks : List (String × List Statement)
  inCallable : Bool

/-- A step of reading. -/
abbrev Reading := StateT ReadState (Except Failure)

namespace Reading

/-- Expressions and statements nest at most this deep. -/
def maxDepth : Nat := 150

/-- Gives up. -/
def fail {α : Type} : Reading α :=
  throw .badSyntax

/-- The next token, which stays. -/
def peek : Reading (Option Token) := do
  match (← get).tokens with
  | .broken e :: _ => throw e
  | token :: _ => return some token
  | [] => return none

/-- Takes the next token. -/
def next : Reading (Option Token) := do
  let token ← peek
  modify fun s => { s with tokens := s.tokens.tail }
  return token

/-- Takes the next token when it is this one. -/
def skip (token : Token) : Reading Bool := do
  if (← peek) = some token then
    let _ ← next
    return true
  return false

/-- Takes a word when it is next. -/
def skipWord (word : String) : Reading Bool :=
  skip (.name word)

/-- Takes a symbol when it is next. -/
def skipSymbol (symbol : String) : Reading Bool :=
  skip (.symbol symbol)

/-- Whether a symbol is next. -/
def atSymbol (symbol : String) : Reading Bool := do
  return (← peek) == some (.symbol symbol)

/-- Takes this token; there must be no other. -/
def expect (token : Token) : Reading Unit := do
  if !(← skip token) then fail

/-- Takes this symbol. -/
def expectSymbol (symbol : String) : Reading Unit :=
  expect (.symbol symbol)

/-- Takes a name. -/
def expectName : Reading String := do
  match ← next with
  | some (.name name) => return name
  | _ => fail

/-- Reads one level deeper. -/
def guarded {α : Type} (reading : Reading α) : Reading α := do
  let state ← get
  if maxDepth ≤ state.depth then fail
  set { state with depth := state.depth + 1 }
  let a ← reading
  modify fun s => { s with depth := state.depth }
  return a

/-- Reads with the mark for callables set, and restores it. Also says whether a caller is mentioned
in what was read. -/
def inCallable {α : Type} (reading : Reading α) : Reading (α × Bool) := do
  let before ← get
  set { before with inCallable := true }
  let a ← reading
  let after ← get
  set { after with inCallable := before.inCallable }
  let taken := before.tokens.take (before.tokens.length - after.tokens.length)
  return (a, taken.contains (.name "caller"))

/-- Operands joined by operators that bind to the left; `fuel` bounds their number. -/
def operators (operand : Reading Expr) (operator? : Token → Option BinaryOp) :
    Nat → Expr → Reading Expr
  | 0, e => return e
  | fuel + 1, e => do
    match (← peek).bind operator? with
    | none => return e
    | some op =>
      let _ ← next
      let right ← operand
      operators operand operator? fuel (.binary op e right)

/-- A level of operators that bind to the left. -/
def level (operator? : Token → Option BinaryOp) (fuel : Nat) (operand : Reading Expr) :
    Reading Expr := do
  operators operand operator? fuel (← operand)

/-- Comparisons and membership. -/
def comparison? : Token → Option BinaryOp
  | .symbol "==" => some .equal
  | .symbol "!=" => some .notEqual
  | .symbol "<" => some .less
  | .symbol "<=" => some .lessEqual
  | .symbol ">" => some .greater
  | .symbol ">=" => some .greaterEqual
  | .name "in" => some .isIn
  | _ => none

/-- Sums and differences. -/
def sum? : Token → Option BinaryOp
  | .symbol "+" => some .add
  | .symbol "-" => some .subtract
  | _ => none

/-- Joined text. -/
def join? : Token → Option BinaryOp
  | .symbol "~" => some .join
  | _ => none

/-- Products, quotients and remainders. -/
def product? : Token → Option BinaryOp
  | .symbol "*" => some .multiply
  | .symbol "/" => some .divide
  | .symbol "//" => some .floorDivide
  | .symbol "%" => some .remainder
  | _ => none

/-- Powers. -/
def power? : Token → Option BinaryOp
  | .symbol "**" => some .power
  | _ => none

/-- Conjunctions. -/
def conjunction? : Token → Option BinaryOp
  | .name "and" => some .and
  | _ => none

/-- Disjunctions. -/
def disjunction? : Token → Option BinaryOp
  | .name "or" => some .or
  | _ => none

/-- Comparisons after their first operand. -/
def comparisons (operand : Reading Expr) : Nat → Expr → Reading Expr
  | 0, e => return e
  | fuel + 1, e => do
    if ← skipWord "not" then
      expect (.name "in")
      comparisons operand fuel (.unary .not (.binary .isIn e (← operand)))
    else
      match (← peek).bind comparison? with
      | none => return e
      | some op =>
        let _ ← next
        comparisons operand fuel (.binary op e (← operand))

/-- Negations of comparisons. -/
def negations (comparison : Reading Expr) : Nat → Reading Expr
  | 0 => fail
  | fuel + 1 => do
    if ← skipWord "not" then return .unary .not (← negations comparison fuel)
    comparison

/-- All operators, over an operand without operators. -/
def operation (fuel : Nat) (operand : Reading Expr) : Reading Expr :=
  let arithmetic :=
    level sum? fuel (level join? fuel (level product? fuel (level power? fuel operand)))
  let comparison := do comparisons arithmetic fuel (← arithmetic)
  level disjunction? fuel (level conjunction? fuel (negations comparison fuel))

/-- Names that stand for values. -/
def named (name : String) : Expr :=
  match name with
  | "true" | "True" => .literal (.bool true)
  | "false" | "False" => .literal (.bool false)
  | "none" | "None" => .literal .none
  | _ => .name name

/-- Whether an argument of a test follows without brackets. -/
def startsTestArgument : Option Token → Bool
  | some (.name name) => name != "and" && name != "or" && name != "else" && name != "is"
  | some (.string _) | some (.integer _) | some (.decimal _) => true
  | some (.symbol s) => s == "+" || s == "-" || s == "[" || s == "\x7b"
  | _ => false

end Reading

end ResourceOperator.Template
