import ResourceOperator.Template.Reading

/-!
# The grammar of expressions

Readers call one another; `fuel` bounds the length of a chain of calls. It is never used up when it
is a small multiple of the number of tokens, since every few calls take one.
-/

namespace ResourceOperator.Template

open Reading

mutual

/-- An expression. -/
def expression : Nat → Reading Expr
  | 0 => fail
  | fuel + 1 => guarded (conditional fuel)

/-- An expression that is not followed by a condition. -/
def unconditional : Nat → Reading Expr
  | 0 => fail
  | fuel + 1 => operation fuel (operand fuel)

/-- An expression with any number of conditions after it. -/
def conditional : Nat → Reading Expr
  | 0 => fail
  | fuel + 1 => do conditions fuel (← operation fuel (operand fuel))

/-- The conditions after an expression. -/
def conditions : Nat → Expr → Reading Expr
  | 0, _ => fail
  | fuel + 1, yes => do
    if ← skipWord "if" then
      let test ← operation fuel (operand fuel)
      let no ← if ← skipWord "else" then some <$> conditional fuel else pure none
      conditions fuel (.choice test yes no)
    else return yes

/-- An operand with all that is appended to it. -/
def operand : Nat → Reading Expr
  | 0 => fail
  | fuel + 1 => do
    let e ← signed fuel
    let e ← accesses fuel e
    applications fuel e

/-- A value after any number of minus signs. -/
def signed : Nat → Reading Expr
  | 0 => fail
  | fuel + 1 => do
    if ← skipSymbol "-" then return .unary .negate (← signed fuel)
    guarded (primary fuel)

/-- A literal, a name, or brackets. -/
def primary : Nat → Reading Expr
  | 0 => fail
  | fuel + 1 => do
    match ← next with
    | some (.name name) => return named name
    | some (.string s) => return .literal (.string s)
    | some (.integer n) => return .literal (.integer n)
    | some (.decimal x) => return .literal (.decimal x)
    | some (.symbol "(") =>
      if ← skipSymbol ")" then return .list []
      let first ← expression fuel
      if ← atSymbol "," then return .list (first :: (← moreItems ")" fuel))
      expectSymbol ")"
      return first
    | some (.symbol "[") =>
      if ← skipSymbol "]" then return .list []
      let first ← expression fuel
      return .list (first :: (← moreItems "]" fuel))
    | some (.symbol "\x7b") =>
      if ← skipSymbol "\x7d" then return .map []
      let first ← entry fuel
      return .map (first :: (← moreEntries fuel))
    | _ => fail

/-- The items after the first one, up to the closing bracket. -/
def moreItems (close : String) : Nat → Reading (List Expr)
  | 0 => fail
  | fuel + 1 => do
    if ← skipSymbol close then return []
    expectSymbol ","
    if ← skipSymbol close then return []
    let e ← expression fuel
    return e :: (← moreItems close fuel)

/-- A key and its value. -/
def entry : Nat → Reading (Expr × Expr)
  | 0 => fail
  | fuel + 1 => do
    let key ← expression fuel
    expectSymbol ":"
    return (key, ← expression fuel)

/-- The entries after the first one, up to the closing bracket. -/
def moreEntries : Nat → Reading (List (Expr × Expr))
  | 0 => fail
  | fuel + 1 => do
    if ← skipSymbol "\x7d" then return []
    expectSymbol ","
    if ← skipSymbol "\x7d" then return []
    let e ← entry fuel
    return e :: (← moreEntries fuel)

/-- Attributes, items, slices and calls after an expression. -/
def accesses : Nat → Expr → Reading Expr
  | 0, _ => fail
  | fuel + 1, e => do
    if ← skipSymbol "." then
      match ← next with
      | some (.name name) => accesses fuel (.attribute e name)
      | some (.integer n) => accesses fuel (.item e (.literal (.integer n)))
      | _ => fail
    else if ← skipSymbol "[" then
      let start ← if ← atSymbol ":" then pure none else some <$> expression fuel
      if ← skipSymbol ":" then
        let stop ← if (← atSymbol "]") || (← atSymbol ":") then pure none
          else some <$> expression fuel
        let step ← if ← skipSymbol ":" then
            if ← atSymbol "]" then pure none else some <$> expression fuel
          else pure none
        expectSymbol "]"
        accesses fuel (.slice e start stop step)
      else
        expectSymbol "]"
        match start with
        | some index => accesses fuel (.item e index)
        | none => fail
    else if ← atSymbol "(" then
      accesses fuel (.call e (← arguments fuel))
    else return e

/-- Filters and tests after an expression. -/
def applications : Nat → Expr → Reading Expr
  | 0, _ => fail
  | fuel + 1, e => do
    if ← skipSymbol "|" then
      let name ← expectName
      let args ← if ← atSymbol "(" then arguments fuel else pure []
      applications fuel (.filter name e args)
    else if ← skipWord "is" then
      let negated ← skipWord "not"
      let name ← expectName
      let args ← if ← atSymbol "(" then arguments fuel
        else if startsTestArgument (← peek) then do
          let argument ← signed fuel
          pure [.positional (← accesses fuel argument)]
        else pure []
      let test := Expr.test name e args
      applications fuel (if negated then .unary .not test else test)
    else return e

/-- Arguments in brackets. -/
def arguments : Nat → Reading (List Argument)
  | 0 => fail
  | fuel + 1 => do
    expectSymbol "("
    if ← skipSymbol ")" then return []
    let first ← argument fuel false
    return first :: (← moreArguments fuel first.isNamed)

/-- The arguments after the first one, up to the closing bracket. -/
def moreArguments : Nat → Bool → Reading (List Argument)
  | 0, _ => fail
  | fuel + 1, afterNamed => do
    if ← skipSymbol ")" then return []
    expectSymbol ","
    if ← skipSymbol ")" then return []
    let arg ← argument fuel afterNamed
    return arg :: (← moreArguments fuel (afterNamed || arg.isNamed))

/-- One argument; a positional one cannot stand after a named one. -/
def argument : Nat → Bool → Reading Argument
  | 0, _ => fail
  | fuel + 1, afterNamed => do
    if ← skipSymbol "**" then return .spreadNamed (← expression fuel)
    if ← skipSymbol "*" then return .spread (← expression fuel)
    let e ← expression fuel
    match e with
    | .name name =>
      if ← skipSymbol "=" then return .named name (← guarded (unconditional fuel))
      if afterNamed then fail
      return .positional e
    | _ =>
      if afterNamed then fail
      return .positional e

end

end ResourceOperator.Template
