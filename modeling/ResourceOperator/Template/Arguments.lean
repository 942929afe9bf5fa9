import ResourceOperator.Template.Value.Operation

/-!
# Arguments

Reading the arguments of filters, tests and functions. Arguments given by name are one last
argument. An undefined argument is a failure wherever a text, a number or a truth value is wanted.
-/

namespace ResourceOperator.Template.Arguments

/-- The arguments by position and those by name. -/
def split (args : List Value) : List Value × List (String × Value) :=
  match args.getLast? with
  | some (.named entries) => (args.dropLast, entries)
  | _ => (args, [])

/-- There are at most `count` arguments. -/
def atMost (count : Nat) (args : List Value) : Except Failure Unit :=
  if count < args.length then .error .tooManyArguments else .ok ()

/-- The argument at a position. -/
def value (args : List Value) (i : Nat) : Except Failure Value :=
  match args[i]? with
  | some v => .ok v
  | none => .error .missingArgument

/-- An argument, read in some way; an undefined one is a failure. -/
def readAt {α : Type} (reader : Value → Except Failure α) (args : List Value) (i : Nat) :
    Except Failure α := do
  let v ← value args i
  if v.isUndefined then .error .undefinedValue else reader v

/-- An argument that may be absent or none, read in some way. -/
def readAt? {α : Type} (reader : Value → Except Failure α) (args : List Value) (i : Nat) :
    Except Failure (Option α) :=
  match args[i]? with
  | none => .ok none
  | some .none => .ok none
  | some v => if v.isUndefined then .error .undefinedValue else some <$> reader v

/-- Any value as text, arguments by name excepted. -/
def asText : Value → Except Failure String
  | .named _ => .error .invalidOperation
  | v => .ok v.text

/-- A text. -/
def onlyText (v : Value) : Except Failure String :=
  match v.text? with
  | some s => .ok s
  | none => .error .invalidOperation

/-- Any value. -/
def anyValue (v : Value) : Except Failure Value :=
  .ok v

/-- A truth value. -/
def asBool : Value → Except Failure Bool
  | .bool b => .ok b
  | _ => .error .invalidOperation

/-- An integer within bounds. -/
def asInteger (low high : Int) (v : Value) : Except Failure Int :=
  match v.integerWithin? low high with
  | some i => .ok i
  | none => .error .invalidOperation

/-- A count. -/
def asCount (v : Value) : Except Failure Nat :=
  Int.toNat <$> asInteger 0 18446744073709551615 v

/-- An argument by name, read in some way, that may be absent or none. -/
def byName? {α : Type} (reader : Value → Except Failure α) (entries : List (String × Value))
    (name : String) : Except Failure (Option α) :=
  match entries.lookup name with
  | none => .ok none
  | some .none => .ok none
  | some v => if v.isUndefined then .ok none else some <$> reader v

/-- Every argument by name is one of these. -/
def onlyNames (names : List String) (entries : List (String × Value)) : Except Failure Unit :=
  if entries.all fun (k, _) => names.contains k then .ok () else .error .tooManyArguments

/-- What an iteration over a value visits. -/
def items (v : Value) : Except Failure (List Value) :=
  if v.isLoudlyUndefined then .error .undefinedValue
  else match v.iterate? with
    | some xs => .ok xs
    | none => .error .invalidOperation

/-- What an iteration over a value visits, where an undefined value is an invalid operand. -/
def operandItems (v : Value) : Except Failure (List Value) :=
  match items v with
  | .ok xs => .ok xs
  | .error _ => .error .invalidOperation

end ResourceOperator.Template.Arguments
