import ResourceOperator.Template.Grammar.Expression

/-!
# The grammar of templates

`read` turns the text of a template into statements: text, output and tags. A tag that opens a body
is closed by the tag that belongs to it.

The templates are those that `extract_connection_details` renders.
-/

namespace ResourceOperator.Template

open Reading

/-- Names that cannot be assigned to. -/
def reservedNames : List String :=
  ["true", "True", "false", "False", "none", "None", "loop", "self"]

/-- A name that can be assigned to. -/
def assignedName : Reading String := do
  let name ← expectName
  if reservedNames.contains name then fail
  return name

/-- The attributes after a target; `fuel` bounds their number. -/
def attributesOf : Nat → Target → Reading Target
  | 0, t => return t
  | fuel + 1, t => do
    if ← skipSymbol "." then attributesOf fuel (.attribute t (← expectName))
    else return t

/-- What ends a list of targets. -/
def endsTargets : Option Token → Bool
  | some (.symbol ")") | some .outputEnd | some .tagEnd | some (.name "in") => true
  | _ => false

mutual

/-- A target: a name, or a list of targets. -/
def target : Nat → Reading Target
  | 0 => fail
  | fuel + 1 => do
    match ← targets fuel true with
    | ([single], false) => return single
    | (many, _) => return .list many

/-- Targets between commas, and whether there was a comma. -/
def targets : Nat → Bool → Reading (List Target × Bool)
  | 0, _ => fail
  | fuel + 1, isFirst => do
    if !isFirst then expectSymbol ","
    if endsTargets (← peek) then return ([], false)
    let single ← if ← skipSymbol "(" then do
        let inner ← target fuel
        expectSymbol ")"
        pure inner
      else .name <$> assignedName
    if ← atSymbol "," then
      let (more, _) ← targets fuel false
      return (single :: more, true)
    else return ([single], false)

end

/-- A list of targets in brackets, after the opening one. -/
def bracketedTarget (fuel : Nat) : Reading Target := do
  let t ← target fuel
  expectSymbol ")"
  return t

/-- Bindings between commas, up to the end of the tag. -/
def bindings : Nat → Bool → Reading (List (Target × Expr))
  | 0, _ => fail
  | fuel + 1, isFirst => do
    if (← peek) = some .tagEnd then return []
    if !isFirst then expectSymbol ","
    let t ← if ← skipSymbol "(" then bracketedTarget fuel else .name <$> assignedName
    expectSymbol "="
    let e ← expression fuel
    return (t, e) :: (← bindings fuel false)

/-- Filters between bars, up to the end of the tag. -/
def filterChain : Nat → Bool → Reading FilterChain
  | 0, _ => fail
  | fuel + 1, isFirst => do
    if (← peek) = some .tagEnd then
      if isFirst then fail else return []
    if !isFirst then expectSymbol "|"
    let name ← expectName
    let args ← if ← atSymbol "(" then arguments fuel else pure []
    return (name, args) :: (← filterChain fuel false)

/-- Parameters and defaults, up to the closing bracket. After a default each parameter has one. -/
def parameters : Nat → Bool → Bool → Reading (List String × List Expr)
  | 0, _, _ => fail
  | fuel + 1, isFirst, hasDefaults => do
    if ← skipSymbol ")" then return ([], [])
    if !isFirst then
      expectSymbol ","
      if ← skipSymbol ")" then return ([], [])
    let name ← assignedName
    if ← skipSymbol "=" then
      let e ← expression fuel
      let (names, defaults) ← parameters fuel false true
      return (name :: names, e :: defaults)
    else if hasDefaults then fail
    else
      let (names, defaults) ← parameters fuel false false
      return (name :: names, defaults)

/-- A remark on the context of another template, which changes nothing. -/
def contextRemark : Reading Unit := do
  if (← skipWord "with") || (← skipWord "without") then expect (.name "context")

/-- Imported names with their new names, up to the end of the tag. -/
def importedNames : Nat → Bool → Reading Unit
  | 0, _ => fail
  | fuel + 1, isFirst => do
    let ends := fun (t : Option Token) =>
      t == some .tagEnd || t == some (.name "with") || t == some (.name "without")
    if (← peek) = some .tagEnd then return ()
    if !isFirst then expectSymbol ","
    if ends (← peek) then return ()
    let _ ← assignedName
    if ← skipWord "as" then
      let _ ← assignedName
    importedNames fuel false

/-- An expression that is a call. -/
def callExpression (fuel : Nat) : Reading (Expr × List Argument) := do
  match ← expression fuel with
  | .call f args => return (f, args)
  | _ => fail

mutual

/-- Statements up to a tag that starts with one of the given words, which stays, or to the end. -/
def statements (stops : List String) : Nat → Reading (List Statement)
  | 0 => fail
  | fuel + 1 => do
    match ← next with
    | none => return []
    | some (.text s) => return .text s :: (← statements stops fuel)
    | some .outputStart =>
      let e ← expression fuel
      expect .outputEnd
      return .output e :: (← statements stops fuel)
    | some .tagStart =>
      match ← peek with
      | none => fail
      | some token =>
        let stop := match token with
          | .name word => stops.contains word
          | _ => false
        if stop then return []
        let s ← guarded (statement fuel)
        expect .tagEnd
        return s :: (← statements stops fuel)
    | some _ => fail

/-- The body of a tag: its statements and the closing word. -/
def bodyOf (close : String) : Nat → Reading (List Statement)
  | 0 => fail
  | fuel + 1 => do
    expect .tagEnd
    let body ← statements [close] fuel
    let _ ← next
    return body

/-- The parts of a condition after its first word. -/
def branches : Nat → Reading Statement
  | 0 => fail
  | fuel + 1 => do
    let test ← expression fuel
    expect .tagEnd
    let yes ← statements ["endif", "else", "elif"] fuel
    match ← next with
    | some (.name "else") =>
      expect .tagEnd
      let no ← statements ["endif"] fuel
      let _ ← next
      return .branch test yes no
    | some (.name "elif") => return .branch test yes [← branches fuel]
    | some _ => return .branch test yes []
    | none => fail

/-- One tag, without its markers, and the body that belongs to it. -/
def statement : Nat → Reading Statement
  | 0 => fail
  | fuel + 1 => do
    match ← expectName with
    | "for" =>
      let t ← target fuel
      expect (.name "in")
      let items ← unconditional fuel
      let condition ← if ← skipWord "if" then some <$> expression fuel else pure none
      let recursive ← skipWord "recursive"
      expect .tagEnd
      let body ← statements ["endfor", "else"] fuel
      let otherwise ← if ← skipWord "else" then do
          expect .tagEnd
          statements ["endfor"] fuel
        else pure []
      let _ ← next
      return .loop t items condition recursive body otherwise
    | "if" => branches fuel
    | "with" =>
      let bs ← bindings fuel true
      return .bind bs (← bodyOf "endwith" fuel)
    | "set" =>
      let inBrackets ← skipSymbol "("
      let t ← if inBrackets then bracketedTarget fuel
        else do attributesOf fuel (.name (← assignedName))
      let atBody := (← peek) == some .tagEnd || (← atSymbol "|")
      if !inBrackets && atBody then
        let filters ← if ← skipSymbol "|" then filterChain fuel true else pure []
        return .capture t filters (← bodyOf "endset" fuel)
      else
        expectSymbol "="
        return .set t (← expression fuel)
    | "autoescape" =>
      let mode ← expression fuel
      return .escaping mode (← bodyOf "endautoescape" fuel)
    | "filter" =>
      let filters ← filterChain fuel true
      return .filtered filters (← bodyOf "endfilter" fuel)
    | "block" =>
      if (← get).inCallable then fail
      let name ← expectName
      if ((← get).blocks.lookup name).isSome then fail
      modify fun s => { s with blocks := (name, []) :: s.blocks }
      let body ← bodyOf "endblock" fuel
      modify fun s => { s with blocks := (name, body) :: s.blocks }
      match ← peek with
      | some (.name closing) =>
        if closing ≠ name then fail
        let _ ← next
        return .block name body
      | _ => return .block name body
    | "extends" => return .extend (← expression fuel)
    | "include" =>
      let e ← expression fuel
      contextRemark
      if ← skipWord "ignore" then
        expect (.name "missing")
        contextRemark
        return .include e true
      return .include e false
    | "import" =>
      let e ← expression fuel
      expect (.name "as")
      let _ ← expression fuel
      contextRemark
      return .importFrom e
    | "from" =>
      let e ← expression fuel
      expect (.name "import")
      importedNames fuel true
      contextRemark
      return .importFrom e
    | "macro" =>
      let name ← expectName
      expectSymbol "("
      let (names, defaults) ← parameters fuel true false
      let (body, usesCaller) ← inCallable (bodyOf "endmacro" fuel)
      return .define name (.mk names defaults body usesCaller)
    | "call" =>
      let hasParameters ← skipSymbol "("
      let (names, defaults) ← if hasParameters then parameters fuel true false else pure ([], [])
      let (f, args) ← callExpression fuel
      let (body, usesCaller) ← inCallable (bodyOf "endcall" fuel)
      return .callWith f args (.mk names defaults body usesCaller)
    | "do" =>
      let (f, args) ← callExpression fuel
      return .perform (.call f args)
    | _ => fail

end

/-- The statements of a template, and its blocks by name. -/
def read (template : String) :
    Except Failure (List Statement × List (String × List Statement)) := do
  let tokens := Token.scan template
  let fuel := 12 * tokens.length + 40
  let (body, state) ← (statements [] fuel).run ⟨tokens, 0, [], false⟩
  return (body, state.blocks)

end ResourceOperator.Template
