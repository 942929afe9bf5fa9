import ResourceOperator.Template.Scope

/-!
# Evaluation

What expressions evaluate to and what statements write. `fuel` bounds how deep calls nest; it is
never used up, because trees are finite and frames nest only so deep.

`extract_connection_details` renders each of its templates so.
-/

namespace ResourceOperator.Template

open Rendering

/-- The value of a literal. -/
def Literal.value : Literal → Value
  | .none => .none
  | .bool b => .bool b
  | .integer n => .int n
  | .decimal x => .float x
  | .string s => Value.ofText s

/-- An operator on values that need no more evaluation. -/
def BinaryOp.apply (op : BinaryOp) (v w : Value) : Except Failure Value :=
  match op with
  | .or | .and => .error .invalidOperation
  | .equal => .ok (.bool (v.same w))
  | .notEqual => .ok (.bool !(v.same w))
  | .less => .ok (.bool (v.compare w == .lt))
  | .lessEqual => .ok (.bool (v.compare w != .gt))
  | .greater => .ok (.bool (v.compare w == .gt))
  | .greaterEqual => .ok (.bool (v.compare w != .lt))
  | .isIn =>
    if w.isLoudlyUndefined then .error .undefinedValue else .bool <$> Value.contains w v
  | .add => v.add w
  | .subtract => v.subtract w
  | .join =>
    if v.isLoudlyUndefined || w.isLoudlyUndefined then .error .undefinedValue
    else .ok (Value.ofText (v.text ++ w.text))
  | .multiply => v.multiply w
  | .divide => v.divide w
  | .floorDivide => v.floorDivide w
  | .remainder => v.remainder w
  | .power => v.power w

/-- The numbers from a start up to a stop. -/
def rangeValue (args : List Value) : Except Failure Value := do
  let bound := Arguments.asInteger 0 4294967295
  let a ← Arguments.readAt bound args 0
  let b ← Arguments.readAt? bound args 1
  let step ← Arguments.readAt? bound args 2
  Arguments.atMost 3 args
  let (start, stop) := match b with
    | some b => (a.toNat, b.toNat)
    | none => (0, a.toNat)
  let step := (step.getD 1).toNat
  if step = 0 then throw .invalidOperation
  let count := (stop - start + step - 1) / step
  if 100000 < count then throw .invalidOperation
  return .list true ((List.range count).map fun i => Value.ofNat (start + i * step))

/-- A map of the entries of another and of arguments by name. -/
def dictValue (args : List Value) : Except Failure Value := do
  let (args, names) := Arguments.split args
  let base ← match args[0]? with
    | none | some .none | some (.undefined _) => pure []
    | some v => match v.entries? with
      | some entries => pure entries
      | none => throw .invalidOperation
  Arguments.atMost 1 args
  return Value.ofEntries (base ++ names.map fun (k, v) => (Value.ofText k, v))

/-- A namespace with the given entries. -/
def newSpace (args : List Value) : Rendering Value := do
  let entries ← match args with
    | [] => pure []
    | [v] => match v.entries? with
      | some entries => pure (entries.map fun (k, v) => (k.text, v))
      | none => fail .invalidOperation
    | _ => fail .tooManyArguments
  return .space (← newCell entries)

/-- Calls a built-in function. -/
def callBuiltin (name : String) (args : List Value) : Rendering Value := do
  let args ← args.mapM settle
  match name with
  | "range" => ofExcept (rangeValue args)
  | "dict" => ofExcept (dictValue args)
  | "namespace" => newSpace args
  | _ => return Value.ofText (match args with
    | [v] => v.pretty
    | vs => if vs.isEmpty then "" else (Value.ofList vs).pretty)
where
  /-- A result as a step. -/
  ofExcept (r : Except Failure Value) : Rendering Value :=
    match r with
    | .ok v => return v
    | .error e => fail e

/-- The value of each parameter, from arguments by position and by name. -/
def bindParameters (names : List String) (args : List Value) (named : List (String × Value)) :
    Except Failure (List (String × Value)) := do
  if names.length < args.length then throw .tooManyArguments
  names.zipIdx.mapM fun (name, i) => match args[i]?, named.lookup name with
    | some _, some _ => throw .tooManyArguments
    | some v, none | none, some v => return (name, v)
    | none, none => return (name, Value.missing)

/-- The default of each parameter that has one; the last parameters have. -/
def withDefaults (names : List String) (defaults : List Expr) :
    List (String × Option Expr) :=
  let plain := names.length - defaults.length
  (names.take plain).map (fun n => (n, none)) ++
    (names.drop plain).zip (defaults.map some)

/-- The choices that a template name stands for. -/
def templateChoices (v : Value) : List Value :=
  if v.isObject then v.iterate?.getD [] else [v]

/-- Looks for another template; there is none. -/
def findTemplate (ignoreMissing : Bool) (v : Value) : Rendering Unit := do
  let choices := templateChoices v
  if choices.any fun c => c.text?.isNone then fail .invalidOperation
  if !choices.isEmpty && !ignoreMissing then fail .templateNotFound

/-- How a mode of escaping is named. -/
def escapingMode (v : Value) : Rendering Bool :=
  match v with
  | .bool b => return b
  | .string "html" _ => return true
  | .string "none" _ => return false
  | _ => fail .invalidOperation

/-- An error or a value as a step. -/
def result (r : Except Failure Value) : Rendering Value :=
  match r with
  | .ok v => return v
  | .error e => fail e

mutual

/-- The value of an expression. -/
def evaluate : Nat → Expr → Rendering Value
  | 0, _ => fail .invalidOperation
  | fuel + 1, e => do
    let operand := fun (e : Expr) => do settle (← evaluate fuel e)
    let bound := fun (e : Option Expr) => match e with
      | none => pure Value.none
      | some e => operand e
    match e with
    | .literal l => return l.value
    | .name n => return (← lookup? n).getD Value.missing
    | .unary .not e => return .bool !(← holds (← evaluate fuel e))
    | .unary .negate e => result (Value.negate (← operand e))
    | .binary .and a b =>
      let v ← evaluate fuel a
      if ← holds v then evaluate fuel b else return v
    | .binary .or a b =>
      let v ← evaluate fuel a
      if ← holds v then return v else evaluate fuel b
    | .binary op a b =>
      let v ← operand a
      let w ← operand b
      result (op.apply v w)
    | .choice test yes no =>
      if ← holds (← evaluate fuel test) then evaluate fuel yes
      else match no with
        | some e => evaluate fuel e
        | none => return .undefined true
    | .attribute base name =>
      let v ← operand base
      if v.isUndefined then fail .undefinedValue
      return (Value.attribute? name v).getD Value.missing
    | .item base index =>
      let v ← operand base
      let key ← operand index
      result (Value.item key v)
    | .slice base start stop step =>
      let v ← operand base
      let start ← bound start
      let stop ← bound stop
      let step ← bound step
      if v.isUndefined then fail .undefinedValue
      result (Value.slice v start stop step)
    | .call f args => callExpr fuel f args []
    | .filter name v args =>
      let v ← operand v
      let args ← (← evaluateArguments fuel args []).mapM settle
      result (Filter.apply name (v :: args))
    | .test name v args =>
      let v ← operand v
      let args ← (← evaluateArguments fuel args []).mapM settle
      match Filter.ask name (v :: args) with
      | .ok b => return .bool b
      | .error e => fail e
    | .list items => return Value.ofList (← items.mapM (evaluate fuel))
    | .map entries =>
      return Value.ofEntries (← entries.mapM fun (k, v) => do
        let key ← operand k
        return (key, ← evaluate fuel v))

/-- The values of arguments. Those given by name come last, as one value. -/
def evaluateArguments : Nat → List Argument → List (String × Value) → Rendering (List Value)
  | 0, _, _ => fail .invalidOperation
  | fuel + 1, args, extra => do
    let step := fun (state : List Value × List (String × Value)) (arg : Argument) => do
      match arg with
      | .positional e => return (state.1 ++ [← evaluate fuel e], state.2)
      | .named name e => return (state.1, state.2 ++ [(name, ← evaluate fuel e)])
      | .spread e =>
        match (← settle (← evaluate fuel e)).iterate? with
        | some xs => return (state.1 ++ xs, state.2)
        | none => fail .invalidOperation
      | .spreadNamed e =>
        match (← settle (← evaluate fuel e)).entries? with
        | some entries => return (state.1, state.2 ++ entries.map fun (k, v) => (k.text, v))
        | none => fail .invalidOperation
    let (values, named) ← args.foldlM step ([], [])
    let named := named ++ extra
    let isNamed := args.any Argument.isNamed || !extra.isEmpty
    if !isNamed then return values
    let entries := named.foldl (fun (t : Table Value) (k, v) => Table.insert k v t) []
    return values ++ [.named entries]

/-- The value of a call; `extra` holds further arguments by name. -/
def callExpr : Nat → Expr → List Argument → List (String × Value) → Rendering Value
  | 0, _, _, _ => fail .invalidOperation
  | fuel + 1, f, args, extra => do
    match f with
    | .attribute (.name "self") name =>
      match (← get).blocks.lookup name with
      | none => fail .unknownBlock
      | some body => captured (inFrame Frame.empty (runAll fuel body))
    | .name "super" =>
      let _ ← evaluateArguments fuel args extra
      fail .invalidOperation
    | .name "loop" =>
      match ← evaluateArguments fuel args extra with
      | [items] =>
        match (← innermostLoop?).bind LoopFrame.repeated with
        | none => fail .invalidOperation
        | some (t, body) => captured (do
            let _ ← runLoop fuel t body true items
            return ())
      | _ => fail .invalidOperation
    | .name name =>
      let args ← evaluateArguments fuel args extra
      match ← lookup? name with
      | none => fail .unknownFunction
      | some v => callValue fuel v args
    | .attribute base name =>
      let v ← settle (← evaluate fuel base)
      callMethod fuel v name (← evaluateArguments fuel args extra)
    | f =>
      let v ← evaluate fuel f
      callValue fuel v (← evaluateArguments fuel args extra)

/-- Calls a method. -/
def callMethod : Nat → Value → String → List Value → Rendering Value
  | 0, _, _, _ => fail .invalidOperation
  | fuel + 1, v, name, args => do
    match v with
    | .loop index _ _ _ _ i =>
      if name = "changed" then
        let before := (← cell i).lookup "changed"
        let now := Value.ofList args
        if (before.map (Value.same now)).getD false then return .bool false
        setInCell i "changed" now
        return .bool true
      else if name = "cycle" then
        return (args[index % args.length]?).getD Value.missing
      else fail .unknownMethod
    | v => match v.entries? with
      | none => fail .unknownMethod
      | some entries => match Value.under? (Value.ofText name) entries with
        | some f => callValue fuel f args
        | none => fail .unknownMethod

/-- Calls a value. -/
def callValue : Nat → Value → List Value → Rendering Value
  | 0, _, _ => fail .invalidOperation
  | fuel + 1, v, args => do
    match v with
    | .function name => callBuiltin name args
    | .loop _ _ _ _ _ _ => fail .unknownFunction
    | .callable _ (.mk names defaults body usesCaller) closure =>
      let (args, named) := Arguments.split args
      let bound ← match bindParameters names args named with
        | .ok bound => pure bound
        | .error e => fail e
      let caller := if usesCaller then [("caller", (named.lookup "caller").getD Value.missing)]
        else []
      let known := fun (k : String) => names.contains k || (usesCaller && k == "caller")
      if !(named.all fun (k, _) => known k) then fail .tooManyArguments
      let seen ← cell closure
      let before ← get
      let depth := before.outerDepth + before.frames.length + callDepth
      if maxDepth < depth + 2 then fail .invalidOperation
      set { before with
        frames := [⟨caller, none, none⟩, ⟨seen, none, none⟩]
        outerDepth := depth }
      let text ← captured (do
        (withDefaults names defaults).reverse.forM fun (name, default) => do
          let v := (bound.lookup name).getD Value.missing
          match default with
          | some e => setLocal name (← if v.isUndefined then evaluate fuel e else pure v)
          | none => setLocal name v
        runAll fuel body)
      modify fun scope =>
        { scope with frames := before.frames, outerDepth := before.outerDepth }
      return text
    | _ => fail .invalidOperation

/-- Stores a value in a target. -/
def assign : Nat → Target → Value → Rendering Unit
  | 0, _, _ => fail .invalidOperation
  | fuel + 1, t, v => do
    match t with
    | .name name => setLocal name v
    | .attribute base name =>
      match ← targetValue fuel base with
      | .space i => setInCell i name v
      | _ => fail .invalidOperation
    | .list items =>
      let v ← settle v
      match if v.isObject then v.iterate? else none with
      | none => fail .cannotUnpack
      | some values =>
        if values.length ≠ items.length then fail .cannotUnpack
        (items.zip values).forM fun (item, value) => assign fuel item value

/-- The value that a target has. -/
def targetValue : Nat → Target → Rendering Value
  | 0, _ => fail .invalidOperation
  | fuel + 1, t => do
    match t with
    | .name name => return (← lookup? name).getD Value.missing
    | .attribute base name =>
      let v ← settle (← targetValue fuel base)
      if v.isUndefined then fail .undefinedValue
      return (Value.attribute? name v).getD Value.missing
    | .list _ => fail .invalidOperation

/-- Applies filters one after the other. -/
def applyChain : Nat → FilterChain → Value → Rendering Value
  | 0, _, _ => fail .invalidOperation
  | fuel + 1, filters, v =>
    filters.foldlM (fun v (name, args) => do
      let args ← (← evaluateArguments fuel args []).mapM settle
      result (Filter.apply name (v :: args))) v

/-- Runs a body once for each item, and says whether there was any. -/
def runLoop : Nat → Target → List Statement → Bool → Value → Rendering Bool
  | 0, _, _, _, _ => fail .invalidOperation
  | fuel + 1, t, body, recursive, v => do
    let xs ← match Arguments.items (← settle v) with
      | .ok xs => pure xs
      | .error e => fail e
    let depth := match ← innermostLoop? with
      | some l => if l.repeated.isSome then l.depth + 1 else 0
      | none => 0
    let i ← newCell []
    let loop : LoopFrame :=
      ⟨0, xs.length, depth, none, none, i, if recursive then some (t, body) else none⟩
    inFrame { Frame.empty with loop := some loop } do
      let previous := none :: xs.map some
      let next := (xs.drop 1).map some ++ [none]
      (xs.zip (previous.zip next)).zipIdx.forM fun ((x, before, after), index) => do
        moveLoop index before after
        assign fuel t x
        runAll fuel body
    return !xs.isEmpty

/-- The items for which a condition holds. -/
def runCondition : Nat → Target → Expr → Value → Rendering Value
  | 0, _, _, _ => fail .invalidOperation
  | fuel + 1, t, condition, v => do
    let xs ← match Arguments.items (← settle v) with
      | .ok xs => pure xs
      | .error e => fail e
    let kept ← inFrame Frame.empty (xs.filterM fun x => do
      assign fuel t x
      holds (← evaluate fuel condition))
    return Value.ofList kept

/-- Runs statements in order. -/
def runAll : Nat → List Statement → Rendering Unit
  | 0, _ => fail .invalidOperation
  | fuel + 1, ss => ss.forM (run fuel)

/-- Runs a statement. -/
def run : Nat → Statement → Rendering Unit
  | 0, _ => fail .invalidOperation
  | fuel + 1, s => do
    match s with
    | .text s => write s
    | .output e => print (← evaluate fuel e)
    | .loop t items condition recursive body otherwise =>
      let v ← evaluate fuel items
      let v ← match condition with
        | some c => runCondition fuel t c v
        | none => pure v
      if !(← runLoop fuel t body recursive v) then runAll fuel otherwise
    | .branch test yes no =>
      if ← holds (← evaluate fuel test) then runAll fuel yes else runAll fuel no
    | .bind bindings body =>
      inFrame Frame.empty do
        bindings.forM fun (t, e) => do assign fuel t (← evaluate fuel e)
        runAll fuel body
    | .set t e => assign fuel t (← evaluate fuel e)
    | .capture t filters body =>
      let v ← captured (runAll fuel body)
      assign fuel t (← applyChain fuel filters v)
    | .escaping mode body =>
      let mode ← escapingMode (← settle (← evaluate fuel mode))
      let before := (← get).escaping
      modify fun scope => { scope with escaping := mode }
      runAll fuel body
      modify fun scope => { scope with escaping := before }
    | .filtered filters body =>
      let v ← captured (runAll fuel body)
      print (← applyChain fuel filters v)
    | .block _ body => inFrame Frame.empty (runAll fuel body)
    | .extend e =>
      match (← settle (← evaluate fuel e)).text? with
      | some _ => fail .templateNotFound
      | none => fail .invalidOperation
    | .include e ignoreMissing => findTemplate ignoreMissing (← settle (← evaluate fuel e))
    | .importFrom e => findTemplate false (← settle (← evaluate fuel e))
    | .define name callable =>
      let closure ← closureCell
      setLocal name (.callable name callable closure)
    | .callWith f args callable =>
      let closure ← closureCell
      print (← callExpr fuel f args [("caller", .callable "caller" callable closure)])
    | .perform call =>
      let _ ← evaluate fuel call
      return ()

end

end ResourceOperator.Template
