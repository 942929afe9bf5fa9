import ResourceOperator.Template.Filter

/-!
# Scopes

The state of rendering: frames of local names, the innermost last pushed, cells for what callables
and namespaces share, and the output so far. A name is looked up in the frames from the innermost
on, then in the credentials, then among the built-in functions.
-/

namespace ResourceOperator.Template

/-- A loop that is under way. A recursive loop keeps what it repeats. -/
structure LoopFrame where
  index : Nat
  length : Nat
  depth : Nat
  previous : Option Value
  next : Option Value
  cell : Nat
  repeated : Option (Target × List Statement)

/-- Local names, the loop that the frame belongs to, and the cell that callables defined in it
share. -/
structure Frame where
  locals : List (String × Value)
  loop : Option LoopFrame
  closure : Option Nat

/-- A frame without names. -/
def Frame.empty : Frame :=
  ⟨[], none, none⟩

/-- The state of rendering. -/
structure Scope where
  frames : List Frame
  cells : Array (List (String × Value))
  root : List (Value × Value)
  blocks : List (String × List Statement)
  escaping : Bool
  outerDepth : Nat
  output : String

/-- A step of rendering. -/
abbrev Rendering := StateT Scope (Except Failure)

namespace Rendering

/-- Frames nest at most this deep. -/
def maxDepth : Nat := 500

/-- What a call of a callable adds to the depth. -/
def callDepth : Nat := 4

/-- The functions that every template has. -/
def builtins : List String :=
  ["range", "dict", "debug", "namespace"]

/-- Gives up. -/
def fail {α : Type} (failure : Failure) : Rendering α :=
  throw failure

/-- Adds to the output. -/
def write (s : String) : Rendering Unit :=
  modify fun scope => { scope with output := scope.output ++ s }

/-- Runs a step in one more frame. -/
def inFrame {α : Type} (frame : Frame) (step : Rendering α) : Rendering α := do
  let scope ← get
  if maxDepth < scope.frames.length + scope.outerDepth then fail .invalidOperation
  set { scope with frames := frame :: scope.frames }
  let a ← step
  modify fun scope => { scope with frames := scope.frames.tail }
  return a

/-- The output of a step, which is not written. -/
def captured (step : Rendering Unit) : Rendering Value := do
  let before := (← get).output
  modify fun scope => { scope with output := "" }
  step
  let scope ← get
  set { scope with output := before }
  return .string scope.output scope.escaping

/-- A new cell. -/
def newCell (entries : List (String × Value)) : Rendering Nat := do
  let scope ← get
  set { scope with cells := scope.cells.push entries }
  return scope.cells.size

/-- The entries of a cell. -/
def cell (i : Nat) : Rendering (List (String × Value)) := do
  return ((← get).cells[i]?).getD []

/-- Sets an entry of a cell. -/
def setInCell (i : Nat) (name : String) (v : Value) : Rendering Unit := do
  let entries ← cell i
  let kept := entries.filter fun (k, _) => k != name
  modify fun scope => { scope with cells := scope.cells.setIfInBounds i ((name, v) :: kept) }

/-- A namespace as a map; any other value as it is. -/
def settle : Value → Rendering Value
  | .space i => do
    return Value.ofEntries ((← cell i).map fun (k, v) => (Value.ofText k, v))
  | v => return v

/-- The loop of a frame as a value. -/
def LoopFrame.value (l : LoopFrame) : Value :=
  .loop l.index l.length l.depth l.previous l.next l.cell

/-- A name in the frames. -/
def inFrames? (name : String) (cells : Array (List (String × Value))) :
    List Frame → Option Value
  | [] => none
  | f :: rest => match f.locals.lookup name with
    | some v => some v
    | none => match f.loop with
      | some l => if name = "loop" then some (LoopFrame.value l) else inFrames? name cells rest
      | none => inFrames? name cells rest

/-- The value of a name, if there is one. -/
def lookup? (name : String) : Rendering (Option Value) := do
  let scope ← get
  match inFrames? name scope.cells scope.frames with
  | some v => return some v
  | none => match Value.under? (Value.ofText name) scope.root with
    | some v => return some v
    | none => return if builtins.contains name then some (.function name) else none

/-- Sets a name in the innermost frame, and in the cell of its callables. -/
def setLocal (name : String) (v : Value) : Rendering Unit := do
  let scope ← get
  match scope.frames with
  | [] => return ()
  | f :: rest =>
    let kept := f.locals.filter fun (k, _) => k != name
    set { scope with frames := { f with locals := (name, v) :: kept } :: rest }
    match f.closure with
    | some i => setInCell i name v
    | none => return ()

/-- All names that can be seen, each with its value. -/
def visible : Rendering (List (String × Value)) := do
  let scope ← get
  let ofFrame := fun (f : Frame) => f.locals ++ (match f.loop with
    | some l => [("loop", LoopFrame.value l)]
    | none => [])
  return scope.frames.flatMap ofFrame

/-- The cell of the callables of the innermost frame, with every name that can be seen. -/
def closureCell : Rendering Nat := do
  let scope ← get
  let seen ← visible
  match scope.frames with
  | [] => newCell []
  | f :: rest =>
    let i ← match f.closure with
      | some i => pure i
      | none => do
        let i ← newCell []
        modify fun scope => { scope with frames := { f with closure := some i } :: rest }
        pure i
    let known ← cell i
    let added := seen.foldl (fun (acc : List (String × Value)) (k, v) =>
      if (known.lookup k).isSome || (acc.lookup k).isSome then acc else acc ++ [(k, v)]) []
    modify fun scope => { scope with cells := scope.cells.setIfInBounds i (known ++ added) }
    return i

/-- The innermost loop. -/
def innermostLoop? : Rendering (Option LoopFrame) := do
  return (← get).frames.findSome? Frame.loop

/-- Whether a value counts as true; an undefined one is a failure. -/
def holds (v : Value) : Rendering Bool := do
  if v.isLoudlyUndefined then fail .undefinedValue
  let v ← settle v
  return v.isTrue

/-- The text of a value as output. -/
def print (v : Value) : Rendering Unit := do
  if v.isLoudlyUndefined then fail .undefinedValue
  let v ← settle v
  write (if (← get).escaping then v.markup else v.text)

/-- Moves the innermost loop to an item. -/
def moveLoop (index : Nat) (previous next : Option Value) : Rendering Unit :=
  modify fun scope => match scope.frames with
    | [] => scope
    | f :: rest =>
      let loop := f.loop.map fun l =>
        { l with index := index, previous := previous, next := next }
      { scope with frames := { f with loop := loop } :: rest }

end Rendering

end ResourceOperator.Template
