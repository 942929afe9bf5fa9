import ResourceOperator.Settings
import ResourceOperator.Table

/-!
# Reading the settings

The words of the command line come first, then the variables of the environment for the settings
that no word gives. A value that follows its flag as a word of its own is read only when the next
flag or the end shows that it is complete, so a word that is refused at once comes before a value
that is malformed. `main` reads its `Config` so.

Main statements: `given_assign` says that a setting is remembered when it is given, and
`readVariable_of_given` that the environment leaves such a setting alone.
-/

namespace ResourceOperator.Settings

/-- What the words read so far have led to: the settings, those of them that are given, and a
setting whose flag is read but not its value, or not to the end. -/
structure Progress where
  settings : Settings := {}
  given : List Setting := []
  pending : Option (Setting × Option String) := none
  deriving DecidableEq, Repr

/-- The form of a word. -/
inductive Word where
  /-- Two dashes and a name, with a value after an equals sign. -/
  | long (name : String) (attached : Option String)
  /-- One dash and letters; the first decides. -/
  | short (letter : Char)
  /-- Any other word. -/
  | plain
  deriving DecidableEq, Repr

/-- Tells the forms of words apart. -/
def Word.ofText (s : String) : Word :=
  match s.toList with
  | '-' :: '-' :: cs => match Text.cutAt ['='] cs with
    | some (name, value) => .long (String.ofList name) (some (String.ofList value))
    | none => .long (String.ofList cs) none
  | '-' :: c :: _ => .short c
  | _ => .plain

namespace Progress

/-- Gives a setting its value. -/
def assign (p : Progress) (s : Setting) (value : String) : Except Failure Progress :=
  if p.given.contains s then .error .conflict
  else match p.settings.set s value with
    | .ok settings => .ok { settings, given := s :: p.given, pending := none }
    | .error e => .error e

/-- Completes the setting whose flag is read. -/
def settle (p : Progress) : Except Failure Progress :=
  match p.pending with
  | none => .ok p
  | some (_, none) => .error .missingValue
  | some (s, some value) => p.assign s value

/-- Answers a request for help, once what comes before it is complete. -/
def askHelp (p : Progress) : Except Failure Progress :=
  match p.settle with
  | .ok _ => .error .help
  | .error e => .error e

/-- Reads the flag of a setting, with its value if that is attached. -/
def readFlag (p : Progress) (s : Setting) (attached : Option String) :
    Except Failure Progress :=
  match p.settle with
  | .error e => .error e
  | .ok p => match attached with
    | some value => p.assign s value
    | none => .ok { p with pending := some (s, none) }

/-- Reads a word. -/
def readWord (p : Progress) (word : String) : Except Failure Progress :=
  match Word.ofText word with
  | .long "help" none => p.askHelp
  | .long "help" (some _) => .error .unexpectedValue
  | .long name attached => match Setting.flagged name with
    | some s => p.readFlag s attached
    | none => .error .unknownArgument
  | .short letter => if letter = 'h' then p.askHelp else .error .unknownArgument
  | .plain => match p.pending with
    | some (s, none) => .ok { p with pending := some (s, some word) }
    | _ => .error .unknownArgument

/-- Reads the words of a command line. After two dashes nothing may follow. -/
def readWords (p : Progress) : List String → Except Failure Progress
  | [] => p.settle
  | "--" :: rest => if rest.isEmpty then p.settle else .error .unknownArgument
  | word :: rest => match p.readWord word with
    | .ok p => p.readWords rest
    | .error e => .error e

/-- Reads the variable of a setting, unless the setting is given. -/
def readVariable (environment : String → Option String) (p : Progress) (s : Setting) :
    Except Failure Progress :=
  match environment s.variableName with
  | none => .ok p
  | some value => if p.given.contains s then .ok p else p.assign s value

/-- A setting that has got its value is given. -/
theorem given_assign {p q : Progress} {s : Setting} {value : String}
    (h : p.assign s value = .ok q) : q.given = s :: p.given := by
  unfold assign at h
  split at h
  · cases h
  · split at h
    · cases h; rfl
    · cases h

/-- The environment leaves a setting alone that the command line gives. -/
theorem readVariable_of_given {environment : String → Option String} {p : Progress} {s : Setting}
    (h : p.given.contains s = true) : readVariable environment p s = .ok p := by
  unfold readVariable
  split
  · rfl
  · simp only [h, if_true]

end Progress

/-- Reads the settings from the words of a command line and the variables of an environment. -/
def read (words : List String) (environment : String → Option String) :
    Except Failure Settings := do
  let p ← Progress.readWords {} words
  let p ← Setting.all.foldlM (Progress.readVariable environment) p
  pure p.settings

end ResourceOperator.Settings
