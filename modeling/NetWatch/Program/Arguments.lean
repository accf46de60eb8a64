/-!
# Command lines

Options with a short or a long name, and arguments by position. Options may be clustered behind one
dash, a value may follow an option in the same argument or in the next one, and `--` ends the
options. An argument that begins with a dash is never the value of the option before it.

The value of an option is looked at when the next known argument comes, or at the end.
-/

namespace NetWatch.Program

inductive UsageError where
  /-- A value is missing or not one of those allowed. -/
  | invalidValue
  | unknownArgument
  /-- An option is given twice that may be given once. -/
  | argumentConflict
  /-- A value for an option that takes none. -/
  | tooManyValues
  /-- A required argument is missing. -/
  | missingArgument
  /-- A wish for help, or for the version. -/
  | help
  deriving DecidableEq

def UsageError.name : UsageError → String
  | .invalidValue => "InvalidValue"
  | .unknownArgument => "UnknownArgument"
  | .argumentConflict => "ArgumentConflict"
  | .tooManyValues => "TooManyValues"
  | .missingArgument => "MissingRequiredArgument"
  | .help => "DisplayHelp"

/-- How often an option may be given, and whether it has a value. -/
inductive Arity where
  | flag
  | count
  | single
  | many
  | help
  deriving DecidableEq

def Arity.takesValue : Arity → Bool
  | .single | .many => true
  | .flag | .count | .help => false

structure OptionSpec where
  key : String
  short : Option Char := none
  long : Option String := none
  arity : Arity
  accepts : String → Bool := fun _ => true

/-- The grammar of a command line. All arguments by position are required. -/
structure Grammar where
  options : List OptionSpec
  positions : List OptionSpec := []

/-- What has been given, by key, in order. -/
abbrev Given := List (String × String)

/-- An option or argument that has been read but not looked at yet. -/
structure Waiting where
  spec : OptionSpec
  value : Option String := none

structure Reading where
  given : Given := []
  waiting : Option Waiting := none
  /-- Whether the next argument may be the value of the waiting option. -/
  expectsValue : Bool := false
  /-- Arguments by position so far. -/
  position : Nat := 0
  /-- Whether the options have ended. -/
  ended : Bool := false

namespace Given

def has (g : Given) (key : String) : Bool := g.any (·.1 = key)

def values (g : Given) (key : String) : List String :=
  (g.filter (·.1 = key)).map (·.2)

def value? (g : Given) (key : String) : Option String := (g.values key).head?

end Given

/-- Takes up an option or argument. -/
def accept (given : Given) (spec : OptionSpec) (value : Option String) : Except UsageError Given :=
  match spec.arity, value with
  | .help, _ => .error .help
  | .flag, _ =>
    if given.has spec.key then .error .argumentConflict else .ok (given ++ [(spec.key, "")])
  | .count, _ => .ok (given ++ [(spec.key, "")])
  | .single, none | .many, none => .error .invalidValue
  | .single, some v =>
    if given.has spec.key then .error .argumentConflict
    else if spec.accepts v then .ok (given ++ [(spec.key, v)]) else .error .invalidValue
  | .many, some v =>
    if spec.accepts v then .ok (given ++ [(spec.key, v)]) else .error .invalidValue

namespace Reading

/-- Looks at what is waiting. -/
def resolve (r : Reading) : Except UsageError Reading :=
  match r.waiting with
  | none => .ok { r with expectsValue := false }
  | some w => do
    let given ← accept r.given w.spec w.value
    return { r with given := given, waiting := none, expectsValue := false }

/-- An option, with the value in its own argument if there is one. -/
def option (r : Reading) (spec : OptionSpec) (value : Option String) : Except UsageError Reading := do
  let r ← r.resolve
  if spec.arity.takesValue && value.isNone then
    return { r with waiting := some { spec := spec }, expectsValue := true }
  else return { r with given := ← accept r.given spec value }

/-- An option by its long name. -/
def long (g : Grammar) (r : Reading) (name : String) (value : Option String) :
    Except UsageError Reading :=
  match g.options.find? (·.long = some name) with
  | none => .error .unknownArgument
  | some spec =>
    if !spec.arity.takesValue && value.isSome then do
      let _ ← r.resolve
      .error .tooManyValues
    else r.option spec value

/-- Options by their short names; what follows one that takes a value is the value. -/
def cluster (g : Grammar) (r : Reading) : List Char → Except UsageError Reading
  | [] => .ok r
  | c :: rest => match g.options.find? (·.short = some c) with
    | none => .error .unknownArgument
    | some spec =>
      if spec.arity.takesValue then
        match rest with
        | [] => r.option spec none
        | '=' :: value => r.option spec (some (String.ofList value))
        | value => r.option spec (some (String.ofList value))
      else do cluster g (← r.option spec none) rest

/-- The value of the waiting option, or an argument by position. -/
def plain (g : Grammar) (r : Reading) (arg : String) : Except UsageError Reading :=
  match r.expectsValue && !r.ended, r.waiting with
  | true, some w =>
    .ok { r with waiting := some { w with value := some arg }, expectsValue := false }
  | _, _ => match g.positions[r.position]? with
    | none => .error .unknownArgument
    | some spec => do
      let r ← r.resolve
      return { r with waiting := some ⟨spec, some arg⟩, position := r.position + 1 }

def next (g : Grammar) (r : Reading) (arg : String) : Except UsageError Reading :=
  if r.ended then r.plain g arg
  else match arg.toList with
    | ['-', '-'] => .ok { r with ended := true }
    | '-' :: '-' :: body =>
      let name := String.ofList (body.takeWhile (· ≠ '='))
      match body.dropWhile (· ≠ '=') with
      | _ :: value => r.long g name (some (String.ofList value))
      | [] => r.long g name none
    | '-' :: c :: rest => r.cluster g (c :: rest)
    | _ => r.plain g arg

end Reading

/-- Reads a command line. -/
def Grammar.parse (g : Grammar) (args : List String) : Except UsageError Given := do
  let r ← args.foldlM (·.next g) ({} : Reading)
  let r ← r.resolve
  if r.position < g.positions.length then .error .missingArgument else return r.given

end NetWatch.Program
