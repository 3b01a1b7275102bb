import ModelCatalog.Command.Basic

/-!
# Reading a command line

A command line has options before and behind the name of a command, each set read as a `Section`. An option is given as `--name value`,
`--name=value`, `-n value`, `-nvalue` or `-n=value`; behind `--` nothing is an option. An option is judged when the next one begins or
the section ends, so of two faults the one that comes first on the line does not always win.
-/

namespace ModelCatalog.Command

/-- Why a command line is refused. Asking for help is one of the reasons. -/
inductive Refusal where
  | missingSubcommand
  | invalidSubcommand
  | missingRequiredArgument
  | unknownArgument
  | invalidValue
  | argumentConflict
  | tooManyValues
  | displayHelp
  deriving DecidableEq, Repr

/-- The name of the reason. -/
def Refusal.name : Refusal → String
  | missingSubcommand => "MissingSubcommand"
  | invalidSubcommand => "InvalidSubcommand"
  | missingRequiredArgument => "MissingRequiredArgument"
  | unknownArgument => "UnknownArgument"
  | invalidValue => "InvalidValue"
  | argumentConflict => "ArgumentConflict"
  | tooManyValues => "TooManyValues"
  | displayHelp => "DisplayHelp"

/-- The name of a command. -/
inductive Verb where
  | check
  | lookups
  | transpile
  deriving DecidableEq, Repr

namespace Verb

def all : List Verb := [check, lookups, transpile]

def name : Verb → String
  | check => "check"
  | lookups => "lookups"
  | transpile => "transpile"

def ofName? (name : String) : Option Verb := all.find? fun v => v.name = name

end Verb

/-- An option that takes a value. -/
inductive Setting where
  | settings
  | schema
  | out
  | models
  deriving DecidableEq, Repr

namespace Setting

def name : Setting → String
  | settings => "settings"
  | schema => "schema"
  | out => "out"
  | models => "models"

def letter? : Setting → Option Char
  | schema => some 's'
  | out => some 'o'
  | settings | models => none

/-- Whether the value is a path, which must not be empty. -/
def isPath : Setting → Bool
  | models => false
  | _ => true

/-- The options behind a command, or before it. -/
def allowed : Option Verb → List Setting
  | none => [settings]
  | some .check | some .lookups => [settings, schema]
  | some .transpile => [settings, schema, out, models]

end Setting

/-- What is read of a part of the command line. -/
structure Section where
  given : List (Setting × String) := []
  /-- The last option, which is not judged yet, and its value. -/
  last : Option (Setting × Option String) := none
  /-- The argument that is not an option. -/
  model : Option String := none
  deriving Repr

namespace Section

def value? (s : Section) (o : Setting) : Option String := (s.given.find? fun entry => entry.1 = o).map Prod.snd

/-- Takes an option, which must have a value and not be there yet. -/
def take (s : Section) (o : Setting) : Option String → Except Refusal Section
  | none => .error .invalidValue
  | some value =>
    if (s.value? o).isSome then .error .argumentConflict
    else if o.isPath && value.isEmpty then .error .invalidValue
    else .ok { s with given := s.given ++ [(o, value)] }

/-- Judges the last option. -/
def settle (s : Section) : Except Refusal Section :=
  match s.last with
  | some (o, value) => take { s with last := none } o value
  | none => .ok s

/-- Whether the last option waits for its value. -/
def isWaiting (s : Section) : Bool := s.last matches some (_, none)

/-- Begins an option. One with a value attached is judged at once. -/
def begin (s : Section) (o : Setting) (attached : Option String) : Except Refusal Section := do
  let s ← s.settle
  match attached with
  | some value => s.take o value
  | none => return { s with last := some (o, none) }

/-- An argument that is not an option: the model of a lookups command. -/
def addArgument (verb : Option Verb) (s : Section) (arg : String) : Except Refusal Section :=
  match verb, s.model with
  | some .lookups, none => do return { ← s.settle with model := some arg }
  | some _, _ => .error .unknownArgument
  | none, _ => .error .invalidSubcommand

/-- An option in its long form, without the dashes. -/
def addLong (verb : Option Verb) (s : Section) (body : List Char) : Except Refusal Section :=
  let name := String.ofList (body.takeWhile (· ≠ '='))
  let attached := match body.dropWhile (· ≠ '=') with
    | _ :: value => some (String.ofList value)
    | [] => none
  match (Setting.allowed verb).find? fun o => o.name = name with
  | some o => s.begin o attached
  | none =>
    if name ≠ "help" then .error .unknownArgument
    else if attached.isSome then .error .tooManyValues
    else s.settle >>= fun _ => .error .displayHelp

/-- An option in its short form, without the dash. -/
def addShort (verb : Option Verb) (s : Section) (letter : Char) (body : List Char) : Except Refusal Section :=
  match (Setting.allowed verb).find? fun o => o.letter? = some letter with
  | some o =>
    s.begin o (match body with
      | [] => none
      | '=' :: value => some (String.ofList value)
      | value => some (String.ofList value))
  | none => if letter = 'h' then s.settle >>= fun _ => .error .displayHelp else .error .unknownArgument

/-- The arguments behind `--`. Before a command there can be none, not even the name of one. -/
def addArguments (verb : Option Verb) (s : Section) : List String → Except Refusal Section
  | [] => .ok s
  | arg :: rest =>
    if verb.isNone && (arg = "help" || (Verb.ofName? arg).isSome) then .error .unknownArgument
    else do addArguments verb (← s.addArgument verb arg) rest

/-- An argument that is neither `--` nor the name of a command. -/
def add (verb : Option Verb) (s : Section) (arg : String) : Except Refusal Section :=
  match arg.toList with
  | '-' :: '-' :: body => s.addLong verb body
  | '-' :: letter :: body => s.addShort verb letter body
  | _ =>
    match s.last with
    | some (o, none) => .ok { s with last := some (o, some arg) }
    | _ => s.addArgument verb arg

end Section

/-- Why a request for help on a command, which may be several words, is refused. -/
def refuseHelp : List String → Refusal
  | [] => .displayHelp
  | [name] => if name = "help" || (Verb.ofName? name).isSome then .displayHelp else .invalidSubcommand
  | _ => .invalidSubcommand

/-- The part of the command line behind the name of a command. -/
def readBehind (verb : Verb) (s : Section) : List String → Except Refusal Section
  | [] => s.settle
  | arg :: rest =>
    if arg = "--" then do (← s.addArguments (some verb) rest).settle
    else do readBehind verb (← s.add (some verb) arg) rest

/-- The part of the command line before the name of a command, that name, and what stands behind it. -/
def readBefore (s : Section) : List String → Except Refusal (Section × Verb × List String)
  | [] => s.settle >>= fun _ => .error .missingSubcommand
  | arg :: rest =>
    if arg = "--" then s.addArguments none rest >>= fun s => s.settle >>= fun _ => .error .missingSubcommand
    else if s.isWaiting then do readBefore (← s.add none arg) rest
    else if arg = "help" then .error (refuseHelp rest)
    else
      match Verb.ofName? arg with
      | some verb => .ok (s, verb, rest)
      | none => do readBefore (← s.add none arg) rest

/-- The command of a name with the options behind it. -/
def ofSection (verb : Verb) (s : Section) : Except Refusal Command :=
  match verb, s.value? .schema, s.model with
  | .check, some schema, _ => .ok (.check schema)
  | .lookups, some schema, some model => .ok (.lookups schema model)
  | .transpile, some schema, _ =>
    .ok (.transpile schema (s.value? .out) (((s.value? .models).map (·.splitOn ",")).getD []))
  | _, _, _ => .error .missingRequiredArgument

/-- Reads a command line. A settings file named behind the command wins over one named before it. -/
def read (args : List String) : Except Refusal Invocation := do
  let (before, verb, rest) ← readBefore {} args
  let behind ← readBehind verb {} rest
  let command ← ofSection verb behind
  let before ← before.settle
  return { settings := behind.value? .settings <|> before.value? .settings, command }

end ModelCatalog.Command
