import GraphSchema.Sdl.Naming

/-!
# Arguments

The command line as a command. Options may come in any order after the command's name; the flag
for verbosity may also stand before it.
-/

namespace GraphSchema.Command

/-- What to print, and where to. -/
structure SdlOptions where
  output : Option String := none
  naming : Option Sdl.Naming := none
  visualize : Option String := none

inductive Action where
  | sdl (options : SdlOptions)
  | check
  | explain

/-- The modules that are compiled if none is named. -/
def defaultSchemas : List String := ["schema.toml"]

/-- What the arguments ask for. -/
inductive Request where
  | run (action : Action) (schemas : List String)
  | version
  | help

/-- The command that is called, by name. -/
inductive Verb where
  | sdl | check | explain
  deriving DecidableEq, Repr

def Verb.ofName? : String → Option Verb
  | "sdl" => some .sdl
  | "check" => some .check
  | "explain" => some .explain
  | _ => none

/-- The options that take a value. -/
inductive ValueOption where
  | schema | output | adapter | visualize
  deriving DecidableEq, Repr

def Verb.takes (verb : Verb) (option : ValueOption) : Bool := option = .schema || verb = .sdl

def ValueOption.ofLong? : String → Option ValueOption
  | "schema" => some .schema
  | "output" => some .output
  | "adapter" => some .adapter
  | "visualize" => some .visualize
  | _ => none

def ValueOption.ofShort? : Char → Option ValueOption
  | 's' => some .schema
  | 'o' => some .output
  | 'a' => some .adapter
  | _ => none

/-- The options read so far. -/
structure Options where
  schemas : List String := []
  sdl : SdlOptions := {}

def namingOf? : String → Option Sdl.Naming
  | "camel" => some .camel
  | "passthrough" => some .passthrough
  | _ => none

/-- Sets an option. Only schemas may be given more than once, and no path may be empty. -/
def Options.set? (options : Options) (option : ValueOption) (value : String) : Option Options :=
  match option with
  | .schema =>
    if value.isEmpty then none else some { options with schemas := options.schemas ++ [value] }
  | .output =>
    if value.isEmpty ∨ options.sdl.output.isSome then none
    else some { options with sdl := { options.sdl with output := some value } }
  | .visualize =>
    if value.isEmpty ∨ options.sdl.visualize.isSome then none
    else some { options with sdl := { options.sdl with visualize := some value } }
  | .adapter =>
    match namingOf? value with
    | some naming =>
      if options.sdl.naming.isSome then none
      else some { options with sdl := { options.sdl with naming := some naming } }
    | none => none

/-! ## Single arguments -/

/-- What an argument that begins with a hyphen says. -/
inductive Flag where
  | verbose
  | help
  | version
  | value (option : ValueOption) (value : String)
  /-- An option whose value is the next argument. -/
  | pending (option : ValueOption)
  /-- The end of the options. -/
  | stop
  deriving DecidableEq, Repr

/-- The flag of an argument after two hyphens. -/
def longFlag? (text : List Char) : Option Flag :=
  let name := text.takeWhile (· != '=')
  match text.dropWhile (· != '=') with
  | [] =>
    match String.ofList name with
    | "verbose" => some .verbose
    | "help" => some .help
    | "version" => some .version
    | long => (ValueOption.ofLong? long).map .pending
  | _ :: value => (ValueOption.ofLong? (String.ofList name)).map (.value · (String.ofList value))

/-- The flags of an argument after one hyphen. The value of an option may follow its letter. -/
def shortFlags? : List Char → Option (List Flag)
  | [] => some []
  | 'v' :: rest => (shortFlags? rest).map (.verbose :: ·)
  | 'h' :: _ => some [.help]
  | 'V' :: _ => some [.version]
  | c :: rest =>
    (ValueOption.ofShort? c).map fun option =>
      match rest with
      | [] => [.pending option]
      | '=' :: value => [.value option (String.ofList value)]
      | value => [.value option (String.ofList value)]

/-- The flags of an argument: none if it is no flag, and no list if it is a wrong one. -/
def flagsOf? (argument : String) : Option (Option (List Flag)) :=
  match argument.toList with
  | ['-', '-'] => some (some [.stop])
  | '-' :: '-' :: long => some ((longFlag? long).map ([·]))
  | ['-'] => none
  | '-' :: short => some (shortFlags? short)
  | _ => none

/-! ## The command line -/

/-- What follows a flag: the request is settled, or the reading goes on. -/
inductive Outcome where
  | wrong
  | settled (request : Request)
  | next (options : Options) (waiting : Option ValueOption) (stopped : Bool)

/-- Reads the flags of one argument. -/
def readFlags (verb : Verb) (options : Options) : List Flag → Outcome
  | [] => .next options none false
  | .verbose :: flags => readFlags verb options flags
  | .help :: _ => .settled .help
  | .version :: _ => .wrong
  | .stop :: _ => .next options none true
  | .pending option :: _ => if verb.takes option then .next options (some option) false else .wrong
  | .value option value :: flags =>
    if verb.takes option then
      match options.set? option value with
      | some options => readFlags verb options flags
      | none => .wrong
    else
      .wrong

def Verb.action (verb : Verb) (options : Options) : Action :=
  match verb with
  | .sdl => .sdl options.sdl
  | .check => .check
  | .explain => .explain

/-- Reads what follows a command's name; `waiting` is an option that still lacks its value. -/
def readOptions (verb : Verb) (options : Options) (waiting : Option ValueOption) :
    List String → Option Request
  | [] =>
    if waiting.isSome then none
    else
      let schemas := if options.schemas.isEmpty then defaultSchemas else options.schemas
      some (.run (verb.action options) schemas)
  | argument :: rest =>
    match flagsOf? argument, waiting with
    | none, none => none
    | none, some option =>
      match options.set? option argument with
      | some options => readOptions verb options none rest
      | none => none
    | some _, some _ => none
    | some none, none => none
    | some (some flags), none =>
      match readFlags verb options flags with
      | .wrong => none
      | .settled request => some request
      | .next options waiting stopped =>
        if stopped ∧ !rest.isEmpty then none else readOptions verb options waiting rest

/-- What flags before the command's name ask for: none of them asks for a command. -/
def readLeading : List Flag → Option (Option Request)
  | [] => some none
  | .verbose :: flags => readLeading flags
  | .help :: _ => some (some .help)
  | .version :: _ => some (some .version)
  | _ => none

/-- Whether help can be asked for like this: about nothing further, one command or help itself. -/
def isHelpTopic : List String → Bool
  | [] => true
  | [name] => name = "help" || (Verb.ofName? name).isSome
  | _ => false

/-- What the arguments ask for; none if they are used wrongly. -/
def Request.ofArguments? : List String → Option Request
  | [] => none
  | argument :: rest =>
    match flagsOf? argument with
    | none =>
      if argument = "help" then
        if isHelpTopic rest then some .help else none
      else
        (Verb.ofName? argument).bind (readOptions · {} none rest)
    | some none => none
    | some (some flags) =>
      match readLeading flags with
      | none => none
      | some (some request) => some request
      | some none => Request.ofArguments? rest

end GraphSchema.Command
