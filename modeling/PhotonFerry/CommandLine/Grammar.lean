import PhotonFerry.Number.Decimal
import PhotonFerry.Number.Word
/-!
# The grammar of command lines

A command has options and at most one operand, and it may lead on to commands of
its own. An option is a switch or takes a value, which follows it as the next
word, behind an equals sign, or, after the letter of a short name, at once. Short
switches may share one word. A word `--` ends the options. No option may be given
twice, and no separate value begins with a dash, except for the dash alone.

An operand, and an option whose value is a word of its own, is examined late:
when the next option or operand of the same command comes, or when the words of
the command, those of a command that it leads on to included, have been read. A
request for help in between is therefore answered.
-/

namespace PhotonFerry.CommandLine

/-- The unsigned number of 32 bits that a text with an optional sign stands for. -/
def readCount? (text : String) : Option UInt32 := do
  let (negative, digits) :=
    match text.toList with
    | '-' :: rest => (true, rest)
    | '+' :: rest => (false, rest)
    | other => (false, other)
  if digits.isEmpty || !digits.all Char.isDigit then none
  else
    let value := Decimal.digitsValue digits
    if Word.isUnsigned 32 value && (!negative || value = 0) then some (UInt32.ofNat value) else none

/-- What the value of an option or an operand has to be. -/
inductive ValueKind where
  | text
  /-- A path is not empty. -/
  | path
  /-- An unsigned number of 32 bits. -/
  | count
  deriving DecidableEq, Repr

/-- Whether a text is a value of a kind. -/
def ValueKind.accepts : ValueKind → String → Bool
  | text, _ => true
  | path, value => value ≠ ""
  | count, value => (readCount? value).isSome

/-- What an option does. -/
inductive OptionKind where
  | switch
  /-- It takes a value, which has a name in the help. -/
  | value (kind : ValueKind) (name : String)
  | help
  | version
  deriving DecidableEq, Repr

/-- An option of a command. -/
structure OptionSpec where
  long : String
  short : Option Char := none
  kind : OptionKind
  help : String
  deriving DecidableEq, Repr

/-- The operand of a command. -/
structure OperandSpec where
  /-- The operand as the help shows it. -/
  name : String
  kind : ValueKind
  help : String
  deriving DecidableEq, Repr

/-- A command. -/
structure CommandSpec where
  /-- The words that call it. -/
  call : String
  about : String
  /-- What follows the call in the help. -/
  usage : String
  options : List OptionSpec := []
  operand : Option OperandSpec := none
  /-- The names of the commands that it leads on to, and what they do. -/
  commands : List (String × String) := []
  deriving DecidableEq, Repr

/-- Why the words of a command line cannot be understood. -/
inductive UsageError where
  | unexpected (word : String)
  | missingValue (option : String)
  | invalidValue (value option : String)
  | repeated (option : String)
  | noValueWanted (option : String)
  | missingOption (option : String)
  | missingCommand
  deriving DecidableEq, Repr

/-- The report of an error. -/
def UsageError.message : UsageError → String
  | unexpected word => s!"error: unexpected argument '{word}' found"
  | missingValue option => s!"error: a value is required for '--{option}' but none was supplied"
  | invalidValue value option => s!"error: invalid value '{value}' for '{option}'"
  | repeated option => s!"error: the argument '--{option}' cannot be used multiple times"
  | noValueWanted option => s!"error: unexpected value for '--{option}' found"
  | missingOption option =>
    s!"error: the following required arguments were not provided: --{option}"
  | missingCommand => "error: a subcommand is required but one was not provided"

/-- What keeps the words of a command from being read to their end. -/
inductive Interruption where
  | help
  | version
  | refused (reason : UsageError)
  deriving DecidableEq, Repr

/-- What the words of a command give. -/
structure Given where
  /-- The options by their long names; a switch has an empty value. -/
  options : List (String × String) := []
  operand : Option String := none
  deriving DecidableEq, Repr

namespace Given

/-- Whether a switch is given. -/
def has (given : Given) (long : String) : Bool :=
  (given.options.lookup long).isSome

/-- The value of an option. -/
def value? (given : Given) (long : String) : Option String :=
  given.options.lookup long

/-- Add an option. -/
def addOption (given : Given) (option : OptionSpec) (value : String) :
    Except UsageError Given :=
  let accepted :=
    match option.kind with
    | .value kind _ => kind.accepts value
    | _ => true
  if given.has option.long then .error (.repeated option.long)
  else if accepted then .ok { given with options := (option.long, value) :: given.options }
  else .error (.invalidValue value option.long)

/-- Add an operand. -/
def addOperand (given : Given) (operand : OperandSpec) (word : String) :
    Except UsageError Given :=
  match given.operand with
  | some _ => .error (.unexpected word)
  | none =>
    if operand.kind.accepts word then .ok { given with operand := some word }
    else .error (.invalidValue word operand.name)

end Given

/-- What was read last and has not been examined. -/
inductive Pending where
  /-- An option, with its value once that is read. -/
  | option (option : OptionSpec) (value : Option String)
  | operand (operand : OperandSpec) (word : String)
  deriving DecidableEq, Repr

/-- How far the words of a command are understood. -/
structure Reading where
  given : Given := {}
  pending : Option Pending := none
  deriving DecidableEq, Repr

namespace Reading

/-- Examine what is pending. -/
def settle (reading : Reading) : Except UsageError Given :=
  match reading.pending with
  | none => .ok reading.given
  | some (.option option none) => .error (.missingValue option.long)
  | some (.option option (some value)) => reading.given.addOption option value
  | some (.operand operand word) => reading.given.addOperand operand word

/-- Examine what is pending, and then add an option at once. -/
def add (reading : Reading) (option : OptionSpec) (value : String) :
    Except Interruption Reading :=
  match reading.settle.bind fun given => given.addOption option value with
  | .ok given => .ok { given }
  | .error reason => .error (.refused reason)

/-- Examine what is pending, and leave something else to be examined. -/
def postpone (reading : Reading) (pending : Pending) : Except Interruption Reading :=
  match reading.settle with
  | .ok given => .ok { given, pending := some pending }
  | .error reason => .error (.refused reason)

/-- Stop, unless what is pending is refused. -/
def stop (reading : Reading) (interruption : Interruption) : Interruption :=
  match reading.settle with
  | .ok _ => interruption
  | .error reason => .refused reason

/-- The option that needs the next word as its value, if what is pending is one. -/
def awaiting? (reading : Reading) : Option OptionSpec :=
  match reading.pending with
  | some (.option option none) => some option
  | _ => none

/-- Take a word as an operand. -/
def takeOperand (reading : Reading) (operand : Option OperandSpec) (word : String) :
    Except Interruption Reading :=
  match operand with
  | none => .error (reading.stop (.refused (.unexpected word)))
  | some operand => reading.postpone (.operand operand word)

end Reading

namespace CommandSpec

/-- Take an option by its long name, with the value behind its equals sign if
there is one. -/
def takeLong (spec : CommandSpec) (reading : Reading) (name : String) (value : Option String) :
    Except Interruption Reading :=
  match spec.options.find? (·.long = name) with
  | none => .error (reading.stop (.refused (.unexpected ("--" ++ name))))
  | some option =>
    match option.kind, value with
    | .value .., some value => reading.add option value
    | .value .., none => reading.postpone (.option option none)
    | _, some _ => .error (reading.stop (.refused (.noValueWanted name)))
    | .switch, none => reading.add option ""
    | .help, none => .error (reading.stop .help)
    | .version, none => .error (reading.stop .version)

/-- Take the options in a word of short names. -/
def takeShort (spec : CommandSpec) (reading : Reading) :
    List Char → Except Interruption Reading
  | [] => .ok reading
  | letter :: rest =>
    match spec.options.find? (·.short = some letter) with
    | none => .error (reading.stop (.refused (.unexpected (String.ofList ['-', letter]))))
    | some option =>
      match option.kind with
      | .help => .error (reading.stop .help)
      | .version => .error (reading.stop .version)
      | .switch =>
        match reading.add option "" with
        | .error reason => .error reason
        | .ok reading => spec.takeShort reading rest
      | .value .. =>
        match rest with
        | [] => reading.postpone (.option option none)
        | '=' :: value => reading.add option (String.ofList value)
        | value => reading.add option (String.ofList value)

/-- What a word before any `--` is. -/
inductive Word where
  | ending
  | long (name : String) (value : Option String)
  | short (letters : List Char)
  | plain
  deriving DecidableEq, Repr

/-- Tell what a word is. -/
def Word.of (word : String) : Word :=
  match word.toList with
  | ['-', '-'] => .ending
  | '-' :: '-' :: rest =>
    let name := rest.takeWhile (· ≠ '=')
    let value := if name.length = rest.length then none else some (rest.drop (name.length + 1))
    .long (String.ofList name) (value.map String.ofList)
  | '-' :: letter :: rest => .short (letter :: rest)
  | _ => .plain

/-- Read words up to the name of a command that this one leads on to. The words
from that name on are left. -/
def scan (spec : CommandSpec) (reading : Reading) :
    List String → Except Interruption (Reading × List String)
  | [] => .ok (reading, [])
  | word :: rest =>
    if reading.awaiting?.isNone && (spec.commands.lookup word).isSome then
      .ok (reading, word :: rest)
    else
      match Word.of word with
      | .ending =>
          (rest.foldlM (fun (reading : Reading) word => reading.takeOperand spec.operand word)
            reading).map (·, [])
      | .long name value =>
        match spec.takeLong reading name value with
        | .error reason => .error reason
        | .ok reading => spec.scan reading rest
      | .short letters =>
        match spec.takeShort reading letters with
        | .error reason => .error reason
        | .ok reading => spec.scan reading rest
      | .plain =>
        match reading.awaiting? with
        | some option =>
          spec.scan { reading with pending := some (.option option (some word)) } rest
        | none =>
          match reading.takeOperand spec.operand word with
          | .error reason => .error reason
          | .ok reading => spec.scan reading rest

end CommandSpec

end PhotonFerry.CommandLine
