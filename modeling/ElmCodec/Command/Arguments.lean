/-
**Reading arguments.**

An argument that starts with a dash holds options, unless it is the dash alone; any other one is an
operand. Behind two dashes everything is an operand. The first operand is the name of the command;
the options behind it are those of the command.

* `OptionName.long`, with or without its value: `--config=PATH`, `--config PATH`.
* `OptionName.short?`, several in one argument, the last one with its value: `-vcPATH`, `-vc=PATH`,
  `-vc PATH`.
* `Invocation.ofArguments` — the invocation of some arguments.
-/

import ElmCodec.Command.Basic

namespace ElmCodec

/-! ### Scopes -/

/-- Where arguments stand: in front of the name of a command or behind it. -/
inductive Scope where
  | front
  | behind (command : CommandName)
  deriving DecidableEq, Repr

namespace Scope

/-- The options that may stand there. -/
def options : Scope → List OptionName
  | front => [.config, .verbose, .help, .version]
  | behind .build => [.config, .verbose, .moduleName, .help]
  | behind .buildAll => [.config, .verbose, .help]
  | behind .check => [.config, .verbose, .json, .help]

/-- Whether one more operand may follow some operands. -/
def admits (scope : Scope) (operands : List Path) : Bool :=
  match scope with
  | front => false
  | behind .build => operands.length < 2
  | behind .buildAll => operands.isEmpty
  | behind .check => true

/-- The option of a name. -/
def long? (scope : Scope) (name : List Char) : Option OptionName :=
  scope.options.find? fun option => option.long.toList == name

/-- The option of a letter. -/
def short? (scope : Scope) (letter : Char) : Option OptionName :=
  scope.options.find? fun option => option.short? == some letter

end Scope

/-! ### What is given -/

/-- The options and operands that were read in a scope. -/
structure Given where
  options : List (OptionName × String) := []
  operands : List Path := []
  deriving DecidableEq

namespace Given

/-- The value of an option, empty for an option that takes none. -/
def value? (given : Given) (option : OptionName) : Option String := given.options.lookup option

/-- One more option. -/
def addOption (given : Given) (option : OptionName) (value : String) : Except Stop Given := do
  if option = .help then throw .help
  if option = .version then throw .version
  if (given.value? option).isSome then throw (.usage (.repeatedOption option))
  if option = .config && value.isEmpty then throw (.usage .emptyPath)
  return { given with options := given.options ++ [(option, value)] }

/-- One more operand. -/
def addOperand (scope : Scope) (given : Given) (text : String) : Except Stop Given := do
  if !scope.admits given.operands then throw (.usage (.extraOperand text))
  if text.isEmpty then throw (.usage .emptyPath)
  return { given with operands := given.operands ++ [⟨text⟩] }

end Given

/-! ### Single arguments -/

/-- What an argument looks like. -/
inductive ArgumentForm where
  /-- Two dashes. -/
  | separator
  /-- Two dashes and a name. -/
  | long (text : List Char)
  /-- A dash and letters. -/
  | short (letters : List Char)
  | operand
  deriving DecidableEq

/-- The form of an argument. -/
def ArgumentForm.of (argument : String) : ArgumentForm :=
  match argument.toList with
  | ['-', '-'] => separator
  | '-' :: '-' :: text => long text
  | '-' :: letter :: letters => short (letter :: letters)
  | _ => operand

/-- Reads an option by its name. When its value has to follow, the option is given back. -/
def readLong (scope : Scope) (given : Given) (text : List Char) :
    Except Stop (Given × Option OptionName) :=
  match scope.long? (text.takeWhile (· != '=')) with
  | none => throw (.usage (.unknownOption ("--" ++ String.ofList text)))
  | some option =>
    match text.dropWhile (· != '=') with
    | _ :: value =>
      if option.takesValue then
        (given.addOption option (String.ofList value)).map fun given => (given, none)
      else throw (.usage (.unexpectedValue option))
    | [] =>
      if option.takesValue then return (given, some option)
      else (given.addOption option "").map fun given => (given, none)

/-- Reads options by their letters. When the value of the last one has to follow, that option is
given back. -/
def readLetters (scope : Scope) : Given → List Char → Except Stop (Given × Option OptionName)
  | given, [] => return (given, none)
  | given, letter :: rest =>
    match scope.short? letter with
    | none => throw (.usage (.unknownOption ("-" ++ String.singleton letter)))
    | some option =>
      if option.takesValue then
        match rest with
        | [] => return (given, some option)
        | '=' :: value | value =>
          (given.addOption option (String.ofList value)).map fun given => (given, none)
      else do
        let given ← given.addOption option ""
        readLetters scope given rest

/-! ### All arguments -/

/-- Reads arguments, in front of the name of a command up to that name, which is given back with the
arguments behind it. `awaiting` is the option whose value has to follow. -/
def readArguments (scope : Scope) :
    Given → Option OptionName → List String → Except Stop (Given × Option (String × List String))
  | given, none, [] => return (given, none)
  | _, some option, [] => throw (.usage (.missingValue option))
  | given, awaiting, argument :: rest =>
    match ArgumentForm.of argument, awaiting with
    | .operand, some option => do
      let given ← given.addOption option argument
      readArguments scope given none rest
    | _, some option => throw (.usage (.missingValue option))
    | .operand, none =>
      match scope with
      | .front => return (given, some (argument, rest))
      | .behind _ => do
        let given ← given.addOperand scope argument
        readArguments scope given none rest
    | .separator, none => do
      let given ← rest.foldlM (Given.addOperand scope) given
      return (given, none)
    | .long text, none => do
      let (given, awaiting) ← readLong scope given text
      readArguments scope given awaiting rest
    | .short letters, none => do
      let (given, awaiting) ← readLetters scope given letters
      readArguments scope given awaiting rest

/-! ### Commands -/

/-- The command of what is given behind its name. -/
def CommandName.command (name : CommandName) (given : Given) : Except UsageError Command :=
  match name, given.operands with
  | build, input :: rest => .ok (.build input rest.head? (given.value? .moduleName))
  | buildAll, operands => .ok (.buildAll operands.head?)
  | check, input :: rest => .ok (.check (input :: rest) (given.value? .json).isSome)
  | build, [] | check, [] => .error .missingOperand

/-- The name under which help is asked for like a command. -/
def helpName : String := "help"

/-- Asks for help on commands. -/
def helpOn : List String → Stop
  | [] => .help
  | [name] =>
    if name = helpName || (CommandName.ofText? name).isSome then .help
    else .usage (.unknownCommand name)
  | _ :: name :: _ => .usage (.unknownCommand name)

/-- The invocation of some arguments. A manifest that is given behind the name of the command counts
more than one in front of it. -/
def Invocation.ofArguments (arguments : List String) : Except Stop Invocation := do
  let (front, command) ← readArguments .front {} none arguments
  match command with
  | none => throw (.usage .missingCommand)
  | some (text, rest) =>
    if text = helpName then throw (helpOn rest)
    match CommandName.ofText? text with
    | none => throw (.usage (.unknownCommand text))
    | some name =>
      let (behind, _) ← readArguments (.behind name) {} none rest
      let command ← (name.command behind).mapError .usage
      let manifest := ((behind.value? .config).or (front.value? .config)).map Path.mk
      return { manifest, command }

end ElmCodec
