/-
**Commands.**

```
build INPUT [OUTPUT] [-m NAME]   makes the module of one schema
build-all [ROOT]                 makes the modules of all schemas below a directory
check INPUT... [--json]          checks schemas without writing anything
```

* `Invocation` — a command together with the manifest it is to use.
* `UsageError` — why arguments name no command.
-/

import ElmCodec.Path

namespace ElmCodec

/-- What is to be done. -/
inductive Command where
  | build (input : Path) (output : Option Path) (moduleName : Option String)
  | buildAll (root : Option Path)
  | check (inputs : List Path) (json : Bool)
  deriving DecidableEq, Repr

/-- A command and the path of the manifest, if one is given. -/
structure Invocation where
  manifest : Option Path
  command : Command
  deriving DecidableEq, Repr

/-- The names of the commands. -/
inductive CommandName where
  | build
  | buildAll
  | check
  deriving DecidableEq, Repr

/-- The command of a name. -/
def CommandName.ofText? : String → Option CommandName
  | "build" => some build
  | "build-all" => some buildAll
  | "check" => some check
  | _ => none

/-! ### Options -/

/-- The options. -/
inductive OptionName where
  /-- The path of the manifest. -/
  | config
  /-- Asks for more messages about the work. There are none. -/
  | verbose
  /-- The name of the module. -/
  | moduleName
  /-- Asks for a report as JSON. -/
  | json
  | help
  | version
  deriving DecidableEq, Repr

namespace OptionName

/-- The name behind two dashes. -/
def long : OptionName → String
  | config => "config"
  | verbose => "verbose"
  | moduleName => "module"
  | json => "json"
  | help => "help"
  | version => "version"

/-- The letter behind one dash. -/
def short? : OptionName → Option Char
  | config => some 'c'
  | verbose => some 'v'
  | moduleName => some 'm'
  | json => none
  | help => some 'h'
  | version => some 'V'

/-- Whether a value follows the option. -/
def takesValue : OptionName → Bool
  | config | moduleName => true
  | verbose | json | help | version => false

end OptionName

/-! ### Errors -/

/-- Why arguments name no command. -/
inductive UsageError where
  | unknownOption (text : String)
  | missingValue (option : OptionName)
  | unexpectedValue (option : OptionName)
  | repeatedOption (option : OptionName)
  | emptyPath
  | extraOperand (text : String)
  | missingOperand
  | unknownCommand (text : String)
  | missingCommand
  deriving DecidableEq, Repr

/-- The text of an error. -/
def UsageError.message : UsageError → String
  | unknownOption text => "unknown option " ++ text
  | missingValue option => "a value has to follow --" ++ option.long
  | unexpectedValue option => "--" ++ option.long ++ " takes no value"
  | repeatedOption option => "--" ++ option.long ++ " is given twice"
  | emptyPath => "a path cannot be empty"
  | extraOperand text => "unexpected argument " ++ text
  | missingOperand => "the path of a schema is missing"
  | unknownCommand text => "unknown command " ++ text
  | missingCommand => "a command is missing"

/-- Why arguments lead to no invocation. -/
inductive Stop where
  | help
  | version
  | usage (error : UsageError)
  deriving DecidableEq, Repr

end ElmCodec
