/-
The arguments of the program.

Arguments are read from left to right. The first one that asks for help or for the
version, or that is a fault, decides. An option that takes a value takes the next
argument, unless that looks like an option too, or what follows its equals sign; its
value is read when the next option or the end is reached, so an unknown option is
reported before a faulty value on its left. After two dashes alone nothing is an option
any more, and as no command takes plain arguments, nothing may follow them.
-/

import ClusterDiscovery.CommandLine.Usage
import ClusterDiscovery.Keyed

namespace ClusterDiscovery.CommandLine

inductive Token where
  | escape
  | long (name : String) (value : Option String)
  | short (letter : Char)
  | plain (text : String)
  deriving DecidableEq, Repr

def Token.ofText (text : String) : Token :=
  match text.toList with
  | ['-', '-'] => .escape
  | '-' :: '-' :: rest =>
      let name := rest.takeWhile (· != '=')
      match rest.drop name.length with
      | [] => .long (String.ofList name) none
      | _ :: value => .long (String.ofList name) (some (String.ofList value))
  | '-' :: letter :: _ => .short letter
  | _ => .plain text

inductive Topic where
  | program
  | controller
  | help
  deriving DecidableEq, Repr

inductive Command where
  | help (topic : Topic)
  | version
  | definitions
  | control (settings : Settings)
  deriving DecidableEq, Repr

abbrev Environment := Keyed String

structure Given where
  settings : Settings
  parameters : List Parameter
  pending : Option (Parameter × Option String)

namespace Given

def nothing : Given := ⟨.standard, [], none⟩

def take (given : Given) (parameter : Parameter) (text : String) : Except UsageError Given :=
  match parameter.assign text given.settings with
  | .error fault => .error (.invalidValue parameter text fault)
  | .ok settings => .ok ⟨settings, parameter :: given.parameters, none⟩

/-- Read a value from the command line, where a parameter may be given once. -/
def takeOnce (given : Given) (parameter : Parameter) (text : String) :
    Except UsageError Given :=
  if given.parameters.contains parameter then .error (.repeated parameter.display)
  else given.take parameter text

def settle (given : Given) : Except UsageError Given :=
  match given.pending with
  | none => .ok given
  | some (parameter, none) => .error (.missingValue parameter)
  | some (parameter, some text) => given.takeOnce parameter text

def takeVariable (environment : Environment) (given : Given) (parameter : Parameter) :
    Except UsageError Given :=
  if given.parameters.contains parameter then .ok given
  else match environment.get? parameter.variableName with
    | none => .ok given
    | some text => given.take parameter text

def finish (environment : Environment) (given : Given) : Except UsageError Settings := do
  let given ← given.settle
  let given ← Parameter.all.foldlM (takeVariable environment) given
  .ok given.settings

end Given

def controllerArguments (environment : Environment) (given : Given) :
    List String → Except UsageError (Option Settings)
  | [] => (given.finish environment).map some
  | argument :: rest =>
      match Token.ofText argument with
      | .escape =>
          match rest with
          | [] => (given.finish environment).map some
          | stray :: _ => .error (.unexpectedArgument stray)
      | .plain text =>
          match given.pending with
          | some (parameter, none) =>
              controllerArguments environment
                { given with pending := some (parameter, some text) } rest
          | _ => .error (.unexpectedArgument text)
      | .long name value =>
          match Parameter.ofName? name, value with
          | some parameter, none => do
              let given ← given.settle
              controllerArguments environment { given with pending := some (parameter, none) }
                rest
          | some parameter, some text => do
              let given ← given.settle
              let given ← given.takeOnce parameter text
              controllerArguments environment given rest
          | none, none =>
              if name = "help" then given.settle.map fun _ => none
              else .error (.unexpectedArgument argument)
          | none, some text =>
              if name = "help" then .error (.unneededValue "--help" text)
              else .error (.unexpectedArgument ("--" ++ name))
      | .short letter =>
          if letter = 'h' then given.settle.map fun _ => none
          else .error (.unexpectedArgument (String.ofList ['-', letter]))

def helpArguments : List String → Except UsageError Topic
  | [] => .ok .program
  | topic :: rest =>
      if topic = "controller" then helpAbout .controller rest
      else if topic = "help" then helpAbout .help rest
      else .error (.unknownCommand topic)
where
  helpAbout (topic : Topic) : List String → Except UsageError Topic
    | [] => .ok topic
    | stray :: _ => .error (.unknownCommand stray)

def controlUnless (definitions : Bool) (settings : Settings) : Command :=
  if definitions then .definitions else .control settings

def defaultCommand (environment : Environment) (definitions : Bool) :
    Except UsageError Command :=
  if definitions then .ok .definitions
  else (Given.nothing.finish environment).map .control

def arguments (environment : Environment) (definitions : Bool) :
    List String → Except UsageError Command
  | [] => defaultCommand environment definitions
  | argument :: rest =>
      match Token.ofText argument with
      | .escape =>
          match rest with
          | [] => defaultCommand environment definitions
          | stray :: _ =>
              if stray = "controller" ∨ stray = "help" then .error (.unexpectedArgument stray)
              else .error (.unknownCommand stray)
      | .plain text =>
          if text = "controller" then
            (controllerArguments environment .nothing rest).map fun settings =>
              match settings with
              | none => .help .controller
              | some settings => controlUnless definitions settings
          else if text = "help" then (helpArguments rest).map .help
          else .error (.unknownCommand text)
      | .long name value =>
          match value with
          | some text =>
              if name = "crd" ∨ name = "help" ∨ name = "version" then
                .error (.unneededValue ("--" ++ name) text)
              else .error (.unexpectedArgument ("--" ++ name))
          | none =>
              if name = "crd" then
                if definitions then .error (.repeated "--crd")
                else arguments environment true rest
              else if name = "help" then .ok (.help .program)
              else if name = "version" then .ok .version
              else .error (.unexpectedArgument argument)
      | .short letter =>
          if letter = 'h' then .ok (.help .program)
          else if letter = 'V' then .ok .version
          else .error (.unexpectedArgument (String.ofList ['-', letter]))

def Command.ofArguments (environment : Environment) (given : List String) :
    Except UsageError Command :=
  arguments environment false given

end ClusterDiscovery.CommandLine
