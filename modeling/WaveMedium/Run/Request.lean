/-
Module: WaveMedium.Run.Request
Purpose: What the arguments of the program ask for.
Main exports:
  Request, Command, UsageError, Command.ofArguments
-/

namespace WaveMedium

/-- A run that is asked for. -/
structure Request where
  /-- The file with the settings. -/
  settingsPath : String
  /-- The field to plot, in place of the one in the settings. -/
  plot : Option String
deriving DecidableEq, Repr

/-- What the program is told to do. -/
inductive Command where
  | run (request : Request)
  | help
  | version
deriving DecidableEq, Repr

/-- Why arguments make no sense. -/
inductive UsageError where
  | noSettings
  | emptyPath
  | unexpected (argument : String)
  | unknownOption (argument : String)
  | noValue
  | repeatedPlot
deriving DecidableEq, Repr

/-- The wording of a usage error. -/
def UsageError.message : UsageError → String
  | .noSettings => "the file with the settings is missing"
  | .emptyPath => "the path of the settings is empty"
  | .unexpected argument => "unexpected argument '" ++ argument ++ "'"
  | .unknownOption argument => "unknown option '" ++ argument ++ "'"
  | .noValue => "the field to plot is missing"
  | .repeatedPlot => "the field to plot is given more than once"

/-! ### Arguments one by one -/

/-- The part that an argument plays where options are allowed. -/
inductive ArgumentRole where
  /-- Only operands follow. -/
  | separator
  /-- The option for the field to plot, perhaps with its value after an equals sign. -/
  | plot (value : Option String)
  | help
  | version
  | unknown
  | operand
deriving DecidableEq, Repr

/-- The role of an option with two dashes. -/
def ArgumentRole.ofName (name : List Char) (value : List Char) : ArgumentRole :=
  match String.ofList name, value with
  | "plot", [] => .plot none
  | "plot", _ :: value => .plot (some (String.ofList value))
  | "help", [] => .help
  | "version", [] => .version
  | _, _ => .unknown

/-- The role of an argument.  A dash alone is an operand. -/
def ArgumentRole.ofArgument (argument : String) : ArgumentRole :=
  match argument.toList with
  | ['-', '-'] => .separator
  | '-' :: '-' :: option => ofName (option.takeWhile (· ≠ '=')) (option.dropWhile (· ≠ '='))
  | '-' :: 'h' :: _ => .help
  | '-' :: 'V' :: _ => .version
  | '-' :: _ :: _ => .unknown
  | _ => .operand

/-! ### All arguments -/

/-- What the arguments so far ask for. -/
structure PartialRequest where
  settingsPath : Option String := none
  plot : Option String := none

namespace PartialRequest

/-- Take an operand: there is one, the file with the settings. -/
def addOperand (found : PartialRequest) (argument : String) : Except UsageError PartialRequest :=
  match found.settingsPath with
  | some _ => .error (.unexpected argument)
  | none =>
      if argument = "" then .error .emptyPath
      else .ok { found with settingsPath := some argument }

/-- Take the field to plot. -/
def addPlot (found : PartialRequest) (field : String) : Except UsageError PartialRequest :=
  match found.plot with
  | some _ => .error .repeatedPlot
  | none => .ok { found with plot := some field }

/-- What is asked for when there are no more arguments. -/
def finish (found : PartialRequest) : Except UsageError Command :=
  match found.settingsPath with
  | some path => .ok (.run ⟨path, found.plot⟩)
  | none => .error .noSettings

/-- Take the remaining arguments, in their order.  Of two defects the first is told. -/
def complete (found : PartialRequest) : List String → Except UsageError Command
  | [] => found.finish
  | [argument] =>
      match ArgumentRole.ofArgument argument with
      | .separator => found.finish
      | .help => .ok .help
      | .version => .ok .version
      | .unknown => .error (.unknownOption argument)
      | .operand => do (← found.addOperand argument).finish
      | .plot (some field) => do (← found.addPlot field).finish
      | .plot none => .error .noValue
  | argument :: next :: rest =>
      match ArgumentRole.ofArgument argument with
      | .separator => do (← (next :: rest).foldlM addOperand found).finish
      | .help => .ok .help
      | .version => .ok .version
      | .unknown => .error (.unknownOption argument)
      | .operand => do (← found.addOperand argument).complete (next :: rest)
      | .plot (some field) => do (← found.addPlot field).complete (next :: rest)
      | .plot none =>
          if ArgumentRole.ofArgument next = .operand then do (← found.addPlot next).complete rest
          else .error .noValue

end PartialRequest

/-- What the arguments ask for. -/
def Command.ofArguments (arguments : List String) : Except UsageError Command :=
  ({} : PartialRequest).complete arguments

end WaveMedium
