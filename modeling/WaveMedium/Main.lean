/-
Module: WaveMedium.Main
Purpose: The program on the command line.
Main exports:
  main
-/
import WaveMedium.Run.Basic

namespace WaveMedium

/-- What the program accepts. -/
def usage : String :=
  "Usage: wave-medium [OPTIONS] <CONFIG>\n\n" ++
  "Arguments:\n" ++
  "  <CONFIG>  Path to the TOML configuration\n\n" ++
  "Options:\n" ++
  "      --plot <PLOT>  Field to render, overriding the one in the configuration\n" ++
  "  -h, --help         Print help\n" ++
  "  -V, --version      Print version"

/-- The version of the program. -/
def versionText : String := "wave-medium 0.1.0"

/-- A file error in words. -/
def FileError.ofSystem : IO.Error → FileError
  | .noFileOrDirectory _ _ _ => .notFound
  | .alreadyExists _ _ _ => .alreadyExists
  | error => .other error.toString

/-- Do something with files, and keep the error. -/
def guarded {α : Type} (action : IO α) : IO (Except FileError α) := do
  try
    return .ok (← action)
  catch error =>
    return .error (.ofSystem error)

/-- Access to the files of the system. -/
def systemFiles : Files IO where
  readText path := guarded (IO.FS.readFile path)
  makeDirectory path := guarded (if path = "" then pure () else IO.FS.createDirAll path)

end WaveMedium

section

open WaveMedium

/-- Build the medium of a settings file and report on it. -/
def main (arguments : List String) : IO UInt32 := do
  match Command.ofArguments arguments with
  | .error error =>
      IO.eprintln ("error: " ++ error.message ++ "\n\n" ++ usage)
      return 2
  | .ok .help =>
      IO.println usage
      return 0
  | .ok .version =>
      IO.println versionText
      return 0
  | .ok (.run request) =>
      let ending ← request.perform systemFiles
      for line in ending.report do
        IO.println line.text
      unless ending.complaint.isEmpty do
        IO.eprintln ending.complaint
      return ending.status.toUInt32

end
