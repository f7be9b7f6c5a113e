import Considerate.CommandLine.Arguments
import Considerate.CommandLine.Report

namespace Considerate.CommandLine

structure Outcome where
  /-- 0 if all is well, 1 if something was found or could not be linted, 2 if nothing was done. -/
  code : UInt8
  output : String := ""
  failures : List String := []
  complaint : Option String := none
  deriving DecidableEq, Repr

/-- The settings that apply: those at the given path, else those of the current directory, else
the usual ones. -/
def settingsFor (files : Files) (config : Option String) : Except SettingsError Settings :=
  match config with
  | some path => Settings.load files path
  | none =>
    match Settings.discover files "." with
    | some path => Settings.load files path
    | none => .ok {}

def reportsOf (files : Files) (settings : Settings) (paths : List String) : List FileReport :=
  paths.filterMap fun path => (lintFile files settings path).toOption

/-- The paths that cannot be linted, and why. -/
def faultsOf (files : Files) (settings : Settings) (paths : List String) :
    List (String × FileFault) :=
  paths.filterMap fun path =>
    match lintFile files settings path with
    | .ok _ => none
    | .error e => some (path, e)

def printed (format : Format) (rs : List FileReport) : String :=
  match format with
  | .text => FileReport.toText rs
  | .json => FileReport.toJsonText rs

/-- Lints files. -/
def lint (files : Files) (config : Option String) (paths : List String) (format : Format) :
    Outcome :=
  match settingsFor files config with
  | .error e => { code := 2, complaint := some e.message }
  | .ok settings =>
    let reports := reportsOf files settings paths
    let faults := faultsOf files settings paths
    let found := !faults.isEmpty || reports.any fun r => !r.messages.isEmpty
    { code := if found then 1 else 0
      output := printed format reports
      failures := failureLines faults }

def version : String := "kindlint 0.1.0"

def usage : String :=
  "Usage: kindlint [--config FILE] [--verbose] lint [--format text|json] FILES...\n" ++
  "       kindlint [--config FILE] [--verbose] lsp\n"

/-- What the arguments of the program lead to. A server that is told nothing has nothing to say. -/
def run (files : Files) (args : List String) : Outcome :=
  match Arguments.read args with
  | .error .version => { code := 0, output := FileReport.line version }
  | .error .help => { code := 0, output := usage }
  | .error (.wrong e) => { code := 2, complaint := some e.message }
  | .ok a =>
    match a.command with
    | .serve => { code := 0 }
    | .lint paths format => lint files a.config paths format

end Considerate.CommandLine
