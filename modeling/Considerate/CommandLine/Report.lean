import Considerate.Check
import Considerate.Filetype
import Considerate.Json.Printer
import Considerate.Message.Json

namespace Considerate.CommandLine

structure FileReport where
  path : String
  messages : List Message
  deriving DecidableEq, Repr

/-- Why a file could not be linted. -/
inductive FileFault where
  | unreadable (cause : FileError)
  | check (cause : CheckError)
  deriving DecidableEq, Repr

def FileFault.message : FileFault → String
  | .unreadable cause => cause.message
  | .check cause => cause.message

def lintFile (files : Files) (settings : Settings) (path : String) : Except FileFault FileReport :=
  match files.read path with
  | .error e => .error (.unreadable e)
  | .ok text =>
    match check settings (Filetype.ofPath path).profile text with
    | .error e => .error (.check e)
    | .ok messages => .ok ⟨path, messages⟩

namespace FileReport

def severity (m : Message) : String := if m.isError then "error" else "warning"

def startOf (m : Message) : UInt32 × UInt32 :=
  ((m.location.start.line.or m.line).getD 1, (m.location.start.column.or m.column).getD 1)

/-- The record of a message: path, place, severity and reason. -/
def recordOf (path : String) (m : Message) : String :=
  let (line, column) := startOf m
  path ++ ":" ++ toString line.toNat ++ ":" ++ toString column.toNat ++ " " ++ severity m ++ " " ++
    m.reason

def records (r : FileReport) : List String := r.messages.map (recordOf r.path)

/-- The last line of a text report. -/
def summary (rs : List FileReport) : String :=
  "Checked " ++ toString rs.length ++ " files, found " ++
    toString (rs.flatMap FileReport.messages).length ++ " problems"

def line (s : String) : String := s ++ "\n"

/-- The records of all messages, an empty line and the summary. -/
def toText (rs : List FileReport) : String :=
  String.join ((rs.flatMap records ++ ["", summary rs]).map line)

def toJson (r : FileReport) : Json :=
  .obj [("messages", .arr (r.messages.map Message.toJson)), ("path", .str r.path)]

def toJsonText (rs : List FileReport) : String := line (Json.pretty (.arr (rs.map toJson)))

end FileReport

/-- The lines on the files that could not be linted. -/
def failureLines (faults : List (String × FileFault)) : List String :=
  if faults.isEmpty then []
  else
    (toString faults.length ++ " file(s) failed to lint:") ::
      faults.map fun (path, e) => "  " ++ path ++ ": " ++ e.message

end Considerate.CommandLine
