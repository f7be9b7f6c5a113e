import Considerate.CommandLine.Run
import Considerate.Server.Wire

open Considerate

namespace Program

def entryAt (path : String) : IO (Option Entry) := do
  try
    let bytes ← IO.FS.readBinFile path
    match String.fromUTF8? bytes with
    | some text => return some (.text text)
    | none => return some .binary
  catch
    | .inappropriateType .. => return some .directory
    | _ => return none

/-- The paths that lead to a path part by part. -/
def waysTo (path : String) : List String :=
  let parts := path.splitOn "/"
  (List.range parts.length).map fun n => "/".intercalate (parts.take (n + 1))

/-- The names that a path leads to from a directory, dots resolved. -/
def resolve (here : List String) (path : String) : List String :=
  (path.splitOn "/").foldl (fun names part =>
    if part = "" || part = "." then names
    else if part = ".." then names.dropLast
    else names ++ [part]) (if path.startsWith "/" then [] else here)

def survey (paths : List String) : IO Files := do
  let here := Path.names (← IO.currentDir).toString
  let mut files : Files := { current := here }
  for path in paths.flatMap waysTo do
    if let some e ← entryAt path then
      files := files.write (resolve here path) e
  return files

def pathsOf (args : List String) : List String :=
  let settings := Settings.fileNames.map ("./" ++ ·)
  match CommandLine.Arguments.read args with
  | .ok { command := .lint paths _, config, .. } => settings ++ config.toList ++ paths
  | _ => settings

/-- The length that the header lines announce, up to the empty line. -/
partial def readHeader (input : IO.FS.Stream) (length : Option Nat) : IO (Option Nat) := do
  let line ← input.getLine
  if line.isEmpty then return none
  let line := line.trimAscii.toString
  if line.isEmpty then return length
  match line.splitOn ":" with
  | [name, value] =>
    if name.toLower = "content-length" then readHeader input value.trimAscii.toString.toNat?
    else readHeader input length
  | _ => readHeader input length

partial def readBytes (input : IO.FS.Stream) (n : Nat) (done : ByteArray) : IO ByteArray := do
  if done.size ≥ n then return done
  let more ← input.read (n - done.size).toUSize
  if more.isEmpty then return done
  readBytes input n (done ++ more)

/-- The next text that the editor sends. -/
def receive (input : IO.FS.Stream) : IO (Option String) := do
  match ← readHeader input none with
  | none => return none
  | some n => return String.fromUTF8? (← readBytes input n .empty)

def send (output : IO.FS.Stream) (text : String) : IO Unit := do
  output.putStr ("Content-Length: " ++ toString text.utf8ByteSize ++ "\r\n\r\n" ++ text)
  output.flush

/-- A server with the numbers of its requests, in the order in which they wait for answers. -/
structure Service where
  server : Server
  numbers : List Nat := []
  lastNumber : Nat := 0

def emit (output : IO.FS.Stream) (s : Service) : Server.Output → IO Service
  | .sent m => do
    if m.isRequest then
      let n := s.lastNumber + 1
      send output (Server.messageText (some n) m)
      return { s with numbers := s.numbers ++ [n], lastNumber := n }
    else
      send output (Server.messageText none m)
      return s
  | .answered id r => do
    send output (Server.answerText id r)
    return s
  | .unanswered _ => return s

def handle (output : IO.FS.Stream) (s : Service) : Server.Packet → IO (Option Service)
  | .message m => do
    let files ← survey (s.server.pathsFor m)
    match { s.server with files }.receive m with
    | none => return none
    | some (server, out) =>
      let s ← out.foldlM (emit output) { s with server }
      return if server.life = .exited then none else some s
  | .answer (.number n) result =>
    match s.numbers.findIdx? (· = n.toNat) with
    | none => return some s
    | some place =>
      let s := { s with numbers := s.numbers.eraseIdx place }
      match s.server.reply place result with
      | none => return some s
      | some (server, out) => some <$> out.foldlM (emit output) { s with server }
  | .answer _ _ => return some s

/-- Serves until the editor stops. Time goes on while nothing is received. -/
partial def serve (input output : IO.FS.Stream) (next : Task (Except IO.Error (Option String)))
    (last : Nat) (s : Service) : IO Unit := do
  let now ← IO.monoMsNow
  let (server, out) := s.server.advance (now - last)
  let s ← out.foldlM (emit output) { s with server }
  if ← IO.hasFinished next then
    match next.get with
    | .ok (some text) =>
      let s ← match Server.Packet.ofText text with
        | none => pure (some s)
        | some p => handle output s p
      match s with
      | none => return
      | some s => serve input output (← IO.asTask (receive input)) now s
    | _ => return
  else
    IO.sleep 5
    serve input output next now s

/-- A server whose questions wait for the editor's answers. -/
def waitingServer : Server :=
  { run := { editor := { holds := [.configuration, .applyEdit] } } }

def isServing (args : List String) : Bool :=
  match CommandLine.Arguments.read args with
  | .ok { command := .serve, .. } => true
  | _ => false

end Program

def main (args : List String) : IO UInt32 := do
  let r := CommandLine.run (← Program.survey (Program.pathsOf args)) args
  if Program.isServing args then
    let input ← IO.getStdin
    Program.serve input (← IO.getStdout) (← IO.asTask (Program.receive input)) (← IO.monoMsNow)
      { server := Program.waitingServer }
  (← IO.getStdout).putStr r.output
  let errors ← IO.getStderr
  if let some complaint := r.complaint then errors.putStrLn complaint
  unless r.failures.isEmpty do
    errors.putStr (String.join (("" :: r.failures).map CommandLine.FileReport.line))
  return r.code.toUInt32
