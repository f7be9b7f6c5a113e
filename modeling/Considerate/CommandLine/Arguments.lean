namespace Considerate.CommandLine

/-- How the results are printed. -/
inductive Format where
  | text
  | json
  deriving DecidableEq, Repr

def Format.ofName : String → Option Format
  | "text" => some .text
  | "json" => some .json
  | _ => none

inductive Command where
  | lint (files : List String) (format : Format)
  | serve
  deriving DecidableEq, Repr

structure Arguments where
  command : Command
  config : Option String := none
  verbose : Bool := false
  deriving DecidableEq, Repr

/-- Why the arguments cannot be used. -/
inductive UsageError where
  | noCommand
  | unknownCommand (name : String)
  | unexpected (argument : String)
  | noValue (option : String)
  | badValue (option value : String)
  | repeated (option : String)
  | noFiles
  deriving DecidableEq, Repr

def UsageError.message : UsageError → String
  | noCommand => "a command is needed: lint or lsp"
  | unknownCommand name => "unknown command '" ++ name ++ "'"
  | unexpected argument => "unexpected argument '" ++ argument ++ "'"
  | noValue option => "a value is needed for " ++ option
  | badValue option value => "invalid value '" ++ value ++ "' for " ++ option
  | repeated option => option ++ " is given twice"
  | noFiles => "no files to lint"

/-- Why the arguments are not read to their end. -/
inductive Stop where
  | wrong (e : UsageError)
  | version
  | help
  deriving DecidableEq, Repr

/-- The part of the arguments that is read: what stands before the command, or belongs to it. -/
inductive Part where
  | root
  | lint
  | serve
  deriving DecidableEq, Repr

/-- An option by its meaning. -/
inductive Switch where
  | config
  | verbose
  | format
  | version
  | help
  deriving DecidableEq, Repr

namespace Switch

def name : Switch → String
  | config => "config"
  | verbose => "verbose"
  | format => "format"
  | version => "version"
  | help => "help"

def letter : Switch → Char
  | config => 'c'
  | verbose => 'v'
  | format => 'f'
  | version => 'V'
  | help => 'h'

def takesValue : Switch → Bool
  | config | format => true
  | verbose | version | help => false

def written (o : Switch) : String := "--" ++ o.name

end Switch

def Part.options : Part → List Switch
  | root => [.config, .verbose, .version, .help]
  | lint => [.config, .verbose, .format, .help]
  | serve => [.config, .verbose, .help]

structure Given where
  config : Option String := none
  verbose : Bool := false
  format : Option Format := none
  files : List String := []
  deriving DecidableEq, Repr

namespace Given

def setValue (g : Given) (o : Switch) (value : String) : Except Stop Given :=
  match o with
  | .config =>
    if g.config.isSome then .error (.wrong (.repeated o.written))
    else if value.isEmpty then .error (.wrong (.noValue o.written))
    else .ok { g with config := some value }
  | .format =>
    if g.format.isSome then .error (.wrong (.repeated o.written))
    else
      match Format.ofName value with
      | none => .error (.wrong (.badValue o.written value))
      | some f => .ok { g with format := some f }
  | _ => .error (.wrong (.unexpected value))

/-- Takes an option without a value. -/
def setFlag (g : Given) : Switch → Except Stop Given
  | .verbose =>
    if g.verbose then .error (.wrong (.repeated "--verbose")) else .ok { g with verbose := true }
  | .version => .error .version
  | .help => .error .help
  | o => .error (.wrong (.noValue o.written))

def addFile (g : Given) (path : String) : Except Stop Given :=
  if path.isEmpty then .error (.wrong (.unexpected path))
  else .ok { g with files := g.files ++ [path] }

def addFiles (g : Given) : List String → Except Stop Given
  | [] => .ok g
  | path :: paths =>
    match g.addFile path with
    | .error e => .error e
    | .ok g => g.addFiles paths

end Given

/-- Takes the letters after a dash. The last option may still want a value. -/
def readLetters (part : Part) (g : Given) : List Char → Except Stop (Given × Option Switch)
  | [] => .ok (g, none)
  | c :: cs =>
    match part.options.find? fun o => o.letter = c with
    | none => .error (.wrong (.unexpected (String.ofList ['-', c])))
    | some o =>
      if o.takesValue then
        match cs with
        | [] => .ok (g, some o)
        | '=' :: value => (g.setValue o (String.ofList value)).map fun g => (g, none)
        | value => (g.setValue o (String.ofList value)).map fun g => (g, none)
      else
        match g.setFlag o with
        | .error e => .error e
        | .ok g => readLetters part g cs

/-- Takes what stands after two dashes: a name, or a name and a value with `=` between them. -/
def readName (part : Part) (g : Given) (cs : List Char) : Except Stop (Given × Option Switch) :=
  let name := String.ofList (cs.takeWhile (· ≠ '='))
  let rest := cs.dropWhile (· ≠ '=')
  match part.options.find? fun o => o.name = name with
  | none => .error (.wrong (.unexpected ("--" ++ name)))
  | some o =>
    match rest with
    | [] => if o.takesValue then .ok (g, some o) else (g.setFlag o).map fun g => (g, none)
    | _ :: value =>
      if o.takesValue then (g.setValue o (String.ofList value)).map fun g => (g, none)
      else .error (.wrong (.unexpected (String.ofList value)))

/-- Whether an argument is a word: neither an option nor a double dash. -/
def isWord (argument : String) : Bool := argument = "-" || !argument.startsWith "-"

/-- Takes an argument that is no word and no double dash. -/
def readOption (part : Part) (g : Given) (argument : String) :
    Except Stop (Given × Option Switch) :=
  match argument.toList with
  | '-' :: '-' :: cs => readName part g cs
  | _ :: cs => readLetters part g cs
  | [] => .ok (g, none)

/-- What has been read of a part, and at the root the command with its arguments. -/
structure Reading where
  given : Given
  command : Option (String × List String) := none

/-- Reads a part. At the root it ends before the first word. -/
def readPart (part : Part) (g : Given) : List String → Except Stop Reading
  | [] => .ok { given := g }
  | a :: rest =>
    if a = "--" then
      match part, rest with
      | .lint, paths => (g.addFiles paths).map fun g => { given := g }
      | _, [] => .ok { given := g }
      | _, b :: _ => .error (.wrong (.unexpected b))
    else if isWord a then
      match part with
      | .root => .ok { given := g, command := some (a, rest) }
      | .lint =>
        match g.addFile a with
        | .error e => .error e
        | .ok g => readPart part g rest
      | .serve => .error (.wrong (.unexpected a))
    else
      match readOption part g a with
      | .error e => .error e
      | .ok (g, none) => readPart part g rest
      | .ok (g, some o) =>
        match rest with
        | [] => .error (.wrong (.noValue o.written))
        | b :: rest =>
          if isWord b then
            match g.setValue o b with
            | .error e => .error e
            | .ok g => readPart part g rest
          else .error (.wrong (.noValue o.written))

/-- Puts together what stands before a command and what belongs to it. -/
def assemble (before after : Given) (c : Command) : Arguments where
  command := c
  config := after.config.or before.config
  verbose := after.verbose || before.verbose

def Arguments.read (args : List String) : Except Stop Arguments :=
  match readPart .root {} args with
  | .error e => .error e
  | .ok r =>
    match r.command with
    | none => .error (.wrong .noCommand)
    | some ("lint", rest) =>
      match readPart .lint {} rest with
      | .error e => .error e
      | .ok l =>
        if l.given.files.isEmpty then .error (.wrong .noFiles)
        else
          let format := l.given.format.getD .text
          .ok (assemble r.given l.given (.lint l.given.files format))
    | some ("lsp", rest) =>
      match readPart .serve {} rest with
      | .error e => .error e
      | .ok l => .ok (assemble r.given l.given .serve)
    | some ("help", _) => .error .help
    | some (name, _) => .error (.wrong (.unknownCommand name))

end Considerate.CommandLine
