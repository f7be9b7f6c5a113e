import Considerate.Path

namespace Considerate

/-- Why a file cannot be read as text. -/
inductive FileError where
  | notFound
  | notDirectory
  | isDirectory
  | notText
  deriving DecidableEq, Repr

def FileError.message : FileError → String
  | .notFound => "No such file or directory (os error 2)"
  | .notDirectory => "Not a directory (os error 20)"
  | .isDirectory => "Is a directory (os error 21)"
  | .notText => "stream did not contain valid UTF-8"

inductive Entry where
  | directory
  | text (content : String)
  | binary
  deriving DecidableEq, Repr

/-- The entries of a tree, each under the names that lead to it from the root. A name that leads on
to an entry is a directory. -/
structure Files where
  entries : List (List String × Entry) := []
  current : List String := []
  deriving DecidableEq, Repr

namespace Files

def find? (f : Files) (names : List String) : Option Entry :=
  if names.isPrefixOf f.current then some .directory
  else
    match f.entries.find? fun e => e.1 = names with
    | some e => some e.2
    | none => if f.entries.any fun e => names.isPrefixOf e.1 then some .directory else none

/-- Follows the parts of a path from the directory `here`. Above the root there is the root. -/
def follow (f : Files) (here : List String) : List String → Except FileError Entry
  | [] =>
    match f.find? here with
    | none => .error .notFound
    | some e => .ok e
  | part :: parts =>
    match f.find? here with
    | none => .error .notFound
    | some .directory =>
      if part = "" || part = "." then f.follow here parts
      else if part = ".." then f.follow here.dropLast parts
      else f.follow (here ++ [part]) parts
    | some _ => .error .notDirectory

def entry (f : Files) (path : String) : Except FileError Entry :=
  if path = "" then .error .notFound
  else f.follow (if path.startsWith "/" then [] else f.current) (path.splitOn "/")

def read (f : Files) (path : String) : Except FileError String :=
  match f.entry path with
  | .error e => .error e
  | .ok .directory => .error .isDirectory
  | .ok .binary => .error .notText
  | .ok (.text s) => .ok s

def isFile (f : Files) (path : String) : Bool :=
  match f.entry path with
  | .ok (.text _) | .ok .binary => true
  | _ => false

def write (f : Files) (names : List String) (e : Entry) : Files :=
  { f with entries := f.entries.filter (fun x => x.1 ≠ names) ++ [(names, e)] }

/-- Takes an entry away. -/
def delete (f : Files) (names : List String) : Files :=
  { f with entries := f.entries.filter fun x => !names.isPrefixOf x.1 }

end Files

end Considerate
