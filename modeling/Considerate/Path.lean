namespace Considerate.Path

/-- The names in a path. Empty names and single dots stand for nothing. -/
def names (path : String) : List String :=
  ((path.splitOn "/").filter fun n => n ≠ "" && n ≠ ".")

/-- The name of the file that a path leads to; none for a root, a bare dot or two dots. -/
def fileName (path : String) : Option String :=
  match (names path).getLast? with
  | none => none
  | some n => if n = ".." then none else some n

def splitAtLastDot (name : List Char) : Option (List Char × List Char) :=
  match name with
  | [] => none
  | c :: cs =>
    match splitAtLastDot cs with
    | some (stem, extension) => some (c :: stem, extension)
    | none => if c = '.' then some ([], cs) else none

/-- The extension of the file name: what follows its last dot, unless the name starts there. -/
def extension (path : String) : Option String :=
  match fileName path with
  | none => none
  | some n =>
    match splitAtLastDot n.toList with
    | some (_ :: _, e) => some (String.ofList e)
    | _ => none

end Considerate.Path
