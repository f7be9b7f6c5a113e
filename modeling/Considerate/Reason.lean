namespace Considerate

/-- What stands before the first `pattern`, and what follows it. -/
def cutAt (pattern : List Char) : List Char → List Char × Option (List Char)
  | [] => ([], if pattern.isEmpty then some [] else none)
  | c :: cs =>
    if pattern.isPrefixOf (c :: cs) then ([], some ((c :: cs).drop pattern.length))
    else
      let (before, after) := cutAt pattern cs
      (c :: before, after)

mutual

/-- The parts between backticks; a last one may be left open. -/
def backticked : List Char → List (List Char)
  | [] => []
  | c :: cs => if c = '`' then openBacktick [] cs else backticked cs

def openBacktick (done : List Char) : List Char → List (List Char)
  | [] => [done.reverse]
  | c :: cs => if c = '`' then done.reverse :: backticked cs else openBacktick (c :: done) cs

end

/-- A reason taken apart. -/
structure Reason where
  statement : String
  suggestions : List String
  deriving DecidableEq, Repr

def suggestionMark : List Char := ", use".toList

/-- Takes the text of a reason apart. A second mark ends the suggestions. -/
def Reason.ofText (text : String) : Reason :=
  match cutAt suggestionMark text.toList with
  | (statement, none) => ⟨String.ofList statement, []⟩
  | (statement, some rest) =>
    ⟨String.ofList statement, (backticked (cutAt suggestionMark rest).1).map String.ofList⟩

end Considerate
