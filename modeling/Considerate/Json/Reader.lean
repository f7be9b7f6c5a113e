import Considerate.Json.Lexeme

namespace Considerate.Json

/-- A value that is open around the one being read. Items and fields are held last first. -/
inductive Frame where
  | items (start : Nat) (done : List Json)
  | property (start : Nat) (done : List (String × Json)) (key : String)

/-- How far a text has been read. -/
inductive Reading where
  | empty
  | inArray (start : Nat) (done : List Json) (comma : Bool) (outer : List Frame)
  | inObject (start : Nat) (done : List (String × Json)) (comma : Bool) (outer : List Frame)
  | afterKey (start : Nat) (done : List (String × Json)) (key : String) (outer : List Frame)
  | afterColon (start : Nat) (done : List (String × Json)) (key : String) (outer : List Frame)
  | whole (value : Json)

/-- Hands a value to what is open around it. -/
def deliver (value : Json) : List Frame → Reading
  | [] => .whole value
  | .items start done :: outer => .inArray start (value :: done) true outer
  | .property start done key :: outer => .inObject start ((key, value) :: done) true outer

def beginValue (outer : List Frame) : Token → Except Fault (Nat → Reading)
  | .openBrace => .ok fun left => .inObject left [] false outer
  | .openBracket => .ok fun left => .inArray left [] false outer
  | .text s => .ok fun _ => deliver (.str s) outer
  | .number _ v => .ok fun _ => deliver v outer
  | .bool b => .ok fun _ => deliver (.bool b) outer
  | .null => .ok fun _ => deliver .null outer
  | .closeBrace => .error .unexpectedCloseBrace
  | .closeBracket => .error .unexpectedCloseBracket
  | .comma => .error .unexpectedComma
  | .colon => .error .unexpectedColon
  | .word _ => .error .unexpectedWord
  | .bad f => .error f

def Token.key? : Token → Option String
  | .text s => some s
  | .word s => some s
  | .number s _ => some s
  | _ => none

def Reading.next (r : Reading) (token : Token) (left : Nat) : Except Fault Reading :=
  match r with
  | .empty => (beginValue [] token).map fun f => f left
  | .whole _ => .error .severalValues
  | .inArray start done comma outer =>
    match token, comma with
    | .closeBracket, _ => .ok (deliver (.arr done.reverse) outer)
    | .comma, true => .ok (.inArray start done false outer)
    | t, _ => (beginValue (.items start done :: outer) t).map fun f => f left
  | .inObject start done comma outer =>
    match token, comma with
    | .closeBrace, _ => .ok (deliver (.ofFields done.reverse) outer)
    | .comma, true => .ok (.inObject start done false outer)
    | t, _ =>
      match t.key? with
      | some key => .ok (.afterKey start done key outer)
      | none => .error .unexpectedTokenInObject
  | .afterKey start done key outer =>
    match token with
    | .colon => .ok (.afterColon start done key outer)
    | _ => .error .expectedColon
  | .afterColon start done key outer =>
    (beginValue (.property start done key :: outer) token).map fun f => f left

/-- A fault of the lexeme comes before what the state makes of it. -/
def Reading.step (r : Reading) (x : Lexeme) : Except (Fault × Nat) Reading :=
  match x.token with
  | .bad f => .error (f, x.left)
  | t =>
    match r.next t x.left with
    | .error f => .error (f, x.left)
    | .ok r => .ok r

/-- What has been read when the text ends; none for a text without a value. -/
def Reading.finish : Reading → Except (Fault × Nat) (Option Json)
  | .empty => .ok none
  | .whole v => .ok (some v)
  | .inArray start _ _ _ => .error (.unclosedArray, start)
  | .inObject start _ _ _ => .error (.unclosedObject, start)
  | .afterKey .. => .error (.expectedColon, 0)
  | .afterColon .. => .error (.expectedValue, 0)

def readLexemes (xs : List Lexeme) : Except (Fault × Nat) (Option Json) :=
  match xs.foldlM Reading.step .empty with
  | .error e => .error e
  | .ok r => r.finish

/-- A fault, and its line and column counted in characters from 1. -/
structure ReadError where
  fault : Fault
  line : Nat
  column : Nat
  deriving DecidableEq, Repr

def ReadError.message (e : ReadError) : String :=
  e.fault.message ++ " on line " ++ toString e.line ++ " column " ++ toString e.column

def lineColumn (cs : List Char) : Nat × Nat :=
  cs.foldl (fun (line, column) c => if c = '\n' then (line + 1, 1) else (line, column + 1)) (1, 1)

/-- The value of a text; none for a text of blanks and comments only. -/
def read (text : String) : Except ReadError (Option Json) :=
  let cs := text.toList
  match readLexemes (lexemes cs) with
  | .ok v => .ok v
  | .error (fault, left) =>
    let (line, column) := lineColumn (cs.take (cs.length - left))
    .error ⟨fault, line, column⟩

end Considerate.Json
