import Considerate.Decimal.Shortest
import Considerate.Json.Basic

namespace Considerate.Json

def hexDigit (n : Nat) : Char := (Nat.digitChar n)

/-- A character inside quotes: quotes, backslashes and control characters are escaped. -/
def quoteChar (c : Char) : List Char :=
  if c = '"' then ['\\', '"']
  else if c = '\\' then ['\\', '\\']
  else if c = '\n' then ['\\', 'n']
  else if c = '\r' then ['\\', 'r']
  else if c = '\t' then ['\\', 't']
  else if c = '\x08' then ['\\', 'b']
  else if c = '\x0c' then ['\\', 'f']
  else if c.toNat < 0x20 then
    ['\\', 'u', '0', '0', hexDigit (c.toNat / 16), hexDigit (c.toNat % 16)]
  else [c]

def quote (s : String) : List Char := '"' :: s.toList.flatMap quoteChar ++ ['"']

def scalar : Json → List Char
  | .null => "null".toList
  | .bool true => "true".toList
  | .bool false => "false".toList
  | .int n => (toString n).toList
  | .float f => (Decimal.text f).toList
  | .str s => quote s
  | _ => []

mutual

/-- The text of a value on one line, without blanks. -/
def print : Json → List Char
  | .arr items => '[' :: printItems items ++ [']']
  | .obj fields => '\x7b' :: printFields fields ++ ['\x7d']
  | .null => scalar .null
  | .bool b => scalar (.bool b)
  | .int n => scalar (.int n)
  | .float f => scalar (.float f)
  | .str s => scalar (.str s)

def printItems : List Json → List Char
  | [] => []
  | [v] => print v
  | v :: vs => print v ++ ',' :: printItems vs

def printFields : List (String × Json) → List Char
  | [] => []
  | [(k, v)] => quote k ++ ':' :: print v
  | (k, v) :: fs => quote k ++ ':' :: (print v ++ ',' :: printFields fs)

end

def newLine (level : Nat) : List Char := '\n' :: List.replicate (2 * level) ' '

mutual

/-- The indented text of a value that starts on a line of the given level. -/
def indented (level : Nat) : Json → List Char
  | .arr [] => ['[', ']']
  | .arr (v :: vs) => '[' :: indentedItems (level + 1) (v :: vs) ++ newLine level ++ [']']
  | .obj [] => ['\x7b', '\x7d']
  | .obj (f :: fs) =>
    '\x7b' :: indentedFields (level + 1) (f :: fs) ++ newLine level ++ ['\x7d']
  | .null => scalar .null
  | .bool b => scalar (.bool b)
  | .int n => scalar (.int n)
  | .float f => scalar (.float f)
  | .str s => scalar (.str s)

def indentedItems (level : Nat) : List Json → List Char
  | [] => []
  | [v] => newLine level ++ indented level v
  | v :: vs => newLine level ++ indented level v ++ ',' :: indentedItems level vs

def indentedFields (level : Nat) : List (String × Json) → List Char
  | [] => []
  | [(k, v)] => newLine level ++ quote k ++ ':' :: ' ' :: indented level v
  | (k, v) :: fs =>
    newLine level ++ quote k ++ ':' :: ' ' :: (indented level v ++ ',' :: indentedFields level fs)

end

/-- The text of a value on one line. -/
def compact (j : Json) : String := String.ofList (print j)

/-- The text of a value over several lines. -/
def pretty (j : Json) : String := String.ofList (indented 0 j)

end Considerate.Json
