import Considerate.Decimal.Number
import Considerate.Text.Alphanumeric
import Considerate.Text.Blank

namespace Considerate.Json

open Text (isAlphanumeric isBlank)

/-- What is wrong with a text. -/
inductive Fault where
  | expectedColon
  | expectedValue
  | expectedDigit
  | expectedDigitAfterSign
  | expectedExponent
  | severalValues
  | unexpectedCloseBrace
  | unexpectedCloseBracket
  | unexpectedColon
  | unexpectedComma
  | unexpectedToken
  | unexpectedTokenInObject
  | unexpectedWord
  | unclosedArray
  | unclosedObject
  | unclosedComment
  | unclosedString
  | unknownEscape
  | escapeInDoubleQuotes
  | escapeInSingleQuotes
  | shortHexEscape
  | unpairedSurrogate (digits : String) (high : Bool)
  deriving DecidableEq, Repr

def Fault.message : Fault → String
  | .expectedColon => "Expected colon after the string or word in object property"
  | .expectedValue => "Expected value after colon in object property"
  | .expectedDigit => "Expected digit"
  | .expectedDigitAfterSign => "Expected digit following negative sign"
  | .expectedExponent => "Expected plus, minus, or digit in number literal"
  | .severalValues => "Text cannot contain more than one JSON value"
  | .unexpectedCloseBrace => "Unexpected close brace"
  | .unexpectedCloseBracket => "Unexpected close bracket"
  | .unexpectedColon => "Unexpected colon"
  | .unexpectedComma => "Unexpected comma"
  | .unexpectedToken => "Unexpected token"
  | .unexpectedTokenInObject => "Unexpected token in object"
  | .unexpectedWord => "Unexpected word"
  | .unclosedArray => "Unterminated array"
  | .unclosedObject => "Unterminated object"
  | .unclosedComment => "Unterminated comment block"
  | .unclosedString => "Unterminated string literal"
  | .unknownEscape => "Invalid escape"
  | .escapeInDoubleQuotes => "Invalid escape in double quote string"
  | .escapeInSingleQuotes => "Invalid escape in single quote string"
  | .shortHexEscape => "Expected four hex digits"
  | .unpairedSurrogate digits high =>
    "Invalid unicode escape sequence. '" ++ digits ++
      (if high then " (unpaired high surrogate)" else " (unpaired low surrogate)") ++
      "' is not a valid UTF8 character"

inductive Token where
  | openBrace
  | closeBrace
  | openBracket
  | closeBracket
  | comma
  | colon
  | text (s : String)
  | word (s : String)
  | number (written : String) (value : Json)
  | bool (b : Bool)
  | null
  | bad (f : Fault)

/-- A token and where it starts; for a fault, where that is. -/
structure Lexeme where
  token : Token
  left : Nat

/-- A part of a text and what follows it, or a fault and where it is. -/
abbrev Scanned (α : Type) := Except (Fault × Nat) (α × List Char)

def afterLine : List Char → List Char
  | [] => []
  | '\n' :: cs => '\n' :: cs
  | '\r' :: '\n' :: cs => '\r' :: '\n' :: cs
  | _ :: cs => afterLine cs

/-- What follows a block comment, once it is open. -/
def afterBlock : List Char → Option (List Char)
  | [] => none
  | '*' :: '/' :: cs => some cs
  | _ :: cs => afterBlock cs

def isHexDigit (c : Char) : Bool :=
  c.isDigit || ('a' ≤ c && c ≤ 'f') || ('A' ≤ c && c ≤ 'F')

def hexValue (c : Char) : Nat :=
  if c.isDigit then c.toNat - '0'.toNat
  else if 'a' ≤ c then c.toNat - 'a'.toNat + 10
  else c.toNat - 'A'.toNat + 10

def natOfHex (ds : List Char) : Nat := ds.foldl (fun n c => 16 * n + hexValue c) 0

def fourDigits : List Char → Option (List Char × List Char)
  | a :: b :: c :: d :: rest =>
    if isHexDigit a && isHexDigit b && isHexDigit c && isHexDigit d then
      some ([a, b, c, d], rest)
    else none
  | _ => none

/-- The character after `\u`; a character beyond the first plane takes a pair of escapes. -/
def unicodeEscape (cs : List Char) : Except Fault (Char × List Char) :=
  match fourDigits cs with
  | none => .error .shortHexEscape
  | some (ds, rest) =>
    let n := natOfHex ds
    if 0xD800 ≤ n && n < 0xDC00 then
      match rest with
      | '\\' :: 'u' :: more =>
        match fourDigits more with
        | none => .error .shortHexEscape
        | some (es, rest) =>
          let m := natOfHex es
          if 0xDC00 ≤ m && m < 0xE000 then
            .ok (Char.ofNat (0x10000 + (n - 0xD800) * 0x400 + (m - 0xDC00)), rest)
          else .error (.unpairedSurrogate (String.ofList ds) true)
      | _ => .error (.unpairedSurrogate (String.ofList ds) true)
    else if 0xDC00 ≤ n && n < 0xE000 then .error (.unpairedSurrogate (String.ofList ds) false)
    else .ok (Char.ofNat n, rest)

/-- The character that a one-letter escape stands for. -/
def simpleEscape (c : Char) : Option Char :=
  if c = 'b' then some '\x08'
  else if c = 'f' then some '\x0c'
  else if c = 'n' then some '\n'
  else if c = 'r' then some '\r'
  else if c = 't' then some '\t'
  else if c = '"' || c = '\'' || c = '\\' || c = '/' then some c
  else none

theorem length_fourDigits {cs ds rest : List Char} (h : fourDigits cs = some (ds, rest)) :
    rest.length < cs.length := by
  unfold fourDigits at h
  split at h
  · split at h
    · simp only [Option.some.injEq, Prod.mk.injEq] at h
      simp only [List.length_cons, ← h.2]
      omega
    · simp at h
  · simp at h

theorem length_unicodeEscape {cs rest : List Char} {c : Char}
    (h : unicodeEscape cs = .ok (c, rest)) : rest.length < cs.length := by
  unfold unicodeEscape at h
  split at h
  · simp at h
  · rename_i ds rest' hd
    have h₁ := length_fourDigits hd
    simp only at h
    split at h
    · split at h
      · split at h
        · simp at h
        · rename_i es rest'' he
          have h₂ := length_fourDigits he
          split at h
          · simp only [Except.ok.injEq, Prod.mk.injEq] at h
            rw [← h.2]
            simp only [List.length_cons] at h₁
            omega
          · simp at h
      · simp at h
    · split at h
      · simp at h
      · simp only [Except.ok.injEq, Prod.mk.injEq] at h
        rw [← h.2]
        exact h₁

/-- The text up to the closing quote, and what follows that. `whole` is where the string starts. -/
def stringBody (quoteMark : Char) (whole : Nat) (cs : List Char) : Scanned (List Char) :=
  match cs with
  | [] => .error (.unclosedString, whole)
  | [c] => if c = quoteMark then .ok ([], []) else .error (.unclosedString, whole)
  | c :: d :: rest =>
    if c = quoteMark then .ok ([], d :: rest)
    else if c = '\\' then
      if d = '"' && quoteMark ≠ '"' then .error (.escapeInSingleQuotes, cs.length)
      else if d = '\'' && quoteMark = '"' then .error (.escapeInDoubleQuotes, cs.length)
      else if d = 'u' then
        match _h : unicodeEscape rest with
        | .error f => .error (f, cs.length)
        | .ok (e, rest') =>
          (stringBody quoteMark whole rest').map fun (s, r) => (e :: s, r)
      else
        match simpleEscape d with
        | none => .error (.unknownEscape, cs.length)
        | some e => (stringBody quoteMark whole rest).map fun (s, r) => (e :: s, r)
    else (stringBody quoteMark whole (d :: rest)).map fun (s, r) => (c :: s, r)
termination_by cs.length
decreasing_by
  · have := length_unicodeEscape _h
    simp only [List.length_cons]
    omega
  · simp only [List.length_cons]
    omega
  · simp only [List.length_cons]
    omega

/-- A bare word, up to a blank or a colon. -/
def wordBody : List Char → Option (List Char × List Char)
  | [] => some ([], [])
  | c :: cs =>
    if isBlank c || c = ':' then some ([], c :: cs)
    else if isAlphanumeric c || c = '-' || c = '_' then
      (wordBody cs).map fun (w, r) => (c :: w, r)
    else none

/-- What follows `expected`, unless a letter or digit follows directly. -/
def afterKeyword (expected cs : List Char) : Option (List Char) :=
  if expected.isPrefixOf cs then
    match cs.drop expected.length with
    | [] => some []
    | c :: rest => if isAlphanumeric c then none else some (c :: rest)
  else none

def someDigits (cs : List Char) : Scanned (List Char) :=
  match cs.takeWhile Char.isDigit with
  | [] => .error (.expectedDigit, cs.length)
  | ds => .ok (ds, cs.dropWhile Char.isDigit)

def fractionPart : List Char → Scanned (Option (List Char))
  | '.' :: cs => (someDigits cs).map fun (ds, r) => (some ds, r)
  | cs => .ok (none, cs)

/-- The sign and digits of an exponent, whose letter is read. -/
def exponentBody (cs : List Char) : Scanned (Option (Bool × List Char)) :=
  match cs with
  | '-' :: rest => (someDigits rest).map fun (ds, r) => (some (true, ds), r)
  | '+' :: rest => (someDigits rest).map fun (ds, r) => (some (false, ds), r)
  | _ =>
    match cs.takeWhile Char.isDigit with
    | [] => .error (.expectedExponent, cs.length)
    | ds => .ok (some (false, ds), cs.dropWhile Char.isDigit)

def exponentPart : List Char → Scanned (Option (Bool × List Char))
  | 'e' :: cs => exponentBody cs
  | 'E' :: cs => exponentBody cs
  | cs => .ok (none, cs)

/-- The first digit run of a number: a zero stands alone. -/
def wholePart : List Char → Scanned (List Char)
  | '0' :: cs => .ok (['0'], cs)
  | cs =>
    match cs.takeWhile Char.isDigit with
    | [] => .error (.expectedDigitAfterSign, cs.length)
    | ds => .ok (ds, cs.dropWhile Char.isDigit)

/-- A hexadecimal number after `0x`; one that does not fit 64 bits is kept as text. -/
def hexNumber (written : List Char) (negative : Bool) (cs : List Char) : Scanned Token :=
  match cs.takeWhile isHexDigit with
  | [] => .error (.expectedDigit, cs.length)
  | ds =>
    let text := String.ofList (written ++ ds)
    let n := natOfHex ds
    let value : Json :=
      if n < 0x8000000000000000 then .int (if negative then -n else n) else .str text
    .ok (.number text value, cs.dropWhile isHexDigit)

/-- A decimal number after its sign; one that is too large is kept as text. -/
def decimalNumber (sign : List Char) (negative : Bool) (cs : List Char) : Scanned Token :=
  match wholePart cs with
  | .error e => .error e
  | .ok (whole, afterWhole) =>
    match fractionPart afterWhole with
    | .error e => .error e
    | .ok (fraction, afterFraction) =>
      match exponentPart afterFraction with
      | .error e => .error e
      | .ok (exponent, rest) =>
        let text := String.ofList (sign ++ cs.take (cs.length - rest.length))
        let value :=
          (Decimal.Notation.value ⟨negative, whole, fraction, exponent⟩).getD (.str text)
        .ok (.number text value, rest)

def unsignedNumber (sign : List Char) (negative : Bool) (cs : List Char) : Scanned Token :=
  match cs with
  | '0' :: 'x' :: rest => hexNumber (sign ++ ['0', 'x']) negative rest
  | '0' :: 'X' :: rest => hexNumber (sign ++ ['0', 'X']) negative rest
  | _ => decimalNumber sign negative cs

def number (cs : List Char) : Scanned Token :=
  match cs with
  | '-' :: rest => unsignedNumber ['-'] true rest
  | '+' :: rest => unsignedNumber ['+'] false rest
  | _ => unsignedNumber [] false cs

def keywordOrWord (cs : List Char) : Scanned Token :=
  match afterKeyword "true".toList cs, afterKeyword "false".toList cs,
    afterKeyword "null".toList cs with
  | some rest, _, _ => .ok (.bool true, rest)
  | _, some rest, _ => .ok (.bool false, rest)
  | _, _, some rest => .ok (.null, rest)
  | _, _, _ =>
    match wordBody cs with
    | some (c :: w, rest) => .ok (.word (String.ofList (c :: w)), rest)
    | _ => .error (.unexpectedToken, cs.length)

def scanToken (cs : List Char) : Scanned (Option Token) :=
  match cs with
  | [] => .ok (none, [])
  | '\x7b' :: rest => .ok (some .openBrace, rest)
  | '\x7d' :: rest => .ok (some .closeBrace, rest)
  | '[' :: rest => .ok (some .openBracket, rest)
  | ']' :: rest => .ok (some .closeBracket, rest)
  | ',' :: rest => .ok (some .comma, rest)
  | ':' :: rest => .ok (some .colon, rest)
  | '/' :: '/' :: rest => .ok (none, afterLine rest)
  | '/' :: '*' :: rest =>
    match afterBlock rest with
    | none => .error (.unclosedComment, cs.length)
    | some rest => .ok (none, rest)
  | '/' :: _ => .error (.unexpectedToken, cs.length)
  | c :: rest =>
    if c = '"' || c = '\'' then
      (stringBody c cs.length rest).map fun (s, r) => (some (.text (String.ofList s)), r)
    else if c = '-' || c = '+' || c.isDigit then (number cs).map fun (t, r) => (some t, r)
    else (keywordOrWord cs).map fun (t, r) => (some t, r)

/-- The lexemes of a text, up to the first fault. -/
def lexemes (cs : List Char) : List Lexeme :=
  let start := cs.dropWhile isBlank
  if start.isEmpty then []
  else
    match scanToken start with
    | .error (f, left) => [⟨.bad f, left⟩]
    | .ok (token, rest) =>
      let here := (token.map fun t => Lexeme.mk t start.length).toList
      if rest.length < cs.length then here ++ lexemes rest else here
termination_by cs.length

end Considerate.Json
