import Considerate.Markup.Kind
import Considerate.Text.Offset

namespace Considerate.Markup

open Text

/-- Where a reader of a tag stands. -/
inductive Spot where
  | beforeName
  | beforeClosingName
  | inName
  | afterName
  | beforeMember
  | inMember
  | afterMember
  | beforeLocal
  | inLocal
  | afterLocal
  | beforeAttribute
  | inAttribute
  | afterAttribute
  | beforeLocalAttribute
  | inLocalAttribute
  | afterLocalAttribute
  | beforeValue
  | quoted (quote : Char)
  | braces (depth : Nat)
  | afterSlash
  deriving DecidableEq, Repr

/-- The name of a tag as it is shown, with its slash if it closes. -/
structure TagName where
  name : List Char
  closes : Bool := false
  deriving DecidableEq, Repr

def TagName.shown (t : TagName) : String :=
  "<" ++ (if t.closes then "/" else "") ++ String.ofList t.name ++ ">"

inductive Fault where
  /-- A character, or the end of the text, that cannot stand where it stands in a tag. -/
  | misplaced (spot : Spot) (found : Option Char) (at_ : Nat)
  | unclosedBrace (at_ : Nat)
  | lazyTag (at_ : Nat)
  | lazyExpression (at_ : Nat)
  | nothingToClose (at_ : Nat)
  | attributeInClosing (at_ : Nat)
  | slashInClosing (at_ : Nat)
  | wrongClosing (closing opening : TagName) (span : Span) (openedAt : Nat)
  | unclosedTag (tag : TagName) (openedAt at_ : Nat) (part : Option Kind)
  | closedInside (tag : TagName) (at_ : Nat) (part : Kind) (begunAt : Nat)
  deriving DecidableEq, Repr

namespace Spot

def wording : Spot → String
  | beforeName | beforeClosingName => "before name"
  | inName => "in name"
  | afterName => "after name"
  | beforeMember => "before member name"
  | inMember => "in member name"
  | afterMember => "after member name"
  | beforeLocal => "before local name"
  | inLocal => "in local name"
  | afterLocal => "after local name"
  | beforeAttribute => "before attribute name"
  | inAttribute => "in attribute name"
  | afterAttribute => "after attribute name"
  | beforeLocalAttribute => "before local attribute name"
  | inLocalAttribute => "in local attribute name"
  | afterLocalAttribute => "after local attribute name"
  | beforeValue => "before attribute value"
  | quoted _ => "in attribute value"
  | braces _ => "in expression"
  | afterSlash => "after self-closing slash"

def nameHope : String := "a character that can start a name, such as a letter, `$`, or `_`"

def namePartHope : String :=
  "a name character such as letters, digits, `$`, or `_`; whitespace before attributes; or the " ++
    "end of the tag"

def attributeHope : String :=
  "a character that can start an attribute name, such as a letter, `$`, or `_`; whitespace " ++
    "before attributes; or the end of the tag"

def attributePartHope : String :=
  "an attribute name character such as letters, digits, `$`, or `_`; `=` to initialize a value; " ++
    "whitespace before attributes; or the end of the tag"

def initialHope : String :=
  "a character that can start an attribute name, such as a letter, `$`, or `_`; `=` to " ++
    "initialize a value; or the end of the tag"

def commentNote : String := " (note: JS comments in JSX tags are not supported in MDX)"

def linkNote : String := " (note: to create a link in MDX, use `[text](url)`)"

def noteOn (cs : List Char) (note : String) (found : Option Char) : String :=
  match found with
  | none => ""
  | some c => if cs.contains c then note else ""

/-- What may stand at the spot, with a hint for what is often meant by `found`. -/
def hope (found : Option Char) : Spot → String
  | beforeName =>
    nameHope ++ noteOn ['!'] " (note: to create a comment in MDX, use `\x7b/* text */\x7d`)" found
  | beforeClosingName => nameHope ++ noteOn ['*', '/'] commentNote found
  | inName | inMember => namePartHope ++ noteOn ['@'] linkNote found
  | beforeLocal => nameHope ++ noteOn ['/'] linkNote found
  | inLocal => namePartHope
  | afterName | beforeMember | afterMember | afterLocal | beforeAttribute => attributeHope
  | inAttribute | inLocalAttribute => attributePartHope
  | afterAttribute | beforeLocalAttribute | afterLocalAttribute => initialHope
  | beforeValue =>
    "a character that can start an attribute value, such as `\"`, `'`, or `\x7b`" ++
      noteOn ['<'] (" (note: to use an element or fragment as a prop value in MDX, use " ++
        "`\x7b<element />\x7d`)") found
  | quoted '\'' => "a corresponding closing quote `'` (U+0027)"
  | quoted _ => "a corresponding closing quote `\"` (U+0022)"
  | braces _ => "a corresponding closing brace for `\x7b`"
  | afterSlash => "`>` to end the tag" ++ noteOn ['*', '/'] commentNote found

end Spot

/-- The hexadecimal digits of `n`, in capitals, at least four. -/
def codePoint (n : Nat) : String :=
  let digits := (Nat.toDigits 16 n).map Char.toUpper
  "U+" ++ String.ofList (List.replicate (4 - digits.length) '0' ++ digits)

/-- A character, or the end of the text, as it is named in reports. -/
def shownCharacter : Option Char → String
  | none => "end of file"
  | some c =>
    let code := codePoint c.toNat
    if c = '`' then "character `` ` `` (" ++ code ++ ")"
    else if '!'.toNat ≤ c.toNat && c.toNat ≤ '~'.toNat then
      "character `" ++ c.toString ++ "` (" ++ code ++ ")"
    else "character " ++ code

/-- The line and column of a byte, both from 1: a column is a byte, tabs reach to the next
stop. -/
def gridPlace (cs : List Char) (offset : Nat) : Nat × Nat :=
  go offset 1 0 cs
where
  go (left line column : Nat) : List Char → Nat × Nat
    | [] => (line, column + 1)
    | c :: cs =>
      if left = 0 then (line, column + 1)
      else if c = '\r' && cs.head? = some '\n' then go (left - 1) line column cs
      else if c = '\n' || c = '\r' then go (left - 1) (line + 1) 0 cs
      else if c = '\t' then go (left - 1) line (column + (4 - column % 4)) cs
      else go (left - c.utf8Size) line (column + c.utf8Size) cs

def shownPlace (cs : List Char) (offset : Nat) : String :=
  let (line, column) := gridPlace cs offset
  toString line ++ ":" ++ toString column

namespace Fault

def lazyHope : String :=
  "expected line to be prefixed with `>` when in a block quote, whitespace when in a list, etc"

def rule : Fault → String
  | misplaced _ none _ => "unexpected-eof"
  | misplaced _ (some _) _ => "unexpected-character"
  | unclosedBrace _ => "unexpected-eof"
  | lazyTag _ | lazyExpression _ => "unexpected-lazy"
  | nothingToClose _ => "unexpected-closing-slash"
  | attributeInClosing _ => "unexpected-attribute"
  | slashInClosing _ => "unexpected-self-closing-slash"
  | wrongClosing .. | unclosedTag .. | closedInside .. => "end-tag-mismatch"

def place (cs : List Char) : Fault → String
  | misplaced _ _ n | unclosedBrace n | lazyTag n | lazyExpression n | nothingToClose n
  | attributeInClosing n | slashInClosing n | unclosedTag _ _ n _ | closedInside _ n _ _ =>
    shownPlace cs n
  | wrongClosing _ _ span _ => shownPlace cs span.start ++ "-" ++ shownPlace cs span.stop

def reason (cs : List Char) : Fault → String
  | misplaced spot found _ =>
    "Unexpected " ++ shownCharacter found ++ " " ++ spot.wording ++ ", expected " ++
      spot.hope found
  | unclosedBrace _ =>
    "Unexpected end of file in expression, expected a corresponding closing brace for `\x7b`"
  | lazyTag _ => "Unexpected lazy line in jsx in container, " ++ lazyHope
  | lazyExpression _ => "Unexpected lazy line in expression in container, " ++ lazyHope
  | nothingToClose _ => "Unexpected closing slash `/` in tag, expected an open tag first"
  | attributeInClosing _ => "Unexpected attribute in closing tag, expected the end of the tag"
  | slashInClosing _ =>
    "Unexpected self-closing slash `/` in closing tag, expected the end of the tag"
  | wrongClosing closing opening _ openedAt =>
    "Unexpected closing tag `" ++ closing.shown ++ "`, expected corresponding closing tag for `" ++
      opening.shown ++ "` (" ++ shownPlace cs openedAt ++ ")"
  | unclosedTag tag openedAt _ part =>
    "Expected a closing tag for `" ++ tag.shown ++ "` (" ++ shownPlace cs openedAt ++ ")" ++
      match part with
      | none => ""
      | some kind => " before the end of `" ++ kind.name ++ "`"
  | closedInside tag _ part begunAt =>
    "Expected the closing tag `" ++ tag.shown ++ "` either before the start of `" ++ part.name ++
      "` (" ++ shownPlace cs begunAt ++ "), or another opening tag after that start"

def message (cs : List Char) (f : Fault) : String :=
  "Parse error: " ++ f.place cs ++ ": " ++ f.reason cs ++ " (markdown-rs:" ++ f.rule ++ ")"

end Fault

end Considerate.Markup
