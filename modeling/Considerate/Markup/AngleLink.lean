import Considerate.Markup.Glyph

namespace Considerate.Markup.AngleLink

def isSchemePart (c : Char) : Bool := c.isAlphanum || c = '+' || c = '-' || c = '.'

def isMailboxPart (c : Char) : Bool := c.isAlphanum || "!#$%&'*+-./=?^_`\x7b|\x7d~".toList.contains c

def addressEnd : List Glyph → Option (List Glyph × List Glyph)
  | [] => none
  | g :: gs =>
    if g.char = '>' then some ([], gs)
    else if g.char.toNat ≤ 0x20 || g.char.toNat = 0x7F || g.char = '<' then none
    else (addressEnd gs).map fun (inside, rest) => (g :: inside, rest)

/-- A scheme of two to 32 characters, a colon, and an address. -/
def uri (gs : List Glyph) : Option (List Glyph × List Glyph) :=
  let scheme := gs.takeWhile fun g => isSchemePart g.char
  match gs.drop scheme.length with
  | g :: rest =>
    if g.char = ':' && 2 ≤ scheme.length && scheme.length ≤ 32 then
      (addressEnd rest).map fun (inside, rest) => (scheme ++ g :: inside, rest)
    else none
  | [] => none

/-- The rest of the labels of a host: each up to 63 characters, with no `-` at its ends. `size` is
the number of characters read of the label, `dashed` whether the last one is a dash. -/
def hostEnd (size : Nat) (dashed : Bool) : List Glyph → Option (List Glyph × List Glyph)
  | [] => none
  | g :: gs =>
    if g.char.isAlphanum then
      if size < 63 then (hostEnd (size + 1) false gs).map fun (inside, rest) => (g :: inside, rest)
      else none
    else if g.char = '-' then
      if 0 < size && size < 63 then
        (hostEnd (size + 1) true gs).map fun (inside, rest) => (g :: inside, rest)
      else none
    else if size = 0 || dashed then none
    else if g.char = '.' then (hostEnd 0 false gs).map fun (inside, rest) => (g :: inside, rest)
    else if g.char = '>' then some ([], gs)
    else none

/-- A mailbox name, an at sign, and a host. -/
def mail (gs : List Glyph) : Option (List Glyph × List Glyph) :=
  let name := gs.takeWhile fun g => isMailboxPart g.char
  match gs.drop name.length with
  | g :: rest =>
    if g.char = '@' && 0 < name.length then
      (hostEnd 0 false rest).map fun (inside, rest) => (name ++ g :: inside, rest)
    else none
  | [] => none

/-- The inside of the link in angle brackets that `gs` starts with, and what follows it. -/
def read : List Glyph → Option (List Glyph × List Glyph)
  | l :: g :: gs =>
    if l.char = '<' then
      if g.char.isAlpha then
        match uri (g :: gs) with
        | some r => some r
        | none => mail (g :: gs)
      else if g.char = '@' then none
      else mail (g :: gs)
    else none
  | _ => none

end Considerate.Markup.AngleLink
