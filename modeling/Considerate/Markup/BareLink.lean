import Considerate.Markup.Emphasis
import Considerate.Markup.Glyph

namespace Considerate.Markup.BareLink

/-- What has been read of the punctuation at the end of an address. -/
inductive Trail where
  | marks
  | bracket
  | ampersand
  | reference

def isTrailMark (c : Char) : Bool := "!\"')*,.:;?_~".toList.contains c

/-- Whether what comes next is punctuation up to the end of an address. -/
def trails (t : Trail) : List Glyph → Bool
  | [] =>
    match t with
    | .marks | .bracket => true
    | .ampersand | .reference => false
  | g :: gs =>
    let c := g.char
    match t with
    | .ampersand => c.isAlpha && trails .reference gs
    | .reference =>
      if c.isAlpha then trails .reference gs else c = ';' && trails .marks gs
    | .bracket =>
      if isGap g || c = '(' || c = '[' then true
      else if isTrailMark c then trails .marks gs
      else if c = '&' then trails .ampersand gs
      else if c = '<' then true
      else if c = ']' then trails .bracket gs
      else sideOf (some c) = .blank
    | .marks =>
      if isTrailMark c then trails .marks gs
      else if c = '&' then trails .ampersand gs
      else if c = '<' then true
      else if c = ']' then trails .bracket gs
      else sideOf (some c) = .blank

/-- What follows the host of an address. No underscore may be in its last two labels: `last` and
`previous` tell of those, `seen` of any character at all. -/
def afterHost (last previous seen : Bool) : List Glyph → Option (List Glyph)
  | [] => if last || previous || !seen then none else some []
  | g :: gs =>
    let c := g.char
    if c = '.' || c = '_' then
      if trails .marks (g :: gs) then if last || previous || !seen then none else some (g :: gs)
      else if c = '_' then afterHost true previous seen gs
      else afterHost false last seen gs
    else if c = '-' then afterHost last previous seen gs
    else if sideOf (some c) = .other then afterHost last previous true gs
    else if last || previous || !seen then none
    else some (g :: gs)

/-- Whether `c` may be at the end of an address and be no part of it. -/
def isPathMark (c : Char) : Bool := isTrailMark c || c = '&' || c = '<' || c = ']'

/-- What follows the path of an address, in which `opened` round brackets have been opened and
`closed` closed. -/
def afterPath (opened closed : Nat) : List Glyph → List Glyph
  | [] => []
  | g :: gs =>
    let c := g.char
    if c = '(' then afterPath (opened + 1) closed gs
    else if isPathMark c then
      let next := if c = ')' then closed + 1 else closed
      if trails .marks (g :: gs) && !(c = ')' && closed < opened) then g :: gs
      else afterPath opened next gs
    else if sideOf (some c) = .blank then g :: gs
    else afterPath opened closed gs

def startsWith (word : List Char) (gs : List Glyph) : Bool :=
  word.isPrefixOf ((spelling gs).map Char.toLower)

def mayPrecedeHost : Option Char → Bool
  | none => true
  | some c => "\t\n (*_[]~".toList.contains c

/-- What follows a web address without a scheme. -/
def afterNamed (previous : Option Char) (gs : List Glyph) : Option (List Glyph) :=
  if mayPrecedeHost previous && startsWith "www.".toList gs && 4 < gs.length then
    (afterHost false false false gs).map (afterPath 0 0)
  else none

def schemes : List (List Char) := ["http://".toList, "https://".toList]

/-- What follows a web address with its scheme. -/
def afterSchemed (previous : Option Char) (gs : List Glyph) : Option (List Glyph) :=
  match previous.any Char.isAlpha, schemes.find? (startsWith · gs) with
  | false, some scheme =>
    match gs.drop scheme.length with
    | [] => none
    | g :: rest =>
      if sideOf (some g.char) = .other && !g.char.toNat < 0x20 && g.char.toNat ≠ 0x7F then
        (afterHost false false false (g :: rest)).map (afterPath 0 0)
      else none
  | _, _ => none

/-- What follows the web address that `gs`, which follows `previous`, starts with. -/
def afterWeb (previous : Option Char) (gs : List Glyph) : Option (List Glyph) :=
  match afterSchemed previous gs with
  | some rest => some rest
  | none => afterNamed previous gs

def isMailboxPart (g : Glyph) : Bool :=
  g.char.isAlphanum || g.char = '+' || g.char = '-' || g.char = '.' || g.char = '_'

/-- Splits what stands before an at sign, last character first, into the mailbox with its scheme
and the rest. The flag is set if the scheme allows a path. -/
def mailbox (before : List Glyph) : Option (Bool × List Glyph × List Glyph) :=
  let name := before.takeWhile isMailboxPart
  let rest := before.drop name.length
  match name, rest with
  | [], _ => none
  | _, [] => some (false, name, [])
  | _, g :: more =>
    if g.char = '/' then none
    else if g.char = ':' then
      let scheme := more.takeWhile (·.char.isAlphanum)
      let written := (spelling scheme.reverse).map Char.toLower
      if written = "mailto".toList || written = "xmpp".toList then
        some (written = "xmpp".toList, name ++ g :: scheme, more.drop scheme.length)
      else some (false, name, rest)
    else some (false, name, rest)

/-- How far the host of a mail address reaches. -/
def hostLength (path : Bool) : List Glyph → Nat
  | [] => 0
  | g :: gs =>
    let c := g.char
    if c.isAlphanum || c = '-' || c = '_' || (path && c = '/') then hostLength path gs + 1
    else if c = '.' then
      match gs with
      | h :: _ => if h.char.isAlphanum then hostLength path gs + 1 else 0
      | [] => 0
    else 0

/-- The length of the host of a mail address: it holds a point and ends in a letter. -/
def mailHost (path : Bool) (gs : List Glyph) : Option Nat :=
  let host := gs.take (hostLength path gs)
  match host.getLast? with
  | none => none
  | some g => if host.any (·.char = '.') && g.char.isAlpha then some host.length else none

structure Stretch where
  linked : Bool
  glyphs : List Glyph

def plain (before : List Glyph) : List Stretch :=
  if before.isEmpty then [] else [⟨false, before.reverse⟩]

/-- The mail addresses in a text and what stands around them; `before` is what has been read
since the last one, last character first. -/
def mailsFrom (before : List Glyph) : List Glyph → List Stretch
  | [] => plain before
  | g :: gs =>
    if g.char = '@' then
      match mailbox before with
      | none => mailsFrom (g :: before) gs
      | some (path, name, rest) =>
        match mailHost path gs with
        | none => mailsFrom (g :: before) gs
        | some n =>
          plain rest ++ ⟨true, name.reverse ++ g :: gs.take n⟩ :: mailsFrom [] (gs.drop n)
    else mailsFrom (g :: before) gs
termination_by gs => gs.length
decreasing_by all_goals (simp_wf; try omega)

/-- The mail addresses in a text and what stands around them. -/
def mails (gs : List Glyph) : List Stretch := mailsFrom [] gs

end Considerate.Markup.BareLink
