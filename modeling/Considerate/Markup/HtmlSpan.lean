import Considerate.Markup.Glyph

namespace Considerate.Markup.HtmlSpan

def afterMark (mark : List Char) : List Glyph → Option (List Glyph)
  | [] => none
  | g :: gs =>
    if mark.isPrefixOf (spelling (g :: gs)) then some ((g :: gs).drop mark.length)
    else afterMark mark gs

def afterComment (gs : List Glyph) : Option (List Glyph) :=
  match gs.dropWhile (·.char = '-') with
  | g :: rest =>
    if g.char = '>' && gs.length ≤ rest.length + 2 then some rest else afterMark "-->".toList gs
  | [] => none

def isTagPart (g : Glyph) : Bool := g.char.isAlphanum || g.char = '-'

def isAttributeStart (c : Char) : Bool := c.isAlpha || c = ':' || c = '_'

def isAttributePart (c : Char) : Bool :=
  c.isAlphanum || c = '-' || c = '.' || c = ':' || c = '_'

/-- Where a reader of an opening tag stands. -/
inductive Place where
  | atBreak
  | between
  | inName
  | afterName
  | beforeValue
  | quoted (quote : Char)
  | unquoted
  | afterSlash
  deriving DecidableEq, Repr

def afterOpening (place : Place) : List Glyph → Option (List Glyph)
  | [] => none
  | g :: gs =>
    let c := g.char
    match place with
    | .atBreak =>
      if isGap g then afterOpening .between gs
      else if c = '/' then afterOpening .afterSlash gs
      else if c = '>' then some gs
      else none
    | .between =>
      if isGap g then afterOpening .between gs
      else if c = '/' then afterOpening .afterSlash gs
      else if c = '>' then some gs
      else if isAttributeStart c then afterOpening .inName gs
      else none
    | .inName =>
      if isAttributePart c then afterOpening .inName gs
      else if isGap g then afterOpening .afterName gs
      else if c = '=' then afterOpening .beforeValue gs
      else if c = '/' then afterOpening .afterSlash gs
      else if c = '>' then some gs
      else none
    | .afterName =>
      if isGap g then afterOpening .afterName gs
      else if c = '=' then afterOpening .beforeValue gs
      else if c = '/' then afterOpening .afterSlash gs
      else if c = '>' then some gs
      else if isAttributeStart c then afterOpening .inName gs
      else none
    | .beforeValue =>
      if isGap g then afterOpening .beforeValue gs
      else if c = '"' || c = '\'' then afterOpening (.quoted c) gs
      else if c = '<' || c = '=' || c = '>' || c = '`' then none
      else afterOpening .unquoted gs
    | .quoted q => afterOpening (if c = q then .atBreak else .quoted q) gs
    | .unquoted =>
      if c = '"' || c = '\'' || c = '<' || c = '=' || c = '`' then none
      else if isGap g then afterOpening .between gs
      else if c = '/' then afterOpening .afterSlash gs
      else if c = '>' then some gs
      else afterOpening .unquoted gs
    | .afterSlash => if c = '>' then some gs else none

/-- What follows a closing tag, `</` read. -/
def afterClosing : List Glyph → Option (List Glyph)
  | [] => none
  | g :: gs =>
    if g.char.isAlpha then
      match (gs.dropWhile isTagPart).dropWhile isGap with
      | h :: rest => if h.char = '>' then some rest else none
      | [] => none
    else none

/-- What follows what starts with `<!`, those two read. -/
def afterDeclaration (gs : List Glyph) : Option (List Glyph) :=
  if "--".toList.isPrefixOf (spelling gs) then afterComment (gs.drop 2)
  else if "[CDATA[".toList.isPrefixOf (spelling gs) then afterMark "]]>".toList (gs.drop 7)
  else
    match gs with
    | [] => none
    | g :: rest => if g.char.isAlpha then afterMark [ '>' ] rest else none

/-- What follows the piece of HTML that `gs` starts with. -/
def afterHtml : List Glyph → Option (List Glyph)
  | l :: g :: gs =>
    if l.char ≠ '<' then none
    else if g.char = '!' then afterDeclaration gs
    else if g.char = '/' then afterClosing gs
    else if g.char = '?' then afterMark "?>".toList gs
    else if g.char.isAlpha then afterOpening .atBreak (gs.dropWhile isTagPart)
    else none
  | _ => none

end Considerate.Markup.HtmlSpan
