import Considerate.Markup.HtmlSpan

namespace Considerate.Markup

/-- What a block of HTML starts with, which settles where it ends. -/
inductive HtmlBlock where
  | raw
  | comment
  | instruction
  | declaration
  | data
  | basic
  | complete
  deriving DecidableEq, Repr

namespace HtmlBlock

def rawNames : List String := ["pre", "script", "style", "textarea"]

def blockNames : List String :=
  ["address", "article", "aside", "base", "basefont", "blockquote", "body", "caption", "center",
    "col", "colgroup", "dd", "details", "dialog", "dir", "div", "dl", "dt", "fieldset",
    "figcaption", "figure", "footer", "form", "frame", "frameset", "h1", "h2", "h3", "h4", "h5",
    "h6", "head", "header", "hr", "html", "iframe", "legend", "li", "link", "main", "menu",
    "menuitem", "nav", "noframes", "ol", "optgroup", "option", "p", "param", "search", "section",
    "summary", "table", "tbody", "td", "tfoot", "th", "thead", "title", "tr", "track", "ul"]

/-- Whether `gs` ends with the tag whose rest is given. -/
def endsLine (rest : Option (List Glyph)) : Bool :=
  match rest with
  | none => false
  | some rest => isBlankLine rest

def ofTag (interrupting closing : Bool) (tag name : List Glyph) : Option HtmlBlock :=
  let chars := name.takeWhile HtmlSpan.isTagPart
  let rest := name.drop chars.length
  let word := String.ofList ((spelling chars).map Char.toLower)
  let slash := rest.head?.any (·.char = '/')
  let bounded :=
    match rest with
    | [] => true
    | g :: _ => isGap g || g.char = '/' || g.char = '>'
  if !name.head?.any (·.char.isAlpha) || !bounded then none
  else if !closing && !slash && rawNames.contains word then some raw
  else if blockNames.contains word then
    if slash && !(rest.drop 1).head?.any (·.char = '>') then none else some basic
  else if !interrupting && endsLine (HtmlSpan.afterHtml (body tag)) then some complete
  else none

/-- The block that starts with `gs`. A block of any tag cannot interrupt a paragraph. -/
def start (interrupting : Bool) (gs : List Glyph) : Option HtmlBlock :=
  match gs with
  | l :: g :: rest =>
    if l.char ≠ '<' then none
    else if g.char = '!' then
      if "--".toList.isPrefixOf (spelling rest) then some comment
      else if "[CDATA[".toList.isPrefixOf (spelling rest) then some data
      else if rest.head?.any (·.char.isAlpha) then some declaration
      else none
    else if g.char = '?' then some instruction
    else if g.char = '/' then ofTag interrupting true gs rest
    else ofTag interrupting false gs (g :: rest)
  | _ => none

def holds (mark : List Char) : List Char → Bool
  | [] => mark.isEmpty
  | c :: cs => mark.isPrefixOf (c :: cs) || holds mark cs

/-- The texts that end a block on their line. -/
def marks : HtmlBlock → List String
  | raw => rawNames.map fun n => "</" ++ n ++ ">"
  | comment => ["-->"]
  | instruction => ["?>"]
  | declaration => [">"]
  | data => ["]]>"]
  | basic | complete => []

def endsWith (b : HtmlBlock) (line : Line) : Bool :=
  b.marks.any fun m => holds m.toList ((spelling line).map Char.toLower)

def endsBefore (b : HtmlBlock) (line : Line) : Bool :=
  (b = basic || b = complete) && isBlankLine line

end HtmlBlock

end Considerate.Markup
