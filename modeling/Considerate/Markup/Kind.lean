namespace Considerate.Markup

/-- A part that holds other parts. -/
inductive Kind where
  | document
  | quote
  | item
  | footnote
  | paragraph
  | heading
  /-- A heading above a line of equals signs or dashes. -/
  | underlinedHeading
  | cell
  | emphasis
  | strong
  | deleted
  | link
  | element
  deriving DecidableEq, Repr

namespace Kind

def holdsLineEnds : Kind → Bool
  | .paragraph | .heading | .underlinedHeading | .emphasis | .strong | .deleted => true
  | _ => false

def name : Kind → String
  | .document => "Document"
  | .quote => "BlockQuote"
  | .item => "ListItem"
  | .footnote => "GfmFootnoteDefinition"
  | .paragraph => "Paragraph"
  | .heading => "HeadingAtx"
  | .underlinedHeading => "HeadingSetext"
  | .cell => "GfmTableCell"
  | .emphasis => "Emphasis"
  | .strong => "Strong"
  | .deleted => "GfmStrikethrough"
  | .link => "Link"
  | .element => "MdxJsxTextTag"

end Kind

end Considerate.Markup
