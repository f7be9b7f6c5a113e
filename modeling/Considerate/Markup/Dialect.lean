namespace Considerate.Markup

inductive Dialect where
  /-- Plain markup with HTML, tables, footnotes, strikethrough and bare links. -/
  | github
  /-- Markup with tags and expressions in place of HTML and indented code. -/
  | component
  deriving DecidableEq, Repr

namespace Dialect

/-- Whether HTML, angle bracket links and indented code are known. -/
def hasHtml : Dialect → Bool
  | .github => true
  | .component => false

def hasTags : Dialect → Bool
  | .github => false
  | .component => true

/-- Whether tables, footnotes, strikethrough, tasks and bare links are known. -/
def isExtended : Dialect → Bool
  | .github => true
  | .component => false

/-- Whether a construct may stand behind `n` blanks: where indented code is known, four are too
many. -/
def allowsIndent (d : Dialect) (n : Nat) : Bool := !d.hasHtml || n < 4

end Dialect

end Considerate.Markup
