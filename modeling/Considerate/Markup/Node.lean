import Considerate.Markup.Kind
import Considerate.Text.Offset

namespace Considerate.Markup

open Text

inductive Node where
  | text (span : Span)
  /-- A part that holds no text: code, HTML, an image, an expression. -/
  | leaf (span : Span)
  | branch (kind : Kind) (span : Span) (children : List Node)
  deriving Repr

namespace Node

def span : Node → Span
  | text s => s
  | leaf s => s
  | branch _ s _ => s

mutual

/-- The stretches of the text nodes, in document order. -/
def prose : Node → List Span
  | text s => [s]
  | leaf _ => []
  | branch _ _ children => proseAll children

def proseAll : List Node → List Span
  | [] => []
  | n :: ns => n.prose ++ proseAll ns

end

end Node

end Considerate.Markup
