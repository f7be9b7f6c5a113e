import Considerate.Markup.Document
import Considerate.Markup.Html

namespace Considerate.Markup

open Text

/-- How a document is read. -/
inductive Profile where
  | text
  | markdown
  | mdx
  | html
  deriving DecidableEq, Repr

namespace Profile

def all : List Profile := [.text, .markdown, .mdx, .html]

def name : Profile → String
  | .text => "text"
  | .markdown => "markdown"
  | .mdx => "mdx"
  | .html => "html"

end Profile

/-- Why a document cannot be read. -/
structure Failure where
  document : List Char
  fault : Fault
  deriving DecidableEq, Repr

def Failure.message (f : Failure) : String := f.fault.message f.document

/-- The prose of a document, as stretches of its bytes in document order. -/
def Profile.prose (p : Profile) (cs : List Char) : Except Failure (List Span) :=
  match p with
  | .text => .ok [⟨0, byteSize cs⟩]
  | .html => .ok (Html.prose cs)
  | .markdown => ((Node.read .github cs).map Node.prose).mapError (Failure.mk cs)
  | .mdx => ((Node.read .component cs).map Node.prose).mapError (Failure.mk cs)

end Considerate.Markup
