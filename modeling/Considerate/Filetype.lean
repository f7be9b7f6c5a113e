import Considerate.Markup.Profile
import Considerate.Path

namespace Considerate

open Markup (Profile)

inductive Filetype where
  | plainText
  | markdown
  | mdx
  | html
  | latex
  | gitCommit
  | bbCode
  deriving DecidableEq, Repr

namespace Filetype

def name : Filetype → String
  | .plainText => "plaintext"
  | .markdown => "markdown"
  | .mdx => "mdx"
  | .html => "html"
  | .latex => "latex"
  | .gitCommit => "gitcommit"
  | .bbCode => "bbcode"

/-- The file type of an editor's language; what is not known is plain text. -/
def ofLanguage (language : String) : Filetype :=
  match language with
  | "markdown" => .markdown
  | "mdx" => .mdx
  | "html" => .html
  | "latex" => .latex
  | "git-commit" => .gitCommit
  | "gitcommit" => .gitCommit
  | "bbcode" => .bbCode
  | _ => .plainText

/-- The file type of a lower-case file name extension. -/
def ofExtension (extension : String) : Filetype :=
  match extension with
  | "md" => .markdown
  | "markdown" => .markdown
  | "mdown" => .markdown
  | "mkdn" => .markdown
  | "mkd" => .markdown
  | "mdx" => .mdx
  | "html" => .html
  | "htm" => .html
  | "tex" => .latex
  | "latex" => .latex
  | "bbcode" => .bbCode
  | _ => .plainText

/-- The file type of a path, told from its extension in any letter case. -/
def ofPath (path : String) : Filetype :=
  if Path.fileName path = some "COMMIT_EDITMSG" then .gitCommit
  else
    match Path.extension path with
    | none => .plainText
    | some e => ofExtension (String.ofList (e.toList.map Char.toLower))

def profile : Filetype → Profile
  | .markdown => .markdown
  | .mdx => .mdx
  | .html => .html
  | _ => .text

end Filetype

end Considerate
