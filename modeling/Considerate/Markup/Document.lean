import Considerate.Markup.Inline
import Considerate.Markup.Outline

namespace Considerate.Markup

open Text

def behindTaskBox (gs : List Glyph) : Option (List Glyph) :=
  match gs.dropWhile isGap with
  | a :: b :: c :: rest =>
    if a.char = '[' && (isGap b || b.char = 'x' || b.char = 'X') && c.char = ']' then
      match rest with
      | [] => none
      | g :: more =>
        if isLineEnd g then some (more.dropWhile isSpace)
        else if isSpace g && !(rest.dropWhile isSpace).isEmpty then some more
        else none
    else none
  | _ => none

namespace Block

def events (c : Context) : Block → Except Fault (List Event)
  | enter kind at_ => .ok [.enter kind at_]
  | exit kind at_ => .ok [.exit kind at_]
  | component (.tag t) => .ok [.tag t]
  | component (.expression s) => .ok [.leaf s]
  | prose kind span gs mayBeTask =>
    let task := if mayBeTask && c.dialect.isExtended then behindTaskBox gs else none
    match inlineEvents c task.isNone (stopOf span.stop gs) (task.getD gs) with
    | .error f => .error f
    | .ok es => .ok (.enter kind span.start :: (es ++ [.exit kind span.stop]))

def allEvents (c : Context) : List Block → Except Fault (List Event)
  | [] => .ok []
  | b :: bs =>
    match b.events c with
    | .error f => .error f
    | .ok es => (allEvents c bs).map (es ++ ·)

end Block

def Node.read (d : Dialect) (cs : List Char) : Except Fault Node :=
  let size := byteSize cs
  match Outline.ofLines d size (linesOf (glyphs cs)) with
  | .error f => .error f
  | .ok o =>
    let c : Context := { dialect := d, links := o.links, footnotes := o.footnotes }
    match Block.allEvents c o.blocks.reverse with
    | .error f => .error f
    | .ok es => Node.ofEvents size es

end Considerate.Markup
