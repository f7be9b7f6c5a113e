import Considerate.Markup.Node
import Considerate.Markup.Tag

namespace Considerate.Markup

open Text

inductive Event where
  | text (span : Span)
  | lineEnd (span : Span)
  | lineBreak (span : Span)
  | leaf (span : Span)
  | enter (kind : Kind) (at_ : Nat)
  | exit (kind : Kind) (at_ : Nat)
  | tag (t : Tag)
  deriving DecidableEq, Repr

/-- A part that is not complete. Its children are last first. -/
structure Frame where
  kind : Kind
  start : Nat
  children : List Node := []

/-- A tree in the making: the parts that are open, innermost first, over the children of the
document, and the tags that are open, innermost first. -/
structure Growth where
  frames : List Frame := []
  children : List Node := []
  tags : List Tag := []
  broken : Bool := false

namespace Growth

/-- Changes the children of the innermost part. -/
def onChildren (g : Growth) (f : List Node → List Node) : Growth :=
  match g.frames with
  | [] => { g with children := f g.children }
  | top :: frames => { g with frames := { top with children := f top.children } :: frames }

def add (g : Growth) (n : Node) : Growth := g.onChildren (n :: ·)

def addText (g : Growth) (s : Span) : Growth :=
  g.onChildren fun
    | .text t :: ns => .text ⟨t.start, s.stop⟩ :: ns
    | ns => .text s :: ns

def open_ (g : Growth) (kind : Kind) (at_ : Nat) : Growth :=
  { g with frames := { kind, start := at_ } :: g.frames }

/-- Ends the innermost part. -/
def close (g : Growth) (at_ : Nat) : Growth :=
  match g.frames with
  | [] => g
  | top :: frames =>
    { g with frames }.add (.branch top.kind ⟨top.start, at_⟩ top.children.reverse)

/-- Ends the innermost part and those around it up to one of `kind`. -/
def closeThrough (kind : Kind) (at_ : Nat) : Nat → Growth → Growth
  | 0, g => g
  | n + 1, g =>
    match g.frames with
    | [] => g
    | top :: _ =>
      if top.kind = kind then g.close at_ else closeThrough kind at_ n (g.close at_)

/-- The fault of a tag that is still open at `at_`, where a part of `kind` ends. -/
def unclosed (g : Growth) (at_ : Nat) (kind : Option Kind) : Fault :=
  match g.tags with
  | [] => .nothingToClose at_
  | t :: _ => .unclosedTag t.shown t.start at_ kind

/-- Ends a part of `kind`. A tag that was opened inside it must have been closed, except inside
the text of a link. -/
def exit (g : Growth) (kind : Kind) (at_ : Nat) : Except Fault Growth :=
  match g.frames with
  | [] => .ok g
  | top :: _ =>
    if top.kind = kind then .ok (g.close at_)
    else if kind = .link then .ok (g.closeThrough .link at_ g.frames.length)
    else .error (g.unclosed at_ (some kind))

/-- A closing tag: it must name the tag that is open, in the part where that was opened. -/
def closeTag (g : Growth) (t : Tag) (slash : Nat) : Except Fault Growth :=
  match g.tags with
  | [] => .error (.nothingToClose slash)
  | opened :: tags =>
    match t.firstAttribute, t.slash with
    | some at_, _ => .error (.attributeInClosing at_)
    | none, some at_ => .error (.slashInClosing at_)
    | none, none =>
      if opened.name = t.name then
        match g.frames with
        | [] => .error (.nothingToClose slash)
        | top :: _ =>
          if top.kind = .element then .ok ({ g with tags }.close t.stop)
          else .error (.closedInside t.shown t.start top.kind top.start)
      else .error (.wrongClosing t.shown opened.shown ⟨t.start, t.stop⟩ opened.start)

def addTag (g : Growth) (t : Tag) : Except Fault Growth :=
  match t.closing with
  | some slash => g.closeTag t slash
  | none =>
    if t.slash.isSome then .ok (g.add (.branch .element ⟨t.start, t.stop⟩ []))
    else .ok { g.open_ .element t.start with tags := t :: g.tags }

/-- The kind of the innermost part that holds the next line end. Text of a link counts as a
paragraph. -/
def holdsLineEnds (g : Growth) : Bool :=
  match g.frames with
  | [] => false
  | top :: _ => top.kind.holdsLineEnds || top.kind = .link

def step (g : Growth) : Event → Except Fault Growth
  | .text s => .ok { g.addText s with broken := false }
  | .lineEnd s =>
    if g.broken then .ok { g with broken := false }
    else .ok (if g.holdsLineEnds then g.addText s else g)
  | .lineBreak s => .ok { g.add (.leaf s) with broken := true }
  | .leaf s => .ok (g.add (.leaf s))
  | .enter kind at_ => .ok (g.open_ kind at_)
  | .exit kind at_ => g.exit kind at_
  | .tag t => g.addTag t

def run (g : Growth) : List Event → Except Fault Growth
  | [] => .ok g
  | e :: es =>
    match g.step e with
    | .ok g => g.run es
    | .error f => .error f

end Growth

/-- The tree of a document of `size` bytes from its events. -/
def Node.ofEvents (size : Nat) (es : List Event) : Except Fault Node :=
  match Growth.run {} es with
  | .error f => .error f
  | .ok g =>
    match g.frames with
    | [] => .ok (.branch .document ⟨0, size⟩ g.children.reverse)
    | _ :: _ => .error (g.unclosed size none)

end Considerate.Markup
