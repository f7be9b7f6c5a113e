import Considerate.Text.Offset

namespace Considerate.Markup.Html

open Considerate.Text

def afterTagEnd : List Char → Option (List Char)
  | [] => none
  | c :: cs => if c = '>' then some cs else afterTagEnd cs

def startsWithName (name cs : List Char) : Bool :=
  name.isPrefixOf (cs.map Char.toLower)

/-- The white space that may follow the name in a tag. -/
def isTagBlank (c : Char) : Bool :=
  c = ' ' || c = '\t' || c = '\n' || c = '\x0c' || c = '\r'

/-- Whether `cs` starts with an opening tag of the element `name`. -/
def opens (name cs : List Char) : Bool :=
  startsWithName ('<' :: name) cs &&
    match cs.drop (name.length + 1) with
    | [] => false
    | c :: _ => c = '>' || isTagBlank c

/-- The rest of `cs` from the first closing tag of the element `name`. -/
def fromClosing (name : List Char) : List Char → Option (List Char)
  | [] => none
  | c :: cs =>
    if startsWithName ('<' :: '/' :: name) (c :: cs) then some (c :: cs) else fromClosing name cs

/-- The elements whose body is no prose. -/
def rawElements : List (List Char) := ["script".toList, "style".toList]

/-- What follows the part that is skipped at the `<` that `cs` starts with; none if it is skipped
to the end. -/
def afterSkipped (cs : List Char) : Option (List Char) :=
  match afterTagEnd cs with
  | none => none
  | some rest =>
    match rawElements.find? (opens · cs) with
    | none => some rest
    | some name =>
      match fromClosing name rest with
      | none => some rest
      | some closing => afterTagEnd closing

theorem length_afterTagEnd {cs rest : List Char} (h : afterTagEnd cs = some rest) :
    rest.length < cs.length := by
  induction cs with
  | nil => simp [afterTagEnd] at h
  | cons c cs ih =>
    simp only [afterTagEnd] at h
    split at h
    · simp_all
    · have := ih h
      simp only [List.length_cons]
      omega

theorem length_fromClosing {name cs rest : List Char} (h : fromClosing name cs = some rest) :
    rest.length ≤ cs.length := by
  induction cs with
  | nil => simp [fromClosing] at h
  | cons c cs ih =>
    simp only [fromClosing] at h
    split at h
    · simp_all
    · have := ih h
      simp only [List.length_cons]
      omega

theorem length_afterSkipped {cs rest : List Char} (h : afterSkipped cs = some rest) :
    rest.length < cs.length := by
  unfold afterSkipped at h
  split at h
  · simp at h
  · rename_i rest' h'
    have h₁ := length_afterTagEnd h'
    split at h
    · simp_all
    · split at h
      · simp_all
      · rename_i closing hc
        have h₂ := length_fromClosing hc
        have h₃ := length_afterTagEnd h
        omega

/-- The text runs of `cs`, which starts at byte `offset`. -/
def runsFrom (offset : Nat) (cs : List Char) : List Span :=
  let text := cs.takeWhile (· ≠ '<')
  let start := offset + byteSize text
  let run := if text.isEmpty then [] else [⟨offset, start⟩]
  match _h : afterSkipped (cs.dropWhile (· ≠ '<')) with
  | none => run
  | some rest =>
    run ++ runsFrom (start + (byteSize (cs.dropWhile (· ≠ '<')) - byteSize rest)) rest
termination_by cs.length
decreasing_by
  have := length_afterSkipped _h
  have := (List.dropWhile_sublist (fun c : Char => decide (c ≠ '<')) (l := cs)).length_le
  omega

/-- The text runs of an HTML document, in order. -/
def prose (cs : List Char) : List Span := runsFrom 0 cs

end Considerate.Markup.Html
