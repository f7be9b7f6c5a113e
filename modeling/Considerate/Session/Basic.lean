import Considerate.Session.Cells
import Considerate.Session.Stage
import Considerate.Settings.Load

namespace Considerate

structure Session where
  documents : Keyed Url Document := {}
  current : Option Url := none
  workspace : Option Settings := none
  cells : Cells := {}
  schedule : Schedule := {}
  store : Store := {}
  turns : Turns := {}
  lastNumber : UInt64 := 0
  tasks : Keyed Nat Stage := {}

namespace Session

def isOpen (s : Session) (u : Url) : Bool := s.documents.contains u

def openDocument (s : Session) (u : Url) (d : Document) : Session :=
  { s with documents := s.documents.set u d, current := some u }

def changeText (s : Session) (u : Url) (text : String) (version : Int32) : Option Session :=
  match s.documents.get? u with
  | none => none
  | some d => some (s.openDocument u { d with text, version })

/-- Forgets the settings of a document, or of all. -/
def invalidate (s : Session) (u : Option Url) : Session := { s with cells := s.cells.forget u }

/-- Takes the settings from the file of the workspace. Without a file there are none; a file that
cannot be used changes nothing. -/
def reload (s : Session) (files : Files) (root : String) : Session :=
  match Settings.discover files root with
  | none => { s with workspace := none }
  | some path =>
    match Settings.load files path with
    | .ok settings => { s with workspace := some settings }
    | .error _ => s

/-- Forgets an open document, up to what is stored for it. -/
def forget (s : Session) (u : Url) : Session :=
  { s with
    schedule := s.schedule.cancel u
    documents := s.documents.erase u
    cells := s.cells.forget (some u)
    current := if s.current = some u then none else s.current }

/-- The settings that an answer of the editor amounts to: its own if they can be used, else those
of the workspace. -/
def settingsFrom (s : Session) (answer : Option Json) : Settings :=
  let fallback := s.workspace.getD {}
  match answer with
  | none => fallback
  | some .null => fallback
  | some j =>
    match Settings.ofJson j with
    | .ok settings => settings
    | .error _ => fallback

def view (s : Session) (u : Url) : View := ⟨s.store.contains u, s.store.findings u⟩

def readPart (s : Session) (u : Url) (v : View) : Part → View
  | .presence => { v with contains := s.store.contains u }
  | .diagnostics =>
    { v with findings := { v.findings with diagnostics := (s.store.findings u).diagnostics } }
  | .fixes => { v with findings := { v.findings with fixes := (s.store.findings u).fixes } }
  | .artifact =>
    { v with findings := { v.findings with artifact := (s.store.findings u).artifact } }

end Session

end Considerate
