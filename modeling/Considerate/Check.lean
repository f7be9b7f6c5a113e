import Considerate.Markup.Profile
import Considerate.Match
import Considerate.Message
import Considerate.Settings.Load
import Considerate.Text.Place

namespace Considerate

open Text Markup

def Settings.rules (s : Settings) : List Rule := Rule.all.filter (·.isEnabled s)

/-- A place as a point whose line and column are known. -/
def Point.ofPlace (p : Place) : Point := ⟨some (.ofNat p.line), some (.ofNat p.column)⟩

/-- The matches in the stretches of prose, each stretch by itself. -/
def matchesIn (rules : List Rule) (cs : List Char) (prose : List Span) : List Match :=
  prose.flatMap fun s => scan rules (words s.start (s.slice cs))

/-- The message on a match, if its ends have places in the document. -/
def Match.message (cs : List Char) (m : Match) : Option Message :=
  match placeAt cs m.start, placeAt cs m.stop with
  | some start, some stop =>
    let message := Message.spanning m.rule.id (m.rule.reason (String.ofList m.text))
      (.ofPlace start) (.ofPlace stop)
    some (if m.rule.isFatal then { message with fatal := some true } else message)
  | _, _ => none

/-- Why a document cannot be checked. -/
inductive CheckError where
  /-- The settings both leave out rules and keep rules. -/
  | conflictingSettings
  | unreadable (failure : Failure)
  deriving DecidableEq, Repr

def CheckError.message : CheckError → String
  | .conflictingSettings => SettingsError.conflicting.message
  | .unreadable failure => failure.message

/-- The messages on a document, in document order. -/
def check (s : Settings) (profile : Profile) (document : String) :
    Except CheckError (List Message) :=
  if s.conflicting then .error .conflictingSettings
  else
    match profile.prose document.toList with
    | .error f => .error (.unreadable f)
    | .ok prose =>
      .ok ((matchesIn s.rules document.toList prose).filterMap (Match.message document.toList))

end Considerate
