import Considerate.Files
import Considerate.Json.Reader
import Considerate.Settings.Json

namespace Considerate

/-- Why settings cannot be used. -/
inductive SettingsError where
  | unreadable (cause : FileError)
  | notJson (cause : Json.ReadError)
  | wrongShape (cause : DecodeError)
  | conflicting

def SettingsError.message (e : SettingsError) : String :=
  "Configuration error: " ++
    match e with
    | .unreadable cause => "Failed to read settings: " ++ cause.message
    | .notJson cause => "Invalid JSON: " ++ cause.message
    | .wrongShape cause => "Invalid settings: " ++ cause.message
    | .conflicting => "`allow` and `deny` cannot both be set"

namespace Settings

def ofJson (j : Json) : Except SettingsError Settings :=
  match decode j with
  | .error e => .error (.wrongShape e)
  | .ok s => if s.conflicting then .error .conflicting else .ok s

/-- Settings from a text; without a value in it they are the usual ones. -/
def ofText (text : String) : Except SettingsError Settings :=
  match Json.read text with
  | .error e => .error (.notJson e)
  | .ok none => ofJson (.obj [])
  | .ok (some j) => ofJson j

/-- The names of settings files, the preferred one first. -/
def fileNames : List String := [".kindlintrc.jsonc", ".kindlintrc.json"]

/-- The path of the settings file of a directory. -/
def discover (files : Files) (directory : String) : Option String :=
  (fileNames.map fun n => directory ++ "/" ++ n).find? files.isFile

def load (files : Files) (path : String) : Except SettingsError Settings :=
  match files.read path with
  | .error e => .error (.unreadable e)
  | .ok text => ofText text

variable {s : Settings}

/-- A JSON value can be used if it is one of settings that do not contradict themselves. -/
theorem ofJson_eq_ok_iff {j : Json} :
    ofJson j = .ok s ↔ decode j = .ok s ∧ s.conflicting = false := by
  unfold ofJson
  cases decode j with
  | error e => simp
  | ok t =>
    constructor
    · intro h
      dsimp only at h
      split at h
      · cases h
      · rename_i valid
        cases h
        exact ⟨rfl, Bool.eq_false_iff.mpr valid⟩
    · rintro ⟨⟨⟩, valid⟩
      simp [valid]

/-- Settings that are loaded do not contradict themselves. -/
theorem conflicting_of_load {files : Files} {path : String} (h : load files path = .ok s) :
    s.conflicting = false := by
  unfold load at h
  split at h
  · cases h
  · unfold ofText at h
    split at h
    · cases h
    · exact (ofJson_eq_ok_iff.mp h).2
    · exact (ofJson_eq_ok_iff.mp h).2

end Settings

end Considerate
