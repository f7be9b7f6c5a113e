import Considerate.Settings.Basic

namespace Considerate

inductive RuleKind where
  | insensitive (suggestions : List String)
  | binary (suggestions : List String)
  | profanity (sureness : Sureness)
  deriving DecidableEq, Repr

/-- A phrase of one or more lower-case words. -/
structure Rule where
  id : String
  phrase : List String
  kind : RuleKind
  deriving DecidableEq, Repr

namespace Rule

/-- The words offered instead of the phrase. -/
def suggestions (r : Rule) : List String :=
  match r.kind with
  | .insensitive s | .binary s => s
  | .profanity _ => []

/-- What is said about the phrase where it was found spelled as `actual`. -/
def reason (r : Rule) (actual : String) : String :=
  match r.kind with
  | .insensitive s | .binary s =>
    "`" ++ actual ++ "` may be insensitive, use " ++
      ", ".intercalate (s.map fun w => "`" ++ w ++ "`") ++ " instead"
  | .profanity .likely => "Don’t use `" ++ actual ++ "`, it’s profane"
  | .profanity _ => "Be careful with `" ++ actual ++ "`, it’s profane in some cases"

/-- Likely profanities are errors, all else is a warning. -/
def isFatal (r : Rule) : Bool := r.kind = .profanity .likely

def isEnabled (r : Rule) (s : Settings) : Bool :=
  s.admits r.id &&
    match r.kind with
    | .insensitive _ => true
    | .binary _ => s.noBinary
    | .profanity sureness => s.sureness.rank ≤ sureness.rank

def all : List Rule := [
  ⟨"master", ["master"], .insensitive ["primary", "main", "leader"]⟩,
  ⟨"slave", ["slave"], .insensitive ["secondary", "replica", "follower"]⟩,
  ⟨"whitelist", ["whitelist"], .insensitive ["allowlist", "passlist"]⟩,
  ⟨"blacklist", ["blacklist"], .insensitive ["denylist", "blocklist"]⟩,
  ⟨"sanity-check", ["sanity", "check"], .insensitive ["confidence check", "coherence check"]⟩,
  ⟨"dummy", ["dummy"], .insensitive ["placeholder", "sample"]⟩,
  ⟨"guys", ["guys"], .insensitive ["people", "folks", "everyone"]⟩,
  ⟨"manpower", ["manpower"], .insensitive ["workforce", "personnel"]⟩,
  ⟨"chairman", ["chairman"], .insensitive ["chair", "chairperson"]⟩,
  ⟨"mankind", ["mankind"], .insensitive ["humanity", "humankind"]⟩,
  ⟨"grandfathered", ["grandfathered"], .insensitive ["legacy"]⟩,
  ⟨"lame", ["lame"], .insensitive ["boring", "dull"]⟩,
  ⟨"cripple", ["cripple"], .insensitive ["disable", "hamper"]⟩,
  ⟨"crazy", ["crazy"], .insensitive ["wild", "baffling", "unexpected"]⟩,
  ⟨"he-she", ["he"], .binary ["they", "it"]⟩,
  ⟨"he-she", ["she"], .binary ["they", "it"]⟩,
  ⟨"his-her", ["his"], .binary ["their", "its"]⟩,
  ⟨"hers", ["hers"], .binary ["theirs"]⟩,
  ⟨"himself-herself", ["himself"], .binary ["themselves", "itself"]⟩,
  ⟨"himself-herself", ["herself"], .binary ["themselves", "itself"]⟩,
  ⟨"hell", ["hell"], .profanity .unlikely⟩,
  ⟨"damn", ["damn"], .profanity .maybe⟩,
  ⟨"crap", ["crap"], .profanity .likely⟩]

end Rule

end Considerate
