namespace Considerate

structure QuickFix where
  label : String
  value : String
  id : String
  deriving DecidableEq, Repr

/-- The suggestion `value`, which stands at place `index` among those of its diagnostic. -/
def QuickFix.suggest (index : Nat) (value : String) : QuickFix :=
  ⟨"Change to `" ++ value ++ "`", value, "fix-" ++ toString index⟩

def QuickFix.ofSuggestions (values : List String) : List QuickFix :=
  values.mapIdx QuickFix.suggest

end Considerate
