import Considerate.Proofs.Ranges
import Considerate.Proofs.Session.Closed
import Considerate.Proofs.Session.Records
import Considerate.Proofs.Session.Representation

namespace Considerate.Session

variable {s t : Session} {id k : Nat} {st next : Stage} {u : Url} {d : Document} {as : List Action}
  {a : Action}

def Given (u : Url) (text : String) (as : List Action) : Prop :=
  (∃ d, .openDocument u d ∈ as ∧ d.text = text) ∨ ∃ version, .changeText u text version ∈ as

theorem Given.along {text : String} {bs : List Action} (h : Given u text as)
    (sub : ∀ a ∈ as, a ∈ bs) : Given u text bs :=
  h.imp (fun ⟨d, hd, he⟩ => ⟨d, sub _ hd, he⟩) fun ⟨version, hv⟩ => ⟨version, sub _ hv⟩

theorem Step.opened {es : List Effect} (h : Step s a t es) (opened : t.documents.get? u = some d) :
    s.documents.get? u = some d ∨ Given u d.text [a] := by
  have opens : ∀ v e, (s.openDocument v e).documents.get? u = some d →
      s.documents.get? u = some d ∨ v = u ∧ e = d := by
    intro v e h
    by_cases hv : u = v
    · subst hv
      exact Or.inr ⟨rfl, Option.some.inj ((Keyed.get?_set_self ..).symm.trans h)⟩
    · exact Or.inl ((Keyed.get?_set_ne _ hv _).symm.trans h)
  cases h with
  | known | rest | unheard | idle | gone | invalidate => exact Or.inl opened
  | call | answer | linted => exact Or.inl (by rwa [documents_put] at opened)
  | advance id st found ready t next moves =>
    rw [documents_put] at opened
    rcases moves.registry with ⟨same, _⟩ | ⟨v, -, rfl⟩
    · exact Or.inl (same ▸ opened)
    · refine Or.inl ?_
      by_cases hv : u = v
      · subst hv
        cases (Keyed.get?_erase_self ..).symm.trans opened
      · exact (Keyed.get?_erase_ne _ hv).symm.trans opened
  | drop id st found =>
    have same : ({ s with tasks := s.tasks.erase id }.letGo id st).documents = s.documents := by
      unfold letGo
      cases st.cell? <;> cases st.pass? <;> rfl
    exact Or.inl (same ▸ opened)
  | openDocument v e =>
    refine (opens v e opened).imp_right ?_
    rintro ⟨rfl, rfl⟩
    exact Or.inl ⟨e, List.mem_singleton_self _, rfl⟩
  | changeText v text version =>
    unfold Session.changeText at opened
    cases hv : s.documents.get? v with
    | none =>
      rw [hv] at opened
      exact Or.inl opened
    | some e =>
      rw [hv] at opened
      refine (opens v _ opened).imp_right ?_
      rintro ⟨rfl, rfl⟩
      exact Or.inr ⟨version, List.mem_singleton_self _⟩
  | reload files root =>
    rw [reload_eq] at opened
    exact Or.inl opened

theorem Course.url {p : Pass} {c : Change} {plan : Plan}
    (h : Course p (.store (.change u c plan))) : p.url = u := by
  cases h <;> rfl

end Considerate.Session
