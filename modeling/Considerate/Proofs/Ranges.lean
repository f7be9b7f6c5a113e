import Considerate.Proofs.LeftmostLongest
import Considerate.Proofs.Positions

namespace Considerate

open Text Markup

variable {s : Settings} {cs : List Char} {prose : List Span} {ws : List Word} {m : Match}

theorem mem_of_mem_dropBytes {c : Char} {n : Nat} (h : c ∈ dropBytes n cs) : c ∈ cs := by
  induction cs generalizing n with
  | nil => cases h
  | cons d cs ih =>
    rw [dropBytes] at h
    split at h
    · exact h
    · exact List.mem_cons_of_mem d (ih h)

theorem mem_of_mem_takeBytes {c : Char} {n : Nat} (h : c ∈ takeBytes n cs) : c ∈ cs := by
  induction cs generalizing n with
  | nil => cases h
  | cons d cs ih =>
    rw [takeBytes] at h
    split at h
    · rcases List.mem_cons.mp h with rfl | h
      · exact List.mem_cons_self
      · exact List.mem_cons_of_mem d (ih h)
    · cases h

theorem exists_site (h : m ∈ matchesIn s.rules cs prose) : ∃ site : Site,
    m = site.matched (stretchWords cs prose site.stretch) ∧ site.rule ∈ s.rules ∧
      site.rule.matchesAt ((stretchWords cs prose site.stretch).drop site.first) = true := by
  rw [matchesIn_eq] at h
  obtain ⟨k, _, hm⟩ := List.mem_flatMap.mp h
  have proper : ∀ r ∈ s.rules, r.phrase ≠ [] := fun _ hr => phrase_ne_nil_of_rules hr
  obtain ⟨found, takes, scanned⟩ := exists_takes proper k (stretchWords cs prose k) 0
  rw [List.drop_zero] at scanned
  rw [scanned] at hm
  obtain ⟨site, hs, rfl⟩ := List.mem_map.mp hm
  obtain ⟨_, rfl, longest⟩ := takes.sound site hs
  obtain ⟨enabled, matched, _⟩ := of_longestMatch longest
  exact ⟨site, rfl, enabled, matched⟩

/-- A match is as long as its text, which is a part of the document's. -/
theorem text_of_mem (h : m ∈ matchesIn s.rules cs prose) :
    m.stop = m.start + byteSize m.text ∧ ∀ c ∈ m.text, c ∈ cs := by
  obtain ⟨site, rfl, enabled, matched⟩ := exists_site h
  have laid : ∃ at_ text, Laid at_ text (stretchWords cs prose site.stretch) ∧
      ∀ c ∈ text, c ∈ cs := by
    unfold stretchWords
    split
    · exact ⟨0, [], .nil .., by simp⟩
    · exact ⟨_, _, laid_words .., fun c hc => mem_of_mem_dropBytes (mem_of_mem_takeBytes hc)⟩
  obtain ⟨at_, text, laid, sub⟩ := laid
  obtain ⟨skipped, rest, rfl, _, stop⟩ := laid.matched site (phrase_ne_nil_of_rules enabled)
    (Rule.length_le_of_matchesAt matched)
  exact ⟨stop, fun c hc => sub c (by simp [hc])⟩

theorem Rule.letters_phrase {r : Rule} (h : r ∈ Rule.all) :
    ∀ p ∈ r.phrase, p.toList ≠ [] ∧ ∀ c ∈ p.toList, c.isLower = true := by
  have h' : ∀ r ∈ Rule.all, ∀ p ∈ r.phrase,
      p.toList ≠ [] ∧ p.toList.all Char.isLower = true := by
    decide +kernel
  intro p hp
  exact ⟨(h' r h p hp).1, List.all_eq_true.mp (h' r h p hp).2⟩

theorem exists_visible (h : m ∈ matchesIn s.rules cs prose) : ∃ c ∈ m.text, c ≠ '\n' := by
  obtain ⟨hr, spelled, _⟩ := of_mem_matchesIn h
  have ne := phrase_ne_nil_of_rules hr
  have letters := Rule.letters_phrase (mem_all_of_rules hr)
  unfold Match.text
  cases hw : m.words with
  | nil =>
    rw [hw] at spelled
    exact (ne (List.forall₂_nil_right_iff.mp spelled)).elim
  | cons w ws =>
    rw [hw] at spelled
    obtain ⟨p, hp, hs⟩ := exists_left_of_mem spelled List.mem_cons_self
    obtain ⟨hne, lower⟩ := letters p hp
    rw [Word.spells, beq_iff_eq] at hs
    obtain ⟨c, hc⟩ := List.exists_mem_of_ne_nil _ hne
    rw [← hs] at hc
    obtain ⟨d, hd, rfl⟩ := List.mem_map.mp hc
    refine ⟨d, List.mem_append_left _ hd, ?_⟩
    rintro rfl
    have small := lower _ (hs ▸ hc)
    revert small
    decide

theorem exists_places {message : Message} (small : byteSize cs < UInt32.size)
    (h : m ∈ matchesIn s.rules cs prose) (hm : m.message cs = some message) :
    ∃ p q, placeAt cs m.start = some p ∧ placeAt cs m.stop = some q ∧ Ends p q ∧
      message.Spans p q := by
  obtain ⟨c, hc, visible⟩ := exists_visible h
  obtain ⟨stop, sub⟩ := text_of_mem h
  have pos : 0 < byteSize m.text :=
    Nat.lt_of_le_of_lt (Nat.zero_le _) (count_lt_byteSize hc visible)
  unfold Match.message at hm
  split at hm
  · rename_i p q hp hq
    refine ⟨p, q, hp, hq, ends_of_places hp hq (by omega) small (sub c hc) visible, ?_⟩
    cases hm
    cases m.rule.isFatal <;> exact ⟨rfl, rfl, rfl⟩
  · cases hm

end Considerate
