import Considerate.Proofs.Html
import Considerate.Proofs.Mending

namespace Considerate

open Text Markup

/-- The second text is the first one, mended where only one word is offered for what was found. What
is found in it is what was found besides. -/
structure MendsTo (at_ : Nat) (cs cs' : List Char) (found found' : List Match) : Prop where
  woven : Woven at_ cs cs' (found.filterMap Match.patch?)
  said : found'.map Match.said = (found.filter (·.rule.only?.isNone)).map Match.said

variable {at_ : Nat} {a a' b b' cs cs' : List Char} {found found' later later' : List Match}

theorem MendsTo.refl (at_ : Nat) (cs : List Char) : MendsTo at_ cs cs [] [] := ⟨.refl .., rfl⟩

theorem MendsTo.append (h : MendsTo at_ a a' found found')
    (h' : MendsTo (at_ + byteSize a) b b' later later') :
    MendsTo at_ (a ++ b) (a' ++ b') (found ++ later) (found' ++ later') where
  woven := by
    rw [List.filterMap_append]
    exact h.woven.append h'.woven
  said := by
    rw [List.map_append, List.filter_append, List.map_append, h.said, h'.said]

/-- What is found in one stretch of prose. -/
theorem mendsTo_words (keep : Rule → Bool) (offset offset' : Nat) (text : List Char) :
    MendsTo offset text (mended (Rule.all.filter keep) text)
      (scan (Rule.all.filter keep) (words offset text))
      (scan (Rule.all.filter keep) (words offset' (mended (Rule.all.filter keep) text))) where
  woven := by
    rw [patches_scan]
    exact woven_words (fun _ hr => mem_all_of_mem_filter hr) offset text
  said := by
    rw [said_scan_mends (mends_words (fun _ hr => mem_all_of_mem_filter hr) offset offset' text),
      scan_filter, scan_filter, List.filter_filter]
    simp only [Bool.and_comm]

/-- Mending brings letters only into a text. -/
theorem not_mem_mended (keep : Rule → Bool) {c : Char} (h : c ∉ cs) (hc : c.isAlpha = false) :
    c ∉ mended (Rule.all.filter keep) cs := by
  intro hm
  obtain ⟨t, ht, hct⟩ := List.mem_flatten.mp hm
  obtain ⟨s, hs, rfl⟩ := List.mem_map.mp ht
  rcases mend_cases (fun _ hr => mem_all_of_mem_filter hr) s with same | ⟨_, latin⟩
  · rw [same] at hct
    exact h (flatten_segments cs ▸ List.mem_flatten_of_mem hs hct)
  · rw [latin.letters c hct] at hc
    cases hc

theorem matchesIn_append (rules : List Rule) (cs : List Char) (prose prose' : List Span) :
    matchesIn rules cs (prose ++ prose') = matchesIn rules cs prose ++ matchesIn rules cs prose' :=
  List.flatMap_append

theorem matchesIn_run (rules : List Rule) (before text behind : List Char) :
    matchesIn rules (before ++ (text ++ behind)) (Html.run (byteSize before) text) =
      scan rules (words (byteSize before) text) := by
  unfold Html.run
  split
  · rename_i empty
    rw [List.isEmpty_iff.mp empty]
    have none : words (byteSize before) [] = [] := rfl
    rw [none, scan]
    rfl
  · rw [matchesIn, List.flatMap_singleton, Span.slice_append]

/-- An HTML document can be mended in all its texts. It gets no closing tag by that. -/
theorem exists_mended_html (keep : Rule → Bool) (cs : List Char) : ∃ cs',
    (∀ name ∈ Html.rawElements,
      Html.fromClosing name cs = none → Html.fromClosing name cs' = none) ∧
    ∀ before before', MendsTo (byteSize before) cs cs'
      (matchesIn (Rule.all.filter keep) (before ++ cs) (Html.runsFrom (byteSize before) cs))
      (matchesIn (Rule.all.filter keep) (before' ++ cs')
        (Html.runsFrom (byteSize before') cs')) := by
  obtain ⟨text, tail, he, plain, first, last | ⟨rest, behind, shorter⟩⟩ := Html.text_cases cs
  · subst he
    have plain' := not_mem_mended keep plain rfl
    refine ⟨mended (Rule.all.filter keep) text ++ tail, fun name _ => ?_, fun before before' => ?_⟩
    · rw [Html.fromClosing_text plain, Html.fromClosing_text plain']
      exact id
    · rw [Html.runsFrom_last _ plain first last, Html.runsFrom_last _ plain' first last,
        matchesIn_run, matchesIn_run]
      have h := (mendsTo_words keep (byteSize before) (byteSize before') text).append
        (.refl _ tail)
      rwa [List.append_nil, List.append_nil] at h
  · obtain ⟨rest', closes, mends⟩ := exists_mended_html keep rest
    subst he
    obtain ⟨y, rfl, skipped⟩ := Html.exists_of_afterSkipped behind
    have behind' := skipped rest' closes
    have plain' := not_mem_mended keep plain rfl
    have parts : ∀ r : List Char, y ++ '>' :: r = (y ++ ['>']) ++ r := by simp
    have first' : ∀ c ∈ (y ++ '>' :: rest').head?, c = '<' := by
      cases y with
      | nil => exact absurd (first '>' rfl) (by decide)
      | cons c y => exact first
    refine ⟨mended (Rule.all.filter keep) text ++ (y ++ '>' :: rest'), fun name hn => ?_,
      fun before before' => ?_⟩
    · rw [Html.fromClosing_text plain, Html.fromClosing_text plain']
      intro none
      refine Html.fromClosing_eq_none (Html.closing_mark_not_mem hn) none (closes name hn ?_)
      rw [parts] at none
      exact Html.fromClosing_eq_none_of_append none
    · rw [parts] at first behind first' behind' ⊢
      rw [parts rest', Html.runsFrom_append _ plain first behind,
        Html.runsFrom_append _ plain' first' behind', matchesIn_append, matchesIn_append,
        matchesIn_run, matchesIn_run]
      generalize y ++ ['>'] = skip
      have later := mends (before ++ text ++ skip)
        (before' ++ mended (Rule.all.filter keep) text ++ skip)
      simp only [byteSize_append, List.append_assoc, Nat.add_assoc] at later ⊢
      refine (mendsTo_words keep (byteSize before) (byteSize before') text).append ?_
      have h := (MendsTo.refl (byteSize before + byteSize text) skip).append
        (by rwa [Nat.add_assoc])
      rwa [List.nil_append, List.nil_append] at h
termination_by cs.length

theorem exists_mended (keep : Rule → Bool) {profile : Profile} {prose : List Span}
    (read : profile.prose cs = .ok prose) (plain : profile = .text ∨ profile = .html) :
    ∃ cs' prose', profile.prose cs' = .ok prose' ∧
      MendsTo 0 cs cs' (matchesIn (Rule.all.filter keep) cs prose)
        (matchesIn (Rule.all.filter keep) cs' prose') := by
  rcases plain with rfl | rfl
  · cases read
    refine ⟨mended (Rule.all.filter keep) cs, _, rfl, ?_⟩
    have whole : ∀ (r : List Rule) (cs : List Char),
        matchesIn r cs [⟨0, byteSize cs⟩] = scan r (words 0 cs) := by
      intro r cs
      have slice := Span.slice_append [] cs []
      rw [List.append_nil, List.nil_append, byteSize, Nat.zero_add] at slice
      rw [matchesIn, List.flatMap_singleton, slice]
    rw [whole, whole]
    exact mendsTo_words keep 0 0 cs
  · cases read
    obtain ⟨cs', _, mends⟩ := exists_mended_html keep cs
    exact ⟨cs', _, rfl, mends [] []⟩

end Considerate
