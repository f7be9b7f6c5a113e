import Considerate.Proofs.Messages
import Considerate.Proofs.Prose
import Considerate.Proofs.Rules

namespace Considerate

open Text Markup

def stretchWords (cs : List Char) (prose : List Span) (k : Nat) : List Word :=
  match prose[k]? with
  | none => []
  | some s => words s.start (s.slice cs)

/-- The words spell the phrase, and in the document only white space stands between them. -/
structure Spells (cs : List Char) (phrase : List String) (run : List Word) : Prop where
  spelled : List.Forall₂ (fun p w => w.spells p = true) phrase run
  apart : run.IsChain fun v w => ((Span.mk v.stop w.start).slice cs).all isBlank = true

/-- The phrase of a rule in force stands at the site. -/
structure Site.IsMatch (s : Settings) (cs : List Char) (prose : List Span) (m : Site) : Prop where
  enabled : m.rule ∈ s.rules
  spells : Spells cs m.rule.phrase (m.matched (stretchWords cs prose m.stretch)).words

/-- The message says what the rule says of the text between the ends of the match, and where these
are. -/
def Reports (cs : List Char) (m : Match) (message : Message) : Prop :=
  ∃ p q, placeAt cs m.start = some p ∧ placeAt cs m.stop = some q ∧
    message =
      { reason := m.rule.reason (String.ofList ((Span.mk m.start m.stop).slice cs))
        ruleId := m.rule.id
        fatal := if m.rule.isFatal then some true else none
        line := some (.ofNat p.line)
        column := some (.ofNat p.column)
        location := ⟨.ofPlace p, .ofPlace q⟩ }

/-- The sites are those of the leftmost longest matches, in document order. -/
structure LeftmostLongest (s : Settings) (cs : List Char) (prose : List Span)
    (found : List Site) : Prop where
  isMatch : ∀ m ∈ found, m.IsMatch s cs prose
  ordered : found.Pairwise fun a b =>
    a.stretch < b.stretch ∨ a.stretch = b.stretch ∧ a.behind ≤ b.first
  apart : found.Pairwise fun a b => ¬ a.Shares b
  once : found.Nodup
  others : ∀ m : Site, m.IsMatch s cs prose → m ∉ found →
    ∃ a ∈ found, a.Shares m ∧
      (a.first < m.first ∨ a.first = m.first ∧ m.rule.phrase.length ≤ a.rule.phrase.length)

variable {s : Settings} {cs : List Char} {prose : List Span} {ws : List Word} {r : Rule} {m : Site}

/-- In words with known gaps white space stands between two of them if it does so in the gaps. -/
theorem isChain_blank_iff
    (chain : ws.IsChain fun v w => (Span.mk v.stop w.start).slice cs = w.gap) :
    (ws.IsChain fun v w => ((Span.mk v.stop w.start).slice cs).all isBlank = true) ↔
      ∀ w ∈ ws.tail, w.gap.all isBlank = true := by
  induction chain with
  | nil | singleton => simp
  | cons_cons gap chain ih =>
    rw [List.isChain_cons_cons, ih, gap]
    simp

/-- The phrase stands at a word of a stretch if the rule matches there. -/
theorem spells_iff
    (chain : ws.IsChain fun v w => (Span.mk v.stop w.start).slice cs = w.gap) (r : Rule) (i : Nat) :
    Spells cs r.phrase ((ws.drop i).take r.phrase.length) ↔ r.matchesAt (ws.drop i) = true := by
  have blank := isChain_blank_iff ((chain.drop i).take r.phrase.length)
  rw [r.matchesAt_iff, ← blank]
  exact ⟨fun h => ⟨h.spelled, h.apart⟩, fun h => ⟨h.1, h.2⟩⟩

theorem exists_laid (within : ∀ s ∈ prose, s.Within cs) (k : Nat) :
    ∃ before inside behind, cs = before ++ (inside ++ behind) ∧
      Laid (byteSize before) inside (stretchWords cs prose k) := by
  unfold stretchWords
  cases hk : prose[k]? with
  | none => exact ⟨[], cs, [], by simp, .nil ..⟩
  | some span =>
    obtain ⟨before, inside, behind, rfl, rfl⟩ := within span (List.mem_of_getElem? hk)
    refine ⟨before, inside, behind, rfl, ?_⟩
    simp only [Span.slice_append]
    exact laid_words ..

theorem chain_stretchWords (within : ∀ s ∈ prose, s.Within cs) (k : Nat) :
    (stretchWords cs prose k).IsChain fun v w => (Span.mk v.stop w.start).slice cs = w.gap := by
  obtain ⟨before, inside, behind, hd, laid⟩ := exists_laid within k
  rw [hd] at laid ⊢
  exact laid.chain

theorem phrase_ne_nil_of_rules (h : r ∈ s.rules) : r.phrase ≠ [] :=
  Rule.phrase_ne_nil (mem_all_of_rules h)

theorem isMatch_iff (within : ∀ s ∈ prose, s.Within cs) :
    m.IsMatch s cs prose ↔
      m.rule ∈ s.rules ∧
      m.rule.matchesAt ((stretchWords cs prose m.stretch).drop m.first) = true := by
  have spells := spells_iff (chain_stretchWords within m.stretch) m.rule m.first
  constructor
  · intro h
    exact ⟨h.enabled, spells.mp h.spells⟩
  · intro ⟨enabled, matched⟩
    exact ⟨enabled, spells.mpr matched⟩

theorem Text.Laid.matched {at_ : Nat} (laid : Laid at_ cs ws) (m : Site) (ne : m.rule.phrase ≠ [])
    (fits : m.rule.phrase.length ≤ (ws.drop m.first).length) :
    ∃ skipped rest, cs = skipped ++ ((m.matched ws).text ++ rest) ∧
      (m.matched ws).start = at_ + byteSize skipped ∧
      (m.matched ws).stop = (m.matched ws).start + byteSize (m.matched ws).text := by
  have hp := List.length_pos_iff.mpr ne
  cases hrun : (ws.drop m.first).take m.rule.phrase.length with
  | nil =>
    have := congrArg List.length hrun
    simp only [List.length_take, List.length_nil] at this
    omega
  | cons w more =>
    have hws : ws = ws.take m.first ++
        (w :: more ++ (ws.drop m.first).drop m.rule.phrase.length) := by
      rw [← hrun, List.take_append_drop, List.take_append_drop]
    rw [hws] at laid
    obtain ⟨skipped, rest, rfl, after⟩ := laid.drop
    obtain ⟨rest, rfl, start, stop⟩ := after.run m.rule
    refine ⟨skipped ++ w.gap, rest, ?_, ?_, ?_⟩
    · simp [Site.matched, hrun]
    · simp [Site.matched, hrun, Match.start, start, Nat.add_assoc]
    · simp only [Site.matched, hrun]
      exact stop

/-- A match has its ends between characters, and its text is what stands between them. -/
theorem exists_ends (within : ∀ s ∈ prose, s.Within cs) (h : m.IsMatch s cs prose) :
    ∃ before behind,
      let found := m.matched (stretchWords cs prose m.stretch)
      cs = before ++ (found.text ++ behind) ∧ found.start = byteSize before ∧
        found.stop = byteSize before + byteSize found.text := by
  obtain ⟨enabled, matched⟩ := (isMatch_iff within).mp h
  have hl := Rule.length_le_of_matchesAt matched
  have hne := phrase_ne_nil_of_rules enabled
  clear h
  obtain ⟨before, inside, behind, rfl, laid⟩ := exists_laid within m.stretch
  generalize stretchWords _ prose m.stretch = ws at hl laid ⊢
  obtain ⟨skipped, rest, rfl, start, stop⟩ := laid.matched m hne hl
  exact ⟨before ++ skipped, rest ++ behind, by simp, by simp [start], by simp [stop, start]⟩

theorem exists_message (within : ∀ s ∈ prose, s.Within cs) (h : m.IsMatch s cs prose) :
    ∃ message, (m.matched (stretchWords cs prose m.stretch)).message cs = some message ∧
      Reports cs (m.matched (stretchWords cs prose m.stretch)) message := by
  obtain ⟨before, behind, hd, start, stop⟩ := exists_ends within h
  generalize m.matched (stretchWords cs prose m.stretch) = found at hd start stop ⊢
  obtain ⟨p, hp⟩ := exists_placeAt before (found.text ++ behind)
  obtain ⟨q, hq⟩ := exists_placeAt (before ++ found.text) behind
  have hslice : (Span.mk found.start found.stop).slice cs = found.text := by
    rw [start, stop, hd]
    exact Span.slice_append ..
  rw [← hd, ← start] at hp
  rw [byteSize_append, ← stop, List.append_assoc, ← hd] at hq
  unfold Match.message
  rw [hp, hq]
  refine ⟨_, rfl, p, q, hp, hq, ?_⟩
  rw [hslice]
  cases found.rule.isFatal <;> rfl

/-- What is found in each stretch makes up what is found in all. -/
theorem matchesIn_eq (rules : List Rule) (cs : List Char) (prose : List Span) :
    matchesIn rules cs prose =
      (List.range prose.length).flatMap fun k => scan rules (stretchWords cs prose k) := by
  have h : prose.map (fun s => words s.start (s.slice cs)) =
      (List.range prose.length).map (stretchWords cs prose) := by
    apply List.ext_getElem
    · simp
    · intro k hk _
      have hk : k < prose.length := by simpa using hk
      simp [stretchWords, hk]
  rw [matchesIn, ← List.flatMap_map, h, List.flatMap_map]

theorem stretch_lt_of_isMatch (h : m.IsMatch s cs prose) : m.stretch < prose.length := by
  have hne := phrase_ne_nil_of_rules h.enabled
  by_contra hle
  have hk : prose[m.stretch]? = none := List.getElem?_eq_none (Nat.le_of_not_lt hle)
  have hlen := h.spells.spelled.length_eq
  simp only [Site.matched, stretchWords, hk, List.drop_nil, List.take_nil, List.length_nil] at hlen
  exact hne (List.length_eq_zero_iff.mp hlen)

section

variable {sites : Nat → List Site}
variable (takes : ∀ k, Takes s.rules k (stretchWords cs prose k) 0 (sites k))
include takes

theorem stretch_of_mem {k : Nat} (h : m ∈ sites k) : m.stretch = k := ((takes k).sound m h).2.1

theorem longestMatch_of_mem {k : Nat} (h : m ∈ sites k) :
    longestMatch s.rules ((stretchWords cs prose m.stretch).drop m.first) = some m.rule := by
  rw [stretch_of_mem takes h]
  exact ((takes k).sound m h).2.2

/-- The matches that are taken in all stretches follow each other. -/
theorem ordered_of_takes : ((List.range prose.length).flatMap sites).Pairwise fun a b =>
    a.stretch < b.stretch ∨ a.stretch = b.stretch ∧ a.behind ≤ b.first := by
  rw [List.pairwise_flatMap]
  constructor
  · intro k _
    apply (takes k).ordered.imp_of_mem
    intro a b ha hb hab
    exact Or.inr ⟨(stretch_of_mem takes ha).trans (stretch_of_mem takes hb).symm, hab⟩
  · apply List.pairwise_lt_range.imp
    intro j k hjk a ha b hb
    rw [stretch_of_mem takes ha, stretch_of_mem takes hb]
    exact Or.inl hjk

theorem apart_of_takes :
    ((List.range prose.length).flatMap sites).Pairwise fun a b => ¬ a.Shares b := by
  apply (ordered_of_takes takes).imp
  intro a b hab ⟨hk, _, hb⟩
  omega

variable (within : ∀ s ∈ prose, s.Within cs)
include within

theorem isMatch_of_takes : ∀ m ∈ (List.range prose.length).flatMap sites, m.IsMatch s cs prose := by
  intro m hm
  obtain ⟨k, _, hm⟩ := List.mem_flatMap.mp hm
  obtain ⟨enabled, matched, _⟩ := of_longestMatch (longestMatch_of_mem takes hm)
  exact (isMatch_iff within).mpr ⟨enabled, matched⟩

/-- No match is taken twice, as it shares its words with itself. -/
theorem nodup_of_takes : ((List.range prose.length).flatMap sites).Nodup := by
  rw [List.nodup_iff_pairwise_ne]
  apply (apart_of_takes takes).imp_of_mem
  intro a b ha _ hab he
  subst he
  have enabled := (isMatch_of_takes takes within a ha).enabled
  have hp := List.length_pos_iff.mpr (phrase_ne_nil_of_rules enabled)
  have hself : a.first < a.behind := by
    simp only [Site.behind]
    omega
  exact hab ⟨rfl, hself, hself⟩

theorem leftmostLongest_of_takes :
    LeftmostLongest s cs prose ((List.range prose.length).flatMap sites) := by
  refine ⟨isMatch_of_takes takes within, ordered_of_takes takes, apart_of_takes takes,
    nodup_of_takes takes within, ?_⟩
  intro m hm _
  obtain ⟨enabled, matched⟩ := (isMatch_iff within).mp hm
  have hne := phrase_ne_nil_of_rules enabled
  have hp := List.length_pos_iff.mpr hne
  obtain ⟨a, ha, hle, hlt, hlong⟩ :=
    (takes m.stretch).complete (Nat.zero_le _) enabled hne matched
  have hm' := List.mem_range.mpr (stretch_lt_of_isMatch hm)
  refine ⟨a, List.mem_flatMap.mpr ⟨m.stretch, hm', ha⟩, ⟨stretch_of_mem takes ha, ?_, hlt⟩, ?_⟩
  · simp only [Site.behind]
    omega
  · rcases Nat.lt_or_eq_of_le hle with h | h
    · exact Or.inl h
    · exact Or.inr ⟨h, hlong h⟩

end

/-- The scans of the stretches find the leftmost longest matches. -/
theorem exists_leftmostLongest (s : Settings) (within : ∀ s ∈ prose, s.Within cs) :
    ∃ found, LeftmostLongest s cs prose found ∧
      matchesIn s.rules cs prose =
        found.map fun m => m.matched (stretchWords cs prose m.stretch) := by
  have proper : ∀ r ∈ s.rules, r.phrase ≠ [] := fun _ hr => phrase_ne_nil_of_rules hr
  choose sites takes scanned using fun k => exists_takes proper k (stretchWords cs prose k) 0
  refine ⟨_, leftmostLongest_of_takes takes within, ?_⟩
  rw [matchesIn_eq, List.map_flatMap]
  congr 1
  funext k
  rw [← List.drop_zero (l := stretchWords cs prose k), scanned k]
  apply List.map_congr_left
  intro m hm
  rw [stretch_of_mem takes hm]

theorem forall₂_filterMap {α β : Type} {f : α → Option β} {R : α → β → Prop} {l : List α}
    (h : ∀ a ∈ l, ∃ b, f a = some b ∧ R a b) : List.Forall₂ R l (l.filterMap f) := by
  induction l with
  | nil => exact .nil
  | cons a l ih =>
    obtain ⟨b, hb, hr⟩ := h a List.mem_cons_self
    rw [List.filterMap_cons_some hb]
    exact .cons hr (ih fun c hc => h c (List.mem_cons_of_mem _ hc))

/-- A check has one message for each of the leftmost longest matches, in their order, and no other.
Where the prose of Markdown starts and stops is the reader's affair; it has to be between
characters. -/
theorem check_leftmostLongest (s : Settings) (profile : Profile) (document : String)
    (prose : List Span) (valid : s.conflicting = false)
    (read : profile.prose document.toList = .ok prose)
    (bounded : profile = .markdown ∨ profile = .mdx → ∀ s ∈ prose, s.Within document.toList) :
    ∃ found messages, check s profile document = .ok messages ∧
      LeftmostLongest s document.toList prose found ∧
      List.Forall₂ (fun m message => Reports document.toList
        (m.matched (stretchWords document.toList prose m.stretch)) message) found messages := by
  have within : ∀ s ∈ prose, s.Within document.toList := by
    by_cases h : profile = .markdown ∨ profile = .mdx
    · exact bounded h
    · exact Profile.within_prose read (not_or.mp h)
  obtain ⟨found, longest, hf⟩ := exists_leftmostLongest s within
  refine ⟨found, _, check_eq valid read, longest, ?_⟩
  rw [hf, List.filterMap_map]
  apply forall₂_filterMap
  intro m hm
  exact exists_message within (longest.isMatch m hm)

/-- A document in Markdown with three stretches of prose, in the last of which a phrase of two words is
broken over two lines. -/
theorem check_leftmostLongest_paragraphs :
    let document := "*Guys* he\n\nA sanity\ncheck"
    let prose : List Span := [⟨1, 5⟩, ⟨6, 9⟩, ⟨11, 25⟩]
    Profile.prose .markdown document.toList = .ok prose ∧
    (∀ s ∈ prose, Span.Within s document.toList) ∧
    ∃ found messages, check { noBinary := true } .markdown document = .ok messages ∧
      messages.map Message.ruleId = ["guys", "he-she", "sanity-check"] ∧
      LeftmostLongest { noBinary := true } document.toList prose found ∧
      List.Forall₂ (fun m message => Reports document.toList
        (m.matched (stretchWords document.toList prose m.stretch)) message) found messages := by
  intro document prose
  have read : Profile.prose .markdown document.toList = .ok prose := by decide +kernel
  have within : ∀ s ∈ prose, Span.Within s document.toList := by
    simp only [prose, List.forall_mem_cons, List.not_mem_nil, false_implies, implies_true, and_true]
    exact ⟨⟨"*".toList, "Guys".toList, "* he\n\nA sanity\ncheck".toList, by decide, by decide⟩,
      ⟨"*Guys*".toList, " he".toList, "\n\nA sanity\ncheck".toList, by decide, by decide⟩,
      ⟨"*Guys* he\n\n".toList, "A sanity\ncheck".toList, [], by decide, by decide⟩⟩
  obtain ⟨found, messages, checked, longest, reports⟩ :=
    check_leftmostLongest { noBinary := true } .markdown document prose rfl read fun _ => within
  have ids : (check { noBinary := true } .markdown document).toOption.map
      (·.map Message.ruleId) = some ["guys", "he-she", "sanity-check"] := by
    decide +kernel
  rw [checked] at ids
  exact ⟨read, within, found, messages, checked, Option.some.inj ids, longest, reports⟩

end Considerate
