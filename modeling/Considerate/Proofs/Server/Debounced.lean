import Considerate.Proofs.Server.Spared
import Considerate.Proofs.Server.Tasks

namespace Considerate

/-- A change of the text of a document, with the time at which it came in. -/
structure Edition where
  time : Nat
  version : Int32
  text : String

namespace Edition

def due (c : Edition) : Nat := c.time + Delay.length

def delay (u : Url) (c : Edition) : Delay := Delay.starting c.time u c.version

theorem isOver_delay (u : Url) (c : Edition) (now : Nat) :
    (c.delay u).isOver now = decide (c.due ≤ now) := rfl

/-- The editions that are not followed by another one within the delay. -/
def lasting : List Edition → List Edition
  | [] => []
  | [c] => [c]
  | c :: d :: cs => if c.due < d.time then c :: lasting (d :: cs) else lasting (d :: cs)

/-- Whether the delay of an edition ends in a span of time. -/
def endsIn (since till : Nat) (c : Edition) : Bool := since < c.due && c.due ≤ till

variable {c : Edition} {cs later : List Edition} {since till : Nat}

theorem mem_of_lasting (h : c ∈ lasting cs) : c ∈ cs := by
  induction cs using lasting.induct with
  | case1 => exact h
  | case2 d => exact h
  | case3 d e cs late ih =>
    rw [lasting, if_pos late] at h
    rcases List.mem_cons.mp h with rfl | h
    · exact List.mem_cons_self
    · exact List.mem_cons_of_mem _ (ih h)
  | case4 d e cs early ih =>
    rw [lasting, if_neg early] at h
    exact List.mem_cons_of_mem _ (ih h)

/-- No delay of an edition that comes in after a span of time ends in that span. -/
theorem endsIn_of_later (h : till ≤ c.time) : c.endsIn since till = false := by
  have : ¬ c.due ≤ till := by
    simp only [due, Delay.length]
    omega
  simp [endsIn, this]

theorem filter_later (future : ∀ c ∈ later, till ≤ c.time) :
    (lasting later).filter (endsIn since till) = [] := by
  refine List.filter_eq_nil_iff.mpr fun c hc => ?_
  rw [endsIn_of_later (future c (mem_of_lasting hc))]
  exact Bool.false_ne_true

/-- Among the editions that came in before a span of time, only the last can be one that lasts and
whose delay ends in the span. -/
theorem filter_lasting (past : ∀ c ∈ cs, c.time ≤ since) (future : ∀ c ∈ later, till ≤ c.time)
    (uneven : (cs ++ later).Pairwise fun c d => d.time ≠ c.due) :
    (lasting (cs ++ later)).filter (endsIn since till) =
      cs.getLast?.toList.filter (endsIn since till) := by
  induction cs using lasting.induct with
  | case1 => exact filter_later future
  | case2 c =>
    cases later with
    | nil => rfl
    | cons d later =>
      rw [List.singleton_append, lasting]
      split
      · rw [List.filter_cons, filter_later future]
        simp [List.filter_cons]
      · rename_i early
        rw [filter_later future]
        -- The next edition comes after the span, so the delay has not ended before that.
        have hd := future d List.mem_cons_self
        have hne := List.rel_of_pairwise_cons uneven List.mem_cons_self
        have : ¬ c.due ≤ till := by omega
        simp [endsIn, this]
  | case3 c d cs late ih =>
    have rest := ih (fun c hc => past c (List.mem_cons_of_mem _ hc)) (List.Pairwise.of_cons uneven)
    have elapsed : c.endsIn since till = false := by
      have : ¬ since < c.due := Nat.not_lt.mpr (Nat.le_trans (Nat.le_of_lt late) (past d (by simp)))
      simp [endsIn, this]
    rw [List.cons_append, List.cons_append, lasting, if_pos late, List.filter_cons, elapsed,
      List.getLast?_cons_cons, ← rest]
    rfl
  | case4 c d cs early ih =>
    have rest := ih (fun c hc => past c (List.mem_cons_of_mem _ hc)) (List.Pairwise.of_cons uneven)
    rw [List.cons_append, List.cons_append, lasting, if_neg early, List.getLast?_cons_cons, ← rest]
    rfl

/-- Of editions whose versions rise, only the last has the version that is reached by all. -/
theorem filter_latest (rising : cs.Pairwise fun c d => c.version < d.version) {version : Int32}
    (latest : ∀ c, cs.getLast? = some c → version = c.version) (p : Edition → Bool) :
    cs.filter (fun c => p c && version = c.version) = cs.getLast?.toList.filter p := by
  induction cs using List.reverseRecOn with
  | nil => rfl
  | append_singleton cs c =>
    obtain rfl := latest c List.getLast?_concat
    have others : cs.filter (fun d => p d && c.version = d.version) = [] := by
      refine List.filter_eq_nil_iff.mpr fun d hd => ?_
      have less := (List.pairwise_append.mp rising).2.2 d hd c (List.mem_singleton_self c)
      have hne : c.version ≠ d.version := fun he => Int32.lt_irrefl (he ▸ less)
      simp [hne]
    rw [List.filter_append, others, List.getLast?_concat]
    simp [List.filter_cons]

end Edition

namespace Session

variable {s : Session} {id n : Nat} {u : Url} {settings : Settings}

theorem passes_fresh_settings (there : s.cells.current.get? u = some n) :
    Server.Passes s id (.fresh (.settings u)) s (.cell u n .caller) := by
  have same : (s.put id (.fresh (.settings u))).cells.ofDocument u = (s.cells, n) := by
    rw [cells_put, Cells.ofDocument, there]
  refine passes_of_same nofun rfl ?_
  simp only [advance, start, wantSettings, same]
  rw [← cells_put s id (.fresh (.settings u))]

theorem canGoOn_cell (apart : id ∉ (s.cells.get n).turns.waiting) :
    (s.put id (.cell u n .caller)).canGoOn id (.cell u n .caller) = true := by
  simpa [canGoOn] using apart

theorem passes_filled (apart : id ∉ (s.cells.get n).turns.waiting)
    (filled : (s.cells.get n).value = some settings) :
    Server.Passes s id (.cell u n .caller) s (.done (.settings settings)) := by
  refine passes_of_same nofun (canGoOn_cell apart) ?_
  simp only [advance, readCell, cells_put, filled, handOver]

end Session

namespace Server

variable {s t : Server} {u : Url} {e : Event} {c : Edition}

/-- A document whose settings are there, and say that it is linted after changes. -/
def Caches (s : Server) (u : Url) : Prop :=
  ∃ n settings, s.run.session.cells.current.get? u = some n ∧
    (s.run.session.cells.get n).value = some settings ∧ settings.strategy = .onType

/-- Once a document has been changed whose settings are there, a lint of it is due after the delay,
and nothing else happens. -/
theorem settle_changed (tidy : s.Tidy) (still : s.Still) (cached : s.Caches u) (version : Int32) :
    (s.launch (.settings u) (.changed u version)).settle =
      ({ s with
        lastTask := s.lastTask + 1
        delays := s.delays ++ [Delay.starting s.now u version] }, []) := by
  obtain ⟨n, settings, there, filled, onType⟩ := cached
  have new := tidy.tasks (s.lastTask + 1) (Nat.lt_succ_self _)
  have apart : s.lastTask + 1 ∉ (s.run.session.cells.get n).turns.waiting := by
    intro waits
    obtain ⟨v, reader, found⟩ := tidy.session.awaited.known n _ waits
    rw [new] at found
    cases found
  have erased : (s.purposes.set (s.lastTask + 1) (.changed u version)).erase (s.lastTask + 1) =
      s.purposes :=
    (Keyed.erase_set ..).trans (Keyed.erase_of_absent (tidy.purposes _ (Nat.lt_succ_self _)))
  apply settle_of_steps
  intro k
  rw [launch_eq still.ready new, steps_silent _ (Session.passes_fresh_settings there) rfl nofun
      (Session.canGoOn_cell apart),
    steps_done _ (Session.passes_filled apart filled) (Keyed.get?_set_self ..)]
  simp only [Session.put_done _ new, busy, during, erased, conclude, onType, if_true, ← still.ready]
  have rests : Still { s with
      lastTask := s.lastTask + 1
      delays := s.delays ++ [Delay.starting s.now u version] } := ⟨still.ready, still.linting⟩
  exact congrArg (fun r => (r.1, [] ++ r.2)) (rests.steps _)

/-- What a document becomes by something that happens, if that says that it has been changed. -/
def edition? (s : Server) (u : Url) : Event → Option Edition
  | .received m =>
    if s.life = .initialized ∧ m.id = none ∧ Method.ofName m.method = some (.notice .changed) then
      match readParams Protocol.changed m.params with
      | .ok c => if c.url = u then c.texts.getLast?.map fun text => ⟨s.now, c.version, text⟩ else none
      | .error _ => none
    else none
  | _ => none

/-- How a notice is taken in, unless it is out of time or not a notice. -/
theorem accept_notice {m : Incoming} {n : Notice} (named : Method.ofName m.method = some (.notice n)) :
    (s.accept m).1 = s ∨ s.life = .initialized ∧ m.id = none ∧ s.accept m = s.heed n m.params := by
  unfold accept untimely
  simp only [named]
  cases s.life with
  | initialized =>
    cases m.id with
    | none => exact Or.inr ⟨rfl, rfl, rfl⟩
    | some id => exact Or.inl rfl
  | uninitialized | shutDown | exited => exact Or.inl rfl

/-- A notice that a document has been changed which is not heeded does nothing. -/
theorem accept_unheeded {m : Incoming} (changes : m.Changes u)
    (unheeded : s.edition? u (.received m) = none) : (s.accept m).1 = s := by
  obtain ⟨named, c, read, about⟩ := changes
  rcases accept_notice (s := s) named with same | ⟨life, id, heeds⟩
  · exact same
  · have texts : c.texts.getLast? = none := by
      simpa [edition?, life, id, named, read, about] using unheeded
    rw [heeds]
    simp only [heed, read, changeDocument, texts]

theorem editing (edited : s.edition? u e = some c) :
    ∃ m ch, e = .received m ∧ s.life = .initialized ∧ c.time = s.now ∧
      s.accept m = s.heed .changed m.params ∧ readParams Protocol.changed m.params = .ok ch ∧
      ch.url = u ∧ ch.version = c.version ∧ ch.texts.getLast? = some c.text := by
  cases e with
  | received m =>
    simp only [edition?] at edited
    split at edited
    · rename_i heeded
      obtain ⟨life, id, named⟩ := heeded
      split at edited
      · rename_i ch read
        split at edited
        · rename_i about
          obtain ⟨text, last, rfl⟩ := Option.map_eq_some_iff.mp edited
          refine ⟨m, ch, rfl, life, rfl, ?_, read, about, rfl, last⟩
          simp only [accept, named, untimely, life, id]
        · cases edited
      · cases edited
    · cases edited
  | _ => cases edited

theorem react_of_edition (tidy : s.Tidy) (still : s.Still) (cached : s.Caches u) {d : Document}
    (found : s.run.session.documents.get? u = some d) (edited : s.edition? u e = some c) :
    s.react e = { s with
      run := { s.run with
        session := s.run.session.openDocument u { d with text := c.text, version := c.version } }
      lastTask := s.lastTask + 1
      delays := s.delays ++ [c.delay u] } := by
  obtain ⟨m, ch, rfl, life, time, accepts, read, about, version, last⟩ := editing edited
  have changed : s.act (.changeText u c.text c.version) = { s with run := { s.run with
      session := s.run.session.openDocument u { d with text := c.text, version := c.version } } } := by
    simp only [act, Session.Run.act, Session.act, Session.changeText, found, Option.getD_some,
      List.foldl_nil]
  have opened : s.run.session.isOpen u = true := by simp [Session.isOpen, Keyed.contains, found]
  have launched : (s.accept m).1 =
      (s.act (.changeText u c.text c.version)).launch (.settings u) (.changed u c.version) := by
    rw [accepts]
    simp only [heed, read, changeDocument, last, about, opened, if_true, version]
  have tidy' := tidy.act (a := .changeText u c.text c.version) [] rfl (by simp)
  rw [changed] at tidy' launched
  have received : s.react (.received m) = (s.accept m).1.settle.1 := by
    simp [react, receive, life]
  rw [received, launched, settle_changed tidy' ⟨still.ready, still.linting⟩ cached, Edition.delay, time]

/-- How much time passes by something that happens. -/
def Event.span : Event → Nat
  | .passed milliseconds => milliseconds
  | _ => 0

theorem now_ends {id : Nat} {v : Value} (ends : s.Ends id v t) : t.now = s.now := by
  cases ends with
  | unknown => rfl
  | known purpose found t concludes => cases concludes <;> rfl

theorem now_settle (s : Server) : s.settle.1.now = s.now := by
  refine steps_keeps (P := fun t => t.now = s.now) (fun t run es same _ => ?_) rfl _
  rw [stepped, observeAll_fst]
  exact List.foldlRecOn (motive := fun r : Server => r.now = s.now) _ _ same
    fun r same ended _ => (now_ends (r.ends ..)).trans same

theorem now_react (s : Server) (e : Event) : (s.react e).now = s.now + e.span := by
  cases e with
  | received m =>
    have accepted : (s.accept m).1.now = s.now :=
      (s.does_accept m).keeps (P := fun t => t.now = s.now)
        (fun t d _ same => by cases d <;> exact same) rfl
    simp only [react, receive]
    split
    · rfl
    · exact (now_settle _).trans accepted
  | replied place result =>
    simp only [react, reply]
    split
    · rfl
    · exact now_settle _
  | answers | written => rfl
  | passed milliseconds =>
    refine (now_settle _).trans ?_
    exact List.foldlRecOn (motive := fun t : Server => t.now = s.now + milliseconds) _ _ rfl
      fun t same u _ => same

theorem comes (s : Server) (es : List Event) {time : Nat} (before : s.now < time)
    (elapsed : time ≤ (es.foldl react s).now) :
    ∃ p milliseconds, p ++ [.passed milliseconds] <+: es ∧ (p.foldl react s).now < time ∧
      time ≤ (p.foldl react s).now + milliseconds := by
  induction es using List.reverseRecOn with
  | nil => exact absurd elapsed (Nat.not_le.mpr before)
  | append_singleton es e ih =>
    by_cases earlier : time ≤ (es.foldl react s).now
    · obtain ⟨p, milliseconds, within, came⟩ := ih earlier
      exact ⟨p, milliseconds, within.trans (List.prefix_append ..), came⟩
    · rw [List.foldl_append, List.foldl_cons, List.foldl_nil, now_react] at elapsed
      cases e with
      | passed milliseconds =>
        exact ⟨es, milliseconds, List.prefix_refl _, Nat.not_le.mp earlier, elapsed⟩
      | received | replied | answers | written => exact absurd elapsed earlier

theorem time_of_edition (edited : s.edition? u e = some c) : c.time = s.now := by
  obtain ⟨_, _, _, _, time, _⟩ := editing edited
  exact time

/-- The server when time has passed and it has not done anything about that. -/
def later (s : Server) (milliseconds : Nat) : Server := { s with now := s.now + milliseconds }

/-- The server starts a task for each of the documents, one after another, that lints it in the
background. -/
structure Launches (s : Server) (urls : List Url) (t : Server) : Prop where
  lints : ∀ i v, urls[i]? = some v →
    t.run.session.tasks.get? (s.lastTask + 1 + i) = some (.fresh (.validate ⟨v, {}⟩))
  last : t.lastTask = s.lastTask + urls.length
  tasks : ∀ k ≤ s.lastTask, t.run.session.tasks.get? k = s.run.session.tasks.get? k
  documents : t.run.session.documents = s.run.session.documents

theorem Launches.refl (s : Server) : s.Launches [] s where
  lints := nofun
  last := rfl
  tasks _ _ := rfl
  documents := rfl

theorem Launches.append {r : Server} {us vs : List Url} (h : s.Launches us r) (h' : r.Launches vs t) :
    s.Launches (us ++ vs) t where
  lints i v hv := by
    rcases Nat.lt_or_ge i us.length with lt | ge
    · rw [List.getElem?_append_left lt] at hv
      rw [h'.tasks _ (by rw [h.last]; omega)]
      exact h.lints i v hv
    · rw [List.getElem?_append_right ge] at hv
      have started := h'.lints _ v hv
      rwa [h.last, show s.lastTask + us.length + 1 + (i - us.length) = s.lastTask + 1 + i by omega]
        at started
  last := by rw [h'.last, h.last, List.length_append, Nat.add_assoc]
  tasks k hk := by rw [h'.tasks k (by rw [h.last]; omega), h.tasks k hk]
  documents := h'.documents.trans h.documents

/-- How often a document is among those that are linted is the number of its delays that are over and
have its version. -/
theorem count_dueUrls {d : Document} (found : s.run.session.documents.get? u = some d) :
    s.dueUrls.count u = ((s.delays.filter (·.url = u)).filter fun x =>
      x.isOver s.now && d.version = x.version).length := by
  rw [dueUrls, List.count_eq_length_filter, List.filter_map, List.length_map, List.filter_filter,
    List.filter_filter, List.filter_filter]
  congr 1
  refine List.filter_congr fun x _ => ?_
  by_cases hu : x.url = u
  · simp [hu, found, Bool.and_comm]
  · simp [hu]

/-- A delay that has begun already, or that may begin by what has been said already about a document. -/
def Expects (s : Server) (u : Url) (d : Delay) : Prop :=
  d ∈ s.delays ∨ ∃ k, s.purposes.get? k = some (.changed u d.version)

/-- What becomes of a server while a document is changed: it has the last of the texts, and lints of it
are due for the changes whose delay is not over, besides those that were expected before. -/
structure Tracks (u : Url) (s t : Server) (cs : List Edition) : Prop where
  opened : ∃ d, t.run.session.documents.get? u = some d ∧
    ∀ c, cs.getLast? = some c → d.text = c.text ∧ d.version = c.version
  purposes : ∀ k v, t.purposes.get? k = some (.changed u v) →
    ∃ l, s.purposes.get? l = some (.changed u v)
  past : ∀ c ∈ cs, c.time ≤ t.now
  delays : ∃ old, (t.delays.filter (·.url = u)).Perm
      (old ++ (cs.filter fun c => t.now < c.due).map (Edition.delay u)) ∧ ∀ d ∈ old, s.Expects u d

variable {cs : List Edition}

theorem Tracks.refl (opened : s.run.session.isOpen u = true) : Tracks u s s [] where
  opened := by
    obtain ⟨d, found⟩ := Option.isSome_iff_exists.mp opened
    exact ⟨d, found, nofun⟩
  purposes k v h := ⟨k, h⟩
  past := nofun
  delays := by
    refine ⟨s.delays.filter (·.url = u), by simp, fun d hd => Or.inl (List.mem_filter.mp hd).1⟩

theorem Tracks.spared {r : Server} (h : Tracks u s t cs) (spared : Spared u t r) :
    Tracks u s r cs where
  opened := by
    rw [spared.document]
    exact h.opened
  purposes k v hk := by
    obtain ⟨l, hl⟩ := spared.purposes k v hk
    exact h.purposes l v hl
  past c hc := spared.now ▸ h.past c hc
  delays := by
    obtain ⟨old, perm, expected⟩ := h.delays
    obtain ⟨new, added, sources⟩ := spared.delays
    refine ⟨old ++ new.filter (·.url = u), ?_, ?_⟩
    · rw [added, spared.now, List.filter_append]
      refine (perm.append_right _).trans ?_
      rw [List.append_assoc, List.append_assoc]
      exact List.perm_append_comm.append_left old
    · intro d hd
      rcases List.mem_append.mp hd with hd | hd
      · exact expected d hd
      · rw [List.mem_filter, decide_eq_true_eq] at hd
        obtain ⟨l, hl⟩ := sources d hd.1 hd.2
        exact Or.inr (h.purposes l _ hl)

theorem Tracks.edited (h : Tracks u s t cs) (rest : t.Tidy ∧ t.Still) (cached : t.Caches u)
    (edited : t.edition? u e = some c) : Tracks u s (t.react e) (cs ++ [c]) := by
  obtain ⟨d, found, -⟩ := h.opened
  obtain ⟨old, perm, expected⟩ := h.delays
  have time := time_of_edition edited
  rw [react_of_edition rest.1 rest.2 cached found edited]
  refine ⟨⟨_, Keyed.get?_set_self .., ?_⟩, h.purposes, ?_, old, ?_, expected⟩
  · intro c' last
    rw [List.getLast?_concat, Option.some.injEq] at last
    subst last
    exact ⟨rfl, rfl⟩
  · intro c' hc
    rcases List.mem_append.mp hc with hc | hc
    · exact h.past c' hc
    · obtain rfl := List.mem_singleton.mp hc
      exact Nat.le_of_eq time
  · have mine : (c.delay u).url = u := rfl
    have begins : t.now < c.due := by
      simp only [Edition.due, Delay.length]
      omega
    simp only [List.filter_append, List.filter_cons, List.filter_nil, mine, begins, decide_true, if_true,
      List.map_append, List.map_cons, List.map_nil]
    rw [← List.append_assoc]
    exact perm.append_right _

/-- Time passes, and lints are requested. -/
theorem Tracks.passed (h : Tracks u s t cs) (rest : t.Tidy ∧ t.Still) (milliseconds : Nat) :
    Tracks u s (t.react (.passed milliseconds)) cs := by
  have waiting : Tracks u s { t with
      now := t.now + milliseconds
      delays := t.delays.filter fun d => !d.isOver (t.now + milliseconds) } cs := by
    obtain ⟨old, perm, expected⟩ := h.delays
    refine ⟨h.opened, h.purposes, fun c hc => Nat.le_trans (h.past c hc) (Nat.le_add_right ..),
      old.filter (fun d => !d.isOver (t.now + milliseconds)), ?_,
      fun d hd => expected d (List.mem_filter.mp hd).1⟩
    have later : ((cs.filter fun c => t.now < c.due).map (Edition.delay u)).filter
        (fun d => !d.isOver (t.now + milliseconds)) =
          (cs.filter fun c => t.now + milliseconds < c.due).map (Edition.delay u) := by
      rw [List.filter_map, List.filter_filter]
      congr 1
      refine List.filter_congr fun c _ => ?_
      rw [Function.comp_apply, Edition.isOver_delay, ← decide_not, ← Bool.decide_and, decide_eq_decide]
      omega
    rw [← later, ← List.filter_append, List.filter_comm]
    exact perm.filter _
  have spared : Spared u { t with
      now := t.now + milliseconds
      delays := t.delays.filter fun d => !d.isOver (t.now + milliseconds) }
      (t.react (.passed milliseconds)) := by
    obtain ⟨tidy, still⟩ := rest
    refine Spared.settle (List.foldlRecOn _ _ (Spared.refl ?_ ?_) fun r spared v _ => spared.lintLater v)
    · exact ⟨tidy.session, tidy.prompt, tidy.tasks, tidy.purposes⟩
    · exact ⟨still.ready, still.linting⟩
  exact waiting.spared spared

theorem Tracks.react (h : Tracks u s t cs) (rest : t.Tidy ∧ t.Still) (cached : t.Caches u)
    (kept : ∀ m, e = .received m → ¬ m.Opens u ∧ ¬ m.Closes u) :
    Tracks u s (t.react e) (cs ++ (t.edition? u e).toList) := by
  cases edited : t.edition? u e with
  | some c => exact h.edited rest cached edited
  | none =>
    rw [Option.toList_none, List.append_nil]
    have begun : Spared u t t := .refl rest.1 rest.2
    cases e with
    | passed milliseconds => exact h.passed rest milliseconds
    | replied | answers | written => exact h.spared (begun.react (by simp [Event.IsAbout]) (by simp))
    | received m =>
      by_cases changes : m.Changes u
      · have settled : t.react (.received m) = t := by
          simp only [Server.react, receive, accept_unheeded changes edited, settle, rest.2.steps]
          split <;> rfl
        rw [settled]
        exact h
      · obtain ⟨unopened, unclosed⟩ := kept m rfl
        refine h.spared (begun.react ?_ (by simp))
        rintro (about | about | about)
        · exact unopened about
        · exact unclosed about
        · exact changes about

/-- When time passes, a lint is due for the last change if its delay ends then, and for no other one,
besides those that were expected before. -/
theorem Tracks.due (h : Tracks u s t cs) (rising : cs.Pairwise fun c d => c.version < d.version)
    (milliseconds : Nat) :
    ∃ old : List Delay, (t.later milliseconds).dueUrls.count u = old.length +
        (cs.getLast?.toList.filter (Edition.endsIn t.now (t.now + milliseconds))).length ∧
      ∀ d ∈ old, s.Expects u d := by
  obtain ⟨d, found, latest⟩ := h.opened
  obtain ⟨old, perm, expected⟩ := h.delays
  refine ⟨old.filter fun x => x.isOver (t.now + milliseconds) && d.version = x.version, ?_,
    fun x hx => expected x (List.mem_filter.mp hx).1⟩
  rw [count_dueUrls (s := t.later milliseconds) found,
    ← Edition.filter_latest rising fun c last => (latest c last).2]
  refine (perm.filter _).length_eq.trans ?_
  rw [List.filter_append, List.length_append, List.filter_map, List.length_map, List.filter_filter]
  refine congrArg₂ (· + ·) rfl (congrArg List.length (List.filter_congr fun c _ => ?_))
  have version : (c.delay u).version = c.version := rfl
  simp only [Function.comp_apply, later, Edition.isOver_delay, version, Edition.endsIn]
  rw [Bool.and_right_comm, Bool.and_comm (decide (c.due ≤ t.now + milliseconds))]

/-- Of all changes of a document, those that come once the time has passed included, the lasting ones
whose delay ends then are linted, and their text is what the document has. -/
theorem Tracks.elapsed (h : Tracks u s t cs) {milliseconds : Nat} {coming : List Edition}
    (future : ∀ c ∈ coming, t.now + milliseconds ≤ c.time)
    (rising : (cs ++ coming).Pairwise fun c d => c.version < d.version)
    (uneven : (cs ++ coming).Pairwise fun c d => d.time ≠ c.due) :
    let elapsed := (Edition.lasting (cs ++ coming)).filter
      (Edition.endsIn t.now (t.now + milliseconds))
    (∃ old : List Delay, (t.later milliseconds).dueUrls.count u = old.length + elapsed.length ∧
      ∀ d ∈ old, s.Expects u d) ∧
    ∀ c ∈ elapsed, ∃ d, t.run.session.documents.get? u = some d ∧ d.text = c.text ∧
      d.version = c.version := by
  simp only [Edition.filter_lasting h.past future uneven]
  refine ⟨h.due (List.pairwise_append.mp rising).1 milliseconds, fun c hc => ?_⟩
  obtain ⟨d, found, latest⟩ := h.opened
  exact ⟨d, found, latest c (Option.mem_toList.mp (List.mem_filter.mp hc).1)⟩

end Server

end Considerate
