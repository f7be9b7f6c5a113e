import Considerate.Proofs.Server.Rest
import Considerate.Server.Receive

namespace Considerate

namespace Server

open Protocol (RequestId)

variable {s t : Server} {m : Incoming} {n : Notice} {u : Url}

/-- What a server does at once when a message comes in. -/
inductive Deed where
  | opens (url : Url) (d : Document)
  | changes (url : Url) (text : String) (version : Int32)
  | invalidates
  | reloads (root : String)
  | launches (job : Job) (purpose : Purpose)
  | drops (task : Nat)
  | enters (root : String)
  | becomes (life : Lifecycle)
  | parts

def obey (s : Server) : Deed → Server
  | .opens u d => s.act (.openDocument u d)
  | .changes u text version => s.act (.changeText u text version)
  | .invalidates => s.act (.invalidate none)
  | .reloads root => s.act (.reload s.files root)
  | .launches job purpose => s.launch job purpose
  | .drops task => { s with run := (s.run.drop task).1, purposes := s.purposes.erase task }
  | .enters root => { s with root := some root }
  | .becomes life => { s with life }
  | .parts =>
    { s with run := { s.run with
        editor := { answer := { configuration := none, applied := false } } } }

def Does (p : Deed → Prop) (s t : Server) : Prop := ∃ ds : List Deed, (∀ d ∈ ds, p d) ∧ t = ds.foldl obey s

section

variable {p : Deed → Prop} {r : Server}

theorem Does.refl (s : Server) : Does p s s := ⟨[], by simp, rfl⟩

theorem Does.deed (d : Deed) (hd : p d) (s : Server) : Does p s (s.obey d) :=
  ⟨[d], by simpa using hd, rfl⟩

theorem Does.trans (h : Does p r s) (h' : Does p s t) : Does p r t := by
  obtain ⟨ds, hp, rfl⟩ := h
  obtain ⟨es, hq, rfl⟩ := h'
  exact ⟨ds ++ es, by simpa [or_imp, forall_and] using ⟨hp, hq⟩, by simp⟩

/-- What each of the deeds preserves is preserved. -/
theorem Does.keeps {P : Server → Prop} (kept : ∀ s d, p d → P s → P (s.obey d)) (h : Does p s t)
    (hs : P s) : P t := by
  obtain ⟨ds, hp, rfl⟩ := h
  induction ds generalizing s with
  | nil => exact hs
  | cons d ds ih =>
    simp only [List.mem_cons, forall_eq_or_imp] at hp
    exact ih (kept s d hp.1 hs) hp.2

theorem Does.each {α : Type} (d : α → Deed) (hd : ∀ a, p (d a)) (as : List α) (s : Server) :
    Does p s (as.foldl (fun s a => s.obey (d a)) s) := by
  refine ⟨as.map d, ?_, by rw [List.foldl_map]⟩
  simpa using fun a _ => hd a

end

def Deed.IsAbout (u : Url) : Deed → Prop
  | opens v _ | changes v _ _ => v = u
  | launches job purpose => job = .close u ∨ ∃ version, purpose = .changed u version
  | _ => False

def Deed.IsLight : Deed → Prop
  | launches job _ => job.ahead ≤ Job.worth
  | _ => True

/-- Whether a message says that a document has been opened. -/
def Incoming.Opens (m : Incoming) (u : Url) : Prop :=
  Method.ofName m.method = some (.notice .opened) ∧
    ∃ d, readParams Protocol.opened m.params = .ok (u, d)

/-- Whether a message says that a document has been closed. -/
def Incoming.Closes (m : Incoming) (u : Url) : Prop :=
  Method.ofName m.method = some (.notice .closed) ∧ readParams Protocol.closed m.params = .ok u

def Incoming.Changes (m : Incoming) (u : Url) : Prop :=
  Method.ofName m.method = some (.notice .changed) ∧
    ∃ c, readParams Protocol.changed m.params = .ok c ∧ c.url = u

def Incoming.IsAbout (m : Incoming) (u : Url) : Prop := m.Opens u ∨ m.Closes u ∨ m.Changes u

def Incoming.Allows (m : Incoming) (d : Deed) : Prop := d.IsLight ∧ ∀ u, d.IsAbout u → m.IsAbout u

theorem Incoming.allows_other (m : Incoming) {d : Deed} (light : d.IsLight)
    (other : ∀ u, ¬ d.IsAbout u) : m.Allows d :=
  ⟨light, fun u h => (other u h).elim⟩

theorem does_launch {job : Job} {purpose : Purpose} (light : job.ahead ≤ Job.worth)
    (other : ∀ u, job ≠ .close u) (quiet : ∀ u version, purpose ≠ .changed u version) (s : Server) :
    Does m.Allows s (s.launch job purpose) := by
  refine .deed (.launches job purpose) (m.allows_other light ?_) s
  rintro u (rfl | ⟨version, rfl⟩)
  · exact other u rfl
  · exact quiet u version rfl

theorem does_lintAll (s : Server) : Does m.Allows s s.lintAll := by
  refine .each (fun u => .launches (.validate ⟨u, {}⟩) .background) (fun u => ?_) _ s
  exact m.allows_other (Nat.le_refl _) (by simp [Deed.IsAbout])

theorem does_reload (s : Server) : Does m.Allows s s.reload := by
  unfold reload
  split
  · exact .refl s
  · rename_i root _
    exact .deed (.reloads root) (m.allows_other trivial fun _ => not_false) s

theorem does_cancelWhere (which : RequestId → Bool) (s : Server) :
    Does m.Allows s (s.cancelWhere which).1 := by
  have dropped : ∀ (t : Server) task, Does m.Allows s t → Does m.Allows s (t.dropTask task).1 :=
    fun t task h => h.trans (.deed (.drops task.1) (m.allows_other trivial fun _ => not_false) t)
  exact List.foldlRecOn (motive := fun r : Server × List Output => Does m.Allows s r.1) _ _ (.refl s)
    fun r h task _ => dropped r.1 task h

theorem does_start (s : Server) (params : Option Json) (id : RequestId) :
    Does m.Allows s (s.start params id).1 := by
  unfold start
  split
  · exact .refl s
  · refine .trans ?_ (.deed (.becomes .initialized) (m.allows_other trivial fun _ => not_false) _)
    unfold enterWorkspace
    split
    · exact .refl s
    · rename_i path _
      exact .trans (.deed (.enters path) (m.allows_other trivial fun _ => not_false) s) (does_reload _)

theorem does_shutdown (s : Server) (params : Option Json) (id : Option RequestId) :
    Does m.Allows s (s.shutdown params id).1 := by
  have shut := Does.deed (.becomes .shutDown) (m.allows_other trivial fun _ => not_false) s
  unfold shutdown
  split
  · exact .refl s
  · dsimp only
    split
    · exact shut
    · split <;> exact shut

theorem does_exit (s : Server) : Does m.Allows s s.exit.1 := by
  have left := Does.trans (does_cancelWhere (fun _ => true) s)
    (.trans (.deed (.becomes .exited) (m.allows_other trivial fun _ => not_false) _)
      (.deed .parts (m.allows_other trivial fun _ => not_false) _))
  exact left

theorem does_read (q : Protocol.ActionQuery) (id : RequestId) (s : Server) :
    Does m.Allows s (s.offerActions q id).1 := by
  unfold offerActions
  have launched : Does m.Allows s
      (s.launch (.read q.url [.diagnostics, .fixes]) (.actions id q.url q.range)) :=
    does_launch (by simp [Job.ahead, Job.worth]) (by simp) (by simp) s
  cases q.only with
  | none => exact launched
  | some kinds =>
    dsimp only
    split
    · exact launched
    · exact .refl s

theorem does_execute (c : Protocol.Command) (id : RequestId) (s : Server) :
    Does m.Allows s (s.execute c id).1 := by
  unfold execute
  split
  · split
    · exact .refl s
    · exact does_launch (Nat.le_refl _) (by simp) (by simp) s
  · split
    · split
      · exact .refl s
      · exact does_launch (by simp [Job.ahead, Job.worth]) (by simp) (by simp) s
    · exact .refl s

theorem does_answerQuery (q : Query) (params : Option Json) (id : RequestId) (s : Server) :
    Does m.Allows s (s.answerQuery q params id).1 := by
  cases q with
  | codeAction =>
    simp only [answerQuery]
    split
    · exact .refl s
    · exact does_read ..
  | executeCommand =>
    simp only [answerQuery]
    split
    · exact .refl s
    · exact does_execute ..
  | formatting =>
    simp only [answerQuery]
    split
    · exact .refl s
    · exact does_launch (Nat.le_refl _) (by simp) (by simp) s
  | place name =>
    simp only [answerQuery]
    split <;> exact .refl s
  | unsupported =>
    simp only [answerQuery]
    split <;> exact .refl s

theorem does_changeDocument {c : Protocol.Changed} (about : m.Changes c.url) (s : Server) :
    Does m.Allows s (s.changeDocument c) := by
  unfold changeDocument
  split
  · exact .refl s
  · rename_i text _
    split
    · refine .trans (.deed (.changes c.url text c.version) ⟨trivial, ?_⟩ s)
        (.deed (.launches (.settings c.url) (.changed c.url c.version)) ⟨by simp [Deed.IsLight, Job.ahead, Job.worth], ?_⟩ _)
      · rintro u rfl
        exact Or.inr (Or.inr about)
      · rintro u (h | ⟨version, h⟩)
        · cases h
        · cases h
          exact Or.inr (Or.inr about)
    · exact .refl s

theorem does_heed (named : Method.ofName m.method = some (.notice n)) (s : Server) :
    Does m.Allows s (s.heed n m.params).1 := by
  cases n with
  | initialized =>
    simp only [heed]
    split <;> exact .refl s
  | opened =>
    simp only [heed]
    split
    · exact .refl s
    · rename_i u d read
      refine .trans (.deed (.opens u d) ⟨trivial, ?_⟩ s)
        (does_launch (Nat.le_refl _) (by simp) (by simp) _)
      rintro v rfl
      exact Or.inl ⟨named, d, read⟩
  | changed =>
    simp only [heed]
    split
    · exact .refl s
    · rename_i c read
      exact does_changeDocument ⟨named, c, read, rfl⟩ s
  | saved =>
    simp only [heed]
    split
    · exact .refl s
    · exact does_launch (by simp [Job.ahead, Job.worth]) (by simp) (by simp) s
  | closed =>
    simp only [heed]
    split
    · exact .refl s
    · rename_i u read
      refine .deed (.launches (.close u) .background) ⟨by simp [Deed.IsLight, Job.ahead, Job.worth], ?_⟩ s
      rintro v (h | ⟨version, h⟩)
      · cases h
        exact Or.inr (Or.inl ⟨named, read⟩)
      · cases h
  | configurationChanged =>
    simp only [heed]
    split
    · exact .refl s
    · exact .trans (.deed .invalidates (m.allows_other trivial fun _ => not_false) s) (does_lintAll _)
  | filesChanged =>
    simp only [heed]
    split
    · exact .refl s
    · split
      · exact .trans (does_reload s) (.trans
          (.deed .invalidates (m.allows_other trivial fun _ => not_false) _) (does_lintAll _))
      · exact .refl s
  | other => exact .refl s

/-- What a server does at once when a message comes in. -/
theorem does_accept (s : Server) (m : Incoming) : Does m.Allows s (s.accept m).1 := by
  unfold accept
  dsimp only
  split
  · split <;> exact .refl s
  · split
    · exact .refl s
    · split
      · exact .refl s
      · exact does_start ..
  · exact does_shutdown ..
  · exact does_exit s
  · split
    · exact does_cancelWhere ..
    · exact .refl s
  · split
    · exact .refl s
    · exact .refl s
    · split
      · exact does_answerQuery ..
      · exact .refl s
  · rename_i n named
    split
    · exact .refl s
    · exact .refl s
    · exact does_heed named s

theorem Tidy.act (h : s.Tidy) {a : Session.Action} (ks : List Nat)
    (woken : (s.run.session.act a).2 = ks.map Session.Effect.woken)
    (uncalled : ∀ id job, a ≠ .call id job) : (s.act a).Tidy := by
  have step := Session.step_act s.run.session a
  have acts : s.act a = { s with run := { s.run with
      session := (s.run.session.act a).1
      ready := s.run.ready ++ ks } } := by
    simp only [Server.act, Session.Run.act, woken, Session.Run.note_woken]
  rw [acts]
  exact {
    session := h.session.step step fun id job he => (uncalled id job he).elim
    prompt := fun k job there => List.mem_append_left _ (h.prompt k job (step.fresh uncalled there))
    tasks := fun k hk => step.absent uncalled (h.tasks k hk)
    purposes := h.purposes }

/-- A task is dropped, and others may be woken by that. -/
theorem obey_drops (s : Server) (id : Nat) : ∃ ks, s.obey (.drops id) = { s with
    run := { s.run with
      session := (s.run.session.act (.drop id)).1
      ready := s.run.ready.filter (· ≠ id) ++ ks
      linting := s.run.linting.filter (· ≠ id) }
    purposes := s.purposes.erase id } := by
  have woken : ∃ ks : List Nat, (s.run.session.act (.drop id)).2 = ks.map Session.Effect.woken := by
    simp only [Session.act]
    split
    · exact ⟨[], rfl⟩
    · exact ⟨_, rfl⟩
  obtain ⟨ks, woken⟩ := woken
  exact ⟨ks, by simp only [obey, Session.Run.drop, Session.Run.act, woken, Session.Run.note_woken]⟩

theorem Tidy.drop (h : s.Tidy) (id : Nat) : (s.obey (.drops id)).Tidy := by
  have step := Session.step_act s.run.session (.drop id)
  obtain ⟨ks, dropped⟩ := s.obey_drops id
  rw [dropped]
  constructor
  · exact h.session.step step (by simp)
  · intro k job there
    have other : k ≠ id := by
      rintro rfl
      cases step.arises there with
      | stays a found stuck silent kept => exact kept rfl
    have ready := h.prompt k job (step.fresh (by simp) there)
    exact List.mem_append_left _ (List.mem_filter.mpr ⟨ready, by simpa using other⟩)
  · exact fun k hk => step.absent (by simp) (h.tasks k hk)
  · exact (h.erase id).purposes

theorem Tidy.obey (h : s.Tidy) {d : Deed} (light : d.IsLight) : (s.obey d).Tidy := by
  cases d with
  | opens u d => exact h.act (a := .openDocument u d) [] rfl (by simp)
  | changes u text version => exact h.act (a := .changeText u text version) [] rfl (by simp)
  | invalidates => exact h.act (a := .invalidate none) [] rfl (by simp)
  | reloads root => exact h.act (a := .reload s.files root) [] rfl (by simp)
  | launches job purpose => exact h.launch light purpose
  | drops task => exact h.drop task
  | enters | becomes | parts => exact ⟨h.session, h.prompt, h.tasks, h.purposes⟩

/-- The editor answers a call for which a task waits, or there is no such task. -/
theorem answerHeld_cases (r : Session.Run) (n : Nat) (x : Answer) :
    (∃ editor held, r.answerHeld n x = { r with editor, held }) ∨
      ∃ held id, r.answerHeld n x = ({ r with held }.act (.answer id x)).1 := by
  unfold Session.Run.answerHeld
  split
  · exact Or.inl ⟨r.editor, r.held, rfl⟩
  · rename_i id _ _
    dsimp only
    split
    · exact Or.inl ⟨r.editor, _, rfl⟩
    · split
      · exact Or.inr ⟨_, id, rfl⟩
      · exact Or.inl ⟨_, _, rfl⟩

theorem woken_answer (s : Session) (id : Nat) (x : Answer) :
    ∃ ks : List Nat, (s.act (.answer id x)).2 = ks.map Session.Effect.woken := by
  simp only [Session.act]
  split
  · exact ⟨[id], rfl⟩
  · exact ⟨[], rfl⟩

theorem Tidy.answerHeld (h : s.Tidy) (n : Nat) (x : Answer) :
    { s with run := s.run.answerHeld n x }.Tidy := by
  rcases answerHeld_cases s.run n x with ⟨editor, held, he⟩ | ⟨held, id, he⟩ <;> rw [he]
  · exact ⟨h.session, h.prompt, h.tasks, h.purposes⟩
  · have held : { s with run := { s.run with held } }.Tidy :=
      ⟨h.session, h.prompt, h.tasks, h.purposes⟩
    obtain ⟨ks, woken⟩ := woken_answer s.run.session id x
    exact held.act ks woken (by simp)

/-- What can happen to a server. -/
inductive Event where
  | received (m : Incoming)
  /-- The editor answers a call that it has held back. -/
  | replied (place : Nat) (result : Option Json)
  /-- The editor answers a kind of call in this way from now on, or holds such calls back. -/
  | answers (kind : Call.Kind) (held : Bool) (result : Option Json)
  | written (files : Files)
  | passed (milliseconds : Nat)

def react (s : Server) : Event → Server
  | .received m => ((s.receive m).map Prod.fst).getD s
  | .replied place result => ((s.reply place result).map Prod.fst).getD s
  | .answers kind held result => s.setAnswer kind held result
  | .written files => { s with files }
  | .passed milliseconds => (s.advance milliseconds).1

/-- The server after all that has happened since it was started. -/
def after (es : List Event) : Server := es.foldl react {}

@[simp] theorem after_snoc (es : List Event) (e : Event) : after (es ++ [e]) = (after es).react e := by
  simp [after]

theorem Tidy.react (h : s.Tidy ∧ s.Still) (e : Event) : (s.react e).Tidy ∧ (s.react e).Still := by
  obtain ⟨tidy, still⟩ := h
  cases e with
  | received m =>
    simp only [Server.react, receive]
    split
    · exact ⟨tidy, still⟩
    · have accepted : (s.accept m).1.Tidy :=
        (s.does_accept m).keeps (fun s d allowed tidy => tidy.obey allowed.1) tidy
      exact accepted.settle
  | replied place result =>
    simp only [Server.react, reply]
    split
    · exact ⟨tidy, still⟩
    · exact (tidy.answerHeld ..).settle
  | answers kind held result =>
    exact ⟨⟨tidy.session, tidy.prompt, tidy.tasks, tidy.purposes⟩, still.ready, still.linting⟩
  | written files =>
    exact ⟨⟨tidy.session, tidy.prompt, tidy.tasks, tidy.purposes⟩, still.ready, still.linting⟩
  | passed milliseconds =>
    refine Tidy.settle (List.foldlRecOn _ _ ⟨tidy.session, tidy.prompt, tidy.tasks, tidy.purposes⟩ ?_)
    exact fun s tidy u _ => tidy.lintLater u

end Server

end Considerate
