import Considerate.Proofs.Session.Tended

namespace Considerate

inductive Deed where
  | calls (c : Call)
  | lints (outcome : Except LintError Report)
  | yields (es : List Edit)

namespace Stage

def ticket? (st : Stage) : Option Nat := st.pass?.map Pass.ticket

/-- What a pass does when it goes on from a stage. A pass that has found no document is linted
without one. -/
def leaving : Stage → List Deed
  | .linted p settings => [.lints (lint p.url p.document settings)]
  | .back (.told (.configure p)) _ =>
    match p.document with
    | none => [.lints (lint p.url none {})]
    | some _ => []
  | .back (.told (.release _ es)) _ => [.yields es]
  | _ => []

def coming : Stage → List Deed
  | .calling c _ => [.calls c]
  | _ => []

def mark (st : Stage) (ds : List Deed) : List (Nat × Deed) :=
  match st.ticket? with
  | none => []
  | some m => ds.map (m, ·)

end Stage

def under (m : Nat) (log : List (Nat × Deed)) : List Deed :=
  log.filterMap fun e => if e.1 = m then some e.2 else none

@[simp] theorem under_append (m : Nat) (xs ys : List (Nat × Deed)) :
    under m (xs ++ ys) = under m xs ++ under m ys :=
  List.filterMap_append

theorem under_mark (m : Nat) (st : Stage) (ds : List Deed) :
    under m (st.mark ds) = if st.ticket? = some m then ds else [] := by
  unfold Stage.mark under
  cases st.ticket? with
  | none => rfl
  | some n => by_cases h : n = m <;> simp [h, List.filterMap_map]

namespace Pass

/-- Before its start a pass that shows what it finds takes away what is shown for its document. -/
def opening (p : Pass) : List Deed :=
  if p.request.options.format = false ∧ p.document.isSome then [.calls (.publish p.url [])] else []

def tells (p : Pass) (phase : Phase) : Deed := .calls (.status (p.status phase))

def starts (p : Pass) : Deed := p.tells (.ofOptions p.request.options)

/-- The editor is asked for the settings, unless these are known or somebody else asks. -/
def asks (p : Pass) (asked : Bool) : List Deed :=
  if asked then [.calls (.configuration p.url)] else []

def shows (p : Pass) (ds : List Diagnostic) : Deed := .calls (.publish p.url ds)

def Comes (p : Pass) (outcome : Except LintError Report) : Prop :=
  ∃ settings, lint p.url p.document settings = outcome

end Pass

namespace Session

/-- What a pass does between its start and its end, the phase in which it ends, and its edits. -/
inductive Inner (p : Pass) : List Deed → Phase → List Edit → Prop
  | missing (e : LintError) (comes : p.Comes (.error e)) : Inner p [.lints (.error e)] .error []
  | gone : Inner p [] .stop []
  | failed (asked : Bool) (e : LintError) (comes : p.Comes (.error e)) :
      Inner p (p.asks asked ++ [.lints (.error e)]) .error []
  | late (asked : Bool) (r : Report) (comes : p.Comes (.ok r)) :
      Inner p (p.asks asked ++ [.lints (.ok r)]) .stop []
  | takenBack (asked : Bool) (r : Report) (comes : p.Comes (.ok r)) :
      Inner p (p.asks asked ++ [.lints (.ok r), p.shows r.diagnostics, p.shows []]) .stop []
  | formatted (asked : Bool) (r : Report) (comes : p.Comes (.ok r))
      (format : p.request.options.format = true) :
      Inner p (p.asks asked ++ [.lints (.ok r), p.shows r.diagnostics]) .stop r.formatEdits
  | kept (asked : Bool) (r : Report) (comes : p.Comes (.ok r))
      (plain : p.request.options.format = false) :
      Inner p (p.asks asked ++ [.lints (.ok r), p.shows r.diagnostics]) .stop []

inductive Sofar (p : Pass) : Stage → List Deed → Prop
  | clear (plain : p.request.options.format = false) (opened : p.document.isSome) :
      Sofar p (.store (.change p.url .clear (.announce p))) []
  | clearing : Sofar p (.calling (.publish p.url []) (.shown (.announce p))) p.opening
  | cleared (x : Answer) : Sofar p (.back (.shown (.announce p)) x) p.opening
  | announcing :
      Sofar p (tell p (.ofOptions p.request.options) (.configure p)) (p.opening ++ [p.starts])
  | announced (x : Answer) : Sofar p (.back (.told (.configure p)) x) (p.opening ++ [p.starts])
  | wanting (n : Nat) : Sofar p (.cell p.url n (.pass p)) (p.opening ++ [p.starts])
  | asking (n : Nat) :
      Sofar p (.calling (.configuration p.url) (.configured n (.pass p)))
        (p.opening ++ p.starts :: p.asks true)
  | asked (n : Nat) (x : Answer) :
      Sofar p (.back (.configured n (.pass p)) x) (p.opening ++ p.starts :: p.asks true)
  | linting (settings : Settings) (asked : Bool) :
      Sofar p (.linting p settings) (p.opening ++ p.starts :: p.asks asked)
  | linted (settings : Settings) (asked : Bool) :
      Sofar p (.linted p settings) (p.opening ++ p.starts :: p.asks asked)
  | replace (r : Report) (asked : Bool) (comes : p.Comes (.ok r)) :
      Sofar p (.store (.change p.url (.replace r.diagnostics r.fixes) (.conclude p r)))
        (p.opening ++ p.starts :: (p.asks asked ++ [.lints (.ok r)]))
  | replacing (r : Report) (asked : Bool) (comes : p.Comes (.ok r)) :
      Sofar p (.calling (.publish p.url r.diagnostics) (.shown (.conclude p r)))
        (p.opening ++ p.starts :: (p.asks asked ++ [.lints (.ok r), p.shows r.diagnostics]))
  | replaced (r : Report) (x : Answer) (asked : Bool) (comes : p.Comes (.ok r)) :
      Sofar p (.back (.shown (.conclude p r)) x)
        (p.opening ++ p.starts :: (p.asks asked ++ [.lints (.ok r), p.shows r.diagnostics]))
  | purge (r : Report) (asked : Bool) (comes : p.Comes (.ok r)) :
      Sofar p (.store (.change p.url .purge (.close p [])))
        (p.opening ++ p.starts :: (p.asks asked ++ [.lints (.ok r), p.shows r.diagnostics]))
  | purging (r : Report) (asked : Bool) (comes : p.Comes (.ok r)) :
      Sofar p (.calling (.publish p.url []) (.shown (.close p [])))
        (p.opening ++ p.starts ::
          (p.asks asked ++ [.lints (.ok r), p.shows r.diagnostics, p.shows []]))
  | purged (r : Report) (x : Answer) (asked : Bool) (comes : p.Comes (.ok r)) :
      Sofar p (.back (.shown (.close p [])) x)
        (p.opening ++ p.starts ::
          (p.asks asked ++ [.lints (.ok r), p.shows r.diagnostics, p.shows []]))
  | record (r : Report) (a : Artifact) (asked : Bool) (comes : p.Comes (.ok r))
      (plain : p.request.options.format = false) :
      Sofar p (.store (.change p.url (.record a) (.close p [])))
        (p.opening ++ p.starts :: (p.asks asked ++ [.lints (.ok r), p.shows r.diagnostics]))
  | closing (phase : Phase) (es : List Edit) (inner : List Deed) (ends : Inner p inner phase es) :
      Sofar p (tell p phase (.release p es)) (p.opening ++ p.starts :: (inner ++ [p.tells phase]))
  | closed (phase : Phase) (es : List Edit) (x : Answer) (inner : List Deed)
      (ends : Inner p inner phase es) :
      Sofar p (.back (.told (.release p es)) x)
        (p.opening ++ p.starts :: (inner ++ [p.tells phase]))

def Whole (p : Pass) (ds : List Deed) : Prop :=
  ∃ inner phase es, Inner p inner phase es ∧
    ds = p.opening ++ p.starts :: (inner ++ [p.tells phase, .yields es])

variable {s t : Session} {id k : Nat} {st next : Stage} {p q : Pass} {l : List Deed}
  {as : List Action} {a : Action}

theorem Sofar.back {c : Call} {plan : Return} (h : Sofar p (.calling c plan) l) (x : Answer) :
    Sofar p (.back plan x) l := by
  cases h with
  | clearing => exact .cleared x
  | announcing => exact .announced x
  | asking n => exact .asked n x
  | replacing r asked comes => exact .replaced r x asked comes
  | purging r asked comes => exact .purged r x asked comes
  | closing phase es inner ends => exact .closed phase es x inner ends

theorem Sofar.lint {settings : Settings} (h : Sofar p (.linting q settings) l) :
    Sofar p (.linted q settings) l := by
  cases h with
  | linting settings asked => exact .linted settings asked

theorem Begins.sofar {r : Request} {ticket : Nat} (h : Begins s r ticket t st)
    (hp : st.pass? = some p) : Sofar p st st.coming := by
  cases h with
  | clear plain opened =>
    cases hp
    exact .clear plain opened
  | announce silent =>
    cases hp
    have quiet : ¬ (r.options.format = false ∧ (s.documents.get? r.url).isSome) := by
      rintro ⟨plain, opened⟩
      rcases silent with format | absent
      · rw [plain] at format
        cases format
      · rw [absent] at opened
        cases opened
    have ho : (s.numbered (s.passFor r ticket)).opening = [] := if_neg quiet
    have h := Sofar.announcing (p := s.numbered (s.passFor r ticket))
    rwa [ho] at h

/-- A pass that goes on does what belongs to the stages that it leaves and comes to. A pass that has
told its end is over with that. -/
theorem Moves.sofar (h : Moves s id st t next) (hs : Sofar q st l)
    (issued : q.ticket ≤ s.schedule.lastTicket) :
    (∃ p, next.pass? = some p ∧ p.ticket = q.ticket ∧
      Sofar p next (l ++ (st.leaving ++ next.coming))) ∨
    next.ticket? ≠ some q.ticket ∧ Whole q (l ++ st.leaving) := by
  cases hs with
  | clear plain opened =>
    cases h with
    | queue a busy =>
      refine Or.inl ⟨_, rfl, rfl, ?_⟩
      exact .clear plain opened
    | publish u c plan turn store ds changed =>
      refine Or.inl ⟨_, rfl, rfl, ?_⟩
      have hds := congrArg Prod.snd changed
      rw [Store.shown_clear] at hds
      cases hds
      have h := Sofar.clearing (p := q)
      rw [Pass.opening, if_pos ⟨plain, opened⟩] at h
      exact h
    | keep u c plan turn store changed t next resumes =>
      have hc := congrArg Prod.snd changed
      rw [Store.shown_clear] at hc
      cases hc
  | clearing | announcing | asking | linting | replacing | purging | closing => cases h
  | cleared x =>
    cases h with
    | shown plan x t next resumes =>
      cases resumes
      refine Or.inl ⟨_, rfl, rfl, ?_⟩
      exact .announcing
  | announced x =>
    cases h with
    | told plan x t next resumes =>
      cases resumes with
      | absent p missing =>
        refine Or.inl ⟨_, rfl, rfl, ?_⟩
        have h := Sofar.closing (p := q) .error [] _ (.missing (.notOpen q.url) ⟨{}, by rw [missing]; rfl⟩)
        simpa [Stage.leaving, Stage.coming, missing, tell, Pass.tells, lint] using h
      | gone p d found closed =>
        refine Or.inl ⟨_, rfl, rfl, ?_⟩
        have h := Sofar.closing (p := q) .stop [] _ .gone
        simpa [Stage.leaving, Stage.coming, found, tell, Pass.tells] using h
      | want p d found opened =>
        refine Or.inl ⟨_, rfl, rfl, ?_⟩
        simpa [Stage.leaving, Stage.coming, found] using Sofar.wanting (p := q) _
  | wanting n =>
    cases h with
    | filled u n reader settings value =>
      refine Or.inl ⟨_, rfl, rfl, ?_⟩
      simpa [Stage.leaving, Stage.coming, handOver, Pass.asks] using
        Sofar.linting (p := q) settings false
    | ask u n reader empty turn =>
      refine Or.inl ⟨_, rfl, rfl, ?_⟩
      simpa [Stage.leaving, Stage.coming, Pass.asks] using Sofar.asking (p := q) n
    | queueForCell u n reader empty busy =>
      refine Or.inl ⟨_, rfl, rfl, ?_⟩
      simpa [Stage.leaving, Stage.coming] using Sofar.wanting (p := q) n
  | asked n x =>
    cases h with
    | configured n reader x =>
      refine Or.inl ⟨_, rfl, rfl, ?_⟩
      simpa [Stage.leaving, Stage.coming, handOver] using Sofar.linting (p := q) _ true
  | linted settings asked =>
    cases h with
    | fail p settings e failed =>
      refine Or.inl ⟨_, rfl, rfl, ?_⟩
      have h := Sofar.closing (p := q) .error [] _ (.failed asked e ⟨settings, failed⟩)
      simpa [Stage.leaving, Stage.coming, failed, tell, Pass.tells] using h
    | report p settings r passed opened =>
      refine Or.inl ⟨_, rfl, rfl, ?_⟩
      simpa [Stage.leaving, Stage.coming, passed] using Sofar.replace (p := q) r asked ⟨settings, passed⟩
    | late p settings r passed closed =>
      refine Or.inl ⟨_, rfl, rfl, ?_⟩
      have h := Sofar.closing (p := q) .stop [] _ (.late asked r ⟨settings, passed⟩)
      simpa [Stage.leaving, Stage.coming, passed, tell, Pass.tells] using h
  | replace r asked comes =>
    cases h with
    | queue a busy =>
      refine Or.inl ⟨_, rfl, rfl, ?_⟩
      simpa [Stage.leaving, Stage.coming] using Sofar.replace (p := q) r asked comes
    | publish u c plan turn store ds changed =>
      refine Or.inl ⟨_, rfl, rfl, ?_⟩
      cases congrArg Prod.snd changed
      simpa [Stage.leaving, Stage.coming, Pass.shows] using Sofar.replacing (p := q) r asked comes
    | keep u c plan turn store changed t next resumes => cases congrArg Prod.snd changed
  | replaced r x asked comes =>
    cases h with
    | shown plan x t next resumes =>
      cases resumes with
      | purge p r closed =>
        refine Or.inl ⟨_, rfl, rfl, ?_⟩
        simpa [Stage.leaving, Stage.coming] using Sofar.purge (p := q) r asked comes
      | format p r opened silent =>
        refine Or.inl ⟨_, rfl, rfl, ?_⟩
        have h := Sofar.closing (p := q) .stop r.formatEdits _ (.formatted asked r comes silent)
        simpa [Stage.leaving, Stage.coming, tell, Pass.tells] using h
      | record p r opened plain =>
        refine Or.inl ⟨_, rfl, rfl, ?_⟩
        simpa [Stage.leaving, Stage.coming] using Sofar.record (p := q) r r.artifact asked comes plain
  | purge r asked comes =>
    cases h with
    | queue a busy =>
      refine Or.inl ⟨_, rfl, rfl, ?_⟩
      simpa [Stage.leaving, Stage.coming] using Sofar.purge (p := q) r asked comes
    | publish u c plan turn store ds changed =>
      refine Or.inl ⟨_, rfl, rfl, ?_⟩
      cases congrArg Prod.snd changed
      simpa [Stage.leaving, Stage.coming, Pass.shows] using Sofar.purging (p := q) r asked comes
    | keep u c plan turn store changed t next resumes => cases congrArg Prod.snd changed
  | purged r x asked comes =>
    cases h with
    | shown plan x t next resumes =>
      cases resumes
      refine Or.inl ⟨_, rfl, rfl, ?_⟩
      have h := Sofar.closing (p := q) .stop [] _ (.takenBack asked r comes)
      simpa [Stage.leaving, Stage.coming, tell, Pass.tells] using h
  | record r a asked comes plain =>
    cases h with
    | queue a busy =>
      refine Or.inl ⟨_, rfl, rfl, ?_⟩
      simpa [Stage.leaving, Stage.coming] using Sofar.record (p := q) r _ asked comes plain
    | publish u c plan turn store ds changed =>
      have hc := congrArg Prod.snd changed
      rw [Store.shown_record] at hc
      cases hc
    | keep u c plan turn store changed t next resumes =>
      cases resumes
      refine Or.inl ⟨_, rfl, rfl, ?_⟩
      have h := Sofar.closing (p := q) .stop [] _ (.kept asked r comes plain)
      simpa [Stage.leaving, Stage.coming, tell, Pass.tells] using h
  | closed phase es x inner ends =>
    cases h with
    | told plan x t next resumes =>
      refine Or.inr ⟨?_, inner, phase, es, ends, by simp [Stage.leaving]⟩
      intro same
      obtain ⟨p, hp, ht⟩ := Option.map_eq_some_iff.mp same
      have := (resumes.justBegun hp).ticket
      omega

/-- A pass begins with the stage that a task comes to: it does the request of the task, or one that
has waited. -/
structure Opens (s : Session) (st next : Stage) (p : Pass) : Prop where
  ticket : p.ticket = s.schedule.lastTicket + 1
  document : p.document = s.documents.get? p.url
  request : st = .fresh (.validate p.request) ∨ p.request ∈ s.schedule.queued
  sofar : Sofar p next next.coming

theorem Begins.request {r : Request} {ticket : Nat} (h : Begins s r ticket t st)
    (hp : st.pass? = some p) : p.request = r := by
  cases h <;> cases hp <;> rfl

/-- The pass that a task comes to is the one that it was at, up to its number, or it begins. -/
theorem Trades.comes (h : Trades s st t next) (hp : next.pass? = some p) :
    (∃ q, st.pass? = some q ∧ p.unnumbered = q.unnumbered) ∨ Opens s st next p := by
  rcases h.pass_cases hp with ⟨q, hq, he, _⟩ | begun
  · exact Or.inl ⟨q, hq, he⟩
  cases h with
  | nothing begun same pass =>
    rw [hp, Option.map_some] at pass
    obtain ⟨q, hq, he⟩ := Option.map_eq_some_iff.mp pass.symm
    exact Or.inl ⟨q, hq, he.symm⟩
  | wait r here busy queued ended | stale r here old same es ended
  | free r here owner empty freed es ended =>
    subst ended
    cases hp
  | close v here cancelled holding => simp [Stage.holding?, hp] at holding
  | start r here idle claimed v documents begins =>
    cases begins.request hp
    exact Or.inr ⟨begun.ticket, begun.document, Or.inl here, begins.sofar hp⟩
  | replay q here owner r handed v documents begins =>
    cases begins.request hp
    exact Or.inr ⟨begun.ticket, begun.document, Or.inr handed.waited, begins.sofar hp⟩

end Session

end Considerate
