/-
# Failures leave no trace

Whatever goes wrong in an operation, and wherever it does, nothing that is stored has changed and
nobody was told. Its locks are free again and those of others are as they were; only the counters
may have gone up.

A message is answered by one action after checks that touch nothing, and a reply that tells of
success is given only where the action succeeded. So the tables are as before whenever the status of
the reply is not one of success (`Http.rows_serve`).
-/

import LoanDesk.Http.Server
import LoanDesk.Proofs.Desk.Histories

namespace LoanDesk

open Program

/-! ### Mailboxes -/

/-- A program that hands in no events leaves the mailbox as it was. -/
theorem Program.mailbox_run {α : Type} (p : Program α) (s : Session) (h : dispatched p s = []) :
    (Session.run p s).2.mailbox = s.mailbox := by
  rw [mailbox_dispatched, h]
  rfl

namespace Http

/-! ### Messages -/

/-- The status is one of success. -/
def Reply.Succeeds (r : Reply) : Prop := 200 ≤ r.status ∧ r.status < 300

/-- Where there is an ordinary reply it tells of success, and where there is none nothing that is
stored has changed. -/
structure Honest (m : Answer Reply) : Prop where
  clean : Clean m
  succeeds : ∀ {s es r t}, Runs m.run s es (.ok r) t → r.Succeeds

/-- Checks that touch nothing may come before an honest answer. -/
theorem Honest.of_quiet {α : Type} {m : Answer α} {f : α → Answer Reply} (hm : Quiet m.run)
    (hf : ∀ a, Honest (f a)) : Honest (m >>= f) where
  clean := hm.clean_bind fun a => (hf a).clean
  succeeds h := by
    rcases runs_bindExcept h with ⟨_, he, -⟩ | ⟨_, _, a, _, -, h₂, -⟩
    · cases he
    · exact (hf a).succeeds h₂

/-- A reply with a status of success tells of success. -/
theorem succeeds_of {status : Nat} {b : Option Json} (h : 200 ≤ status ∧ status < 300) :
    Reply.Succeeds ⟨status, b⟩ := h

/-- A rejection is honest: nothing was done. -/
theorem honest_throw (e : Rejection) : Honest (throw e) where
  clean := Quiet.clean (m := (throw e : Answer Reply)) trivial
  succeeds h := by cases h

/-- An action whose failure is told runs as it does, and fails no other way. -/
theorem runs_told {α : Type} {t : Desk.Action α} {s u : Store} {es : List Event}
    {x : Except Rejection α} (h : Runs (run t).run s es x u) :
    ∃ r, Runs t.run s es r u ∧ x = r.mapError Rejection.told := by
  rcases runs_bindExcept h with ⟨_, -, h⟩ | ⟨es₁, es₂, r, v, h₁, h₂, rfl⟩
  · exact absurd h (unfailing_lift _)
  · obtain ⟨es₃, es₄, r', v', h₃, h₄, rfl⟩ := runs_bind (f := fun r => .done (Except.ok r)) h₁
    cases h₄
    refine ⟨r, ?_, ?_⟩
    · cases r <;> cases h₂ <;> simpa using h₃
    · cases r <;> cases h₂ <;> rfl

/-- A clean action is a clean answer. -/
theorem clean_run {α : Type} {t : Desk.Action α} (ht : Clean t) : Clean (run t) := by
  intro s es e u h
  obtain ⟨r, hr, hx⟩ := runs_told h
  cases r with
  | ok a => cases hx
  | error f => exact ht hr

/-- The reply to an action that succeeded. -/
theorem Honest.of_clean {α : Type} {t : Desk.Action α} (ht : Clean t) {g : α → Reply}
    (hg : ∀ a, (g a).Succeeds) : Honest (run t >>= fun a => pure (g a)) where
  clean := Clean.bind (clean_run ht) fun _ => unfailing_pure _
  succeeds h := by
    rcases runs_bindExcept h with ⟨_, he, -⟩ | ⟨_, _, a, _, -, h₂, -⟩
    · cases he
    · cases h₂
      exact hg a

/-- A check of an answer is quiet. -/
theorem quiet_ensure {α : Type} (r : Except Refusal α) : Quiet (ensure r).run := by
  cases r <;> exact trivial

/-- Looking for what may be missing in a message is quiet. -/
theorem quiet_orStatus {α : Type} (status : Nat) (a? : Option α) :
    Quiet (orStatus status a?).run := by
  cases a? <;> exact trivial

/-- Reading the body of a message is quiet. -/
theorem quiet_body {α : Type} (m : Message) (b : Body α) : Quiet (body m b).run := by
  unfold body
  dsimp only
  split
  · exact trivial
  split
  · exact trivial
  split
  · exact quiet_orStatus _ _
  · exact trivial
  · exact trivial

/-- Showing a request is quiet. -/
theorem quiet_showRequest (id : Int) (caller : Caller) : Quiet (showRequest id caller).run := by
  have hbody : ∀ tx, Within tx (do
      let r ← Desk.ask tx (.getRequest id)
      return RequestOverview.of r (← Desk.ask tx (.linesOfRequests [id])) : Desk.Action _) :=
    fun tx => (within_ask _ _).bind fun _ => (within_ask _ _).bind fun _ => within_pure _
  refine Quiet.bindExcept (quiet_bracket fun tx => (hbody tx).quiet) fun o => ?_
  split
  · split <;> exact trivial
  · exact trivial

/-- **Replies are honest** at every endpoint. -/
theorem honest_answer (m : Message) (query : List Char) (caller : Caller) (settings : Jobs.Settings)
    (rounds : Nat) (now : Instant) (e : Endpoint) :
    Honest (answer m query caller settings rounds now e) := by
  have hclean : ∀ o : Operation, Clean (o.action caller now) := fun o =>
    (Desk.ordered_action o caller now).clean
  cases e with
  | openRequest =>
    refine .of_quiet (quiet_body _ _) fun c => ?_
    refine .of_clean (hclean (.openRequest c)) fun _ => ?_
    exact succeeds_of (by decide)
  | listRequests =>
    refine .of_quiet (quiet_orStatus _ _) fun q => ?_
    refine .of_quiet (quiet_ensure _) fun x => ?_
    refine .of_clean (hclean (.listOverviews _ _)) fun _ => ?_
    exact succeeds_of (by decide)
  | showRequest id =>
    refine .of_quiet (quiet_orStatus _ _) fun id => ?_
    refine .of_clean (quiet_showRequest id caller).clean fun _ => ?_
    exact succeeds_of (by decide)
  | deleteRequest id =>
    refine .of_quiet (quiet_orStatus _ _) fun id => ?_
    refine .of_quiet (quiet_ensure _) fun _ => ?_
    refine .of_clean (hclean (.deleteRequest id)) fun _ => ?_
    exact succeeds_of (by decide)
  | propose request =>
    refine .of_quiet (quiet_orStatus _ _) fun _ => ?_
    refine .of_quiet (quiet_body _ _) fun c => ?_
    refine .of_quiet (quiet_ensure _) fun _ => ?_
    refine .of_clean (hclean (.propose c)) fun _ => ?_
    exact succeeds_of (by decide)
  | confirm request =>
    refine .of_quiet (quiet_orStatus _ _) fun _ => ?_
    refine .of_quiet (quiet_body _ _) fun c => ?_
    refine .of_quiet (quiet_ensure _) fun _ => ?_
    refine .of_clean (hclean (.confirm c)) fun _ => ?_
    exact succeeds_of (by decide)
  | cancel request =>
    refine .of_quiet (quiet_orStatus _ _) fun _ => ?_
    refine .of_quiet (quiet_body _ _) fun c => ?_
    refine .of_quiet (quiet_ensure _) fun _ => ?_
    refine .of_clean (hclean (.cancel c)) fun _ => ?_
    exact succeeds_of (by decide)
  | accept offer =>
    refine .of_quiet (quiet_orStatus _ _) fun _ => ?_
    refine .of_quiet (quiet_body _ _) fun c => ?_
    refine .of_clean (hclean (.accept c)) fun _ => ?_
    exact succeeds_of (by decide)
  | decline offer =>
    refine .of_quiet (quiet_orStatus _ _) fun offer => ?_
    refine .of_clean (hclean (.decline offer)) fun _ => ?_
    exact succeeds_of (by decide)
  | offersFor investor =>
    refine .of_quiet (quiet_orStatus _ _) fun investor => ?_
    refine .of_clean (hclean (.offersFor investor)) fun _ => ?_
    exact succeeds_of (by decide)
  | createPackage line =>
    refine .of_quiet (quiet_orStatus _ _) fun line => ?_
    refine .of_quiet (quiet_ensure _) fun _ => ?_
    refine .of_clean (hclean (.createPackage line)) fun _ => ?_
    exact succeeds_of (by decide)
  | setGuaranteeEnd contract =>
    refine .of_quiet (quiet_orStatus _ _) fun contract => ?_
    refine .of_quiet (quiet_body _ _) fun at_ => ?_
    refine .of_quiet (quiet_ensure _) fun _ => ?_
    refine .of_clean (hclean (.setGuaranteeEnd contract at_)) fun _ => ?_
    exact succeeds_of (by decide)
  | withdraw symbol =>
    refine .of_quiet (quiet_orStatus _ _) fun symbol => ?_
    refine .of_quiet (quiet_ensure _) fun _ => ?_
    refine .of_clean (hclean (.withdraw symbol)) fun _ => ?_
    exact succeeds_of (by decide)
  | addCeiling =>
    refine .of_quiet (quiet_body _ _) fun ⟨rate, affectedFrom⟩ => ?_
    refine .of_quiet (quiet_ensure _) fun _ => ?_
    refine .of_clean (hclean (.addCeiling rate _)) fun _ => ?_
    exact succeeds_of (by decide)
  | currentCeiling =>
    refine .of_quiet (quiet_ensure _) fun _ => ?_
    refine .of_clean (hclean .currentCeiling) fun _ => ?_
    exact succeeds_of (by decide)
  | listJobs =>
    refine .of_quiet (quiet_orStatus _ _) fun q => ?_
    refine .of_quiet (quiet_ensure _) fun _ => ?_
    refine .of_quiet (quiet_ensure _) fun kind => ?_
    refine .of_clean (hclean (.listJobs kind _)) fun _ => ?_
    exact succeeds_of (by decide)
  | runJobs =>
    refine .of_quiet (quiet_ensure _) fun _ => ⟨fun h => ?_, fun h => ?_⟩
    · exact absurd h (Unfailing.bind (unfailing_lift _) fun _ => unfailing_pure _)
    · rcases runs_bindExcept h with ⟨_, he, -⟩ | ⟨_, _, a, _, -, h₂, -⟩
      · cases he
      · cases h₂
        exact succeeds_of (by decide)

/-- Honest steps whose reply, or rejection, is sent with its status. -/
theorem Honest.rows {steps : Answer Reply} (hs : Honest steps)
    {send : Except Rejection Reply → Program Reply}
    (hok : ∀ r, ∃ r', send (.ok r) = .done r' ∧ r'.status = r.status)
    (herror : ∀ e, ∃ r', send (.error e) = .done r') {s t : Store} {es : List Event} {r : Reply}
    (h : Runs (steps.run.bind send) s es r t) (hr : ¬r.Succeeds) : t.rows = s.rows := by
  obtain ⟨es₁, es₂, x, v, h₁, h₂, -⟩ := runs_bind h
  cases x with
  | error e =>
    obtain ⟨r', he⟩ := herror e
    rw [he] at h₂
    cases h₂
    exact (hs.clean h₁).1
  | ok r₀ =>
    obtain ⟨r', he, hstatus⟩ := hok r₀
    rw [he] at h₂
    cases h₂
    rw [Reply.Succeeds, hstatus] at hr
    exact absurd (hs.succeeds h₁) hr

/-- **A reply that does not tell of success leaves the tables as they were.** -/
theorem rows_serve (m : Message) (settings : Jobs.Settings) (rounds : Nat) (now : Instant)
    {s t : Store} {es : List Event} {r : Reply} (h : Runs (serve m settings rounds now) s es r t)
    (hr : ¬r.Succeeds) : t.rows = s.rows := by
  unfold serve at h
  generalize splitTarget m.target = x at h
  obtain ⟨path, query⟩ := x
  dsimp only at h
  generalize findEndpoint m.method path = found at h
  generalize identify m.headers = who at h
  refine Honest.rows ?_ (fun r => ⟨_, rfl, ?_⟩) (fun e => ⟨_, rfl⟩) h hr
  · cases who with
    | error f => exact honest_throw _
    | ok caller =>
      cases found with
      | error status => exact honest_throw _
      | ok e => exact honest_answer _ _ _ _ _ _ _
  · split <;> rfl

end Http

/-! ### Operations and messages -/

/-- **Failures leave no trace.**  Of an operation that fails nothing is stored and nobody is told of
it. Whether it fails or not, the locks and the open transactions of others are as they were, and its
own are gone. Nothing is stored either where a message is not answered with success. The store is
any that has come about, whoever is at work in it (`Store.Reached.orderly`). -/
theorem Session.failure_leaves_no_trace {s : Session} (hs : s.store.Orderly) :
    (∀ (o : Operation) (caller : Caller) (now : Instant),
      let p := (o.action caller now).run
      let t := (Session.run p s).2
      (∀ e, (Session.run p s).1 = .error e →
        t.store.rows = s.store.rows ∧ dispatched p s = [] ∧ t.mailbox = s.mailbox) ∧
      t.store.locks = s.store.locks ∧ t.store.opened = s.store.opened ∧
        s.store.lastId ≤ t.store.lastId ∧ s.store.lastTx ≤ t.store.lastTx) ∧
    ∀ (m : Http.Message) (settings : Jobs.Settings) (rounds : Nat) (now : Instant),
      let p := Http.serve m settings rounds now
      ¬(Session.run p s).1.Succeeds → (Session.run p s).2.store.rows = s.store.rows := by
  refine ⟨fun o caller now => ?_, fun m settings rounds now => ?_⟩
  · have hruns := runs_run (o.action caller now).run s
    have hordered := Desk.ordered_action o caller now
    refine ⟨fun e he => ?_, hruns.restores hordered.tidy hs⟩
    rw [he] at hruns
    obtain ⟨hrows, hsent⟩ := hordered.clean hruns
    exact ⟨hrows, hsent, mailbox_run _ s hsent⟩
  · exact Http.rows_serve m settings rounds now (runs_run _ s)

namespace Story

/-- After the offer was made somebody holds the request. -/
def held : Session :=
  let s := (World.played [proposed, opened]).1.begin
  ⟨(s.2.perform s.1 (.lockRequest 1 .noWait)).2, .empty true, []⟩

/-- The store in which somebody holds the request is orderly. -/
theorem orderly_held : held.store.Orderly := by
  have hplayed := (World.history_played [proposed, opened]).sound.1.part.orderly
  exact hplayed.begin.perform ((Store.isOpen_begin _ _).2 (Or.inl rfl)) _

/-- The line cannot be accepted then, and the request is still held. -/
theorem failure_leaves_no_trace_held :
    let p := (Operation.action caller now (.accept ⟨3, 4⟩)).run
    (∃ e, (Session.run p held).1 = .error e) ∧ held.store.locks.holder? (.request 1) = some 3 ∧
      (Session.run p held).2.store.rows = held.store.rows ∧ dispatched p held = [] ∧
      (Session.run p held).2.store.locks = held.store.locks := by
  have hfails : (Session.run (Desk.accept ⟨3, 4⟩ caller now).run held).1.isOk = false := by
    decide +kernel
  obtain ⟨hfail, hlocks, -⟩ :=
    (Session.failure_leaves_no_trace orderly_held).1 (.accept ⟨3, 4⟩) caller now
  cases he : (Session.run (Operation.action caller now (.accept ⟨3, 4⟩)).run held).1 with
  | ok a =>
    rw [show (Session.run (Desk.accept ⟨3, 4⟩ caller now).run held).1 = .ok a from he] at hfails
    cases hfails
  | error e =>
    obtain ⟨hrows, hsent, -⟩ := hfail e he
    exact ⟨⟨e, he⟩, by decide +kernel, hrows, hsent, hlocks⟩

end Story
end LoanDesk
