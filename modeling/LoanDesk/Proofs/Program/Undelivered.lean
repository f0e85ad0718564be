/-
# Programs that do not heed deliveries

An event may arrive or not, and a program is told which. Here the mailbox of a session gives way to
a *notifier*, which answers for each event as it likes, by what it was told before
(`Session.runWith`). The mailbox is one such notifier (`Session.run_eq_runWith`).

`Regardless R p q` says that the programs take the same steps whatever answers each of them gets for
its events, and that `R` relates their results in the end. It is read off the programs, so it goes
through binds, and a program that delivers nothing is regardless of itself. `Heedless u m` says the
same of an action beside itself, with what it gives compared by `u`.
-/

import LoanDesk.Proofs.Program.Runs

namespace LoanDesk

/-- What becomes of an event, by the events that were told before it. -/
abbrev Notifier := List Event → Event → Except DeliveryError Unit

/-- The answers of a mailbox. -/
def Mailbox.notifier (m : Mailbox) : Notifier := fun told e => ((m.deliverAll told).deliver e).1

namespace Session

variable {α : Type}

/-- What a command does where a notifier answers for the events. The events that it was told are
kept beside the session, whose mailbox has no part in it. -/
def handleWith (n : Notifier) : (c : Command) → StateM (Session × List Event) c.Answer
  | .deliver e => modifyGet fun s => (n s.2 e, (s.1, s.2 ++ [e]))
  | c => modifyGet fun s => let r := handle c s.1; (r.1, (r.2, s.2))

/-- A program is run, and a notifier told of its events. -/
def runWith (n : Notifier) (p : Program α) : StateM (Session × List Event) α :=
  p.run (handleWith n)

/-- A program that is run with a notifier goes on with the answer to its first command. -/
theorem runWith_step (n : Notifier) (c : Command) (next : c.Answer → Program α)
    (s : Session × List Event) :
    runWith n (.step c next) s = runWith n (next (handleWith n c s).1) (handleWith n c s).2 := rfl

/-- Commands other than deliveries do not look at the mailbox. -/
theorem handle_mailbox {c : Command} (hc : Program.events c = []) (s : Session) (m : Mailbox) :
    handle c { s with mailbox := m } = ((handle c s).1, { (handle c s).2 with mailbox := m }) := by
  cases c with
  | begin =>
    rw [handle_begin, handle_begin]
    dsimp only
    split <;> rfl
  | call tx c =>
    rw [handle_call, handle_call]
    dsimp only
    split <;> rfl
  | commit tx =>
    rw [handle_commit, handle_commit]
    dsimp only
    split <;> rfl
  | drop tx => rfl
  | deliver e => cases hc

/-- Running with a mailbox is running with its answers, also after some events. -/
theorem run_eq_runWith_after (p : Program α) (m : Mailbox) :
    ∀ (s : Session) (told : List Event),
      run p { s with mailbox := m.deliverAll told } =
        ((runWith m.notifier p (s, told)).1,
          { (runWith m.notifier p (s, told)).2.1 with
            mailbox := m.deliverAll (runWith m.notifier p (s, told)).2.2 }) := by
  induction p with
  | done a => exact fun _ _ => rfl
  | step c next ih =>
    intro s told
    have hrun : run (.step c next) { s with mailbox := m.deliverAll told } =
        run (next (handle c { s with mailbox := m.deliverAll told }).1)
          (handle c { s with mailbox := m.deliverAll told }).2 := rfl
    cases c with
    | deliver e =>
      have hm : ((m.deliverAll told).deliver e).2 = m.deliverAll (told ++ [e]) :=
        (m.deliverAll_append told [e]).symm
      rw [hrun, runWith_step]
      refine Eq.trans ?_ (ih _ s (told ++ [e]))
      rw [← hm]
      rfl
    | begin | call | commit | drop =>
      rw [hrun, handle_mailbox rfl, runWith_step]
      exact ih _ _ told

/-- **A session's mailbox is a notifier**: what it answers is all that a program gets to know of
it. -/
theorem run_eq_runWith (p : Program α) (s : Session) :
    run p s = ((runWith s.mailbox.notifier p (s, [])).1,
      { (runWith s.mailbox.notifier p (s, [])).2.1 with
        mailbox := s.mailbox.deliverAll (runWith s.mailbox.notifier p (s, [])).2.2 }) :=
  run_eq_runWith_after p s.mailbox s []

end Session

namespace Program

variable {α β γ δ ε : Type}

/-! ### Two programs side by side -/

/-- The programs take the same steps whatever becomes of the events that each of them delivers, and
their results are related. -/
inductive Regardless (R : α → β → Prop) : Program α → Program β → Prop
  | done {a : α} {b : β} (h : R a b) : Regardless R (.done a) (.done b)
  | step {c : Command} {next : c.Answer → Program α} {next' : c.Answer → Program β}
      (hc : events c = []) (h : ∀ x, Regardless R (next x) (next' x)) :
      Regardless R (.step c next) (.step c next')
  | deliver {e : Event} {next : Except DeliveryError Unit → Program α}
      {next' : Except DeliveryError Unit → Program β}
      (h : ∀ x y, Regardless R (next x) (next' y)) :
      Regardless R (.step (.deliver e) next) (.step (.deliver e) next')

namespace Regardless

variable {R : α → β → Prop} {S : γ → δ → Prop} {p : Program α} {q : Program β}

/-- Two programs that are regardless of events are so with what follows them. -/
theorem bind {f : α → Program γ} {g : β → Program δ} (h : Regardless R p q)
    (hf : ∀ {a b}, R a b → Regardless S (f a) (g b)) : Regardless S (p.bind f) (q.bind g) := by
  induction h with
  | done hab => exact hf hab
  | step hc _ ih => exact .step hc ih
  | deliver _ ih => exact .deliver ih

/-- **Two notifiers make no difference.** Run from one session the programs leave it alike and have
told the same events, and their results are related. -/
theorem runWith (n n' : Notifier) (h : Regardless R p q) : ∀ s : Session × List Event,
    R (Session.runWith n p s).1 (Session.runWith n' q s).1 ∧
      (Session.runWith n p s).2 = (Session.runWith n' q s).2 := by
  induction h with
  | done hab => exact fun s => ⟨hab, rfl⟩
  | @step c next next' hc _ ih =>
    intro s
    have hsame : Session.handleWith n c s = Session.handleWith n' c s := by
      cases c with
      | deliver e => cases hc
      | begin | call | commit | drop => rfl
    rw [Session.runWith_step, Session.runWith_step, hsame]
    exact ih _ _
  | deliver _ ih => exact fun s => ih (n s.2 _) (n' s.2 _) _

end Regardless

/-- A program that delivers nothing is regardless of itself. -/
theorem Silent.regardless : ∀ {p : Program α}, Silent p → Regardless Eq p p
  | .done _, _ => .done rfl
  | .step _ _, ⟨hc, h⟩ => .step hc fun x => (h x).regardless

/-- What delivers nothing may come first. -/
theorem Silent.regardless_bind {S : β → γ → Prop} {p : Program α} {f : α → Program β}
    {g : α → Program γ} (hp : Silent p) (hf : ∀ a, Regardless S (f a) (g a)) :
    Regardless S (p.bind f) (p.bind g) := by
  refine hp.regardless.bind fun {a b} hab => ?_
  obtain rfl := hab
  exact hf a

/-- One event is delivered, and the answer may be anything. -/
theorem regardless_deliver (e : Event) :
    Regardless (fun _ _ => True) (deliver e) (deliver e) :=
  .deliver fun x y => by cases x <;> cases y <;> exact .done trivial

/-! ### Actions -/

/-- The actions take the same steps whatever becomes of their events, and give the same up to
`u`. -/
def Akin (u : α → γ) (m m' : ExceptT ε Program α) : Prop :=
  Regardless (fun r r' => r.map u = r'.map u) m.run m'.run

/-- The action does what it does, and gives the same up to `u`, whatever becomes of its events. -/
def Heedless (u : α → γ) (m : ExceptT ε Program α) : Prop := Akin u m m

section

variable {u : α → γ} {m m' : ExceptT ε Program α}

/-- Values that are equal up to what is compared are akin. -/
theorem akin_pure {a a' : α} (h : u a = u a') :
    Akin u (pure a : ExceptT ε Program α) (pure a') :=
  .done (congrArg Except.ok h)

/-- Two parts that are akin are so one after the other. -/
theorem Akin.bind {v : β → δ} {f f' : α → ExceptT ε Program β} (hm : Akin u m m')
    (hf : ∀ {a a'}, u a = u a' → Akin v (f a) (f' a')) : Akin v (m >>= f) (m' >>= f') := by
  refine Regardless.bind (f := ExceptT.bindCont f) (g := ExceptT.bindCont f') hm fun {r r'} hr => ?_
  cases r with
  | error e =>
    cases r' with
    | error e' =>
      cases hr
      exact .done rfl
    | ok a' => cases hr
  | ok a =>
    cases r' with
    | error e' => cases hr
    | ok a' => exact hf (Except.ok.inj hr)

/-- An action that delivers nothing does not heed deliveries. -/
theorem Silent.heedless (h : Silent m.run) : Heedless u m := by
  have h := h.regardless.bind (S := fun r r' => r.map u = r'.map u)
    (f := .done) (g := .done) fun hab => .done (congrArg _ hab)
  rwa [bind_pure] at h

/-- An action that delivers nothing may be followed by one that does not heed deliveries. -/
theorem Silent.heedless_bind {v : β → δ} {f : α → ExceptT ε Program β} (hm : Silent m.run)
    (hf : ∀ a, Heedless v (f a)) : Heedless v (m >>= f) := by
  refine hm.regardless_bind (f := ExceptT.bindCont f) (g := ExceptT.bindCont f) fun r => ?_
  cases r with
  | error e => exact .done rfl
  | ok a => exact hf a

/-- One event is delivered. -/
theorem heedless_deliver (e : Event) :
    Heedless (fun _ => ()) (ExceptT.lift (deliver e) : ExceptT ε Program (Option String)) :=
  (regardless_deliver e).bind fun _ => .done rfl

/-- What is given after an event does not show whether it arrived. -/
theorem heedless_tell (e : Event) {f : Option String → α} (h : ∀ x y, u (f x) = u (f y)) :
    Heedless u (do return f (← ExceptT.lift (deliver e)) : ExceptT ε Program α) :=
  (heedless_deliver e).bind fun _ => akin_pure (h _ _)

end

end Program
end LoanDesk
