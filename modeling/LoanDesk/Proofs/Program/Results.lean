/-
# What a bracket gives and leaves

A program that runs by itself (`Program.Runs`) and gets a result from a bracket has run the body of
the bracket to its end on the book that was stored before. So the result and the rows that are stored
afterwards satisfy whatever the body brings on that book, numbers of others and failing operations
notwithstanding (`Runs.bracket`).

`Commits D m` says that the action `m` is one bracket whose body makes a change by the deed `D a` for
what `a` it gives. Such an action is ordered, and by itself it delivers nothing and makes that
change. `Announces D T u m` is for actions that check, make one change and then tell of it: they are
ordered, `T` ties what they give to the events and to the rows before and after, and up to `u` it is
all the same to them whether the events arrive.
-/

import LoanDesk.Proofs.Program.Undelivered
import LoanDesk.Proofs.Program.Ordered

namespace LoanDesk
namespace Program

variable {α β ε : Type}

/-- A body within its transaction delivers and commits nothing, and what it gives it has brought
about in the book of the transaction. -/
theorem Runs.within {tx : TxId} {Q : α → Book → Prop} {E : ε → Book → Prop}
    {p : Program (Except ε α)} {s t : Store} {es : List Event} {x : Except ε α}
    (h : Runs p s es x t) : WithinRun tx p → (s.view tx).Keyed →
      Ensures Book.shared (outcome Q E) p (s.book tx) →
        es = [] ∧ t.rows = s.rows ∧ ∀ a, x = .ok a → Q a (t.book tx) := by
  induction h with
  | done x s =>
    intro _ _ hq
    refine ⟨rfl, rfl, ?_⟩
    rintro a rfl
    exact hq _ (Book.shared.refl _)
  | @step c next s t u x es y hmay hr ih =>
    cases c with
    | call i c =>
      rintro ⟨rfl, hok, herr⟩ hk hq
      cases x with
      | ok a =>
        have hdoes : (.ok a, t) = s.perform i c := hmay.resolve_right fun ⟨⟨_, he⟩, _⟩ => by cases he
        obtain ⟨hbook, -, hkt⟩ := Store.perform_ok hk hdoes.symm
        obtain ⟨hes, hrows, hx⟩ :=
          ih (hok a) hkt (hq _ (Book.shared.refl _) (.ok a) _ ⟨_, hbook⟩).2
        refine ⟨hes, hrows.trans ?_, hx⟩
        rw [← Store.rows_perform s i c, ← hdoes]
      | error e =>
        -- the body ends where a call fails
        obtain ⟨e', he'⟩ := herr e
        have hrows : t.rows = s.rows := hmay.rows.resolve_right fun ⟨_, hc, _⟩ => by cases hc
        rw [he'] at hr
        cases hr
        exact ⟨rfl, hrows, nofun⟩
    | begin | commit | drop | deliver => exact fun hw => hw.elim

/-- **A bracket gives what its body brings on the book that was stored**, and leaves the rows that
its body leaves if it commits. -/
theorem Runs.bracket {blame : StoreError → ε} {keep : α → Bool} {body : TxId → ExceptT ε Program α}
    {Q : α → Book → Prop} {s t : Store} {es : List Event} {a : α}
    (h : Runs (Program.bracket blame keep body).run s es (.ok a) t) (hk : s.rows.Keyed)
    (hw : ∀ tx, Within tx (body tx))
    (hq : ∀ tx, Brings Book.shared Q (fun _ _ => True) (body tx) s.stored) :
    es = [] ∧ ∃ b, Q a b ∧ t.rows = if keep a then b.rows else s.rows := by
  rw [bracket_run] at h
  cases h with
  | @step _ _ _ u _ x es _ hmay hr =>
    cases x with
    | error e => cases hr
    | ok tx =>
      obtain ⟨htx, rfl⟩ := hmay.resolve_right fun ⟨⟨_, he⟩, _⟩ => by cases he
      obtain rfl := Except.ok.inj htx
      have hview : s.begin.2.view s.begin.1 = s.rows := congrArg Book.rows s.book_begin
      obtain ⟨es₁, es₂, r, v, hbody, hclose, rfl⟩ := runs_bind hr
      have hq := hq s.begin.1
      rw [← s.book_begin] at hq
      obtain ⟨rfl, hrows, hbrings⟩ := hbody.within (hw _) (by rw [hview]; exact hk) hq
      have hv : v.rows = s.rows := hrows
      cases r with
      | error e =>
        cases hclose with
        | step _ hdone => cases hdone
      | ok a' =>
        change Runs (if keep a' then _ else _) _ _ _ _ at hclose
        split at hclose
        · rename_i hkeep
          cases hclose with
          | @step _ _ _ _ _ y _ _ hmay' hdone =>
            cases y with
            | error e => cases hdone
            | ok _ =>
              cases hdone
              obtain ⟨-, rfl⟩ := hmay'.resolve_right fun ⟨⟨_, he⟩, _⟩ => by cases he
              exact ⟨rfl, _, hbrings a rfl, (if_pos hkeep).symm⟩
        · rename_i hkeep
          cases hclose with
          | step hmay' hdone =>
            cases hdone
            obtain rfl := hmay'.resolve_right id
            exact ⟨rfl, _, hbrings a rfl, hv.trans (if_neg hkeep).symm⟩

/-! ### Actions that commit one change -/

/-- The action is one bracket that is kept, and its body makes a change by a deed that fits what it
gives. -/
def Commits (D : α → Book → Book → Prop) (m : ExceptT ε Program α) : Prop :=
  ∃ blame body, m = bracket blame (fun _ => true) body ∧ (∀ tx, Within tx (body tx)) ∧
    ∀ tx b, b.rows.Keyed → Brings Book.shared (fun a b' => D a b b') (fun _ _ => True) (body tx) b

namespace Commits

variable {D : α → Book → Book → Prop} {m : ExceptT ε Program α}

/-- An action that commits one change keeps order. -/
theorem ordered {D' : Book → Book → Prop} (h : Commits D m) (hD : ∀ {a b b'}, D a b b' → D' b b') :
    Ordered D' m := by
  obtain ⟨blame, body, rfl, hw, hd⟩ := h
  refine .bracket hw fun tx b hk => ?_
  exact (hd tx b hk).mono (fun _ _ h _ => hD h) fun _ _ h => h

/-- By itself the action makes its change, and delivers nothing. -/
theorem runs (h : Commits D m) {s t : Store} {es : List Event} {a : α}
    (hr : Runs m.run s es (.ok a) t) (hk : s.rows.Keyed) :
    es = [] ∧ ∃ last, D a s.stored ⟨t.rows, last⟩ := by
  obtain ⟨blame, body, rfl, hw, hd⟩ := h
  obtain ⟨rfl, b, hb, hrows⟩ := hr.bracket hk hw fun tx => hd tx s.stored hk
  refine ⟨rfl, b.last, ?_⟩
  rw [hrows]
  exact hb

/-- An action that commits one change delivers nothing. -/
theorem silent (h : Commits D m) : Silent m.run := by
  obtain ⟨blame, body, rfl, hw, -⟩ := h
  exact silent_bracket fun tx => (hw tx).quiet

end Commits

/-! ### Actions that tell of their change -/

/-- The action delivers events and cannot fail. What it delivers and what it gives satisfy `P`. -/
structure Telling (P : List Event → α → Prop) (m : ExceptT ε Program α) : Prop where
  ordered (D : Book → Book → Prop) : Ordered D m
  unfailing : Unfailing m
  told : ∀ {s es a t}, Runs m.run s es (.ok a) t → t.rows = s.rows ∧ P es a

/-- A value that is given tells of nothing. -/
theorem telling_pure {P : List Event → α → Prop} {a : α} (h : P [] a) :
    Telling P (pure a : ExceptT ε Program α) where
  ordered _ := .pure a
  unfailing := unfailing_pure a
  told hr := by
    cases hr
    exact ⟨rfl, h⟩

/-- A delivery tells of its event. -/
theorem telling_deliver (e : Event) :
    Telling (fun es _ => es = [e]) (ExceptT.lift (deliver e) : ExceptT ε Program (Option String)) where
  ordered _ := .deliver e
  unfailing := unfailing_lift _
  told hr := by
    cases hr with
    | @step _ _ _ u _ x _ _ hmay hr =>
      obtain rfl := hmay.resolve_right id
      cases x <;> cases hr <;> exact ⟨rfl, rfl⟩

/-- Two parts that tell of something tell of both, one after the other. -/
theorem Telling.bind {P : List Event → α → Prop} {Q : List Event → β → Prop}
    {m : ExceptT ε Program α} {f : α → ExceptT ε Program β} (hm : Telling P m)
    (hf : ∀ a, Telling (fun es₂ b => ∀ es₁, P es₁ a → Q (es₁ ++ es₂) b) (f a)) :
    Telling Q (m >>= f) where
  ordered D := .bind (hm.ordered D) (fun a => (hf a).ordered D) (.inr fun a => (hf a).unfailing)
  unfailing := Unfailing.bind hm.unfailing fun a => (hf a).unfailing
  told hr := by
    obtain ⟨_, he, _⟩ | ⟨es₁, es₂, a, u, h₁, h₂, rfl⟩ := runs_bindExcept hr
    · cases he
    · obtain ⟨hu, hp⟩ := hm.told h₁
      obtain ⟨ht, hq⟩ := (hf a).told h₂
      exact ⟨ht.trans hu, hq es₁ hp⟩

/-- An action that makes a change and then tells of it has made the change when it succeeds, and what
it delivers and gives goes with what the change has given. -/
theorem Commits.told {C : β → Book → Book → Prop} {P : β → List Event → α → Prop}
    {c : ExceptT ε Program β} {f : β → ExceptT ε Program α} (hc : Commits C c)
    (hf : ∀ x, Telling (P x) (f x)) {s t : Store} {es : List Event} {a : α}
    (hr : Runs (c >>= f).run s es (.ok a) t) (hk : s.rows.Keyed) :
    ∃ x last, C x s.stored ⟨t.rows, last⟩ ∧ P x es a := by
  obtain ⟨_, he, _⟩ | ⟨es₁, es₂, x, u, h₁, h₂, rfl⟩ := runs_bindExcept hr
  · cases he
  · obtain ⟨rfl, last, h⟩ := hc.runs h₁ hk
    obtain ⟨ht, hP⟩ := (hf x).told h₂
    rw [← ht] at h
    exact ⟨x, last, h, hP⟩

/-- The action keeps order. Where it succeeds by itself, what it gives, the events that it delivers
and the rows that are stored before and after satisfy `T`. What becomes of the events changes nothing
but what `u` takes out of what it gives. -/
structure Announces (D : Book → Book → Prop) (T : α → List Event → Rows → Rows → Prop) (u : α → α)
    (m : ExceptT ε Program α) : Prop where
  ordered : Ordered D m
  told : ∀ {s es a t}, s.rows.Keyed → Runs m.run s es (.ok a) t → T a es s.rows t.rows
  heedless : Heedless u m

namespace Announces

variable {D : Book → Book → Prop} {T : α → List Event → Rows → Rows → Prop} {u : α → α}
  {m : ExceptT ε Program α}

/-- An error announces nothing. -/
theorem throw (e : ε) : Announces D T u (MonadExcept.throw e : ExceptT ε Program α) where
  ordered := .throw e
  told _ hr := by cases hr
  heedless := Silent.heedless (silent_done _)

/-- An action that only reads has nothing to tell. -/
theorem still (ht : Tidy [] [] m.run) (hq : Quiet m.run) (hT : ∀ a rows, T a [] rows rows) :
    Announces D T u m where
  ordered := .still ht hq
  told _ hr := by
    obtain ⟨ht, rfl⟩ := hq.runs hr
    rw [ht]
    exact hT _ _
  heedless := hq.silent.heedless

/-- Checks and reads may come first. -/
theorem check {q : ExceptT ε Program β} {f : β → ExceptT ε Program α} (h : Ordered D q)
    (hq : Quiet q.run) (hf : ∀ x, Announces D T u (f x)) : Announces D T u (q >>= f) where
  ordered := .bind h (fun x => (hf x).ordered) (.inl hq)
  told hk hr := by
    obtain ⟨_, he, _⟩ | ⟨es₁, es₂, x, u, h₁, h₂, rfl⟩ := runs_bindExcept hr
    · cases he
    · obtain ⟨hu, rfl⟩ := hq.runs h₁
      rw [← hu] at hk ⊢
      exact (hf x).told hk h₂
  heedless := hq.silent.heedless_bind fun x => (hf x).heedless

/-- One change that is not told of. -/
theorem commit {C : α → Book → Book → Prop} (hc : Commits C m) (hD : ∀ {a b b'}, C a b b' → D b b')
    (hT : ∀ {a b b'}, C a b b' → T a [] b.rows b'.rows) : Announces D T u m where
  ordered := hc.ordered hD
  told hk hr := by
    obtain ⟨rfl, _, h⟩ := hc.runs hr hk
    exact hT h
  heedless := hc.silent.heedless

/-- **One change, and then it is told of.** -/
theorem change {C : β → Book → Book → Prop} {c : ExceptT ε Program β}
    {f : β → ExceptT ε Program α} (hc : Commits C c) (hD : ∀ {x b b'}, C x b b' → D b b')
    (hu : ∀ x, Heedless u (f x))
    (hf : ∀ x, Telling (fun es a => ∀ {b b'}, C x b b' → T a es b.rows b'.rows) (f x)) :
    Announces D T u (c >>= f) where
  ordered := .bind (hc.ordered hD) (fun x => (hf x).ordered D) (.inr fun x => (hf x).unfailing)
  told hk hr := by
    obtain ⟨_, _, h, hT⟩ := hc.told hf hr hk
    exact hT h
  heedless := hc.silent.heedless_bind hu

end Announces
end Program
end LoanDesk
