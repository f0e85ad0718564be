/-
# Programs by themselves

A program that runs by itself goes from one store to another, answers, and delivers events on the way
(`Runs`). A tidy one leaves the locks and the open transactions of the store as they were, whatever
fails on the way (`Runs.restores`).
-/

import LoanDesk.Proofs.Program.Tidy

namespace LoanDesk
namespace Program

variable {α β ε : Type}

/-- The events that a command delivers. -/
def events : Command → List Event
  | .deliver e => [e]
  | _ => []

/-- The program runs by itself, on a store whose operations may fail: from a store it gives a result
and leaves a store, and has delivered events on the way. -/
inductive Runs : Program α → Store → List Event → α → Store → Prop
  | done (a : α) (s : Store) : Runs (.done a) s [] a s
  | step {c : Command} {next : c.Answer → Program α} {s t u : Store} {x : c.Answer}
      {es : List Event} {a : α} (h : s.May c x t) (hr : Runs (next x) t es a u) :
      Runs (.step c next) s (events c ++ es) a u

/-- Two programs that follow each other have each run by itself, and delivered their events in that
order. -/
theorem runs_bind {f : α → Program β} : ∀ {p : Program α} {s : Store} {es : List Event} {b : β}
    {u : Store}, Runs (p.bind f) s es b u →
      ∃ es₁ es₂ a t, Runs p s es₁ a t ∧ Runs (f a) t es₂ b u ∧ es = es₁ ++ es₂
  | .done a, s, es, b, u, h => ⟨[], es, a, s, .done a s, h, rfl⟩
  | .step c next, s, es, b, u, h => by
    cases h with
    | step hmay hr =>
      obtain ⟨es₁, es₂, a, t, h₁, h₂, rfl⟩ := runs_bind hr
      exact ⟨_, es₂, a, t, .step hmay h₁, h₂, (List.append_assoc ..).symm⟩

/-- The program delivers nothing. -/
def Silent : Program α → Prop
  | .done _ => True
  | .step c next => events c = [] ∧ ∀ x, Silent (next x)

/-- A quiet program delivers nothing. -/
theorem Quiet.silent : ∀ {p : Program α}, Quiet p → Silent p
  | .done _, _ => trivial
  | .step .begin _, h | .step (.call _ _) _, h | .step (.drop _) _, h => ⟨rfl, fun x => (h x).silent⟩
  | .step (.commit _) _, h | .step (.deliver _) _, h => h.elim

/-- Two programs that deliver nothing deliver nothing one after the other. -/
theorem Silent.bind {f : α → Program β} (hf : ∀ a, Silent (f a)) :
    ∀ {p : Program α}, Silent p → Silent (p.bind f)
  | .done a, _ => hf a
  | .step _ _, ⟨hc, h⟩ => ⟨hc, fun x => (h x).bind hf⟩

/-- A program that is done delivers nothing. -/
theorem silent_done (a : α) : Silent (.done a) := trivial

/-- A bracket delivers nothing. -/
theorem silent_bracket {blame : StoreError → ε} {keep : α → Bool}
    {body : TxId → ExceptT ε Program α} (h : ∀ tx, Quiet (body tx).run) :
    Silent (bracket blame keep body).run := by
  rw [bracket_run]
  refine ⟨rfl, fun x => ?_⟩
  cases x with
  | error e => exact trivial
  | ok tx =>
    refine (h tx).silent.bind fun r => ?_
    cases r with
    | error e => exact ⟨rfl, fun _ => trivial⟩
    | ok a =>
      change Silent (if keep a then _ else _)
      split
      · exact ⟨rfl, fun x => by cases x <;> exact trivial⟩
      · exact ⟨rfl, fun _ => trivial⟩

/-- A run of a program that delivers nothing has delivered nothing. -/
theorem Runs.silent {p : Program α} {s t : Store} {es : List Event} {a : α} (h : Runs p s es a t) :
    Silent p → es = [] := by
  induction h with
  | done a s => exact fun _ => rfl
  | step hmay hr ih =>
    rintro ⟨hc, hnext⟩
    rw [hc, ih (hnext _)]
    rfl

/-- The events that a session hands to its mailbox in the course of a program. -/
def dispatched : Program α → Session → List Event
  | .done _, _ => []
  | .step c next, s =>
    events c ++ dispatched (next (Session.handle c s).1) (Session.handle c s).2

/-- Of two programs that follow each other the first hands in its events before the second. -/
theorem dispatched_bind (f : α → Program β) : ∀ (p : Program α) (s : Session),
    dispatched (p.bind f) s =
      dispatched p s ++ dispatched (f (Session.run p s).1) (Session.run p s).2
  | .done _, _ => rfl
  | .step c next, s => by
    change events c ++ dispatched ((next _).bind f) _ = _
    rw [dispatched_bind f (next (Session.handle c s).1), ← List.append_assoc]
    rfl

/-- A program does nothing to the mailbox of its session but hand events to it. -/
theorem mailbox_dispatched : ∀ (p : Program α) (s : Session),
    (Session.run p s).2.mailbox = s.mailbox.deliverAll (dispatched p s)
  | .done _, _ => rfl
  | .step c next, s => by
    refine (mailbox_dispatched (next (Session.handle c s).1) (Session.handle c s).2).trans ?_
    rw [dispatched, Mailbox.deliverAll_append]
    congr 1
    cases c with
    | begin => rw [Session.handle_begin]; split <;> rfl
    | call tx c => rw [Session.handle_call]; split <;> rfl
    | commit tx => rw [Session.handle_commit]; split <;> rfl
    | drop tx => rfl
    | deliver e => rfl

/-- What a session does with a program is a run of the program by itself. -/
theorem runs_run : ∀ (p : Program α) (s : Session),
    Runs p s.store (dispatched p s) (Session.run p s).1 (Session.run p s).2.store
  | .done a, s => .done a s.store
  | .step c next, s =>
    .step (Session.handle_may s c) (runs_run (next (Session.handle c s).1) (Session.handle c s).2)

/-- What an action does not deliver itself, the rest delivers. -/
theorem dispatched_bindExcept {m : ExceptT ε Program α} (hm : Silent m.run)
    (f : α → ExceptT ε Program β) (s : Session) : dispatched (m >>= f).run s =
      match Session.run m.run s with
      | (.ok a, t) => dispatched (f a).run t
      | (.error _, _) => [] := by
  change dispatched (m.run.bind (ExceptT.bindCont f)) s = _
  rw [dispatched_bind, (runs_run m.run s).silent hm, List.nil_append]
  generalize Session.run m.run s = x
  obtain ⟨e | a, t⟩ := x <;> rfl

/-- The store is as it was, but for the transactions `mine` that were begun since. -/
structure Besides (mine : List TxId) (s t : Store) : Prop where
  orderly : t.Orderly
  lastId : s.lastId ≤ t.lastId
  lastTx : s.lastTx ≤ t.lastTx
  isOpen : ∀ tx ∈ mine, t.IsOpen tx
  begun : ∀ tx ∈ mine, s.lastTx < tx
  opened : ∀ tx ∉ mine, t.opened.get? tx = s.opened.get? tx
  locks : ∀ key, ∀ tx ∉ mine, t.locks.holder? key = some tx ↔ s.locks.holder? key = some tx

/-- A store is as it was before anything was begun. -/
theorem Besides.refl {s : Store} (h : s.Orderly) : Besides [] s s :=
  ⟨h, Int.le_refl _, Int.le_refl _, fun _ hm => absurd hm List.not_mem_nil,
    fun _ hm => absurd hm List.not_mem_nil, fun _ _ => rfl, fun _ _ _ => Iff.rfl⟩

/-- A transaction that was begun since was not open at first and held no locks. -/
theorem not_open_before {s : Store} (h : s.Orderly) {tx : TxId} (ht : s.lastTx < tx) :
    s.opened.get? tx = none ∧ ∀ key, s.locks.holder? key ≠ some tx := by
  have hclosed : ¬s.IsOpen tx := fun ho => absurd (h.numbered tx ho) (Int.not_le.2 ht)
  refine ⟨?_, fun key hk => hclosed (h.held key tx hk)⟩
  cases ho : s.opened.get? tx with
  | none => rfl
  | some c => exact absurd (by rw [Store.IsOpen, ho]; rfl) hclosed

/-- Beginning a transaction leaves the store as it was besides. -/
theorem Besides.begin {mine : List TxId} {s t : Store} (h : Besides mine s t) :
    t.begin.1 ∉ mine ∧ Besides (t.begin.1 :: mine) s t.begin.2 := by
  have hnew : ∀ i ∈ mine, i ≠ t.lastTx + 1 := by
    rintro i hi rfl
    exact absurd (h.orderly.numbered _ (h.isOpen _ hi)) (Int.not_le.2 (Int.lt_succ _))
  refine ⟨fun hm => hnew _ hm rfl, h.orderly.begin, h.lastId,
    Int.le_trans h.lastTx (Int.le_add_one (Int.le_refl _)), ?_, ?_, ?_, ?_⟩
  · intro i hi
    rw [Store.isOpen_begin]
    rcases List.mem_cons.1 hi with rfl | hi
    · exact Or.inl rfl
    · exact Or.inr (h.isOpen i hi)
  · intro i hi
    rcases List.mem_cons.1 hi with rfl | hi
    · exact Int.lt_add_one_of_le h.lastTx
    · exact h.begun i hi
  · intro i hi
    obtain ⟨hne, hi⟩ := not_or.1 (mt List.mem_cons.2 hi)
    have hne' : t.lastTx + 1 ≠ i := fun he => hne he.symm
    change (t.opened.insert (t.lastTx + 1) _).get? i = _
    rw [Table.get?_insert, if_neg hne', h.opened i hi]
  · intro key i hi
    exact h.locks key i (not_or.1 (mt List.mem_cons.2 hi)).2

/-- A call of one of the transactions leaves the store as it was besides. -/
theorem Besides.frame {mine : List TxId} {s t u : Store} {tx : TxId} (h : Besides mine s t)
    (hm : tx ∈ mine) (hf : Store.Frame tx t u) : Besides mine s u where
  orderly := h.orderly.frame (h.isOpen tx hm) hf
  lastId := Int.le_trans h.lastId hf.lastId
  lastTx := by rw [hf.lastTx]; exact h.lastTx
  isOpen i hi := by
    by_cases he : i = tx
    · subst he
      exact hf.stays (h.isOpen i hi)
    · rw [Store.IsOpen, hf.others i he]
      exact h.isOpen i hi
  begun := h.begun
  opened i hi := by
    have hne : i ≠ tx := by
      rintro rfl
      exact hi hm
    rw [hf.others i hne, h.opened i hi]
  locks key i hi := by
    have hne : i ≠ tx := by
      rintro rfl
      exact hi hm
    exact (hf.locks key i hne).trans (h.locks key i hi)

/-- Dropping one of the transactions leaves the store as it was besides the others. -/
theorem Besides.drop {mine : List TxId} {s t : Store} {tx : TxId} (hs : s.Orderly)
    (h : Besides mine s t) (hm : tx ∈ mine) :
    Besides (mine.filter (· != tx)) s (t.drop tx) where
  orderly := h.orderly.drop tx
  lastId := h.lastId
  lastTx := h.lastTx
  isOpen i hi := by
    obtain ⟨hi, hne⟩ := List.mem_filter.1 hi
    exact (Store.isOpen_drop t tx i).2 ⟨by simpa using hne, h.isOpen i hi⟩
  begun i hi := h.begun i (List.mem_filter.1 hi).1
  opened i hi := by
    change (t.opened.erase tx).get? i = _
    rw [Table.get?_erase]
    split
    · rename_i he
      subst he
      exact (not_open_before hs (h.begun tx hm)).1.symm
    · rename_i hne
      refine h.opened i fun him => hi (List.mem_filter.2 ⟨him, ?_⟩)
      simpa using Ne.symm hne
  locks key i hi := by
    rw [Store.drop, Locks.holder?_release, Option.filter_eq_some_iff]
    by_cases he : i = tx
    · subst he
      have hfree := (not_open_before hs (h.begun i hm)).2 key
      simp [hfree]
    · have him : i ∉ mine := fun him => hi (List.mem_filter.2 ⟨him, by simpa using he⟩)
      rw [h.locks key i him]
      simp [he]

/-- Committing one of the transactions leaves the store as it was besides the others, but for the
rows. -/
theorem Besides.commit {mine : List TxId} {s t : Store} {tx : TxId} (hs : s.Orderly)
    (h : Besides mine s t) (hm : tx ∈ mine) :
    Besides (mine.filter (· != tx)) s (t.commit tx) :=
  Besides.drop (t := { t with rows := t.view tx }) hs
    ⟨⟨h.orderly.held, h.orderly.numbered⟩, h.lastId, h.lastTx, h.isOpen, h.begun, h.opened,
      h.locks⟩ hm

/-- A tidy program leaves the store as it was, besides the transactions that are its own in the end.
-/
theorem Runs.besides {fin : List TxId} {s : Store} (hs : s.Orderly) {p : Program α} {t u : Store}
    {es : List Event} {a : α} (h : Runs p t es a u) : ∀ {mine : List TxId}, Tidy fin mine p →
      Besides mine s t → Besides fin s u := by
  induction h with
  | done a t =>
    rintro mine rfl hb
    exact hb
  | @step c next t v u x es a hmay hr ih =>
    intro mine ht hb
    cases c with
    | begin =>
      rcases hmay with ⟨rfl, rfl⟩ | ⟨⟨e, rfl⟩, rfl⟩
      · obtain ⟨hnew, hb⟩ := hb.begin
        exact ih (ht.2 _ hnew) hb
      · exact ih (ht.1 e) hb
    | call tx c =>
      have hf : Store.Frame tx t v := by
        rcases hmay with hd | ⟨-, rfl⟩
        · have hf := Store.perform_frame t tx c
          rwa [← show (x, v) = _ from hd] at hf
        · exact .refl tx v
      exact ih (ht.2 x) (hb.frame ht.1 hf)
    | commit tx =>
      rcases hmay with ⟨-, rfl⟩ | ⟨-, rfl⟩
      · exact ih (ht.2 x) (hb.commit hs ht.1)
      · exact ih (ht.2 x) (hb.drop hs ht.1)
    | drop tx =>
      rcases hmay with rfl | hf
      · exact ih (ht.2 x) (hb.drop hs ht.1)
      · exact hf.elim
    | deliver e =>
      rcases hmay with rfl | hf
      · exact ih (ht x) hb
      · exact hf.elim

/-- **A tidy program restores what it found.**  Run by itself it leaves the locks and the open
transactions as they were, however it ends; only the counters go up. -/
theorem Runs.restores {p : Program α} {s t : Store} {es : List Event} {a : α}
    (h : Runs p s es a t) (hp : Tidy [] [] p) (hs : s.Orderly) :
    t.locks = s.locks ∧ t.opened = s.opened ∧ s.lastId ≤ t.lastId ∧ s.lastTx ≤ t.lastTx := by
  have hb := h.besides hs hp (.refl hs)
  refine ⟨Locks.ext fun key => ?_, Table.ext fun i => hb.opened i List.not_mem_nil, hb.lastId,
    hb.lastTx⟩
  exact Option.ext fun i => hb.locks key i List.not_mem_nil

end Program
end LoanDesk
