/-
# Tasks that meet

A task keeps to its seat if the body of each of its brackets is ready to be committed in the end
(`Program.leaves_bracket`). When all keep to their seats, the tables are those that some of the deeds
left, one after another, each task doing its own at most once (`Meeting.Chain`, `Meeting.Meets.runs`).
-/

import LoanDesk.Proofs.Race.Meeting.Seats

namespace LoanDesk

namespace Program

variable {ι α β ε : Type} {M : Meeting ι} {i : ι} {p : Seat ι} {tx : TxId}
  {blame : StoreError → ε}

/-- The task has no transaction left. -/
abbrev Leaves (M : Meeting ι) (i : ι) (m : Program α) (p : Seat ι) : Prop :=
  Ensures (M.seat i) (fun _ q => q.mine = []) m p

/-- A program that is done has nothing open. -/
theorem leaves_done (a : α) (hp : p.mine = []) : Leaves M i (.done a) p :=
  fun _ hq => hq.mine.trans hp

/-- One program after another, each with nothing open in the end. -/
theorem Leaves.bind {m : Program α} {f : α → Program β} (hm : Leaves M i m p)
    (hf : ∀ a q, q.mine = [] → Leaves M i (f a) q) : Leaves M i (m.bind f) p :=
  Ensures.bind (fun a q h => hf a q (h q (.refl q))) hm

/-- The second program is run unless the first one fails. -/
theorem Leaves.bindExcept {m : ExceptT ε Program α} {f : α → ExceptT ε Program β}
    (hm : Leaves M i m.run p) (hf : ∀ a q, q.mine = [] → Leaves M i (f a).run q) :
    Leaves M i (m >>= f).run p := by
  refine Leaves.bind (f := ExceptT.bindCont f) hm fun x q hq => ?_
  cases x with
  | error e => exact leaves_done _ hq
  | ok a => exact hf a q hq

/-- Telling of something changes nothing. -/
theorem leaves_deliver (e : Event) (hp : p.mine = []) : Leaves M i (deliver e) p := by
  rintro q ho x r ⟨hfit, hd, hm, -⟩
  have hr : r.mine = [] := hm.trans (ho.mine.trans hp)
  refine ⟨.still hfit trivial hd hm (congrArg Store.rows hd), ?_⟩
  cases x <;> exact leaves_done _ hr

/-- A program that does not fail is an action. -/
theorem leaves_lift {m : Program α} (hm : Leaves M i m p) :
    Leaves M i (ExceptT.lift m : ExceptT ε Program α).run p :=
  hm.bind fun _ _ hq => leaves_done _ hq

/-- Telling of something ends a program that has no transaction open. -/
theorem leaves_tell (e : Event) (f : Option String → α) (hp : p.mine = []) :
    Leaves M i (do return f (← ExceptT.lift (deliver e)) : ExceptT ε Program α).run p := by
  refine Leaves.bindExcept (leaves_lift (leaves_deliver e hp)) fun undelivered q hq => ?_
  exact leaves_done _ hq

/-- A body of a bracket goes on as long as it has its transaction. -/
abbrev Serves (M : Meeting ι) (i : ι) (tx : TxId) (Q : α → Seat ι → Prop)
    (m : ExceptT ε Program α) (p : Seat ι) : Prop :=
  Brings (M.seat i) Q (fun _ q => q.mine = [tx]) m p

/-- One call in the transaction. -/
theorem serves_call (hp : Meeting.Sits tx p) (c : Call) :
    Serves M i tx (fun a t => ∃ q r, M.Others i p q ∧ M.Asked tx c a q r ∧ M.Others i r t)
      (Program.ask blame tx c) p := by
  refine Brings.ask fun q ho x r ⟨hfit, hd, hm, hlog⟩ => ?_
  have hq := hp.others ho
  have hrows : r.store.rows = q.store.rows := by
    rw [← Store.rows_perform q.store tx c, ← show (x, r.store) = _ from hd]
  refine ⟨.still hfit hq.mem hd hm hrows, ?_⟩
  cases x with
  | error e => exact fun t ht => ht.mine.trans (hm.trans hq.mine)
  | ok a =>
    have hperform : (.ok a, r.store) = q.store.perform tx c := hd
    exact fun t ht => ⟨q, r, ho, ⟨hfit, hq, hperform.symm, hm, hlog.log_eq hrows⟩, ht⟩

/-- One call in the transaction, and what follows on its answer. -/
theorem Serves.ask {Q : β → Seat ι → Prop} {c : Call} {f : c.Answer → ExceptT ε Program β}
    (hp : Meeting.Sits tx p)
    (h : ∀ a q r, M.Others i p q → M.Asked tx c a q r → Serves M i tx Q (f a) r) :
    Serves M i tx Q (Program.ask blame tx c >>= f) p :=
  Brings.bind (serves_call hp c) fun a _ ⟨q, r, ho, ha, ht⟩ => (h a q r ho ha).others ht

/-- A body fails while it has its transaction. -/
theorem serves_throw {Q : α → Seat ι → Prop} (e : ε) (hp : p.mine = [tx]) :
    Serves M i tx Q (throw e : ExceptT ε Program α) p := fun _ hq => hq.mine.trans hp

/-- A body goes on after a check, and may rely on it. -/
theorem serves_ensure {Q : α → Seat ι → Prop} {x : Except Refusal Unit} {f : Unit → Desk.Action α}
    (hp : p.mine = [tx]) (h : x = .ok () → Serves M i tx Q (f ()) p) :
    Serves M i tx Q (Desk.ensure x >>= f) p := by
  cases x with
  | ok u => exact h rfl
  | error r => exact serves_throw _ hp

/-! ### Brackets -/

/-- A transaction that is dropped is not open any more. -/
theorem leaves_drop (r : β) (hp : p.mine = [tx]) :
    Leaves M i (.step (.drop tx) fun _ => .done r) p := by
  rintro q ho x u ⟨hfit, hd, hm, -⟩
  have hq : q.mine = [tx] := ho.mine.trans hp
  have howned : tx ∈ q.mine := by simp [hq]
  have hu : u.mine = [] := by
    rw [hm, hq]
    simp [Command.after]
  have hrows : u.store.rows = q.store.rows := by
    rw [show u.store = q.store.drop tx from hd]
    rfl
  exact ⟨.still hfit howned hd hm hrows, leaves_done _ hu⟩

/-- What is committed is a deed on the rows as they are now. -/
theorem leaves_commit {next : Except StoreError Unit → Program β}
    (hp : ∀ q, M.Others i p q → M.Ready i tx q) (hnext : ∀ x, ∃ r, next x = .done r) :
    Leaves M i (.step (.commit tx) next) p := by
  rintro q ho x u ⟨hfit, ⟨rfl, hu⟩, hm, -⟩
  obtain ⟨hsits, hdeed⟩ := hp q ho
  have hrows : u.store.rows = q.store.view tx := congrArg Store.rows hu
  have hmine : u.mine = [] := by
    rw [hm, hsits.mine]
    simp [Command.after]
  have hsound : M.sound u.store.rows.desk := by
    rw [hrows]
    rcases hdeed with he | ⟨-, hd⟩
    · rw [he]
      exact hfit.sound
    · exact M.kept hfit.sound hd
  have hkeyed : u.store.rows.Keyed := by
    rw [hrows]
    exact hsits.view
  refine ⟨⟨hsits.mem, hfit.step (c := .commit tx) hsits.mem ⟨rfl, hu⟩ hm hkeyed hsound, ?_⟩, ?_⟩
  · rw [hrows]
    exact hdeed
  · obtain ⟨r, hr⟩ := hnext (.ok ())
    rw [hr]
    exact leaves_done _ hmine

/-- **A bracket keeps to its seat if its body is ready in the end**, and stays so until the
commit. -/
theorem leaves_bracket {body : TxId → ExceptT ε Program α} (hp : p.mine = [])
    (hb : ∀ tx q, Meeting.Sits tx q → q.store.changes tx = .none → (i ∈ q.log ↔ i ∈ p.log) →
      Serves M i tx (fun _ r => M.Ready i tx r) (body tx) q) :
    Leaves M i (bracket blame (fun _ => true) body).run p := by
  rw [bracket_run]
  rintro q ho x r ⟨hfit, ⟨rfl, hr⟩, hm, hlog⟩
  have hmine : r.mine = [q.store.begin.1] := by
    rw [hm, Command.after, ho.mine, hp]
  have hrows : r.store.rows = q.store.rows := by
    rw [hr]
    rfl
  have hchanges : r.store.changes q.store.begin.1 = .none := by
    rw [hr]
    simp only [Store.changes, Store.begin, Table.get?_insert, if_pos]
    rfl
  refine ⟨.still hfit (c := .begin) (x := .ok q.store.begin.1) trivial ⟨rfl, hr⟩ hm hrows, ?_⟩
  have hsits : Meeting.Sits q.store.begin.1 r :=
    ⟨hmine, by rw [hrows]; exact hfit.keyed, by rw [hchanges]; exact Changes.keyed_none,
      Store.guards_of_changes hchanges⟩
  have hbody := hb q.store.begin.1 r hsits hchanges (by rw [hlog.log_eq hrows]; exact ho.log)
  refine Ensures.bind (fun y t ht => ?_) hbody
  cases y with
  | error e => exact leaves_drop _ (ht t (.refl t))
  | ok a => exact leaves_commit (fun u hu => ht u hu) fun y => by cases y <;> exact ⟨_, rfl⟩

end Program

/-! ### Seats side by side -/

namespace Meeting

variable {ι : Type} {M : Meeting ι}

/-- The tables that deeds leave one after another, each task doing its own once. -/
inductive Chain (M : Meeting ι) (start : Rows) : List ι → Rows → Prop
  | nil : Chain M start [] start
  | snoc {log : List ι} {rows rows' : Rows} {i : ι} (h : Chain M start log rows) (hi : i ∉ log)
    (hd : M.deed i rows rows') : Chain M start (log ++ [i]) rows'

section Fair

variable {i j : ι} {s t : Store} {mine mine' theirs : List TxId} {log log' : List ι} {c : Command}
  {x : c.Answer}

/-- **A fair step at one seat is a step of the others at every other seat.** -/
theorem Fair.others (h : M.Fair i ⟨mine, s, log⟩ c ⟨mine', t, log'⟩) (hij : j ≠ i)
    (hd : ∀ tx ∈ mine, tx ∉ theirs) (hf : M.Fit ⟨theirs, s, log⟩) (hx : s.Does c x t)
    (hlog : log' = log ∨ log' = log ++ [i]) : M.Others j ⟨theirs, s, log⟩ ⟨theirs, t, log'⟩ where
  mine := rfl
  apart := Store.May.apart hf.orderly hf.isOpen (h.owned.foreign hd) (Or.inl hx)
  keyed _ := h.fit.keyed
  sees := by
    rcases h.deed with he | ⟨-, hdeed⟩
    · rw [he]
      exact M.refl _ _
    · exact M.seen hij hf.sound hdeed
  held tx hm key hk := by
    refine (hx.row?_eq hf.guards hk ⟨?_, ?_⟩).2
    · rintro rfl
      exact hd tx h.owned hm
    · rintro rfl
      exact hd tx h.owned hm
  log := by
    rcases hlog with rfl | rfl
    · exact Iff.rfl
    · simp [hij]

/-- What holds of the store at one seat holds of it at all of them. -/
theorem Fit.others (h : M.Fit ⟨mine, t, log'⟩) (hf : M.Fit ⟨theirs, s, log⟩)
    (ho : M.Others j ⟨theirs, s, log⟩ ⟨theirs, t, log'⟩) : M.Fit ⟨theirs, t, log'⟩ :=
  ⟨h.orderly, fun tx hm => ho.apart.isOpen hm (hf.isOpen tx hm), h.guards, h.keyed, h.sound, h.last⟩

end Fair

variable {n : Nat} {α : Type} {M : Meeting (Fin n)}

/-- The tasks of a race at their seats: no transaction belongs to two of them, every program keeps
to its seat, and the tables are those that the deeds on record left. -/
structure Meets (M : Meeting (Fin n)) (start : Rows) (g : Race n α) (mine : Fin n → List TxId)
    (log : List (Fin n)) : Prop where
  fit : ∀ i, M.Fit ⟨mine i, g.store, log⟩
  disjoint : ∀ i j tx, tx ∈ mine i → tx ∈ mine j → i = j
  leaves : ∀ i, Program.Leaves M i (g.programs i) ⟨mine i, g.store, log⟩
  chain : M.Chain start log g.store.rows.desk

/-- A transaction of a task after a step was its own before, or was not open. -/
theorem Meets.mem_after {start : Rows} {g : Race n α} {mine : Fin n → List TxId}
    {log : List (Fin n)} (h : M.Meets start g mine log) {i a : Fin n} {c : Command} {x : c.Answer}
    {t : Store} (hx : g.store.Does c x t) {tx : TxId}
    (hm : tx ∈ Function.update mine i (c.after (mine i) x) a) :
    tx ∈ mine a ∨ a = i ∧ ¬g.store.IsOpen tx := by
  by_cases ha : a = i
  · subst ha
    rw [Function.update_self] at hm
    exact (hx.mem_after (h.fit a).orderly hm).imp_right fun ho => ⟨rfl, ho⟩
  · rw [Function.update_of_ne ha] at hm
    exact Or.inl hm

/-- The seats share no transaction after a step either, for one that is new was not open before. -/
theorem Meets.disjoint_after {start : Rows} {g : Race n α} {mine : Fin n → List TxId}
    {log : List (Fin n)} (h : M.Meets start g mine log) {i : Fin n} {c : Command} {x : c.Answer}
    {t : Store} (hx : g.store.Does c x t) (a b : Fin n) (tx : TxId)
    (ha : tx ∈ Function.update mine i (c.after (mine i) x) a)
    (hb : tx ∈ Function.update mine i (c.after (mine i) x) b) : a = b := by
  rcases h.mem_after hx ha with hma | ⟨rfl, hna⟩
  · rcases h.mem_after hx hb with hmb | ⟨rfl, hnb⟩
    · exact h.disjoint a b tx hma hmb
    · exact absurd ((h.fit a).isOpen tx hma) hnb
  · rcases h.mem_after hx hb with hmb | ⟨rfl, -⟩
    · exact absurd ((h.fit b).isOpen tx hmb) hna
    · rfl

/-- **A step of a race keeps all tasks to their seats**, and the tables to what deeds leave. -/
theorem Meets.step {start : Rows} {g g' : Race n α} {mine : Fin n → List TxId} {log : List (Fin n)}
    (h : M.Meets start g mine log) (hs : g.Step g') :
    ∃ mine' log', M.Meets start g' mine' log' := by
  cases hs with
  | @mk s t programs i c next x hi hx =>
    obtain ⟨log', hrecords⟩ : ∃ log', Records i ⟨mine i, s, log⟩ ⟨c.after (mine i) x, t, log'⟩ := by
      by_cases hrows : t.rows.desk = s.rows.desk
      · exact ⟨log, Or.inl ⟨hrows, rfl⟩⟩
      · exact ⟨log ++ [i], Or.inr ⟨hrows, rfl⟩⟩
    have hseat : Program.Leaves M i (programs i) ⟨mine i, s, log⟩ := h.leaves i
    rw [hi] at hseat
    obtain ⟨hfair, hnext⟩ := hseat _ (.refl _) x ⟨c.after (mine i) x, t, log'⟩
      ⟨h.fit i, hx, rfl, hrecords⟩
    have hothers : ∀ j, j ≠ i → M.Others j ⟨mine j, s, log⟩ ⟨mine j, t, log'⟩ := fun j hj =>
      hfair.others hj (fun tx hm hm' => hj (h.disjoint j i tx hm' hm)) (h.fit j) hx
        (hrecords.imp And.right And.right)
    refine ⟨Function.update mine i (c.after (mine i) x), log', fun j => ?_, h.disjoint_after hx,
      fun j => ?_, ?_⟩
    · by_cases hj : j = i
      · subst hj
        rw [Function.update_self]
        exact hfair.fit
      · rw [Function.update_of_ne hj]
        exact hfair.fit.others (h.fit j) (hothers j hj)
    · by_cases hj : j = i
      · subst hj
        dsimp only
        rw [Function.update_self, Function.update_self]
        exact hnext
      · dsimp only
        rw [Function.update_of_ne hj, Function.update_of_ne hj]
        exact (h.leaves j).others (hothers j hj)
    · rcases hrecords with ⟨hrows, hlog⟩ | ⟨hne, hlog⟩
      · dsimp only at hrows hlog
        subst hlog
        rw [hrows]
        exact h.chain
      · dsimp only at hne hlog
        subst hlog
        obtain ⟨hfresh, hdeed⟩ := hfair.deed.resolve_left hne
        exact .snoc h.chain hfresh hdeed

/-- Tasks that meet go on so, whichever of them makes the next step. -/
theorem Meets.runs {start : Rows} {g g' : Race n α} {mine : Fin n → List TxId} {log : List (Fin n)}
    (h : M.Meets start g mine log) (hr : g.Runs g') :
    ∃ mine' log', M.Meets start g' mine' log' := by
  induction hr with
  | refl => exact ⟨mine, log, h⟩
  | tail _ hs ih =>
    obtain ⟨mine', log', h'⟩ := ih
    exact h'.step hs

/-- A race from a store without open transactions on. -/
theorem meets_start {s : Store} (hs : s.Orderly) (ho : s.opened = .empty) (hk : s.rows.Keyed)
    (hsound : M.sound s.rows.desk) (hlast : M.last ≤ s.lastId) {programs : Fin n → Program α}
    (hp : ∀ i, Program.Leaves M i (programs i) ⟨[], s, []⟩) :
    M.Meets s.rows.desk ⟨s, programs⟩ (fun _ => []) [] where
  fit _ := {
    orderly := hs
    isOpen := fun _ h => absurd h List.not_mem_nil
    guards := fun tx => Store.guards_of_changes (by simp [Store.changes, ho])
    keyed := hk
    sound := hsound
    last := hlast }
  disjoint _ _ _ h := absurd h List.not_mem_nil
  leaves := hp
  chain := .nil

end Meeting
end LoanDesk
