/-
# What withdrawing a symbol comes to

Requests and lines that somebody else holds are treated in different ways. A request that is held is
passed over, and so are its lines; but a single open line that is held undoes the withdrawal of all
requests that were claimed (`Store.heldAmong?`).

The requests that are claimed are known beforehand (`Store.withdrawable`), and all three steps go by
them: their lines are cancelled, they are closed, and afterwards their investors are told
(`Session.Works.withdraw_done`). Where the withdrawal is refused nothing has happened
(`Session.Works.withdraw_held`).
-/

import LoanDesk.Proofs.Desk.Batches

namespace LoanDesk

/-! ### Withdrawals -/

namespace Store

variable {s : Store}

/-- The open requests for a symbol that nobody holds. -/
def withdrawable (s : Store) (symbol : Int) : List Request :=
  s.stored.claimable s.isFree fun r => r.symbol == symbol

/-- What can be withdrawn are the open requests of the symbol that nobody holds. -/
theorem mem_withdrawable (hk : s.rows.Keyed) {symbol : Int} {r : Request} :
    r ∈ s.withdrawable symbol ↔ s.rows.requests.get? r.id = some r ∧ r.isPending ∧
      r.symbol = symbol ∧ s.isFree (.request r.id) := by
  rw [withdrawable, Book.mem_claimable, beq_iff_eq, ← hk.requests.mem_values]
  rfl

end Store

namespace Desk

open Program

variable {s : Store} (symbol : Int) (caller : Caller) (now : Instant)

/-- The investors of requests that were withdrawn are told. -/
def tellWithdrawn (claimed : List Request) (cancelled : Nat) : Action WithdrawOutcome := do
  let undelivered ← deliverAll (claimed.map fun r => .requestDeclined (.of r) .admin)
  return ⟨symbol, claimed.map (·.id), cancelled, undelivered⟩

/-- Every request that is claimed is told to be declined, and the report lists them. -/
theorem telling_tellWithdrawn (claimed : List Request) (cancelled : Nat) :
    Telling (fun es a => es = claimed.map (fun r => .requestDeclined (.of r) .admin) ∧
      ∃ undelivered, a = ⟨symbol, claimed.map (·.id), cancelled, undelivered⟩)
      (tellWithdrawn symbol claimed cancelled) :=
  (telling_deliverAll _).bind fun undelivered => telling_pure fun es hes => by
    rw [hes, List.append_nil]
    exact ⟨rfl, undelivered, rfl⟩

/-- A withdrawal shuts the requests that it claims, or somebody holds one of their lines. -/
theorem amid_withdraw : ∃ body,
    withdraw symbol caller now = bracket Failure.ofStore (fun _ => true) body >>=
      (fun x => tellWithdrawn symbol x.1 x.2) ∧
    (∀ tx, Within tx (body tx)) ∧
    (∀ l, s.heldAmong? (s.withdrawable symbol) = some l → ∀ tx, Amid s.isFree (fun _ _ => False)
      (fun e => e = .busy "offer interest" l.id) (body tx) s.stored) ∧
    (s.heldAmong? (s.withdrawable symbol) = none → ∀ tx, Amid s.isFree
      (fun x b => x = (s.withdrawable symbol, (s.rows.openLinesOf (s.withdrawable symbol)).length) ∧
        b.rows = s.rows.shut ((s.withdrawable symbol).map (·.id)) caller.name .admin now)
      (fun _ => False) (body tx) s.stored) := by
  have hclaim : s.stored.perform s.isFree (.claimBySymbol symbol) =
      .ok (s.withdrawable symbol, s.stored) := Book.claimBySymbol_eq_ok.2 ⟨rfl, rfl⟩
  have hclaimed : ∀ r ∈ s.withdrawable symbol, s.isFree (.request r.id) := fun r hr =>
    (Book.mem_claimable.1 hr).2.2.2
  refine ⟨_, rfl, fun tx => ?_, fun l hl tx => ?_, fun hfree tx => ?_⟩
  · refine (within_ask _ _).bind fun _ => ?_
    refine (within_ask _ _).bind fun _ => ?_
    refine (within_ask _ _).bind fun _ => ?_
    exact within_pure _
  · exact Amid.ask hclaim (Amid.refused (Book.cancelWhere_held hl) rfl)
  · exact Amid.ask hclaim (amid_shut hclaimed hfree fun b hb => amid_pure ⟨rfl, hb⟩)

end Desk

namespace Session.Works

open Program

variable {s : Session} (symbol : Int) (caller : Caller) (now : Instant)

/-- Where somebody holds a line that would have to go, nothing happens. -/
theorem withdraw_held (hs : s.Works) {l : Line}
    (hl : s.store.heldAmong? (s.store.withdrawable symbol) = some l) :
    ∃ t, Session.run (Desk.withdraw symbol caller now).run s =
        (.error (.busy "offer interest" l.id), t) ∧ Aside s t ∧ t.store.rows = s.store.rows ∧
      dispatched (Desk.withdraw symbol caller now).run s = [] := by
  obtain ⟨body, hbody, hw, hheld, -⟩ := Desk.amid_withdraw (s := s.store) symbol caller now
  obtain ⟨_, t, hrun, haside, rfl, hrows⟩ :=
    hs.bracket_error Failure.ofStore (fun _ => true) hw (hheld l hl)
  refine ⟨t, ?_, haside, hrows, ?_⟩
  · rw [hbody, run_exceptBind, hrun]
  · rw [hbody, dispatched_bindExcept (silent_bracket fun tx => (hw tx).quiet), hrun]

/-- Where nobody does, the requests are withdrawn, and the investors told. -/
theorem withdraw_done (hs : s.Works)
    (hfree : s.store.heldAmong? (s.store.withdrawable symbol) = none) :
    let rs := s.store.withdrawable symbol
    ∃ undelivered t, Session.run (Desk.withdraw symbol caller now).run s =
        (.ok ⟨symbol, rs.map (·.id), (s.store.rows.openLinesOf rs).length, undelivered⟩, t) ∧
      Aside s t ∧ t.store.rows = s.store.rows.shut (rs.map (·.id)) caller.name .admin now ∧
      dispatched (Desk.withdraw symbol caller now).run s =
        rs.map fun r => .requestDeclined (.of r) .admin := by
  intro rs
  obtain ⟨body, hbody, hw, -, hdone⟩ := Desk.amid_withdraw (s := s.store) symbol caller now
  obtain ⟨_, b, t, hrun, haside, ⟨rfl, hb⟩, hrows⟩ :=
    hs.bracket_ok Failure.ofStore (fun _ => true) hw (hdone hfree)
  obtain ⟨_, u, htold, haside', hkept, hes, undelivered, rfl⟩ := haside.works.tell
    (Desk.telling_tellWithdrawn symbol rs (s.store.rows.openLinesOf rs).length)
  refine ⟨undelivered, u, ?_, haside.trans haside', ?_, ?_⟩
  · rw [hbody, run_exceptBind, hrun]
    exact htold
  · rw [hkept, hrows]
    exact hb
  · rw [hbody, dispatched_bindExcept (silent_bracket fun tx => (hw tx).quiet), hrun]
    exact hes

end Session.Works

open Program in
/-- **What withdrawing a symbol does**, in every world of a history, whatever rows others hold. The
open requests for the symbol that nobody else holds are claimed, in the order of their numbers. Where
nobody holds an open line of theirs they are withdrawn: they are closed, their open lines are cancelled
in the name of the caller, no other row is touched, the answer names the requests and counts the lines,
and the investor of each is told, in that order. Where somebody holds such a line the answer is that it
is busy, and nothing changes. -/
theorem History.withdraws_exactly {w : World} {ws : List World} {s : Session}
    (h : History (w :: ws)) (hs : s.store = w.store) (hf : s.faults = []) (symbol : Int)
    (caller : Caller) (now : Instant) :
    let rows := s.store.rows
    let claimed := s.store.withdrawable symbol
    let ids := claimed.map (·.id)
    let lines := rows.openLinesOf claimed
    let told := dispatched (Desk.withdraw symbol caller now).run s
    ids.Pairwise (· < ·) ∧
    (∀ r, r ∈ claimed ↔ rows.requests.get? r.id = some r ∧ r.isPending ∧ r.symbol = symbol ∧
      s.store.isFree (.request r.id)) ∧
    ∃ x t, Session.run (Desk.withdraw symbol caller now).run s = (x, t) ∧ s.Aside t ∧
      ((∀ l ∈ lines, s.store.isFree (.line l.id)) →
        (∃ undelivered, x = .ok ⟨symbol, ids, lines.length, undelivered⟩) ∧
        t.store.rows = rows.shut ids caller.name .admin now ∧
        told = claimed.map fun r => .requestDeclined (.of r) .admin) ∧
      ((∃ l ∈ lines, s.store.isFree (.line l.id) = false) →
        (∃ l ∈ lines, s.store.isFree (.line l.id) = false ∧
          x = .error (.busy "offer interest" l.id)) ∧
        t.store.rows = rows ∧ told = [] ∧ t.mailbox = s.mailbox) := by
  intro rows claimed ids lines told
  have hworks := h.works hs hf
  refine ⟨Store.ascending_claimable hworks.keyed _,
    fun r => Store.mem_withdrawable hworks.keyed, ?_⟩
  cases hheld : s.store.heldAmong? (s.store.withdrawable symbol) with
  | some l =>
    obtain ⟨t, hrun, haside, hrows, htold⟩ := hworks.withdraw_held symbol caller now hheld
    have hl : l ∈ lines := List.mem_of_find?_eq_some hheld
    have hlocked : s.store.isFree (.line l.id) = false := by simpa using List.find?_some hheld
    have hmailbox : t.mailbox = s.mailbox := by
      have hmailbox := mailbox_dispatched (Desk.withdraw symbol caller now).run s
      rwa [htold, hrun] at hmailbox
    refine ⟨_, t, hrun, haside, fun hfree => ?_,
      fun _ => ⟨⟨l, hl, hlocked, rfl⟩, hrows, htold, hmailbox⟩⟩
    rw [hfree l hl] at hlocked
    cases hlocked
  | none =>
    obtain ⟨undelivered, t, hrun, haside, hrows, htold⟩ :=
      hworks.withdraw_done symbol caller now hheld
    refine ⟨_, t, hrun, haside, fun _ => ⟨⟨undelivered, rfl⟩, hrows, htold⟩, ?_⟩
    rintro ⟨l, hl, hlocked⟩
    have hfree := List.find?_eq_none.1 hheld l hl
    rw [hlocked] at hfree
    exact absurd rfl hfree

namespace Story

/-- Three requests are open, and somebody holds the second. -/
def avoided : Session :=
  ⟨(World.played crowd).1.engage (.lockRequest 2 .noWait), .empty true, []⟩

/-- Request 2 is held, so it is passed over with its line. Where its line is held instead, no request
is withdrawn. -/
theorem withdraws_exactly_avoided :
    (∃ undelivered t, Session.run (Desk.withdraw 1 caller now).run avoided =
        (.ok ⟨1, [1, 3], 1, undelivered⟩, t) ∧
      t.store.rows.requests.values.map (·.status) = [.confirmed, .pending, .confirmed]) ∧
    ∃ t, Session.run (Desk.withdraw 1 caller now).run jammed =
        (.error (.busy "offer interest" 10), t) ∧ t.store.rows = jammed.store.rows := by
  have h := World.history_played crowd
  constructor
  · have hids : (avoided.store.withdrawable 1).map (·.id) = [1, 3] := by decide +kernel
    have hfree : ∀ l ∈ avoided.store.rows.openLinesOf (avoided.store.withdrawable 1),
        avoided.store.isFree (.line l.id) := by decide +kernel
    have hcount : (avoided.store.rows.openLinesOf (avoided.store.withdrawable 1)).length = 1 := by
      decide +kernel
    obtain ⟨-, -, x, t, hrun, -, hdone, -⟩ := History.withdraws_exactly
      (h.engage (.lockRequest 2 .noWait)) (s := avoided) rfl rfl 1 caller now
    obtain ⟨⟨undelivered, rfl⟩, hrows, -⟩ := hdone hfree
    rw [hids, hcount] at hrun
    rw [hids] at hrows
    refine ⟨undelivered, t, hrun, ?_⟩
    rw [hrows]
    decide +kernel
  · have hheld : ∃ l ∈ jammed.store.rows.openLinesOf (jammed.store.withdrawable 1),
        jammed.store.isFree (.line l.id) = false := by decide +kernel
    have honly : ∀ l ∈ jammed.store.rows.openLinesOf (jammed.store.withdrawable 1),
        jammed.store.isFree (.line l.id) = false → l.id = 10 := by decide +kernel
    obtain ⟨-, -, x, t, hrun, -, -, hrefused⟩ := History.withdraws_exactly
      (h.engage (.setLineStatuses [10] .creatingPackage now)) (s := jammed) rfl rfl 1 caller now
    obtain ⟨⟨l, hl, hlocked, rfl⟩, hrows, -⟩ := hrefused hheld
    rw [honly l hl hlocked] at hrun
    exact ⟨t, hrun, hrows⟩

end Story
end LoanDesk
