/-
# What a run that declines requests comes to

A run goes batch by batch through the requests that were exposed when it began, and so it comes to
its end. A batch fails where somebody holds an open line of one of its requests. The run ends there,
and the batches before are kept (`Store.Batched`). Its record tells of them all the same
(`History.declines_exactly`).
-/

import LoanDesk.Proofs.Desk.Batches.Rounds

namespace LoanDesk

namespace Jobs

open Program

/-- The ceiling in force is looked up. -/
def ceiling (now : Instant) : Work (Option Ceiling) :=
  bracket id (fun _ => false) fun tx => ask tx (.currentCeiling now)

/-- The report of a run whose batches came to this. -/
def Declined.report (d : Declined) (record : Option Int) (now : Instant) : JobReport :=
  ⟨.declineHighRates, if d.error.isSome then .failed else .succeeded, d.requests.map (·.id),
    d.cancelled, d.error.map errorText, record, now⟩

/-- The record of the run. -/
def Declined.entry (d : Declined) (c : Ceiling) (actor : String) (now : Instant) : JobEntry :=
  ⟨.declineHighRates, if d.error.isSome then .fail else .success, actor,
    declineTracking c (d.report none now)⟩

end Jobs

namespace Session

open Jobs

variable {s : Session} (c : Ceiling) (actor : String) (now : Instant)

/-- Delivering an event changes the mailbox only. -/
theorem run_deliver (e : Event) (s : Session) :
    (Session.run (Program.deliver e) s).2 = { s with mailbox := (s.mailbox.deliver e).2 } := by
  have hrun : Session.run (Program.deliver e) s = Session.run _ (Session.handle (.deliver e) s).2 :=
    Session.run_step _ _ s
  rw [hrun]
  cases (Session.handle (.deliver e) s).1 <;> rfl

/-- The investors are told, and nothing else changes. -/
theorem run_announce : ∀ (rs : List Request) (s : Session), ∃ m,
    Session.run (announce rs) s = ((), { s with mailbox := m })
  | [], s => ⟨s.mailbox, rfl⟩
  | r :: rs, s => by
    let e : Event := .requestDeclined (.of r) .highLoanRate
    obtain ⟨m, hm⟩ := run_announce rs { s with mailbox := (s.mailbox.deliver e).2 }
    refine ⟨m, ?_⟩
    have hrun : Session.run (announce (r :: rs)) s =
        Session.run (announce rs) (Session.run (Program.deliver e) s).2 := Session.run_bind _ _ s
    rw [hrun, run_deliver, hm]

/-! ### Runs -/

section Run

variable {batch : Int} {rounds : Nat} {t u v w : Session} {record : Option Int}

/-- Without a ceiling the decline job has nothing to do. -/
theorem run_decline_none (h : Session.run (ceiling now).run s = (.ok none, t)) :
    Session.run (decline actor batch rounds now) s = (.idle .declineHighRates now, t) :=
  run_bind_of h _

/-- A run: requests are declined batch by batch, what comes of it is recorded, and the investors are
told. -/
theorem run_decline_some (h : Session.run (ceiling now).run s = (.ok (some c), t)) {d : Declined}
    (hd : Session.run (declineBatches c (max batch 1) actor now rounds) t = (d, u))
    (hrecord : Session.run (writeRecord (d.entry c actor now) now) u = (record, v))
    (htold : Session.run (announce d.requests) v = ((), w)) :
    Session.run (decline actor batch rounds now) s = (d.report record now, w) := by
  refine (run_bind_of h _).trans ?_
  refine (run_bind_of hd _).trans ?_
  refine (run_bind_of hrecord _).trans ?_
  exact run_bind_of htold _

end Run

namespace Works

/-- The ceiling in force is looked up. -/
theorem ceiling (hs : s.Works) : ∃ t, Session.run (Jobs.ceiling now).run s =
      (.ok (Store.ceilingAt? now s.store.rows.ceilings.values), t) ∧ Aside s t ∧
    t.store.rows = s.store.rows := by
  have hcall : s.store.stored.perform s.store.isFree (.currentCeiling now) =
      .ok (Store.ceilingAt? now s.store.rows.ceilings.values, s.store.stored) := rfl
  obtain ⟨_, b, t, hrun, haside, rfl, hrows⟩ := hs.bracket_ok id (fun _ => false)
    (fun _ => Program.within_ask _ _) fun _ => Program.amid_call (Q := fun c? _ =>
      c? = Store.ceilingAt? now s.store.rows.ceilings.values) hcall rfl
  exact ⟨t, hrun, haside, hrows⟩

/-- Where no ceiling is effective the run has nothing to do. -/
theorem decline_idle (hs : s.Works)
    (hnone : Store.ceilingAt? now s.store.rows.ceilings.values = none) (batch : Int) :
    ∃ t, (∀ rounds, Session.run (decline actor batch rounds now) s =
        (.idle .declineHighRates now, t)) ∧ Aside s t ∧ t.store.rows = s.store.rows := by
  obtain ⟨t, hrun, haside, hrows⟩ := hs.ceiling now
  rw [hnone] at hrun
  exact ⟨t, fun rounds => run_decline_none actor now hrun, haside, hrows⟩

/-- Where one is, requests are declined, and what comes of it is recorded. -/
theorem decline_done (hs : s.Works)
    (hsome : Store.ceilingAt? now s.store.rows.ceilings.values = some c) (batch : Int) :
    ∃ k d rows n t, s.store.Batched c (max batch 1).toNat actor now k d rows ∧
      (∀ rounds, s.rounds ≤ rounds →
        Session.run (decline actor batch rounds now) s = (d.report (some n) now, t)) ∧
      Aside s t ∧ s.store.lastId < n ∧
      t.store.rows = rows.putJob ((d.entry c actor now).toRecord n now) := by
  obtain ⟨t, hceiling, haside, hrows⟩ := hs.ceiling now
  rw [hsome] at hceiling
  have hsize : 0 < (max batch 1).toNat := by omega
  obtain ⟨k, d, u, hrun, haside', hbatched⟩ := haside.works.declineBatches c actor now hsize
  obtain ⟨n, v, hrecord, haside'', hn, hrows'⟩ :=
    (haside.trans haside').writeRecord (d.entry c actor now) now
  obtain ⟨m, htold⟩ := run_announce d.requests v
  refine ⟨k, d, u.store.rows, n, { v with mailbox := m }, hbatched.of_eq hrows haside.isFree,
    fun rounds hr => ?_, haside''.mailbox m, hn, hrows'⟩
  obtain ⟨rounds, rfl⟩ := Nat.exists_eq_succ_of_ne_zero (Nat.ne_zero_of_lt hr)
  have hle : (t.store.exposed c).length ≤ rounds := by
    rw [Store.exposed_eq hrows haside.isFree]
    exact Nat.le_trans (Store.length_exposed c) (Nat.le_of_succ_le_succ hr)
  exact run_decline_some c actor now hceiling (hrun rounds hle) hrecord htold

end Works
end Session

/-- **What a run that declines requests does**, in every world of a history, whatever rows others
hold, at any time and for any size of batches. It comes to an end: how many rounds it may take does
not matter. Where no ceiling is effective it does nothing. Where one is in force, the requests that
are exposed to it are declined batch by batch, up to the first batch with an open line that somebody
holds. The report names those that were declined, in ascending order, and counts their lines; it is a
failure if there was such a batch; and the record, which is all that is added, says the same. -/
theorem History.declines_exactly {w : World} {ws : List World} {s : Session} (h : History (w :: ws))
    (hs : s.store = w.store) (hf : s.faults = []) (actor : String) (batch : Int) (now : Instant) :
    let rows := s.store.rows
    ∃ report t, (∀ rounds, s.rounds ≤ rounds →
        Session.run (Jobs.decline actor batch rounds now) s = (report, t)) ∧ s.Aside t ∧
      ((∀ i c, rows.ceilings.get? i = some c → ¬c.affectedFrom ≤ now) ∧
          report = .idle .declineHighRates now ∧ t.store.rows = rows ∨
        ∃ c, rows.InForce now c ∧ ∃ k d rows' n,
          s.store.Batched c (max batch 1).toNat actor now k d rows' ∧
          report = d.report (some n) now ∧ report.affected.Pairwise (· < ·) ∧
          rows'.Records (d.entry c actor now) now n t.store.rows) := by
  intro rows
  have hworks := h.works hs hf
  cases hc : Store.ceilingAt? now s.store.rows.ceilings.values with
  | none =>
    obtain ⟨t, hrun, haside, hrows⟩ := hworks.decline_idle actor now hc batch
    exact ⟨_, t, fun rounds _ => hrun rounds, haside,
      Or.inl ⟨Store.ceilingAt?_eq_none hc, rfl, hrows⟩⟩
  | some c =>
    obtain ⟨k, d, rows', n, t, hb, hrun, haside, hn, hrows⟩ := hworks.decline_done c actor now hc batch
    refine ⟨_, t, hrun, haside, Or.inr ⟨c, Store.ceilingAt?_eq_some hworks.keyed hc, k, d, rows', n,
      hb, rfl, ?_, ?_, hrows⟩⟩
    · change (d.requests.map (·.id)).Pairwise (· < ·)
      rw [hb.requests, List.map_take]
      exact (Store.ascending_exposed hworks.keyed c).sublist (List.take_sublist _ _)
    · rw [hb.rows]
      exact h.records_lt hs hn

namespace Story

/-- Three requests are exposed to a ceiling, and two of them have a line. -/
def crowd : List Task := [
  .operate (.propose ⟨2, .online, none, .null, [line 11]⟩) caller now,
  .operate (.propose ⟨1, .online, none, .null, [line 10]⟩) caller now,
  ceiled, opened, opened, opened]

/-- The ceiling. -/
def ceiling : Ceiling := ⟨4, decimal 1 1, now, now⟩

/-- Somebody holds the line of request 2. -/
def jammed : Session :=
  ⟨(World.played crowd).1.engage (.setLineStatuses [10] .creatingPackage now), .empty true, []⟩

/-- One by one, request 1 is declined, the line of request 2 cannot be had, and request 3 is not
reached. -/
theorem declines_exactly_jammed : ∃ n t,
    Session.run (Jobs.decline "risk" 0 jammed.rounds now) jammed = (⟨.declineHighRates, .failed, [1],
      1, some (Jobs.errorText (.locked "offer interest" 10)), some n, now⟩, t) ∧
    t.store.rows.requests.values.map (·.status) = [.confirmed, .pending, .pending] := by
  obtain ⟨report, t, hrun, -, hcases⟩ := History.declines_exactly
    ((World.history_played crowd).engage (.setLineStatuses [10] .creatingPackage now))
    (s := jammed) rfl rfl "risk" 0 now
  have hstored : jammed.store.rows.ceilings.get? 4 = some ceiling := by decide +kernel
  have honly : ∀ c ∈ jammed.store.rows.ceilings.values, c = ceiling := by decide +kernel
  have hthree : (jammed.store.exposed ceiling).map (·.id) = [1, 2, 3] := by decide +kernel
  have hfirst : jammed.store.heldAmong? (jammed.store.batch ceiling 1 0) = none := by decide +kernel
  have hsecond : (jammed.store.heldAmong? (jammed.store.batch ceiling 1 1)).map (·.id) = some 10 := by
    decide +kernel
  have hlen : (jammed.store.exposed ceiling).length = 3 := by rw [← List.length_map, hthree]; rfl
  rcases hcases with ⟨hnone, -⟩ | ⟨c, hforce, k, d, rows', n, hb, rfl, -, -, hrows⟩
  · exact absurd (by decide) (hnone 4 ceiling hstored)
  obtain rfl := honly c (Table.mem_values.2 ⟨_, hforce.stored⟩)
  obtain ⟨hrequests, hfree, hended, hcancelled, rfl⟩ := hb
  have hsize : (max (0 : Int) 1).toNat = 1 := by decide
  rw [hsize] at hrequests hfree hended
  -- the second batch is the one that fails
  obtain rfl : k = 1 := by
    match k with
    | 0 =>
      obtain ⟨-, hle⟩ | ⟨l, hl, -⟩ := hended
      · omega
      · rw [hfirst] at hl
        cases hl
    | 1 => rfl
    | k + 2 =>
      rw [hfree 1 (by omega)] at hsecond
      cases hsecond
  obtain ⟨-, hle⟩ | ⟨l, hl, he⟩ := hended
  · omega
  have hid : l.id = 10 := by
    rw [hl] at hsecond
    exact Option.some.inj hsecond
  have hone : d.requests.map (·.id) = [1] := by rw [hrequests, List.map_take, hthree]; rfl
  refine ⟨n, t, (hrun _ (Nat.le_refl _)).trans ?_, ?_⟩
  · have hcount : (jammed.store.rows.openLinesOf d.requests).length = 1 := by
      rw [Rows.openLinesOf, hone]
      decide +kernel
    rw [Jobs.Declined.report, he, hone, hcancelled, hcount, hid]
    rfl
  · rw [hrows, hone]
    change (jammed.store.rows.shut [1] "risk" .highLoanRate now).requests.values.map _ = _
    decide +kernel

end Story
end LoanDesk
