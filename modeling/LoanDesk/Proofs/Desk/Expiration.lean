/-
# What a run that expires offers comes to

The offers whose time has passed are looked up first, and their open lines cancelled afterwards, by
the numbers of the offers. Both go by the same lines (`Rows.overdue`): an offer is found if and only
if it has such a line, and those are the lines that the second call selects.

All of them are cancelled in one transaction. A single line that somebody else holds, be it the last,
undoes the run, and all that is left of it is a record of the failure. After a run that did not fail
nothing is overdue, so another one at that time finds nothing to do (`History.expires_exactly`).
-/

import LoanDesk.Proofs.Desk.Reasons
import LoanDesk.Proofs.Race.HeldRows

namespace LoanDesk

/-- A time that has passed has passed ever since. -/
theorem Offer.isExpired_mono {o : Offer} {now now' : Instant} (h : now' ≤ now)
    (hx : o.isExpired now') : o.isExpired now := by
  unfold isExpired at *
  cases ho : o.expiredAt with
  | none =>
    rw [ho] at hx
    cases hx
  | some at_ =>
    rw [ho] at hx
    have hlt : at_ < now' := of_decide_eq_true hx
    exact decide_eq_true (hlt.trans_le h)

namespace Rows

variable {rows : Rows} {now now' : Instant}

/-- The open lines whose offers are online and may not be accepted any more. -/
def overdue (rows : Rows) (now : Instant) : List Line := rows.pendingLines (rows.lapsed now)

/-- What has lapsed stays lapsed. -/
theorem lapsed_mono (h : now' ≤ now) {l : Line} (hl : rows.lapsed now' l) : rows.lapsed now l := by
  obtain ⟨o, ho, hx⟩ := Option.any_eq_true _ _ |>.1 hl
  obtain ⟨honline, hx⟩ := Bool.and_eq_true_iff.1 hx
  exact Option.any_eq_true _ _ |>.2
    ⟨o, ho, Bool.and_eq_true_iff.2 ⟨honline, Offer.isExpired_mono h hx⟩⟩

/-- Once the lines that are overdue are cancelled none is, nor was before. -/
theorem overdue_cancel (h : now' ≤ now) (by_ : String) (reason : CancelReason) (at_ : Instant) :
    (rows.cancel (rows.lapsed now) by_ reason at_).overdue now' = [] := by
  refine (pendingLines_cancel _ _).trans (List.filter_eq_nil_iff.2 fun l _ hl => ?_)
  obtain ⟨-, hl⟩ := Bool.and_eq_true_iff.1 hl
  obtain ⟨hkept, hl⟩ := Bool.and_eq_true_iff.1 hl
  rw [lapsed_mono h (show rows.lapsed now' l from hl)] at hkept
  cases hkept

/-- The offers that are found are those of the lines that are overdue. -/
theorem mem_expiredOffers (hk : rows.Keyed) {id : Int} :
    id ∈ (Store.expiredOffers rows now).map (·.id) ↔ ∃ l ∈ rows.overdue now, l.offer = id := by
  constructor
  · intro hid
    obtain ⟨o, ho, rfl⟩ := List.mem_map.1 hid
    obtain ⟨-, hcond⟩ := List.mem_filter.1 ho
    obtain ⟨l, hl, hof⟩ := List.any_eq_true.1 (Bool.and_eq_true_iff.1 hcond).2
    obtain ⟨hof, hp⟩ := Bool.and_eq_true_iff.1 hof
    obtain ⟨i, hi⟩ := Table.mem_values.1 hl
    have hof : l.offer = o.id := beq_iff_eq.1 hof
    refine ⟨l, mem_pendingLines.2 ⟨⟨i, hi⟩, hp, ?_⟩, hof⟩
    rw [← Jobs.contains_expiredOffers hk (.refl _) hi hp, List.contains_iff_mem, hof]
    exact hid
  · rintro ⟨l, hl, rfl⟩
    obtain ⟨⟨i, hi⟩, hp, hlapsed⟩ := mem_pendingLines.1 hl
    rw [← Jobs.contains_expiredOffers hk (.refl _) hi hp] at hlapsed
    exact List.contains_iff_mem.1 hlapsed

/-- They are found in the order of their numbers. -/
theorem ascending_expiredOffers (hk : rows.Keyed) :
    ((Store.expiredOffers rows now).map (·.id)).Pairwise (· < ·) :=
  List.pairwise_map.2 (hk.offers.ascending_values.sublist List.filter_sublist)

end Rows

/-- The first of the lines that are overdue and that somebody holds. -/
def Store.heldOverdue? (s : Store) (now : Instant) : Option Line :=
  (s.rows.overdue now).find? fun l => !s.isFree (.line l.id)

namespace Jobs

open Program

variable {s : Store} (actor : String) (now : Instant)

/-- The lines that are overdue are cancelled, or one of them is held. -/
theorem amid_expireLines (hk : s.rows.Keyed) : ∃ body,
    expireLines actor now = bracket id (fun _ => true) body ∧ (∀ tx, Within tx (body tx)) ∧
    (∀ l, s.heldOverdue? now = some l → ∀ tx, Amid s.isFree (fun _ _ => False)
      (fun e => e = .locked "offer interest" l.id) (body tx) s.stored) ∧
    (s.heldOverdue? now = none → ∀ tx, Amid s.isFree
      (fun x b => x = ((Store.expiredOffers s.rows now).map (·.id), (s.rows.overdue now).length) ∧
        b.rows = s.rows.cancel (s.rows.lapsed now) actor .expired now)
      (fun _ => False) (body tx) s.stored) := by
  have hcancel : s.stored.perform s.isFree
      (.cancelExpired ((Store.expiredOffers s.rows now).map (·.id)) actor now) =
        s.stored.cancelWhere s.isFree (s.rows.lapsed now) actor .expired now :=
    Book.cancelWhere_congr fun _ _ => contains_expiredOffers hk (.refl _)
  refine ⟨_, rfl, fun tx => ?_, fun l hl tx => ?_, fun hnone tx => ?_⟩
  · refine (within_ask _ _).bind fun _ => ?_
    refine (within_ask _ _).bind fun _ => ?_
    exact within_pure _
  · exact Amid.ask (Book.expiredOffers_eq_ok.2 ⟨rfl, rfl⟩)
      (Amid.refused (hcancel.trans (Book.cancelWhere_held hl)) rfl)
  · exact Amid.ask (Book.expiredOffers_eq_ok.2 ⟨rfl, rfl⟩)
      (Amid.ask (hcancel.trans (Book.cancelWhere_free hnone)) (amid_pure ⟨rfl, rfl⟩))

end Jobs

namespace Session

open Jobs

variable {s : Session} (actor : String) (now : Instant)

/-- A run that expires offers: the lines are cancelled, and what comes of it is recorded. -/
theorem run_expire : Session.run (expire actor now) s =
    match Session.run (expireLines actor now).run s with
    | (.ok (offers, cancelled), t) =>
      if cancelled = 0 then ({ JobReport.idle .expireOffers now with affected := offers, cancelled }, t)
      else
        (Session.run (writeRecord
          ⟨.expireOffers, .success, actor, expireTracking offers cancelled none⟩ now) t).map
            (⟨.expireOffers, .succeeded, offers, cancelled, none, ·, now⟩) id
    | (.error e, t) =>
      (Session.run (writeRecord
        ⟨.expireOffers, .fail, actor, expireTracking [] 0 (some (errorText e))⟩ now) t).map
          (⟨.expireOffers, .failed, [], 0, some (errorText e), ·, now⟩) id := by
  have hrun : Session.run (expire actor now) s = Session.run _ _ := Session.run_bind _ _ s
  rw [hrun]
  generalize Session.run (expireLines actor now).run s = q
  obtain ⟨e | ⟨offers, cancelled⟩, t⟩ := q
  · exact Session.run_bind _ _ t
  · dsimp only
    split
    · rfl
    · exact Session.run_bind _ _ t

namespace Works

/-- Where nothing is overdue the run has nothing to do. -/
theorem expire_idle (hs : s.Works) (hnone : s.store.rows.overdue now = []) :
    ∃ t, Session.run (expire actor now) s = (.idle .expireOffers now, t) ∧ Aside s t ∧
      t.store.rows = s.store.rows := by
  obtain ⟨body, hbody, hw, -, hfree⟩ := amid_expireLines actor now hs.keyed
  have hheld : s.store.heldOverdue? now = none := by
    rw [Store.heldOverdue?, hnone, List.find?_nil]
  obtain ⟨_, b, t, hrun, haside, ⟨rfl, hb⟩, hrows⟩ :=
    hs.bracket_ok id (fun _ => true) hw (hfree hheld)
  have hoffers : (Store.expiredOffers s.store.rows now).map (·.id) = [] := by
    refine List.eq_nil_iff_forall_not_mem.2 fun id hid => ?_
    obtain ⟨l, hl, -⟩ := (Rows.mem_expiredOffers hs.keyed).1 hid
    rw [hnone] at hl
    cases hl
  refine ⟨t, ?_, haside, hrows.trans (hb.trans (Rows.cancel_of_pendingLines hnone))⟩
  rw [run_expire, hbody, hrun, hoffers, hnone]
  rfl

/-- Where nothing is overdue any more, no run at that time or before has anything to do. -/
theorem expire_again (hs : s.Works) (hnone : ∀ now' ≤ now, s.store.rows.overdue now' = []) :
    ∀ actor now', now' ≤ now → ∃ t,
      Session.run (expire actor now') s = (.idle .expireOffers now', t) ∧
        t.store.rows = s.store.rows := by
  intro actor now' hle
  obtain ⟨t, hrun, -, hrows⟩ := hs.expire_idle actor now' (hnone now' hle)
  exact ⟨t, hrun, hrows⟩

/-- Where somebody holds a line that is overdue, the run fails and leaves a record of that. -/
theorem expire_held (hs : s.Works) {l : Line} (hl : s.store.heldOverdue? now = some l) :
    let error := some (errorText (.locked "offer interest" l.id))
    ∃ n t, Session.run (expire actor now) s =
        (⟨.expireOffers, .failed, [], 0, error, some n, now⟩, t) ∧ Aside s t ∧
      s.store.lastId < n ∧ t.store.rows = s.store.rows.putJob
        (JobEntry.toRecord ⟨.expireOffers, .fail, actor, expireTracking [] 0 error⟩ n now) := by
  intro error
  obtain ⟨body, hbody, hw, hheld, -⟩ := amid_expireLines actor now hs.keyed
  obtain ⟨_, t, hrun, haside, rfl, hrows⟩ := hs.bracket_error id (fun _ => true) hw (hheld l hl)
  obtain ⟨n, u, hrecord, haside', hn, hrows'⟩ := haside.writeRecord
    ⟨.expireOffers, .fail, actor, expireTracking [] 0 error⟩ now
  refine ⟨n, u, ?_, haside', hn, ?_⟩
  · rw [run_expire, hbody, hrun]
    dsimp only
    rw [hrecord]
    rfl
  · rw [← hrows]
    exact hrows'

/-- Where lines are overdue and nobody holds one, they are cancelled and recorded. -/
theorem expire_done (hs : s.Works) (hsome : s.store.rows.overdue now ≠ [])
    (hfree : s.store.heldOverdue? now = none) :
    let offers := (Store.expiredOffers s.store.rows now).map (·.id)
    let cancelled := (s.store.rows.overdue now).length
    ∃ n t, Session.run (expire actor now) s =
        (⟨.expireOffers, .succeeded, offers, cancelled, none, some n, now⟩, t) ∧ Aside s t ∧
      s.store.lastId < n ∧ t.store.rows =
        (s.store.rows.cancel (s.store.rows.lapsed now) actor .expired now).putJob (JobEntry.toRecord
          ⟨.expireOffers, .success, actor, expireTracking offers cancelled none⟩ n now) := by
  intro offers cancelled
  obtain ⟨body, hbody, hw, -, hdone⟩ := amid_expireLines actor now hs.keyed
  obtain ⟨_, b, t, hrun, haside, ⟨rfl, hb⟩, hrows⟩ :=
    hs.bracket_ok id (fun _ => true) hw (hdone hfree)
  obtain ⟨n, u, hrecord, haside', hn, hrows'⟩ := haside.writeRecord
    ⟨.expireOffers, .success, actor, expireTracking offers cancelled none⟩ now
  refine ⟨n, u, ?_, haside', hn, ?_⟩
  · rw [run_expire, hbody, hrun]
    dsimp only
    rw [if_neg (by simpa using hsome), hrecord]
    rfl
  · rw [← hb, ← show t.store.rows = b.rows from hrows]
    exact hrows'

end Works
end Session

/-- One record is added, under a number that is greater than all before it. -/
def Rows.Records (rows : Rows) (e : JobEntry) (now : Instant) (n : Int) (rows' : Rows) : Prop :=
  (∀ i j, rows.jobs.get? i = some j → i < n) ∧ rows' = rows.putJob (e.toRecord n now)

namespace History

open Jobs

variable {w : World} {ws : List World} {s : Session}

/-- A session without faults works in every world. -/
theorem works (h : History (w :: ws)) (hs : s.store = w.store) (hf : s.faults = []) : s.Works := by
  have hpart := h.sound.1.part
  rw [← hs] at hpart
  exact ⟨hf, hpart.orderly, hpart.stored.keyed⟩

/-- Numbers that were not given out yet are greater than those of the records. -/
theorem records_lt (h : History (w :: ws)) (hs : s.store = w.store) {n : Int}
    (hn : s.store.lastId < n) : ∀ i j, s.store.rows.jobs.get? i = some j → i < n := by
  rw [hs] at hn ⊢
  exact fun i j hj => Int.lt_of_le_of_lt (h.sound.1.part.stored.jobs i j hj) hn

/-- **What a run that expires offers does**, in every world of a history, whatever rows others hold
and at any time. Where no line is overdue it does nothing. Where nobody holds one of those that are,
they are all cancelled, the report names their offers, each once and in ascending order, and how many
lines there were, and the record says the same. Where somebody holds one no line changes, and a record
tells of the failure. After a run that did not fail, another one at that time or before has nothing to
do. -/
theorem expires_exactly (h : History (w :: ws)) (hs : s.store = w.store) (hf : s.faults = [])
    (actor : String) (now : Instant) :
    let rows := s.store.rows
    let overdue := rows.overdue now
    ∃ report t, Session.run (expire actor now) s = (report, t) ∧ s.Aside t ∧
      (overdue = [] → report = .idle .expireOffers now ∧ t.store.rows = rows) ∧
      (overdue ≠ [] → (∀ l ∈ overdue, s.store.isFree (.line l.id)) →
        ∃ offers : List Int, offers.Pairwise (· < ·) ∧
          (∀ id, id ∈ offers ↔ ∃ l ∈ overdue, l.offer = id) ∧
          ∃ n, report = ⟨.expireOffers, .succeeded, offers, overdue.length, none, some n, now⟩ ∧
            (rows.cancel (rows.lapsed now) actor .expired now).Records
              ⟨.expireOffers, .success, actor, expireTracking offers overdue.length none⟩ now n
              t.store.rows) ∧
      (∀ l ∈ overdue, s.store.isFree (.line l.id) = false → ∃ l ∈ overdue,
        s.store.isFree (.line l.id) = false ∧
          let error := some (errorText (.locked "offer interest" l.id))
          ∃ n, report = ⟨.expireOffers, .failed, [], 0, error, some n, now⟩ ∧
            rows.Records ⟨.expireOffers, .fail, actor, expireTracking [] 0 error⟩ now n
              t.store.rows) ∧
      (report.outcome ≠ .failed → ∀ actor' now', now' ≤ now → ∃ u,
        Session.run (expire actor' now') t = (.idle .expireOffers now', u) ∧
          u.store.rows = t.store.rows) := by
  have hworks := h.works hs hf
  have hrecords := fun {n} => h.records_lt hs (n := n)
  by_cases hnone : s.store.rows.overdue now = []
  · obtain ⟨t, hrun, haside, hrows⟩ := hworks.expire_idle actor now hnone
    refine ⟨_, t, hrun, haside, fun _ => ⟨rfl, hrows⟩, fun hsome => absurd hnone hsome,
      fun l hl => ?_, fun _ => haside.works.expire_again now fun now' hle => ?_⟩
    · rw [hnone] at hl
      cases hl
    · rw [hrows, ← Rows.cancel_of_pendingLines hnone]
      exact Rows.overdue_cancel hle actor .expired now
  cases hheld : s.store.heldOverdue? now with
  | some l =>
    obtain ⟨n, t, hrun, haside, hn, hrows⟩ := hworks.expire_held actor now hheld
    have hl : l ∈ s.store.rows.overdue now := List.mem_of_find?_eq_some hheld
    have hlocked : s.store.isFree (.line l.id) = false := by simpa using List.find?_some hheld
    refine ⟨_, t, hrun, haside, fun he => absurd he hnone, fun _ hfree => ?_,
      fun _ _ _ => ⟨l, hl, hlocked, n, rfl, hrecords hn, hrows⟩, fun h => absurd rfl h⟩
    rw [hfree l hl] at hlocked
    cases hlocked
  | none =>
    obtain ⟨n, t, hrun, haside, hn, hrows⟩ := hworks.expire_done actor now hnone hheld
    refine ⟨_, t, hrun, haside, fun he => absurd he hnone,
      fun _ _ => ⟨_, Rows.ascending_expiredOffers hworks.keyed,
        fun id => Rows.mem_expiredOffers hworks.keyed, n, rfl, hrecords hn, hrows⟩,
      fun l hl hlocked => ?_, fun _ => haside.works.expire_again now fun now' hle => ?_⟩
    · have hfree := List.find?_eq_none.1 hheld l hl
      rw [hlocked] at hfree
      exact absurd rfl hfree
    · rw [hrows]
      exact @Rows.overdue_cancel s.store.rows _ _ hle actor .expired now

end History

namespace Story

/-- An offer with two lines that may be accepted for two seconds. -/
def dated : Task :=
  .operate (.propose ⟨1, .online, some (tick 3), .null, [line 10, line 11]⟩) caller (tick 1)

/-- The offer is made, and nobody is at work. -/
def ripe : Session := ⟨(World.played [dated, opened]).1, .empty true, []⟩

/-- The offer is made, and somebody holds its second line. -/
def touched : Session :=
  ⟨(World.played [dated, opened]).1.engage (.setLineStatuses [5] .creatingPackage now),
    .empty true, []⟩

/-- When the time has passed both lines expire, and another run has nothing to do. Where the second
is held neither of them does. -/
theorem expires_exactly_touched :
    (∃ offers n t, Session.run (Jobs.expire "clock" (tick 4)) ripe =
        (⟨.expireOffers, .succeeded, offers, 2, none, some n, tick 4⟩, t) ∧ 3 ∈ offers ∧
      ∃ u, Session.run (Jobs.expire "clock" (tick 4)) t = (.idle .expireOffers (tick 4), u)) ∧
    ∃ n t, Session.run (Jobs.expire "clock" (tick 4)) touched = (⟨.expireOffers, .failed, [], 0,
        some (Jobs.errorText (.locked "offer interest" 5)), some n, tick 4⟩, t) ∧
      t.store.rows.lines = touched.store.rows.lines := by
  have h := World.history_played [dated, opened]
  constructor
  · have hcount : (ripe.store.rows.overdue (tick 4)).length = 2 := by decide +kernel
    have hoffer : ∃ l ∈ ripe.store.rows.overdue (tick 4), l.offer = 3 := by decide +kernel
    obtain ⟨report, t, hrun, -, -, hdone, -, hagain⟩ :=
      History.expires_exactly h (s := ripe) rfl rfl "clock" (tick 4)
    obtain ⟨offers, -, hoffers, n, rfl, -⟩ :=
      hdone (List.ne_nil_of_length_pos (by rw [hcount]; decide)) (by decide +kernel)
    obtain ⟨u, hu, -⟩ := hagain nofun "clock" (tick 4) le_rfl
    rw [hcount] at hrun
    exact ⟨offers, n, t, hrun, (hoffers 3).2 hoffer, u, hu⟩
  · have hheld : ∃ l ∈ touched.store.rows.overdue (tick 4),
        touched.store.isFree (.line l.id) = false := by decide +kernel
    have hsecond : ∀ l ∈ touched.store.rows.overdue (tick 4),
        touched.store.isFree (.line l.id) = false → l.id = 5 := by decide +kernel
    obtain ⟨l, hl, hlocked⟩ := hheld
    obtain ⟨report, t, hrun, -, -, -, hfailed, -⟩ := History.expires_exactly
      (h.engage (.setLineStatuses [5] .creatingPackage now)) (s := touched) rfl rfl "clock" (tick 4)
    obtain ⟨m, hm, hmlocked, n, rfl, -, hrows⟩ := hfailed l hl hlocked
    rw [hsecond m hm hmlocked] at hrun
    exact ⟨n, t, hrun, by rw [hrows]; rfl⟩

end Story
end LoanDesk
