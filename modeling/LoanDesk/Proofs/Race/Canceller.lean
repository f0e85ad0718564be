/-
# Cancelling lines while one is accepted

What a task that cancels lines does at its seat, beside a task that accepts a line. A line that it
found open may have been taken when it comes to cancel it. Such a line is not touched then, for only
open lines are cancelled; and where the task holds the request none of its lines can have been taken
(`Rows.Won.line_of_request`). So in its commit it makes its stroke, whichever of the cancelling tasks
it is (`Encounter.leaves_cancelling`).
-/

import LoanDesk.Proofs.Race.Canceller.Phases
import LoanDesk.Proofs.Race.Canceller.Targets

namespace LoanDesk

namespace Desk

open Program Meeting
open LineStatus (canMove)

/-! ### Tasks -/

section Tasks

variable {e : Encounter} {p : Seat (Fin 2)} {caller : Caller} {now : Instant}

/-- **Whoever deletes a request keeps to the second seat.** -/
theorem leaves_deleteRequest {id : Int}
    (he : e.cancelling = .operate (.deleteRequest id) caller now) (hmine : p.mine = [])
    (hfresh : 1 ∉ p.log) : Leaves e.meeting 1 (deleteRequest id).run p := by
  refine leaves_bracket hmine fun tx q hsits hchanges hlog => ?_
  have hq := draws_start hsits (mt hlog.1 hfresh) hchanges
  refine serves_lockRequest hq fun r q₁ _ hq₁ hr hid => ?_
  refine serves_ensure hq₁.sits.mine fun hpending => ?_
  refine serves_read (k := .linesOfRequests [id]) trivial hq₁
    fun free b b' ls _ q₂ hb hbook _ hq₂ => ?_
  obtain ⟨hls, -⟩ := Book.linesOfRequests_eq_ok.1 hbook
  rw [(Rows.desk_eq_iff.1 hb).2.2.1] at hls
  split
  · exact serves_throw _ hq₂.sits.mine
  rename_i hnone
  refine Brings.mono (fun u t ⟨q₃, p₃, ho₃, h₃, ho⟩ => ?_) (fun _ _ h => h)
    (serves_call hq₂.sits (.deleteRequest id))
  have hq₃ := hq₂.others ho₃
  obtain ⟨free₃, hbook₃⟩ := h₃.book
  have hp₃ := hq₃.asked h₃ (.removeRequest id) (Store.spares_deleteRequest id) (by
    rw [← hq₃.view]
    exact congrArg (Rows.desk ∘ Book.rows) (Book.deleteRequest_eq_ok.1 hbook₃).2.2.2)
  have ht := hp₃.others ho
  refine ht.ready ?_
  subst hid
  rw [he]
  refine .delete (r := r) ((ht.request_eq List.mem_cons_self).trans hr)
    (isPending_of_ensure hpending) fun i l hl hreq => ?_
  -- the lines of a request that is held are as they were read
  have hl := (hq₂.line_of_request List.mem_cons_self hreq).2
    ((ht.line_of_request List.mem_cons_self hreq).1 hl)
  have hmem : l ∈ ls := by
    rw [hls, mem_newestFirst, List.mem_filter]
    exact ⟨Table.mem_values.2 ⟨i, hl⟩, by simpa using hreq⟩
  simpa using List.find?_eq_none.1 hnone l hmem

/-- **An administrator who cancels lines keeps to the second seat.** -/
theorem leaves_cancel {c : Cancellation} (he : e.cancelling = .operate (.cancel c) caller now)
    (hmine : p.mine = []) (hfresh : 1 ∉ p.log) :
    Leaves e.meeting 1 (cancel c caller now).run p := by
  unfold cancel
  by_cases hloans : c.loans.isEmpty
  · rw [if_pos hloans]
    exact leaves_done _ hmine
  rw [if_neg hloans, ensureSound_none_bind]
  refine Leaves.bindExcept (leaves_bracket hmine fun tx q hsits hchanges hlog => ?_)
    fun ⟨r, ids, standing⟩ q hq => ?_
  · have hq := draws_start hsits (mt hlog.1 hfresh) hchanges
    refine serves_lockRequest hq fun r q₁ _ hq₁ hr hid => ?_
    refine serves_read (k := .offersOfRequest r.id) trivial hq₁
      fun _ _ _ offers _ q₂ _ _ _ hq₂ => ?_
    refine serves_read (k := .linesOfRequests [r.id]) trivial hq₂
      fun free b b' ls _ q₃ hb hbook _ hq₃ => ?_
    obtain ⟨hls, -⟩ := Book.linesOfRequests_eq_ok.1 hbook
    rw [(Rows.desk_eq_iff.1 hb).2.2.1] at hls
    have hlines : ∀ l, l ∈ ls ↔
        ∃ i, q₁.store.rows.lines.get? i = some l ∧ l.request = c.request := by
      intro l
      rw [hls, mem_newestFirst, List.mem_filter, Table.mem_values, ← hid]
      constructor
      · rintro ⟨⟨i, hl⟩, hreq⟩
        have hreq : l.request = r.id := by simpa using hreq
        exact ⟨i, (hq₃.line_of_request List.mem_cons_self (hreq.trans hid)).1 hl, hreq⟩
      · rintro ⟨i, hl, hreq⟩
        exact ⟨⟨i, (hq₃.line_of_request List.mem_cons_self (hreq.trans hid)).2 hl⟩,
          by simpa using hreq⟩
    rcases targets_cases offers ls c.loans with ⟨ts, hts, htargets, hall⟩ | ⟨x, hx, -⟩
    swap
    · rw [hx]
      exact serves_throw _ hq₃.sits.mine
    rw [hts, pure_bind]
    refine Brings.bind (serves_lockOffers _ hq₃) fun _ q₄ hq₄ => ?_
    refine serves_cancel (k := .cancelLines _ _ _ _) (fun l => (ts.map (·.id)).contains l.id)
      (fun l => l.request == c.request && c.loans.contains l.loan) caller.name
      (if c.forInvestor then .investor else .admin) now trivial (fun free b x b' h => ?_) hq₄
      (fun q hq i l hl hp => ?_) fun _ q₅ hq₅ => ?_
    · exact congrArg Book.rows (Book.cancelWhere_eq_ok.1 h).2.2
    · exact contains_targets hq.sits.stored (fun l => by
        rw [hlines]
        exact exists_congr fun i => and_congr_left fun hreq =>
          (hq.line_of_request List.mem_cons_self hreq).symm) htargets hl hp
    refine serves_read (k := .linesOfRequests [r.id]) trivial hq₅ fun _ _ _ _ _ q₆ _ _ _ hq₆ => ?_
    refine Brings.pure fun t ho => ?_
    have ht := hq₆.others ho
    refine ht.ready ?_
    rw [he]
    refine .cancel (r := r) ((ht.request_eq List.mem_cons_self).trans hr) (by simpa using hloans) ?_
    intro loan hloan
    obtain ⟨l, hl, hp, hlloan⟩ := hall loan hloan
    obtain ⟨i, hget, hreq⟩ := (hlines l).1 hl
    exact ⟨i, l, (ht.line_of_request List.mem_cons_self hreq).2 hget, hreq, hlloan, hp⟩
  · dsimp only
    split
    · exact leaves_tell _ _ hq
    · exact leaves_done _ hq

/-- **An investor who turns down an offer keeps to the second seat.** -/
theorem leaves_decline {offer : Int} (he : e.cancelling = .operate (.decline offer) caller now)
    (hmine : p.mine = []) (hfresh : 1 ∉ p.log) :
    Leaves e.meeting 1 (decline offer caller now).run p := by
  refine leaves_bracket hmine fun tx q hsits hchanges hlog => ?_
  have hq := draws_start hsits (mt hlog.1 hfresh) hchanges
  refine serves_read (k := .offerWithRequest offer) trivial hq
    fun free b b' ⟨o, r⟩ _ q₁ hb hbook _ hq₁ => ?_
  obtain ⟨hoffer, hrequest, -⟩ := Book.offerWithRequest_eq_ok.1 hbook
  rw [(Rows.desk_eq_iff.1 hb).2.1] at hoffer
  rw [(Rows.desk_eq_iff.1 hb).1] at hrequest
  have hoid := hq₁.sits.stored.offers _ _ hoffer
  refine serves_ensure hq₁.sits.mine fun hscope => ?_
  refine serves_lockRequest hq₁.since fun r' q₂ hwon hq₂ _ _ => ?_
  refine serves_read (k := .lockLinesOfOffer o.id) trivial hq₂
    fun free b b' ls _ q₃ hb hbook hasked hq₃ => ?_
  obtain ⟨hls, -, -, -⟩ := Book.lockLinesOfOffer_eq_ok.1 hbook
  rw [(Rows.desk_eq_iff.1 hb).2.2.1] at hls
  split
  swap
  · exact serves_throw _ hq₃.sits.mine
  rename_i l hfound
  refine serves_ensure hq₃.sits.mine fun _ => ?_
  have hmem := List.mem_of_find?_eq_some hfound
  have hheld := hasked.grasps (Store.grasps_lockLinesOfOffer o.id) (List.mem_map_of_mem hmem)
  rw [hls] at hmem
  obtain ⟨hstored, hlo⟩ := List.mem_filter.1 hmem
  have hline := hq₃.sits.stored.lines.mem_values.1 hstored
  refine serves_cancel (k := .cancelByOffer _ _ _ _) (·.offer == o.id) (·.offer == o.id)
    caller.name .investor now trivial (fun free b x b' h => ?_) (hq₃.since.hold hheld rfl)
    (fun _ _ _ _ _ _ => rfl) fun _ q₄ hq₄ => ?_
  · exact congrArg Book.rows (Book.cancelWhere_eq_ok.1 h).2.2
  refine serves_read (k := .linesOfRequests [r.id]) trivial hq₄ fun _ _ _ _ _ q₅ _ _ _ hq₅ => ?_
  refine Brings.pure fun t ho => ?_
  have ht := hq₅.others ho
  refine ht.ready ?_
  -- the request may have been closed in between, but not changed hands
  have hwon := (hwon.trans hq₃.won).trans ht.won
  obtain ⟨r'', hrequest', hcase⟩ := hwon.request _ _ hrequest
  have hinvestor : r''.investor = r.investor := by
    rcases hcase with rfl | ⟨-, -, -, hinvestor⟩
    · rfl
    · exact hinvestor
  subst hoid
  rw [he]
  refine .decline (r := r'') (i := l.id) (l := l) ?_ hrequest' (by rw [hinvestor]; exact hscope)
    ((ht.line_eq List.mem_cons_self).trans hline) (by simpa using hlo)
    (by simpa using List.find?_some hfound)
  change t.store.rows.offers.get? o.id = some o
  rw [hwon.offers]
  exact hoffer

end Tasks

end Desk

namespace Jobs

open Program Meeting Desk

section Expire

variable {e : Encounter} {p : Seat (Fin 2)} {actor : String} {now : Instant}

/-- A line that is open now was open before, so its offer was found if its time has passed. -/
theorem contains_expiredOffers {rows rows' : Rows} (hk : rows.Keyed) (hw : rows.Won rows')
    {i : Int} {l : Line} (hl : rows'.lines.get? i = some l) (hp : l.isPending) :
    ((Store.expiredOffers rows now).map (·.id)).contains l.offer = rows.lapsed now l := by
  have hl : rows.lines.get? i = some l := by
    obtain ⟨l₀, hl₀, rfl | ⟨hp', -⟩⟩ := hw.line_before hl
    · exact hl₀
    · rw [hp'] at hp
      cases hp
  unfold Store.expiredOffers Rows.lapsed
  rw [Bool.eq_iff_iff, List.contains_iff_mem, List.mem_map, Option.any_eq_true]
  constructor
  · rintro ⟨o, ho, hid⟩
    obtain ⟨hmem, hcond⟩ := List.mem_filter.1 ho
    rw [Bool.and_eq_true] at hcond
    exact ⟨o, by rw [← hid]; exact hk.offers.mem_values.1 hmem, hcond.1⟩
  · rintro ⟨o, ho, hcond⟩
    have hid := hk.offers _ o ho
    refine ⟨o, List.mem_filter.2 ⟨hk.offers.mem_values.2 (by rw [hid]; exact ho), ?_⟩, hid⟩
    rw [Bool.and_eq_true, List.any_eq_true]
    exact ⟨hcond, l, Table.mem_values.2 ⟨i, hl⟩, by simp [hid, hp]⟩

/-- A run that expires lines ends with its transaction, and does its deed or none. -/
theorem leaves_expireLines (he : e.cancelling = .expire actor now) (hmine : p.mine = [])
    (hfresh : 1 ∉ p.log) : Leaves e.meeting 1 (expireLines actor now).run p := by
  refine leaves_bracket hmine fun tx q hsits hchanges hlog => ?_
  have hq := draws_start hsits (mt hlog.1 hfresh) hchanges
  refine serves_read (k := .expiredOffers now) trivial hq
    fun free b b' offers _ q₁ hb hbook _ hq₁ => ?_
  obtain ⟨hoffers, -⟩ := Book.expiredOffers_eq_ok.1 hbook
  obtain ⟨-, hboffers, hblines, -⟩ := Rows.desk_eq_iff.1 hb
  have hoffers : offers = Store.expiredOffers q₁.store.rows now := by
    rw [hoffers]
    unfold Store.expiredOffers
    rw [hboffers, hblines]
  refine serves_cancel (k := .cancelExpired _ _ _) (fun l => (offers.map (·.id)).contains l.offer)
    (q₁.store.rows.lapsed now) actor .expired now trivial (fun free b x b' h => ?_) hq₁.since
    (fun q hq i l hl hp => ?_) fun n q₂ hq₂ => Brings.pure fun t ho => ?_
  · exact congrArg Book.rows (Book.cancelWhere_eq_ok.1 h).2.2
  · rw [hoffers]
    exact contains_expiredOffers hq₁.sits.stored hq.won hl hp
  have ht := hq₂.others ho
  refine ht.ready ?_
  have hlapsed : q₁.store.rows.lapsed now = t.store.rows.desk.lapsed now := by
    unfold Rows.lapsed
    rw [← ht.won.offers]
    rfl
  rw [he, hlapsed]
  exact .expire

variable {ι : Type} {M : Meeting ι} {i : ι} {p : Seat ι}

/-- A record changes none of the tables of the desk. -/
theorem leaves_writeRecord (entry : JobEntry) (hmine : p.mine = []) :
    Leaves M i (writeRecord entry now) p := by
  refine Leaves.bind (leaves_bracket hmine fun tx q hsits hchanges _ => ?_) fun x q hq => ?_
  · refine Brings.mono (fun j t ⟨q₁, p₁, ho₁, h₁, ho⟩ => ?_) (fun _ _ h => h)
      (serves_call hsits (.createJob entry now))
    have hsame := h₁.spares (π := fun c => (c.requests, c.offers, c.lines, c.contracts))
      (Store.spares_createJob (fun _ _ => rfl) entry now)
    rw [ho₁.apart.changes hsits.mem, hchanges, ← ho.apart.changes h₁.after.mem] at hsame
    refine ⟨h₁.after.others ho, Or.inl ?_⟩
    simp only [Changes.none, Prod.mk.injEq] at hsame
    obtain ⟨hrequests, hoffers, hlines, hcontracts⟩ := hsame
    rw [Rows.desk_eq_iff, Store.view, Rows.overlay, hrequests, hoffers, hlines, hcontracts]
    exact ⟨rfl, rfl, rfl, rfl⟩
  · cases x <;> exact leaves_done _ hq

/-- **A run that expires offers keeps to the second seat.** -/
theorem leaves_expire {p : Seat (Fin 2)} (he : e.cancelling = .expire actor now)
    (hmine : p.mine = []) (hfresh : 1 ∉ p.log) :
    Leaves e.meeting 1 (expire actor now) p := by
  refine Leaves.bind (leaves_expireLines he hmine hfresh) fun x q hq => ?_
  cases x with
  | error err => exact (leaves_writeRecord _ hq).bind fun _ _ hq => leaves_done _ hq
  | ok a =>
    dsimp only
    split
    · exact leaves_done _ hq
    · exact (leaves_writeRecord _ hq).bind fun _ _ hq => leaves_done _ hq

end Expire
end Jobs

/-- **Whoever cancels lines keeps to the second seat.** -/
theorem Encounter.leaves_cancelling (e : Encounter) {p : Seat (Fin 2)} (hmine : p.mine = [])
    (hfresh : 1 ∉ p.log) : Program.Leaves e.meeting 1 e.cancelling.program p := by
  have hc := e.cancels
  generalize ht : e.cancelling = t at hc
  cases t with
  | expire actor now =>
    exact (Jobs.leaves_expire ht hmine hfresh).bind fun _ _ hq => Program.leaves_done _ hq
  | decline actor batch rounds now => exact hc.elim
  | operate o caller now =>
    cases o with
    | cancel c =>
      exact (Desk.leaves_cancel ht hmine hfresh).bind fun _ _ hq => Program.leaves_done _ hq
    | decline offer =>
      exact (Desk.leaves_decline ht hmine hfresh).bind fun _ _ hq => Program.leaves_done _ hq
    | deleteRequest id =>
      exact (Desk.leaves_deleteRequest ht hmine hfresh).bind fun _ _ hq => Program.leaves_done _ hq
    | _ => exact hc.elim

end LoanDesk
