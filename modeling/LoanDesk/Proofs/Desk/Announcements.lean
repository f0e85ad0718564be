/-
# Announcements

Investors are told of a request when a change has been stored: that an offer is ready, that the
request was confirmed, that it was declined. Each of these is told from a place of its own, some once
for an operation and some once for each request that was claimed.

What they have in common is that a task tells only of requests that were open before it (`Told`): all
operations and jobs refuse the others or pass them over, and a request that is told to be declined
because nothing of it is left had an open line. A confirmed request stays confirmed, so nobody hears
of it again (`Session.open_announced`), and a line is accepted for it at most once.
-/

import LoanDesk.Proofs.Desk.Standings

namespace LoanDesk

open Program

/-! ### Confirmed requests -/

/-- Deeds leave confirmed requests confirmed. -/
theorem Deed.confirmed {t : Task} {b b' : Book} {id : Int} (hd : Deed t b b') (hb : b.Linked) :
    b.rows.HasConfirmed id → b'.rows.HasConfirmed id := by
  rintro ⟨r, hr, hs⟩
  rcases (hd.evolves hb).requests.kept id r hr with ⟨r', hr', hc⟩ | ⟨-, hremoves⟩
  · exact ⟨r', hr', hc.confirmed hs⟩
  · obtain ⟨r', hr', hp⟩ := hremoves.isPending
    have hopen : b.rows.HasOpen r' := by
      rw [← hb.keyed.requests _ _ hr'] at hr'
      exact ⟨hr', hp⟩
    rw [hb.keyed.requests _ _ hr] at hr'
    have hid : r'.id = id := hb.keyed.requests _ _ hr'
    exact absurd ⟨r, by rw [hid]; exact hr, hs⟩ hopen.not_confirmed

/-- A request with an open line is open. -/
theorem Rows.Closed.hasOpen {rows : Rows} (h : rows.Closed) {r : Request}
    (hr : rows.requests.get? r.id = some r) {i : Int} {l : Line}
    (hl : rows.lines.get? i = some l) (hreq : l.request = r.id) (hp : l.isPending) :
    rows.HasOpen r := by
  refine ⟨hr, ?_⟩
  cases hs : r.status with
  | pending => simp [Request.isPending, hs]
  | confirmed =>
    rw [h.confirmed _ r hr hs i l hl hreq] at hp
    cases hp

/-! ### What a task tells -/

/-- The request that the investor is told to be confirmed. -/
def Event.confirmed? : Event → Option Int
  | requestConfirmed subject _ _ => some subject.request
  | offerReady _ _ | requestDeclined _ _ => none

/-- Events that are told when the rows change: they are about requests that were open before, and the
one that tells of a confirmation is about the request of the accepted line, which is confirmed now. -/
structure Told (accepted : Option Int) (es : List Event) (rows rows' : Rows) : Prop where
  opened : ∀ e ∈ es, ∃ r, rows.HasOpen r ∧ e.subject = .of r
  confirmed : es.filterMap Event.confirmed? = accepted.toList
  closed : ∀ id, accepted = some id → rows'.HasConfirmed id

namespace Told

variable {rows rows' : Rows}

/-- Nothing is told, and no line accepted. -/
theorem silent : Told none [] rows rows' where
  opened := List.forall_mem_nil _
  confirmed := rfl
  closed _ := nofun

/-- Requests that were open are told to be declined. -/
theorem declined {rs : List Request} (h : ∀ r ∈ rs, rows.HasOpen r) (reason : CancelReason) :
    Told none (rs.map fun r => .requestDeclined (.of r) reason) rows rows' where
  opened e he := by
    obtain ⟨r, hr, rfl⟩ := List.mem_map.1 he
    exact ⟨r, h r hr, rfl⟩
  confirmed := by
    rw [List.filterMap_map]
    exact List.filterMap_eq_nil_iff.2 fun _ _ => rfl
  closed _ := nofun

/-- A request that was open and is confirmed now is told to be confirmed, once. -/
theorem accepted {r : Request} {line : Int} {contract : Option Int} (h : rows.HasOpen r)
    (hc : rows'.HasConfirmed r.id) :
    Told (some r.id) [.requestConfirmed (.of r) line contract] rows rows' where
  opened e he := by
    obtain rfl := List.mem_singleton.1 he
    exact ⟨r, h, rfl⟩
  confirmed := rfl
  closed id hid := by
    obtain rfl := Option.some.inj hid
    exact hc

end Told

/-- What an operation says is told: about open requests, and of the one it accepted. -/
theorem Operation.Tells.told {rows rows' : Rows} (hc : rows.Closed) {es : List Event} :
    ∀ {o : Operation} {a : o.Answer}, o.Tells a es rows rows' → Told (o.accepted? a) es rows rows'
  | .confirm _, a, ⟨r, line, contract, hes, hid, hopen, hconf⟩
  | .accept _, a, ⟨r, line, contract, hes, hid, hopen, hconf⟩ => by
    change Told (some a.request) _ _ _
    rw [hes, hid]
    exact .accepted hopen hconf
  | .propose _, _, ⟨r, offer, hes, hopen⟩ => by
    rw [hes]
    refine ⟨fun e he => ?_, rfl, fun _ => nofun⟩
    obtain rfl := List.mem_singleton.1 he
    exact ⟨r, hopen, rfl⟩
  | .cancel _, _, .inl hes => by
    rw [hes]
    exact .silent
  | .cancel _, _, .inr ⟨r, reason, hes, hr, i, l, hl, hreq, hp⟩ => by
    rw [hes]
    -- the operation has not looked at the status of the request, but one of its lines is open
    have hopen : ∀ x ∈ [r], rows.HasOpen x := by
      intro x hx
      rw [List.mem_singleton.1 hx]
      exact hc.hasOpen hr hl hreq hp
    exact .declined hopen reason
  | .withdraw _, _, ⟨rs, hes, hopen⟩ => by
    rw [hes]
    exact .declined hopen _
  | .openRequest _, _, h | .deleteRequest _, _, h | .overview _, _, h | .listOverviews _ _, _, h
  | .offersFor _, _, h | .createPackage _, _, h | .setGuaranteeEnd _ _, _, h | .decline _, _, h
  | .addCeiling _ _, _, h | .currentCeiling, _, h | .listJobs _ _, _, h => by
    rw [show es = [] from h]
    exact .silent

/-- The request of which a task accepts a line, if that succeeds in the session. -/
def Task.accepted? (t : Task) (s : Session) : Option Int :=
  match t with
  | operate o caller now =>
    match (Session.run (o.action caller now).run s).1 with
    | .ok a => o.accepted? a
    | .error _ => none
  | expire _ _ | decline _ _ _ _ => none

/-- **What a task tells**, whatever fails on the way. -/
theorem Task.told (t : Task) {s : Session} {ws : List World}
    (h : History (⟨s.store, none⟩ :: ws)) :
    Told (t.accepted? s) (dispatched t.program s) s.store.rows
      (Session.run t.program s).2.store.rows := by
  have hk : s.store.rows.Keyed := h.sound.1.part.stored.keyed
  cases t with
  | operate o caller now =>
    have hruns := runs_run (o.action caller now).run s
    rw [Task.program, dispatched_bind, Session.run_bind, dispatched, List.append_nil]
    change Told (match (Session.run (o.action caller now).run s).1 with
      | .ok a => o.accepted? a
      | .error _ => none) _ _ _
    cases hx : (Session.run (o.action caller now).run s).1 with
    | error e =>
      -- an operation that fails has told nothing
      rw [hx] at hruns
      rw [((Desk.ordered_action o caller now).clean hruns).2]
      exact .silent
    | ok a =>
      rw [hx] at hruns
      exact ((Desk.announces_action o caller now).told hk hruns).told h.closed
  | expire actor now =>
    have hsilent : Silent (Task.expire actor now).program :=
      Silent.bind (fun _ => silent_done _) Jobs.silent_expire
    rw [(runs_run _ s).silent hsilent]
    exact .silent
  | decline actor batch rounds now =>
    have hruns := runs_run (Jobs.decline actor batch rounds now) s
    obtain ⟨rs, hes, hopen⟩ := Jobs.told_decline hruns hk
    rw [Task.program, dispatched_bind, dispatched, List.append_nil, hes]
    exact .declined hopen _

/-! ### Tasks one after another -/

/-- A task that is run in a session goes on with its history. -/
theorem History.runTask {s : Session} {ws : List World} (h : History (⟨s.store, none⟩ :: ws))
    (t : Task) : ∃ ws', History (⟨(Session.run t.program s).2.store, none⟩ :: ws') ∧
      ⟨s.store, none⟩ ∈ ws' := by
  obtain ⟨ws', hws, hsuffix⟩ := History.run t.program (s := s) (h.step (.start s.store t))
  exact ⟨ws', hws, hsuffix.subset List.mem_cons_self⟩

/-- A mailbox that keeps its events and turns none away has them all. -/
theorem Mailbox.events_deliverAll {m : Mailbox} (hkeeps : m.keeps) (hnone : m.outage = none) :
    ∀ es : List Event, (m.deliverAll es).events = m.events ++ es
  | [] => (List.append_nil _).symm
  | e :: es => by
    have hdeliver : (m.deliver e).2 = { m with events := m.events ++ [e] } := by
      rw [deliver, if_pos hkeeps, hnone]
      rfl
    change ((m.deliver e).2.deliverAll es).events = _
    rw [hdeliver, events_deliverAll (m := { m with events := m.events ++ [e] }) hkeeps hnone es,
      List.append_assoc]
    rfl

namespace Session

/-- The events that are told in the course of the tasks. -/
def announced (s : Session) : List Task → List Event
  | [] => []
  | t :: ts => dispatched t.program s ++ announced (run t.program s).2 ts

/-- The requests of which a line is accepted in the course of the tasks, one for each operation that
succeeds in that. -/
def acceptances (s : Session) : List Task → List Int
  | [] => []
  | t :: ts => (t.accepted? s).toList ++ acceptances (run t.program s).2 ts

/-- The announcements of two runs of tasks stand one after the other. -/
theorem announced_append (us : List Task) : ∀ (ts : List Task) (s : Session),
    s.announced (ts ++ us) = s.announced ts ++ (s.runTasks ts).announced us
  | [], _ => rfl
  | t :: ts, s => by
    rw [List.cons_append, announced, announced_append us ts, ← List.append_assoc]
    rfl

/-- After a run of tasks the mailbox holds what they announced, as far as it was delivered. -/
theorem mailbox_runTasks : ∀ (ts : List Task) (s : Session),
    (s.runTasks ts).mailbox = s.mailbox.deliverAll (s.announced ts)
  | [], _ => rfl
  | t :: ts, s => by
    change ((run t.program s).2.runTasks ts).mailbox = _
    rw [mailbox_runTasks ts, mailbox_dispatched, announced, Mailbox.deliverAll_append]

/-- A run of tasks extends the history of the session. -/
theorem history_runTasks : ∀ (ts : List Task) {s : Session} {ws : List World},
    History (⟨s.store, none⟩ :: ws) → ∃ ws', History (⟨(s.runTasks ts).store, none⟩ :: ws')
  | [], _, ws, h => ⟨ws, h⟩
  | t :: ts, _, _, h => by
    obtain ⟨_, hws, -⟩ := h.runTask t
    exact history_runTasks ts hws

/-- The confirmations that are told are those of the lines that are accepted. -/
theorem confirmed_announced : ∀ (ts : List Task) {s : Session} {ws : List World},
    History (⟨s.store, none⟩ :: ws) →
      (s.announced ts).filterMap Event.confirmed? = s.acceptances ts
  | [], _, _, _ => rfl
  | t :: ts, s, ws, h => by
    obtain ⟨_, hws, -⟩ := h.runTask t
    rw [announced, acceptances, List.filterMap_append, (t.told h).confirmed,
      confirmed_announced ts hws]

/-- **Nobody is told of a request that is confirmed**, however long the tasks go on. -/
theorem open_announced : ∀ (ts : List Task) {s : Session} {ws : List World},
    History (⟨s.store, none⟩ :: ws) →
      ∀ e ∈ s.announced ts, ¬s.store.rows.HasConfirmed e.subject.request
  | [], _, _, _ => List.forall_mem_nil _
  | t :: ts, s, ws, h => by
    obtain ⟨ws', hws, hmem⟩ := h.runTask t
    intro e he
    rcases List.mem_append.1 he with he | he
    · obtain ⟨r, hopen, hsubject⟩ := (t.told h).opened e he
      rw [hsubject]
      exact hopen.not_confirmed
    · -- what is confirmed is so after the first task too
      exact fun hc => open_announced ts hws e he
        (hws.lasts (P := (Rows.HasConfirmed · e.subject.request)) Deed.confirmed
          (List.mem_cons_of_mem _ hmem) hc)

/-- No two lines of a request are accepted. -/
theorem nodup_acceptances : ∀ (ts : List Task) {s : Session} {ws : List World},
    History (⟨s.store, none⟩ :: ws) → (s.acceptances ts).Nodup
  | [], _, _, _ => List.nodup_nil
  | t :: ts, s, ws, h => by
    obtain ⟨ws', hws, -⟩ := h.runTask t
    refine List.nodup_append.2 ⟨by cases t.accepted? s <;> simp, nodup_acceptances ts hws, ?_⟩
    rintro id hid _ hid' rfl
    -- the request is confirmed when the rest of the tasks begin, so nobody hears of it any more
    have hclosed := (t.told h).closed id (Option.mem_toList.1 hid)
    rw [← confirmed_announced ts hws] at hid'
    obtain ⟨e, he, hconf⟩ := List.mem_filterMap.1 hid'
    have hsubject : e.subject.request = id := by
      cases e with
      | requestConfirmed subject line contract => exact Option.some.inj hconf
      | offerReady | requestDeclined => cases hconf
    exact open_announced ts hws e he (by rw [hsubject]; exact hclosed)

/-- **Nobody is told anything after the closing message.**  Tasks are run one after another from the
empty store on, in a session that records what is told, whatever fails on the way. The confirmations
that are recorded are those of the requests of which a line was accepted, one for each operation that
succeeded in that, and no request is among them twice. And once a request is confirmed, be it that a
line was accepted, that its symbol was withdrawn or that a job declined it, no event that is recorded
later is about it. -/
theorem told_until_confirmed {s : Session} (hs : s.store = .empty) (hm : s.mailbox = .empty true)
    (ts : List Task) :
    (s.runTasks ts).mailbox.events.filterMap Event.confirmed? = s.acceptances ts ∧
      (s.acceptances ts).Nodup ∧
      ∀ before after, ts = before ++ after → ∃ later,
        (s.runTasks ts).mailbox.events = (s.runTasks before).mailbox.events ++ later ∧
          ∀ e ∈ later, ¬(s.runTasks before).store.rows.HasConfirmed e.subject.request := by
  have hempty : History [⟨s.store, none⟩] := by
    rw [hs]
    exact .empty
  have hevents (ts : List Task) : (s.runTasks ts).mailbox.events = s.announced ts := by
    rw [mailbox_runTasks, Mailbox.events_deliverAll (by rw [hm]; rfl) (by rw [hm]; rfl), hm]
    rfl
  refine ⟨?_, nodup_acceptances ts hempty, ?_⟩
  · rw [hevents, confirmed_announced ts hempty]
  · rintro before after rfl
    obtain ⟨ws, hws⟩ := history_runTasks before hempty
    refine ⟨(s.runTasks before).announced after, ?_, open_announced after hws⟩
    rw [hevents, hevents, announced_append]

end Session

namespace Story

/-- A line is accepted, and the investor hears of it. Another offer that is proposed then comes too
late, and he does not hear of that. -/
theorem told_until_confirmed_accepted :
    let s : Session := .empty true
    let ts : List Task := [opened, proposed, accepted]
    s.store = .empty ∧ s.mailbox = .empty true ∧
      (s.runTasks ts).mailbox.events.map Event.name = ["offer_ready", "request_confirmed"] ∧
      (s.runTasks ts).mailbox.events.filterMap Event.confirmed? = s.acceptances ts ∧
      s.acceptances ts = [1] ∧ (s.runTasks ts).store.rows.HasConfirmed 1 ∧
      ∃ later, (s.runTasks (ts ++ [proposed])).mailbox.events =
          (s.runTasks ts).mailbox.events ++ later ∧
        ∀ e ∈ later, ¬(s.runTasks ts).store.rows.HasConfirmed e.subject.request := by
  intro s ts
  exact ⟨rfl, rfl, by decide +kernel, (Session.told_until_confirmed rfl rfl ts).1,
    by decide +kernel, by decide +kernel,
    (Session.told_until_confirmed rfl rfl (ts ++ [proposed])).2.2 ts [proposed] rfl⟩

end Story
end LoanDesk
