/-
# The reason of the last cancellation

Where every line of a request is cancelled, its standing carries a reason. Nothing records which task
cancelled a line last: the reason is read off the lines, from the one with the greatest time and, of
one time, the greatest number (`Standing.latest?`).

If every task is taken up later than the ones before, that reading recovers the history. The lines of
a request that are cancelled bear times of tasks that were taken up, so those of the last task that
cancelled any of them (`LastToCancel`) bear the greatest time, and no other task has a reason of that
time. Whatever the offers of the lines and the order in which they were made and cancelled, the
reason is that of this task (`History.reason_recovered`).
-/

import LoanDesk.Proofs.Desk.Cancelled
import LoanDesk.Proofs.Store.Latest

namespace LoanDesk

/-! ### The line that is stamped last -/

namespace Standing

variable {a b : Line}

/-- Lines are ordered by their times, and by their numbers where the times are equal. -/
theorem notBefore_iff :
    notBefore a b ↔ stamp a < stamp b ∨ stamp a = stamp b ∧ a.id ≤ b.id :=
  Instant.notBefore_iff (a := (stamp a, a.id)) (b := (stamp b, b.id))

/-- Among lines there is one that is stamped last. -/
theorem latest?_spec {ls : List Line} (h : ls ≠ []) :
    ∃ l ∈ ls, latest? ls = some l ∧ ∀ m ∈ ls, notBefore m l :=
  Instant.foldl_latest (fun l => (stamp l, l.id)) (fun _ => rfl) (fun _ _ => rfl) h

/-- The reason of lines that all bear one: of those whose time is not before that of any other. -/
theorem latestReason_eq {ls : List Line} {time : Instant} {reason : CancelReason}
    (hknown : ∀ l ∈ ls, l.cancelReason ≠ .unknown) (hlast : ∃ l ∈ ls, stamp l = time)
    (hall : ∀ l ∈ ls, stamp l < time ∨ l.cancelReason = reason) : latestReason ls = reason := by
  obtain ⟨m, hm, hmt⟩ := hlast
  have hfilter : (ls.filter fun l => l.cancelReason != .unknown) = ls :=
    List.filter_eq_self.2 fun l hl => by simpa using hknown l hl
  obtain ⟨l, hl, hlatest, hmax⟩ := latest?_spec (List.ne_nil_of_mem hm)
  rw [latestReason, hfilter, hlatest]
  refine (hall l hl).resolve_left fun hlt => ?_
  rcases notBefore_iff.1 (hmax m hm) with hml | ⟨hml, -⟩
  · exact lt_asymm hlt (hmt ▸ hml)
  · exact hlt.ne (hml.symm.trans hmt)

/-- A request is cancelled for the reason of the latest line when all of its lines are. -/
theorem of_eq_cancelled {r : Request} {ls : List Line} (hne : ls ≠ [])
    (hc : ∀ l ∈ ls, l.status = .cancelled) : of r ls = .cancelled (latestReason ls) := by
  unfold of
  grind

end Standing

/-! ### Tasks in the course of time -/

/-- The time of a task. -/
def Task.time : Task → Instant
  | .operate _ _ now | .expire _ now | .decline _ _ _ now => now

/-- The time of a stamp is the time of its task. -/
theorem Task.time_of_stamp? {t : Task} {s : Stamp} (h : t.stamp? = some s) : s.time = t.time := by
  cases t with
  | operate o caller now => cases o <;> cases h <;> rfl
  | expire => cases h; rfl
  | decline => cases h; rfl

namespace World

/-- The tasks that were taken up, the newest first. -/
def taken : List World → List Task
  | w' :: w :: ws => match w.work, w'.work with
    | none, some k => k.task :: taken (w :: ws)
    | _, _ => taken (w :: ws)
  | _ => []

/-- Every task is taken up at a later time than those before. -/
def Paced (ws : List World) : Prop := (taken ws).Pairwise fun t t' => t'.time < t.time

/-- Tasks that were taken up are not forgotten. -/
theorem taken_suffix (w' w : World) (ws : List World) :
    taken (w :: ws) <:+ taken (w' :: w :: ws) := by
  rw [taken]
  split
  · exact List.suffix_cons _ _
  · exact List.suffix_refl _

/-- What goes on at later times did so before. -/
theorem Paced.tail {w' w : World} {ws : List World} (h : Paced (w' :: w :: ws)) :
    Paced (w :: ws) := h.sublist (taken_suffix w' w ws).sublist

end World

namespace History

open World

/-- The task at work is the one that was taken up last. -/
theorem taken_of_work {w : World} {ws : List World} (h : History (w :: ws)) {k : Work}
    (hk : w.work = some k) : ∃ ts, taken (w :: ws) = k.task :: ts := by
  generalize hvs : w :: ws = vs at h
  induction h generalizing w ws k with
  | empty =>
    obtain ⟨rfl, rfl⟩ := List.cons.inj hvs
    cases hk
  | @step v v' vs h hs ih =>
    obtain ⟨rfl, rfl⟩ := List.cons.inj hvs
    cases hs with
    | start s t =>
      cases hk
      exact ⟨_, rfl⟩
    | @act s s' t mine c next x hmay =>
      cases hk
      have hbefore := ih (k := ⟨t, mine, .step c next⟩) rfl rfl
      exact hbefore
    | finish => cases hk
    | @stir _ s c x hf hi hmay =>
      have hwork : v.work = some k := hk
      obtain ⟨ts, hts⟩ := ih hwork rfl
      refine ⟨ts, ?_⟩
      rw [← hts, taken]
      simp only [hwork]

/-- A task that was ever at work was taken up. -/
theorem mem_taken {w : World} {ws : List World} (h : History (w :: ws)) {v : World}
    (hv : v ∈ w :: ws) {k : Work} (hk : v.work = some k) : k.task ∈ taken (w :: ws) := by
  generalize hvs : w :: ws = vs at h
  induction h generalizing w ws with
  | empty =>
    obtain ⟨rfl, rfl⟩ := List.cons.inj hvs
    obtain rfl := List.mem_singleton.1 hv
    cases hk
  | @step x x' xs h hs ih =>
    obtain ⟨rfl, rfl⟩ := List.cons.inj hvs
    rcases List.mem_cons.1 hv with rfl | hv
    · obtain ⟨ts, hts⟩ := (h.step hs).taken_of_work hk
      rw [hts]
      exact List.mem_cons_self
    · exact (taken_suffix _ _ _).subset (ih hv rfl)

/-- A line that is cancelled bears the stamp of a task that was taken up. -/
theorem stamped_by {w : World} {ws : List World} (h : History (w :: ws)) {i : Int} {l : Line}
    (hl : w.store.rows.lines.get? i = some l) (hc : l.status = .cancelled) :
    ∃ t ∈ taken (w :: ws), ∃ s, t.stamp? = some s ∧ Standing.stamp l = t.time ∧
      l.cancelReason = s.reason := by
  obtain ⟨after, v', v, before, hsplit, hstrikes, -⟩ := (h.cancelled_once hl).2 hc
  obtain ⟨k, s, l₀, hk, hs, -, -, rfl⟩ := hstrikes.stamped
  have hv : v ∈ w :: ws := by
    rw [hsplit]
    simp
  exact ⟨k.task, h.mem_taken hv hk, s, hs, Task.time_of_stamp? hs, rfl⟩

end History

/-! ### The last task to cancel a line of a request -/

/-- The task cancels a line of the request, and none is cancelled after that. -/
inductive LastToCancel (request : Int) : List World → Task → Prop
  | now {w w' : World} {ws : List World} {k : Work} {i : Int} {l : Line} (hk : w.work = some k)
    (h : w.Strikes w' i l) (hl : l.request = request) : LastToCancel request (w' :: w :: ws) k.task
  | since {w w' : World} {ws : List World} {t : Task} (h : LastToCancel request (w :: ws) t)
    (hno : ∀ i l, w.Strikes w' i l → l.request ≠ request) : LastToCancel request (w' :: w :: ws) t

/-- Of the lines of the request that are cancelled some bear the stamp, and all others an earlier
time. -/
structure Rows.Dated (rows : Rows) (request : Int) (s : Stamp) : Prop where
  last : ∃ i l, rows.lines.get? i = some l ∧ l.request = request ∧ l.status = .cancelled ∧
    Standing.stamp l = s.time
  before : ∀ i l, rows.lines.get? i = some l → l.request = request → l.status = .cancelled →
    Standing.stamp l < s.time ∨ l.cancelReason = s.reason

/-- A line that is cancelled stays as long as its request does. -/
theorem World.Step.cancelled_stays {w w' : World} (hs : w.Step w') (hw : w.Fit) {i j : Int}
    {l m : Line} (hl : w.store.rows.lines.get? i = some l) (hc : l.status = .cancelled)
    (hm : w'.store.rows.lines.get? j = some m) (hr : m.request = l.request) :
    w'.store.rows.lines.get? i = some l := by
  obtain ⟨hw', heffect⟩ := hs.effect invariant_linked hw
  rcases heffect with hrows | ⟨k, hk, last, hb, hd⟩
  · rw [hrows]
    exact hl
  · rcases (hd.evolves hb).lines.kept i l hl with ⟨l', hl', hmoves⟩ | ⟨-, hremoves⟩
    · rw [← hmoves.final (by rw [hc]; rfl)]
      exact hl'
    · -- the request of the other line is still there
      obtain ⟨o, ho, hreq⟩ := hw'.part.stored.line j m hm
      obtain ⟨r, hr'⟩ := hw'.part.stored.offer _ o ho
      rw [hreq, hr, show w'.store.stored.rows.requests.get? l.request = none from hremoves.gone] at hr'
      cases hr'

/-- **Stamps tell the last cancellation**, where tasks are taken up one later than the other. -/
theorem History.dated {w : World} {ws : List World} (h : History (w :: ws))
    (hp : World.Paced (w :: ws)) {request i : Int} {l : Line}
    (hl : w.store.rows.lines.get? i = some l) (hr : l.request = request)
    (hc : l.status = .cancelled) : ∃ t s, LastToCancel request (w :: ws) t ∧ t.stamp? = some s ∧
      w.store.rows.Dated request s := by
  generalize hvs : w :: ws = vs at h
  induction h generalizing w ws i l with
  | empty =>
    obtain ⟨rfl, rfl⟩ := List.cons.inj hvs
    cases hl
  | @step v v' vs h hs ih =>
    obtain ⟨rfl, rfl⟩ := List.cons.inj hvs
    have hfit := h.sound.1
    by_cases hstrike : ∃ j m, v.Strikes w j m ∧ m.request = request
    · -- the task at work is the newest, and all others bear earlier times
      obtain ⟨j, m, hstrikes, hm⟩ := hstrike
      obtain ⟨k, s, m₀, hk, hstamp, -, -, rfl⟩ := hstrikes.stamped
      obtain ⟨ts, hts⟩ := h.taken_of_work hk
      refine ⟨k.task, s, .now hk hstrikes hm, hstamp, ⟨j, _, hstrikes.struck, hm, rfl, rfl⟩, ?_⟩
      intro i l hl _ hc
      rcases hs.strikes hfit hl hc with hbefore | hstrikes'
      · obtain ⟨t, ht, s', hs', htime, hreason⟩ := h.stamped_by hbefore hc
        rw [hts] at ht
        rcases List.mem_cons.1 ht with rfl | ht
        · rw [hstamp] at hs'
          exact Or.inr (Option.some.inj hs' ▸ hreason)
        · have hpaced := hp.tail
          rw [World.Paced, hts, List.pairwise_cons] at hpaced
          rw [htime, Task.time_of_stamp? hstamp]
          exact Or.inl (hpaced.1 t ht)
      · obtain ⟨k', s', l₀, hk', hstamp', -, -, rfl⟩ := hstrikes'.stamped
        rw [hk] at hk'
        obtain rfl := Option.some.inj hk'
        rw [hstamp] at hstamp'
        exact Or.inr (congrArg Stamp.reason (Option.some.inj hstamp')).symm
    · -- no line of the request is cancelled in this step, and those that were are there
      have hno : ∀ j m, v.Strikes w j m → m.request ≠ request :=
        fun j m hj hm => hstrike ⟨j, m, hj, hm⟩
      have hbefore : ∀ j m, w.store.rows.lines.get? j = some m → m.request = request →
          m.status = .cancelled → v.store.rows.lines.get? j = some m := fun j m hj hm hcm =>
        (hs.strikes hfit hj hcm).resolve_right fun hstrikes => hno j m hstrikes hm
      obtain ⟨t, s, hlast, hstamp, hdated⟩ := ih hp.tail (hbefore i l hl hr hc) hr hc rfl
      refine ⟨t, s, .since hlast hno, hstamp, ?_, fun j m hj hm hcm =>
        hdated.before j m (hbefore j m hj hm hcm) hm hcm⟩
      obtain ⟨j, m, hj, hm, hcm, htime⟩ := hdated.last
      exact ⟨j, m, hs.cancelled_stays hfit hj hcm hl (hr.trans hm.symm), hm, hcm, htime⟩

/-- An overview of a request with cancelled lines gives the reason of those that are stamped
last. -/
theorem Session.overview_cancelled {s : Session} (hf : s.faults = []) {id : Int} {r : Request}
    (hr : s.store.rows.requests.get? id = some r) {time : Instant} {reason : CancelReason}
    (hc : ∀ l ∈ s.store.rows.linesOf id, l.status = .cancelled)
    (hknown : ∀ l ∈ s.store.rows.linesOf id, l.cancelReason ≠ .unknown)
    (hlast : ∃ l ∈ s.store.rows.linesOf id, Standing.stamp l = time)
    (hall : ∀ l ∈ s.store.rows.linesOf id, Standing.stamp l < time ∨ l.cancelReason = reason) :
    ∃ o, (Session.run (Desk.overview id).run s).1 = .ok o ∧ o.request = r ∧
      o.standing = .cancelled reason := by
  obtain ⟨store, mailbox, faults⟩ := s
  subst hf
  obtain ⟨m, hm, htime⟩ := hlast
  have hlines : ∀ l, l ∈ newestFirst (fun l => (l.createdAt, l.id)) (store.rows.linesOf id) ↔
      l ∈ store.rows.linesOf id := fun _ => mem_newestFirst
  refine ⟨_, Session.run_overview hr, rfl, ?_⟩
  refine (Standing.of_eq_cancelled (List.ne_nil_of_mem ((hlines m).2 hm)) fun l hl =>
    hc l ((hlines l).1 hl)).trans (congrArg Standing.cancelled ?_)
  exact Standing.latestReason_eq (fun l hl => hknown l ((hlines l).1 hl))
    ⟨m, (hlines m).2 hm, htime⟩ fun l hl => hall l ((hlines l).1 hl)

/-- **The reason that an overview gives is that of the last cancellation.**  If every task was taken
up later than those before, and a request has lines that are all cancelled, then some task was the
last to cancel any of them, and an overview tells that the request is cancelled for the reason that
this task gives. -/
theorem History.reason_recovered {w : World} {ws : List World} (h : History (w :: ws))
    (hp : World.Paced (w :: ws)) {id : Int} {r : Request}
    (hr : w.store.rows.requests.get? id = some r) (hne : w.store.rows.linesOf id ≠ [])
    (hc : ∀ l ∈ w.store.rows.linesOf id, l.status = .cancelled) :
    ∃ t stamp, LastToCancel id (w :: ws) t ∧ t.stamp? = some stamp ∧
      ∀ s : Session, s.store = w.store → s.faults = [] →
        ∃ o, (Session.run (Desk.overview id).run s).1 = .ok o ∧ o.request = r ∧
          o.standing = .cancelled stamp.reason := by
  obtain ⟨l, hmem⟩ := List.exists_mem_of_ne_nil _ hne
  obtain ⟨⟨i, hl⟩, hreq⟩ := Rows.mem_linesOf.1 hmem
  obtain ⟨t, stamp, hlast, hstamp, hdated⟩ := h.dated hp hl hreq (hc l hmem)
  refine ⟨t, stamp, hlast, hstamp, ?_⟩
  rintro ⟨store, mailbox, faults⟩ hs hf
  subst hs
  obtain ⟨j, m, hj, hm, -, htime⟩ := hdated.last
  refine Session.overview_cancelled hf hr hc (fun l hl => ?_)
    ⟨m, Rows.mem_linesOf.2 ⟨⟨j, hj⟩, hm⟩, htime⟩ fun l hl => ?_
  · obtain ⟨⟨j, hj⟩, -⟩ := Rows.mem_linesOf.1 hl
    exact (h.neat.stamped j l hj).reason.2 (hc l hl)
  · obtain ⟨⟨j, hj⟩, hreq⟩ := Rows.mem_linesOf.1 hl
    exact hdated.before j l hj hreq (hc l hl)

namespace Story

/-- A time some seconds on. -/
def tick (seconds : Int) : Instant := { now with second := now.second + seconds }

/-- Two offers are made for request 1, one after the other. The second is declined, and then the
first expires. -/
def lapsed : List Task := [
  .expire "clock" (tick 4),
  .operate (.decline 6) caller (tick 3),
  .operate (.propose ⟨1, .online, none, .null, [line 11]⟩) caller (tick 2),
  .operate (.propose ⟨1, .online, some (tick 3), .null, [line 10]⟩) caller (tick 1),
  opened]

/-- The line of the offer that expired is the older one, and the reason is its reason. -/
theorem reason_recovered_lapsed : ∃ t stamp, LastToCancel 1 (World.history lapsed) t ∧
    t.stamp? = some stamp ∧ stamp.reason = .expired ∧
      ((World.played lapsed).1.rows.linesOf 1).map (·.cancelReason) = [.expired, .investor] := by
  have hpaced : World.Paced (World.history lapsed) := by
    unfold World.Paced
    decide +kernel
  have hr : ((World.played lapsed).1.rows.requests.get? 1).isSome := by decide +kernel
  have hne : (World.played lapsed).1.rows.linesOf 1 ≠ [] := by decide +kernel
  have hc : ∀ l ∈ (World.played lapsed).1.rows.linesOf 1, l.status = .cancelled := by
    decide +kernel
  obtain ⟨t, stamp, ht, hstamp, hrecovered⟩ := History.reason_recovered
    (World.history_played lapsed) hpaced (Option.some_get hr).symm hne hc
  -- read off the lines, the reason is that of the time of the expiry
  let s : Session := ⟨(World.played lapsed).1, .empty false, []⟩
  obtain ⟨o, ho, -, hexpired⟩ := Session.overview_cancelled (s := s) rfl
    (Option.some_get hr).symm hc (by decide +kernel)
    (show ∃ l ∈ s.store.rows.linesOf 1, Standing.stamp l = tick 4 by decide +kernel)
    (show ∀ l ∈ s.store.rows.linesOf 1, Standing.stamp l < tick 4 ∨ l.cancelReason = .expired by
      decide +kernel)
  obtain ⟨o', ho', -, hreason⟩ := hrecovered s rfl rfl
  obtain rfl := Except.ok.inj (ho.symm.trans ho')
  exact ⟨t, stamp, ht, hstamp, Standing.cancelled.inj (hreason.symm.trans hexpired),
    by decide +kernel⟩

end Story
end LoanDesk
