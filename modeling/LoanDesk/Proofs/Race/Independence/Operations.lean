/-
# Operations about one request

An investor accepts or declines an offer, an administrator cancels lines of a request or a request is
deleted: each of these is about one request, and is local to any part of the rows that has this
request.
-/

import LoanDesk.Proofs.Race.Locality

namespace LoanDesk

namespace Desk

open Program

variable {p : Int → Bool} {tx tx' : TxId} {rows : Rows} {last : Int} {β : Type} {caller : Caller}
  {now : Instant}

/-- A check is local, and what follows it may rely on it. -/
theorem local_ensure (r : Except Refusal Unit) {f f' : Unit → Action β}
    (hf : r = .ok () → Local p tx tx' (f ()) (f' ()) rows) :
    Local p tx tx' (ensure r >>= f) (ensure r >>= f') rows := by
  cases r with
  | ok u => exact hf rfl
  | error e => exact local_throw (Failure.refused e)

/-- Finding a line is local, and what follows may rely on the line. -/
theorem local_findLine (lines : List Line) (id : Int) {f f' : Line → Action β}
    (hf : ∀ l ∈ lines, l.id = id → Local p tx tx' (f l) (f' l) rows) :
    Local p tx tx' (findLine lines id >>= f) (findLine lines id >>= f') rows := by
  unfold findLine
  cases h : lines.find? (·.id == id) with
  | none => exact local_throw (Failure.notFound "offer interest" id)
  | some l => exact hf l (List.mem_of_find?_eq_some h) (by simpa using List.find?_some h)

/-! ### Rows of the part -/

/-- The lines of an offer for the part are lines of the part. -/
theorem part_of_offer (hl : Book.Linked ⟨rows, last⟩) {offer : Int}
    (hp : ∀ o, rows.offers.get? offer = some o → p o.request) :
    ∀ l ∈ rows.lines.values, l.offer = offer → p l.request := by
  rintro l hmem rfl
  obtain ⟨k, hk⟩ := Table.mem_values.1 hmem
  obtain ⟨o, ho, hreq⟩ := hl.line k l hk
  rw [← hreq]
  exact hp o ho

/-- An offer for the part is looked up with its request. -/
theorem local_askOffer (hl : Book.Linked ⟨rows, last⟩) {offer : Int}
    (hp : ∀ o, rows.offers.get? offer = some o → p o.request) {f f' : Offer × Request → Action β}
    (hf : ∀ o r, o.id = offer → p r.id → Local p tx tx' (f (o, r)) (f' (o, r)) rows) :
    Local p tx tx' (ask tx (.offerWithRequest offer) >>= f)
      (ask tx' (.offerWithRequest offer) >>= f') rows := by
  refine .ask (Call.local_offerWithRequest hl.keyed hp) fun n ⟨o, r⟩ b h => ?_
  obtain ⟨ho, hr, rfl⟩ := Book.offerWithRequest_eq_ok.1 h
  refine hf o r (hl.keyed.offers _ _ ho) ?_
  rw [hl.keyed.requests _ _ hr]
  exact hp o ho

/-- The request and the offer that are held belong to the part. -/
structure Held.Within (h : Held) (p : Int → Bool) (rows : Rows) : Prop where
  request : p h.request.id
  offer : ∀ o, rows.offers.get? h.offer.id = some o → p o.request

namespace Held.In

variable {h : Held} (hh : h.In rows) (hl : Book.Linked ⟨rows, last⟩) (hp : p h.offer.request)

include hh hl hp

/-- What is held belongs to the part of its offer. -/
theorem within : h.Within p rows := by
  refine ⟨?_, fun o ho => ?_⟩
  · rw [hl.keyed.requests _ _ hh.request]
    exact hp
  · rw [hl.keyed.offers _ _ hh.offer, hh.offer] at ho
    obtain rfl := Option.some.inj ho
    exact hp

/-- The line that is held is a line of the part. -/
theorem line_within : ∀ l ∈ rows.lines.values, l.id ∈ [h.line.id] → p l.request := by
  intro l hmem hid
  have hget := hl.keyed.lines.mem_values.1 hmem
  rw [List.mem_singleton.1 hid, hh.line] at hget
  obtain rfl := Option.some.inj hget
  rw [← hl.request_line hh]
  exact hp

end Held.In

/-! ### Accepting -/

/-- Holding a line is local to the part of its offer. -/
theorem local_hold {offer line : Int} {target : LineStatus} (hl : Book.Linked ⟨rows, last⟩)
    (hp : ∀ o, rows.offers.get? offer = some o → p o.request) :
    Local p tx tx' (hold tx offer line target) (hold tx' offer line target) rows := by
  refine local_askOffer hl hp fun o r hid hpr => ?_
  rw [← hid] at hp
  refine .ask (Call.local_lockRequest hl.keyed hpr _) fun n r' b h => ?_
  obtain ⟨-, -, rfl⟩ := Book.lockRequest_eq_ok.1 h
  refine .ask (Call.local_lockLinesOfOffer (part_of_offer hl hp)) fun n ls b h => ?_
  obtain ⟨-, -, -, rfl⟩ := Book.lockLinesOfOffer_eq_ok.1 h
  refine local_findLine _ _ fun l _ _ => ?_
  refine local_ensure _ fun _ => ?_
  refine local_ensure _ fun _ => ?_
  exact local_pure _

/-- Cancelling the others is local to the part of the line. -/
theorem local_cancelAlternatives {h : Held} (hh : h.Within p rows) (hl : Book.Linked ⟨rows, last⟩)
    (by_ : String) : Local p tx tx' (cancelAlternatives tx h by_ now)
      (cancelAlternatives tx' h by_ now) rows := by
  refine .ask (Call.local_cancelByOffer (part_of_offer hl hh.offer) _ _ _) fun n _ b hb => ?_
  obtain ⟨-, -, rfl⟩ := Book.cancelWhere_eq_ok.1 hb
  refine .ask (Call.local_cancelByRequests (fun id hid => ?_) _ _ _) fun n _ b hb => local_pure _
  rw [List.mem_singleton.1 hid]
  exact hh.request

/-- A line of the part is taken. -/
theorem local_take {h : Held} (hh : h.In rows) (hl : Book.Linked ⟨rows, last⟩)
    (hp : p h.offer.request) (status : LineStatus) (by_ : String) {f f' : Nat × Nat → Action β}
    (hf : ∀ n rows', Local p tx tx' (f n) (f' n) rows') :
    Local p tx tx'
      (do
        let _ ← ask tx (.setLineStatuses [h.line.id] status now)
        let n ← cancelAlternatives tx h by_ now
        ask tx (.setRequestStatus h.request.id .confirmed now)
        f n)
      (do
        let _ ← ask tx' (.setLineStatuses [h.line.id] status now)
        let n ← cancelAlternatives tx' h by_ now
        ask tx' (.setRequestStatus h.request.id .confirmed now)
        f' n) rows := by
  have hin := hh.within hl hp
  have hset := hl.setLines (fun l => [h.line.id].contains l.id) status now
  have hin' : h.Within p (rows.setLines (fun l => [h.line.id].contains l.id) status now) :=
    ⟨hin.request, hin.offer⟩
  refine .ask (Call.local_setLineStatuses (hh.line_within hl hp) _ _) fun n _ b hb => ?_
  obtain ⟨-, -, rfl⟩ := Book.setLineStatuses_eq_ok.1 hb
  refine .bind (local_cancelAlternatives hin' hset _) fun n x b hb => ?_
  obtain ⟨hrows, -⟩ := hb.brings (brings_cancelAlternatives h _) x b rfl
  refine .ask (Call.local_setRequestStatus ?_ hin.request _ _) fun n _ b hb => hf _ _
  rw [hrows]
  exact ((hset.cancel _ _ _ _).cancel _ _ _ _).keyed

/-! ### Cancelling -/

/-- Locking offers is local to the part of their lines. -/
theorem local_lockOffers : ∀ {offers : List Int},
    (∀ o ∈ offers, ∀ l ∈ rows.lines.values, l.offer = o → p l.request) →
      Local p tx tx' (lockOffers tx offers) (lockOffers tx' offers) rows
  | [], _ => local_pure _
  | o :: os, ho => by
    refine .ask (Call.local_lockLinesOfOffer (ho o List.mem_cons_self)) fun n ls b hb => ?_
    obtain ⟨-, -, -, rfl⟩ := Book.lockLinesOfOffer_eq_ok.1 hb
    exact local_lockOffers fun o' ho' => ho o' (List.mem_cons_of_mem _ ho')

end Desk

/-! ### Sessions -/

/-- No operation of the store fails, no row is locked, and the rows are linked. -/
structure Session.Ready (s : Session) : Prop where
  faults : s.faults = []
  still : s.store.Still
  linked : s.store.stored.Linked

namespace Desk

open Program
open Session (tells_tell tells_pure)

section Operations

variable {s : Session} {p : Int → Bool} {caller : Caller} {now : Instant} (hs : s.Ready)

include hs

/-- An offer for the part is accepted. -/
theorem local_accept {c : Acceptance}
    (hp : ∀ o, s.store.rows.offers.get? c.offer = some o → p o.request) :
    s.Local p (accept c caller now) := by
  have hl := hs.linked
  refine .tell (Session.local_change hs.faults hs.still fun tx tx' => ?_)
    fun ⟨h, siblings, others⟩ => tells_tell _ _
  refine local_askOffer hl hp fun o r hid _ => ?_
  refine local_ensure _ fun _ => ?_
  dsimp only
  split
  · exact Program.local_throw _
  split
  · exact Program.local_throw _
  rw [← hid] at hp
  refine .bind (local_hold hl hp) fun n h b hb => ?_
  obtain ⟨hrows, -, hh, hoid, -⟩ :=
    hb.brings (brings_hold (b := ⟨s.store.rows, n⟩) hl.keyed _ _ _) h b rfl
  have hoffer := hh.offer
  rw [← hl.keyed.offers _ _ hoffer, hoid] at hoffer
  rw [hrows]
  exact local_take hh hl (hp _ hoffer) _ _ fun _ _ => local_pure _

/-- An offer for the part is declined. -/
theorem local_decline {offer : Int}
    (hp : ∀ o, s.store.rows.offers.get? offer = some o → p o.request) :
    s.Local p (decline offer caller now) := by
  have hl := hs.linked
  refine Session.local_change hs.faults hs.still fun tx tx' => ?_
  refine local_askOffer hl hp fun o r hid hpr => ?_
  refine local_ensure _ fun _ => ?_
  rw [← hid] at hp
  refine .ask (Call.local_lockRequest hl.keyed hpr _) fun n r' b hb => ?_
  obtain ⟨-, -, rfl⟩ := Book.lockRequest_eq_ok.1 hb
  refine .ask (Call.local_lockLinesOfOffer (part_of_offer hl hp)) fun n ls b hb => ?_
  obtain ⟨-, -, -, rfl⟩ := Book.lockLinesOfOffer_eq_ok.1 hb
  dsimp only
  split
  · refine local_ensure _ fun _ => ?_
    refine .ask (Call.local_cancelByOffer (part_of_offer hl hp) _ _ _) fun n _ b hb => ?_
    obtain ⟨-, -, rfl⟩ := Book.cancelWhere_eq_ok.1 hb
    refine .ask (Call.local_linesOfRequests fun id hid => ?_) fun n _ b hb => local_pure _
    rw [List.mem_singleton.1 hid]
    exact hpr
  · exact Program.local_throw _

/-- A cancellation is local to the part of its request. -/
theorem local_cancel {c : Cancellation} (hp : p c.request) : s.Local p (cancel c caller now) := by
  have hl := hs.linked
  unfold cancel ensureSound
  split
  · exact Session.local_throw _
  refine Session.Local.tell (m := change _) (Session.local_change hs.faults hs.still fun tx tx' => ?_)
    fun ⟨r, ids, standing⟩ => ?_
  · refine .ask (Call.local_lockRequest hl.keyed hp _) fun n r b hb => ?_
    obtain ⟨hr, -, rfl⟩ := Book.lockRequest_eq_ok.1 hb
    dsimp only at hr
    have hid : r.id = c.request := hl.keyed.requests _ _ hr
    rw [← hid] at hp
    refine .ask (Call.local_offersOfRequest hp) fun n offers b hb => ?_
    obtain ⟨-, rfl⟩ := Book.offersOfRequest_eq_ok.1 hb
    have hlines : ∀ id ∈ [r.id], p id := fun id hid => by rw [List.mem_singleton.1 hid]; exact hp
    refine .ask (Call.local_linesOfRequests hlines) fun n lines b hb => ?_
    obtain ⟨hls, rfl⟩ := Book.linesOfRequests_eq_ok.1 hb
    refine .bind (local_of_within fun tx => within_targets _ _ _) fun n ts b hb => ?_
    obtain ⟨⟨hrows, -⟩, hts, -⟩ := hb.brings (brings_targets _ _ _) ts b rfl
    rw [hrows]
    -- the lines to be cancelled are lines of the request, and so are those locked with them
    have hmem : ∀ t ∈ ts, s.store.rows.lines.get? t.id = some t ∧ t.request = r.id := by
      intro t ht
      have ht := (hts t ht).1.1
      rw [hls] at ht
      exact hl.keyed.line_of_newest ht
    refine .bind (local_lockOffers fun o ho => ?_) fun n _ b hb => ?_
    · obtain ⟨t, ht, rfl⟩ := List.mem_map.1 (List.mem_mergeSort.1 (List.mem_eraseDups.1 ho))
      obtain ⟨ht, hreq⟩ := hmem t ht
      refine part_of_offer hl fun o ho => ?_
      rw [← hl.request_of_offer (Table.mem_values.2 ⟨_, ht⟩) ho, hreq]
      exact hp
    obtain ⟨hrows, -⟩ := hb.brings (brings_lockOffers _) _ b rfl
    rw [hrows]
    refine .ask (Call.local_cancelLines (fun l hl' hid => ?_) _ _ _) fun n _ b hb => ?_
    · obtain ⟨t, ht, hid⟩ := List.mem_map.1 hid
      obtain ⟨hget, hreq⟩ := hmem t ht
      have hstored : s.store.rows.lines.get? l.id = some l := hl.keyed.lines.mem_values.1 hl'
      rw [hid, hstored] at hget
      rw [Option.some.inj hget, hreq]
      exact hp
    exact .ask (Call.local_linesOfRequests hlines) fun n _ b hb => local_pure _
  · dsimp only
    split
    · exact tells_tell _ _
    · exact tells_pure _

/-- A deletion is local to the part of its request. -/
theorem local_deleteRequest {id : Int} (hp : p id) : s.Local p (deleteRequest id) := by
  have hl := hs.linked
  refine Session.local_change hs.faults hs.still fun tx tx' => ?_
  refine .ask (Call.local_lockRequest hl.keyed hp _) fun n r b hb => ?_
  obtain ⟨-, -, rfl⟩ := Book.lockRequest_eq_ok.1 hb
  refine local_ensure _ fun _ => ?_
  refine .ask (Call.local_linesOfRequests fun i hi => ?_) fun n lines b hb => ?_
  · rw [List.mem_singleton.1 hi]
    exact hp
  obtain ⟨-, rfl⟩ := Book.linesOfRequests_eq_ok.1 hb
  dsimp only
  split
  · exact Program.local_throw _
  · exact local_call (Call.local_deleteRequest hl.keyed hp)

end Operations
end Desk

end LoanDesk
