/-
# The canceller at its seat

A task that cancels lines locks what it writes, but it reads before. So as with the accepting task,
what it sees is what it would make of the rows as they are now (`Desk.Draws`). Its changes go request
by request and line by line, and do not mind a line that was taken meanwhile (`Desk.Mild`). Here is
what each step of it does to that.
-/

import LoanDesk.Proofs.Race.Encounter

namespace LoanDesk
namespace Desk

open Program Meeting

/-! ### Changes that mind no line that was taken -/

/-- Requests and lines change or go one by one. What is left alone is left alone as well when it is
not open any more. -/
structure Mild (f : Rows → Rows) : Prop where
  request : ∃ g : Request → Option Request,
    (∀ rows k, (f rows).requests.get? k = (rows.requests.get? k).bind g) ∧
      ∀ r r', r'.id = r.id → g r = some r → g r' = some r'
  line : ∃ g : Line → Option Line,
    (∀ rows k, (f rows).lines.get? k = (rows.lines.get? k).bind g) ∧
      ∀ l l', l'.request = l.request → l'.isPending = false → g l = some l → g l' = some l'
  offers : ∀ {rows rows'}, rows'.offers = rows.offers → (f rows').offers = (f rows).offers
  contracts : ∀ rows, (f rows).contracts = rows.contracts
  desk : ∀ rows, f rows.desk = (f rows).desk

namespace Mild

/-- Where nothing changes, what was left alone is left alone. -/
theorem refl : Mild fun rows => rows where
  request := ⟨some, fun rows k => by cases rows.requests.get? k <;> rfl, fun _ _ _ _ => rfl⟩
  line := ⟨some, fun rows k => by cases rows.lines.get? k <;> rfl, fun _ _ _ _ _ => rfl⟩
  offers h := h
  contracts _ := rfl
  desk _ := rfl

/-- Cancelling leaves alone what is not open. -/
theorem cancel (p : Line → Bool) (by_ : String) (reason : CancelReason) (now : Instant) :
    Mild (Rows.cancel · p by_ reason now) :=
  { refl with
    line := ⟨_, fun rows k => Table.get?_map_bind _ _ _, fun l l' _ hp _ => by simp [hp]⟩
    desk := fun _ => rfl }

/-- A request goes with its lines, and all others are left alone. -/
theorem removeRequest (id : Int) : Mild (Rows.removeRequest · id) where
  request := ⟨_, fun rows k => Table.get?_filter_bind _ _ _, fun r r' hi hr => by
    split at hr
    · rename_i h
      rw [hi, if_pos h]
    · cases hr⟩
  line := ⟨_, fun rows k => Table.get?_filter_bind _ _ _, fun l l' hi _ hl => by
    split at hl
    · rename_i h
      rw [hi, if_pos h]
    · cases hl⟩
  offers h := by
    unfold Rows.removeRequest
    dsimp only
    rw [h]
  contracts _ := rfl
  desk _ := rfl

end Mild

/-! ### Phases -/

section Phases

variable {e : Encounter} {p q r : Seat (Fin 2)} {tx : TxId} {seen : Rows} {keys : List RowKey}
  {f : Rows → Rows}

/-- What the task sees is made by `f` of the rows as they are now, and the rows that it holds are as
it saw them. -/
structure Draws (tx : TxId) (seen : Rows) (keys : List RowKey) (f : Rows → Rows)
    (p : Seat (Fin 2)) : Prop where
  sits : Sits tx p
  fresh : 1 ∉ p.log
  won : seen.Won p.store.rows
  holds : ∀ key ∈ keys, p.store.locks.holder? key = some tx
  same : ∀ key ∈ keys, p.store.rows.row? key = seen.row? key
  mild : Mild f
  contracts : (p.store.changes tx).contracts = .empty
  view : (p.store.view tx).desk = f p.store.rows.desk

/-- What was taken of the rows that the task saw. -/
theorem won_of_others (ho : e.meeting.Others 1 p q) : p.store.rows.Won q.store.rows :=
  ⟨ho.sees.offers, ho.sees.request, ho.sees.noRequest, ho.sees.line, ho.sees.noLine⟩

/-- At first the task sees what is stored. -/
theorem draws_start (hs : Sits tx p) (hfresh : 1 ∉ p.log) (hc : p.store.changes tx = .none) :
    Draws tx p.store.rows [] (fun rows => rows) p where
  sits := hs
  fresh := hfresh
  won := .refl _
  holds _ hk := absurd hk List.not_mem_nil
  same _ hk := absurd hk List.not_mem_nil
  mild := .refl
  contracts := by rw [hc]; rfl
  view := by
    rw [Store.view, hc]
    rfl

namespace Draws

/-- What others do shows in what the task sees, but for the rows that it holds. -/
theorem others (hp : Draws tx seen keys f p) (ho : e.meeting.Others 1 p q) :
    Draws tx seen keys f q where
  sits := hp.sits.others ho
  fresh := mt ho.log.1 hp.fresh
  won := hp.won.trans (won_of_others ho)
  holds key hk := (ho.apart.locks key tx hp.sits.mem).2 (hp.holds key hk)
  same key hk := (ho.held tx hp.sits.mem key (hp.holds key hk)).trans (hp.same key hk)
  mild := hp.mild
  contracts := by
    rw [ho.apart.changes hp.sits.mem]
    exact hp.contracts
  view := by
    have hc : q.store.changes tx = p.store.changes tx := ho.apart.changes hp.sits.mem
    have hwon := won_of_others ho
    have hview := hp.view
    rw [hp.mild.desk] at hview ⊢
    obtain ⟨hrequests, hoffers, hlines, -⟩ := Rows.desk_eq_iff.1 hview
    obtain ⟨request, hrequest, hleft⟩ := hp.mild.request
    obtain ⟨line, hline, hleft'⟩ := hp.mild.line
    rw [Rows.desk_eq_iff, Store.view, hc]
    refine ⟨Table.ext fun k => ?_, ?_, Table.ext fun k => ?_, ?_⟩
    · rw [hrequest]
      refine Table.get?_overlay_bind (t := p.store.rows.requests) (fun k => ?_)
        (fun k hk => hp.sits.staged_request ho hk) (fun k b _ hb => ?_) k
      · rw [← hrequest, ← hrequests]
        rfl
      · obtain ⟨a, ha, rfl | ⟨-, -, hi, -⟩⟩ := hwon.request_before hb
        · exact ⟨b, ha, id⟩
        · exact ⟨a, ha, hleft a b hi⟩
    · rw [hp.mild.offers hwon.offers, ← hoffers]
      change q.store.rows.offers.overlay _ = p.store.rows.offers.overlay _
      rw [hwon.offers]
    · rw [hline]
      refine Table.get?_overlay_bind (t := p.store.rows.lines) (fun k => ?_)
        (fun k hk => hp.sits.staged_line ho hk) (fun k b _ hb => ?_) k
      · rw [← hline, ← hlines]
        rfl
      · obtain ⟨a, ha, rfl | ⟨hpending, -, -, hreq⟩⟩ := hwon.line_before hb
        · exact ⟨b, ha, id⟩
        · exact ⟨a, ha, hleft' a b hreq hpending⟩
    · rw [hp.mild.contracts]
      change q.store.rows.contracts.overlay _ = _
      rw [hp.contracts]
      rfl

/-- What the task has seen so far is the rows as they are now. -/
theorem since (hp : Draws tx seen keys f p) : Draws tx p.store.rows keys f p :=
  { hp with won := .refl _, same := fun _ _ => rfl }

/-- One row more is held. -/
theorem hold (hp : Draws tx seen keys f p) {key : RowKey}
    (hk : p.store.locks.holder? key = some tx) (hs : p.store.rows.row? key = seen.row? key) :
    Draws tx seen (key :: keys) f p :=
  { hp with
    holds := fun k hm => by
      rcases List.mem_cons.1 hm with rfl | hm
      · exact hk
      · exact hp.holds k hm
    same := fun k hm => by
      rcases List.mem_cons.1 hm with rfl | hm
      · exact hs
      · exact hp.same k hm }

/-- A call that succeeds leaves what the task holds. -/
theorem asked {g : Rows → Rows} (hp : Draws tx seen keys f p) {k : Call} {x : k.Answer}
    (hq : e.meeting.Asked tx k x p q) (hg : Mild g)
    (hs : Store.Spares tx Tables.contracts (Store.act tx k))
    (hview : (q.store.view tx).desk = g p.store.rows.desk) : Draws tx seen keys g q where
  sits := hq.after
  fresh := by
    rw [hq.log]
    exact hp.fresh
  won := by
    rw [hq.rows]
    exact hp.won
  holds key hk := hq.held (hp.holds key hk)
  same key hk := by
    rw [hq.rows]
    exact hp.same key hk
  mild := hg
  contracts := (hq.spares hs).trans hp.contracts
  view := by rw [hview, hq.rows]

/-- A call that reads. -/
theorem read (hp : Draws tx seen keys f p) {k : Call} {x : k.Answer}
    (hq : e.meeting.Asked tx k x p q) (hk : k.Reads) : Draws tx seen keys f q := by
  refine hp.asked hq hp.mild (Store.spares_reads hk) ?_
  have hc : q.store.changes tx = p.store.changes tx := hq.spares (π := id) (Store.spares_reads hk)
  rw [Store.view, hc, hq.rows]
  exact hp.view

/-- The request is as it was seen. -/
theorem request_eq (hp : Draws tx seen keys f p) {id : Int} (hk : .request id ∈ keys) :
    p.store.rows.requests.get? id = seen.requests.get? id :=
  Option.map_injective (fun _ _ => Sum.inl.inj) (hp.same _ hk)

/-- The line is as it was seen. -/
theorem line_eq (hp : Draws tx seen keys f p) {id : Int} (hk : .line id ∈ keys) :
    p.store.rows.lines.get? id = seen.lines.get? id :=
  Option.map_injective (fun _ _ => Sum.inr.inj) (hp.same _ hk)

/-- The lines of a request that is held are as they were seen. -/
theorem line_of_request (hp : Draws tx seen keys f p) {id i : Int} (hk : .request id ∈ keys)
    {l : Line} (hl : l.request = id) :
    p.store.rows.lines.get? i = some l ↔ seen.lines.get? i = some l :=
  hp.won.line_of_request (hp.request_eq hk) hl

/-- What is to be committed is the stroke. -/
theorem ready (hp : Draws tx seen keys f p)
    (hd : Stroke e.last e.cancelling p.store.rows.desk (f p.store.rows.desk)) :
    e.meeting.Ready 1 tx p :=
  ⟨hp.sits, Or.inr ⟨hp.fresh, by rw [hp.view]; exact hd⟩⟩

end Draws
end Phases

/-! ### Steps -/

section Steps

variable {e : Encounter} {p : Seat (Fin 2)} {tx : TxId} {seen : Rows} {keys : List RowKey}
  {f : Rows → Rows} {α β ε : Type} {blame : StoreError → ε} {Q : β → Seat (Fin 2) → Prop}

/-- A call that reads: its answer is that of a book with the rows as the task sees them. -/
theorem serves_read {k : Call} (hk : k.Reads) {m : k.Answer → ExceptT ε Program β}
    (hp : Draws tx seen keys f p)
    (h : ∀ free (b b' : Book) x q₀ q, b.rows.desk = f q.store.rows.desk →
      b.perform free k = .ok (x, b') → e.meeting.Asked tx k x q₀ q → Draws tx seen keys f q →
      Serves e.meeting 1 tx Q (m x) q) :
    Serves e.meeting 1 tx Q (Program.ask blame tx k >>= m) p := by
  refine Serves.ask hp.sits fun x q r ho hr => ?_
  have hq := hp.others ho
  obtain ⟨free, hbook⟩ := hr.book
  refine h free _ _ x q r ?_ hbook hr (hq.read hr hk)
  rw [hr.rows]
  exact hq.view

/-- The lines that a call cancels are those that the condition says, as far as they are open. -/
theorem serves_cancel {k : Call} (select cond : Line → Bool) (by_ : String)
    (reason : CancelReason) (now : Instant) (hk : k.Moves)
    (hcall : ∀ free (b : Book) x b', b.perform free k = .ok (x, b') →
      b'.rows = b.rows.cancel select by_ reason now)
    {m : k.Answer → ExceptT ε Program β} (hp : Draws tx seen keys (fun rows => rows) p)
    (hsel : ∀ q, Draws tx seen keys (fun rows => rows) q → ∀ i l,
      q.store.rows.lines.get? i = some l → l.isPending → select l = cond l)
    (h : ∀ x q, Draws tx seen keys (Rows.cancel · cond by_ reason now) q →
      Serves e.meeting 1 tx Q (m x) q) :
    Serves e.meeting 1 tx Q (Program.ask blame tx k >>= m) p := by
  refine Serves.ask hp.sits fun x q r ho hr => ?_
  have hq := hp.others ho
  obtain ⟨free, hbook⟩ := hr.book
  refine h x r (hq.asked hr (.cancel cond by_ reason now) (Store.spares_contracts hk) ?_)
  have hrows : r.store.view tx = (q.store.view tx).cancel select by_ reason now :=
    hcall free _ x _ hbook
  rw [← Rows.cancel_congr q.store.rows.desk (hsel q hq), ← hq.view, hrows]
  rfl

/-- The request is locked, and held from there on. -/
theorem serves_lockRequest {id : Int} {m : Request → ExceptT ε Program β}
    (hp : Draws tx seen keys (fun rows => rows) p)
    (h : ∀ r q, seen.Won q.store.rows →
      Draws tx q.store.rows (.request id :: keys) (fun rows => rows) q →
      q.store.rows.requests.get? id = some r → r.id = id → Serves e.meeting 1 tx Q (m r) q) :
    Serves e.meeting 1 tx Q (Program.ask blame tx (.lockRequest id .noWait) >>= m) p := by
  refine serves_read (k := .lockRequest id .noWait) trivial hp
    fun free b b' r q₀ q hb hbook hasked hq => ?_
  obtain ⟨hr, -, -⟩ := Book.lockRequest_eq_ok.1 hbook
  rw [(Rows.desk_eq_iff.1 hb).1] at hr
  have hheld := hasked.grasps (Store.grasps_lockRequest id .noWait) List.mem_cons_self
  exact h r q hq.won (hq.since.hold hheld rfl) hr (hq.sits.stored.requests _ _ hr)

/-- The lines of the offers are locked, and the task sees on. -/
theorem serves_lockOffers : ∀ (offers : List Int) {p : Seat (Fin 2)}, Draws tx seen keys f p →
    Serves e.meeting 1 tx (fun _ q => Draws tx seen keys f q) (lockOffers tx offers) p
  | [], _, hp => Brings.pure fun _ ho => hp.others ho
  | o :: os, _, hp => serves_read (k := .lockLinesOfOffer o) trivial hp
      fun _ _ _ _ _ _ _ _ _ hq => serves_lockOffers os hq

end Steps

end Desk
end LoanDesk
