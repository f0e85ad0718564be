/-
# The accepter at its seat

What a task that accepts a line holds and sees in the middle of its transaction. From the moment on at
which it holds the request and the line both are as it read them (`Desk.Grips`). The other lines of
the request are not held, and may be cancelled before it comes to them, or afterwards. In either case
what it sees is what it would make of the rows as they are now (`Desk.Carries`): nothing it does to a
line changes one that is cancelled (`Desk.Firm`).
-/

import LoanDesk.Proofs.Race.Encounter

namespace LoanDesk
namespace Desk

open Program Meeting

/-! ### The best line -/

/-- No line is better than one that is open, but for an open one with a greater number. -/
theorem bestFrom_le {b : Line} : ∀ {ls : List Line} {b? : Option Line}, bestFrom b? ls = some b →
    b.isPending → ∀ l, l ∈ ls ∨ b? = some l → l.isPending → l.id ≤ b.id
  | [], b?, h, _, l, hl, _ => by
    rw [bestFrom] at h
    rw [h] at hl
    rcases hl with hl | hl
    · cases hl
    · obtain rfl := Option.some.inj hl
      exact Int.le_refl _
  | x :: xs, none, h, hb, l, hl, hp => by
    rw [bestFrom] at h
    refine bestFrom_le h hb l ?_ hp
    rcases hl with hl | hl
    · exact (List.mem_cons.1 hl).symm.imp_right fun he => by rw [he]
    · cases hl
  | x :: xs, some y, h, hb, l, hl, hp => by
    rw [bestFrom] at h
    rcases hl with hl | hl
    · rcases List.mem_cons.1 hl with rfl | hl
      · split at h
        · exact bestFrom_le h hb l (Or.inr rfl) hp
        · -- the line was passed over for one that is as good
          rename_i hbetter
          obtain ⟨hyp, hle⟩ : y.isPending ∧ l.id ≤ y.id := by
            unfold isBetter at hbetter
            grind
          exact Int.le_trans hle (bestFrom_le h hb y (Or.inr rfl) hyp)
      · exact bestFrom_le h hb l (Or.inl hl) hp
    · obtain rfl := Option.some.inj hl
      split at h
      · rename_i hbetter
        obtain ⟨hxp, hle⟩ : x.isPending ∧ y.id ≤ x.id := by
          unfold isBetter at hbetter
          grind
        exact Int.le_trans hle (bestFrom_le h hb x (Or.inr rfl) hxp)
      · exact bestFrom_le h hb y (Or.inr rfl) hp

/-- The best line has the highest number of those that are open. -/
theorem best?_le {lines : List Line} {b : Line} (h : best? lines = some b) (hb : b.isPending)
    {l : Line} (hl : l ∈ lines) (hp : l.isPending) : l.id ≤ b.id := by
  rw [best?_eq] at h
  exact bestFrom_le h hb l (Or.inl hl) hp

/-- The best choice stays the best as long as it is open, whatever becomes of the others. -/
theorem best?_of_cleared {c : Confirmation} {rows rows' : Rows}
    (hk' : rows'.Keyed) (hr : rows.Cleared rows') {l : Line}
    (hb : best? (candidates c rows) = some l) (hp : l.isPending)
    (hl : rows'.lines.get? l.id = some l) : best? (candidates c rows') = some l := by
  obtain ⟨-, hreq, hloan⟩ := mem_candidates.1 (best?_mem hb)
  have hmem : l ∈ candidates c rows' :=
    mem_candidates.2 ⟨Table.mem_values.2 ⟨_, hl⟩, hreq, hloan⟩
  obtain ⟨b, hb', hbp⟩ := best?_of_mem hmem
  have hopen : b.isPending := hbp hp
  obtain ⟨hbv, hbreq, hbloan⟩ := mem_candidates.1 (best?_mem hb')
  have hbget := hk'.lines.mem_values.1 hbv
  -- an open line was there before, so it was no better
  obtain ⟨m, hm, he | hs⟩ := hr.lines _ _ hbget
  · subst he
    have hle := best?_le hb hp (mem_candidates.2 ⟨Table.mem_values.2 ⟨_, hm⟩, hbreq, hbloan⟩) hopen
    have hge := best?_le hb' hopen hmem hp
    rw [Int.le_antisymm hle hge, hl] at hbget
    rw [hb', Option.some.inj hbget]
  · rw [Line.not_isPending_of_status hs (by decide)] at hopen
    cases hopen

/-! ### Changes that mind no cancelled line -/

/-- Rows are changed one by one: requests in any way, lines so that those cancelled stay as they are
but for the held one, and contracts as a whole. -/
def Firm (h : Held) (f : Rows → Rows) : Prop :=
  ∃ (line : Line → Line) (request : Request → Request)
    (contracts : Table Contract → Table Contract),
    (∀ rows, f rows = { rows with
      lines := rows.lines.map line
      requests := rows.requests.map request
      contracts := contracts rows.contracts }) ∧
    ∀ l, l.status = .cancelled → l.id ≠ h.line.id → line l = l

namespace Firm

variable {h : Held}

/-- One firm change after another is firm. -/
theorem comp {f g : Rows → Rows} (hg : Firm h g) (hf : Firm h f) :
    Firm h fun rows => g (f rows) := by
  obtain ⟨fl, fr, fk, hf, hfl⟩ := hf
  obtain ⟨gl, gr, gk, hg, hgl⟩ := hg
  refine ⟨gl ∘ fl, gr ∘ fr, gk ∘ fk, fun rows => ?_, fun l hs hi => ?_⟩
  · dsimp only
    rw [hf, hg]
    simp only [Table.map_map, Function.comp_apply]
  · rw [Function.comp_apply, hfl l hs hi, hgl l hs hi]

/-- Lines change, but cancelled ones only if held. -/
theorem mapLines {line : Line → Line}
    (hl : ∀ l, l.status = .cancelled → l.id ≠ h.line.id → line l = l) :
    Firm h fun rows => { rows with lines := rows.lines.map line } :=
  ⟨line, id, id, fun rows => by
    rw [Table.map_id]
    rfl, hl⟩

/-- Where nothing changes, the cancelled lines stay. -/
theorem refl (h : Held) : Firm h fun rows => rows :=
  ⟨id, id, id, fun rows => by
    rw [Table.map_id, Table.map_id]
    rfl, fun _ _ _ => rfl⟩

/-- The held line gets a status. -/
theorem mark (h : Held) (status : LineStatus) (now : Instant) :
    Firm h (Rows.setLines · (fun l => [h.line.id].contains l.id) status now) :=
  mapLines fun l _ hi => if_neg (by simpa using hi)

/-- Cancelling passes over lines that are cancelled already. -/
theorem cancel (h : Held) (p : Line → Bool) (by_ : String) (reason : CancelReason) (now : Instant) :
    Firm h (Rows.cancel · p by_ reason now) :=
  mapLines fun l hs _ => if_neg (by
    rw [Line.not_isPending_of_status hs (by decide)]
    simp)

/-- The held line gets its contract. -/
theorem attach (h : Held) (contract : Int) (now : Instant) :
    Firm h (Rows.attach · h.line.id contract now) :=
  mapLines fun l _ hi => if_neg (by simpa using hi)

/-- Requests change, and no lines. -/
theorem setRequests (h : Held) (p : Request → Bool) (status : RequestStatus) (now : Instant) :
    Firm h (Rows.setRequests · p status now) :=
  ⟨id, _, id, fun rows => by
    rw [Table.map_id rows.lines]
    rfl, fun _ _ _ => rfl⟩

/-- A contract is stored, and no line changes. -/
theorem putContract (h : Held) (k : Contract) : Firm h (Rows.putContract · k) :=
  ⟨id, id, (·.insert k.id k), fun rows => by
    rw [Table.map_id, Table.map_id]
    rfl, fun _ _ _ => rfl⟩

end Firm

/-! ### Phases -/

section Phases

variable {e : Encounter} {p q r : Seat (Fin 2)} {tx : TxId} {seen : Rows} {h : Held}
  {f g : Rows → Rows}

/-- The task has done nothing but look. -/
structure Looks (tx : TxId) (p : Seat (Fin 2)) : Prop where
  sits : Sits tx p
  fresh : 0 ∉ p.log
  changes : p.store.changes tx = .none

/-- The task holds a line that is open, and its request, which it has chosen in rows seen before. -/
structure Grips (tx : TxId) (seen : Rows) (h : Held) (p : Seat (Fin 2)) : Prop where
  sits : Sits tx p
  fresh : 0 ∉ p.log
  cleared : seen.Cleared p.store.rows
  rows : h.In p.store.rows
  id : h.request.id = h.offer.request
  request : p.store.locks.holder? (.request h.request.id) = some tx
  line : p.store.locks.holder? (.line h.line.id) = some tx
  isPending : h.request.isPending
  isOpen : h.line.isPending

/-- What the task sees is made by `f` of the rows as they are now. -/
structure Carries (tx : TxId) (seen : Rows) (h : Held) (f : Rows → Rows) (p : Seat (Fin 2)) :
    Prop extends Grips tx seen h p where
  firm : Firm h f
  offers : (p.store.changes tx).offers = .empty
  view : (p.store.view tx).desk = f p.store.rows.desk

/-- What others do does not keep the task from looking on. -/
theorem Looks.others (hp : Looks tx p) (ho : e.meeting.Others 0 p q) : Looks tx q :=
  ⟨hp.sits.others ho, mt ho.log.1 hp.fresh, (ho.apart.changes hp.sits.mem).trans hp.changes⟩

/-- A task that only looks sees what is stored. -/
theorem Looks.view (hp : Looks tx p) : p.store.view tx = p.store.rows := by
  rw [Store.view, hp.changes]
  rfl

/-- What was cleared of the rows that the task saw. -/
theorem cleared_of_others (ho : e.meeting.Others 0 p q) : p.store.rows.Cleared q.store.rows :=
  ⟨ho.sees.contracts, ho.sees.requests, ho.sees.offers, ho.sees.offer, ho.sees.lines⟩

/-- What others do does not loosen the grip of the task. -/
theorem Grips.others (hp : Grips tx seen h p) (ho : e.meeting.Others 0 p q) :
    Grips tx seen h q where
  sits := hp.sits.others ho
  fresh := mt ho.log.1 hp.fresh
  cleared := hp.cleared.trans (cleared_of_others ho)
  rows := by
    have hm := hp.sits.mem
    have hrequest : q.store.rows.requests.get? h.offer.request = some h.request := by
      rw [← hp.id, ho.request_eq hm hp.request, hp.id]
      exact hp.rows.request
    refine ⟨hrequest, (cleared_of_others ho).offer _ _ _ hp.rows.offer hrequest, ?_⟩
    rw [ho.line_eq hm hp.line]
    exact hp.rows.line
  id := hp.id
  request := (ho.apart.locks _ tx hp.sits.mem).2 hp.request
  line := (ho.apart.locks _ tx hp.sits.mem).2 hp.line
  isPending := hp.isPending
  isOpen := hp.isOpen

/-- A call of its own leaves the task what it holds. -/
theorem Grips.asked (hp : Grips tx seen h p) {k : Call} {x : k.Answer}
    (hq : e.meeting.Asked tx k x p q) : Grips tx seen h q where
  sits := hq.after
  fresh := by
    rw [hq.log]
    exact hp.fresh
  cleared := by
    rw [hq.rows]
    exact hp.cleared
  rows := by
    rw [hq.rows]
    exact hp.rows
  id := hp.id
  request := hq.held hp.request
  line := hq.held hp.line
  isPending := hp.isPending
  isOpen := hp.isOpen

/-- The lines that the task sees are made of those that are stored now, although some of them may
have been cancelled since. -/
theorem Carries.others (hp : Carries tx seen h f p) (ho : e.meeting.Others 0 p q) :
    Carries tx seen h f q where
  toGrips := hp.toGrips.others ho
  firm := hp.firm
  offers := by
    rw [ho.apart.changes hp.sits.mem]
    exact hp.offers
  view := by
    have hq := hp.toGrips.others ho
    obtain ⟨line, request, contracts, hf, hline⟩ := hp.firm
    have hview := hp.view
    rw [hf] at hview
    have hc : q.store.changes tx = p.store.changes tx := ho.apart.changes hp.sits.mem
    have hsees := cleared_of_others ho
    have hrequests : q.store.rows.requests.overlay (p.store.changes tx).requests =
        q.store.rows.requests.map request :=
      Table.overlay_eq_map (congrArg Tables.requests hview)
        (fun k hk => hp.sits.staged_request ho hk) fun k b _ hb => ⟨b, hsees.requests k b hb, id⟩
    have hlines : q.store.rows.lines.overlay (p.store.changes tx).lines =
        q.store.rows.lines.map line := by
      refine Table.overlay_eq_map (congrArg Tables.lines hview)
        (fun k hk => hp.sits.staged_line ho hk) fun k b _ hb => ?_
      obtain ⟨l, hl, rfl | hs⟩ := hsees.lines k b hb
      · exact ⟨b, hl, id⟩
      · refine ⟨l, hl, fun _ => hline b hs fun hi => ?_⟩
        -- the line that is held is open
        have hheld := hq.rows.line
        rw [← hi, hq.sits.stored.lines k b hb, hb] at hheld
        have hopen := hq.isOpen
        rw [← Option.some.inj hheld, Line.not_isPending_of_status hs (by decide)] at hopen
        cases hopen
    have hoffers : q.store.rows.offers.overlay (p.store.changes tx).offers =
        q.store.rows.offers := by
      rw [hp.offers]
      rfl
    have hcontracts : q.store.rows.contracts.overlay (p.store.changes tx).contracts =
        contracts q.store.rows.contracts := by
      rw [hsees.contracts]
      exact congrArg Tables.contracts hview
    rw [hf]
    simp only [Store.view, Rows.desk, Rows.overlay, hc, hrequests, hlines, hoffers, hcontracts]

/-- One more change of what the task sees. -/
theorem Carries.asked (hp : Carries tx seen h f p) {k : Call} {x : k.Answer}
    (hq : e.meeting.Asked tx k x p q) (hg : Firm h g)
    (hs : Store.Spares tx Tables.offers (Store.act tx k))
    (hview : (q.store.view tx).desk = g (p.store.view tx).desk) :
    Carries tx seen h (fun rows => g (f rows)) q where
  toGrips := hp.toGrips.asked hq
  firm := hg.comp hp.firm
  offers := (hq.spares hs).trans hp.offers
  view := by rw [hview, hp.view, hq.rows]

/-- What is to be committed is the stroke. -/
theorem Carries.ready (hp : Carries tx seen h f p)
    (hd : Stroke e.last e.accepting p.store.rows.desk (f p.store.rows.desk)) :
    e.meeting.Ready 0 tx p :=
  ⟨hp.sits, Or.inr ⟨hp.fresh, by rw [hp.view]; exact hd⟩⟩

/-- A call that reads, while the task has done nothing but look. -/
theorem Looks.asked (hp : Looks tx p) {k : Call} {x : k.Answer} (hq : e.meeting.Asked tx k x p q)
    (hk : k.Reads) : Looks tx q where
  sits := hq.after
  fresh := by
    rw [hq.log]
    exact hp.fresh
  changes := (hq.spares (π := id) (Store.spares_reads hk)).trans hp.changes

end Phases

end Desk
end LoanDesk
