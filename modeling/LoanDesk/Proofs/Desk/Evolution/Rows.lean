/-
# How rows go on

Statuses of lines move along the table of moves only: a line that is final stays as it is, and any
other keeps its status or takes one that the flow of its offer allows (`Line.MovesTo`). A request that
was confirmed stays confirmed (`Request.Continues`). Offers, sheets, ceilings and records never change
at all.

Rows go in one way only, which is that an open request is deleted: with it go its offers, its lines
and its sheets, and nothing else. `Rows.Evolves` says all this of the rows before and after, and holds
of one change after another (`Rows.Evolves.trans`).
-/

import LoanDesk.Proofs.Desk.Histories

namespace LoanDesk

open LineStatus (canMove)

/-! ### Tables -/

namespace Table

variable {α : Type}

/-- What becomes of a table: a row is kept, related to what it was, or it is gone for a reason; and
rows that were not there before need leave to be added. -/
structure Evolves (adds : Prop) (R : α → α → Prop) (gone : α → Prop) (t u : Table α) : Prop where
  kept : ∀ i a, t.get? i = some a → (∃ b, u.get? i = some b ∧ R a b) ∨ u.get? i = none ∧ gone a
  added : ∀ i b, u.get? i = some b → t.get? i = none → adds

namespace Evolves

variable {adds : Prop} {R : α → α → Prop} {gone : α → Prop} {t u v : Table α}

/-- A table that stays the same. -/
theorem refl (hR : ∀ a, R a a) : Evolves adds R gone t t where
  kept _ a ha := Or.inl ⟨a, ha, hR a⟩
  added i b hb hn := by
    rw [hn] at hb
    cases hb

/-- Every row is rewritten in its place. -/
theorem map {f : α → α} (hR : ∀ i a, t.get? i = some a → R a (f a)) :
    Evolves adds R gone t (t.map f) where
  kept i a ha := Or.inl ⟨f a, get?_map_eq_some.2 ⟨a, ha, rfl⟩, hR i a ha⟩
  added i b hb hn := by
    obtain ⟨a, ha, -⟩ := get?_map_eq_some.1 hb
    rw [hn] at ha
    cases ha

/-- Some rows go, for a reason. -/
theorem filter (hR : ∀ a, R a a) {p : α → Bool}
    (hp : ∀ i a, t.get? i = some a → p a = false → gone a) :
    Evolves adds R gone t (t.filter p) where
  kept i a ha := by
    cases hpa : p a with
    | true => exact Or.inl ⟨a, get?_filter_eq_some.2 ⟨ha, hpa⟩, hR a⟩
    | false =>
      refine Or.inr ⟨?_, hp i a ha hpa⟩
      rw [get?_filter, ha]
      simp [hpa]
  added _ b hb hn := by
    have ha := (get?_filter_eq_some.1 hb).1
    rw [hn] at ha
    cases ha

/-- New rows under new numbers. -/
theorem foldl_insert {key : α → Int} {last : Int} (hR : ∀ a, R a a) (hu : t.Upto last) (ha : adds)
    {as : List α} (has : ∀ a ∈ as, last < key a) :
    Evolves adds R gone t (as.foldl (fun t a => t.insert (key a) a) t) where
  kept i b hb := by
    have hi : i ≤ last := hu i b hb
    have hne : ∀ a ∈ as, key a ≠ i := by
      intro a hm he
      have := has a hm
      omega
    exact Or.inl ⟨b, by rw [get?_foldl_insert_of_notMem as t hne]; exact hb, hR b⟩
  added _ _ _ _ := ha

/-- A new row under a new number. -/
theorem insert {last n : Int} (hR : ∀ a, R a a) (hu : t.Upto last) (ha : adds) (hn : last < n)
    (a : α) : Evolves adds R gone t (t.insert n a) where
  kept _ b hb := Or.inl ⟨b, hu.get?_insert hn hb, hR b⟩
  added _ _ _ _ := ha

/-- One change after another. What is gone after the first stays away. -/
theorem trans {R' R'' : α → α → Prop} {gone' gone'' : α → Prop} (h : Evolves adds R gone t u)
    (h' : Evolves adds R' gone' u v)
    (hR : ∀ i a b c, t.get? i = some a → u.get? i = some b → R a b → R' b c → R'' a c)
    (hgone : ∀ a, gone a → gone'' a ∧ ¬adds)
    (hgone' : ∀ i a b, t.get? i = some a → R a b → gone' b → gone'' a) :
    Evolves adds R'' gone'' t v where
  kept i a ha := by
    rcases h.kept i a ha with ⟨b, hb, hab⟩ | ⟨hb, hga⟩
    · rcases h'.kept i b hb with ⟨c, hc, hbc⟩ | ⟨hc, hgb⟩
      · exact Or.inl ⟨c, hc, hR i a b c ha hb hab hbc⟩
      · exact Or.inr ⟨hc, hgone' i a b ha hab hgb⟩
    · obtain ⟨hg, hno⟩ := hgone a hga
      refine Or.inr ⟨?_, hg⟩
      cases hc : v.get? i with
      | none => rfl
      | some c => exact absurd (h'.added i c hc hb) hno
  added i c hc hn := by
    cases hb : u.get? i with
    | none => exact h'.added i c hc hb
    | some b => exact h.added i b hb hn

end Evolves
end Table

/-! ### Requests and lines -/

namespace Request

/-- A request that goes on: nothing changes but its status and the time of the change, and what was
confirmed stays confirmed. -/
structure Continues (r r' : Request) : Prop where
  same : r' = { r with status := r'.status, updatedAt := r'.updatedAt }
  confirmed : r.status = .confirmed → r'.status = .confirmed

namespace Continues

variable {r r' r'' : Request}

/-- A request that stays the same goes on. -/
theorem refl (r : Request) : Continues r r := ⟨rfl, fun h => h⟩

/-- A request that goes on twice goes on. -/
theorem trans (h : Continues r r') (h' : Continues r' r'') : Continues r r'' where
  same := by rw [h'.same, h.same]
  confirmed hc := h'.confirmed (h.confirmed hc)

/-- A request that is open in the end was open all the time. -/
theorem isPending (h : Continues r r') (hp : r'.isPending) : r.isPending := by
  cases hs : r.status with
  | pending => simp [Request.isPending, hs]
  | confirmed => simp [Request.isPending, h.confirmed hs] at hp

/-- A request that goes on keeps its number. -/
theorem id_eq (h : Continues r r') : r'.id = r.id := by rw [h.same]

/-- The requests that are selected are confirmed. -/
theorem confirm (p : Request → Bool) (now : Instant) (r : Request) :
    Continues r (if p r then { r with status := .confirmed, updatedAt := now } else r) := by
  split
  · exact ⟨rfl, fun _ => rfl⟩
  · exact refl r

end Continues
end Request

/-- Two moves that a flow allows make one that it allows. -/
theorem LineStatus.canMove_trans {flow : Flow} {a b c : LineStatus} (h : canMove flow a b)
    (h' : canMove flow b c) : canMove flow a c := by
  cases a <;> cases b <;> simp_all [canMove, LineStatus.next]

/-- Nothing moves away from a final status. -/
theorem LineStatus.not_isFinal_of_canMove {flow : Flow} {a b : LineStatus} (h : canMove flow a b) :
    a.isFinal = false := by
  cases a <;> first | rfl | cases h

namespace Line

/-- A line that goes on: it keeps its terms, its status stays or moves as the flow of its offer
allows, and if it was final it stays as it is. -/
structure MovesTo (offers : Table Offer) (l l' : Line) : Prop where
  same : l' = { l with
    status := l'.status, cancelReason := l'.cancelReason, cancelledBy := l'.cancelledBy,
    cancelledAt := l'.cancelledAt, contract := l'.contract, updatedAt := l'.updatedAt }
  status : l'.status = l.status ∨
    ∃ o, offers.get? l.offer = some o ∧ canMove o.flow l.status l'.status
  final : l.status.isFinal → l' = l

namespace MovesTo

variable {offers : Table Offer} {l l' l'' : Line}

/-- A line that stays the same goes on. -/
theorem refl (offers : Table Offer) (l : Line) : MovesTo offers l l := ⟨rfl, Or.inl rfl, fun _ => rfl⟩

/-- A line that goes on stays in its offer. -/
theorem offer_eq (h : MovesTo offers l l') : l'.offer = l.offer := by rw [h.same]

/-- A line that goes on stays with its request. -/
theorem request_eq (h : MovesTo offers l l') : l'.request = l.request := by rw [h.same]

/-- A line that goes on twice goes on. -/
theorem trans (h : MovesTo offers l l') (h' : MovesTo offers l' l'') : MovesTo offers l l'' where
  same := by rw [h'.same, h.same]
  status := by
    rcases h'.status with hs' | ⟨o', ho', hm'⟩
    · rw [hs']
      exact h.status
    · rcases h.status with hs | ⟨o, ho, hm⟩
      · rw [h.offer_eq] at ho'
        rw [hs] at hm'
        exact Or.inr ⟨o', ho', hm'⟩
      · rw [h.offer_eq, ho] at ho'
        obtain rfl := Option.some.inj ho'
        exact Or.inr ⟨o, ho, LineStatus.canMove_trans hm hm'⟩
  final hf := by
    obtain rfl := h.final hf
    exact h'.final hf

/-- The offer of the line is the same in another table. -/
theorem of_offers {offers' : Table Offer} (h : MovesTo offers' l l')
    (ho : ∀ o, offers'.get? l.offer = some o → offers.get? l.offer = some o) : MovesTo offers l l' :=
  ⟨h.same, h.status.imp_right fun ⟨o, hget, hm⟩ => ⟨o, ho o hget, hm⟩, h.final⟩

/-- A pending line that is selected is cancelled. -/
theorem cancel (ho : ∃ o, offers.get? l.offer = some o ∧ o.flow ≠ .unspecified) (p : Line → Bool)
    (by_ : String) (reason : CancelReason) (now : Instant) :
    MovesTo offers l (if l.isPending && p l then l.cancelled by_ reason now else l) := by
  split
  · rename_i hp
    obtain ⟨o, hget, hflow⟩ := ho
    have hs : l.status = .pending := by
      simpa [Line.isPending] using (Bool.and_eq_true_iff.1 hp).1
    have hm : canMove o.flow l.status .cancelled := by
      rw [hs]
      simp [canMove, LineStatus.next, hflow]
    exact ⟨rfl, Or.inr ⟨o, hget, hm⟩, fun hf => by rw [hs] at hf; cases hf⟩
  · exact refl offers l

/-- A line takes a status that it may take. -/
theorem mark {o : Offer} (ho : offers.get? l.offer = some o) {status : LineStatus}
    (hm : canMove o.flow l.status status) (now : Instant) :
    MovesTo offers l (l.withStatus status now) :=
  ⟨rfl, Or.inr ⟨o, ho, hm⟩, fun hf => by rw [LineStatus.not_isFinal_of_canMove hm] at hf; cases hf⟩

/-- A line takes a status that it may take, and gets its contract. -/
theorem sign {o : Offer} (ho : offers.get? l.offer = some o) {status : LineStatus}
    (hm : canMove o.flow l.status status) (contract : Int) (now : Instant) :
    MovesTo offers l ((l.withStatus status now).withContract contract now) :=
  ⟨rfl, Or.inr ⟨o, ho, hm⟩, fun hf => by rw [LineStatus.not_isFinal_of_canMove hm] at hf; cases hf⟩

end MovesTo
end Line

/-! ### Rows -/

/-- The task deletes a request. -/
def Task.Deletes (t : Task) (id : Int) : Prop :=
  ∃ caller now, t = .operate (.deleteRequest id) caller now

/-- The task may add rows: it does not delete. -/
def Task.Adds (t : Task) : Prop := ∀ id, ¬t.Deletes id

/-- Every operation but the deletion may add rows. -/
theorem Task.adds_operate {o : Operation} {caller : Caller} {now : Instant}
    (h : ∀ id, o ≠ .deleteRequest id) : Task.Adds (.operate o caller now) := by
  rintro id ⟨_, _, he⟩
  cases he
  exact h id rfl

/-- Jobs may add rows. -/
theorem Task.IsJob.adds {t : Task} (h : t.IsJob) : t.Adds := by
  rintro id ⟨_, _, rfl⟩
  exact h

/-- The request is there and open, the task deletes it, and then it is gone. -/
structure Task.Removes (t : Task) (rs rs' : Table Request) (id : Int) : Prop where
  deletes : t.Deletes id
  isPending : ∃ r, rs.get? id = some r ∧ r.isPending
  gone : rs'.get? id = none

/-- What becomes of the rows in the course of a task. -/
structure Rows.Evolves (t : Task) (rows rows' : Rows) : Prop where
  requests : rows.requests.Evolves t.Adds Request.Continues
    (fun r => t.Removes rows.requests rows'.requests r.id) rows'.requests
  offers : rows.offers.Evolves t.Adds Eq
    (fun o => t.Removes rows.requests rows'.requests o.request) rows'.offers
  lines : rows.lines.Evolves t.Adds (Line.MovesTo rows.offers)
    (fun l => t.Removes rows.requests rows'.requests l.request) rows'.lines
  sheets : rows.sheets.Evolves t.Adds Eq
    (fun s => t.Removes rows.requests rows'.requests s.request) rows'.sheets
  ceilings : rows.ceilings.Evolves t.Adds Eq (fun _ => False) rows'.ceilings
  jobs : rows.jobs.Evolves t.Adds Eq (fun _ => False) rows'.jobs

namespace Rows.Evolves

variable {t : Task} {rows rows' rows'' : Rows}

/-- Rows that stay the same. -/
theorem refl (t : Task) (rows : Rows) : Evolves t rows rows :=
  ⟨.refl Request.Continues.refl, .refl fun _ => rfl, .refl (Line.MovesTo.refl _),
    .refl fun _ => rfl, .refl fun _ => rfl, .refl fun _ => rfl⟩

/-- Requests and lines go on, and no other rows change. -/
theorem of_lines
    (hr : ∀ gone, rows.requests.Evolves t.Adds Request.Continues gone rows'.requests)
    (hl : ∀ gone, rows.lines.Evolves t.Adds (Line.MovesTo rows.offers) gone rows'.lines)
    (ho : rows'.offers = rows.offers) (hs : rows'.sheets = rows.sheets)
    (hc : rows'.ceilings = rows.ceilings) (hj : rows'.jobs = rows.jobs) : Evolves t rows rows' where
  requests := hr _
  offers := by rw [ho]; exact .refl fun _ => rfl
  lines := hl _
  sheets := by rw [hs]; exact .refl fun _ => rfl
  ceilings := by rw [hc]; exact .refl fun _ => rfl
  jobs := by rw [hj]; exact .refl fun _ => rfl

/-- A request that is removed first stays away, and the task adds nothing. -/
theorem removes_left (h' : Evolves t rows' rows'') {id : Int}
    (hx : t.Removes rows.requests rows'.requests id) :
    t.Removes rows.requests rows''.requests id ∧ ¬t.Adds := by
  have hno : ¬t.Adds := fun ha => ha id hx.deletes
  refine ⟨⟨hx.deletes, hx.isPending, ?_⟩, hno⟩
  cases hr : rows''.requests.get? id with
  | none => rfl
  | some r => exact absurd (h'.requests.added id r hr hx.gone) hno

/-- A request that is removed later was there at first, and open. -/
theorem removes_right (h : Evolves t rows rows') {id : Int}
    (hx : t.Removes rows'.requests rows''.requests id) :
    t.Removes rows.requests rows''.requests id := by
  refine ⟨hx.deletes, ?_, hx.gone⟩
  obtain ⟨r', hr', hp⟩ := hx.isPending
  cases hr : rows.requests.get? id with
  | none => exact absurd hx.deletes (h.requests.added id r' hr' hr id)
  | some r =>
    rcases h.requests.kept id r hr with ⟨r₁, hr₁, hcont⟩ | ⟨hnone, -⟩
    · rw [hr'] at hr₁
      obtain rfl := Option.some.inj hr₁
      exact ⟨r, rfl, hcont.isPending hp⟩
    · rw [hnone] at hr'
      cases hr'

/-- The offer of a line that was there at first is the one that it was. -/
theorem offer_of_line (h : Evolves t rows rows') {last : Int} (hb : Book.Linked ⟨rows, last⟩)
    {i : Int} {l : Line} (hl : rows.lines.get? i = some l) {o : Offer}
    (ho : rows'.offers.get? l.offer = some o) : rows.offers.get? l.offer = some o := by
  obtain ⟨o₀, ho₀, -⟩ := hb.line i l hl
  rcases h.offers.kept _ o₀ ho₀ with ⟨o₁, ho₁, rfl⟩ | ⟨hnone, -⟩
  · rw [ho] at ho₁
    obtain rfl := Option.some.inj ho₁
    exact ho₀
  · rw [hnone] at ho
    cases ho

/-- One change of the rows after another. -/
theorem trans {last : Int} (hb : Book.Linked ⟨rows, last⟩) (h : Evolves t rows rows')
    (h' : Evolves t rows' rows'') : Evolves t rows rows'' where
  requests := h.requests.trans h'.requests (fun _ _ _ _ _ _ => Request.Continues.trans)
    (fun _ => h'.removes_left)
    (fun _ r r' _ hc hx => by rw [hc.id_eq] at hx; exact h.removes_right hx)
  offers := h.offers.trans h'.offers (fun _ _ _ _ _ _ => Eq.trans) (fun _ => h'.removes_left)
    (fun _ _ _ _ he hx => by subst he; exact h.removes_right hx)
  lines := h.lines.trans h'.lines
    (fun i l l' l'' hl _ hm hm' => by
      refine hm.trans (hm'.of_offers fun o ho => ?_)
      rw [hm.offer_eq] at ho ⊢
      exact h.offer_of_line hb hl ho)
    (fun _ => h'.removes_left)
    (fun _ _ _ _ hm hx => by rw [hm.request_eq] at hx; exact h.removes_right hx)
  sheets := h.sheets.trans h'.sheets (fun _ _ _ _ _ _ => Eq.trans) (fun _ => h'.removes_left)
    (fun _ _ _ _ he hx => by subst he; exact h.removes_right hx)
  ceilings := h.ceilings.trans h'.ceilings (fun _ _ _ _ _ _ => Eq.trans) (fun _ => False.elim)
    (fun _ _ _ _ _ => id)
  jobs := h.jobs.trans h'.jobs (fun _ _ _ _ _ _ => Eq.trans) (fun _ => False.elim)
    (fun _ _ _ _ _ => id)

end Rows.Evolves

end LoanDesk
