/-
# Links between rows

In a book of the desk every row stands under its own number, no number is greater than the last, and
rows refer to rows that are there: a line to an offer for its own request, an offer to a request. No
offer has an unspecified flow. Stores that others have filled may have such offers as well, so links
are stated for any condition on flows.

Changes of single tables keep a book linked one by one, and every deed is made of such changes
(`Deed.linked`).
-/

import LoanDesk.Proofs.Desk.Deed

namespace LoanDesk

/-- Rows stand under numbers given out, and refer to rows that are there; the flows of the offers
satisfy a condition. -/
structure Book.LinkedIn (F : Flow → Prop) (b : Book) : Prop where
  keyed : b.rows.Keyed
  requests : b.rows.requests.Upto b.last
  offers : b.rows.offers.Upto b.last
  lines : b.rows.lines.Upto b.last
  contracts : b.rows.contracts.Upto b.last
  sheets : b.rows.sheets.Upto b.last
  ceilings : b.rows.ceilings.Upto b.last
  jobs : b.rows.jobs.Upto b.last
  flow : ∀ i o, b.rows.offers.get? i = some o → F o.flow
  offer : ∀ i o, b.rows.offers.get? i = some o → ∃ r, b.rows.requests.get? o.request = some r
  line : ∀ i l, b.rows.lines.get? i = some l →
    ∃ o, b.rows.offers.get? l.offer = some o ∧ o.request = l.request

namespace Book

/-- Rows are linked, and no offer has an unspecified flow. -/
abbrev Linked : Book → Prop := LinkedIn (· ≠ .unspecified)

/-- Rows are linked, whatever the flows of the offers. -/
abbrev Joined : Book → Prop := LinkedIn fun _ => True

/-- The empty store is linked. -/
theorem linked_empty : Linked Store.empty.stored where
  keyed := Rows.keyed_empty
  requests := Table.upto_empty _
  offers := Table.upto_empty _
  lines := Table.upto_empty _
  contracts := Table.upto_empty _
  sheets := Table.upto_empty _
  ceilings := Table.upto_empty _
  jobs := Table.upto_empty _
  flow i o h := by simp [Store.stored, Store.empty, Rows.empty] at h
  offer i o h := by simp [Store.stored, Store.empty, Rows.empty] at h
  line i l h := by simp [Store.stored, Store.empty, Rows.empty] at h

namespace LinkedIn

variable {F : Flow → Prop} {rows : Rows} {last n : Int}

/-- Numbers may be missing. -/
theorem mono (h : LinkedIn F ⟨rows, last⟩) (hn : last ≤ n) : LinkedIn F ⟨rows, n⟩ :=
  { h with
    requests := h.requests.mono hn
    offers := h.offers.mono hn
    lines := h.lines.mono hn
    contracts := h.contracts.mono hn
    sheets := h.sheets.mono hn
    ceilings := h.ceilings.mono hn
    jobs := h.jobs.mono hn }

/-! ### Changes of rows -/

/-- Requests change in their places. -/
theorem setRequests (h : LinkedIn F ⟨rows, last⟩) (p : Request → Bool) (status : RequestStatus)
    (now : Instant) : LinkedIn F ⟨rows.setRequests p status now, last⟩ :=
  { h with
    keyed := h.keyed.setRequests p status now
    requests := h.requests.map _
    offer := fun i o ho => by
      obtain ⟨r, hr⟩ := h.offer i o ho
      exact ⟨_, Table.get?_map_eq_some.2 ⟨r, hr, rfl⟩⟩ }

/-- Lines may change as long as they keep their place. -/
theorem mapLines (h : LinkedIn F ⟨rows, last⟩) {f : Line → Line}
    (hf : ∀ l, (f l).id = l.id ∧ (f l).offer = l.offer ∧ (f l).request = l.request) :
    LinkedIn F ⟨{ rows with lines := rows.lines.map f }, last⟩ :=
  { h with
    keyed := { h.keyed with lines := h.keyed.lines.map fun l => (hf l).1 }
    lines := h.lines.map _
    line := fun i l hl => by
      obtain ⟨l₀, hl₀, rfl⟩ := Table.get?_map_eq_some.1 hl
      obtain ⟨o, ho, hreq⟩ := h.line i l₀ hl₀
      obtain ⟨-, hoffer, hrequest⟩ := hf l₀
      exact ⟨o, by rw [hoffer]; exact ho, by rw [hrequest]; exact hreq⟩ }

/-- Lines change their status in their places. -/
theorem setLines (h : LinkedIn F ⟨rows, last⟩) (p : Line → Bool) (status : LineStatus)
    (now : Instant) : LinkedIn F ⟨rows.setLines p status now, last⟩ :=
  h.mapLines fun l => by split <;> exact ⟨rfl, rfl, rfl⟩

/-- Lines are cancelled in their places. -/
theorem cancel (h : LinkedIn F ⟨rows, last⟩) (p : Line → Bool) (by_ : String) (reason : CancelReason)
    (now : Instant) : LinkedIn F ⟨rows.cancel p by_ reason now, last⟩ :=
  h.mapLines fun l => by split <;> exact ⟨rfl, rfl, rfl⟩

/-- A line is taken and the others cancelled, all in their places. -/
theorem take (h : LinkedIn F ⟨rows, last⟩) (x : Desk.Held) (status : LineStatus) (by_ : String)
    (now : Instant) : LinkedIn F ⟨rows.take x status by_ now, last⟩ :=
  (((h.setLines _ _ _).cancel _ _ _ _).cancel _ _ _ _).setRequests _ _ _

/-- A line gets its contract in its place. -/
theorem attach (h : LinkedIn F ⟨rows, last⟩) (line contract : Int) (now : Instant) :
    LinkedIn F ⟨rows.attach line contract now, last⟩ :=
  h.mapLines fun l => by split <;> exact ⟨rfl, rfl, rfl⟩

/-- Contracts change in their places. -/
theorem endGuarantee (h : LinkedIn F ⟨rows, last⟩) (contract : Int) (at_ : Instant) :
    LinkedIn F ⟨rows.endGuarantee contract at_, last⟩ :=
  { h with
    keyed := h.keyed.endGuarantee contract at_
    contracts := h.contracts.map _ }

/-! ### New rows and rows that go -/

/-- A new request refers to nothing. -/
theorem putRequest (h : LinkedIn F ⟨rows, last⟩) {r : Request} (hr : last < r.id) :
    LinkedIn F ⟨rows.putRequest r, r.id⟩ :=
  have h := h.mono (Int.le_of_lt hr)
  { h with
    keyed := h.keyed.putRequest r
    requests := h.requests.insert (Int.le_refl _) r
    offer := fun i o ho => by
      obtain ⟨r', hr'⟩ := h.offer i o ho
      by_cases he : r.id = o.request
      · exact ⟨r, Table.get?_insert_eq_some.2 (Or.inl ⟨he, rfl⟩)⟩
      · exact ⟨r', Table.get?_insert_eq_some.2 (Or.inr ⟨he, hr'⟩)⟩ }

/-- A new offer is for a request that is there. -/
theorem putOffer (h : LinkedIn F ⟨rows, last⟩) {o : Offer} (ho : last < o.id)
    (hflow : F o.flow) (hreq : ∃ r, rows.requests.get? o.request = some r) :
    LinkedIn F ⟨rows.putOffer o, o.id⟩ :=
  { h.mono (Int.le_of_lt ho) with
    keyed := h.keyed.putOffer o
    offers := h.offers.insert (Int.le_of_lt ho) o
    flow := fun i o' ho' => by
      rcases Table.get?_insert_eq_some.1 ho' with ⟨-, rfl⟩ | ⟨-, ho'⟩
      · exact hflow
      · exact h.flow i o' ho'
    offer := fun i o' ho' => by
      rcases Table.get?_insert_eq_some.1 ho' with ⟨-, rfl⟩ | ⟨-, ho'⟩
      · exact hreq
      · exact h.offer i o' ho'
    line := fun i l hl => by
      obtain ⟨o', ho', hreq'⟩ := h.line i l hl
      exact ⟨o', h.offers.get?_insert ho ho', hreq'⟩ }

/-- A new line is of an offer that is there, for the request of the offer. -/
theorem putLine (h : LinkedIn F ⟨rows, last⟩) {l : Line} (hl : last < l.id)
    (hoffer : ∃ o, rows.offers.get? l.offer = some o ∧ o.request = l.request) :
    LinkedIn F ⟨rows.putLine l, l.id⟩ :=
  have h := h.mono (Int.le_of_lt hl)
  { h with
    keyed := h.keyed.putLine l
    lines := h.lines.insert (Int.le_refl _) l
    line := fun i l' hl' => by
      rcases Table.get?_insert_eq_some.1 hl' with ⟨-, rfl⟩ | ⟨-, hl'⟩
      · exact hoffer
      · exact h.line i l' hl' }

/-- A new contract stands under a new number. -/
theorem putContract (h : LinkedIn F ⟨rows, last⟩) {k : Contract} (hk : last < k.id) :
    LinkedIn F ⟨rows.putContract k, k.id⟩ :=
  have h := h.mono (Int.le_of_lt hk)
  { h with
    keyed := h.keyed.putContract k
    contracts := h.contracts.insert (Int.le_refl _) k }

/-- A new sheet stands under a new number. -/
theorem putSheet (h : LinkedIn F ⟨rows, last⟩) {s : Sheet} (hs : last < s.id) :
    LinkedIn F ⟨rows.putSheet s, s.id⟩ :=
  have h := h.mono (Int.le_of_lt hs)
  { h with
    keyed := h.keyed.putSheet s
    sheets := h.sheets.insert (Int.le_refl _) s }

/-- A new ceiling stands under a new number. -/
theorem putCeiling (h : LinkedIn F ⟨rows, last⟩) {c : Ceiling} (hc : last < c.id) :
    LinkedIn F ⟨rows.putCeiling c, c.id⟩ :=
  have h := h.mono (Int.le_of_lt hc)
  { h with
    keyed := h.keyed.putCeiling c
    ceilings := h.ceilings.insert (Int.le_refl _) c }

/-- A new record of a run stands under a new number. -/
theorem putJob (h : LinkedIn F ⟨rows, last⟩) {j : JobRecord} (hj : last < j.id) :
    LinkedIn F ⟨rows.putJob j, j.id⟩ :=
  have h := h.mono (Int.le_of_lt hj)
  { h with
    keyed := h.keyed.putJob j
    jobs := h.jobs.insert (Int.le_refl _) j }

/-- A contract that is stored and attached to its line. -/
theorem sign (h : LinkedIn F ⟨rows, last⟩) {k : Contract} (hk : last < k.id) (now : Instant) :
    LinkedIn F ⟨rows.sign k now, k.id⟩ := (h.putContract hk).attach k.line k.id now

/-- Lines for a stored offer of the request, under consecutive numbers. -/
theorem putLines {offer : Offer} (now : Instant) : ∀ (ds : List LineDraft) {rows : Rows}
    {last : Int}, LinkedIn F ⟨rows, last⟩ → rows.offers.get? offer.id = some offer →
      LinkedIn F ⟨(LineDraft.toLines offer.id offer.request now (last + 1) ds).foldl Rows.putLine rows,
        last + ds.length⟩
  | [], rows, last, h, _ => h.mono (Int.le_add_of_nonneg_right (Int.natCast_nonneg _))
  | d :: ds, rows, last, h, ho => by
    have hline := h.putLine (l := d.toLine (last + 1) offer.id offer.request now)
      (Int.lt_succ last) ⟨offer, ho, rfl⟩
    refine (putLines now ds hline ho).mono (Int.le_of_eq ?_)
    change last + 1 + (ds.length : Int) = _
    rw [List.length_cons]
    omega

/-- A request goes with all that refers to it. -/
theorem removeRequest (h : LinkedIn F ⟨rows, last⟩) (id : Int) :
    LinkedIn F ⟨rows.removeRequest id, last⟩ where
  keyed := h.keyed.removeRequest id
  requests := h.requests.filter _
  offers := h.offers.filter _
  lines := h.lines.filter _
  contracts := h.contracts
  sheets := h.sheets.filter _
  ceilings := h.ceilings
  jobs := h.jobs
  flow i o ho := h.flow i o (Table.get?_filter_eq_some.1 ho).1
  offer i o ho := by
    obtain ⟨ho, hne⟩ := Table.get?_filter_eq_some.1 ho
    obtain ⟨r, hr⟩ := h.offer i o ho
    refine ⟨r, Table.get?_filter_eq_some.2 ⟨hr, ?_⟩⟩
    rw [h.keyed.requests _ _ hr]
    exact hne
  line i l hl := by
    obtain ⟨hl, hne⟩ := Table.get?_filter_eq_some.1 hl
    obtain ⟨o, ho, hreq⟩ := h.line i l hl
    refine ⟨o, Table.get?_filter_eq_some.2 ⟨ho, ?_⟩, hreq⟩
    rw [hreq]
    exact hne

/-- The lines of an offer are lines of its request. -/
theorem request_of_offer (h : LinkedIn F ⟨rows, last⟩) {l : Line} (hl : l ∈ rows.lines.values)
    {o : Offer} (ho : rows.offers.get? l.offer = some o) : l.request = o.request := by
  obtain ⟨k, hk⟩ := Table.mem_values.1 hl
  obtain ⟨o', ho', hreq⟩ := h.line k l hk
  rw [← hreq, Option.some.inj (ho'.symm.trans ho)]

/-- The request of a line's offer is the line's. -/
theorem request_line (h : LinkedIn F ⟨rows, last⟩) {x : Desk.Held} (hx : x.In rows) :
    x.offer.request = x.line.request :=
  (h.request_of_offer (Table.mem_values.2 ⟨_, hx.line⟩) hx.offer).symm

end LinkedIn
end Book

/-- No offer of unspecified flow is proposed. -/
theorem Desk.flow_of_proposalFlaw? {c : Proposal} {now : Instant}
    (h : Desk.proposalFlaw? c now = none) : c.flow ≠ .unspecified := by
  intro hflow
  unfold Desk.proposalFlaw? at h
  rw [if_pos hflow] at h
  split at h
  · cases h
  · split at h <;> cases h

/-- Deeds keep books linked where offers may have any flow but an unspecified one. -/
theorem Deed.linkedIn {F : Flow → Prop} (hF : ∀ flow, flow ≠ .unspecified → F flow) {t : Task}
    {b b' : Book} (hd : Deed t b b') (h : b.LinkedIn F) : b'.LinkedIn F := by
  cases hd with
  | openRequest hs hn hlast => exact (h.putRequest hn).mono hlast
  | deleteRequest hr hp hl hlast => exact (h.removeRequest _).mono hlast
  | @propose c caller now _ r sheet offer lines last hc hr hp hs ho hl hlast =>
    have hsheet := h.putSheet (s := ⟨sheet, r.id, caller.name, c.terms, now⟩) hs
    have hreq : r.id = c.request := h.keyed.requests _ _ hr
    have hoffer := hsheet.putOffer
      (o := (⟨r.id, caller.name, c.flow, c.expiredAt⟩ : OfferDraft).toOffer offer now) ho
      (hF _ (Desk.flow_of_proposalFlaw? hc)) ⟨r, by rw [← hreq] at hr; exact hr⟩
    have hlines := (hoffer.mono (show offer ≤ lines - 1 by omega)).putLines now c.lines
      (Table.get?_insert_eq_some.2 (Or.inl ⟨rfl, rfl⟩))
    rw [Int.sub_add_cancel] at hlines
    exact hlines.mono (by omega)
  | confirm hh hc hp hm hk hn hlast => exact ((h.take _ _ _ _).sign hn _).mono hlast
  | accept hh hs ho hx hp hm hlast => exact (h.take _ _ _ _).mono hlast
  | createPackage hh hm hk hn hlast => exact ((h.setLines _ _ _).sign hn _).mono hlast
  | setGuaranteeEnd hk hat hlast => exact (h.endGuarantee _ _).mono hlast
  | cancel hr hids hlast => exact (h.cancel _ _ _ _).mono hlast
  | decline ho hr hs hlast => exact (h.cancel _ _ _ _).mono hlast
  | withdraw hrs hlast => exact ((h.cancel _ _ _ _).setRequests _ _ _).mono hlast
  | addCeiling hn hlast => exact (h.putCeiling hn).mono hlast
  | expire hlast => exact (h.cancel _ _ _ _).mono hlast
  | declineBatch hrs hlast => exact ((h.cancel _ _ _ _).setRequests _ _ _).mono hlast
  | record ht hn hlast => exact (h.putJob hn).mono hlast

/-- **Deeds keep books linked.** -/
theorem Deed.linked {t : Task} {b b' : Book} (hd : Deed t b b') : b.Linked → b'.Linked :=
  hd.linkedIn fun _ => id

/-- Deeds give out numbers, and take none back. -/
theorem Deed.last_le {t : Task} {b b' : Book} (hd : Deed t b b') : b.last ≤ b'.last := by
  cases hd <;> dsimp only <;> omega

end LoanDesk
