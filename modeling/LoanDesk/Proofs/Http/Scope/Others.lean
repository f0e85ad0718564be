/-
# What belongs to others

What belongs to others are their requests, all that belongs to these, and what belongs to nobody in
particular (`Rows.others`). It stays as it is where an investor's own rows are changed.
-/

import LoanDesk.Proofs.Desk.Evolution

namespace LoanDesk

open Program

/-! ### Rows of others -/

/-- Changes outside a part leave the part as it was. -/
theorem Table.filter_map_eq {α : Type} {t : Table α} {f : α → α} {p : α → Bool}
    (h : ∀ k a, t.get? k = some a → f a = a ∨ p a = false ∧ p (f a) = false) :
    (t.map f).filter p = t.filter p := by
  refine ext fun k => ?_
  rw [get?_filter, get?_filter, get?_map]
  cases hk : t.get? k with
  | none => rfl
  | some a =>
    rcases h k a hk with he | ⟨hp, hp'⟩
    · rw [Option.map_some, he]
    · rw [Option.map_some, Option.filter_some_neg, Option.filter_some_neg] <;> simp [hp, hp']

namespace Rows

variable {rows : Rows} {investor : Int}

/-- The request is there, and somebody other than the investor has it. -/
def isOthers (rows : Rows) (investor request : Int) : Bool :=
  (rows.requests.get? request).any (·.investor != investor)

/-- What belongs to others than an investor: their requests and all that belongs to these, and what
belongs to nobody in particular. -/
def others (rows : Rows) (investor : Int) : Rows where
  requests := rows.requests.filter (·.investor != investor)
  offers := rows.offers.filter fun o => rows.isOthers investor o.request
  lines := rows.lines.filter fun l => rows.isOthers investor l.request
  contracts := rows.contracts.filter fun k => rows.isOthers investor k.request
  sheets := rows.sheets.filter fun s => rows.isOthers investor s.request
  ceilings := rows.ceilings
  jobs := rows.jobs

/-- A request of the investor's belongs to nobody else. -/
theorem isOthers_of_own {request : Int} {r : Request} (hr : rows.requests.get? request = some r)
    (hi : r.investor = investor) : rows.isOthers investor request = false := by
  simp [isOthers, hr, hi]

/-- Requests change, as long as nobody else's does and each stays with its investor. -/
theorem others_of_requests {rows' : Rows} (he : rows' = { rows with requests := rows'.requests })
    (hown : rows'.requests.filter (·.investor != investor) =
      rows.requests.filter (·.investor != investor))
    (hsame : ∀ id, rows'.isOthers investor id = rows.isOthers investor id) :
    rows'.others investor = rows.others investor := by
  have hfun : rows'.isOthers investor = rows.isOthers investor := funext hsame
  rw [others, hown, hfun, he]
  rfl

/-- Changing requests of the investor leaves what belongs to others as it was. -/
theorem others_mapRequests {f : Request → Request}
    (hf : ∀ k r, rows.requests.get? k = some r →
      (f r).investor = r.investor ∧ (f r = r ∨ r.investor = investor)) :
    others { rows with requests := rows.requests.map f } investor = rows.others investor := by
  refine others_of_requests rfl (Table.filter_map_eq fun k r hr => ?_) fun id => ?_
  · obtain ⟨hsame, he | hi⟩ := hf k r hr
    · exact Or.inl he
    · exact Or.inr ⟨by simp [hi], by simp [hsame, hi]⟩
  · change ((rows.requests.map f).get? id).any _ = (rows.requests.get? id).any _
    rw [Table.get?_map]
    cases hr : rows.requests.get? id with
    | none => rfl
    | some r =>
      rw [Option.map_some, Option.any_some, Option.any_some, (hf id r hr).1]

/-- Lines change, as long as they are lines of the investor's own requests. -/
theorem others_mapLines {f : Line → Line}
    (hf : ∀ k l, rows.lines.get? k = some l → (f l).request = l.request ∧
      (rows.isOthers investor l.request → f l = l)) :
    others { rows with lines := rows.lines.map f } investor = rows.others investor := by
  have hlines : (rows.lines.map f).filter (fun l => rows.isOthers investor l.request) =
      rows.lines.filter fun l => rows.isOthers investor l.request := by
    refine Table.filter_map_eq fun k l hl => ?_
    obtain ⟨hsame, he⟩ := hf k l hl
    cases ho : rows.isOthers investor l.request with
    | true => exact Or.inl (he ho)
    | false => exact Or.inr ⟨rfl, by rw [hsame, ho]⟩
  unfold others
  rw [← hlines]
  rfl

/-- A request of the investor's own is added. -/
theorem others_putRequest {last : Int} {r : Request} (hb : rows.requests.Upto last)
    (hn : last < r.id) (hi : r.investor = investor) :
    (rows.putRequest r).others investor = rows.others investor := by
  have hnone : rows.requests.get? r.id = none := by
    cases hr : rows.requests.get? r.id with
    | none => rfl
    | some r' =>
      have hle := hb _ _ hr
      omega
  refine others_of_requests rfl (Table.ext fun k => ?_) fun id => ?_
  · rw [putRequest, Table.get?_filter, Table.get?_filter, Table.get?_insert]
    split
    · rename_i hk
      subst hk
      simp [hnone, hi]
    · rfl
  · change ((rows.requests.insert r.id r).get? id).any _ = (rows.requests.get? id).any _
    rw [Table.get?_insert]
    split
    · rename_i hk
      subst hk
      simp [hnone, hi]
    · rfl

/-- The rows that change where a line is taken all belong to one request. -/
theorem others_take {last : Int} {x : Desk.Held} (hb : Book.Linked ⟨rows, last⟩) (hx : x.In rows)
    (hi : x.request.investor = investor) (status : LineStatus) (by_ : String) (now : Instant) :
    (rows.take x status by_ now).others investor = rows.others investor := by
  have hid : x.request.id = x.offer.request := hb.keyed.requests _ _ hx.request
  have hown : rows.isOthers investor x.offer.request = false := isOthers_of_own hx.request hi
  have hlines : others { rows with lines := (rows.take x status by_ now).lines } investor =
      rows.others investor := by
    rw [lines_take, Table.map_map, Table.map_map]
    refine others_mapLines fun k l hl => ⟨?_, fun ho => ?_⟩
    · rw [Function.comp, Function.comp, Line.passedOver_request, Line.passedOver_request]
      split <;> rfl
    · have hrequest : l.request ≠ x.offer.request := by
        intro he
        rw [he, hown] at ho
        cases ho
      have hline : l.id ≠ x.line.id := by
        intro he
        have hget := hx.line
        rw [← he, hb.keyed.lines k l hl, show rows.lines.get? k = some l from hl] at hget
        rw [hb.request_line hx, ← Option.some.inj hget] at hrequest
        exact hrequest rfl
      have hoffer : l.offer ≠ x.offer.id := by
        intro he
        obtain ⟨o, hget, hreq⟩ := hb.line k l hl
        rw [he, hb.keyed.offers _ _ hx.offer, hx.offer] at hget
        rw [← hreq, ← Option.some.inj hget] at hrequest
        exact hrequest rfl
      have hkept : l.passedOver (·.offer == x.offer.id) by_ now = l :=
        Line.passedOver_of_not (by simpa using hoffer)
      rw [Function.comp, Function.comp, if_neg (by simpa using hline), hkept,
        Line.passedOver_of_not (by simpa [hid] using hrequest)]
  rw [← hlines]
  refine @others_mapRequests { rows with lines := (rows.take x status by_ now).lines } investor _
    fun k r hr => ?_
  split
  · rename_i hsel
    have hk : k = x.offer.request := by
      rw [← hb.keyed.requests k r hr, ← hid]
      simpa using hsel
    refine ⟨rfl, Or.inr ?_⟩
    change rows.requests.get? k = some r at hr
    rw [hk, hx.request] at hr
    rw [← Option.some.inj hr, hi]
  · exact ⟨rfl, Or.inl rfl⟩

/-- The lines of an offer all belong to the request that it is for. -/
theorem others_cancel {last : Int} {o : Offer} {r : Request} (hb : Book.Linked ⟨rows, last⟩)
    (ho : rows.offers.get? o.id = some o) (hr : rows.requests.get? o.request = some r)
    (hi : r.investor = investor) (by_ : String) (reason : CancelReason) (now : Instant) :
    (rows.cancel (·.offer == o.id) by_ reason now).others investor = rows.others investor := by
  refine others_mapLines fun k l hl => ⟨by split <;> rfl, fun hother => ?_⟩
  have hoffer : (l.offer == o.id) = false := by
    rw [beq_eq_false_iff_ne]
    intro he
    obtain ⟨o', hget, hreq⟩ := hb.line k l hl
    rw [he, show rows.offers.get? o.id = some o from ho] at hget
    rw [← hreq, ← Option.some.inj hget, isOthers_of_own hr hi] at hother
    cases hother
  exact if_neg (by simp [hoffer])

end Rows

end LoanDesk
