/-
# Lines that are spared

What may become of a line of an offer without flow, and of its request (`Task.Spares`): the line is
as it was unless the task closes the request, and then it is cancelled if it was pending.
`Rows.Frozen` says so of all such lines of the rows. Each change of the rows that a deed makes is
here with what it needs for that: cancelling lines must pass over offers without flow, and closing
requests need not.
-/

import LoanDesk.Proofs.Desk.Cancelled

namespace LoanDesk

namespace Task

/-- The task may close requests: it takes a line, withdraws a symbol or declines high rates. -/
def Closes : Task → Prop
  | .operate (.accept _) _ _ | .operate (.confirm _) _ _ | .operate (.withdraw _) _ _
  | .decline _ _ _ _ => True
  | _ => False

/-- A line as the task cancels it. -/
def strike (t : Task) (l : Line) : Line :=
  match t.stamp? with
  | some s => s.cancel l
  | none => l

/-- What becomes of a line without flow and of its request: the line is as it was unless the task
closes the request. -/
structure Spares (t : Task) (l : Line) (r : Request) (l' : Line) (r' : Request) : Prop where
  isPending : r'.isPending → r.isPending
  closes : r.isPending → r'.isPending = false → t.Closes
  line : l' = if l.isPending && r.isPending && !r'.isPending then t.strike l else l

/-- A struck line stays in its offer and with its request. -/
theorem strike_place (t : Task) (l : Line) :
    (t.strike l).offer = l.offer ∧ (t.strike l).request = l.request := by
  unfold strike
  split <;> exact ⟨rfl, rfl⟩

/-- A task that closes requests has a stamp, and strikes lines by it. -/
theorem Closes.strike {t : Task} (h : t.Closes) (l : Line) : ∃ s, t.stamp? = some s ∧
    t.strike l = s.cancel l := by
  cases hs : t.stamp? with
  | some s => exact ⟨s, rfl, by rw [Task.strike, hs]⟩
  | none =>
    cases t with
    | operate o => cases o <;> first | exact h.elim | cases hs
    | expire => exact h.elim
    | decline => cases hs

namespace Spares

variable {t : Task} {l l' l'' : Line} {r r' r'' : Request}

/-- A line that stays as it is, with its request. -/
theorem refl (t : Task) (l : Line) (r : Request) : t.Spares l r l r where
  isPending h := h
  closes hp hn := by
    rw [hp] at hn
    cases hn
  line := by cases r.isPending <;> simp

/-- A line that is spared stays in its offer and with its request. -/
theorem place (h : t.Spares l r l' r') : l'.offer = l.offer ∧ l'.request = l.request := by
  rw [h.line]
  split
  · exact t.strike_place l
  · exact ⟨rfl, rfl⟩

/-- One change of the line after another. -/
theorem trans (h : t.Spares l r l' r') (h' : t.Spares l' r' l'' r'') : t.Spares l r l'' r'' where
  isPending hp := h.isPending (h'.isPending hp)
  closes hp hn := by
    cases hp' : r'.isPending with
    | false => exact h.closes hp hp'
    | true => exact h'.closes hp' hn
  line := by
    cases hp' : r'.isPending with
    | true =>
      -- the request is still open, and so the line is as it was
      have hl : l' = l := by rw [h.line, hp']; simp
      rw [h'.line, hl, hp', h.isPending hp']
    | false =>
      have hp'' : r''.isPending = false := by
        cases hr : r''.isPending with
        | false => rfl
        | true => rw [h'.isPending hr] at hp'; cases hp'
      have hl : l'' = l' := by rw [h'.line, hp']; simp
      rw [hl, h.line, hp', hp'']

/-- A request is closed or not, and with it the line is cancelled or not. -/
theorem close (hc : t.Closes) {s : Stamp} (hs : t.stamp? = some s) {c : Bool}
    (hp : c → r.isPending) (now : Instant) :
    t.Spares l r (if l.isPending && c then s.cancel l else l)
      (if c then { r with status := .confirmed, updatedAt := now } else r) := by
  cases c with
  | false =>
    rw [Bool.and_false]
    exact refl t l r
  | true =>
    have hr := hp rfl
    have hclosed : ({ r with status := .confirmed, updatedAt := now } : Request).isPending = false :=
      rfl
    refine ⟨fun _ => hr, fun _ _ => hc, ?_⟩
    rw [if_pos rfl, hclosed, hr, Task.strike, hs]
    simp

end Spares
end Task

/-- What becomes of the lines of offers without flow, whose requests and offers stay. -/
def Rows.Frozen (t : Task) (rows rows' : Rows) : Prop :=
  ∀ i l o r, rows.lines.get? i = some l → rows.offers.get? l.offer = some o →
    o.flow = .unspecified → rows.requests.get? l.request = some r →
      ∃ l' r', rows'.lines.get? i = some l' ∧ rows'.offers.get? l.offer = some o ∧
        rows'.requests.get? l.request = some r' ∧ t.Spares l r l' r'

namespace Rows.Frozen

variable {t : Task} {rows rows' rows'' : Rows}

/-- Lines, offers and requests are the same. -/
theorem of_eq (hl : rows'.lines = rows.lines) (ho : rows'.offers = rows.offers)
    (hr : rows'.requests = rows.requests) : Frozen t rows rows' := by
  intro i l o r hget hoffer _ hreq
  rw [hl, ho, hr]
  exact ⟨l, r, hget, hoffer, hreq, .refl t l r⟩

/-- One change of the rows after another. -/
theorem trans (h : Frozen t rows rows') (h' : Frozen t rows' rows'') : Frozen t rows rows'' := by
  intro i l o r hl ho hflow hr
  obtain ⟨l', r', hl', ho', hr', hspares⟩ := h i l o r hl ho hflow hr
  obtain ⟨hoffer, hrequest⟩ := hspares.place
  rw [← hoffer] at ho'
  rw [← hrequest] at hr'
  obtain ⟨l'', r'', hl'', ho'', hr'', hspares'⟩ := h' i l' o r' hl' ho' hflow hr'
  rw [hoffer] at ho''
  rw [hrequest] at hr''
  exact ⟨l'', r'', hl'', ho'', hr'', hspares.trans hspares'⟩

/-- Lines change, but none of an offer without flow. -/
theorem mapLines {f : Line → Line} (hf : ∀ i l o, rows.lines.get? i = some l →
    rows.offers.get? l.offer = some o → o.flow = .unspecified → f l = l) :
    Frozen t rows { rows with lines := rows.lines.map f } := by
  intro i l o r hl ho hflow hr
  refine ⟨f l, r, Table.get?_map_eq_some.2 ⟨l, hl, rfl⟩, ho, hr, ?_⟩
  rw [hf i l o hl ho hflow]
  exact .refl t l r

/-- Lines are cancelled, but none of an offer without flow. -/
theorem cancel {p : Line → Bool} (hp : ∀ i l o, rows.lines.get? i = some l →
    rows.offers.get? l.offer = some o → o.flow = .unspecified → p l = false) (by_ : String)
    (reason : CancelReason) (now : Instant) : Frozen t rows (rows.cancel p by_ reason now) :=
  mapLines fun i l o hl ho hflow => by
    rw [hp i l o hl ho hflow, Bool.and_false]
    rfl

/-- Requests are closed with their lines, those of offers without flow among them. -/
theorem close (hk : rows.requests.Keyed Request.id) (hc : t.Closes) {s : Stamp}
    (hs : t.stamp? = some s) {q : Int → Bool} (hq : ∀ i r, rows.requests.get? i = some r → q r.id →
      r.isPending) {f : Line → Line} (hf : ∀ i l o, rows.lines.get? i = some l →
      rows.offers.get? l.offer = some o → o.flow = .unspecified →
        f l = if l.isPending && q l.request then s.cancel l else l) (now : Instant) :
    Frozen t rows { rows with
      lines := rows.lines.map f
      requests := rows.requests.map fun r =>
        if q r.id then { r with status := .confirmed, updatedAt := now } else r } := by
  intro i l o r hl ho hflow hr
  refine ⟨f l, _, Table.get?_map_eq_some.2 ⟨l, hl, rfl⟩, ho, Table.get?_map_eq_some.2 ⟨r, hr, rfl⟩,
    ?_⟩
  rw [hf i l o hl ho hflow, ← hk _ r hr]
  exact .close hc hs (hq _ r hr) now

end Rows.Frozen

/-- A line of an offer without flow is not the one that is taken, and is cancelled only if it is
pending and of the same request. -/
theorem Desk.Held.settle_of_offer {h : Held} {status : LineStatus} {by_ : String} {now : Instant}
    {l : Line} (hl : l.id ≠ h.line.id) (ho : l.offer ≠ h.offer.id) :
    h.settle status by_ now l =
      if l.isPending && l.request == h.request.id then l.cancelled by_ .alternativeOption now
      else l := by
  rw [settle_eq hl]
  simp only [ho, false_or, Bool.and_eq_true, beq_iff_eq]

namespace Rows.Frozen

variable {t : Task} {rows : Rows}

/-- A contract is stored, and the line that gets it is not of an offer without flow. -/
theorem sign {k : Contract} (hk : ∀ i l o, rows.lines.get? i = some l →
    rows.offers.get? l.offer = some o → o.flow = .unspecified → l.id ≠ k.line) (now : Instant) :
    Frozen t rows (rows.sign k now) := by
  have hput : Frozen t rows (rows.putContract k) := .of_eq rfl rfl rfl
  refine hput.trans (mapLines fun i l o hl ho hflow => ?_)
  exact if_neg (by simpa using hk i l o hl ho hflow)

/-- A line is taken whose offer has a flow. -/
theorem take {x : Desk.Held} (hk : rows.requests.Keyed Request.id) (hx : x.In rows)
    (hp : x.request.isPending) (hc : t.Closes) {by_ : String} {now : Instant}
    (hs : t.stamp? = some ⟨.alternativeOption, by_, now⟩) (hne : ∀ i l o, rows.lines.get? i = some l →
      rows.offers.get? l.offer = some o → o.flow = .unspecified →
        l.id ≠ x.line.id ∧ l.offer ≠ x.offer.id) (status : LineStatus) :
    Frozen t rows (rows.take x status by_ now) := by
  rw [take_eq]
  refine close (q := (· == x.request.id)) hk hc hs (fun i r hr hi => ?_)
    (fun i l o hl ho hflow => ?_) now
  · rw [hk.eq_of_key hr hx.request (by simpa using hi)]
    exact hp
  · obtain ⟨hline, hoffer⟩ := hne i l o hl ho hflow
    exact Desk.Held.settle_of_offer hline hoffer

/-- Requests that are open are closed. -/
theorem shut (hk : rows.requests.Keyed Request.id) {rs : List Request}
    (hrs : ∀ r ∈ rs, rows.requests.get? r.id = some r ∧ r.isPending) (hc : t.Closes) {s : Stamp}
    (hs : t.stamp? = some s) :
    Frozen t rows (rows.shut (rs.map (·.id)) s.name s.reason s.time) := by
  refine close (q := fun id => (rs.map (·.id)).contains id) hk hc hs (fun i r hr hi => ?_)
    (fun _ _ _ _ _ _ => rfl) s.time
  rw [List.contains_iff_mem, List.mem_map] at hi
  obtain ⟨r', hmem, hid⟩ := hi
  obtain ⟨hget, hp⟩ := hrs r' hmem
  rw [← hk.eq_of_key hget hr hid]
  exact hp

end Rows.Frozen

end LoanDesk
