/-
# An accepting and a cancelling task meet

What may have changed for the one task when the other has made its stroke is `Rows.Cleared` and
`Rows.Won`: lines and requests are gone or lines are cancelled, or else lines were taken and their
requests closed. With this the two tasks make up a meeting (`Encounter.meeting`), the accepting one at
the first seat and the cancelling one at the second.
-/

import LoanDesk.Proofs.Race.Encounter.Changes
import Mathlib.Data.Fin.VecNotation

namespace LoanDesk

namespace Rows

/-! ### What the accepting task may find changed -/

/-- Requests are gone with their offers and lines, lines are cancelled. -/
structure Cleared (rows rows' : Rows) : Prop where
  contracts : rows'.contracts = rows.contracts
  requests : ∀ i r, rows'.requests.get? i = some r → rows.requests.get? i = some r
  offers : ∀ i o, rows'.offers.get? i = some o → rows.offers.get? i = some o
  offer : ∀ i o r, rows.offers.get? i = some o → rows'.requests.get? o.request = some r →
    rows'.offers.get? i = some o
  lines : ∀ i l', rows'.lines.get? i = some l' →
    ∃ l, rows.lines.get? i = some l ∧ (l' = l ∨ l'.status = .cancelled)

namespace Cleared

variable {rows rows' rows'' : Rows}

/-- Nothing was cleared. -/
theorem refl (rows : Rows) : Cleared rows rows :=
  ⟨rfl, fun _ _ h => h, fun _ _ h => h, fun _ _ _ h _ => h, fun _ l h => ⟨l, h, Or.inl rfl⟩⟩

/-- What is cleared twice is cleared. -/
theorem trans (h : Cleared rows rows') (h' : Cleared rows' rows'') : Cleared rows rows'' where
  contracts := h'.contracts.trans h.contracts
  requests i r hr := h.requests i r (h'.requests i r hr)
  offers i o ho := h.offers i o (h'.offers i o ho)
  offer i o r ho hr := h'.offer i o r (h.offer i o r ho (h'.requests _ r hr)) hr
  lines i l'' hl := by
    obtain ⟨l', hl', hcase⟩ := h'.lines i l'' hl
    obtain ⟨l, hl, hcase'⟩ := h.lines i l' hl'
    refine ⟨l, hl, ?_⟩
    rcases hcase with rfl | hs
    · exact hcase'
    · exact Or.inr hs

/-- Cancelling clears lines. -/
theorem cancel (rows : Rows) (p : Line → Bool) (by_ : String) (reason : CancelReason)
    (now : Instant) : Cleared rows (rows.cancel p by_ reason now) :=
  { refl rows with
    lines := fun i l' hl' => by
      obtain ⟨l, hl, rfl⟩ := Table.get?_map_eq_some.1 hl'
      refine ⟨l, hl, ?_⟩
      split
      · exact Or.inr rfl
      · exact Or.inl rfl }

/-- A deletion clears a request. -/
theorem removeRequest (h : rows.Keyed) (id : Int) : Cleared rows (rows.removeRequest id) where
  contracts := rfl
  requests _ _ hr := (Table.get?_filter_eq_some.1 hr).1
  offers _ _ ho := (Table.get?_filter_eq_some.1 ho).1
  offer i o r ho hr := by
    obtain ⟨hr, hne⟩ := Table.get?_filter_eq_some.1 hr
    rw [h.requests _ _ hr] at hne
    exact Table.get?_filter_eq_some.2 ⟨ho, hne⟩
  lines _ l hl := ⟨l, (Table.get?_filter_eq_some.1 hl).1, Or.inl rfl⟩

end Cleared

/-! ### What the cancelling task may find changed -/

/-- A request that was open is open no more. -/
def Shuts (rows rows' : Rows) (id : Int) : Prop :=
  ∃ r r', rows.requests.get? id = some r ∧ rows'.requests.get? id = some r' ∧ r.isPending ∧
    r'.isPending = false

/-- Requests were closed, and lines of theirs have moved on. -/
structure Won (rows rows' : Rows) : Prop where
  offers : rows'.offers = rows.offers
  request : ∀ i r, rows.requests.get? i = some r → ∃ r', rows'.requests.get? i = some r' ∧
    (r' = r ∨ r.isPending ∧ r'.isPending = false ∧ r'.id = r.id ∧ r'.investor = r.investor)
  noRequest : ∀ i, rows.requests.get? i = none → rows'.requests.get? i = none
  line : ∀ i l, rows.lines.get? i = some l → ∃ l', rows'.lines.get? i = some l' ∧
    (l' = l ∨ l'.isPending = false ∧ Shuts rows rows' l.request ∧ l'.offer = l.offer ∧
      l'.request = l.request)
  noLine : ∀ i, rows.lines.get? i = none → rows'.lines.get? i = none

namespace Won

variable {rows rows' rows'' : Rows}

/-- Nothing was taken. -/
theorem refl (rows : Rows) : Won rows rows :=
  ⟨rfl, fun _ r h => ⟨r, h, Or.inl rfl⟩, fun _ h => h, fun _ l h => ⟨l, h, Or.inl rfl⟩,
    fun _ h => h⟩

/-- A request that is there now was there before. -/
theorem request_before (h : Won rows rows') {i : Int} {r' : Request}
    (hr : rows'.requests.get? i = some r') : ∃ r, rows.requests.get? i = some r ∧
      (r' = r ∨ r.isPending ∧ r'.isPending = false ∧ r'.id = r.id ∧ r'.investor = r.investor) := by
  cases hget : rows.requests.get? i with
  | none =>
    rw [h.noRequest i hget] at hr
    cases hr
  | some r =>
    obtain ⟨r₁, hr₁, hcase⟩ := h.request i r hget
    rw [hr] at hr₁
    obtain rfl := Option.some.inj hr₁
    exact ⟨r, rfl, hcase⟩

/-- A line that is there now was there before. -/
theorem line_before (h : Won rows rows') {i : Int} {l' : Line} (hl : rows'.lines.get? i = some l') :
    ∃ l, rows.lines.get? i = some l ∧ (l' = l ∨ l'.isPending = false ∧
      Shuts rows rows' l.request ∧ l'.offer = l.offer ∧ l'.request = l.request) := by
  cases hget : rows.lines.get? i with
  | none =>
    rw [h.noLine i hget] at hl
    cases hl
  | some l =>
    obtain ⟨l₁, hl₁, hcase⟩ := h.line i l hget
    rw [hl] at hl₁
    obtain rfl := Option.some.inj hl₁
    exact ⟨l, rfl, hcase⟩

/-- A request that was shut stays so. -/
theorem shuts_left (h' : Won rows' rows'') {id : Int} (hs : Shuts rows rows' id) :
    Shuts rows rows'' id := by
  obtain ⟨r, r', hr, hr', hp, hp'⟩ := hs
  obtain ⟨r'', hr'', he | ⟨hp'', -⟩⟩ := h'.request id r' hr'
  · exact ⟨r, r'', hr, hr'', hp, by rw [he]; exact hp'⟩
  · rw [hp'] at hp''
    cases hp''

/-- A request that is shut later was open before. -/
theorem shuts_right (h : Won rows rows') {id : Int} (hs : Shuts rows' rows'' id) :
    rows'.requests.get? id = rows.requests.get? id ∧ Shuts rows rows'' id := by
  obtain ⟨r', r'', hr', hr'', hp', hp''⟩ := hs
  obtain ⟨r, hr, he | ⟨-, hp, -⟩⟩ := h.request_before hr'
  · subst he
    exact ⟨hr'.trans hr.symm, r', r'', hr, hr'', hp', hp''⟩
  · rw [hp'] at hp
    cases hp

/-- What is taken twice is taken. -/
theorem trans (h : Won rows rows') (h' : Won rows' rows'') : Won rows rows'' where
  offers := h'.offers.trans h.offers
  request i r hr := by
    obtain ⟨r', hr', hcase⟩ := h.request i r hr
    obtain ⟨r'', hr'', hcase'⟩ := h'.request i r' hr'
    refine ⟨r'', hr'', ?_⟩
    rcases hcase with rfl | ⟨hp, hp', hi, hv⟩
    · exact hcase'
    · rcases hcase' with rfl | ⟨hp'', -⟩
      · exact Or.inr ⟨hp, hp', hi, hv⟩
      · rw [hp'] at hp''
        cases hp''
  noRequest i hn := h'.noRequest i (h.noRequest i hn)
  line i l hl := by
    obtain ⟨l', hl', hcase⟩ := h.line i l hl
    obtain ⟨l'', hl'', hcase'⟩ := h'.line i l' hl'
    refine ⟨l'', hl'', ?_⟩
    rcases hcase with rfl | ⟨hp, hs, ho, hr⟩
    · refine hcase'.imp_right fun ⟨hp, hs, hplace⟩ => ⟨hp, (h.shuts_right hs).2, hplace⟩
    · rcases hcase' with rfl | ⟨hp', -, ho', hr'⟩
      · exact Or.inr ⟨hp, h'.shuts_left hs, ho, hr⟩
      · exact Or.inr ⟨hp', h'.shuts_left hs, ho'.trans ho, hr'.trans hr⟩
  noLine i hn := h'.noLine i (h.noLine i hn)

/-- The lines of a request that is as it was are as they were. -/
theorem line_of_request (h : Won rows rows') {id i : Int}
    (hr : rows'.requests.get? id = rows.requests.get? id) {l : Line} (hl : l.request = id) :
    rows'.lines.get? i = some l ↔ rows.lines.get? i = some l := by
  have hnot : ¬Shuts rows rows' id := by
    rintro ⟨r, r', hr₁, hr₂, hp, hp'⟩
    rw [hr, hr₁] at hr₂
    obtain rfl := Option.some.inj hr₂
    rw [hp] at hp'
    cases hp'
  constructor
  · intro hl'
    obtain ⟨l₀, hl₀, rfl | ⟨-, hs, -, hreq⟩⟩ := h.line_before hl'
    · exact hl₀
    · rw [← hreq, hl] at hs
      exact absurd hs hnot
  · intro hl'
    obtain ⟨l₁, hl₁, rfl | ⟨-, hs, -⟩⟩ := h.line i l hl'
    · exact hl₁
    · rw [hl] at hs
      exact absurd hs hnot

/-- A request is closed, and one of its lines taken. -/
theorem take (h : rows.Tended) {x : Desk.Held} (hx : x.In rows) (hp : x.request.isPending)
    {status : LineStatus} (hs : status.isAccepted) (by_ : String) (now : Instant) :
    Won rows (rows.take x status by_ now) := by
  have hxid : x.request.id = x.offer.request := h.keyed.requests _ _ hx.request
  have hget : rows.requests.get? x.request.id = some x.request := by
    rw [hxid]
    exact hx.request
  have hshuts : Shuts rows (rows.take x status by_ now) x.request.id := by
    refine ⟨x.request, { x.request with status := .confirmed, updatedAt := now }, hget, ?_, hp, rfl⟩
    rw [take_eq]
    exact Table.get?_map_eq_some.2 ⟨_, hget, by rw [if_pos (by simp)]⟩
  -- every line that changes is of the request that is closed
  have hof : ∀ i l, rows.lines.get? i = some l → l.offer = x.offer.id →
      l.request = x.request.id := by
    intro i l hl ho
    obtain ⟨o, ho', hreq⟩ := h.line i l hl
    rw [ho, h.keyed.offers _ _ hx.offer, hx.offer] at ho'
    rw [← hreq, ← Option.some.inj ho', hxid]
  have hline : ∀ i l, rows.lines.get? i = some l → x.settle status by_ now l = l ∨
      (x.settle status by_ now l).isPending = false ∧ l.request = x.request.id := by
    intro i l hl
    by_cases hi : l.id = x.line.id
    · rw [Desk.Held.settle_self hs hi]
      have hlx := hx.line
      rw [← hi, h.keyed.lines i l hl, hl] at hlx
      refine Or.inr ⟨?_, hof i l hl ?_⟩
      · exact Line.not_isPending_of_status rfl (by rintro rfl; cases hs)
      · rw [Option.some.inj hlx]
        exact (h.keyed.offers _ _ hx.offer).symm
    · rcases x.settle_other (t := status) (b := by_) (n := now) hi with
        he | ⟨-, ho | hr, he⟩
      · exact Or.inl he
      · exact Or.inr ⟨by rw [he]; rfl, hof i l hl ho⟩
      · exact Or.inr ⟨by rw [he]; rfl, hr⟩
  rw [take_eq] at hshuts ⊢
  refine ⟨rfl, fun i r hr => ?_, fun i hn => ?_, fun i l hl => ?_, fun i hn => ?_⟩
  · refine ⟨_, Table.get?_map_eq_some.2 ⟨r, hr, rfl⟩, ?_⟩
    split
    · rename_i hi
      have hri : r.id = x.request.id := by simpa using hi
      rw [← hri, h.keyed.requests _ _ hr, hr] at hget
      obtain rfl := Option.some.inj hget
      exact Or.inr ⟨hp, rfl, rfl, rfl⟩
    · exact Or.inl rfl
  · rw [Table.get?_map, hn]
    rfl
  · refine ⟨_, Table.get?_map_eq_some.2 ⟨l, hl, rfl⟩, ?_⟩
    refine (hline i l hl).imp_right fun ⟨hp', hreq⟩ => ⟨hp', by rw [hreq]; exact hshuts, ?_⟩
    obtain ⟨-, ho, hr, -⟩ := x.settle_place (t := status) (b := by_) (n := now) (l := l)
    exact ⟨ho, hr⟩
  · rw [Table.get?_map, hn]
    rfl

/-- A line that has moved on gets a contract. -/
theorem attach (h : Won rows rows') {k : Contract} {now : Instant}
    (hk : ∀ l', rows'.lines.get? k.line = some l' → l'.isPending = false ∧
      ∃ l, rows.lines.get? k.line = some l ∧ l' ≠ l) (hkeyed : rows'.Keyed) :
    Won rows (rows'.sign k now) := by
  refine ⟨h.offers, h.request, h.noRequest, fun i l hl => ?_, fun i hn => ?_⟩
  · obtain ⟨l', hl', hcase⟩ := h.line i l hl
    refine ⟨_, Table.get?_map_eq_some.2 ⟨l', hl', rfl⟩, ?_⟩
    split
    · rename_i hi
      have hil : i = k.line := by
        rw [← hkeyed.lines i l' hl']
        simpa using hi
      subst hil
      obtain ⟨hp, l₀, hl₀, hne⟩ := hk l' hl'
      rw [hl] at hl₀
      obtain rfl := Option.some.inj hl₀
      obtain ⟨-, hs, ho, hr⟩ := hcase.resolve_left hne
      exact Or.inr ⟨hp, hs, ho, hr⟩
    · exact hcase
  · change ((rows'.putContract k).attach k.line k.id now).lines.get? i = none
    change (rows'.lines.map _).get? i = none
    rw [Table.get?_map, h.noLine i hn]
    rfl

end Won
end Rows

/-! ### Strokes -/

namespace Stroke

variable {last : Int} {t : Task} {rows rows' : Rows}

/-- Strokes keep what holds of the tables. -/
theorem tended (h : Stroke last t rows rows') (hr : rows.Tended) : rows'.Tended := by
  cases h with
  | accept hh hp hl hs ho hx => exact hr.take hh hl (by decide) _ _
  | confirm hh hp hl hb hn =>
    refine (hr.take hh hl (by decide) _ _).sign (fun l hl => ?_) _
    rw [← Option.some.inj ((Rows.get?_lines_take hh.line rfl _ _).symm.trans hl)]
    rfl
  | cancel => exact hr.cancel _ _ (by split <;> decide) _
  | decline => exact hr.cancel _ _ (by decide) _
  | delete => exact hr.removeRequest _
  | expire => exact hr.cancel _ _ (by decide) _

/-- What the stroke of a cancelling task looks like to others. -/
theorem cleared (h : Stroke last t rows rows') (ht : t.Cancels) (hk : rows.Keyed) :
    rows.Cleared rows' := by
  cases h with
  | accept => exact ht.elim
  | confirm => exact ht.elim
  | cancel => exact .cancel _ _ _ _ _
  | decline => exact .cancel _ _ _ _ _
  | delete => exact .removeRequest hk _
  | expire => exact .cancel _ _ _ _ _

/-- What the stroke of an accepting task looks like to others. -/
theorem won (h : Stroke last t rows rows') (ht : t.Accepts) (hr : rows.Tended) :
    rows.Won rows' := by
  cases h with
  | accept hh hp hl hs ho hx => exact .take hr hh hp rfl _ _
  | @confirm _ h c caller now n hh hp hl hb hn =>
    have hkeyed : (rows.take h .packageCreated caller.name now).Keyed :=
      (hr.take hh hl (by decide) _ _).keyed
    refine .attach (.take hr hh hp rfl _ _) (fun l' hl' => ?_) hkeyed
    obtain rfl := Option.some.inj ((Rows.get?_lines_take hh.line rfl _ _).symm.trans hl')
    refine ⟨rfl, h.line, hh.line, fun he => ?_⟩
    rw [← he] at hl
    cases hl
  | cancel => exact ht.elim
  | decline => exact ht.elim
  | delete => exact ht.elim
  | expire => exact ht.elim

end Stroke

/-- A task that accepts a line and one that cancels lines, where the numbers up to `last` were given
out. -/
structure Encounter where
  last : Int
  accepting : Task
  cancelling : Task
  accepts : accepting.Accepts
  cancels : cancelling.Cancels

/-- The two tasks meet, the accepting one at the first seat. -/
def Encounter.meeting (e : Encounter) : Meeting (Fin 2) where
  last := e.last
  sound := Rows.Tended
  deed i := Stroke e.last (![e.accepting, e.cancelling] i)
  sees i := ![Rows.Cleared, Rows.Won] i
  refl i rows := by
    match i with
    | 0 => exact Rows.Cleared.refl rows
    | 1 => exact Rows.Won.refl rows
  trans {i _ _ _} := by
    match i with
    | 0 => exact Rows.Cleared.trans
    | 1 => exact Rows.Won.trans
  kept hr hd := hd.tended hr
  seen {i j _ _} hij hr hd := by
    match i, j with
    | 0, 0 => exact absurd rfl hij
    | 0, 1 => exact Stroke.cleared hd e.cancels hr.keyed
    | 1, 0 => exact Stroke.won hd e.accepts hr
    | 1, 1 => exact absurd rfl hij

end LoanDesk
