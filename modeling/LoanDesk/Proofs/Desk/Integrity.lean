/-
# References between tables

The tables of a store have no foreign keys. Rows refer to each other by number, and a request that is
deleted takes its offers, lines and sheets with it by hand, while contracts are left alone:

| row | refers to |
| --- | --- |
| offer | request |
| sheet | request |
| line | offer, and the request of that offer |
| contract | request and line |

All the same no reference dangles in any world of a history, and no offer is without lines
(`Rows.Intact`, `History.intact`). Deletion is where it could go wrong: the lines that contracts
refer to are accepted, and a request with an accepted line is not deleted.
-/

import LoanDesk.Proofs.Desk.Cancelled

namespace LoanDesk
namespace Rows

/-- Sheets belong to requests that are there, and every offer has a line. -/
structure Furnished (rows : Rows) : Prop where
  sheet : ∀ i s, rows.sheets.get? i = some s → ∃ r, rows.requests.get? s.request = some r
  offer : ∀ i o, rows.offers.get? i = some o → ∃ j l, rows.lines.get? j = some l ∧ l.offer = i

namespace Furnished

variable {rows : Rows}

/-- The empty rows are furnished. -/
theorem empty : Furnished Rows.empty where
  sheet i s h := by simp [Rows.empty] at h
  offer i o h := by simp [Rows.empty] at h

/-- Requests, offers, lines and sheets are the same. -/
theorem of_eq {rows' : Rows} (h : Furnished rows) (hr : rows'.requests = rows.requests)
    (ho : rows'.offers = rows.offers) (hl : rows'.lines = rows.lines)
    (hs : rows'.sheets = rows.sheets) : Furnished rows' :=
  ⟨by rw [hs, hr]; exact h.sheet, by rw [ho, hl]; exact h.offer⟩

/-- Sheets and offers stay with their requests when these change. -/
theorem setRequests (h : Furnished rows) (p : Request → Bool) (status : RequestStatus)
    (now : Instant) : Furnished (rows.setRequests p status now) where
  sheet i s hs := by
    obtain ⟨r, hr⟩ := h.sheet i s hs
    exact ⟨_, Table.get?_map_eq_some.2 ⟨r, hr, rfl⟩⟩
  offer := h.offer

/-- Lines may change as long as they stay with their offer. -/
theorem mapLines (h : Furnished rows) {f : Line → Line} (hf : ∀ l, (f l).offer = l.offer) :
    Furnished { rows with lines := rows.lines.map f } where
  sheet := h.sheet
  offer i o ho := by
    obtain ⟨j, l, hl, hlo⟩ := h.offer i o ho
    exact ⟨j, f l, Table.get?_map_eq_some.2 ⟨l, hl, rfl⟩, (hf l).trans hlo⟩

/-- Offers keep their lines when these change. -/
theorem setLines (h : Furnished rows) (p : Line → Bool) (status : LineStatus) (now : Instant) :
    Furnished (rows.setLines p status now) := h.mapLines fun l => by split <;> rfl

/-- Offers keep their lines when these are cancelled. -/
theorem cancel (h : Furnished rows) (p : Line → Bool) (by_ : String) (reason : CancelReason)
    (now : Instant) : Furnished (rows.cancel p by_ reason now) :=
  h.mapLines fun l => by split <;> rfl

/-- Sheets and offers keep what they belong to when a line is taken. -/
theorem take (h : Furnished rows) (x : Desk.Held) (status : LineStatus) (by_ : String)
    (now : Instant) : Furnished (rows.take x status by_ now) :=
  (((h.setLines _ _ _).cancel _ _ _ _).cancel _ _ _ _).setRequests _ _ _

/-- Signing keeps all lines. -/
theorem sign (h : Furnished rows) (k : Contract) (now : Instant) : Furnished (rows.sign k now) :=
  (show Furnished (rows.putContract k) from h.of_eq rfl rfl rfl rfl).mapLines fun l => by
    split <;> rfl

/-- A new request comes without sheets and offers. -/
theorem putRequest (h : Furnished rows) (r : Request) : Furnished (rows.putRequest r) where
  sheet i s hs := by
    obtain ⟨r', hr'⟩ := h.sheet i s hs
    by_cases he : r.id = s.request
    · exact ⟨r, Table.get?_insert_eq_some.2 (Or.inl ⟨he, rfl⟩)⟩
    · exact ⟨r', Table.get?_insert_eq_some.2 (Or.inr ⟨he, hr'⟩)⟩
  offer := h.offer

/-- A new sheet belongs to a request that is there. -/
theorem putSheet (h : Furnished rows) {s : Sheet} (hs : ∃ r, rows.requests.get? s.request = some r) :
    Furnished (rows.putSheet s) where
  sheet i s' hs' := by
    rcases Table.get?_insert_eq_some.1 hs' with ⟨-, rfl⟩ | ⟨-, hs'⟩
    · exact hs
    · exact h.sheet i s' hs'
  offer := h.offer

/-- An offer is stored together with its lines, of which there are some. -/
theorem putOffer (h : Furnished rows) {last : Int} (hu : rows.lines.Upto last) {o : Offer}
    {ls : List Line} (hne : ls ≠ []) (hlo : ∀ l ∈ ls, l.offer = o.id) (hid : ∀ l ∈ ls, last < l.id) :
    Furnished (ls.foldl Rows.putLine (rows.putOffer o)) := by
  rw [Store.foldl_putLine]
  refine ⟨h.sheet, fun i o' ho' => ?_⟩
  rcases Table.get?_insert_eq_some.1 ho' with ⟨rfl, -⟩ | ⟨-, ho'⟩
  · obtain ⟨l, hmem, hl⟩ : ∃ l ∈ ls, (ls.foldl (fun t l => t.insert l.id l) rows.lines).get? l.id =
      some l := Table.exists_get?_foldl_insert hne rows.lines
    exact ⟨l.id, l, hl, hlo l hmem⟩
  · obtain ⟨j, l, hl, hl'⟩ := h.offer i o' ho'
    refine ⟨j, l, ?_, hl'⟩
    change (ls.foldl (fun t l => t.insert l.id l) rows.lines).get? j = some l
    rw [Table.get?_foldl_insert_of_notMem ls rows.lines fun m hm he => ?_]
    · exact hl
    · exact absurd (hu j l hl) (Int.not_le.2 (he ▸ hid m hm))

/-- A request goes, and with its offers go their lines and no others. -/
theorem removeRequest (h : Furnished rows) (hk : rows.requests.Keyed Request.id)
    (hline : ∀ i l, rows.lines.get? i = some l →
      ∃ o, rows.offers.get? l.offer = some o ∧ o.request = l.request) (id : Int) :
    Furnished (rows.removeRequest id) where
  sheet i s hs := by
    obtain ⟨hs, hne⟩ := Table.get?_filter_eq_some.1 hs
    obtain ⟨r, hr⟩ := h.sheet i s hs
    exact ⟨r, Table.get?_filter_eq_some.2 ⟨hr, by rw [hk _ r hr]; exact hne⟩⟩
  offer i o ho := by
    obtain ⟨ho, hne⟩ := Table.get?_filter_eq_some.1 ho
    obtain ⟨j, l, hl, rfl⟩ := h.offer i o ho
    obtain ⟨o', ho', hreq⟩ := hline j l hl
    obtain rfl : o' = o := Option.some.inj (ho'.symm.trans ho)
    exact ⟨j, l, Table.get?_filter_eq_some.2 ⟨hl, by rw [← hreq]; exact hne⟩, rfl⟩

end Furnished
end Rows

/-- The lines of a batch are all of its offer. -/
theorem LineDraft.offer_of_mem_toLines {offer request : Int} {now : Instant} (ds : List LineDraft)
    (n : Int) : ∀ l ∈ toLines offer request now n ds, l.offer = offer := by
  intro l hl
  obtain ⟨d, -, id, -, rfl⟩ := of_mem_toLines ds n hl
  rfl

/-- An offer without lines is not proposed. -/
theorem Desk.lines_of_proposalFlaw? {c : Proposal} {now : Instant}
    (h : Desk.proposalFlaw? c now = none) : c.lines ≠ [] := by
  intro hnil
  rw [Desk.proposalFlaw?, hnil] at h
  cases h

/-- **Deeds leave no offer without lines and no sheet without its request.** -/
theorem Deed.furnished {t : Task} {b b' : Book} (hd : Deed t b b') (hb : b.Linked)
    (h : b.rows.Furnished) : b'.rows.Furnished := by
  cases hd with
  | openRequest hs hn hlast => exact h.putRequest _
  | deleteRequest hr hp hl hlast => exact h.removeRequest hb.keyed.requests hb.line _
  | @propose c caller now _ r sheet offer lines last hc hr hp hs ho hl hlast =>
    have hid := hb.keyed.requests _ _ hr
    rw [← hid] at hr
    refine (h.putSheet ⟨r, hr⟩).putOffer hb.lines (fun hnil => ?_)
      (LineDraft.offer_of_mem_toLines _ _) fun l hmem => ?_
    · have hlines := Desk.lines_of_proposalFlaw? hc
      cases hds : c.lines with
      | nil => exact hlines hds
      | cons d ds =>
        rw [hds] at hnil
        cases hnil
    · have hle := LineDraft.le_id_of_mem_toLines _ _ l hmem
      omega
  | confirm hh hc hp hm hk hn hlast => exact (h.take _ _ _ _).sign _ _
  | accept hh hs ho hx hp hm hlast => exact h.take _ _ _ _
  | createPackage hh hm hk hn hlast => exact (h.setLines _ _ _).sign _ _
  | setGuaranteeEnd hk hat hlast => exact h.of_eq rfl rfl rfl rfl
  | cancel hr hids hlast => exact h.cancel _ _ _ _
  | decline ho hr hs hlast => exact h.cancel _ _ _ _
  | withdraw hrs hlast => exact (h.cancel _ _ _ _).setRequests _ _ _
  | addCeiling hn hlast => exact h.of_eq rfl rfl rfl rfl
  | expire hlast => exact h.cancel _ _ _ _
  | declineBatch hrs hlast => exact (h.cancel _ _ _ _).setRequests _ _ _
  | record ht hn hlast => exact h.of_eq rfl rfl rfl rfl

/-! ### No reference dangles -/

/-- Every row that is referred to is there, a line and its offer belong to the same request, and
every offer has a line. -/
structure Rows.Intact (rows : Rows) : Prop where
  offer : ∀ i o, rows.offers.get? i = some o → ∃ r, rows.requests.get? o.request = some r
  sheet : ∀ i s, rows.sheets.get? i = some s → ∃ r, rows.requests.get? s.request = some r
  lined : ∀ i o, rows.offers.get? i = some o → ∃ j l, rows.lines.get? j = some l ∧ l.offer = i
  line : ∀ i l, rows.lines.get? i = some l →
    ∃ o, rows.offers.get? l.offer = some o ∧ o.request = l.request
  contract : ∀ n k, rows.contracts.get? n = some k →
    ∃ r l, rows.requests.get? k.request = some r ∧ rows.lines.get? k.line = some l

/-- Where a request is deleted, what contracts refer to belongs to other requests. -/
theorem Deed.spares_contracts {id : Int} {caller : Caller} {now : Instant} {b b' : Book}
    (hd : Deed (.operate (.deleteRequest id) caller now) b b') (hb : b.Linked)
    (hp : b.rows.Paired fun _ => False) {n : Int} {k : Contract}
    (hk : b.rows.contracts.get? n = some k) :
    k.request ≠ id ∧ ∃ l, b.rows.lines.get? k.line = some l ∧ l.request ≠ id := by
  obtain ⟨-, l, r, hl, hs, -, hr, hof⟩ := hp.signed n k hk
  have hid : l.request = k.request := by rw [hof.request, hb.keyed.requests _ r hr]
  cases hd with
  | @deleteRequest _ _ _ r₀ _ _ _ hfree _ =>
    have hne : l.request ≠ r₀.id := by
      intro he
      have ha := hfree l (Table.mem_values.2 ⟨_, hl⟩) he
      rw [hs] at ha
      cases ha
    exact ⟨hid ▸ hne, l, hl, hne⟩
  | record ht => exact ht.elim

/-- **References are intact in every world of a history**, and a deletion that succeeds keeps to its
request: the request was there, with it go its own offers, lines and sheets and nothing else, and
among these is no row that a contract refers to. That is so beside others who are at work in the
store, and whatever operations of the store fail. -/
theorem History.intact {w : World} {ws : List World} (h : History (w :: ws)) :
    w.store.rows.Intact ∧ ∀ (s : Session) (id : Int), s.store = w.store →
      (Session.run (Desk.deleteRequest id).run s).1 = .ok () →
      let rows := (Session.run (Desk.deleteRequest id).run s).2.store.rows
      (∃ r, w.store.rows.requests.get? id = some r) ∧ rows = w.store.rows.removeRequest id ∧
        ∀ n k, w.store.rows.contracts.get? n = some k →
          rows.requests.get? k.request = w.store.rows.requests.get? k.request ∧
            rows.lines.get? k.line = w.store.rows.lines.get? k.line := by
  obtain ⟨hfit, -, hpaired⟩ := h.sound
  have hlinked := hfit.part.stored
  have hfurnished : w.store.rows.Furnished := h.invariant .empty Deed.furnished
  have hcontract : ∀ n k, w.store.rows.contracts.get? n = some k → ∃ r l,
      w.store.rows.requests.get? k.request = some r ∧ r.id = k.request ∧
        w.store.rows.lines.get? k.line = some l := by
    intro n k hk
    obtain ⟨-, l, r, hl, -, -, hr, hof⟩ := hpaired.signed n k hk
    rw [← hlinked.keyed.requests _ r hr, ← hof.request] at hr
    exact ⟨r, l, hr, hof.request.symm, hl⟩
  refine ⟨⟨hlinked.offer, hfurnished.sheet, hfurnished.offer, hlinked.line, fun n k hk => ?_⟩, ?_⟩
  · obtain ⟨r, l, hr, -, hl⟩ := hcontract n k hk
    exact ⟨r, l, hr, hl⟩
  intro s id hs hok
  have hruns := Program.runs_run (Desk.deleteRequest id).run s
  rw [hok, hs] at hruns
  have hcommits : Program.Commits (fun _ => Deed (.operate (.deleteRequest id) (.of (.admin "desk"))
      .epoch)) (Desk.deleteRequest id) := Desk.commits_deleteRequest id
  obtain ⟨-, last, hd⟩ := hcommits.runs hruns hlinked.keyed
  have hspares := fun n k => hd.spares_contracts hlinked hpaired (n := n) (k := k)
  generalize (Session.run (Desk.deleteRequest id).run s).2.store.rows = rows at hd ⊢
  cases hd with
  | deleteRequest hr hp hl hlast =>
    refine ⟨⟨_, hr⟩, rfl, fun n k hk => ?_⟩
    obtain ⟨hreq, l, hl, hline⟩ := hspares n k hk
    obtain ⟨r', -, hr', hid, -⟩ := hcontract n k hk
    exact ⟨(Table.get?_filter_eq_some.2 ⟨hr', by simpa [hid] using hreq⟩).trans hr'.symm,
      (Table.get?_filter_eq_some.2 ⟨hl, by simpa using hline⟩).trans hl.symm⟩
  | record ht => exact ht.elim

namespace Story

/-- Request 7 is opened and offer 9 made for it, after request 1 has come to its contract. -/
def reopened : List Task :=
  .operate (.propose ⟨7, .online, none, .null, [line 12]⟩) caller now :: opened :: told

/-- Request 7 is deleted with its line, and contract 6 keeps its request and its line. -/
theorem intact_reopened :
    let before := (World.played reopened).1
    let after := (Session.run (Desk.deleteRequest 7).run ⟨before, .empty true, []⟩).2.store
    before.rows.Intact ∧ (before.rows.lines.get? 10).map (·.request) = some 7 ∧
      after.rows = before.rows.removeRequest 7 ∧
      ∃ k, before.rows.contracts.get? 6 = some k ∧ k.line = 4 ∧
        after.rows.lines.get? k.line = before.rows.lines.get? k.line := by
  have hdone : (Session.run (Desk.deleteRequest 7).run
      ⟨(World.played reopened).1, .empty true, []⟩).1.isOk := by decide +kernel
  have hk : ((World.played reopened).1.rows.contracts.get? 6).isSome := by decide +kernel
  obtain ⟨hintact, hdelete⟩ := History.intact (World.history_played reopened)
  cases hok : (Session.run (Desk.deleteRequest 7).run
      ⟨(World.played reopened).1, .empty true, []⟩).1 with
  | error e =>
    rw [hok] at hdone
    cases hdone
  | ok _ =>
    obtain ⟨-, hrows, hspares⟩ := hdelete _ 7 rfl hok
    exact ⟨hintact, by decide +kernel, hrows, Option.get _ hk, by simp, by decide +kernel +revert,
      (hspares 6 _ (by simp)).2⟩

end Story
end LoanDesk
