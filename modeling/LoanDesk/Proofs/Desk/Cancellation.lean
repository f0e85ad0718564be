/-
# What a cancellation changes and tells

An administrator names loans of a request, in any order and perhaps more than once, and the open
lines with these loans are cancelled. They are gathered loan by loan, and cancelled by number, so it
does not matter to the rows if a line is gathered again (`Cancels.stored_eq`).

It does matter to what is told: the lines are listed as they were gathered. A line is in the list
just when it was cancelled, but as often as its loan was named (`Cancels.count_listed`), and only
where no loan is named twice is each line listed once (`History.cancels_exactly`). The standing that
is told is the one that an overview gives afterwards, and the investor hears of it when nothing of
the request is left open.
-/

import LoanDesk.Proofs.Race.Verdicts
import Mathlib.Data.List.Nodup

namespace LoanDesk

/-- The reason that a cancellation gives for its lines. -/
def Cancellation.reason (c : Cancellation) : CancelReason := if c.forInvestor then .investor else .admin

/-- The line is an open one of the request, with one of the loans that are named. -/
def Cancellation.Covers (c : Cancellation) (l : Line) : Prop :=
  l.isPending ∧ l.request = c.request ∧ l.loan ∈ c.loans

instance (c : Cancellation) : DecidablePred c.Covers := fun l =>
  inferInstanceAs (Decidable (l.isPending ∧ l.request = c.request ∧ l.loan ∈ c.loans))

namespace Rows

variable {rows : Rows} {ids : List Int} {i : Int} {l : Line}

/-- The lines of several requests are the stored lines of each of them. -/
theorem mem_linesOfAll : l ∈ rows.linesOfAll ids ↔
    (∃ i, rows.lines.get? i = some l) ∧ l.request ∈ ids := by
  rw [linesOfAll, mem_newestFirst, List.mem_filter, Table.mem_values, List.contains_iff_mem]

/-- No line is looked up twice. -/
theorem nodup_linesOfAll (hk : rows.lines.Keyed Line.id) :
    ((rows.linesOfAll ids).map (·.id)).Nodup :=
  ((List.mergeSort_perm _ _).map _).nodup_iff.2 (hk.nodup_keys List.filter_sublist)

/-- The lines that a cancellation is for are cancelled. -/
def cancelCovered (rows : Rows) (c : Cancellation) (by_ : String) (now : Instant) : Rows :=
  { rows with
    lines := rows.lines.map fun l => if c.Covers l then l.cancelled by_ c.reason now else l }

end Rows

namespace Desk

variable {rows rows' : Rows} {request i : Int} {l : Line}

/-- An open line of the request is found once with its loan, and not with others. -/
theorem count_openWith (hk : rows.Keyed) (hl : rows.lines.get? i = some l) (hp : l.isPending)
    (hr : l.request = request) (loan : Int) :
    ((openWith (rows.linesOfAll [request]) loan).map (·.id)).count i =
      if l.loan = loan then 1 else 0 := by
  have hid : l.id = i := hk.lines _ _ hl
  split
  · rename_i hloan
    refine List.count_eq_one_of_mem
      ((Rows.nodup_linesOfAll hk.lines).sublist (List.filter_sublist.map _)) ?_
    exact List.mem_map.2 ⟨l, mem_openWith.2
      ⟨Rows.mem_linesOfAll.2 ⟨⟨i, hl⟩, List.mem_singleton.2 hr⟩, hp, hloan⟩, hid⟩
  · rename_i hloan
    refine List.count_eq_zero.2 fun hmem => hloan ?_
    obtain ⟨m, hm, hmid⟩ := List.mem_map.1 hmem
    obtain ⟨hm, -, hmloan⟩ := mem_openWith.1 hm
    obtain ⟨⟨j, hj⟩, -⟩ := Rows.mem_linesOfAll.1 hm
    rw [← hk.lines.eq_of_key hj hl (hmid.trans hid.symm), hmloan]

/-- A line is gathered as often as its loan is named. -/
theorem count_gathered (hk : rows.Keyed) (hl : rows.lines.get? i = some l) (hp : l.isPending)
    (hr : l.request = request) : ∀ loans : List Int,
      ((loans.flatMap (openWith (rows.linesOfAll [request]))).map (·.id)).count i =
        loans.count l.loan
  | [] => rfl
  | loan :: loans => by
    rw [List.flatMap_cons, List.map_append, List.count_append, count_openWith hk hl hp hr,
      count_gathered hk hl hp hr loans, List.count_cons, Nat.add_comm]
    exact congrArg _ (if_congr (eq_comm.trans beq_iff_eq.symm) rfl rfl)

namespace Cancels

variable {c : Cancellation} {by_ : String} {now : Instant} {r : Request} {ids : List Int}
  {standing : Standing}

/-- The lines that are listed are those that the cancellation is for. -/
theorem mem_listed (h : Cancels c by_ now r ids standing rows rows') (hk : rows.Keyed) :
    i ∈ ids ↔ ∃ l, rows.lines.get? i = some l ∧ c.Covers l := by
  have hrid : r.id = c.request := hk.requests _ _ h.request
  rw [h.listed, hrid]
  simp only [List.mem_map, List.mem_flatMap, mem_openWith, Rows.mem_linesOfAll,
    List.mem_singleton]
  constructor
  · rintro ⟨l, ⟨loan, hloan, ⟨⟨j, hj⟩, hreq⟩, hp, rfl⟩, rfl⟩
    rw [hk.lines _ _ hj]
    exact ⟨l, hj, hp, hreq, hloan⟩
  · rintro ⟨l, hl, hp, hreq, hloan⟩
    exact ⟨l, ⟨l.loan, hloan, ⟨⟨i, hl⟩, hreq⟩, hp, rfl⟩, hk.lines _ _ hl⟩

/-- A cancelled line is listed once for every time that its loan is named. -/
theorem count_listed (h : Cancels c by_ now r ids standing rows rows') (hk : rows.Keyed)
    (hl : rows.lines.get? i = some l) (hc : c.Covers l) : ids.count i = c.loans.count l.loan := by
  have hrid : r.id = c.request := hk.requests _ _ h.request
  rw [h.listed, hrid]
  exact count_gathered hk hl hc.1 hc.2.1 c.loans

/-- Each line is listed once where no loan is named twice. -/
theorem nodup_listed (h : Cancels c by_ now r ids standing rows rows') (hk : rows.Keyed)
    (hloans : c.loans.Nodup) : ids.Nodup := by
  refine List.nodup_iff_count_le_one.2 fun i => ?_
  by_cases hi : i ∈ ids
  · obtain ⟨l, hl, hc⟩ := (h.mem_listed hk).1 hi
    rw [h.count_listed hk hl hc]
    exact List.nodup_iff_count_le_one.1 hloans l.loan
  · rw [List.count_eq_zero_of_not_mem hi]
    exact Nat.zero_le 1

/-- Every loan that is named has a line that the cancellation covers. -/
theorem exists_covered (h : Cancels c by_ now r ids standing rows rows') (hk : rows.Keyed) :
    ∀ loan ∈ c.loans, ∃ i l, rows.lines.get? i = some l ∧ c.Covers l ∧ l.loan = loan := by
  intro loan hloan
  obtain ⟨l, hl⟩ := List.exists_mem_of_ne_nil _ (h.found loan hloan)
  obtain ⟨hmem, hp, rfl⟩ := mem_openWith.1 hl
  obtain ⟨⟨i, hi⟩, hreq⟩ := Rows.mem_linesOfAll.1 hmem
  have hrid : r.id = c.request := hk.requests _ _ h.request
  exact ⟨i, l, hi, ⟨hp, (List.mem_singleton.1 hreq).trans hrid, hloan⟩, rfl⟩

/-- Lines are cancelled by number, and so each of them once. -/
theorem stored_eq (h : Cancels c by_ now r ids standing rows rows') (hk : rows.Keyed) :
    rows' = rows.cancelCovered c by_ now := by
  rw [h.stored]
  refine congrArg (fun t => { rows with lines := t }) (Table.map_congr fun i l hl => ?_)
  refine if_congr ?_ rfl rfl
  rw [Bool.and_eq_true, List.contains_iff_mem, hk.lines _ _ hl, h.mem_listed hk]
  constructor
  · rintro ⟨-, m, hm, hc⟩
    rw [hl] at hm
    rw [Option.some.inj hm]
    exact hc
  · exact fun hc => ⟨hc.1, l, hl, hc⟩

/-- The standing is the one that the rows give afterwards. -/
theorem overview (h : Cancels c by_ now r ids standing rows rows') (hk : rows.Keyed) :
    (rows'.overview? c.request).map (fun o => (o.request, o.standing)) = some (r, standing) := by
  have hrequest : rows'.requests.get? c.request = some r := by
    rw [h.stored]
    exact h.request
  rw [Rows.overview?, hrequest, h.stands, hk.requests _ _ h.request]
  rfl

end Cancels

open Program in
/-- What is told of a cancellation is what its change has given, and the investor hears of it where
nothing is left open. -/
theorem telling_cancelled (c : Cancellation) (x : Request × List Int × Standing) :
    Telling (fun es a => (a.standing = x.2.2 ∧ a.request = x.1.id ∧ a.cancelled = x.2.1 ∧
        a.status = x.1.status) ∧
          es = if x.2.2.isCancelled then [.requestDeclined (.of x.1) c.reason] else [])
      (do
        let undelivered ← if x.2.2.isCancelled then
            deliver (.requestDeclined (.of x.1) (if c.forInvestor then .investor else .admin))
          else pure none
        return ⟨x.1.id, x.2.1, x.1.status, x.2.2, undelivered⟩ : Action CancelOutcome) := by
  by_cases hcancelled : x.2.2.isCancelled
  · rw [if_pos hcancelled, if_pos hcancelled]
    exact telling_tell _ fun _ => ⟨⟨rfl, rfl, rfl, rfl⟩, rfl⟩
  · rw [if_neg hcancelled, if_neg hcancelled]
    exact telling_pure ⟨⟨rfl, rfl, rfl, rfl⟩, rfl⟩

end Desk

/-- What an administrator is told of a cancellation, beside the rows before and after: the open lines
of the request with the loans were cancelled, there was one with each, and they are listed, each as
often as its loan was named. -/
structure CancelOutcome.Reports (a : CancelOutcome) (c : Cancellation) (r : Request) (by_ : String)
    (now : Instant) (rows rows' : Rows) : Prop where
  found : rows.requests.get? c.request = some r
  request : a.request = r.id
  status : a.status = r.status
  stored : rows' = rows.cancelCovered c by_ now
  loans : ∀ loan ∈ c.loans, ∃ i l, rows.lines.get? i = some l ∧ c.Covers l ∧ l.loan = loan
  listed : ∀ i, i ∈ a.cancelled ↔ ∃ l, rows.lines.get? i = some l ∧ c.Covers l
  count : ∀ i l, rows.lines.get? i = some l → c.Covers l →
    a.cancelled.count i = c.loans.count l.loan
  nodup : c.loans.Nodup → a.cancelled.Nodup

open Program in
/-- **A cancellation changes just what it has to**, in every world of a history and whatever rows
others hold. When an administrator cancels lines of a request, the open ones with the loans that are
named are cancelled, in the name of the caller and for the reason that the cancellation gives, and no
other row is touched; there is such a line with each of the loans. The lines are listed, and one
whose loan is named several times is listed as often. The standing that is given is what an overview
gives next, and the investor is told if and only if nothing of the request is left open. -/
theorem History.cancels_exactly {w : World} {ws : List World} (h : History (w :: ws)) {s : Session}
    (hs : s.store = w.store) (c : Cancellation) (caller : Caller) (now : Instant) {a : CancelOutcome}
    (ha : (Session.run (Desk.cancel c caller now).run s).1 = .ok a) :
    ∃ r, a.Reports c r caller.name now w.store.rows
        (Session.run (Desk.cancel c caller now).run s).2.store.rows ∧
      (∀ t : Session, t.store = (Session.run (Desk.cancel c caller now).run s).2.store →
        t.faults = [] → ∃ o, (Session.run (Desk.overview c.request).run t).1 = .ok o ∧
          o.request = r ∧ o.standing = a.standing) ∧
      dispatched (Desk.cancel c caller now).run s =
        if a.standing.isCancelled then [.requestDeclined (.of r) c.reason] else [] := by
  have hk : s.store.rows.Keyed := by
    rw [hs]
    exact h.sound.1.part.stored.keyed
  rw [← hs]
  have hloans : c.loans ≠ [] := by
    intro hnil
    rw [Desk.cancel, hnil] at ha
    cases ha
  obtain ⟨m, hm, he⟩ := Desk.cancel_eq hloans caller now
  have hruns := runs_run (Desk.cancel c caller now).run s
  rw [ha] at hruns
  generalize (Session.run (Desk.cancel c caller now).run s).2 = t at hruns ⊢
  generalize dispatched (Desk.cancel c caller now).run s = es at hruns ⊢
  rw [he] at hruns
  obtain ⟨⟨r, ids, standing⟩, last, ⟨-, hx, -, -⟩, htold⟩ :=
    hm.told (fun _ => Desk.telling_cancelled c _) hruns hk
  obtain ⟨⟨hstanding, hrequest, hlisted, hstatus⟩, hes⟩ := htold
  dsimp only at hx hstanding hrequest hlisted hstatus hes
  refine ⟨r, ⟨hx.request, hrequest, hstatus, hx.stored_eq hk, hx.exists_covered hk,
    fun i => ?_, fun i l hl hc => ?_, fun hnodup => ?_⟩, fun u hu hf => ?_, ?_⟩
  · rw [hlisted]
    exact hx.mem_listed hk
  · rw [hlisted]
    exact hx.count_listed hk hl hc
  · rw [hlisted]
    exact hx.nodup_listed hk hnodup
  · obtain ⟨store, mailbox, faults⟩ := u
    subst hu hf
    obtain ⟨o, ho, hboth⟩ := Option.map_eq_some_iff.1 (hx.overview hk)
    refine ⟨o, ?_, congrArg Prod.fst hboth, (congrArg Prod.snd hboth).trans hstanding.symm⟩
    rw [Session.run_overview?, ho]
    rfl
  · rw [hstanding]
    exact hes

namespace Story

/-- An administrator names the loan of line 4 twice. -/
def twice : Cancellation := ⟨1, [10, 10], false⟩

/-- Two lines are open, and nobody is at work. -/
def pair : Session := ⟨(World.played [proposed, opened]).1, .empty true, []⟩

/-- Line 4 is cancelled and line 5 is not, but line 4 is listed twice. -/
theorem cancels_exactly_twice :
    ∃ a r, (Session.run (Desk.cancel twice caller now).run pair).1 = .ok a ∧
      a.Reports twice r caller.name now pair.store.rows
        (Session.run (Desk.cancel twice caller now).run pair).2.store.rows ∧
      a.cancelled.count 4 = 2 ∧ 5 ∉ a.cancelled := by
  have h := World.history_played [proposed, opened]
  have hrests := h.rests (Table.eq_empty (by decide +kernel))
  have hr : (pair.store.rows.requests.get? 1).isSome := by decide +kernel
  have h₄ : ∃ l, pair.store.rows.lines.get? 4 = some l ∧ l.isPending ∧ l.request = 1 ∧
      l.loan = 10 := by
    have hl : (pair.store.rows.lines.get? 4).isSome := by decide +kernel
    exact ⟨_, (Option.some_get hl).symm, by decide +kernel +revert⟩
  have h₅ : (pair.store.rows.lines.get? 5).map (·.loan) = some 11 := by decide +kernel
  obtain ⟨l, hl, hp, hreq, hloan⟩ := h₄
  have hcovers : twice.Covers l := ⟨hp, hreq, by rw [hloan]; decide⟩
  have hrun := (Session.run_alone (Desk.cancel twice caller now).run pair rfl
    (Desk.alone_cancel hrests.tended hrests.still (Option.some_get hr).symm (by decide)
      fun loan hmem => ⟨4, l, hl, hreq, by simp_all [twice], hp⟩)).1
  cases he : (Session.run (Desk.cancel twice caller now).run pair).1 with
  | error e =>
    rw [he] at hrun
    exact hrun.elim
  | ok a =>
    obtain ⟨r, ha, -⟩ := History.cancels_exactly h (s := pair) rfl twice caller now he
    refine ⟨a, r, rfl, ha, ?_, fun hmem => ?_⟩
    · rw [ha.count 4 l hl hcovers, hloan]
      rfl
    · obtain ⟨m, hm, -, -, hmloan⟩ := (ha.listed 5).1 hmem
      rw [show pair.store.rows.lines.get? 5 = some m from hm] at h₅
      rw [show m.loan = 11 from Option.some.inj h₅] at hmloan
      exact absurd hmloan (by decide)

end Story
end LoanDesk
