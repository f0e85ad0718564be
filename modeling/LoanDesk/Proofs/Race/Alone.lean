/-
# A task by itself

Where nobody else is at work and no row is locked, a task makes its stroke if it can
(`Stroke.alone`). Here is what each of the tasks that cancel lines needs for that of the rows, and
what it leaves; what the tasks that accept a line leave is in `Race.Alone.Accepting`.
-/

import LoanDesk.Proofs.Race.Alone.Accepting

namespace LoanDesk

namespace Desk

open Program

/-! ### Cancelling -/

section Cancel

variable {s : Store} {caller : Caller} {now : Instant}

/-- A deletion removes the request with all that refers to it. -/
theorem alone_deleteRequest {r : Request} (hq : s.Still)
    (hr : s.rows.requests.get? r.id = some r) (hp : r.isPending)
    (hl : ∀ i l, s.rows.lines.get? i = some l → l.request = r.id → l.status.isAccepted = false) :
    Alone (fun _ t => t.rows = s.rows.removeRequest r.id ∧ t.Still)
      (deleteRequest r.id) s := by
  refine alone_bracket (Q := fun _ rows => rows = s.rows.removeRequest r.id) hq fun tx t ht => ?_
  refine Alone.ask ht (Book.lockRequest_eq_ok.2 ⟨hr, rfl, rfl⟩) fun t ht => ?_
  refine brings_ensure_ok (ensurePending_of_isPending hp) ?_
  refine Alone.ask ht (Book.linesOfRequests_eq_ok.2 ⟨rfl, rfl⟩) fun t ht => ?_
  split
  · rename_i l hfound
    have hmem := List.mem_of_find?_eq_some hfound
    rw [mem_newestFirst, List.mem_filter, Table.mem_values] at hmem
    obtain ⟨⟨i, hget⟩, hreq⟩ := hmem
    have haccepted : l.status.isAccepted := by simpa using List.find?_some hfound
    rw [hl i l hget (by simpa using hreq)] at haccepted
    cases haccepted
  · refine Brings.mono (fun _ u hu => ⟨_, hu.2, rfl⟩) (fun _ _ h => h) (Alone.call ht
      ((Book.deleteRequest_eq_ok (u := ())).2 ⟨⟨r, hr⟩, rfl, fun _ _ _ => rfl, rfl⟩))

/-- The flow of an offer, where it is there once. -/
theorem flowOf_of_mem {offers : List Offer} {o : Offer} (ho : o ∈ offers)
    (hu : ∀ x ∈ offers, x.id = o.id → x = o) : flowOf offers o.id = o.flow := by
  unfold flowOf
  cases hfind : offers.reverse.find? (·.id == o.id) with
  | none => exact absurd (List.find?_eq_none.1 hfind o (List.mem_reverse.2 ho)) (by simp)
  | some x =>
    have hx := hu x (List.mem_reverse.1 (List.mem_of_find?_eq_some hfind))
      (by simpa using List.find?_some hfind)
    rw [hx]

/-- The offers of a request are of no unspecified flow. -/
theorem flowOf_offers {rows : Rows} (h : rows.desk.Tended) {i : Int} {l : Line}
    (hl : rows.lines.get? i = some l) : flowOf (newestFirst (fun o => (o.createdAt, o.id))
      (rows.offers.values.filter (·.request == l.request))) l.offer ≠ .unspecified := by
  obtain ⟨o, ho, hreq⟩ := h.line i l hl
  have hid : o.id = l.offer := h.keyed.offers _ o ho
  rw [← hid, flowOf_of_mem (o := o)]
  · exact h.flow _ o ho
  · rw [mem_newestFirst, List.mem_filter]
    exact ⟨Table.mem_values.2 ⟨_, ho⟩, by simpa using hreq⟩
  · intro x hx hxid
    rw [mem_newestFirst, List.mem_filter] at hx
    have hget := h.keyed.offers.mem_values.1 hx.1
    rw [hxid, hid, ho] at hget
    exact (Option.some.inj hget).symm

/-- The lines of offers are locked, if every offer has some. -/
theorem alone_lockOffers {tx : TxId} {b : Book} : ∀ (offers : List Int) {s : Store}, Solo tx b s →
    (∀ o ∈ offers, ∃ i l, b.rows.lines.get? i = some l ∧ l.offer = o) →
      Alone (fun _ t => Solo tx b t) (lockOffers tx offers) s
  | [], _, hs, _ => alone_pure hs
  | o :: os, _, hs, h => by
    obtain ⟨i, l, hl, hlo⟩ := h o List.mem_cons_self
    have hmem : l ∈ b.rows.lines.values.filter (·.offer == o) :=
      List.mem_filter.2 ⟨Table.mem_values.2 ⟨i, hl⟩, by simpa using hlo⟩
    refine Alone.ask hs (Book.lockLinesOfOffer_eq_ok.2
      ⟨rfl, List.ne_nil_of_mem hmem, fun _ _ => rfl, rfl⟩) fun t ht => ?_
    refine alone_lockOffers os ht fun o ho => ?_
    exact h o (List.mem_cons_of_mem _ ho)

/-- A cancellation cancels the open lines of the request with the loans. -/
theorem alone_cancel {c : Cancellation} {r : Request} (h : s.rows.desk.Tended) (hq : s.Still)
    (hr : s.rows.requests.get? c.request = some r) (hc : c.loans ≠ [])
    (hl : ∀ loan ∈ c.loans, ∃ i l, s.rows.lines.get? i = some l ∧ l.request = c.request ∧
      l.loan = loan ∧ l.isPending) :
    Alone (fun _ t => t.rows = s.rows.cancel
      (fun l => l.request == c.request && c.loans.contains l.loan) caller.name
        (if c.forInvestor then .investor else .admin) now ∧ t.Still)
      (cancel c caller now) s := by
  have hrid : r.id = c.request := hq.keyed.requests _ _ hr
  unfold cancel
  have hempty : ¬c.loans.isEmpty = true := by simpa using hc
  rw [if_neg hempty, ensureSound_none_bind]
  refine Brings.bind (alone_bracket (Q := fun _ rows => rows = s.rows.cancel
    (fun l => l.request == c.request && c.loans.contains l.loan) caller.name
      (if c.forInvestor then .investor else .admin) now) hq fun tx t ht => ?_)
    fun ⟨r', ids, standing⟩ t ht => ?_
  · refine Alone.ask ht (Book.lockRequest_eq_ok.2 ⟨hr, rfl, rfl⟩) fun t ht => ?_
    refine Alone.ask ht (Book.offersOfRequest_eq_ok.2 ⟨rfl, rfl⟩) fun t ht => ?_
    refine Alone.ask ht (Book.linesOfRequests_eq_ok.2 ⟨rfl, rfl⟩) fun t ht => ?_
    have hlines : ∀ l, l ∈ newestFirst (fun l => (l.createdAt, l.id))
        (s.rows.lines.values.filter fun l => [r.id].contains l.request) ↔
          ∃ i, s.rows.lines.get? i = some l ∧ l.request = c.request := by
      intro l
      rw [mem_newestFirst, List.mem_filter, Table.mem_values, ← hrid]
      simp
    rcases targets_cases
        (newestFirst (fun o => (o.createdAt, o.id))
          (s.rows.offers.values.filter (·.request == r.id)))
        (newestFirst (fun l => (l.createdAt, l.id))
          (s.rows.lines.values.filter fun l => [r.id].contains l.request)) c.loans with
      ⟨ts, hts, htargets, -⟩ | ⟨x, -, ⟨loan, hloan, hnone⟩ | ⟨l, hmem, hp, hnot⟩⟩
    · dsimp only [Store.stored]
      rw [hts, pure_bind]
      refine Brings.bind (alone_lockOffers _ ht fun o ho => ?_) fun _ t ht => ?_
      · rw [List.mem_eraseDups, List.mem_mergeSort, List.mem_map] at ho
        obtain ⟨l, hl, rfl⟩ := ho
        obtain ⟨i, hget, -⟩ := (hlines l).1 ((htargets l).1 hl).1
        exact ⟨i, l, hget, rfl⟩
      refine Alone.ask ht (Book.cancelWhere_eq_ok.2 ⟨rfl, fun _ _ _ _ => rfl, rfl⟩) fun t ht => ?_
      refine Alone.ask ht (Book.linesOfRequests_eq_ok.2 ⟨rfl, rfl⟩) fun t ht =>
        alone_pure ⟨_, ht, ?_⟩
      exact Rows.cancel_congr _ (fun _ _ => contains_targets hq.keyed hlines htargets) _ _ _
    · obtain ⟨i, l, hget, hreq, hll, hp⟩ := hl loan hloan
      exact absurd hll (hnone l ((hlines l).2 ⟨i, hget, hreq⟩) hp)
    · obtain ⟨i, hget, hreq⟩ := (hlines l).1 hmem
      have hflow := flowOf_offers h hget
      rw [hreq, ← hrid] at hflow
      refine absurd ?_ hnot
      exact canMove_of_ensure (canMove_of_isPending hp hflow (by decide))
  · dsimp only
    by_cases hstanding : standing.isCancelled
    · rw [if_pos hstanding]
      exact alone_tell (Q := fun _ t => t.rows = _ ∧ t.Still) _ _ fun _ => ht
    · rw [if_neg hstanding]
      exact alone_pure (Q := fun _ t => t.rows = _ ∧ t.Still) ht

/-- Declining an offer cancels its open lines. -/
theorem alone_decline {o : Offer} {r : Request} {i : Int} {l : Line} (hq : s.Still)
    (ho : s.rows.offers.get? o.id = some o)
    (hr : s.rows.requests.get? o.request = some r)
    (hs : caller.actor.ensureScope r.investor = .ok ()) (hf : o.flow ≠ .unspecified)
    (hl : s.rows.lines.get? i = some l) (hlo : l.offer = o.id) (hp : l.isPending) :
    Alone (fun _ t => t.rows = s.rows.cancel (·.offer == o.id) caller.name .investor now ∧
      t.Still) (decline o.id caller now) s := by
  have hrequest := hr
  rw [← hq.keyed.requests _ _ hr] at hrequest
  refine alone_bracket (Q := fun _ rows =>
    rows = s.rows.cancel (·.offer == o.id) caller.name .investor now) hq fun tx t ht => ?_
  refine Alone.ask ht (Book.offerWithRequest_eq_ok (x := (o, r)).2 ⟨ho, hr, rfl⟩) fun t ht => ?_
  refine brings_ensure_ok hs ?_
  refine Alone.ask ht (Book.lockRequest_eq_ok.2 ⟨hrequest, rfl, rfl⟩) fun t ht => ?_
  have hmem : l ∈ s.rows.lines.values.filter (·.offer == o.id) :=
    List.mem_filter.2 ⟨Table.mem_values.2 ⟨i, hl⟩, by simpa using hlo⟩
  refine Alone.ask ht (Book.lockLinesOfOffer_eq_ok.2
    ⟨rfl, List.ne_nil_of_mem hmem, fun _ _ => rfl, rfl⟩) fun t ht => ?_
  split
  · rename_i m hfound
    have hpending : m.isPending := by simpa using List.find?_some hfound
    refine brings_ensure_ok (canMove_of_isPending hpending hf (by decide)) ?_
    refine Alone.ask ht (Book.cancelWhere_eq_ok.2 ⟨rfl, fun _ _ _ _ => rfl, rfl⟩) fun t ht => ?_
    exact Alone.ask ht (Book.linesOfRequests_eq_ok.2 ⟨rfl, rfl⟩) fun t ht => alone_pure ⟨_, ht, rfl⟩
  · rename_i hnone
    exact absurd hp (List.find?_eq_none.1 hnone l hmem)

end Cancel
end Desk

namespace Jobs

open Program

variable {s : Store} {actor : String} {now : Instant}

/-- Expiring cancels the lines that have lapsed. -/
theorem alone_expireLines (hq : s.Still) :
    Alone (fun _ t => t.rows = s.rows.cancel (s.rows.lapsed now) actor .expired now ∧
      t.Still) (expireLines actor now) s := by
  refine alone_bracket (Q := fun _ rows =>
    rows = s.rows.cancel (s.rows.lapsed now) actor .expired now) hq fun tx t ht => ?_
  refine Alone.ask ht (Book.expiredOffers_eq_ok.2 ⟨rfl, rfl⟩) fun t ht => ?_
  refine Alone.ask ht (Book.cancelWhere_eq_ok.2 ⟨rfl, fun _ _ _ _ => rfl, rfl⟩) fun t ht =>
    alone_pure ⟨_, ht, ?_⟩
  exact Rows.cancel_congr _ (fun _ _ => contains_expiredOffers hq.keyed (.refl _)) _ _ _

/-- A record changes none of the tables of the desk. -/
theorem alone_writeRecord (entry : JobEntry) (hq : s.Still) :
    Ensures Store.alone (fun _ t => t.rows.desk = s.rows.desk ∧ t.Still)
      (writeRecord entry now) s := by
  have hbracket : ∀ tx t, Solo tx s.stored t →
      Alone (fun _ u => ∃ b, Solo tx b u ∧ b.rows.desk = s.rows.desk)
        (ask tx (.createJob entry now)) t := by
    intro tx t ht
    exact Brings.mono (fun _ u hu => ⟨_, hu.2, rfl⟩) (fun _ _ h => h)
      (Alone.call ht (Book.createJob_eq_ok.2 ⟨rfl, rfl⟩))
  refine (alone_bracket (Q := fun _ rows => rows.desk = s.rows.desk) hq hbracket).after
    fun a t ht => ?_
  rintro u rfl
  exact ht

/-- So does a run that expires offers, whatever it records. -/
theorem alone_expire (hq : s.Still) :
    Ensures Store.alone (fun _ t => t.rows.desk =
      s.rows.desk.cancel (s.rows.desk.lapsed now) actor .expired now ∧ t.Still)
      (expire actor now) s := by
  refine (alone_expireLines hq).after fun a t ⟨hrows, hq⟩ => ?_
  have hdesk : t.rows.desk = s.rows.desk.cancel (s.rows.desk.lapsed now) actor .expired now := by
    rw [hrows]
    rfl
  dsimp only
  split
  · rintro u rfl
    exact ⟨hdesk, hq⟩
  · refine Ensures.bind (fun y u hu => ?_) (alone_writeRecord _ hq)
    rintro v rfl
    rw [← hdesk]
    exact hu v rfl

end Jobs

/-! ### Strokes -/

/-- The numbers that are given out grow. -/
theorem Session.lastId_run {α : Type} : ∀ (p : Program α) (s : Session), s.faults = [] →
    s.store.lastId ≤ (Session.run p s).2.store.lastId
  | .done _, _, _ => Int.le_refl _
  | .step c next, s, hf => by
    obtain ⟨hdoes, hfaults⟩ := s.handle_does hf c
    exact Int.le_trans (Store.May.lastId (Or.inl hdoes)) (lastId_run (next _) _ hfaults)

/-- No operation begins to fail. -/
theorem Session.faults_run {α : Type} : ∀ (p : Program α) (s : Session), s.faults = [] →
    (Session.run p s).2.faults = []
  | .done _, _, hf => hf
  | .step c next, s, hf => faults_run (next _) _ (s.handle_does hf c).2

/-- **Where a task can make its stroke it does so**, if it is by itself and no row is locked. -/
theorem Stroke.alone {last : Int} {t : Task} {s : Store} {rows' : Rows}
    (hd : Stroke last t s.rows.desk rows') (ht : s.rows.desk.Tended) (hq : s.Still) :
    Program.Ensures Store.alone (fun _ u => Stroke s.lastId t s.rows.desk u.rows.desk ∧ u.Still)
      t.program s := by
  -- what an operation leaves is there when its answer is thrown away
  have hdone : ∀ {u : Store} {rows : Rows}, Stroke s.lastId t s.rows.desk rows.desk →
      u.rows = rows ∧ u.Still → Program.Ensures Store.alone
        (fun _ v => Stroke s.lastId t s.rows.desk v.rows.desk ∧ v.Still) (.done ()) u := by
    rintro u _ hstroke ⟨rfl, hu⟩ v rfl
    exact ⟨hstroke, hu⟩
  cases hd with
  | accept hh hp hl hs ho hx =>
    exact (Desk.alone_accept ⟨hh.request, hh.offer, hh.line⟩ hq hp hl hs ho hx).after
      fun _ _ => hdone (.accept hh hp hl hs ho hx)
  | confirm hh hp hl hb hn =>
    exact (Desk.alone_confirm ⟨hh.request, hh.offer, hh.line⟩ hq hp hl (ht.flow _ _ hh.offer) hb
      (ht.bare _ _ hh.line hl)).after fun _ _ hu =>
        hdone (.confirm hh hp hl hb (Int.lt_add_one_iff.2 (Int.le_refl _))) hu.2
  | cancel hr hc hl =>
    exact (Desk.alone_cancel ht hq hr hc hl).after fun _ _ => hdone (.cancel hr hc hl)
  | decline ho hr hs hl hlo hp =>
    exact (Desk.alone_decline hq ho hr hs (ht.flow _ _ ho) hl hlo hp).after fun _ _ =>
      hdone (.decline ho hr hs hl hlo hp)
  | delete hr hp hl =>
    exact (Desk.alone_deleteRequest hq hr hp hl).after fun _ _ => hdone (.delete hr hp hl)
  | expire =>
    refine Program.Ensures.bind (fun _ u hx => ?_) (Jobs.alone_expire hq)
    rintro v rfl
    obtain ⟨hrows, hv⟩ := hx v rfl
    exact ⟨by rw [hrows]; exact .expire, hv⟩

end LoanDesk
