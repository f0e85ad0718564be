/-
# One batch after another

A batch shuts the requests that it claims, or fails on the first of their lines that somebody holds
(`Program.amid_shut`, `Jobs.amid_declineBatch`). Each batch that succeeds leaves fewer requests to
claim, and so the batches come to an end within as many rounds as there were requests
(`Session.Works.declineBatches`).
-/

import LoanDesk.Proofs.Desk.Batches.Exposed

namespace LoanDesk

namespace Program

variable {α ε : Type} {blame : StoreError → ε} {tx : TxId} {s : Store} {rs : List Request}
  {by_ : String} {reason : CancelReason} {now : Instant} {f : Nat → ExceptT ε Program α}
  {Q : α → Book → Prop} {E : ε → Prop}

/-- Requests that are claimed, and of which nobody holds an open line, are shut. -/
theorem amid_shut (hclaimed : ∀ r ∈ rs, s.isFree (.request r.id)) (hfree : s.heldAmong? rs = none)
    (hf : ∀ b, b.rows = s.rows.shut (rs.map (·.id)) by_ reason now →
      Amid s.isFree Q E (f (s.rows.openLinesOf rs).length) b) :
    Amid s.isFree Q E (do
      let cancelled ← ask blame tx (.cancelByRequests (rs.map (·.id)) by_ reason now)
      let _ ← ask blame tx (.setRequestStatuses (rs.map (·.id)) .confirmed now)
      f cancelled) s.stored := by
  refine Amid.ask (Book.cancelWhere_free hfree)
    (Amid.ask (Book.setRequestStatuses_eq_ok.2 ⟨rfl, ?_, rfl⟩) (hf _ rfl))
  rintro id hid - -
  obtain ⟨r, hr, rfl⟩ := List.mem_map.1 hid
  exact hclaimed r hr

end Program

namespace Jobs

open Program

variable {s : Store} (c : Ceiling) (size : Int) (actor : String) (now : Instant)

/-- A batch shuts the requests that it claims, or somebody holds one of their lines. Where there is
nothing to claim it gives nothing, and nothing is shut. -/
theorem amid_declineBatch : ∃ body,
    declineBatch c size actor now = bracket id (fun x => !x.1.isEmpty) body ∧
    (∀ tx, Within tx (body tx)) ∧
    (∀ l, s.heldAmong? ((s.exposed c).take size.toNat) = some l → ∀ tx,
      Amid s.isFree (fun _ _ => False) (fun e => e = .locked "offer interest" l.id) (body tx)
        s.stored) ∧
    (s.heldAmong? ((s.exposed c).take size.toNat) = none → ∀ tx, Amid s.isFree
      (fun x b => x = ((s.exposed c).take size.toNat,
          (s.rows.openLinesOf ((s.exposed c).take size.toNat)).length) ∧
        b.rows = s.rows.shut (((s.exposed c).take size.toNat).map (·.id)) actor .highLoanRate now)
      (fun _ => False) (body tx) s.stored) := by
  have hclaim : s.stored.perform s.isFree (.claimAboveRate c.maximumRate size) =
      .ok ((s.exposed c).take size.toNat, s.stored) := Book.claimAboveRate_eq_ok.2 ⟨rfl, rfl⟩
  refine ⟨_, rfl, fun tx => ?_, fun l hl tx => Amid.ask hclaim ?_,
    fun hnone tx => Amid.ask hclaim ?_⟩
  · refine (within_ask _ _).bind fun claimed => ?_
    split
    · exact within_pure _
    · refine (within_ask _ _).bind fun _ => ?_
      refine (within_ask _ _).bind fun _ => ?_
      exact within_pure _
  · generalize (s.exposed c).take size.toNat = rs at hl
    split
    · rename_i hempty
      rw [List.isEmpty_iff.1 hempty, Store.heldAmong?, Rows.openLinesOf_nil] at hl
      cases hl
    · exact Amid.refused (Book.cancelWhere_held hl) rfl
  · have hfree : ∀ r ∈ (s.exposed c).take size.toNat, s.isFree (.request r.id) := fun r hr =>
      (Book.mem_claimable.1 (List.mem_of_mem_take hr)).2.2.2
    generalize (s.exposed c).take size.toNat = rs at hnone hfree
    split
    · rename_i hempty
      rw [List.isEmpty_iff.1 hempty]
      exact amid_pure ⟨by rw [Rows.openLinesOf_nil]; rfl, Rows.shut_nil.symm⟩
    · exact amid_shut hfree hnone fun b hb => amid_pure ⟨rfl, hb⟩

end Jobs

namespace Session

open Jobs

variable {s : Session} (c : Ceiling) (actor : String) (now : Instant)

/-- Batches: the first, and those after it if it closes anything. -/
theorem run_declineBatches (size : Int) (rounds : Nat) :
    Session.run (declineBatches c size actor now (rounds + 1)) s =
      match Session.run (declineBatch c size actor now).run s with
      | (.error e, t) => (⟨[], 0, some e⟩, t)
      | (.ok ([], _), t) => (⟨[], 0, none⟩, t)
      | (.ok (r :: rs, cancelled), t) =>
        (Session.run (declineBatches c size actor now rounds) t).map
          (fun d => ⟨r :: rs ++ d.requests, cancelled + d.cancelled, d.error⟩) id := by
  have hrun : Session.run (declineBatches c size actor now (rounds + 1)) s = Session.run _ _ :=
    Session.run_bind _ _ s
  rw [hrun]
  generalize Session.run (declineBatch c size actor now).run s = q
  obtain ⟨e | ⟨_ | ⟨r, rs⟩, cancelled⟩, t⟩ := q
  · rfl
  · rfl
  · exact Session.run_bind _ _ t

namespace Works

section Batch

variable {size : Int}

/-- A batch that meets a held line fails on the first such line and leaves the rows. -/
theorem declineBatch_held (hs : s.Works) {l : Line}
    (hl : s.store.heldAmong? ((s.store.exposed c).take size.toNat) = some l) :
    ∃ t, Session.run (declineBatch c size actor now).run s =
        (.error (.locked "offer interest" l.id), t) ∧ Aside s t ∧ t.store.rows = s.store.rows := by
  obtain ⟨body, hbody, hw, hheld, -⟩ := amid_declineBatch c size actor now
  obtain ⟨_, t, hrun, haside, rfl, hrows⟩ :=
    hs.bracket_error id (fun x => !x.1.isEmpty) hw (hheld l hl)
  exact ⟨t, by rw [hbody, hrun], haside, hrows⟩

/-- A batch whose lines are all free cancels them, request by request. -/
theorem declineBatch_done (hs : s.Works)
    (hfree : s.store.heldAmong? ((s.store.exposed c).take size.toNat) = none) :
    let rs := (s.store.exposed c).take size.toNat
    ∃ t, Session.run (declineBatch c size actor now).run s =
        (.ok (rs, (s.store.rows.openLinesOf rs).length), t) ∧ Aside s t ∧
      t.store.rows = s.store.rows.shut (rs.map (·.id)) actor .highLoanRate now := by
  intro rs
  obtain ⟨body, hbody, hw, -, hdone⟩ := amid_declineBatch c size actor now
  obtain ⟨_, b, t, hrun, haside, ⟨rfl, hb⟩, hrows⟩ :=
    hs.bracket_ok id (fun x => !x.1.isEmpty) hw (hdone hfree)
  refine ⟨t, by rw [hbody, hrun], haside, hrows.trans ?_⟩
  split
  · exact hb
  · -- nothing is claimed, and nothing would be shut
    rename_i hempty
    have hnil : rs = [] := by
      rw [Bool.not_eq_true', Bool.not_eq_false] at hempty
      exact List.isEmpty_iff.1 hempty
    rw [hnil]
    exact Rows.shut_nil.symm

/-- **Batches come to an end.**  It does not matter how many rounds a run may take, if they are more
than there are requests that are exposed. -/
theorem declineBatches (hs : s.Works) (hsize : 0 < size.toNat) : ∃ k d t,
    (∀ rounds, (s.store.exposed c).length ≤ rounds →
      Session.run (Jobs.declineBatches c size actor now (rounds + 1)) s = (d, t)) ∧
    Aside s t ∧ s.store.Batched c size.toNat actor now k d t.store.rows := by
  induction hn : (s.store.exposed c).length using Nat.strong_induction_on generalizing s with
  | _ n ih =>
  cases hheld : s.store.heldAmong? ((s.store.exposed c).take size.toNat) with
  | some l =>
    obtain ⟨t, hrun, haside, hrows⟩ := hs.declineBatch_held c actor now hheld
    refine ⟨0, ⟨[], 0, some (.locked "offer interest" l.id)⟩, t, fun rounds _ => ?_, haside, ?_⟩
    · rw [run_declineBatches, hrun]
    · rw [hrows]
      exact Store.batched_zero (Or.inr ⟨l, hheld, rfl⟩)
  | none =>
    obtain ⟨t, hrun, haside, hrows⟩ := hs.declineBatch_done c actor now hheld
    cases hfirst : (s.store.exposed c).take size.toNat with
    | nil =>
      rw [hfirst] at hrun hrows
      have hnil : s.store.exposed c = [] :=
        (List.take_eq_nil_iff.1 hfirst).resolve_left (Nat.ne_of_gt hsize)
      refine ⟨0, ⟨[], 0, none⟩, t, fun rounds _ => ?_, haside, ?_⟩
      · rw [run_declineBatches, hrun]
      · rw [hrows, List.map_nil, Rows.shut_nil]
        exact Store.batched_zero (Or.inl ⟨rfl, hnil⟩)
    | cons r rs =>
      -- the batch closes one request at least, so fewer are left to the others
      have hleft := Store.exposed_drop hs.keyed haside.isFree hrows
      have hlt : (t.store.exposed c).length < n := by
        have hlen := congrArg List.length hfirst
        rw [List.length_take, List.length_cons] at hlen
        rw [hleft, List.length_drop]
        omega
      obtain ⟨k, d, u, hrest, haside', hbatched⟩ := ih _ hlt haside.works rfl
      have hbatched := hbatched.cons hs.keyed haside.isFree hheld hrows
      rw [hfirst] at hrun hbatched
      refine ⟨k + 1, _, u, fun rounds hr => ?_, haside.trans haside', hbatched⟩
      obtain ⟨rounds, rfl⟩ := Nat.exists_eq_succ_of_ne_zero (Nat.ne_zero_of_lt (hlt.trans_le hr))
      rw [run_declineBatches, hrun]
      dsimp only
      rw [hrest rounds (Nat.le_of_lt_succ (hlt.trans_le hr))]
      rfl

end Batch
end Works

end Session
end LoanDesk
