/-
# Standings and statuses

Where a request stands is read off its lines, while its status is stored and written on its own. The
two agree because no line of a confirmed request is open, and none is signed (`Rows.Closed`).

So an overview tells `PENDING` of open requests only, and never more of a request than its lines and
its contracts bear out (`History.standings_agree`). Lines taken in haste are the exception here too:
one of them is accepted while its request is open, which stays open then, with its other lines.
-/

import LoanDesk.Proofs.Desk.Overviews

namespace LoanDesk

/-! ### Reading the standing off the lines -/

/-- A line that is not accepted has no package, and none is being created for it. -/
theorem LineStatus.isAccepted_eq_false {s : LineStatus} :
    s.isAccepted = false ↔ s ≠ .packageCreated ∧ s ≠ .signed ∧ s ≠ .creatingPackage := by
  cases s <;> simp [isAccepted]

namespace Standing

variable {r : Request} {ls : List Line}

/-- A request has its package when one of its lines has. -/
theorem of_eq_packageCreated :
    of r ls = .packageCreated ↔ ∃ l ∈ ls, l.status = .packageCreated := by
  unfold of
  grind

/-- A request waits for its package when one of its lines does and none is further. -/
theorem of_eq_creatingPackage :
    of r ls = .creatingPackage ↔ (∃ l ∈ ls, l.status = .creatingPackage) ∧
      ∀ l ∈ ls, l.status ≠ .packageCreated ∧ l.status ≠ .signed := by
  unfold of
  grind

/-- A request is open when one of its lines is, or it has none, and no line is accepted. -/
theorem of_eq_pending :
    of r ls = .pending ↔ (ls = [] ∧ r.isPending ∨ ∃ l ∈ ls, l.isPending) ∧
      ∀ l ∈ ls, l.status.isAccepted = false := by
  simp only [LineStatus.isAccepted_eq_false, Line.isPending, beq_iff_eq]
  unfold of
  simp only [List.isEmpty_iff, List.any_eq_true, beq_iff_eq]
  by_cases hnil : ls = []
  · subst hnil
    simp
  · rw [if_neg hnil]
    repeat' split
    all_goals grind

/-- No request is signed where no line is. -/
theorem of_ne_signed (h : ∀ l ∈ ls, l.status ≠ .signed) : of r ls ≠ .signed := by
  unfold of
  grind

/-- A request that is not signed is cancelled, or open, or has its package or waits for it. -/
theorem isCancelled_eq_false {s : Standing} (hs : s ≠ .signed) : s.isCancelled = false ↔
    s = .packageCreated ∨ s = .creatingPackage ∨ s = .pending := by
  cases s <;> simp_all [isCancelled]

end Standing

namespace Rows

/-- There is a contract for the request. -/
def Contracted (rows : Rows) (request : Int) : Prop :=
  ∃ n k, rows.contracts.get? n = some k ∧ k.request = request

/-- A line of the request is accepted and has no contract. -/
def Uncontracted (rows : Rows) (request : Int) : Prop :=
  ∃ l ∈ rows.linesOf request, l.status.isAccepted ∧
    ∀ n k, rows.contracts.get? n = some k → k.line ≠ l.id

/-- The request is open, and there are no lines or one that is open. -/
def Undecided (rows : Rows) (r : Request) : Prop :=
  r.isPending ∧ (rows.linesOf r.id = [] ∨ ∃ l ∈ rows.linesOf r.id, l.isPending)

/-- The standing of a request is what its status, its lines and its contracts make it. -/
structure Stands (rows : Rows) (r : Request) (s : Standing) : Prop where
  packageCreated : s = .packageCreated ↔ rows.Contracted r.id
  creatingPackage : s = .creatingPackage ↔ rows.Uncontracted r.id
  pending : s = .pending ↔ rows.Undecided r
  cancelled : s.isCancelled ↔
    ¬rows.Contracted r.id ∧ ¬rows.Uncontracted r.id ∧ ¬rows.Undecided r

variable {rows : Rows} {r : Request} {ls : List Line}

/-- Packages are created for the lines of a request that has a contract, and for no others. -/
theorem OneToOne.contracted (h : rows.OneToOne) (hk : rows.Keyed) {request : Int} :
    rows.Contracted request ↔ ∃ l ∈ rows.linesOf request, l.status = .packageCreated := by
  constructor
  · rintro ⟨n, k, hget, hreq⟩
    obtain ⟨l, r, hl, hr, hof⟩ := h.terms n k hget
    have hlr : l.request = request := by
      rw [← hreq, hof.request]
      exact (hk.requests _ r hr).symm
    refine ⟨l, mem_linesOf.2 ⟨⟨_, hl⟩, hlr⟩, ?_⟩
    cases hs : decide (l.status = .packageCreated) with
    | true => exact of_decide_eq_true hs
    | false => exact absurd rfl ((h.bare _ l hl (of_decide_eq_false hs)).2 n k hget)
  · rintro ⟨l, hmem, hs⟩
    obtain ⟨⟨i, hl⟩, hreq⟩ := mem_linesOf.1 hmem
    obtain ⟨n, k, -, hget, hline⟩ := (h.created i l hl).1 hs
    obtain ⟨l', r, hl', hr, hof⟩ := h.terms n k hget
    rw [hline, hl] at hl'
    obtain rfl := Option.some.inj hl'
    exact ⟨n, k, hget, by rw [hof.request, hk.requests _ r hr, hreq]⟩

/-- The lines that are accepted and have no contract are those whose package is being created. -/
theorem OneToOne.uncontracted (h : rows.OneToOne) (hk : rows.Keyed) (hc : rows.Closed)
    {request : Int} :
    rows.Uncontracted request ↔ ∃ l ∈ rows.linesOf request, l.status = .creatingPackage := by
  constructor
  · rintro ⟨l, hmem, ha, hnone⟩
    obtain ⟨⟨i, hl⟩, -⟩ := mem_linesOf.1 hmem
    refine ⟨l, hmem, ?_⟩
    have hcreated : l.status ≠ .packageCreated := by
      intro hs
      obtain ⟨n, k, -, hget, hline⟩ := (h.created i l hl).1 hs
      exact hnone n k hget (hline.trans (hk.lines i l hl).symm)
    have hsigned := hc.unsigned i l hl
    cases hs : l.status <;> simp_all [LineStatus.isAccepted]
  · rintro ⟨l, hmem, hs⟩
    obtain ⟨⟨i, hl⟩, -⟩ := mem_linesOf.1 hmem
    have hbare := h.bare i l hl (by rw [hs]; decide)
    rw [← hk.lines i l hl] at hbare
    exact ⟨l, hmem, by rw [hs]; rfl, hbare.2⟩

/-- **The standing agrees with the status** where no line of the request was taken in haste. -/
theorem stands_of (h : rows.OneToOne) (hk : rows.Keyed) (hc : rows.Closed) {hasty : Int → Prop}
    (hs : rows.Settled hasty) (hr : rows.requests.get? r.id = some r)
    (hls : ∀ l, l ∈ ls ↔ l ∈ rows.linesOf r.id) (hx : ∀ l ∈ rows.linesOf r.id, ¬hasty l.id) :
    rows.Stands r (.of r ls) := by
  have hcreated : Standing.of r ls = .packageCreated ↔ rows.Contracted r.id := by
    rw [Standing.of_eq_packageCreated, h.contracted hk]
    simp only [hls]
  have hunsigned : ∀ l ∈ ls, l.status ≠ .signed := by
    intro l hl
    obtain ⟨⟨i, hget⟩, -⟩ := mem_linesOf.1 ((hls l).1 hl)
    exact hc.unsigned i l hget
  have haccepted : ∀ l ∈ rows.linesOf r.id, l.status.isAccepted →
      r.status = .confirmed ∧ ∀ m ∈ rows.linesOf r.id, m.status.isAccepted → l = m := by
    intro l hmem ha
    obtain ⟨⟨i, hl⟩, hreq⟩ := mem_linesOf.1 hmem
    have hi := hk.lines i l hl
    have hnot := hx l hmem
    rw [hi] at hnot
    refine ⟨?_, fun m hmem' ha' => ?_⟩
    · obtain ⟨r', hr', hconf⟩ := (hs.confirmed i l hl ha).resolve_left hnot
      rw [hreq, hr] at hr'
      obtain rfl := Option.some.inj hr'
      exact hconf
    · obtain ⟨⟨j, hm⟩, hreq'⟩ := mem_linesOf.1 hmem'
      have hj := hk.lines j m hm
      have hnot' := hx m hmem'
      rw [hj] at hnot'
      rcases hs.single i j l m hl hm ha ha' (hreq.trans hreq'.symm) with he | he | he
      · rw [he, hm] at hl
        exact (Option.some.inj hl).symm
      · exact absurd he hnot
      · exact absurd he hnot'
  have hcreating : Standing.of r ls = .creatingPackage ↔ rows.Uncontracted r.id := by
    rw [Standing.of_eq_creatingPackage, h.uncontracted hk hc]
    simp only [hls]
    refine ⟨And.left, fun hex => ⟨hex, fun m hm => ⟨fun hms => ?_, hunsigned m ((hls m).2 hm)⟩⟩⟩
    obtain ⟨l, hl, hls'⟩ := hex
    have hsame := (haccepted l hl (by rw [hls']; rfl)).2 m hm (by rw [hms]; rfl)
    rw [← hsame, hls'] at hms
    cases hms
  have hnil : ls = [] ↔ rows.linesOf r.id = [] := by
    simp only [List.eq_nil_iff_forall_not_mem, hls]
  have hpending : Standing.of r ls = .pending ↔ rows.Undecided r := by
    rw [Standing.of_eq_pending]
    simp only [hls, hnil]
    constructor
    · rintro ⟨⟨hnone, hp⟩ | ⟨l, hmem, hp⟩, -⟩
      · exact ⟨hp, Or.inl hnone⟩
      · refine ⟨?_, Or.inr ⟨l, hmem, hp⟩⟩
        obtain ⟨⟨i, hl⟩, hreq⟩ := mem_linesOf.1 hmem
        cases hst : r.status with
        | pending => rw [Request.isPending, hst]; rfl
        | confirmed =>
          rw [hc.confirmed _ r hr hst i l hl hreq] at hp
          cases hp
    · rintro ⟨hp, hlines⟩
      refine ⟨hlines.imp_left fun hnone => ⟨hnone, hp⟩, fun l hl => ?_⟩
      cases ha : l.status.isAccepted with
      | false => rfl
      | true =>
        rw [Request.isPending, (haccepted l hl ha).1] at hp
        cases hp
  refine ⟨hcreated, hcreating, hpending, ?_⟩
  have hother := Standing.isCancelled_eq_false (Standing.of_ne_signed (r := r) hunsigned)
  rw [hcreated, hcreating, hpending] at hother
  rw [← Bool.not_eq_false, hother, not_or, not_or]

end Rows

/-! ### Standings over a history -/

/-- **Standings agree with statuses in every world of a history.** No line is signed, and those of a
confirmed request are not open. While a request is open no line of it is accepted, but for lines
taken in haste. An overview tells `PACKAGE_CREATED` if and only if there is a contract for the
request; what else it tells is what status, lines and contracts say, if no line of the request was
taken in haste. -/
theorem History.standings_agree {w : World} {ws : List World} (h : History (w :: ws)) {id : Int}
    {r : Request} (hr : w.store.rows.requests.get? id = some r) :
    (∀ l ∈ w.store.rows.linesOf id, l.status ≠ .signed ∧
      (r.status = .confirmed → l.isPending = false) ∧
      (r.status = .pending → l.status.isAccepted → Hasty (w :: ws) l.id)) ∧
    ∀ s : Session, s.store = w.store → s.faults = [] →
      ∃ o, (Session.run (Desk.overview id).run s).1 = .ok o ∧ o.request = r ∧
        o.lineCount = (w.store.rows.linesOf id).length ∧
        (o.standing = .packageCreated ↔ w.store.rows.Contracted id) ∧
        ((∀ l ∈ w.store.rows.linesOf id, ¬Hasty (w :: ws) l.id) →
          w.store.rows.Stands r o.standing) := by
  obtain ⟨hfit, hsettled, hpaired⟩ := h.sound
  have hk : w.store.rows.Keyed := hfit.part.stored.keyed
  have hone := hpaired.oneToOne
  obtain rfl : r.id = id := hk.requests id r hr
  refine ⟨fun l hmem => ?_, fun s hs hf => ?_⟩
  · obtain ⟨⟨i, hl⟩, hreq⟩ := Rows.mem_linesOf.1 hmem
    refine ⟨h.closed.unsigned i l hl, fun hc => h.closed.confirmed _ r hr hc i l hl hreq, ?_⟩
    intro hp ha
    rw [hk.lines i l hl]
    refine (hsettled.confirmed i l hl ha).resolve_right ?_
    rintro ⟨r', hr', hc⟩
    rw [hreq, hr] at hr'
    obtain rfl := Option.some.inj hr'
    rw [hp] at hc
    cases hc
  · obtain ⟨store, mailbox, faults⟩ := s
    subst hs hf
    have hlines : ∀ l, l ∈ newestFirst (fun l => (l.createdAt, l.id)) (w.store.rows.linesOf r.id) ↔
        l ∈ w.store.rows.linesOf r.id := fun _ => mem_newestFirst
    refine ⟨_, Session.run_overview hr, rfl, ?_, ?_, fun hx => ?_⟩
    · exact List.length_mergeSort _
    · rw [hone.contracted hk, RequestOverview.of, Standing.of_eq_packageCreated]
      simp only [hlines]
    · exact Rows.stands_of hone hk h.closed hsettled hr hlines hx

namespace Story

/-- Line 4 of request 1 is accepted and has no contract yet. -/
theorem standings_agree_accepted :
    ∃ o, (Session.run (Desk.overview 1).run
        ⟨(World.played [accepted, proposed, opened]).1, .empty false, []⟩).1 = .ok o ∧
      o.request.status = .confirmed ∧ o.lineCount = 2 ∧ o.standing = .creatingPackage := by
  have hr : ((World.played [accepted, proposed, opened]).1.rows.requests.get? 1).isSome := by
    decide +kernel
  have hid : (Option.get _ hr).id = 1 := by decide +kernel +revert
  have hstatus : (Option.get _ hr).status = .confirmed := by decide +kernel +revert
  have hcount : ((World.played [accepted, proposed, opened]).1.rows.linesOf 1).length = 2 := by
    decide +kernel
  have hline : ∃ l ∈ (World.played [accepted, proposed, opened]).1.rows.linesOf 1,
      l.status.isAccepted := by
    decide +kernel
  have hnone : (World.played [accepted, proposed, opened]).1.rows.contracts.values = [] := by
    decide +kernel
  have hcalm : ∀ line caller now, .operate (.createPackage line) caller now ∉
      [accepted, proposed, opened] := by
    intro line caller now hmem
    simp [accepted, proposed, opened] at hmem
  obtain ⟨o, ho, hreq, hlen, -, hstands⟩ :=
    (History.standings_agree (World.history_played [accepted, proposed, opened])
      (Option.some_get hr).symm).2 ⟨_, .empty false, []⟩ rfl rfl
  have hagree := hstands fun l _ => not_hasty hcalm l.id
  refine ⟨o, ho, by rw [hreq, hstatus], hlen.trans hcount, hagree.creatingPackage.2 ?_⟩
  obtain ⟨l, hmem, ha⟩ := hline
  rw [hid]
  refine ⟨l, hmem, ha, fun n k hk => ?_⟩
  have hvalues := Table.mem_values.2 ⟨n, hk⟩
  change k ∈ (World.played [accepted, proposed, opened]).1.rows.contracts.values at hvalues
  rw [hnone] at hvalues
  cases hvalues

/-- The exception happens: request 1 is open, and an overview tells that its package is created. -/
theorem created_while_open_hastened :
    ∃ o, (Session.run (Desk.overview 1).run ⟨(World.played hastened).1, .empty false, []⟩).1 = .ok o ∧
      o.request.isPending ∧ o.standing = .packageCreated := by
  have hr : ((World.played hastened).1.rows.requests.get? 1).isSome := by decide +kernel
  have hp : (Option.get _ hr).isPending := by decide +kernel +revert
  have hline : ∃ l ∈ (World.played hastened).1.rows.linesOf 1, l.status = .packageCreated := by
    decide +kernel
  refine ⟨_, Session.run_overview (Option.some_get hr).symm, hp, ?_⟩
  rw [RequestOverview.of, Standing.of_eq_packageCreated]
  obtain ⟨l, hmem, hs⟩ := hline
  exact ⟨l, mem_newestFirst.2 hmem, hs⟩

end Story
end LoanDesk
