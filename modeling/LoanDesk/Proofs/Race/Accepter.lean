/-
# Accepting a line while lines are cancelled

What a task that accepts a line does at its seat, beside a task that cancels lines. It gets hold of
the line and its request as they are now (`Desk.serves_hold`), and carries what it makes of them to its
commit, whatever is cancelled meanwhile. So when it commits it commits its stroke
(`Encounter.leaves_accepting`).
-/

import LoanDesk.Proofs.Race.Accepter.Phases

namespace LoanDesk
namespace Desk

open Program Meeting
open LineStatus (canMove)

/-! ### Steps -/

section Steps

variable {e : Encounter} {p q r : Seat (Fin 2)} {tx : TxId} {α β : Type} {now : Instant}

/-- The task looks for a line among those it was given, and keeps its transaction. -/
theorem serves_findLine {Q : α → Seat (Fin 2) → Prop} {lines : List Line} {id : Int}
    {f : Line → Action α} (hp : p.mine = [tx])
    (h : ∀ l ∈ lines, l.id = id → Serves e.meeting 0 tx Q (f l) p) :
    Serves e.meeting 0 tx Q (findLine lines id >>= f) p := by
  unfold findLine
  cases hl : lines.find? (·.id == id) with
  | none => exact serves_throw _ hp
  | some l => exact h l (List.mem_of_find?_eq_some hl) (by simpa using List.find?_some hl)

/-- A call that reads, while the task has done nothing but look: its answer is that of a book with
the rows as they are now. -/
theorem serves_look {Q : β → Seat (Fin 2) → Prop} {k : Call} (hk : k.Reads)
    {m : k.Answer → Action β} (hp : Looks tx p)
    (h : ∀ free (b b' : Book) x q₀ q, b.rows = q.store.rows → b.perform free k = .ok (x, b') →
      e.meeting.Others 0 p q₀ → e.meeting.Asked tx k x q₀ q → Looks tx q →
      Serves e.meeting 0 tx Q (m x) q) :
    Serves e.meeting 0 tx Q (ask tx k >>= m) p := by
  refine Serves.ask hp.sits fun x q r ho hr => ?_
  have hq := hp.others ho
  obtain ⟨free, hbook⟩ := hr.book
  exact h free _ _ x q r (hq.view.trans hr.rows.symm) hbook ho hr (hq.asked hr hk)

/-- A line that may be accepted is open, where its request is. -/
theorem isOpen_of_calm {rows : Rows} (hr : rows.Tended) {o : Offer} {l : Line} {r : Request}
    {target : LineStatus} (ht : target.isAccepted) (ho : rows.offers.get? l.offer = some o)
    (hl : rows.lines.get? l.id = some l) (hrequest : rows.requests.get? o.request = some r)
    (hp : r.isPending) (hm : canMove o.flow l.status target) : l.isPending := by
  obtain ⟨o', ho', hreq⟩ := hr.line _ _ hl
  rw [ho] at ho'
  rw [Option.some.inj ho', hreq] at hrequest
  have hcalm : l.status ≠ .creatingPackage := by
    intro hs
    rw [hr.neat.calm _ l r hl hs hrequest] at hp
    cases hp
  revert hm hcalm
  cases hs : l.status <;> cases target <;>
    simp_all [canMove, LineStatus.next, Line.isPending, LineStatus.isAccepted]

/-- **The task gets hold of the line and its request**, as they are now. -/
theorem serves_hold {offer line : Int} {target : LineStatus} (ht : target.isAccepted)
    (hp : Looks tx p) :
    Serves e.meeting 0 tx (fun h q => Carries tx p.store.rows h (fun rows => rows) q ∧
      h.offer.id = offer ∧ h.line.id = line)
      (hold tx offer line target) p := by
  refine serves_look (k := .offerWithRequest offer) trivial hp
    fun _ _ _ ⟨o, r⟩ q₁ p₁ hrows₁ hbook₁ ho₁ h₁ hp₁ => ?_
  obtain ⟨hoffer, hrequest, -⟩ := Book.offerWithRequest_eq_ok.1 hbook₁
  rw [hrows₁] at hoffer hrequest
  have hrid : r.id = o.request := hp₁.sits.stored.requests _ _ hrequest
  have hoid : o.id = offer := hp₁.sits.stored.offers _ _ hoffer
  -- the request is held from here on
  refine serves_look (k := .lockRequest r.id .noWait) trivial hp₁
    fun _ _ _ r' q₂ p₂ hrows₂ hbook₂ ho₂ h₂ hp₂ => ?_
  obtain ⟨hlocked, -, -⟩ := Book.lockRequest_eq_ok.1 hbook₂
  rw [hrows₂] at hlocked
  have hheld₂ := h₂.grasps (Store.grasps_lockRequest r.id .noWait) List.mem_cons_self
  have hrid' : r'.id = r.id := hp₂.sits.stored.requests _ _ hlocked
  refine serves_look (k := .lockLinesOfOffer o.id) trivial hp₂
    fun _ _ _ ls q₃ p₃ hrows₃ hbook₃ ho₃ h₃ hp₃ => ?_
  obtain ⟨hls, -, -, -⟩ := Book.lockLinesOfOffer_eq_ok.1 hbook₃
  rw [hrows₃] at hls
  refine serves_findLine hp₃.sits.mine fun l hl hlid => ?_
  refine serves_ensure hp₃.sits.mine fun hmove => ?_
  refine serves_ensure hp₃.sits.mine fun hpending => ?_
  have hmove := canMove_of_ensure hmove
  have hpending := isPending_of_ensure hpending
  have hrequest₃ : p₃.store.rows.requests.get? o.request = some r' := by
    rw [h₃.rows, ← hrid, ho₃.request_eq hp₂.sits.mem hheld₂]
    exact hlocked
  obtain ⟨hlmem, hlo⟩ := List.mem_filter.1 (hls ▸ hl)
  have hlo : l.offer = offer := by rw [← hoid]; simpa using hlo
  have hline₃ := hp₃.sits.stored.lines.mem_values.1 hlmem
  have hcleared : p₁.store.rows.Cleared p₃.store.rows := by
    rw [h₃.rows]
    refine (cleared_of_others ho₂).trans ?_
    rw [← h₂.rows]
    exact cleared_of_others ho₃
  have hoffer₃ : p₃.store.rows.offers.get? l.offer = some o := by
    rw [hlo]
    exact hcleared.offer _ _ _ hoffer hrequest₃
  have hopen : l.isPending := by
    have hsound := h₃.fit.sound
    rw [← h₃.rows] at hsound
    exact isOpen_of_calm hsound ht hoffer₃ hline₃ hrequest₃ hpending hmove
  have hgrips : Grips tx p.store.rows ⟨r', o, l⟩ p₃ := by
    have hseen : p.store.rows.Cleared p₁.store.rows := by
      rw [h₁.rows]
      exact cleared_of_others ho₁
    refine ⟨hp₃.sits, hp₃.fresh, hseen.trans hcleared, ⟨hrequest₃, hoffer₃, hline₃⟩,
      hrid'.trans hrid, ?_, ?_, hpending, hopen⟩
    · have hheld₃ := h₃.held ((ho₃.apart.locks _ tx hp₂.sits.mem).2 hheld₂)
      rw [← hrid'] at hheld₃
      exact hheld₃
    · exact h₃.grasps (Store.grasps_lockLinesOfOffer o.id) (List.mem_map_of_mem hl)
  have hcarries : Carries tx p.store.rows ⟨r', o, l⟩ (fun rows => rows) p₃ :=
    ⟨hgrips, .refl _, by rw [hp₃.changes]; rfl, by rw [hp₃.view]⟩
  exact Brings.pure fun t ho => ⟨hcarries.others ho, hoid, hlid⟩

/-- **The line that is held is taken.** -/
theorem serves_take {Q : β → Seat (Fin 2) → Prop} {seen : Rows} {h : Held} {status : LineStatus}
    {by_ : String}
    {f : Nat × Nat → Action β} (hp : Carries tx seen h (fun rows => rows) p)
    (hf : ∀ n q, Carries tx seen h (Rows.take · h status by_ now) q →
      Serves e.meeting 0 tx Q (f n) q) :
    Serves e.meeting 0 tx Q
      (do
        let _ ← ask tx (.setLineStatuses [h.line.id] status now)
        let n ← cancelAlternatives tx h by_ now
        ask tx (.setRequestStatus h.request.id .confirmed now)
        f n) p := by
  refine Serves.ask hp.sits fun n₁ q₁ p₁ ho₁ h₁ => ?_
  obtain ⟨free₁, hbook₁⟩ := h₁.book
  have hp₁ := (hp.others ho₁).asked h₁ (.mark h status now) (Store.spares_offers trivial)
    (congrArg (Rows.desk ∘ Book.rows) (Book.setLineStatuses_eq_ok.1 hbook₁).2.2)
  refine Brings.bind (P := fun _ q => Carries tx seen h (fun rows =>
    ((rows.setLines (fun l => [h.line.id].contains l.id) status now).cancel
      (·.offer == h.offer.id) by_ .alternativeOption now).cancel
        (fun l => [h.request.id].contains l.request) by_ .alternativeOption now) q) ?_
    fun n p₃ hp₃ => ?_
  · refine Serves.ask hp₁.sits fun n₂ q₂ p₂ ho₂ h₂ => ?_
    obtain ⟨free₂, hbook₂⟩ := h₂.book
    have hp₂ := (hp₁.others ho₂).asked h₂
      (.cancel h (·.offer == h.offer.id) by_ .alternativeOption now) (Store.spares_offers trivial)
      (congrArg (Rows.desk ∘ Book.rows) (Book.cancelWhere_eq_ok.1 hbook₂).2.2)
    refine Serves.ask hp₂.sits fun n₃ q₃ p₃ ho₃ h₃ => ?_
    obtain ⟨free₃, hbook₃⟩ := h₃.book
    have hp₃ := (hp₂.others ho₃).asked h₃
      (.cancel h (fun l => [h.request.id].contains l.request) by_ .alternativeOption now)
      (Store.spares_offers trivial)
      (congrArg (Rows.desk ∘ Book.rows) (Book.cancelWhere_eq_ok.1 hbook₃).2.2)
    exact Brings.pure fun t ho => hp₃.others ho
  · refine Serves.ask hp₃.sits fun u q₄ p₄ ho₄ h₄ => ?_
    obtain ⟨free₄, hbook₄⟩ := h₄.book
    exact hf n p₄ ((hp₃.others ho₄).asked h₄
      (.setRequests h (·.id == h.request.id) .confirmed now) (Store.spares_offers trivial)
      (congrArg (Rows.desk ∘ Book.rows) (Book.setRequestStatus_eq_ok.1 hbook₄).2.2))

/-- **An investor who accepts a line keeps to the first seat.** -/
theorem leaves_accept {c : Acceptance} {caller : Caller}
    (he : e.accepting = .operate (.accept c) caller now) (hmine : p.mine = [])
    (hfresh : 0 ∉ p.log) :
    Leaves e.meeting 0 (accept c caller now).run p := by
  refine Leaves.bindExcept (leaves_bracket hmine fun tx q hsits hchanges hlog => ?_)
    fun ⟨h, siblings, others⟩ q hq => leaves_tell _ _ hq
  have hq : Looks tx q := ⟨hsits, mt hlog.1 hfresh, hchanges⟩
  refine serves_look (k := .offerWithRequest c.offer) trivial hq
    fun _ _ _ ⟨o, r⟩ _ p₁ hrows hbook _ _ hp₁ => ?_
  obtain ⟨hoffer, hrequest, -⟩ := Book.offerWithRequest_eq_ok.1 hbook
  rw [hrows] at hoffer hrequest
  refine serves_ensure hp₁.sits.mine fun hscope => ?_
  dsimp only
  split
  · exact serves_throw _ hp₁.sits.mine
  rename_i hflow
  split
  · exact serves_throw _ hp₁.sits.mine
  rename_i hexpired
  refine Brings.bind (serves_hold rfl hp₁) fun h q₂ ⟨hq₂, hho, hhl⟩ => ?_
  refine serves_take hq₂ fun n q₃ hq₃ => ?_
  refine Brings.pure fun t ho => ?_
  have ht := hq₃.others ho
  -- the offer and the owner of the request are those that were checked
  have hid : h.line.offer = o.id := by
    rw [← hho, ht.sits.stored.offers _ _ ht.rows.offer]
  have hoid : o.id = c.offer := hp₁.sits.stored.offers _ _ hoffer
  have hoffer' := ht.cleared.offers _ _ ht.rows.offer
  rw [hid, hoid, hoffer] at hoffer'
  obtain rfl := Option.some.inj hoffer'
  have hrequest' := ht.cleared.requests _ _ ht.rows.request
  rw [hrequest] at hrequest'
  obtain rfl := Option.some.inj hrequest'
  refine ht.ready ?_
  obtain ⟨offer, line⟩ := c
  dsimp only at hoid hhl
  subst hoid hhl
  rw [he]
  exact .accept ht.rows.desk ht.isPending ht.isOpen hscope
    (Decidable.not_not.1 hflow) (Bool.eq_false_iff.2 hexpired)

/-- **An administrator who confirms a request keeps to the first seat.** -/
theorem leaves_confirm {c : Confirmation} {caller : Caller}
    (he : e.accepting = .operate (.confirm c) caller now) (hmine : p.mine = [])
    (hfresh : 0 ∉ p.log) :
    Leaves e.meeting 0 (confirm c caller now).run p := by
  refine Leaves.bindExcept (leaves_bracket hmine fun tx q hsits hchanges hlog => ?_)
    fun ⟨h, siblings, others, k⟩ q hq => leaves_tell _ _ hq
  have hq : Looks tx q := ⟨hsits, mt hlog.1 hfresh, hchanges⟩
  refine serves_look (k := .linesOfRequests [c.request]) trivial hq
    fun _ _ _ ls _ p₁ hrows hbook _ _ hp₁ => ?_
  obtain ⟨hls, -⟩ := Book.linesOfRequests_eq_ok.1 hbook
  have hcandidates : ls.filter (·.loan == c.loan) = candidates c p₁.store.rows := by
    rw [hls, hrows]
    rfl
  rw [hcandidates]
  split
  · exact serves_throw _ hp₁.sits.mine
  rename_i target htarget
  refine Brings.bind (serves_hold rfl hp₁) fun h q₂ ⟨hq₂, hho, hhl⟩ => ?_
  refine serves_take hq₂ fun n q₃ hq₃ => ?_
  refine Serves.ask hq₃.sits fun k q₄ p₄ ho₄ h₄ => ?_
  obtain ⟨free₄, hbook₄⟩ := h₄.book
  obtain ⟨-, hk, hput⟩ := Book.createContract_eq_ok.1 hbook₄
  have hp₄ := (hq₃.others ho₄).asked h₄ (.putContract h k)
    (Store.spares_createContract (fun _ _ => rfl) _ _) (congrArg (Rows.desk ∘ Book.rows) hput)
  refine Serves.ask hp₄.sits fun u q₅ p₅ ho₅ h₅ => ?_
  obtain ⟨free₅, hbook₅⟩ := h₅.book
  have hp₅ := (hp₄.others ho₅).asked h₅ (.attach h k.id now) (Store.spares_offers trivial)
    (congrArg (Rows.desk ∘ Book.rows) (Book.attachContract_eq_ok.1 hbook₅).2.2)
  refine Brings.pure fun t ho => ?_
  have ht := hp₅.others ho
  refine ht.ready ?_
  have hlast : e.last < q₄.store.lastId + 1 := Int.lt_add_one_of_le h₄.fit.last
  subst hk
  rw [he]
  refine .confirm ht.rows.desk ht.isPending ht.isOpen ?_ hlast
  -- the best choice is open, so it is the line that was best when it was chosen
  obtain ⟨hmem, -, -⟩ := mem_candidates.1 (best?_mem htarget)
  obtain ⟨l, hl, hcase⟩ := ht.cleared.lines _ _ ht.rows.line
  rw [hhl, hp₁.sits.stored.lines.mem_values.1 hmem] at hl
  obtain rfl := Option.some.inj hl
  have hline : h.line = target := by
    refine hcase.resolve_right fun hs => ?_
    have hopen := ht.isOpen
    rw [Line.not_isPending_of_status hs (by decide)] at hopen
    cases hopen
  rw [← hline] at htarget
  exact best?_of_cleared ht.sits.stored ht.cleared htarget ht.isOpen ht.rows.line

end Steps
end Desk

/-- **Whoever accepts a line keeps to the first seat.** -/
theorem Encounter.leaves_accepting (e : Encounter) {p : Seat (Fin 2)} (hmine : p.mine = [])
    (hfresh : 0 ∉ p.log) : Program.Leaves e.meeting 0 e.accepting.program p := by
  have ha := e.accepts
  generalize ht : e.accepting = t at ha
  cases t with
  | expire actor now => exact ha.elim
  | decline actor batch rounds now => exact ha.elim
  | operate o caller now =>
    cases o with
    | accept c =>
      exact (Desk.leaves_accept ht hmine hfresh).bind fun _ _ hq => Program.leaves_done _ hq
    | confirm c =>
      exact (Desk.leaves_confirm ht hmine hfresh).bind fun _ _ hq => Program.leaves_done _ hq
    | _ => exact ha.elim

end LoanDesk
