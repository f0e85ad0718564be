/-
# Accepting keeps order

Where an investor or an administrator accepts a line, both bodies go through `brings_hold` and
`brings_take`: the line is held with its offer and its request, marked, and its alternatives are
cancelled. A contract is written as `brings_sign` has it. Each of the two actions is one change
(`confirm_eq`, `accept_eq`), and the investor is told of it. A package is created, and the end of a
guarantee is set, in one change that nobody is told of.
-/

import LoanDesk.Proofs.Desk.Order.Checks

namespace LoanDesk
namespace Desk

open Program
open LineStatus (canMove)

variable {α β : Type} {tx : TxId} {b : Book} {caller : Caller} {now : Instant}

/-! ### Accepting lines -/

/-- Holding a line stays in its transaction. -/
theorem within_hold (offer line : Int) (target : LineStatus) :
    Within tx (hold tx offer line target) := by
  refine (within_ask _ _).bind fun _ => ?_
  refine (within_ask _ _).bind fun _ => ?_
  refine (within_ask _ _).bind fun _ => ?_
  refine (within_findLine _ _).bind fun _ => ?_
  refine (within_ensure _).bind fun _ => ?_
  refine (within_ensure _).bind fun _ => ?_
  exact within_pure _

/-- What is held is stored, and the line may move on while the request is open. -/
theorem brings_hold (hk : b.rows.Keyed) (offer line : Int) (target : LineStatus) :
    Brings Book.shared (fun h b' => b'.rows = b.rows ∧ b.last ≤ b'.last ∧ h.In b.rows ∧
      h.offer.id = offer ∧ h.line.id = line ∧ h.request.isPending ∧
      canMove h.offer.flow h.line.status target) (fun _ _ => True) (hold tx offer line target) b := by
  refine Brings.shared_ask_bind fun n hn free x b₁ h₁ => ?_
  obtain ⟨ho, hr, rfl⟩ := Book.offerWithRequest_eq_ok.1 h₁
  obtain ⟨o, r⟩ := x
  refine Brings.shared_ask_bind fun n₂ hn₂ free₂ r' b₂ h₂ => ?_
  obtain ⟨hr', -, rfl⟩ := Book.lockRequest_eq_ok.1 h₂
  dsimp only at ho hr hr' hn hn₂
  rw [hk.requests _ _ hr] at hr'
  have hoid : o.id = offer := hk.offers _ _ ho
  refine Brings.shared_ask_bind fun n₃ hn₃ free₃ ls b₃ h₃ => ?_
  obtain ⟨rfl, -, -, rfl⟩ := Book.lockLinesOfOffer_eq_ok.1 h₃
  refine brings_findLine fun l hl hlid => ?_
  refine brings_ensure fun hmove => ?_
  refine brings_ensure fun hpend => ?_
  obtain ⟨hl, hlo⟩ := List.mem_filter.1 hl
  have hlo : l.offer = offer := by rw [← hoid]; simpa using hlo
  refine Brings.pure fun t ht => ?_
  obtain ⟨hrows, hlast⟩ := ht
  exact ⟨hrows, by dsimp only at hn hn₂ hn₃ hlast; omega,
    .of_get? hk hr' (by rw [hlo]; exact ho) (hk.lines.mem_values.1 hl), hoid, hlid,
    isPending_of_ensure hpend, canMove_of_ensure hmove⟩

/-- So does cancelling the others. -/
theorem within_cancelAlternatives (h : Held) (by_ : String) :
    Within tx (cancelAlternatives tx h by_ now) := by
  refine (within_ask _ _).bind fun _ => ?_
  refine (within_ask _ _).bind fun _ => ?_
  exact within_pure _

/-- The open lines of the offer are cancelled, then those that are left of the request, and both are
counted. -/
theorem brings_cancelAlternatives (h : Held) (by_ : String) :
    Brings Book.shared (fun x b' => b'.rows =
        (b.rows.cancel (·.offer == h.offer.id) by_ .alternativeOption now).cancel
          (fun l => [h.request.id].contains l.request) by_ .alternativeOption now ∧
        b.last ≤ b'.last ∧ x = ((b.rows.pendingLines (·.offer == h.offer.id)).length,
          (b.rows.pendingLines fun l =>
            !(l.offer == h.offer.id) && [h.request.id].contains l.request).length))
      (fun _ _ => True) (cancelAlternatives tx h by_ now) b := by
  refine Brings.shared_ask_bind fun n hn free siblings b₁ h₁ => ?_
  obtain ⟨rfl, -, rfl⟩ := Book.cancelWhere_eq_ok.1 h₁
  refine Brings.shared_ask_bind fun n₂ hn₂ free₂ others b₂ h₂ => ?_
  obtain ⟨rfl, -, rfl⟩ := Book.cancelWhere_eq_ok.1 h₂
  refine Brings.pure fun t ht => ⟨ht.1, Int.le_trans hn (Int.le_trans hn₂ ht.2), ?_⟩
  -- the second call finds open what the first has left
  exact congrArg (Prod.mk _) (congrArg List.length (Rows.pendingLines_cancel _ _))

/-- Taking a line stays in its transaction, whatever is done with the counts. -/
theorem within_take (h : Held) (status : LineStatus) (by_ : String) {f : Nat × Nat → Action β}
    (hf : ∀ n, Within tx (f n)) :
    Within tx (do
      let _ ← ask tx (.setLineStatuses [h.line.id] status now)
      let n ← cancelAlternatives tx h by_ now
      ask tx (.setRequestStatus h.request.id .confirmed now)
      f n) := by
  refine (within_ask _ _).bind fun _ => ?_
  refine (within_cancelAlternatives _ _).bind fun n => ?_
  refine (within_ask _ _).bind fun _ => ?_
  exact hf n

/-- A line that is held is taken. -/
theorem brings_take (h : Held) {status : LineStatus} (hs : status ≠ .pending) (by_ : String)
    {f : Nat × Nat → Action β} {Q : β → Book → Prop} (hf : ∀ last, b.last ≤ last →
      Brings Book.shared Q (fun _ _ => True) (f (b.rows.alternatives h))
        ⟨b.rows.take h status by_ now, last⟩) :
    Brings Book.shared Q (fun _ _ => True)
      (do
        let _ ← ask tx (.setLineStatuses [h.line.id] status now)
        let n ← cancelAlternatives tx h by_ now
        ask tx (.setRequestStatus h.request.id .confirmed now)
        f n) b := by
  refine Brings.shared_ask_bind fun n hn free _ b₁ h₁ => ?_
  obtain ⟨-, -, rfl⟩ := Book.setLineStatuses_eq_ok.1 h₁
  refine Brings.bind (brings_cancelAlternatives h _) fun x ⟨rows₂, last₂⟩ h₂ => ?_
  obtain ⟨rfl, hn₂, rfl⟩ := h₂
  refine Brings.shared_ask_bind fun n₃ hn₃ free₃ _ b₃ h₃ => ?_
  obtain ⟨-, -, rfl⟩ := Book.setRequestStatus_eq_ok.1 h₃
  have hcount := b.rows.alternatives_marked h hs now
  rw [← hcount] at hf
  exact hf n₃ (Int.le_trans hn (Int.le_trans hn₂ hn₃))

/-- So does signing, whatever is done with the contract. -/
theorem within_sign (d : ContractDraft) (line : Int) {f : Contract → Action β}
    (hf : ∀ k, Within tx (f k)) :
    Within tx (do
      let k ← ask tx (.createContract d now)
      ask tx (.attachContract line k.id now)
      f k) := by
  refine (within_ask _ _).bind fun k => ?_
  refine (within_ask _ _).bind fun _ => ?_
  exact hf k

/-- The contract of a line that has none is written. -/
theorem brings_sign (d : ContractDraft) {f : Contract → Action β} {Q : β → Book → Prop}
    (hf : ∀ n last, b.last < n → n ≤ last → (∀ k ∈ b.rows.contracts.values, k.line ≠ d.line) →
      Brings Book.shared Q (fun _ _ => True) (f (d.toContract n now))
        ⟨b.rows.sign (d.toContract n now) now, last⟩) :
    Brings Book.shared Q (fun _ _ => True)
      (do
        let k ← ask tx (.createContract d now)
        ask tx (.attachContract d.line k.id now)
        f k) b := by
  refine Brings.shared_ask_bind fun n hn free k b₁ h₁ => ?_
  obtain ⟨hnone, rfl, rfl⟩ := Book.createContract_eq_ok.1 h₁
  refine Brings.shared_ask_bind fun n₂ hn₂ free₂ _ b₂ h₂ => ?_
  obtain ⟨-, -, rfl⟩ := Book.attachContract_eq_ok.1 h₂
  exact hf (n + 1) n₂ (Int.lt_add_one_of_le hn) hn₂ hnone

/-- The best choice among lines and one that was made before. -/
def bestFrom : Option Line → List Line → Option Line
  | best, [] => best
  | none, l :: ls => bestFrom (some l) ls
  | some b, l :: ls => bestFrom (if isBetter l b then some l else some b) ls

/-- The best line is the best from nothing on. -/
theorem best?_eq (lines : List Line) : best? lines = bestFrom none lines := by
  rw [best?]
  generalize (none : Option Line) = b?
  induction lines generalizing b? with
  | nil => rw [List.foldl_nil, bestFrom]
  | cons l ls ih =>
    rw [List.foldl_cons, ih]
    cases b? <;> rfl

/-- The best line is one of those that are looked at, or the one to start from. -/
theorem bestFrom_mem {l : Line} : ∀ {ls : List Line} {b? : Option Line},
    bestFrom b? ls = some l → l ∈ ls ∨ b? = some l
  | [], b?, h => Or.inr (by rwa [bestFrom] at h)
  | x :: xs, none, h => by
    rw [bestFrom] at h
    rcases bestFrom_mem h with hmem | hx
    · exact Or.inl (List.mem_cons_of_mem _ hmem)
    · exact Or.inl (by cases hx; exact List.mem_cons_self)
  | x :: xs, some b, h => by
    rw [bestFrom] at h
    split at h
    · rcases bestFrom_mem h with hmem | hx
      · exact Or.inl (List.mem_cons_of_mem _ hmem)
      · exact Or.inl (by cases hx; exact List.mem_cons_self)
    · exact (bestFrom_mem h).imp_left (List.mem_cons_of_mem _)

/-- The best line is one of the lines. -/
theorem best?_mem {lines : List Line} {l : Line} (h : best? lines = some l) : l ∈ lines := by
  rw [best?_eq] at h
  exact (bestFrom_mem h).resolve_right nofun

/-- A line was held while its request was open, and accepted with as many alternatives cancelled as
there were. -/
structure Accepts (h : Held) (n : Nat × Nat) (rows rows' : Rows) : Prop where
  held : h.In rows
  isOpen : rows.HasOpen h.request
  confirmed : rows'.HasConfirmed h.request.id
  count : n = rows.alternatives h

/-- What is given when a line was accepted. -/
def Held.outcome (h : Held) (n : Nat × Nat) (line : Line) (contract : Option Contract)
    (undelivered : Option String) : AcceptOutcome :=
  ⟨h.request.id, h.offer.id, line, contract, n.1, n.2, undelivered⟩

/-- A confirmation is one change, and then the investor is told. -/
theorem confirm_eq (c : Confirmation) (caller : Caller) (now : Instant) :
    ∃ m : Action (Held × Nat × Nat × Contract),
      Commits (fun x b b' => Deed (.operate (.confirm c) caller now) b b' ∧
        (x.1.line.request = c.request ∧ x.1.line.loan = c.loan) ∧
        Accepts x.1 (x.2.1, x.2.2.1) b.rows b'.rows ∧ ∃ n, b.last < n ∧
          x.2.2.2 = (ContractDraft.forLine x.1.request x.1.line).toContract n now ∧
          b'.rows = (b.rows.take x.1 .packageCreated caller.name now).sign x.2.2.2 now) m ∧
      confirm c caller now = m >>= fun x => do
        return x.1.outcome (x.2.1, x.2.2.1)
          ((x.1.line.withStatus .packageCreated now).withContract x.2.2.2.id now) (some x.2.2.2)
          (← deliver (.requestConfirmed (.of x.1.request) x.1.line.id (some x.2.2.2.id))) := by
  refine ⟨_, ⟨_, _, rfl, fun tx => ?_, fun tx b hk => ?_⟩, rfl⟩
  · refine (within_ask _ _).bind fun lines => ?_
    split
    · exact within_throw _
    · refine (within_hold _ _ _).bind fun h => ?_
      refine within_take h _ _ fun _ => ?_
      refine within_sign _ _ fun _ => ?_
      exact within_pure _
  · refine Brings.shared_ask_bind fun n hn free lines b₁ h₁ => ?_
    obtain ⟨rfl, rfl⟩ := Book.linesOfRequests_eq_ok.1 h₁
    split
    · exact Brings.throw fun _ _ => trivial
    · rename_i target htarget
      obtain ⟨htarget, hloan⟩ := List.mem_filter.1 (best?_mem htarget)
      obtain ⟨hget, hreq⟩ := hk.line_of_newest htarget
      refine Brings.bind (brings_hold (b := ⟨b.rows, n⟩) hk _ _ _) fun h ⟨rows₂, last₂⟩ h₂ => ?_
      obtain ⟨rfl, hn₂, hh, hoid, hlid, hpend, hmove⟩ := h₂
      have hline : h.line = target := by
        have hget' := hh.line
        rw [hlid, hget] at hget'
        exact (Option.some.inj hget').symm
      have hline : h.line.request = c.request ∧ h.line.loan = c.loan := by
        rw [hline]
        exact ⟨hreq, by simpa using hloan⟩
      refine brings_take h (by decide) _ fun n₃ hn₃ => ?_
      refine brings_sign (.forLine h.request h.line) fun k n₄ hk₄ hn₄ hnone => ?_
      refine Brings.pure fun ⟨rows', last⟩ ⟨hrows, hlast⟩ => ?_
      dsimp only at hn hn₂ hn₃ hk₄ hlast
      subst hrows
      obtain ⟨hopen, hconf⟩ := Rows.confirmed_take hk hh hpend .packageCreated caller.name now
      exact ⟨.confirm hh hline hpend hmove hnone (by omega) (by omega), hline,
        ⟨hh, hopen, hconf, rfl⟩, k, by omega, rfl, rfl⟩

/-- A confirmation tells the investor that the request is confirmed, with the contract. -/
theorem announces_confirm (c : Confirmation) :
    Announces (Deed (.operate (.confirm c) caller now)) (Operation.confirm c).Tells
      (Operation.confirm c).unheard (confirm c caller now) := by
  obtain ⟨m, hm, he⟩ := confirm_eq c caller now
  rw [he]
  refine .change hm And.left (fun _ => heedless_tell _ fun _ _ => rfl) fun x => ?_
  refine telling_tell _ fun undelivered b b' hC => ?_
  exact ⟨x.1.request, x.1.line.id, some x.2.2.2.id, rfl, rfl, hC.2.2.1.isOpen, hC.2.2.1.confirmed⟩

/-- An acceptance is one change, and then the investor is told. -/
theorem accept_eq (c : Acceptance) (caller : Caller) (now : Instant) :
    ∃ m : Action (Held × Nat × Nat),
      Commits (fun x b b' => Deed (.operate (.accept c) caller now) b b' ∧
        c = ⟨x.1.offer.id, x.1.line.id⟩ ∧ Accepts x.1 x.2 b.rows b'.rows ∧
        b'.rows = b.rows.take x.1 .creatingPackage caller.name now) m ∧
      accept c caller now = m >>= fun x => do
        return x.1.outcome x.2 (x.1.line.withStatus .creatingPackage now) none
          (← deliver (.requestConfirmed (.of x.1.request) x.1.line.id none)) := by
  refine ⟨_, ⟨_, _, rfl, fun tx => ?_, fun tx b hk => ?_⟩, rfl⟩
  · refine (within_ask _ _).bind fun x => ?_
    refine (within_ensure _).bind fun _ => ?_
    dsimp only
    split
    · exact within_throw _
    split
    · exact within_throw _
    · refine (within_hold _ _ _).bind fun h => ?_
      refine within_take h _ _ fun _ => ?_
      exact within_pure _
  · refine Brings.shared_ask_bind fun n hn free x b₁ h₁ => ?_
    obtain ⟨ho, hr, rfl⟩ := Book.offerWithRequest_eq_ok.1 h₁
    obtain ⟨o, r⟩ := x
    refine brings_ensure fun hscope => ?_
    dsimp only
    split
    · exact fun _ _ => trivial
    split
    · exact fun _ _ => trivial
    rename_i honline hexpired
    refine Brings.bind (brings_hold (b := ⟨b.rows, n⟩) hk _ _ _) fun h ⟨rows₂, last₂⟩ h₂ => ?_
    obtain ⟨rfl, hn₂, hh, hoid, hlid, hpend, hmove⟩ := h₂
    refine brings_take h (by decide) _ fun n₃ hn₃ => ?_
    refine Brings.pure fun ⟨rows', last⟩ ⟨hrows, hlast⟩ => ?_
    dsimp only at ho hr hn hn₂ hn₃ hlast
    subst hrows
    have hoffer : h.offer = o := by
      have hget := hh.offer
      rw [← hk.offers _ _ hget, hoid, hk.offers _ _ ho, ho] at hget
      exact (Option.some.inj hget).symm
    have hrequest : h.request = r := by
      have hget := hh.request
      rw [hoffer, hr] at hget
      exact (Option.some.inj hget).symm
    obtain rfl : c = ⟨h.offer.id, h.line.id⟩ := by
      rw [hoffer, hk.offers _ _ ho, hlid]
    obtain ⟨hopen, hconf⟩ := Rows.confirmed_take hk hh hpend .creatingPackage caller.name now
    exact ⟨.accept hh (by rw [hrequest]; exact hscope) (by rw [hoffer]; simpa using honline)
      (by rw [hoffer]; simpa using hexpired) hpend hmove (by omega), rfl, ⟨hh, hopen, hconf, rfl⟩, rfl⟩

/-- An acceptance tells the investor that the request is confirmed. -/
theorem announces_accept (c : Acceptance) :
    Announces (Deed (.operate (.accept c) caller now)) (Operation.accept c).Tells
      (Operation.accept c).unheard (accept c caller now) := by
  obtain ⟨m, hm, he⟩ := accept_eq c caller now
  rw [he]
  refine .change hm And.left (fun _ => heedless_tell _ fun _ _ => rfl) fun x => ?_
  refine telling_tell _ fun undelivered b b' hC => ?_
  exact ⟨x.1.request, x.1.line.id, none, rfl, rfl, hC.2.2.1.isOpen, hC.2.2.1.confirmed⟩

/-! ### Packages and guarantees -/

/-- The creation of a package tells nobody. -/
theorem announces_createPackage (line : Int) :
    Announces (Deed (.operate (.createPackage line) caller now)) (Operation.createPackage line).Tells
      (Operation.createPackage line).unheard (createPackage line now) := by
  refine .commit (C := fun _ => Deed (.operate (.createPackage line) caller now))
    ⟨_, _, rfl, fun tx => ?_, fun tx b hk => ?_⟩ id fun _ => rfl
  · refine (within_ask _ _).bind fun l => ?_
    refine (within_ask _ _).bind fun x => ?_
    refine (within_ask _ _).bind fun _ => ?_
    refine (within_findLine _ _).bind fun l => ?_
    refine (within_ensure _).bind fun _ => ?_
    refine (within_ask _ _).bind fun k? => ?_
    split
    · exact within_throw _
    · refine (within_ask _ _).bind fun _ => ?_
      refine within_sign _ _ fun _ => ?_
      exact within_pure _
  · refine Brings.shared_ask_bind fun n hn free l₁ b₁ h₁ => ?_
    obtain ⟨hl₁, rfl⟩ := Book.getLine_eq_ok.1 h₁
    refine Brings.shared_ask_bind fun n₂ hn₂ free₂ ⟨o, r⟩ b₂ h₂ => ?_
    obtain ⟨ho, hr, rfl⟩ := Book.offerWithRequest_eq_ok.1 h₂
    refine Brings.shared_ask_bind fun n₃ hn₃ free₃ ls b₃ h₃ => ?_
    obtain ⟨rfl, -, -, rfl⟩ := Book.lockLinesOfOffer_eq_ok.1 h₃
    refine brings_findLine fun l hl hlid => ?_
    refine brings_ensure fun hmove => ?_
    refine Brings.shared_ask_bind fun n₄ hn₄ free₄ k? b₄ h₄ => ?_
    obtain ⟨hk?, rfl⟩ := Book.contractOfLine_eq_ok.1 h₄
    dsimp only at hl₁ ho hr hl
    have hl := hk.lines.mem_values.1 (List.mem_filter.1 hl).1
    obtain rfl : l = l₁ := by
      rw [hlid, hl₁] at hl
      exact (Option.some.inj hl).symm
    split
    · exact Brings.throw fun _ _ => trivial
    · refine Brings.shared_ask_bind fun n₅ hn₅ free₅ _ b₅ h₅ => ?_
      obtain ⟨-, -, rfl⟩ := Book.setLineStatuses_eq_ok.1 h₅
      refine brings_sign (.forLine r l) fun k n₆ hk₆ hn₆ hnone => ?_
      refine Brings.pure fun ⟨rows', last⟩ ⟨hrows, hlast⟩ => ?_
      dsimp only at hn hn₂ hn₃ hn₄ hn₅ hk₆ hlast
      subst hrows hlid
      exact .createPackage (h := ⟨r, o, l⟩) ⟨hr, ho, hl₁⟩ (canMove_of_ensure hmove) hnone
        (by omega) (by omega)

/-- The end of a guarantee tells nobody. -/
theorem announces_setGuaranteeEnd (contract : Int) (at_ : Instant) :
    Announces (Deed (.operate (.setGuaranteeEnd contract at_) caller now))
      (Operation.setGuaranteeEnd contract at_).Tells (Operation.setGuaranteeEnd contract at_).unheard
      (setGuaranteeEnd contract at_) := by
  refine .commit (C := fun _ => Deed (.operate (.setGuaranteeEnd contract at_) caller now))
    ⟨_, _, rfl, fun tx => ?_, fun tx b hk => ?_⟩ id fun _ => rfl
  · refine (within_ask _ _).bind fun k => ?_
    dsimp only
    split
    · exact within_throw _
    · exact within_ask _ _
  · refine Brings.shared_ask_bind fun n hn free k b₁ h₁ => ?_
    obtain ⟨hget, rfl⟩ := Book.getContract_eq_ok.1 h₁
    dsimp only
    split
    · exact fun _ _ => trivial
    · rename_i hat
      refine Brings.shared_ask fun n₂ hn₂ free₂ k' b₂ h₂ last hlast => ?_
      obtain ⟨-, rfl⟩ := Book.setGuaranteeEnd_eq_ok.1 h₂
      dsimp only at hget hn hn₂ hlast
      have hid := hk.contracts _ _ hget
      rw [← hid] at hget ⊢
      exact .setGuaranteeEnd hget hat (by omega)

end Desk
end LoanDesk
