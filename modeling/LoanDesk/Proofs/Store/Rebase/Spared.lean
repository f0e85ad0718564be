/-
# Tables that calls leave alone

Most calls stage requests and lines only, or nothing at all, and so the other tables of what a
transaction has staged stay as they are (`Store.spares_moves`, `Store.spares_reads`). The calls that
write contracts or records, or delete a request, spare all tables but their own.
-/

import LoanDesk.Proofs.Store.Moves

namespace LoanDesk

namespace Call

/-- The call stages nothing. -/
def Reads : Call → Prop
  | .getRequest _ | .lockRequest _ _ | .listRequests _ _ | .countRequests _ | .claimAboveRate _ _
  | .claimBySymbol _ | .offerWithRequest _ | .offersOfRequest _ | .offersOfInvestor _ | .getLine _
  | .linesOfRequests _ | .expiredOffers _ | .lockLinesOfOffer _ | .getContract _ | .contractOfLine _
  | .currentCeiling _ | .listJobs _ _ => True
  | _ => False

/-- The call stages requests or lines, and nothing else. -/
def Moves : Call → Prop
  | .createRequest _ _ | .setRequestStatus _ _ _ | .setRequestStatuses _ _ _ | .createLines _ _ _ _
  | .cancelByOffer _ _ _ _ | .cancelExpired _ _ _ | .cancelLines _ _ _ _ | .cancelByRequests _ _ _ _
  | .setLineStatuses _ _ _ | .attachContract _ _ _ => True
  | _ => False

end Call

namespace Store

variable {tx : TxId} {α β γ : Type} {π : Changes → γ}

/-- A step of the transaction leaves a part of its changes as it is. -/
def Spares (tx : TxId) (π : Changes → γ) (m : Act α) : Prop :=
  ∀ s, π ((m s).2.changes tx) = π (s.changes tx)

/-- Giving a value spares every part of the changes. -/
theorem spares_pure (a : α) : Spares tx π (pure a : Act α) := fun _ => rfl

/-- Raising an error spares every part of the changes. -/
theorem spares_throw (e : StoreError) : Spares tx π (throw e : Act α) := fun _ => rfl

/-- Reading spares every part of the changes. -/
theorem spares_asks (f : Store → α) : Spares tx π (asks f) := fun _ => rfl

/-- Taking a number spares every part of the changes. -/
theorem spares_takeId : Spares tx π takeId := fun _ => rfl

/-- Staging spares the part of the changes that it does not write. -/
theorem spares_stages {f : Changes → Changes} (hf : ∀ c, π (f c) = π c) :
    Spares tx π (stages tx f) := by
  intro s
  change π ((s.stage tx f).changes tx) = _
  rw [changes_stage, hf]

/-- Two steps that spare a part do so one after the other. -/
theorem Spares.bind {m : Act α} {f : α → Act β} (hm : Spares tx π m)
    (hf : ∀ a, Spares tx π (f a)) : Spares tx π (m >>= f) := by
  intro s
  have hs := hm s
  rw [bind_apply]
  generalize m s = x at hs ⊢
  obtain ⟨r, t⟩ := x
  cases r with
  | ok a => exact (hf a t).trans hs
  | error e => exact hs

/-- Locking rows stages nothing. -/
theorem changes_tryLock {s t : Store} {keys : List RowKey} (h : s.tryLock tx keys = some t) :
    t.changes tx = s.changes tx := by
  unfold tryLock at h
  split at h
  · rw [← Option.some.inj h]
    rfl
  · cases h

/-- Locking rows spares every part of the changes. -/
theorem spares_lockOr (keys : List RowKey) (e : StoreError) : Spares tx π (lockOr tx keys e) := by
  intro s
  rw [lockOr_apply]
  cases ht : s.tryLock tx keys with
  | none => rfl
  | some t => exact congrArg π (changes_tryLock ht)

/-- Looking for a row that may be missing spares every part of the changes. -/
theorem spares_orError (e : StoreError) (a? : Option α) : Spares tx π (orError e a? : Act α) := by
  cases a? with
  | none => exact spares_throw e
  | some a => exact spares_pure a

/-- Reading a request spares every part of the changes. -/
theorem spares_request (id : Int) : Spares tx π (request tx id) :=
  (spares_asks _).bind fun _ => spares_orError _ _

/-- Claiming requests spares every part of the changes. -/
theorem spares_claim : ∀ (rs : List Request) (limit : Option Int), Spares tx π (claim tx limit rs)
  | [], _ => spares_pure []
  | r :: rs, limit => by
    by_cases hlimit : limit.any (· ≤ 0)
    · rw [claim_cons_of_limit hlimit]
      exact spares_pure []
    · intro s
      rw [claim_cons_apply hlimit]
      cases ht : s.tryLock tx [.request r.id] with
      | none => exact spares_claim rs limit s
      | some t =>
        exact (((spares_claim rs _).bind fun _ => spares_pure _) t).trans
          (congrArg π (changes_tryLock ht))

/-- Changing rows one after another spares what writing each of them spares. -/
theorem spares_changeEach {write : α → Act Unit} (hw : ∀ a, Spares tx π (write a)) (f : α → α) :
    ∀ (ids : List Int) (rows : Table α), Spares tx π (changeEach write f rows ids)
  | [], _ => spares_pure 0
  | id :: ids, rows => by
    rw [changeEach]
    split
    · exact (hw _).bind fun _ => (spares_changeEach hw f ids _).bind fun _ => spares_pure _
    · exact spares_changeEach hw f ids rows

/-- **Calls that read stage nothing**, whatever they lock. -/
theorem spares_reads : ∀ {c : Call}, c.Reads → Spares tx π (act tx c)
  | .getRequest id, _ => spares_request id
  | .lockRequest id _, _ => (spares_request id).bind fun _ => (spares_lockOr _ _).bind fun _ =>
      spares_pure _
  | .listRequests _ _, _ => spares_asks _
  | .countRequests _, _ => spares_asks _
  | .claimAboveRate _ _, _ => (spares_asks _).bind fun rs => spares_claim rs _
  | .claimBySymbol _, _ => (spares_asks _).bind fun rs => spares_claim rs _
  | .offerWithRequest _, _ => by
    refine (spares_asks _).bind fun _ => ?_
    refine (spares_orError _ _).bind fun _ => ?_
    refine (spares_request _).bind fun _ => ?_
    exact spares_pure _
  | .offersOfRequest _, _ => spares_asks _
  | .offersOfInvestor _, _ => spares_asks _
  | .getLine _, _ => (spares_asks _).bind fun _ => spares_orError _ _
  | .linesOfRequests _, _ => spares_asks _
  | .expiredOffers _, _ => spares_asks _
  | .lockLinesOfOffer offer, _ => by
    refine (spares_asks _).bind fun ls => ?_
    dsimp only
    split
    · exact (spares_throw _).bind fun _ => (spares_lockOr _ _).bind fun _ => spares_pure _
    · exact (spares_lockOr _ _).bind fun _ => spares_pure _
  | .getContract _, _ => (spares_asks _).bind fun _ => spares_orError _ _
  | .contractOfLine _, _ => spares_asks _
  | .currentCeiling _, _ => spares_asks _
  | .listJobs _ _, _ => spares_asks _

section Moves

variable (hr : ∀ c t, π { c with requests := t } = π c) (hl : ∀ c t, π { c with lines := t } = π c)

include hr

/-- Writing a request spares all but the table of requests. -/
theorem spares_writeRequest (r : Request) : Spares tx π (writeRequest tx r) :=
  (spares_lockOr _ _).bind fun _ => spares_stages fun c => hr c _

omit hr

include hl

/-- Writing a line spares all but the table of lines. -/
theorem spares_writeLine (l : Line) : Spares tx π (writeLine tx l) :=
  (spares_lockOr _ _).bind fun _ => spares_stages fun c => hl c _

/-- Writing lines spares all but the table of lines. -/
theorem spares_writeLines : ∀ ls : List Line, Spares tx π (writeLines tx ls)
  | [] => spares_pure ()
  | l :: ls => (spares_writeLine hl l).bind fun _ => spares_writeLines ls

/-- Cancelling lines spares all but the table of lines. -/
theorem spares_cancelWhere (select : Line → Bool) (by_ : String) (reason : CancelReason)
    (now : Instant) : Spares tx π (cancelWhere tx select by_ reason now) :=
  (spares_asks _).bind fun _ => (spares_writeLines hl _).bind fun _ => spares_pure _

/-- Creating lines spares all but the table of lines. -/
theorem spares_createLines (offer req : Int) (now : Instant) : ∀ ds : List LineDraft,
    Spares tx π (createLines tx offer req now ds)
  | [] => spares_pure []
  | _ :: ds => by
    refine spares_takeId.bind fun _ => ?_
    refine (spares_writeLine hl _).bind fun _ => ?_
    refine (spares_createLines offer req now ds).bind fun _ => ?_
    exact spares_pure _

include hr

/-- **Calls that write requests and lines stage nothing else**, whether they succeed or fail half
way. -/
theorem spares_moves {c : Call} (h : c.Moves) : Spares tx π (act tx c) := by
  cases c with
  | createRequest _ _ =>
    exact spares_takeId.bind fun _ => (spares_writeRequest hr _).bind fun _ => spares_pure _
  | setRequestStatus id _ _ => exact (spares_request id).bind fun _ => spares_writeRequest hr _
  | setRequestStatuses ids _ _ =>
    exact (spares_asks _).bind fun _ => spares_changeEach (spares_writeRequest hr) _ ids _
  | createLines _ _ ds _ => exact spares_createLines hl _ _ _ ds
  | cancelByOffer _ _ _ _ => exact spares_cancelWhere hl _ _ _ _
  | cancelExpired _ _ _ => exact spares_cancelWhere hl _ _ _ _
  | cancelLines _ _ _ _ => exact spares_cancelWhere hl _ _ _ _
  | cancelByRequests _ _ _ _ => exact spares_cancelWhere hl _ _ _ _
  | setLineStatuses ids _ _ =>
    exact (spares_asks _).bind fun _ => spares_changeEach (spares_writeLine hl) _ ids _
  | attachContract _ _ _ =>
    exact (spares_asks _).bind fun _ => (spares_orError _ _).bind fun _ => spares_writeLine hl _
  | _ => exact h.elim

end Moves

/-- Calls that write requests and lines spare the offers. -/
theorem spares_offers {c : Call} (h : c.Moves) : Spares tx Tables.offers (act tx c) :=
  spares_moves (fun _ _ => rfl) (fun _ _ => rfl) h

/-- Calls that write requests and lines spare the contracts. -/
theorem spares_contracts {c : Call} (h : c.Moves) : Spares tx Tables.contracts (act tx c) :=
  spares_moves (fun _ _ => rfl) (fun _ _ => rfl) h

/-- Writing a contract leaves all other tables alone. -/
theorem spares_createContract (hc : ∀ c t, π { c with contracts := t } = π c) (d : ContractDraft)
    (now : Instant) : Spares tx π (act tx (.createContract d now)) := by
  have hstage : Spares tx π (takeId >>= fun i => stages tx (fun c => { c with
      contracts := c.contracts.insert i (some (d.toContract i now)) }) >>= fun _ =>
        pure (d.toContract i now)) := by
    refine spares_takeId.bind fun _ => ?_
    exact (spares_stages fun c => hc c _).bind fun _ => spares_pure _
  refine (spares_asks _).bind fun found => ?_
  dsimp only
  split
  · exact (spares_throw _).bind fun _ => hstage
  · exact hstage

/-- Writing a record leaves all other tables alone. -/
theorem spares_createJob (hj : ∀ c t, π { c with jobs := t } = π c) (e : JobEntry) (now : Instant) :
    Spares tx π (act tx (.createJob e now)) := by
  refine spares_takeId.bind fun n => ?_
  exact (spares_stages fun c => hj c _).bind fun _ => spares_pure (e.toRecord n now)

/-- Deleting a request leaves contracts alone. -/
theorem spares_deleteRequest (id : Int) :
    Spares tx Tables.contracts (act tx (.deleteRequest id)) := by
  refine (spares_request id).bind fun _ => (spares_lockOr _ _).bind fun _ => ?_
  refine (spares_asks _).bind fun _ => ?_
  refine (spares_lockOr _ _).bind fun _ => ?_
  exact spares_stages fun _ => rfl

end Store
end LoanDesk
