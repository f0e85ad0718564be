/-
# What a call leaves alone

A call of a transaction changes what that transaction has staged, the locks that it holds and the
counter of numbers. `Store.Frame` says what it leaves alone: the stored rows, what the others have
staged and the locks that the others hold; and its own locks it keeps. Every call stays within its
frame, whether it succeeds or fails half way (`Store.perform_frame`).
-/

import LoanDesk.Proofs.Store.Table
import LoanDesk.Store.State

namespace LoanDesk

/-! ### Holders of locks -/

namespace Locks

/-- The row that is taken has the taker for its holder, and all others have theirs. -/
theorem holder?_take (l : Locks) (tx : TxId) (key i : RowKey) :
    (l.take tx key).holder? i = if key = i then some tx else l.holder? i := by
  cases key <;> cases i <;> simp [take, holder?, Table.get?_insert]

/-- The rows of the transaction are free, and all others have their holders. -/
theorem holder?_release (l : Locks) (tx : TxId) (key : RowKey) :
    (l.release tx).holder? key = (l.holder? key).filter (· != tx) := by
  cases key <;> simp [release, holder?, Table.get?_filter]

/-- Locks are the same where every row has the same holder. -/
theorem ext {l m : Locks} (h : ∀ key, l.holder? key = m.holder? key) : l = m := by
  cases l
  cases m
  congr 1
  · exact Table.ext fun k => h (.request k)
  · exact Table.ext fun k => h (.line k)

/-- A row is free to a transaction if nobody else holds it. -/
theorem isFree_iff {l : Locks} {tx : TxId} {key : RowKey} :
    l.isFree tx key ↔ ∀ holder, l.holder? key = some holder → holder = tx := by
  unfold isFree
  cases h : l.holder? key with
  | none => simp
  | some holder => simp

/-- Rows that are taken one after another all have the taker for their holder. -/
theorem holder?_foldl_take (keys : List RowKey) (l : Locks) (tx : TxId) (i : RowKey) :
    (keys.foldl (·.take tx) l).holder? i = if i ∈ keys then some tx else l.holder? i := by
  induction keys generalizing l with
  | nil => simp
  | cons key keys ih =>
    rw [List.foldl_cons, ih, holder?_take]
    by_cases hi : i ∈ keys
    · simp [hi]
    · by_cases hk : key = i
      · simp [hk]
      · simp [hi, hk, Ne.symm hk]

end Locks

namespace Store

/-! ### Frames -/

/-- What a step of the transaction `tx` leaves alone. -/
structure Frame (tx : TxId) (s t : Store) : Prop where
  rows : t.rows = s.rows
  lastTx : t.lastTx = s.lastTx
  lastId : s.lastId ≤ t.lastId
  others : ∀ i, i ≠ tx → t.opened.get? i = s.opened.get? i
  stays : (s.opened.get? tx).isSome → (t.opened.get? tx).isSome
  locks : ∀ key i, i ≠ tx → (t.locks.holder? key = some i ↔ s.locks.holder? key = some i)
  held : ∀ key, s.locks.holder? key = some tx → t.locks.holder? key = some tx

/-- Where no step is made everything is left alone. -/
theorem Frame.refl (tx : TxId) (s : Store) : Frame tx s s :=
  ⟨rfl, rfl, Int.le_refl _, fun _ _ => rfl, id, fun _ _ _ => Iff.rfl, fun _ => id⟩

/-- What two steps leave alone they leave alone one after the other. -/
theorem Frame.trans {tx : TxId} {s t u : Store} (h₁ : Frame tx s t) (h₂ : Frame tx t u) :
    Frame tx s u where
  rows := h₂.rows.trans h₁.rows
  lastTx := h₂.lastTx.trans h₁.lastTx
  lastId := Int.le_trans h₁.lastId h₂.lastId
  others i hi := (h₂.others i hi).trans (h₁.others i hi)
  stays h := h₂.stays (h₁.stays h)
  locks key i hi := (h₂.locks key i hi).trans (h₁.locks key i hi)
  held key h := h₂.held key (h₁.held key h)

/-- Staging something leaves all that is stored alone, and the locks. -/
theorem frame_stage (s : Store) (tx : TxId) (f : Changes → Changes) : Frame tx s (s.stage tx f) where
  rows := rfl
  lastTx := rfl
  lastId := Int.le_refl _
  others i hi := by rw [stage, Table.get?_insert, if_neg (Ne.symm hi)]
  stays _ := by rw [stage, Table.get?_insert, if_pos rfl]; rfl
  locks _ _ _ := Iff.rfl
  held _ h := h

/-- Rows are locked only where nobody else holds them, so the locks of others stay. -/
theorem frame_tryLock {s t : Store} {tx : TxId} {keys : List RowKey}
    (h : s.tryLock tx keys = some t) : Frame tx s t := by
  unfold tryLock at h
  split at h
  · rename_i hfree
    obtain rfl := Option.some.inj h
    refine ⟨rfl, rfl, Int.le_refl _, fun _ _ => rfl, id, fun key i hi => ?_, fun key hk => ?_⟩
    · rw [Locks.holder?_foldl_take]
      split
      · rename_i hkey
        have := Locks.isFree_iff.1 (List.all_eq_true.1 hfree key hkey) i
        exact ⟨fun he => absurd (Option.some.inj he).symm hi, fun he => absurd (this he) hi⟩
      · exact Iff.rfl
    · rw [Locks.holder?_foldl_take]
      split
      · rfl
      · exact hk
  · cases h

/-- Taking a number moves nothing but the counter. -/
theorem frame_newId (s : Store) (tx : TxId) : Frame tx s s.newId.2 :=
  ⟨rfl, rfl, by simp only [newId]; omega, fun _ _ => rfl, id, fun _ _ _ => Iff.rfl, fun _ => id⟩

/-- The step stays within the frame of its transaction, however it ends. -/
def Framed (tx : TxId) {α : Type} (m : Act α) : Prop := ∀ s, Frame tx s (m s).2

section Framed

variable {tx : TxId} {α β : Type}

/-- The second step is made on the answer of the first, or not at all after an error. -/
theorem bind_apply (m : Act α) (f : α → Act β) (s : Store) :
    (m >>= f) s = match m s with
      | (.ok a, t) => f a t
      | (.error e, t) => (.error e, t) := by
  change (match m s with | (r, t) => ExceptT.bindCont f r t) = _
  obtain ⟨r, t⟩ := m s
  cases r <;> rfl

/-- Giving a value leaves everything alone. -/
theorem framed_pure (a : α) : Framed tx (pure a : Act α) := Frame.refl tx

/-- Raising an error leaves everything alone. -/
theorem framed_throw (e : StoreError) : Framed tx (throw e : Act α) := Frame.refl tx

/-- Reading leaves everything alone. -/
theorem framed_asks (f : Store → α) : Framed tx (asks f) := Frame.refl tx

/-- Taking a number stays within the frame. -/
theorem framed_takeId : Framed tx takeId := fun s => frame_newId s tx

/-- Staging changes stays within the frame. -/
theorem framed_stages (f : Changes → Changes) : Framed tx (stages tx f) := fun s =>
  frame_stage s tx f

/-- Two steps that stay within the frame do so one after the other. -/
theorem Framed.bind {m : Act α} {f : α → Act β} (hm : Framed tx m) (hf : ∀ a, Framed tx (f a)) :
    Framed tx (m >>= f) := by
  intro s
  have hs := hm s
  rw [bind_apply]
  generalize m s = x at hs ⊢
  obtain ⟨r, t⟩ := x
  cases r with
  | ok a => exact hs.trans (hf a t)
  | error e => exact hs

/-- Rows are locked all together, or the error is raised and none is. -/
theorem lockOr_apply (keys : List RowKey) (e : StoreError) (s : Store) :
    lockOr tx keys e s = match s.tryLock tx keys with
      | some t => (.ok (), t)
      | none => (.error e, s) := by
  rw [lockOr, bind_apply]
  change (match s.tryLock tx keys with | some t => _ | none => _ : Act Unit) s = _
  cases s.tryLock tx keys <;> rfl

/-- Locking rows stays within the frame. -/
theorem framed_lockOr (keys : List RowKey) (e : StoreError) : Framed tx (lockOr tx keys e) := by
  intro s
  rw [lockOr_apply]
  cases h : s.tryLock tx keys with
  | none => exact Frame.refl tx s
  | some t => exact frame_tryLock h

/-- Looking for a row that may be missing stays within the frame. -/
theorem framed_orError (e : StoreError) (a? : Option α) : Framed tx (orError e a?) := by
  cases a? with
  | none => exact framed_throw e
  | some a => exact framed_pure a

/-- Reading a request stays within the frame. -/
theorem framed_request (id : Int) : Framed tx (request tx id) :=
  (framed_asks _).bind fun _ => framed_orError _ _

/-- Writing a request stays within the frame. -/
theorem framed_writeRequest (r : Request) : Framed tx (writeRequest tx r) :=
  (framed_lockOr _ _).bind fun _ => framed_stages _

/-- Writing a line stays within the frame. -/
theorem framed_writeLine (l : Line) : Framed tx (writeLine tx l) :=
  (framed_lockOr _ _).bind fun _ => framed_stages _

/-- Writing lines one after another stays within the frame. -/
theorem framed_writeLines : ∀ ls : List Line, Framed tx (writeLines tx ls)
  | [] => framed_pure ()
  | l :: ls => (framed_writeLine l).bind fun _ => framed_writeLines ls

/-- Cancelling the lines that are selected stays within the frame. -/
theorem framed_cancelWhere (select : Line → Bool) (by_ : String) (reason : CancelReason)
    (now : Instant) : Framed tx (cancelWhere tx select by_ reason now) :=
  (framed_asks _).bind fun _ => (framed_writeLines _).bind fun _ => framed_pure _

/-- Changing the rows under given numbers one after another stays within the frame. -/
theorem framed_changeEach {write : α → Act Unit} (hw : ∀ a, Framed tx (write a)) (f : α → α) :
    ∀ (ids : List Int) (rows : Table α), Framed tx (changeEach write f rows ids)
  | [], _ => framed_pure 0
  | id :: ids, rows => by
    rw [changeEach]
    split
    · exact (hw _).bind fun _ => (framed_changeEach hw f ids _).bind fun _ => framed_pure _
    · exact framed_changeEach hw f ids rows

/-- The first of the requests to be claimed is locked, or passed over where others hold it. -/
theorem claim_cons_apply {limit : Option Int} (hlimit : ¬limit.any (· ≤ 0)) (r : Request)
    (rs : List Request) (s : Store) :
    claim tx limit (r :: rs) s = match s.tryLock tx [.request r.id] with
      | some t => (do return r :: (← claim tx (limit.map (· - 1)) rs)) t
      | none => claim tx limit rs s := by
  have hget : (get : Act Store) s = (.ok s, s) := rfl
  rw [claim, if_neg hlimit, bind_apply, hget]
  dsimp only
  cases s.tryLock tx [.request r.id] <;> rfl

/-- Nothing more is claimed once the limit is reached. -/
theorem claim_cons_of_limit {limit : Option Int} (hlimit : limit.any (· ≤ 0)) (r : Request)
    (rs : List Request) : claim tx limit (r :: rs) = pure [] := by
  rw [claim, if_pos hlimit]

/-- Claiming requests stays within the frame: each is locked only if it is free. -/
theorem framed_claim : ∀ (rs : List Request) (limit : Option Int), Framed tx (claim tx limit rs)
  | [], _ => framed_pure []
  | r :: rs, limit => by
    by_cases hlimit : limit.any (· ≤ 0)
    · rw [claim_cons_of_limit hlimit]
      exact framed_pure []
    · intro s
      rw [claim_cons_apply hlimit]
      cases h : s.tryLock tx [.request r.id] with
      | none => exact framed_claim rs limit s
      | some t =>
        refine (frame_tryLock h).trans ?_
        exact ((framed_claim rs _).bind fun _ => framed_pure _) t

/-- A new number is taken, and something is staged under it. -/
theorem framed_create {f : Int → Changes → Changes} {a : Int → α} :
    Framed tx (takeId >>= fun i => stages tx (f i) >>= fun _ => pure (a i)) := by
  refine framed_takeId.bind fun i => ?_
  refine (framed_stages _).bind fun _ => ?_
  exact framed_pure _

/-- Creating lines stays within the frame. -/
theorem framed_createLines (offer req : Int) (now : Instant) :
    ∀ ds : List LineDraft, Framed tx (createLines tx offer req now ds)
  | [] => framed_pure []
  | _ :: ds => by
    refine framed_takeId.bind fun _ => ?_
    refine (framed_writeLine _).bind fun _ => ?_
    refine (framed_createLines offer req now ds).bind fun _ => ?_
    exact framed_pure _

/-- Deleting a request stays within the frame. -/
theorem framed_deleteRequest (id : Int) : Framed tx (deleteRequest tx id) := by
  refine (framed_request id).bind fun _ => ?_
  refine (framed_lockOr _ _).bind fun _ => ?_
  refine (framed_asks _).bind fun _ => ?_
  refine (framed_lockOr _ _).bind fun _ => ?_
  exact framed_stages _

/-- **A call stays within the frame of its transaction**, whether it succeeds or fails half way. -/
theorem framed_act : ∀ c : Call, Framed tx (act tx c)
  | .createRequest _ _ => framed_takeId.bind fun _ => (framed_writeRequest _).bind fun _ =>
      framed_pure _
  | .getRequest id => framed_request id
  | .lockRequest id _ => (framed_request id).bind fun _ => (framed_lockOr _ _).bind fun _ =>
      framed_pure _
  | .setRequestStatus id _ _ => (framed_request id).bind fun _ => framed_writeRequest _
  | .setRequestStatuses ids _ _ => (framed_asks _).bind fun _ =>
      framed_changeEach framed_writeRequest _ ids _
  | .listRequests _ _ => framed_asks _
  | .countRequests _ => framed_asks _
  | .claimAboveRate _ _ => (framed_asks _).bind fun rs => framed_claim rs _
  | .claimBySymbol _ => (framed_asks _).bind fun rs => framed_claim rs _
  | .deleteRequest id => framed_deleteRequest id
  | .createOffer _ _ => (framed_request _).bind fun _ => framed_create
  | .createLines _ _ ds _ => framed_createLines _ _ _ ds
  | .offerWithRequest _ => by
    refine (framed_asks _).bind fun _ => ?_
    refine (framed_orError _ _).bind fun _ => ?_
    refine (framed_request _).bind fun _ => ?_
    exact framed_pure _
  | .offersOfRequest _ => framed_asks _
  | .offersOfInvestor _ => framed_asks _
  | .getLine _ => (framed_asks _).bind fun _ => framed_orError _ _
  | .linesOfRequests _ => framed_asks _
  | .expiredOffers _ => framed_asks _
  | .lockLinesOfOffer offer => by
    refine (framed_asks _).bind fun ls => ?_
    dsimp only
    split
    · exact (framed_throw _).bind fun _ => (framed_lockOr _ _).bind fun _ => framed_pure _
    · exact (framed_pure _).bind fun _ => (framed_lockOr _ _).bind fun _ => framed_pure _
  | .cancelByOffer _ _ _ _ => framed_cancelWhere _ _ _ _
  | .cancelExpired _ _ _ => framed_cancelWhere _ _ _ _
  | .cancelLines _ _ _ _ => framed_cancelWhere _ _ _ _
  | .cancelByRequests _ _ _ _ => framed_cancelWhere _ _ _ _
  | .setLineStatuses ids _ _ => (framed_asks _).bind fun _ =>
      framed_changeEach framed_writeLine _ ids _
  | .attachContract _ _ _ => (framed_asks _).bind fun _ => (framed_orError _ _).bind fun _ =>
      framed_writeLine _
  | .createSheet _ _ _ _ => (framed_request _).bind fun _ => framed_create
  | .createContract _ _ => by
    refine (framed_asks _).bind fun found => ?_
    dsimp only
    split
    · exact (framed_throw _).bind fun _ => framed_create
    · exact framed_create
  | .getContract _ => (framed_asks _).bind fun _ => framed_orError _ _
  | .contractOfLine _ => framed_asks _
  | .setGuaranteeEnd _ _ => by
    refine (framed_asks _).bind fun _ => ?_
    refine (framed_orError _ _).bind fun _ => ?_
    refine (framed_stages _).bind fun _ => ?_
    exact framed_pure _
  | .currentCeiling _ => framed_asks _
  | .createCeiling _ _ _ => framed_create
  | .createJob _ _ => framed_create
  | .listJobs _ _ => framed_asks _

end Framed

/-- **A call of a transaction stays within its frame**, however it ends. -/
theorem perform_frame (s : Store) (tx : TxId) (c : Call) : Frame tx s (s.perform tx c).2 :=
  framed_act c s

end Store
end LoanDesk
