/-
# Rows are locked before they are staged

A request or a line is locked before a change of it is staged, by every call there is. So a
transaction holds all requests and lines that it has staged, written or deleted (`Store.Guards`), and
keeps it so at every step that it makes (`Store.guarding_act`).
-/

import LoanDesk.Proofs.Program.Steps

namespace LoanDesk

/-! ### Rows under keys -/

/-- The row that is stored under a key. -/
def Rows.row? (rows : Rows) : RowKey → Option (Request ⊕ Line)
  | .request id => (rows.requests.get? id).map .inl
  | .line id => (rows.lines.get? id).map .inr

namespace Changes

/-- What changes make of the row under a key, if anything: a row, or none where it is to go. -/
def row? (c : Changes) : RowKey → Option (Option (Request ⊕ Line))
  | .request id => (c.requests.get? id).map (·.map .inl)
  | .line id => (c.lines.get? id).map (·.map .inr)

/-- Where nothing is changed nothing becomes of a row. -/
theorem row?_none (key : RowKey) : Changes.none.row? key = Option.none := by
  cases key <;> simp [row?, Changes.none]

/-- Of requests and lines only those under these keys are changed as well. -/
def Confined (keys : List RowKey) (f : Changes → Changes) : Prop :=
  ∀ c key, key ∉ keys → (f c).row? key = c.row? key

/-- Where neither requests nor lines are changed, none are under other keys. -/
theorem confined_of_eq {keys : List RowKey} {f : Changes → Changes}
    (hr : ∀ c, (f c).requests = c.requests) (hl : ∀ c, (f c).lines = c.lines) :
    Confined keys f := by
  intro c key _
  cases key with
  | request id => rw [row?, row?, hr]
  | line id => rw [row?, row?, hl]

/-- Changes under some keys are changes under more. -/
theorem Confined.mono {keys keys' : List RowKey} {f : Changes → Changes} (h : Confined keys f)
    (hk : ∀ key ∈ keys, key ∈ keys') : Confined keys' f :=
  fun c key hkey => h c key (mt (hk key) hkey)

/-- Writing a request changes the row under its key only. -/
theorem confined_putRequest (r : Request) :
    Confined [.request r.id] fun c => { c with requests := c.requests.insert r.id (some r) } := by
  intro c key hkey
  cases key with
  | request id =>
    have hne : r.id ≠ id := by
      rintro rfl
      exact hkey List.mem_cons_self
    simp only [row?, Table.get?_insert, if_neg hne]
  | line id => rfl

/-- Writing a line changes the row under its key only. -/
theorem confined_putLine (l : Line) :
    Confined [.line l.id] fun c => { c with lines := c.lines.insert l.id (some l) } := by
  intro c key hkey
  cases key with
  | request id => rfl
  | line id =>
    have hne : l.id ≠ id := by
      rintro rfl
      exact hkey List.mem_cons_self
    simp only [row?, Table.get?_insert, if_neg hne]

/-- A deletion changes the request and the lines that go with it. -/
theorem confined_remove (id : Int) (lines offers sheets : List Int) :
    Confined (lines.map .line ++ [.request id]) fun c => { c with
      lines := lines.foldl (·.insert · Option.none) c.lines
      offers := offers.foldl (·.insert · Option.none) c.offers
      sheets := sheets.foldl (·.insert · Option.none) c.sheets
      requests := c.requests.insert id Option.none } := by
  intro c key hkey
  rw [List.mem_append, not_or] at hkey
  cases key with
  | request i =>
    have hne : id ≠ i := by
      rintro rfl
      exact hkey.2 List.mem_cons_self
    simp only [row?, Table.get?_insert, if_neg hne]
  | line i =>
    have hmem : i ∉ lines := fun hm => hkey.1 (List.mem_map_of_mem hm)
    simp only [row?, Table.get?_foldl_insert_none lines _ hmem]

end Changes

/-- What a transaction sees under a key is its change there, or else what is stored. -/
theorem Rows.row?_overlay (rows : Rows) (c : Changes) (key : RowKey) :
    (rows.overlay c).row? key = (c.row? key).getD (rows.row? key) := by
  cases key with
  | request id =>
    simp only [row?, Changes.row?, overlay, Table.get?_overlay]
    cases c.requests.get? id <;> rfl
  | line id =>
    simp only [row?, Changes.row?, overlay, Table.get?_overlay]
    cases c.lines.get? id <;> rfl

namespace Store

/-- The transaction holds all requests and lines that it has staged, and besides these rows. -/
structure Guards (tx : TxId) (keys : List RowKey) (s : Store) : Prop where
  staged : ∀ key, ((s.changes tx).row? key).isSome → s.locks.holder? key = some tx
  held : ∀ key ∈ keys, s.locks.holder? key = some tx

/-- Who guards some rows guards fewer. -/
theorem Guards.mono {tx : TxId} {keys keys' : List RowKey} {s : Store} (h : Guards tx keys s)
    (hk : ∀ key ∈ keys', key ∈ keys) : Guards tx keys' s :=
  ⟨h.staged, fun key hkey => h.held key (hk key hkey)⟩

/-- The transaction has staged what it had and holds what it held. -/
theorem Guards.of_eq {tx : TxId} {keys : List RowKey} {s t : Store} (h : Guards tx keys s)
    (hc : t.opened.get? tx = s.opened.get? tx)
    (hl : ∀ key, s.locks.holder? key = some tx → t.locks.holder? key = some tx) :
    Guards tx keys t where
  staged key hkey := by
    rw [changes, hc] at hkey
    exact hl key (h.staged key hkey)
  held key hkey := hl key (h.held key hkey)

/-- A transaction that has staged nothing holds all that it has staged. -/
theorem guards_of_changes {tx : TxId} {s : Store} (h : s.changes tx = .none) : Guards tx [] s where
  staged key hkey := by
    rw [h, Changes.row?_none] at hkey
    cases hkey
  held key hkey := absurd hkey List.not_mem_nil

/-- The rows that are locked are guarded with those from before. -/
theorem Guards.tryLock {tx : TxId} {keys ks : List RowKey} {s t : Store} (h : Guards tx keys s)
    (ht : s.tryLock tx ks = some t) : Guards tx (ks ++ keys) t := by
  have hf := frame_tryLock ht
  unfold Store.tryLock at ht
  split at ht
  · obtain rfl := Option.some.inj ht
    refine ⟨fun key hkey => hf.held key (h.staged key hkey), fun key hkey => ?_⟩
    rcases List.mem_append.1 hkey with hkey | hkey
    · rw [Locks.holder?_foldl_take, if_pos hkey]
    · exact hf.held key (h.held key hkey)
  · cases ht

/-- A step of the transaction, made while it holds some rows, keeps it so that it holds what it has
staged. -/
def Guarding (tx : TxId) (keys : List RowKey) {α : Type} (m : Act α) : Prop :=
  ∀ s, Guards tx keys s → Guards tx keys (m s).2

section Guarding

variable {tx : TxId} {keys : List RowKey} {α β : Type}

/-- Giving a value keeps the guard. -/
theorem guarding_pure (a : α) : Guarding tx keys (pure a : Act α) := fun _ h => h

/-- Raising an error keeps the guard. -/
theorem guarding_throw (e : StoreError) : Guarding tx keys (throw e : Act α) := fun _ h => h

/-- Reading keeps the guard. -/
theorem guarding_asks (f : Store → α) : Guarding tx keys (asks f) := fun _ h => h

/-- Taking a number keeps the guard. -/
theorem guarding_takeId : Guarding tx keys takeId := fun _ h => ⟨h.staged, h.held⟩

/-- Changes of rows that are held keep the guard. -/
theorem guarding_stages {f : Changes → Changes} (hf : Changes.Confined keys f) :
    Guarding tx keys (stages tx f) := by
  intro s h
  refine ⟨fun key hkey => ?_, h.held⟩
  have hchanges : (s.stage tx f).changes tx = f (s.changes tx) := by
    rw [changes, stage, Table.get?_insert, if_pos rfl]
    rfl
  by_cases hmem : key ∈ keys
  · exact h.held key hmem
  · change (((s.stage tx f).changes tx).row? key).isSome at hkey
    rw [hchanges, hf _ key hmem] at hkey
    exact h.staged key hkey

/-- Two steps that keep the guard do so one after the other. -/
theorem Guarding.bind {m : Act α} {f : α → Act β} (hm : Guarding tx keys m)
    (hf : ∀ a, Guarding tx keys (f a)) : Guarding tx keys (m >>= f) := by
  intro s h
  have ht := hm s h
  rw [bind_apply]
  generalize m s = x at ht ⊢
  obtain ⟨r, t⟩ := x
  cases r with
  | ok a => exact hf a t ht
  | error e => exact ht

/-- Rows are locked, and what follows may rely on it. -/
theorem guarding_lockOr {ks : List RowKey} {e : StoreError} {f : Unit → Act β}
    (hf : Guarding tx (ks ++ keys) (f ())) : Guarding tx keys (lockOr tx ks e >>= f) := by
  intro s h
  rw [bind_apply, lockOr_apply]
  cases ht : s.tryLock tx ks with
  | none => exact h
  | some t => exact (hf t (h.tryLock ht)).mono fun key hkey => List.mem_append_right _ hkey

/-- Looking for a row that may be missing keeps the guard. -/
theorem guarding_orError (e : StoreError) (a? : Option α) :
    Guarding tx keys (orError e a? : Act α) := by
  cases a? with
  | none => exact guarding_throw e
  | some a => exact guarding_pure a

/-- Reading a request keeps the guard. -/
theorem guarding_request (id : Int) : Guarding tx keys (request tx id) :=
  (guarding_asks _).bind fun _ => guarding_orError _ _

/-- A request is locked before it is written. -/
theorem guarding_writeRequest (r : Request) : Guarding tx keys (writeRequest tx r) :=
  guarding_lockOr <| guarding_stages <| (Changes.confined_putRequest r).mono fun _ hkey =>
    List.mem_append_left _ hkey

/-- A line is locked before it is written. -/
theorem guarding_writeLine (l : Line) : Guarding tx keys (writeLine tx l) :=
  guarding_lockOr <| guarding_stages <| (Changes.confined_putLine l).mono fun _ hkey =>
    List.mem_append_left _ hkey

/-- Lines are each locked before they are written. -/
theorem guarding_writeLines : ∀ ls : List Line, Guarding tx keys (writeLines tx ls)
  | [] => guarding_pure ()
  | l :: ls => (guarding_writeLine l).bind fun _ => guarding_writeLines ls

/-- Lines are each locked before they are cancelled. -/
theorem guarding_cancelWhere (select : Line → Bool) (by_ : String) (reason : CancelReason)
    (now : Instant) : Guarding tx keys (cancelWhere tx select by_ reason now) :=
  (guarding_asks _).bind fun _ => (guarding_writeLines _).bind fun _ => guarding_pure _

/-- Rows under given numbers are each locked before they are changed. -/
theorem guarding_changeEach {write : α → Act Unit} (hw : ∀ a, Guarding tx keys (write a))
    (f : α → α) :
    ∀ (ids : List Int) (rows : Table α), Guarding tx keys (changeEach write f rows ids)
  | [], _ => guarding_pure 0
  | id :: ids, rows => by
    rw [changeEach]
    split
    · exact (hw _).bind fun _ => (guarding_changeEach hw f ids _).bind fun _ => guarding_pure _
    · exact guarding_changeEach hw f ids rows

/-- Claiming requests locks them and stages nothing. -/
theorem guarding_claim : ∀ (rs : List Request) (limit : Option Int),
    Guarding tx keys (claim tx limit rs)
  | [], _ => guarding_pure []
  | r :: rs, limit => by
    by_cases hlimit : limit.any (· ≤ 0)
    · rw [claim_cons_of_limit hlimit]
      exact guarding_pure []
    · intro s h
      rw [claim_cons_apply hlimit]
      cases ht : s.tryLock tx [.request r.id] with
      | none => exact guarding_claim rs limit s h
      | some t =>
        have hlocked := (h.tryLock ht).mono fun key hkey => List.mem_append_right _ hkey
        exact ((guarding_claim rs _).bind fun _ => guarding_pure _) t hlocked

/-- Lines are each locked before they are created. -/
theorem guarding_createLines (offer req : Int) (now : Instant) :
    ∀ ds : List LineDraft, Guarding tx keys (createLines tx offer req now ds)
  | [] => guarding_pure []
  | _ :: ds => by
    refine guarding_takeId.bind fun _ => ?_
    refine (guarding_writeLine _).bind fun _ => ?_
    refine (guarding_createLines offer req now ds).bind fun _ => ?_
    exact guarding_pure _

/-- Deleting stages requests and lines at once, under two locks taken one after another. -/
theorem guarding_deleteRequest (id : Int) : Guarding tx keys (deleteRequest tx id) := by
  refine (guarding_request id).bind fun _ => guarding_lockOr ?_
  refine (guarding_asks _).bind fun view => guarding_lockOr (guarding_stages ?_)
  refine (Changes.confined_remove id _ _ _).mono fun key hkey => ?_
  rw [← List.append_assoc]
  exact List.mem_append_left _ hkey

/-- What is staged of neither requests nor lines needs no lock. -/
theorem guarding_create {f : Int → Changes → Changes} {a : Int → α}
    (hr : ∀ i c, (f i c).requests = c.requests) (hl : ∀ i c, (f i c).lines = c.lines) :
    Guarding tx keys (takeId >>= fun i => stages tx (f i) >>= fun _ => pure (a i)) :=
  guarding_takeId.bind fun i =>
    (guarding_stages (Changes.confined_of_eq (hr i) (hl i))).bind fun _ => guarding_pure _

/-- **Every call locks the requests and lines that it stages**, whether it succeeds or fails half
way. -/
theorem guarding_act : ∀ c : Call, Guarding tx keys (act tx c)
  | .createRequest _ _ => guarding_takeId.bind fun _ => (guarding_writeRequest _).bind fun _ =>
      guarding_pure _
  | .getRequest id => guarding_request id
  | .lockRequest id _ => (guarding_request id).bind fun _ => guarding_lockOr (guarding_pure _)
  | .setRequestStatus id _ _ => (guarding_request id).bind fun _ => guarding_writeRequest _
  | .setRequestStatuses ids _ _ => (guarding_asks _).bind fun _ =>
      guarding_changeEach guarding_writeRequest _ ids _
  | .listRequests _ _ => guarding_asks _
  | .countRequests _ => guarding_asks _
  | .claimAboveRate _ _ => (guarding_asks _).bind fun rs => guarding_claim rs _
  | .claimBySymbol _ => (guarding_asks _).bind fun rs => guarding_claim rs _
  | .deleteRequest id => guarding_deleteRequest id
  | .createOffer _ _ => (guarding_request _).bind fun _ =>
      guarding_create (fun _ _ => rfl) (fun _ _ => rfl)
  | .createLines _ _ ds _ => guarding_createLines _ _ _ ds
  | .offerWithRequest _ => by
    refine (guarding_asks _).bind fun _ => ?_
    refine (guarding_orError _ _).bind fun _ => ?_
    refine (guarding_request _).bind fun _ => ?_
    exact guarding_pure _
  | .offersOfRequest _ => guarding_asks _
  | .offersOfInvestor _ => guarding_asks _
  | .getLine _ => (guarding_asks _).bind fun _ => guarding_orError _ _
  | .linesOfRequests _ => guarding_asks _
  | .expiredOffers _ => guarding_asks _
  | .lockLinesOfOffer offer => by
    refine (guarding_asks _).bind fun ls => ?_
    dsimp only
    split
    · exact (guarding_throw _).bind fun _ => guarding_lockOr (guarding_pure _)
    · exact guarding_lockOr (guarding_pure _)
  | .cancelByOffer _ _ _ _ => guarding_cancelWhere _ _ _ _
  | .cancelExpired _ _ _ => guarding_cancelWhere _ _ _ _
  | .cancelLines _ _ _ _ => guarding_cancelWhere _ _ _ _
  | .cancelByRequests _ _ _ _ => guarding_cancelWhere _ _ _ _
  | .setLineStatuses ids _ _ => (guarding_asks _).bind fun _ =>
      guarding_changeEach guarding_writeLine _ ids _
  | .attachContract _ _ _ => (guarding_asks _).bind fun _ => (guarding_orError _ _).bind fun _ =>
      guarding_writeLine _
  | .createSheet _ _ _ _ => (guarding_request _).bind fun _ =>
      guarding_create (fun _ _ => rfl) (fun _ _ => rfl)
  | .createContract _ _ => by
    refine (guarding_asks _).bind fun found => ?_
    dsimp only
    split
    · exact (guarding_throw _).bind fun _ => guarding_create (fun _ _ => rfl) (fun _ _ => rfl)
    · exact guarding_create (fun _ _ => rfl) (fun _ _ => rfl)
  | .getContract _ => (guarding_asks _).bind fun _ => guarding_orError _ _
  | .contractOfLine _ => guarding_asks _
  | .setGuaranteeEnd _ _ => by
    refine (guarding_asks _).bind fun _ => (guarding_orError _ _).bind fun k => ?_
    refine (guarding_stages ?_).bind fun _ => guarding_pure _
    exact Changes.confined_of_eq (fun _ => rfl) (fun _ => rfl)
  | .currentCeiling _ => guarding_asks _
  | .createCeiling _ _ _ => guarding_create (fun _ _ => rfl) (fun _ _ => rfl)
  | .createJob _ _ => guarding_create (fun _ _ => rfl) (fun _ _ => rfl)
  | .listJobs _ _ => guarding_asks _

end Guarding

end Store
end LoanDesk
