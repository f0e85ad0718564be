/-
# How calls fail

A call that is no statement over many rows fails before it changes anything (`Store.Undone`), but for
a deletion, which may have locked the request by then (`Store.aftermath_deleteRequest`).
-/

import LoanDesk.Proofs.Store.Residue.Writes

namespace LoanDesk
namespace Store

variable {tx : TxId} {s t : Store}

/-! ### Statements over many rows -/

/-- A statement over many rows writes them one after another. -/
theorem aftermath_of_writes {c : Call} (hg : s.grip tx c = (s.residue tx c).map .of) {a : c.Answer}
    (ha : act tx c s = (writeEach (write tx) (c.targets (s.view tx)) >>= fun _ => pure a) s)
    {e : StoreError} (hp : act tx c s = (.error e, t)) : Aftermath tx s c t := by
  obtain ⟨hleft, hok⟩ := leaves_writeEach tx (c.targets (s.view tx)) s
  rw [ha, bind_apply] at hp
  generalize writeEach (write tx) (c.targets (s.view tx)) s = out at hp hleft hok
  obtain ⟨r, u⟩ := out
  cases r with
  | ok => cases hp
  | error e' =>
    cases hp
    rw [residue] at hg
    refine ⟨by rw [hg]; exact hleft, fun _ => takeWhile_append_cons fun hall => ?_, fun hne => ?_⟩
    · cases hok hall
    · exact Or.inl fun hnil => hne (by rw [hg]; exact congrArg (List.map RowKey.of) hnil)

/-- Cancelling the lines that are selected writes them one after another and counts them. -/
theorem cancelWhere_eq (p : Line → Bool) (by_ : String) (reason : CancelReason) (now : Instant)
    (s : Store) : cancelWhere tx p by_ reason now s =
      (writeEach (write tx) (Call.targets.cancelled (s.view tx) p by_ reason now) >>= fun _ =>
        pure ((s.view tx).lines.values.filter fun l => l.isPending && p l).length) s := by
  rw [Call.targets.cancelled, writeEach_map]
  change (writeLines tx _ >>= fun _ => pure _) s = _
  rw [writeLines_eq]
  rfl

/-- Setting the status of requests writes them one after another and counts them. -/
theorem setRequestStatuses_eq (ids : List Int) (status : RequestStatus) (now : Instant)
    (s : Store) : act tx (.setRequestStatuses ids status now) s =
      (writeEach (write tx) (Call.targets (s.view tx) (.setRequestStatuses ids status now)) >>=
        fun _ => pure ((s.view tx).requests.pick ids).length) s := by
  rw [Call.targets, writeEach_map]
  change changeEach _ _ (s.view tx).requests ids s = _
  rw [changeEach_eq]
  rfl

/-- Setting the status of lines writes them one after another and counts them. -/
theorem setLineStatuses_eq (ids : List Int) (status : LineStatus) (now : Instant)
    (s : Store) : act tx (.setLineStatuses ids status now) s =
      (writeEach (write tx) (Call.targets (s.view tx) (.setLineStatuses ids status now)) >>=
        fun _ => pure ((s.view tx).lines.pick ids).length) s := by
  rw [Call.targets, writeEach_map]
  change changeEach _ _ (s.view tx).lines ids s = _
  rw [changeEach_eq]
  rfl

/-! ### All other calls -/

/-- The step does not fail. -/
def Sure {α : Type} (m : Act α) : Prop := ∀ s, ∃ a, (m s).1 = .ok a

/-- The step fails only before it changes anything. -/
def Undone (tx : TxId) (s : Store) {α : Type} (m : Act α) : Prop :=
  ∀ e t, m s = (.error e, t) → Leaves tx [] [] s t

section Undone

variable {α β : Type}

/-- Giving a value does not fail. -/
theorem sure_pure (a : α) : Sure (pure a : Act α) := fun _ => ⟨a, rfl⟩

/-- Reading does not fail. -/
theorem sure_asks (f : Store → α) : Sure (asks f) := fun s => ⟨f s, rfl⟩

/-- Taking a number does not fail. -/
theorem sure_takeId : Sure takeId := fun s => ⟨s.lastId + 1, rfl⟩

/-- Staging changes does not fail. -/
theorem sure_stages (f : Changes → Changes) : Sure (stages tx f) := fun _ => ⟨(), rfl⟩

/-- Two steps that do not fail do not fail one after the other. -/
theorem Sure.bind {m : Act α} {f : α → Act β} (hm : Sure m) (hf : ∀ a, Sure (f a)) :
    Sure (m >>= f) := by
  intro s
  obtain ⟨a, ha⟩ := hm s
  rw [bind_apply]
  generalize m s = x at ha
  obtain ⟨r, t⟩ := x
  obtain rfl : r = .ok a := ha
  exact hf a t

/-- Taking a number and staging something under it does not fail. -/
theorem sure_create {f : Int → Changes → Changes} {a : Int → α} :
    Sure (takeId >>= fun i => stages tx (f i) >>= fun _ => pure (a i)) :=
  sure_takeId.bind fun _ => (sure_stages _).bind fun _ => sure_pure _

/-- Claiming does not fail: what is not free is passed over. -/
theorem sure_claim : ∀ (rs : List Request) (limit : Option Int), Sure (claim tx limit rs)
  | [], _ => sure_pure []
  | r :: rs, limit => by
    by_cases hlimit : limit.any (· ≤ 0)
    · rw [claim_cons_of_limit hlimit]
      exact sure_pure []
    · intro s
      rw [claim_cons_apply hlimit]
      cases s.tryLock tx [.request r.id] with
      | none => exact sure_claim rs limit s
      | some t => exact ((sure_claim rs _).bind fun _ => sure_pure _) t

/-- A step that succeeds does not fail half way. -/
theorem undone_of_ok {m : Act α} {a : α} (h : (m s).1 = .ok a) : Undone tx s m := by
  intro e t hp
  rw [hp] at h
  cases h

/-- A step that does not fail at all does not fail half way. -/
theorem Sure.undone {m : Act α} (hm : Sure m) : Undone tx s m :=
  undone_of_ok (hm s).choose_spec

/-- Reading first makes no difference to what a failure leaves. -/
theorem Undone.asks {f : Store → α} {g : α → Act β} (hg : Undone tx s (g (f s))) :
    Undone tx s (asks f >>= g) := hg

/-- A step that fails only before it changes anything may be followed by what does not fail. -/
theorem Undone.bind_sure {m : Act α} {f : α → Act β} (hm : Undone tx s m) (hf : ∀ a, Sure (f a)) :
    Undone tx s (m >>= f) := by
  intro e t hp
  rw [bind_apply] at hp
  cases hx : m s with
  | mk r u =>
    rw [hx] at hp
    cases r with
    | ok a =>
      obtain ⟨b, hb⟩ := hf a u
      rw [show f a u = _ from hp] at hb
      cases hb
    | error e' =>
      obtain rfl : u = t := congrArg Prod.snd hp
      exact hm e' u hx

/-- Looking for a row that may be missing changes nothing. -/
theorem undone_orError (e : StoreError) (a? : Option α) : Undone tx s (orError e a?) := by
  intro e' t hp
  cases a? with
  | none =>
    cases hp
    exact .refl tx s
  | some a => cases hp

/-- Looking for a row that may be missing changes nothing before what follows on it. -/
theorem undone_orError_bind (e : StoreError) {a? : Option α} {f : α → Act β}
    (hf : ∀ a, Undone tx s (f a)) : Undone tx s (orError e a? >>= f) := by
  cases a? with
  | none => exact undone_orError (α := β) e none
  | some a => exact hf a

/-- Reading a request changes nothing before what follows on it. -/
theorem undone_request {id : Int} {f : Request → Act β} (hf : ∀ r, Undone tx s (f r)) :
    Undone tx s (request tx id >>= f) :=
  undone_orError_bind (.notFound "request" id) hf

/-- Rows are locked all together, or none is. -/
theorem undone_lockOr (keys : List RowKey) (e : StoreError) : Undone tx s (lockOr tx keys e) := by
  intro e' t hp
  rw [lockOr_apply] at hp
  cases ht : s.tryLock tx keys with
  | none =>
    rw [ht] at hp
    cases hp
    exact .refl tx s
  | some u =>
    rw [ht] at hp
    cases hp

/-- A request that cannot be locked is not written. -/
theorem undone_writeRequest (r : Request) : Undone tx s (writeRequest tx r) :=
  (undone_lockOr _ _).bind_sure fun _ => sure_stages _

/-- A line that cannot be locked is not written. -/
theorem undone_writeLine (l : Line) : Undone tx s (writeLine tx l) :=
  (undone_lockOr _ _).bind_sure fun _ => sure_stages _

/-- A row under a number that is new can be written. -/
theorem Numbered.write_new (h : s.Numbered) (tx : TxId) {x : Request ⊕ Line}
    (hx : (RowKey.of x).number = s.lastId + 1) :
    ∃ t, write tx x s.newId.2 = (.ok (), t) ∧ t.Numbered := by
  have hnumber : Move tx s s.newId.2 := .number
  have hfree : s.newId.2.locks.isFree tx (.of x) = true := by
    refine Locks.isFree_iff.2 fun i hi => absurd (h.held _ i hi) ?_
    omega
  obtain ⟨t, ht, -⟩ := write_of_free hfree
  have hmoving : Moving tx (s.lastId + 1) (write tx x) := by
    cases x with
    | inl r => exact moving_writeRequest (Int.le_of_eq hx) rfl
    | inr l => exact moving_writeLine (Int.le_of_eq hx) rfl
  have hmoves := hmoving s.newId.2 (Int.le_refl _)
  rw [ht] at hmoves
  exact ⟨t, ht, hmoves.numbered (hnumber.numbered h)⟩

/-- A request is created in any case: nobody holds the number just taken. -/
theorem createRequest_ok (h : s.Numbered) (tx : TxId) (d : RequestDraft) (now : Instant) :
    ∃ r, (act tx (.createRequest d now) s).1 = .ok r := by
  obtain ⟨t, ht, -⟩ := h.write_new tx (x := .inl (d.toRequest (s.lastId + 1) now)) rfl
  refine ⟨d.toRequest (s.lastId + 1) now, ?_⟩
  change ((write tx (.inl (d.toRequest (s.lastId + 1) now)) >>= fun _ => pure _) s.newId.2).1 = _
  rw [bind_apply, ht]
  rfl

/-- Lines are created in any case: nobody holds the numbers just taken. -/
theorem createLines_ok (tx : TxId) (offer req : Int) (now : Instant) : ∀ (ds : List LineDraft) {s : Store},
    s.Numbered → ∃ ls, (createLines tx offer req now ds s).1 = .ok ls
  | [], _, _ => ⟨[], rfl⟩
  | d :: ds, s, h => by
    obtain ⟨t, ht, hnumbered⟩ :=
      h.write_new tx (x := .inr (d.toLine (s.lastId + 1) offer req now)) rfl
    obtain ⟨ls, hls⟩ := createLines_ok tx offer req now ds hnumbered
    refine ⟨d.toLine (s.lastId + 1) offer req now :: ls, ?_⟩
    change ((write tx (.inr (d.toLine (s.lastId + 1) offer req now)) >>= fun _ => _) s.newId.2).1 = _
    rw [bind_apply, ht]
    dsimp only
    rw [bind_apply]
    generalize createLines tx offer req now ds t = x at hls
    obtain ⟨r, u⟩ := x
    obtain rfl : r = .ok ls := hls
    rfl

/-- A contract is refused before anything is staged. -/
theorem undone_createContract (d : ContractDraft) (now : Instant) :
    Undone tx s (act tx (.createContract d now)) := by
  intro e t hp
  change (if (s.view tx).contracts.values.any (·.line == d.line) then _ else _ : Act Contract) s = _
    at hp
  split at hp
  · cases hp
    exact .refl tx s
  · cases hp

/-- The lines of an offer are locked all together, or none is. -/
theorem undone_lockLinesOfOffer (offer : Int) : Undone tx s (act tx (.lockLinesOfOffer offer)) := by
  intro e t hp
  change (if ((s.view tx).lines.values.filter (·.offer == offer)).isEmpty then _ else _ :
    Act (List Line)) s = _ at hp
  split at hp
  · cases hp
    exact .refl tx s
  · exact ((undone_lockOr _ (.locked "offer" offer)).bind_sure fun _ => sure_pure _) e t hp

/-- Rows are locked, or nothing is changed. -/
theorem lockOr_cases (keys : List RowKey) (e : StoreError) (s : Store) :
    (keys.all (s.locks.isFree tx) = true ∧ lockOr tx keys e s =
      (.ok (), { s with locks := keys.foldl (·.take tx) s.locks })) ∨
    (keys.all (s.locks.isFree tx) = false ∧ lockOr tx keys e s = (.error e, s)) := by
  rw [lockOr_apply, tryLock]
  cases keys.all (s.locks.isFree tx) with
  | true => exact Or.inl ⟨rfl, rfl⟩
  | false => exact Or.inr ⟨rfl, rfl⟩

/-- What follows the lock of the request fails at the locks of the lines or not at all. -/
theorem remove_error {id : Int} {e : StoreError} (hp : (asks (·.view tx) >>= fun view =>
    lockOr tx (((view.lines.values.filter (·.request == id)).map (·.id)).map .line)
      (.locked "request" id) >>= fun _ => stages tx (removal id view)) s = (.error e, t)) :
    t = s ∧ ∃ l ∈ (s.view tx).lines.values, l.request = id ∧
      s.locks.isFree tx (.line l.id) = false := by
  change (lockOr tx ((((s.view tx).lines.values.filter (·.request == id)).map (·.id)).map .line)
    (.locked "request" id) >>= fun _ => stages tx (removal id (s.view tx))) s = _ at hp
  rw [bind_apply] at hp
  rcases lockOr_cases ((((s.view tx).lines.values.filter (·.request == id)).map (·.id)).map .line)
    (.locked "request" id) s with ⟨-, hlock⟩ | ⟨hbusy, hlock⟩
  · rw [hlock] at hp
    cases hp
  · rw [hlock] at hp
    cases hp
    obtain ⟨key, hkey, hnot⟩ := List.all_eq_false.1 hbusy
    obtain ⟨i, hi, rfl⟩ := List.mem_map.1 hkey
    obtain ⟨l, hl, rfl⟩ := List.mem_map.1 hi
    obtain ⟨hmem, hrequest⟩ := List.mem_filter.1 hl
    exact ⟨rfl, l, hmem, eq_of_beq hrequest, by simpa using hnot⟩

/-- A deletion keeps the request if it is there and free. -/
theorem grip_deleteRequest (s : Store) (id : Int) : s.grip tx (.deleteRequest id) =
    if ((s.view tx).requests.get? id).isSome && s.locks.isFree tx (.request id) then [.request id]
    else [] := rfl

/-- A deletion that fails has locked the request, if it was there and free, and done no more. -/
theorem aftermath_deleteRequest {id : Int} {e : StoreError}
    (hp : act tx (.deleteRequest id) s = (.error e, t)) : Aftermath tx s (.deleteRequest id) t := by
  have hnone (hg : s.grip tx (.deleteRequest id) = []) :
      Aftermath tx s (.deleteRequest id) s :=
    ⟨by rw [hg]; exact .refl tx s, fun hne => absurd rfl hne, fun hne => absurd hg hne⟩
  change (orError (.notFound "request" id) ((s.view tx).requests.get? id) >>= _) s = _ at hp
  cases hget : (s.view tx).requests.get? id with
  | none =>
    rw [hget] at hp
    cases hp
    exact hnone (by rw [grip_deleteRequest, hget]; rfl)
  | some r =>
    rw [hget] at hp
    change (lockOr tx [.request id] (.locked "request" id) >>= _) s = _ at hp
    rw [bind_apply] at hp
    rcases lockOr_cases [.request id] (.locked "request" id) s with ⟨hfree, hlock⟩ | ⟨hbusy, hlock⟩
    · rw [hlock] at hp
      obtain ⟨rfl, l, hl, hrequest, hbusy⟩ := remove_error hp
      rw [isFree_foldl_take hfree] at hbusy
      have hg : s.grip tx (.deleteRequest id) = [.request id] := by
        rw [grip_deleteRequest, hget, if_pos (by simpa using hfree)]
      refine ⟨?_, fun hne => absurd rfl hne, fun _ => Or.inr ⟨id, rfl, l, hl, hrequest, hbusy⟩⟩
      rw [hg]
      exact ⟨rfl, Locks.holder?_foldl_take [.request id] s.locks tx⟩
    · rw [hlock] at hp
      cases hp
      exact hnone (by rw [grip_deleteRequest, hget, if_neg (by simpa using hbusy)])

end Undone

end Store
end LoanDesk
