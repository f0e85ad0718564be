/-
# Calls are made of moves

Every call is a sequence of moves, whether it succeeds or fails half way (`Store.moves_act`), so that
what each move keeps every call keeps.
-/

import LoanDesk.Proofs.Store.Moves.Numbered

namespace LoanDesk
namespace Store

/-- The step is made of moves, once the numbers up to `n` are given out. -/
def Moving (tx : TxId) (n : Int) {α : Type} (m : Act α) : Prop :=
  ∀ s : Store, n ≤ s.lastId → Moves tx s (m s).2

section Moving

variable {tx : TxId} {n : Int} {α β : Type}

/-- Giving a value is no move. -/
theorem moving_pure (a : α) : Moving tx n (pure a : Act α) := fun _ _ => .refl

/-- Two steps that are made of moves are so one after the other. -/
theorem Moving.bind {m : Act α} {f : α → Act β} (hm : Moving tx n m)
    (hf : ∀ a, Moving tx n (f a)) : Moving tx n (m >>= f) := by
  intro s hn
  have hs := hm s hn
  rw [bind_apply]
  generalize m s = x at hs ⊢
  obtain ⟨r, t⟩ := x
  cases r with
  | ok a => exact hs.trans (hf a t (Int.le_trans hn hs.frame.lastId))
  | error e => exact hs

/-- A number is taken, and what follows may use it. -/
theorem moving_takeId {f : Int → Act β} (hf : ∀ id, Moving tx id (f id)) :
    Moving tx n (takeId >>= f) :=
  fun s _ => .head .number (hf (s.lastId + 1) s.newId.2 (Int.le_refl _))

/-- Locking rows under numbers that were given out is a move, or nothing. -/
theorem moving_lockOr {keys : List RowKey} (hk : ∀ key ∈ keys, key.number ≤ n) (e : StoreError) :
    Moving tx n (lockOr tx keys e) := by
  intro s hn
  rw [lockOr_apply]
  cases ht : s.tryLock tx keys with
  | none => exact .refl
  | some t => exact .single (.lock (fun key hkey => Int.le_trans (hk key hkey) hn) ht)

/-- Writing rows under numbers that were given out is a move. -/
theorem moving_stages {f : Changes → Changes}
    (hrow : ∀ c key x, (f c).row? key = some (some x) →
      c.row? key = some (some x) ∨ RowKey.of x = key ∧ key.number ≤ n)
    (hcontract : ∀ c, (f c).contracts = c.contracts) : Moving tx n (stages tx f) :=
  fun _ hn => .single <| .write
    (fun key x hx => (hrow _ key x hx).imp_right (·.imp_right (Int.le_trans · hn))) (hcontract _)

/-- What is staged of neither requests nor lines nor contracts. -/
theorem moving_stages_other {f : Changes → Changes} (hr : ∀ c, (f c).requests = c.requests)
    (hl : ∀ c, (f c).lines = c.lines) (hcontract : ∀ c, (f c).contracts = c.contracts) :
    Moving tx n (stages tx f) := by
  refine moving_stages (fun c key x hx => Or.inl ?_) hcontract
  cases key with
  | request id => rwa [Changes.row?, hr] at hx
  | line id => rwa [Changes.row?, hl] at hx

/-- Taking a number and staging something other than a request, a line or a contract are moves. -/
theorem moving_create {f : Int → Changes → Changes} {a : Int → α}
    (hr : ∀ i c, (f i c).requests = c.requests) (hl : ∀ i c, (f i c).lines = c.lines)
    (hcontract : ∀ i c, (f i c).contracts = c.contracts) :
    Moving tx n (takeId >>= fun i => stages tx (f i) >>= fun _ => pure (a i)) :=
  moving_takeId fun i => (moving_stages_other (hr i) (hl i) (hcontract i)).bind fun _ =>
    moving_pure _

/-- Locking and writing a request under its number are moves. -/
theorem moving_writeRequest {id : Int} (hid : id ≤ n) {r : Request} (hr : r.id = id) :
    Moving tx n (writeRequest tx r) := by
  subst hr
  refine (moving_lockOr ?_ _).bind fun _ => moving_stages (fun c key x hx => ?_) fun _ => rfl
  · intro key hkey
    obtain rfl := List.mem_singleton.1 hkey
    exact hid
  · cases key with
    | request id =>
      obtain ⟨x?, hget, hx⟩ := Option.map_eq_some_iff.1 hx
      rcases Table.get?_insert_eq_some.1 hget with ⟨rfl, rfl⟩ | ⟨-, hget⟩
      · obtain rfl := Option.some.inj hx
        exact Or.inr ⟨rfl, hid⟩
      · exact Or.inl (by rw [Changes.row?, hget, ← hx]; rfl)
    | line id => exact Or.inl hx

/-- Locking and writing a line under its number are moves. -/
theorem moving_writeLine {id : Int} (hid : id ≤ n) {l : Line} (hl : l.id = id) :
    Moving tx n (writeLine tx l) := by
  subst hl
  refine (moving_lockOr ?_ _).bind fun _ => moving_stages (fun c key x hx => ?_) fun _ => rfl
  · intro key hkey
    obtain rfl := List.mem_singleton.1 hkey
    exact hid
  · cases key with
    | request id => exact Or.inl hx
    | line id =>
      obtain ⟨x?, hget, hx⟩ := Option.map_eq_some_iff.1 hx
      rcases Table.get?_insert_eq_some.1 hget with ⟨rfl, rfl⟩ | ⟨-, hget⟩
      · obtain rfl := Option.some.inj hx
        exact Or.inr ⟨rfl, hid⟩
      · exact Or.inl (by rw [Changes.row?, hget, ← hx]; rfl)

/-- Rows that are each written by moves are written by moves. -/
theorem moving_writeEach {write : α → Act Unit} : ∀ as : List α, (∀ a ∈ as, Moving tx n (write a)) →
    Moving tx n (writeEach write as)
  | [], _ => moving_pure ()
  | _ :: as, hw => (hw _ List.mem_cons_self).bind fun _ =>
      moving_writeEach as fun a ha => hw a (List.mem_cons_of_mem _ ha)

/-- Claiming requests under numbers that were given out is made of moves. -/
theorem moving_claim : ∀ (rs : List Request) (limit : Option Int), (∀ r ∈ rs, r.id ≤ n) →
    Moving tx n (claim tx limit rs)
  | [], _, _ => moving_pure []
  | r :: rs, limit, hrs => by
    have hrest : ∀ r ∈ rs, r.id ≤ n := fun r hr => hrs r (List.mem_cons_of_mem _ hr)
    by_cases hlimit : limit.any (· ≤ 0)
    · rw [claim_cons_of_limit hlimit]
      exact moving_pure []
    · intro s hn
      rw [claim_cons_apply hlimit]
      cases ht : s.tryLock tx [.request r.id] with
      | none => exact moving_claim rs limit hrest s hn
      | some t =>
        have hlock : Move tx s t := by
          refine .lock (fun key hkey => ?_) ht
          obtain rfl := List.mem_singleton.1 hkey
          exact Int.le_trans (hrs r List.mem_cons_self) hn
        refine .head hlock ?_
        exact ((moving_claim rs _ hrest).bind fun _ => moving_pure _) t
          (Int.le_trans hn hlock.frame.lastId)

/-- Creating lines is made of moves, each under the number just taken. -/
theorem moving_createLines (offer req : Int) (now : Instant) :
    ∀ (ds : List LineDraft) (n : Int), Moving tx n (createLines tx offer req now ds)
  | [], _ => moving_pure []
  | _ :: ds, _ => by
    refine moving_takeId fun id => ?_
    refine (moving_writeLine (Int.le_refl id) rfl).bind fun _ => ?_
    refine (moving_createLines offer req now ds id).bind fun _ => ?_
    exact moving_pure _

/-- What a removal leaves staged was staged before. -/
theorem row?_remove {c : Changes} {id : Int} {lines offers sheets : List Int} {key : RowKey}
    {x : Request ⊕ Line} (hx : Changes.row? { c with
      lines := lines.foldl (·.insert · none) c.lines
      offers := offers.foldl (·.insert · none) c.offers
      sheets := sheets.foldl (·.insert · none) c.sheets
      requests := c.requests.insert id none } key = some (some x)) :
    c.row? key = some (some x) := by
  cases key with
  | request i =>
    obtain ⟨x?, hget, hx⟩ := Option.map_eq_some_iff.1 hx
    rcases Table.get?_insert_eq_some.1 hget with ⟨-, rfl⟩ | ⟨-, hget⟩
    · cases hx
    · rw [Changes.row?, hget, ← hx]
      rfl
  | line i =>
    obtain ⟨x?, hget, hx⟩ := Option.map_eq_some_iff.1 hx
    have hkept : ∀ (ks : List Int) (t : Table (Option Line)),
        (ks.foldl (·.insert · none) t).get? i = some x? → t.get? i = some x? := by
      intro ks
      induction ks with
      | nil => exact fun _ h => h
      | cons k ks ih =>
        intro t h
        rcases Table.get?_insert_eq_some.1 (ih _ h) with ⟨-, rfl⟩ | ⟨-, h⟩
        · cases hx
        · exact h
    rw [Changes.row?, hkept lines c.lines hget, ← hx]
    rfl

end Moving

section From

variable {tx : TxId} {s : Store} {α β : Type}

/-- From this store on the step is made of moves. -/
def MovingFrom (tx : TxId) (s : Store) (m : Act α) : Prop := Moves tx s (m s).2

/-- What is made of moves for all numbers given out is so in the store at hand. -/
theorem Moving.from {m : Act α} (hm : Moving tx s.lastId m) : MovingFrom tx s m :=
  hm s (Int.le_refl _)

/-- Reading is no move. -/
theorem movingFrom_asks {f : Store → α} : MovingFrom tx s (asks f) := .refl

/-- What holds of the store is used by what follows. -/
theorem MovingFrom.asks {f : Store → α} {g : α → Act β} (hg : MovingFrom tx s (g (f s))) :
    MovingFrom tx s (asks f >>= g) := hg

/-- Looking for a row that may be missing is no move, and what follows may rely on the row. -/
theorem movingFrom_orError (e : StoreError) {a? : Option α} {f : α → Act β}
    (hf : ∀ a, a? = some a → MovingFrom tx s (f a)) : MovingFrom tx s (orError e a? >>= f) := by
  cases a? with
  | none => exact .refl
  | some a => exact hf a rfl

/-- Looking for a row that may be missing is no move. -/
theorem movingFrom_found (e : StoreError) (a? : Option α) : MovingFrom tx s (orError e a?) := by
  cases a? <;> exact .refl

/-- Reading a request is no move, and what follows may rely on the request. -/
theorem movingFrom_request {id : Int} {f : Request → Act β}
    (hf : ∀ r, (s.view tx).requests.get? id = some r → MovingFrom tx s (f r)) :
    MovingFrom tx s (request tx id >>= f) :=
  movingFrom_orError (.notFound "request" id) hf

/-- Cancelling the lines that are selected is made of moves. -/
theorem movingFrom_cancelWhere (h : s.Numbered) (select : Line → Bool) (by_ : String)
    (reason : CancelReason) (now : Instant) :
    MovingFrom tx s (cancelWhere tx select by_ reason now) := by
  refine MovingFrom.asks ?_
  rw [writeLines_eq]
  refine ((moving_writeEach _ fun l hl => ?_).bind fun _ => moving_pure _).from
  obtain ⟨x, hx, rfl⟩ := List.mem_map.1 hl
  exact moving_writeLine (h.mem_lines (List.mem_filter.1 hx).1) rfl

/-- Rows under numbers are changed where they stand. -/
theorem movingFrom_changeEach {write : α → Act Unit} {f : α → α} {t : Table α} {key : α → Int}
    (hk : t.Keyed key) (hw : ∀ a ∈ t.values, Moving tx s.lastId (write (f a))) (ids : List Int) :
    MovingFrom tx s (changeEach write f t ids) := by
  rw [changeEach_eq]
  refine ((moving_writeEach _ fun a ha => ?_).bind fun _ => moving_pure _).from
  obtain ⟨b, hb, rfl⟩ := List.mem_map.1 ha
  exact hw b (Table.mem_values.2 ⟨_, (hk.mem_pick.1 hb).1⟩)

/-- Deleting a request is made of moves. -/
theorem movingFrom_deleteRequest (h : s.Numbered) (id : Int) :
    MovingFrom tx s (deleteRequest tx id) := by
  refine movingFrom_request fun r hr => ?_
  have hid : ∀ key ∈ [RowKey.request id], key.number ≤ s.lastId := by
    intro key hkey
    obtain rfl := List.mem_singleton.1 hkey
    exact (h.seen_request hr).2
  unfold MovingFrom
  rw [bind_apply, lockOr_apply]
  cases ht : s.tryLock tx [.request id] with
  | none => exact .refl
  | some t =>
    -- the lines are looked up once the request is locked
    have hlock : Move tx s t := .lock hid ht
    have hnumbered := hlock.numbered h
    refine .head hlock (@MovingFrom.asks tx t _ _ _ _ ?_)
    refine ((moving_lockOr (fun key hkey => ?_) _).bind fun _ => moving_stages
      (fun c key x hx => Or.inl (row?_remove hx)) fun _ => rfl).from
    obtain ⟨i, hi, rfl⟩ := List.mem_map.1 hkey
    obtain ⟨l, hl, rfl⟩ := List.mem_map.1 hi
    exact hnumbered.mem_lines (List.mem_filter.1 hl).1

/-- Creating a contract is a move where none is seen for the line, and else none is made. -/
theorem movingFrom_createContract (d : ContractDraft) (now : Instant) :
    MovingFrom tx s (act tx (.createContract d now)) := by
  change Moves tx s ((if (s.view tx).contracts.values.any (·.line == d.line) then _ else _ :
    Act Contract) s).2
  split
  · exact .refl
  · rename_i hnone
    refine .single (.sign fun id k hk hline => hnone ?_)
    exact List.any_eq_true.2 ⟨k, Table.mem_values.2 ⟨id, hk⟩, by simpa using hline⟩

/-- Locking the lines of an offer is a move, or nothing. -/
theorem movingFrom_lockLinesOfOffer (h : s.Numbered) (offer : Int) :
    MovingFrom tx s (act tx (.lockLinesOfOffer offer)) := by
  have hk : ∀ key ∈ ((s.view tx).lines.values.filter (·.offer == offer)).map fun l =>
      RowKey.line l.id, key.number ≤ s.lastId := by
    intro key hkey
    obtain ⟨l, hl, rfl⟩ := List.mem_map.1 hkey
    exact h.mem_lines (List.mem_filter.1 hl).1
  change Moves tx s ((if ((s.view tx).lines.values.filter (·.offer == offer)).isEmpty then _ else _ :
    Act (List Line)) s).2
  split
  · exact .refl
  · exact ((moving_lockOr hk _).bind fun _ => moving_pure _).from

/-- **Calls are made of moves**, whether they succeed or fail half way. -/
theorem moves_act (h : s.Numbered) : ∀ c : Call, MovingFrom tx s (act tx c)
  | .createRequest _ _ => (moving_takeId fun id => (moving_writeRequest (Int.le_refl id) rfl).bind
      fun _ => moving_pure _).from
  | .getRequest _ => MovingFrom.asks (movingFrom_found _ _)
  | .lockRequest id _ => movingFrom_request fun r hr =>
      ((moving_lockOr (fun key hkey => by
        obtain rfl := List.mem_singleton.1 hkey
        exact (h.seen_request hr).2) _).bind fun _ => moving_pure _).from
  | .setRequestStatus id _ _ => movingFrom_request fun r hr =>
      Moving.from <| moving_writeRequest (h.mem_requests (Table.mem_values.2 ⟨_, hr⟩)) rfl
  | .setRequestStatuses ids _ _ => by
    refine MovingFrom.asks (movingFrom_changeEach (fun _ _ hr => (h.seen_request hr).1)
      (fun r hr => ?_) ids)
    exact moving_writeRequest (h.mem_requests hr) rfl
  | .listRequests _ _ => movingFrom_asks
  | .countRequests _ => movingFrom_asks
  | .claimAboveRate _ _ => MovingFrom.asks (moving_claim _ _ fun r hr =>
      h.mem_requests (List.mem_filter.1 hr).1).from
  | .claimBySymbol _ => MovingFrom.asks (moving_claim _ _ fun r hr =>
      h.mem_requests (List.mem_filter.1 hr).1).from
  | .deleteRequest id => movingFrom_deleteRequest h id
  | .createOffer _ _ => movingFrom_request fun _ _ =>
      Moving.from <| moving_create (fun _ _ => rfl) (fun _ _ => rfl) fun _ _ => rfl
  | .createLines offer req ds now => (moving_createLines offer req now ds _).from
  | .offersOfRequest _ => movingFrom_asks
  | .offersOfInvestor _ => movingFrom_asks
  | .linesOfRequests _ => movingFrom_asks
  | .expiredOffers _ => movingFrom_asks
  | .lockLinesOfOffer offer => movingFrom_lockLinesOfOffer h offer
  | .cancelByOffer _ _ _ _ => movingFrom_cancelWhere h _ _ _ _
  | .cancelExpired _ _ _ => movingFrom_cancelWhere h _ _ _ _
  | .cancelLines _ _ _ _ => movingFrom_cancelWhere h _ _ _ _
  | .cancelByRequests _ _ _ _ => movingFrom_cancelWhere h _ _ _ _
  | .setLineStatuses ids _ _ => by
    refine MovingFrom.asks (movingFrom_changeEach (fun _ _ hl => (h.seen_line hl).1)
      (fun l hl => ?_) ids)
    exact moving_writeLine (h.mem_lines hl) rfl
  | .attachContract line _ _ => MovingFrom.asks <|
      movingFrom_orError (.notFound "offer interest" line) fun l hl =>
        Moving.from <| moving_writeLine (h.mem_lines (Table.mem_values.2 ⟨_, hl⟩)) rfl
  | .createSheet _ _ _ _ => movingFrom_request fun _ _ =>
      Moving.from <| moving_create (fun _ _ => rfl) (fun _ _ => rfl) fun _ _ => rfl
  | .createContract d now => movingFrom_createContract d now
  | .contractOfLine _ => movingFrom_asks
  | .setGuaranteeEnd id _ => MovingFrom.asks <| movingFrom_orError (.notFound "contract" id)
      fun k hk => .single (.amend hk)
  | .currentCeiling _ => movingFrom_asks
  | .createCeiling _ _ _ =>
      Moving.from <| moving_create (fun _ _ => rfl) (fun _ _ => rfl) fun _ _ => rfl
  | .createJob _ _ => Moving.from <| moving_create (fun _ _ => rfl) (fun _ _ => rfl) fun _ _ => rfl
  | .listJobs _ _ => movingFrom_asks
  | .offerWithRequest id => MovingFrom.asks <| movingFrom_orError (.notFound "offer" id) fun _ _ =>
      movingFrom_request fun _ _ => .refl
  | .getLine _ => MovingFrom.asks (movingFrom_found _ _)
  | .getContract _ => MovingFrom.asks (movingFrom_found _ _)

end From

end Store
end LoanDesk
