/-
# Answers of an action by itself

Where the store works and no other transaction is open, a call can fail only where a row is missing,
or where a contract is there already for the line (`Book.misses_perform`). So an action that meets
nobody gives an answer, or fails for a reason that is about what was asked: something is missing, or a
rule was broken (`Desk.Answers`). It is refused if it can only fail (`Desk.Refuses`).
-/

import LoanDesk.Proofs.Race.Alone

namespace LoanDesk

/-- The failure is about what was asked, and not about the store. -/
def Failure.IsPlain : Failure → Prop
  | .busy _ _ | .storage _ => False
  | _ => True

/-! ### Calls where all rows are free -/

/-- The call writes a contract. -/
def Call.isDeal : Call → Bool
  | .createContract _ _ => true
  | _ => false

namespace Book

variable {α β : Type} {x : Except StoreError α}

/-- The step fails for nothing but a row that is missing. -/
def Misses (x : Except StoreError α) : Prop :=
  ∀ e, x = .error e → ∃ entity id, e = .notFound entity id

/-- What succeeds does not fail. -/
theorem misses_ok (a : α) : Misses (.ok a) := nofun

/-- Two steps fail for a row that is missing if each does. -/
theorem Misses.bind {f : α → Except StoreError β} (hx : Misses x) (hf : ∀ a, Misses (f a)) :
    Misses (x >>= f) := by
  cases x with
  | error e =>
    rintro _ ⟨⟩
    exact hx e rfl
  | ok a => exact hf a

/-- A row that is not found is missing. -/
theorem misses_found (entity : String) (id : Int) (a? : Option α) :
    Misses (found (.notFound entity id) a?) := by
  cases a? with
  | none =>
    rintro _ ⟨⟩
    exact ⟨entity, id, rfl⟩
  | some a => exact misses_ok a

/-- A request that is not found is missing. -/
theorem misses_request (b : Book) (id : Int) : Misses (b.request id) := misses_found _ _ _

/-- Rows that are free are not in the way. -/
theorem misses_demand (keys : List RowKey) (e : StoreError) :
    Misses (demand (fun _ => true) keys e) := by
  rw [demand, if_pos (by simp)]
  exact misses_ok _

/-- Rows that are free are not in the way, one by one. -/
theorem misses_demandEach (key : Int → RowKey) (entity : String) (ids : List Int) :
    Misses (demandEach (fun _ => true) key entity ids) := by
  rw [demandEach, List.find?_eq_none.2 (by simp)]
  exact misses_ok _

/-- Lines that are free can be cancelled. -/
theorem misses_cancelWhere (b : Book) (p : Line → Bool) (by_ : String) (reason : CancelReason)
    (now : Instant) : Misses (b.cancelWhere (fun _ => true) p by_ reason now) :=
  (misses_demandEach _ _ _).bind fun _ => misses_ok _

/-- A batch of lines fails for an offer or a request that is missing. -/
theorem misses_addLines (offer req : Int) (now : Instant) : ∀ (ds : List LineDraft) (b : Book),
    Misses (addLines (fun _ => true) offer req now ds b)
  | [], _ => misses_ok _
  | _ :: ds, _ => by
    refine (misses_demand _ _).bind fun _ => ?_
    refine (misses_addLines offer req now ds _).bind fun _ => ?_
    exact misses_ok _

/-- **A call that finds all rows free** fails where a row is missing, if it writes no contract. -/
theorem misses_perform (b : Book) (c : Call) (hc : c.isDeal = false) :
    Misses (b.perform (fun _ => true) c) := by
  cases c with
  | createContract => cases hc
  | createRequest => exact (misses_demand _ _).bind fun _ => misses_ok _
  | getRequest id => exact (b.misses_request id).bind fun _ => misses_ok _
  | lockRequest id mode =>
    refine (b.misses_request id).bind fun _ => ?_
    refine (misses_demand _ _).bind fun _ => ?_
    exact misses_ok _
  | setRequestStatus id status now =>
    refine (b.misses_request id).bind fun _ => ?_
    refine (misses_demand _ _).bind fun _ => ?_
    exact misses_ok _
  | setRequestStatuses | setLineStatuses =>
    exact (misses_demandEach _ _ _).bind fun _ => misses_ok _
  | deleteRequest id =>
    refine (b.misses_request id).bind fun _ => ?_
    refine (misses_demand _ _).bind fun _ => ?_
    refine (misses_demand _ _).bind fun _ => ?_
    exact misses_ok _
  | createOffer d now => exact (b.misses_request d.request).bind fun _ => misses_ok _
  | createSheet id => exact (b.misses_request id).bind fun _ => misses_ok _
  | createLines => exact misses_addLines _ _ _ _ _
  | offerWithRequest =>
    refine (misses_found _ _ _).bind fun o => ?_
    refine (b.misses_request o.request).bind fun _ => ?_
    exact misses_ok _
  | getLine | getContract | setGuaranteeEnd => exact (misses_found _ _ _).bind fun _ => misses_ok _
  | lockLinesOfOffer offer =>
    unfold perform
    dsimp only
    split
    · rintro _ ⟨⟩
      exact ⟨_, _, rfl⟩
    · exact (misses_demand _ _).bind fun _ => misses_ok _
  | attachContract =>
    refine (misses_found _ _ _).bind fun _ => ?_
    refine (misses_demand _ _).bind fun _ => ?_
    exact misses_ok _
  | cancelByOffer | cancelExpired | cancelLines | cancelByRequests =>
    exact b.misses_cancelWhere _ _ _ _
  | listRequests | countRequests | claimAboveRate | claimBySymbol | offersOfRequest
  | offersOfInvestor | linesOfRequests | expiredOffers | contractOfLine | currentCeiling
  | createCeiling | createJob | listJobs => exact misses_ok _

end Book

/-! ### Actions by themselves -/

namespace Desk

open Program

section Answers

variable {α β : Type} {tx : TxId} {b : Book} {s : Store}

/-- The action goes on by itself: what it gives satisfies a condition, and where it fails the store
is not to blame. -/
abbrev Answers (Q : α → Store → Prop) (m : Action α) (s : Store) : Prop :=
  Brings Store.alone Q (fun f _ => f.IsPlain) m s

/-- The action by itself fails, and the store is not to blame. -/
abbrev Refuses (m : Action α) (s : Store) : Prop := Answers (fun _ _ => False) m s

/-- An action that brings something succeeds. -/
theorem alone_true {Q : α → Store → Prop} {m : Action α} (h : Alone Q m s) :
    Alone (fun _ _ => True) m s := Brings.mono (fun _ _ _ => trivial) (fun _ _ h => h) h

/-- An action that succeeds by itself goes on. -/
theorem answers_of_alone {Q : α → Store → Prop} {m : Action α} (h : Alone Q m s) :
    Answers (fun _ _ => True) m s :=
  Brings.mono (fun _ _ _ => trivial) (fun _ _ h => h.elim) h

/-- An action that fails may be said to give anything. -/
theorem Refuses.answers {m : Action α} (h : Refuses m s) {Q : α → Store → Prop} : Answers Q m s :=
  Brings.mono (fun _ _ h => h.elim) (fun _ _ h => h) h

/-- An action gives its result. -/
theorem answers_pure {Q : α → Store → Prop} {a : α} (h : Q a s) :
    Answers Q (pure a : Action α) s := by
  rintro t rfl
  exact h

/-- An action fails for a plain reason. -/
theorem answers_throw {Q : α → Store → Prop} {f : Failure} (h : f.IsPlain) :
    Answers Q (throw f : Action α) s := fun _ _ => h

/-- An action goes on after a check, and may rely on it. -/
theorem answers_ensure {Q : β → Store → Prop} {r : Except Refusal Unit} {f : Unit → Action β}
    (h : r = .ok () → Answers Q (f ()) s) : Answers Q (ensure r >>= f) s := by
  cases r with
  | error e => exact fun _ _ => trivial
  | ok u => exact h rfl

/-- An action goes on after a check of its terms. -/
theorem answers_ensureSound {Q : β → Store → Prop} {flaw? : Option Flaw} {f : Unit → Action β}
    (h : Answers Q (f ()) s) : Answers Q (ensureSound flaw? >>= f) s := by
  cases flaw? with
  | some flaw => exact fun _ _ => trivial
  | none => exact h

/-- An action goes on with the line that it finds. -/
theorem answers_findLine {Q : β → Store → Prop} {lines : List Line} {id : Int} {f : Line → Action β}
    (h : ∀ l ∈ lines, l.id = id → Answers Q (f l) s) : Answers Q (findLine lines id >>= f) s := by
  unfold findLine
  split
  · rename_i l hl
    exact h l (List.mem_of_find?_eq_some hl) (by simpa using List.find?_some hl)
  · exact fun _ _ => trivial

/-- A call of an action gives what it gives on the book. -/
theorem answers_call {c : Call} (hs : Solo tx b s) (hc : c.isDeal = false) :
    Answers (fun a t => ∃ b', b.perform (fun _ => true) c = .ok (a, b') ∧ Solo tx b' t)
      (ask tx c) s := by
  refine Brings.ask ?_
  rintro t rfl x u hu
  have hu : t.perform tx c = (x, u) := Eq.symm hu
  refine ⟨trivial, ?_⟩
  cases x with
  | error e =>
    have hbook := Store.perform_error hs.keyed hu
    rw [hs.isFree, hs.book] at hbook
    obtain ⟨entity, id, rfl⟩ := b.misses_perform c hc e hbook
    exact fun _ _ => trivial
  | ok a =>
    obtain ⟨hbook, -, hk⟩ := Store.perform_ok hs.keyed hu
    rw [hs.isFree, hs.book] at hbook
    rintro v rfl
    have hv : v = (t.perform tx c).2 := by rw [hu]
    subst hv
    exact ⟨_, hbook, hs.step c rfl hk⟩

/-- A call that the action ends with. -/
theorem answers_last {c : Call} (hs : Solo tx b s) (hc : c.isDeal = false) :
    Answers (fun _ _ => True) (ask tx c) s :=
  Brings.mono (fun _ _ _ => trivial) (fun _ _ h => h) (answers_call hs hc)

/-- A call, and what follows on its answer. -/
theorem answers_ask {c : Call} {f : c.Answer → Action β} {Q : β → Store → Prop} (hs : Solo tx b s)
    (hc : c.isDeal = false)
    (hf : ∀ a b', b.perform (fun _ => true) c = .ok (a, b') → ∀ t, Solo tx b' t →
      Answers Q (f a) t) : Answers Q (ask tx c >>= f) s :=
  Brings.bind (answers_call hs hc) fun a t ⟨b', h, ht⟩ => hf a b' h t ht

/-- An offer is read with its request, and what follows on them. -/
theorem answers_offerWithRequest {offer : Int} {f : Offer × Request → Action β}
    {Q : β → Store → Prop} (hs : Solo tx b s)
    (hf : ∀ o r t, b.rows.offers.get? offer = some o → b.rows.requests.get? o.request = some r →
      Solo tx b t → Answers Q (f (o, r)) t) :
    Answers Q (ask tx (.offerWithRequest offer) >>= f) s :=
  answers_ask hs rfl fun x b' h t ht => by
    obtain ⟨ho, hr, rfl⟩ := Book.offerWithRequest_eq_ok.1 h
    exact hf x.1 x.2 t ho hr ht

/-- A request is locked, and the action goes on with it. -/
theorem answers_lockRequest {id : Int} {mode : LockMode} {f : Request → Action β}
    {Q : β → Store → Prop} (hs : Solo tx b s)
    (hf : ∀ r t, b.rows.requests.get? id = some r → Solo tx b t → Answers Q (f r) t) :
    Answers Q (ask tx (.lockRequest id mode) >>= f) s :=
  answers_ask hs rfl fun r b' h t ht => by
    obtain ⟨hr, -, rfl⟩ := Book.lockRequest_eq_ok.1 h
    exact hf r t hr ht

/-- The lines of an offer are locked, and the action goes on with them. -/
theorem answers_lockLines {offer : Int} {f : List Line → Action β} {Q : β → Store → Prop}
    (hs : Solo tx b s) (hf : ∀ t, Solo tx b t →
      Answers Q (f (b.rows.lines.values.filter (·.offer == offer))) t) :
    Answers Q (ask tx (.lockLinesOfOffer offer) >>= f) s :=
  answers_ask hs rfl fun ls b' h t ht => by
    obtain ⟨rfl, -, -, rfl⟩ := Book.lockLinesOfOffer_eq_ok.1 h
    exact hf t ht

/-- A call that never fails, and what follows on any answer. -/
theorem answers_sure {c : Call} {f : c.Answer → Action β} {Q : β → Store → Prop}
    (hc : ∀ t : Store, ∃ a, (t.perform tx c).1 = .ok a) (hf : ∀ a t, Answers Q (f a) t) :
    Answers Q (ask tx c >>= f) s := by
  refine Brings.bind (P := fun _ _ => True) (Brings.ask ?_) fun a t _ => hf a t
  rintro t rfl x u hu
  obtain ⟨a, ha⟩ := hc t
  obtain rfl : x = .ok a := by rw [← ha, show t.perform tx c = (x, u) from Eq.symm hu]
  exact ⟨trivial, fun _ _ => trivial⟩

/-- A transaction by itself sees what is stored, and nobody else holds a row. -/
theorem answers_bracket {Q : α → Prop} {keep : α → Bool} {body : TxId → Action α} (hs : s.Still)
    (h : ∀ tx t, Solo tx s.stored t → t.Still → Answers (fun a _ => Q a) (body tx) t) :
    Answers (fun a _ => Q a) (bracket Failure.ofStore keep body) s := by
  unfold Answers Brings
  rw [bracket_run]
  rintro t rfl x u ⟨rfl, rfl⟩
  have hstill : t.begin.2.Still := ⟨hs.keyed, hs.unlocked⟩
  refine ⟨trivial, Ensures.bind (fun r v hv => ?_) (h _ _ (solo_begin hs) hstill)⟩
  replace hv := hv v rfl
  cases r with
  | error e =>
    rintro w rfl y z -
    exact ⟨trivial, fun _ _ => hv⟩
  | ok a =>
    change Ensures _ _ (if keep a then _ else _) v
    split
    · rintro w rfl y z ⟨rfl, -⟩
      exact ⟨trivial, fun _ _ => hv⟩
    · rintro w rfl y z -
      exact ⟨trivial, fun _ _ => hv⟩

/-- Telling of something does not fail. -/
theorem answers_deliver (e : Event) : Answers (fun _ _ => True) (deliver e) s := by
  rintro t rfl x u -
  refine ⟨trivial, ?_⟩
  cases x <;> exact fun _ _ => trivial

end Answers

end Desk
end LoanDesk
