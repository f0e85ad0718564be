/-
# What investors can reach

A message with an investor's header is answered for that investor, whatever else it says, or it is
rejected before anything is done (`Http.actor_of_identify`). Each endpoint then sees to its own
bounds: some are for administrators only, others ask whose request it is, and requests are opened
for oneself.

What belongs to others are their requests, all that belongs to these, and what belongs to nobody in
particular (`Rows.others`). The three deeds that are open to investors leave it alone
(`Deed.others_eq`), so every endpoint does (`Http.spares_answer`), and with it the answer to any
message (`History.investor_confined`).
-/

import LoanDesk.Proofs.Http.Scope.Others
import LoanDesk.Proofs.Http.Failure

namespace LoanDesk

open Program

/-! ### Deeds of investors -/

/-- What is open to investors. -/
def Operation.ForInvestors : Operation → Prop
  | openRequest _ | overview _ | listOverviews _ _ | offersFor _ | accept _ | decline _ => True
  | _ => False

/-- Investors act for themselves. -/
theorem Actor.owner_of_ensureScope {actor : Actor} {i owner : Int} (ha : actor = .investor i)
    (h : actor.ensureScope owner = .ok ()) : owner = i := by
  subst ha
  change (if i = owner then _ else _) = _ at h
  split at h
  · rename_i he
    exact he.symm
  · cases h

/-- **What investors may do leaves alone what belongs to others.** -/
theorem Deed.others_eq {o : Operation} {caller : Caller} {now : Instant} {b b' : Book} {i : Int}
    (hd : Deed (.operate o caller now) b b') (hb : b.Linked) (ha : caller.actor = .investor i)
    (ho : o.ForInvestors) : b'.rows.others i = b.rows.others i := by
  cases hd with
  | openRequest hs hn hlast =>
    exact Rows.others_putRequest hb.requests hn (Actor.owner_of_ensureScope ha hs)
  | accept hh hs honline hx hp hm hlast =>
    exact Rows.others_take hb hh (Actor.owner_of_ensureScope ha hs) _ _ _
  | decline hget hr hs hlast =>
    exact Rows.others_cancel hb hget hr (Actor.owner_of_ensureScope ha hs) _ _ _
  | record ht hn hlast => exact ht.elim
  | _ => exact ho.elim

/-! ### Endpoints -/

namespace Http

/-- Wherever the steps end, others find what belongs to them as it was. -/
def Spares (i : Int) {ε α : Type} (m : ExceptT ε Program α) : Prop :=
  ∀ s es r t, Part.Fit Book.Linked ⟨[], s⟩ → Runs m.run s es r t →
    t.rows.others i = s.rows.others i

/-- There are no steps, only a result. -/
def Immediate {ε α : Type} (m : ExceptT ε Program α) : Prop := ∃ x, m.run = .done x

section Spares

variable {i : Int} {ε α β : Type}

/-- Steps that store nothing spare what belongs to others. -/
theorem spares_of_quiet {m : ExceptT ε Program α} (h : Quiet m.run) : Spares i m := by
  intro s es r t _ hr
  rw [(h.runs hr).1]

/-- Checks without steps may come before what spares others. -/
theorem Spares.of_immediate {m : ExceptT ε Program α} {f : α → ExceptT ε Program β}
    (hm : Immediate m) (hf : ∀ a, Spares i (f a)) : Spares i (m >>= f) := by
  obtain ⟨x, hx⟩ := hm
  intro s es r t hfit h
  change Runs (m.run.bind (ExceptT.bindCont f)) s es r t at h
  rw [hx] at h
  cases x with
  | error e =>
    cases h
    rfl
  | ok a => exact hf a s es r t hfit h

/-- A check of an answer has no steps. -/
theorem immediate_ensure (r : Except Refusal α) : Immediate (ensure r) := by
  cases r <;> exact ⟨_, rfl⟩

/-- Looking for what may be missing in a message has no steps. -/
theorem immediate_orStatus (status : Nat) (a? : Option α) : Immediate (orStatus status a?) := by
  cases a? <;> exact ⟨_, rfl⟩

/-- Reading the body of a message has no steps. -/
theorem immediate_body (m : Message) (b : Body α) : Immediate (body m b) := by
  unfold body
  dsimp only
  split
  · exact ⟨_, rfl⟩
  split
  · exact ⟨_, rfl⟩
  split
  · exact immediate_orStatus _ _
  · exact ⟨_, rfl⟩
  · exact ⟨_, rfl⟩

/-- An action and the reply to it. -/
theorem spares_run {t : Desk.Action α} (ht : Spares i t) (g : α → Reply) :
    Spares i (run t >>= fun a => pure (g a)) := by
  intro s es r u hfit h
  rcases runs_bindExcept h with ⟨e, -, h₁⟩ | ⟨es₁, es₂, a, v, h₁, h₂, -⟩
  · obtain ⟨x, hx, -⟩ := runs_told h₁
    exact ht _ _ _ _ hfit hx
  · obtain ⟨x, hx, -⟩ := runs_told h₁
    cases h₂
    exact ht _ _ _ _ hfit hx

/-- Investors do not get beyond a check that is for administrators. -/
theorem spares_ensureAdmin {actor : Actor} (ha : actor = .investor i) {f : Unit → Answer α} :
    Spares i (ensure actor.ensureAdmin >>= f) := by
  subst ha
  exact spares_of_quiet (m := (throw _ : Answer α)) trivial

end Spares

section Endpoints

variable {i : Int} {caller : Caller} (ha : caller.actor = .investor i) (now : Instant)

include ha

/-- What is open to investors spares what belongs to others. -/
theorem spares_action {o : Operation} (ho : o.ForInvestors) : Spares i (o.action caller now) := by
  intro s es r t hfit h
  have hsafe : Safe Book.Linked (Deed (.operate o caller now)) (o.action caller now).run :=
    (Desk.ordered_action o caller now).safe fun b hb => hb.keyed
  exact (hsafe ⟨[], s⟩ rfl).leaves (f := (·.others i)) Book.LinkedIn.mono Deed.linked
    (fun hd hb => hd.others_eq hb ha ho) h hfit

/-- **Every endpoint spares others**, if the caller is an investor. -/
theorem spares_answer (m : Message) (query : List Char) (settings : Jobs.Settings) (rounds : Nat)
    (e : Endpoint) : Spares i (answer m query caller settings rounds now e) := by
  have haction : ∀ o : Operation, o.ForInvestors → Spares i (o.action caller now) := fun o ho =>
    spares_action ha now ho
  cases e with
  | openRequest =>
    exact .of_immediate (immediate_body _ _) fun c => spares_run (haction (.openRequest c) trivial) _
  | listRequests =>
    refine .of_immediate (immediate_orStatus _ _) fun q => ?_
    refine .of_immediate (immediate_ensure _) fun x => ?_
    exact spares_run (haction (.listOverviews _ _) trivial) _
  | showRequest id =>
    exact .of_immediate (immediate_orStatus _ _) fun id =>
      spares_run (spares_of_quiet (quiet_showRequest id caller)) _
  | deleteRequest id =>
    exact .of_immediate (immediate_orStatus _ _) fun _ => spares_ensureAdmin ha
  | propose request =>
    refine .of_immediate (immediate_orStatus _ _) fun _ => ?_
    refine .of_immediate (immediate_body _ _) fun _ => ?_
    exact spares_ensureAdmin ha
  | confirm request =>
    refine .of_immediate (immediate_orStatus _ _) fun _ => ?_
    refine .of_immediate (immediate_body _ _) fun _ => ?_
    exact spares_ensureAdmin ha
  | cancel request =>
    refine .of_immediate (immediate_orStatus _ _) fun _ => ?_
    refine .of_immediate (immediate_body _ _) fun _ => ?_
    exact spares_ensureAdmin ha
  | accept offer =>
    refine .of_immediate (immediate_orStatus _ _) fun _ => ?_
    refine .of_immediate (immediate_body _ _) fun c => ?_
    exact spares_run (haction (.accept c) trivial) _
  | decline offer =>
    exact .of_immediate (immediate_orStatus _ _) fun offer =>
      spares_run (haction (.decline offer) trivial) _
  | offersFor investor =>
    exact .of_immediate (immediate_orStatus _ _) fun investor =>
      spares_run (haction (.offersFor investor) trivial) _
  | createPackage line =>
    exact .of_immediate (immediate_orStatus _ _) fun _ => spares_ensureAdmin ha
  | setGuaranteeEnd contract =>
    refine .of_immediate (immediate_orStatus _ _) fun _ => ?_
    refine .of_immediate (immediate_body _ _) fun _ => ?_
    exact spares_ensureAdmin ha
  | withdraw symbol =>
    exact .of_immediate (immediate_orStatus _ _) fun _ => spares_ensureAdmin ha
  | addCeiling => exact .of_immediate (immediate_body _ _) fun _ => spares_ensureAdmin ha
  | currentCeiling => exact spares_ensureAdmin ha
  | listJobs => exact .of_immediate (immediate_orStatus _ _) fun _ => spares_ensureAdmin ha
  | runJobs => exact spares_ensureAdmin ha

end Endpoints

/-! ### Messages -/

/-- An investor's header, where there is one, says who the caller is. -/
theorem actor_of_identify {hs : Headers} {raw : String} (hraw : hs.get? investorHeader = some raw)
    {caller : Caller} (h : identify hs = .ok caller) :
    ∃ i, Text.readInt64 raw = some i ∧ caller.actor = .investor i := by
  obtain ⟨investor, hinvestor, h⟩ := Book.bind_eq_ok.1 h
  obtain ⟨name, -, h⟩ := Book.bind_eq_ok.1 h
  obtain ⟨actor, hactor, h⟩ := Book.bind_eq_ok.1 h
  obtain ⟨request, -, h⟩ := Book.bind_eq_ok.1 h
  cases h
  have hinvestor : investor = some raw := by
    unfold textHeader at hinvestor
    rw [hraw] at hinvestor
    dsimp only at hinvestor
    split at hinvestor
    · exact (Except.ok.inj hinvestor).symm
    · cases hinvestor
  subst hinvestor
  unfold actorOf at hactor
  dsimp only at hactor
  split at hactor
  · rename_i i hi
    exact ⟨i, hi, (Except.ok.inj hactor).symm⟩
  · cases hactor

/-- **A message in an investor's name spares what belongs to others.** -/
theorem others_serve {i : Int} {m : Message}
    (hm : ∀ caller, identify m.headers = .ok caller → caller.actor = .investor i)
    (settings : Jobs.Settings) (rounds : Nat) (now : Instant) {s t : Store} {es : List Event}
    {r : Reply} (hfit : Part.Fit Book.Linked ⟨[], s⟩)
    (h : Runs (serve m settings rounds now) s es r t) : t.rows.others i = s.rows.others i := by
  unfold serve at h
  generalize splitTarget m.target = x at h
  obtain ⟨path, query⟩ := x
  dsimp only at h
  generalize findEndpoint m.method path = found at h
  generalize identify m.headers = who at hm h
  obtain ⟨es₁, es₂, x, v, h₁, h₂, -⟩ := runs_bind h
  have hv : t = v := by
    cases x <;> cases h₂ <;> rfl
  subst hv
  refine (?_ : Spares i _) s es₁ x t hfit h₁
  cases who with
  | error f => exact spares_of_quiet (m := (throw _ : Answer Reply)) trivial
  | ok caller =>
    cases found with
    | error status => exact spares_of_quiet (m := (throw _ : Answer Reply)) trivial
    | ok e => exact spares_answer (hm caller rfl) now m query settings rounds e

/-- A message whose sender is not known is rejected at once. -/
theorem run_serve_of_error {m : Message} {f : Failure} (hf : identify m.headers = .error f)
    (settings : Jobs.Settings) (rounds : Nat) (now : Instant) (s : Session) :
    (Session.run (serve m settings rounds now) s).2 = s := by
  unfold serve
  rw [hf]
  rfl

end Http

/-- **What investors ask for stays within what is theirs.**  Whatever a message with an investor's
header says otherwise, and whatever has happened at the desk before: where the header is no number
the message does nothing, and where it is one, all requests of others are as they were afterwards,
with their offers, lines, sheets and contracts, and so are all ceilings and all records of jobs. -/
theorem History.investor_confined {w : World} {ws : List World} (h : History (w :: ws)) {s : Session}
    (hs : s.store = w.store) {m : Http.Message} {raw : String}
    (hraw : m.headers.get? Http.investorHeader = some raw) (settings : Jobs.Settings)
    (rounds : Nat) (now : Instant) :
    let t := (Session.run (Http.serve m settings rounds now) s).2
    (Text.readInt64 raw = none → t = s) ∧
      ∀ i, Text.readInt64 raw = some i → t.store.rows.others i = s.store.rows.others i := by
  refine ⟨fun hnone => ?_, fun i hi => ?_⟩
  · cases hwho : Http.identify m.headers with
    | error f => exact Http.run_serve_of_error hwho settings rounds now s
    | ok caller =>
      obtain ⟨i, hi, -⟩ := Http.actor_of_identify hraw hwho
      rw [hnone] at hi
      cases hi
  · have hpart := h.sound.1.part
    have hfit : Part.Fit Book.Linked ⟨[], s.store⟩ := by
      rw [hs]
      exact ⟨hpart.orderly, hpart.stored, fun _ hm => absurd hm List.not_mem_nil⟩
    refine Http.others_serve (fun caller hwho => ?_) settings rounds now hfit (runs_run _ s)
    obtain ⟨j, hj, ha⟩ := Http.actor_of_identify hraw hwho
    rw [hi] at hj
    rw [ha, ← Option.some.inj hj]

namespace Story

/-- Investor 8 asks for a loan too, and the request gets number 6. -/
def rival : Task := .operate (.openRequest ⟨{
  symbol := 1
  investor := 8
  account := "B1"
  kind := .flexible
  terms := .underlying (decimal 2 1) (decimal 100 0) }⟩)
  (.of (.investor 8)) now

/-- Investor 7 declines offer 3. -/
def declining : Http.Message where
  method := "POST"
  target := "/offers/3/decline"
  headers := [("X-Investor-Id", "7")]
  body := ""

/-- Line 4 is cancelled, and request 6 is as it was. -/
theorem investor_confined_declining :
    let s : Session := ⟨(World.played [rival, proposed, opened]).1, .empty true, []⟩
    let t := (Session.run (Http.serve declining .default 5 now) s).2
    (s.store.rows.lines.get? 4).map (·.status) = some .pending ∧
      (t.store.rows.lines.get? 4).map (·.status) = some .cancelled ∧
      ((s.store.rows.others 7).requests.get? 6).map (·.investor) = some 8 ∧
      t.store.rows.others 7 = s.store.rows.others 7 := by
  have hraw : declining.headers.get? Http.investorHeader = some "7" := by decide +kernel
  have hconfined := History.investor_confined (World.history_played [rival, proposed, opened])
    (s := ⟨(World.played [rival, proposed, opened]).1, .empty true, []⟩) rfl hraw .default 5 now
  exact ⟨by decide +kernel, by decide +kernel, by decide +kernel,
    hconfined.2 7 (by decide +kernel)⟩

end Story
end LoanDesk
