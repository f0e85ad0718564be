/-
# What investors are told

An investor gets three answers that read what is stored: a page of requests, one request, and the
offers. They are read off the rows that belong to the investor (`Rows.own`), so desks at which the same
rows belong to the investor answer alike (`History.answers_confined`). The exception is a request that
is not the investor's: the reply has the same status whether somebody else has the request or nobody
does, but not the same words (`Http.TellsApart`).
-/

import LoanDesk.Json.Printer
import LoanDesk.Proofs.Http.OwnRows

namespace LoanDesk

open Program

/-! ### Replies -/

namespace Http

/-- What investors may read is read here. -/
def Endpoint.Reads : Endpoint → Prop
  | .listRequests | .showRequest _ | .offersFor _ => True
  | _ => False

/-- The reply to a message, given what the steps of the answer come to. -/
def settled (m : Message) (found : Except Nat Endpoint) (x : Except Rejection Reply) : Reply :=
  let reply := match x with
    | .ok reply => reply
    | .error rejection => rejection.reply
  if m.method = "HEAD" && found.isOk then { reply with body := none } else reply

/-- What an action comes to in an answer. -/
def told {α : Type} (g : α → Reply) : Except Failure α → Except Rejection Reply
  | .ok a => .ok (g a)
  | .error f => .error (.told f)

/-- The steps give the same in two sessions. -/
def Alike (s s' : Session) {ε α : Type} (m : ExceptT ε Program α) : Prop :=
  (Session.run m.run s).1 = (Session.run m.run s').1

section

variable {ε α β : Type} {s s' : Session}

/-- Checks without steps may come before steps that give the same. -/
theorem Alike.of_immediate {m : ExceptT ε Program α} {f : α → ExceptT ε Program β}
    (hm : Immediate m) (hf : ∀ a, Alike s s' (f a)) : Alike s s' (m >>= f) := by
  obtain ⟨x, hx⟩ := hm
  change (Session.run (m.run.bind (ExceptT.bindCont f)) s).1 =
    (Session.run (m.run.bind (ExceptT.bindCont f)) s').1
  rw [hx]
  cases x with
  | error e => rfl
  | ok a => exact hf a

/-- An answer that runs an action gives what the action comes to. -/
theorem run_run (t : Desk.Action α) (g : α → Reply) (s : Session) :
    (Session.run (run t >>= fun a => pure (g a)).run s).1 = told g (Session.run t.run s).1 := by
  rw [Session.run_exceptBind, run, Session.run_exceptBind, Session.run_lift]
  generalize Session.run t.run s = x
  obtain ⟨e | a, t⟩ := x <;> rfl

/-- An answer that runs an action gives the same where the action does. -/
theorem Alike.run {t : Desk.Action α} (h : Alike s s' t) (g : α → Reply) :
    Alike s s' (Http.run t >>= fun a => pure (g a)) := by
  rw [Alike, run_run, run_run, h]

/-- The reply to a message is settled by what the steps of its endpoint come to. -/
theorem run_serve (m : Message) {caller : Caller} (hwho : identify m.headers = .ok caller)
    {e : Endpoint} (he : findEndpoint m.method (splitTarget m.target).1 = .ok e)
    (settings : Jobs.Settings) (rounds : Nat) (now : Instant) (s : Session) :
    (Session.run (serve m settings rounds now) s).1 = settled m (.ok e) (Session.run
      (answer m (splitTarget m.target).2 caller settings rounds now e).run s).1 := by
  unfold serve
  rw [hwho]
  generalize splitTarget m.target = x at he
  obtain ⟨path, query⟩ := x
  dsimp only at he ⊢
  rw [he]
  change (Session.run ((answer m query caller settings rounds now e).run.bind _) s).1 = _
  rw [Session.run_bind]
  generalize Session.run (answer m query caller settings rounds now e).run s = x
  obtain ⟨e | a, t⟩ := x <;> rfl

/-- Both sessions reject a message whose sender is not known, in the same words. -/
theorem alike_serve_of_error {m : Message} {f : Failure} (hf : identify m.headers = .error f)
    (settings : Jobs.Settings) (rounds : Nat) (now : Instant) (s s' : Session) :
    (Session.run (serve m settings rounds now) s).1 =
      (Session.run (serve m settings rounds now) s').1 := by
  unfold serve
  rw [hf]
  rfl

end

section Endpoints

variable {store store' : Store} {mailbox mailbox' : Mailbox} {i : Int} {caller : Caller}

/-- What an overview of a request tells an investor: what is the investor's own, or in which words
there is nothing. -/
theorem run_showRequest (ha : caller.actor = .investor i) (id : Int) :
    (Session.run (showRequest id caller).run ⟨store, mailbox, []⟩).1 =
      ((store.rows.own i).overview? id).elim (.error (.notFound
        (if store.rows.isOthers i id then "loan package request" else "request") id)) .ok := by
  have hoverview := Session.run_overview? store mailbox id
  rw [showRequest, Session.run_exceptBind]
  generalize Session.run (Desk.overview id).run ⟨store, mailbox, []⟩ = x at hoverview
  obtain ⟨x, t⟩ := x
  dsimp only at hoverview
  subst hoverview
  cases hr : store.rows.requests.get? id with
  | none =>
    have hnone : (store.rows.own i).requests.get? id = none := Rows.get?_own_eq_none.2 (Or.inl hr)
    simp only [Rows.overview?, Rows.isOthers, hr, hnone]
    rfl
  | some r =>
    by_cases hi : r.investor = i
    · have hown : store.rows.isOwn i id := Rows.isOwn_iff.2 ⟨r, hr, hi⟩
      rw [Rows.overview_own hown, Rows.overview?, hr, ha]
      simp only [Option.map_some, Option.elim_some, Actor.investorId?, RequestOverview.of]
      rw [if_pos hi.symm]
      rfl
    · have hothers : store.rows.isOthers i id := by simp [Rows.isOthers, hr, hi]
      have hnone := Rows.get?_own_eq_none.2 (Or.inr hothers)
      rw [Rows.overview?, Rows.overview?, hr, hnone, ha, if_pos hothers]
      simp only [Option.map_some, Option.elim_some, Actor.investorId?, RequestOverview.of]
      rw [if_neg (Ne.symm hi)]
      rfl

variable (hb : store.stored.Linked) (hb' : store'.stored.Linked)
  (hown : store.rows.own i = store'.rows.own i) (ha : caller.actor = .investor i)

include hb hb' hown ha

/-- A page of overviews is the same where one's own rows are. -/
theorem alike_listOverviews (f : RequestFilter) (page : Page) :
    Alike ⟨store, mailbox, []⟩ ⟨store', mailbox', []⟩
      (Desk.listOverviews (scopeFilter caller f) page) := by
  have hf : (scopeFilter caller f).investor = some i := by
    rw [scopeFilter, ha]
    rfl
  have hk : store.rows.Keyed := hb.keyed
  have hk' : store'.rows.Keyed := hb'.keyed
  rw [Alike, Session.run_listOverviews, Session.run_listOverviews, ← Rows.overviews_own hk hf,
    ← Rows.overviews_own hk' hf, hown]

/-- The offers to an investor are the same where one's own rows are. -/
theorem alike_offersFor (investor : Int) :
    Alike ⟨store, mailbox, []⟩ ⟨store', mailbox', []⟩ (Desk.offersFor investor caller) := by
  rw [Desk.offersFor]
  cases hs : caller.actor.ensureScope investor with
  | error r => rfl
  | ok u =>
    obtain rfl := Actor.owner_of_ensureScope ha hs
    have hoffers := Session.run_offersTo store mailbox investor
    rw [← Rows.offersTo_own hb, hown, Rows.offersTo_own hb', ← Session.run_offersTo store' mailbox']
      at hoffers
    exact hoffers

end Endpoints

/-- What tells two desks apart: at one of them somebody else has the request, at the other nobody
does, and the replies say so. -/
structure TellsApart (rows rows' : Rows) (i id : Int) (reply reply' : Reply) : Prop where
  hidden : rows.isOthers i id
  missing : rows'.requests.get? id = none
  toldHidden : reply = .ofFailure (.notFound "loan package request" id)
  toldMissing : reply' = .ofFailure (.notFound "request" id)

section

variable {store store' : Store} {mailbox mailbox' : Mailbox} {i : Int} {caller : Caller} {m : Message}

/-- A number in the path is read before what follows. -/
theorem run_number_bind {piece : List Char} {id : Int} (hid : pathNumber? piece = some id)
    (f : Int → Answer Reply) : number piece >>= f = f id := by
  rw [number, hid]
  rfl

/-- An investor is told of a request what is the investor's own, and else only whether somebody has
it. -/
theorem alike_showRequest (hown : store.rows.own i = store'.rows.own i)
    (ha : caller.actor = .investor i) {id : Int}
    (h : store.rows.isOthers i id = store'.rows.isOthers i id) :
    Alike ⟨store, mailbox, []⟩ ⟨store', mailbox', []⟩ (showRequest id caller) := by
  rw [Alike, run_showRequest ha, run_showRequest ha, hown, h]

/-- **Desks answer alike** where an investor's own rows are the same, and no request that is asked
for is somebody else's at just one of them. -/
theorem alike_answer (hb : store.stored.Linked) (hb' : store'.stored.Linked)
    (hown : store.rows.own i = store'.rows.own i) (ha : caller.actor = .investor i) {e : Endpoint}
    (hreads : e.Reads) (hsame : ∀ piece id, e = .showRequest piece → pathNumber? piece = some id →
      store.rows.isOthers i id = store'.rows.isOthers i id)
    (query : List Char) (settings : Jobs.Settings) (rounds : Nat) (now : Instant) :
    Alike ⟨store, mailbox, []⟩ ⟨store', mailbox', []⟩
      (answer m query caller settings rounds now e) := by
  cases e with
  | listRequests =>
    refine .of_immediate (immediate_orStatus _ _) fun q => ?_
    refine .of_immediate (immediate_ensure _) fun x => ?_
    exact .run (alike_listOverviews hb hb' hown ha _ _) _
  | offersFor piece =>
    exact .of_immediate (immediate_orStatus _ _) fun investor =>
      .run (alike_offersFor hb hb' hown ha investor) _
  | showRequest piece =>
    change Alike _ _ (number piece >>= _)
    cases hid : pathNumber? piece with
    | none =>
      rw [number, hid]
      rfl
    | some id =>
      rw [run_number_bind hid]
      exact .run (alike_showRequest hown ha (hsame piece id rfl hid)) _
  | _ => exact hreads.elim

/-- A request that is not the investor's is not found, in one way or the other. -/
theorem run_answer_stranger (ha : caller.actor = .investor i) {piece : List Char} {id : Int}
    (hid : pathNumber? piece = some id) (hnone : (store.rows.own i).requests.get? id = none)
    (query : List Char) (settings : Jobs.Settings) (rounds : Nat) (now : Instant) :
    (Session.run (answer m query caller settings rounds now (.showRequest piece)).run
      ⟨store, mailbox, []⟩).1 = .error (.told (.notFound
        (if store.rows.isOthers i id then "loan package request" else "request") id)) := by
  change (Session.run (number piece >>= _).run _).1 = _
  rw [run_number_bind hid, run_run, run_showRequest ha, Rows.overview?, hnone]
  rfl

/-- A failure is told as its reply, without the body where only the head was asked for. -/
theorem settled_told (found : Except Nat Endpoint) (f : Failure) :
    settled m found (.error (.told f)) =
      if m.method = "HEAD" && found.isOk then ⟨f.status, none⟩ else .ofFailure f := rfl

/-- A request that somebody else has at one desk, and nobody at the other: the status is the same,
and so is the body if it is left out. -/
theorem stranger_apart (ha : caller.actor = .investor i) (hown : store.rows.own i = store'.rows.own i)
    {piece : List Char} {id : Int} (hid : pathNumber? piece = some id)
    (h : store.rows.isOthers i id) (h' : ¬store'.rows.isOthers i id) (query : List Char)
    (settings : Jobs.Settings) (rounds : Nat) (now : Instant) :
    let reply := settled m (.ok (.showRequest piece)) (Session.run
      (answer m query caller settings rounds now (.showRequest piece)).run ⟨store, mailbox, []⟩).1
    let reply' := settled m (.ok (.showRequest piece)) (Session.run
      (answer m query caller settings rounds now (.showRequest piece)).run ⟨store', mailbox', []⟩).1
    reply.status = reply'.status ∧
      (reply = reply' ∨ TellsApart store.rows store'.rows i id reply reply') := by
  have hnone := Rows.get?_own_eq_none.2 (Or.inr h)
  have hnone' : (store'.rows.own i).requests.get? id = none := hown ▸ hnone
  have hmissing := (Rows.get?_own_eq_none.1 hnone').resolve_right h'
  rw [run_answer_stranger ha hid hnone, run_answer_stranger ha hid hnone', if_pos h, if_neg h',
    settled_told, settled_told]
  split
  · exact ⟨rfl, Or.inl rfl⟩
  · exact ⟨rfl, Or.inr ⟨h, hmissing, rfl, rfl⟩⟩

end
end Http

/-- **Investors are told what is theirs.**  At two desks where the same requests, offers and lines
belong to an investor, whatever else has happened at them, a message that asks for requests or
offers gets the same status and the same body.  The one exception is a request that somebody else
has at one of the desks and nobody has at the other: it is not found at either, but the words
differ. -/
theorem History.answers_confined {w w' : World} {ws ws' : List World} (h : History (w :: ws))
    (h' : History (w' :: ws')) {i : Int} (hown : w.store.rows.own i = w'.store.rows.own i)
    {s s' : Session} (hs : s.store = w.store) (hs' : s'.store = w'.store) (hf : s.faults = [])
    (hf' : s'.faults = []) {m : Http.Message} {raw : String}
    (hraw : m.headers.get? Http.investorHeader = some raw) (hi : Text.readInt64 raw = some i)
    {e : Http.Endpoint} (he : Http.findEndpoint m.method (Http.splitTarget m.target).1 = .ok e)
    (hreads : e.Reads) (settings : Jobs.Settings) (rounds : Nat) (now : Instant) :
    let reply := (Session.run (Http.serve m settings rounds now) s).1
    let reply' := (Session.run (Http.serve m settings rounds now) s').1
    reply.status = reply'.status ∧ (reply = reply' ∨
      ∃ piece id, e = .showRequest piece ∧ Http.pathNumber? piece = some id ∧
        (Http.TellsApart s.store.rows s'.store.rows i id reply reply' ∨
          Http.TellsApart s'.store.rows s.store.rows i id reply' reply)) := by
  obtain ⟨store, mailbox, faults⟩ := s
  obtain ⟨store', mailbox', faults'⟩ := s'
  dsimp only at hs hs' hf hf'
  subst hs hs' hf hf'
  have hb : w.store.stored.Linked := h.sound.1.part.stored
  have hb' : w'.store.stored.Linked := h'.sound.1.part.stored
  cases hwho : Http.identify m.headers with
  | error f =>
    have hsame := Http.alike_serve_of_error hwho settings rounds now ⟨w.store, mailbox, []⟩
      ⟨w'.store, mailbox', []⟩
    exact ⟨congrArg Http.Reply.status hsame, Or.inl hsame⟩
  | ok caller =>
    obtain ⟨j, hj, ha⟩ := Http.actor_of_identify hraw hwho
    rw [hi] at hj
    obtain rfl := Option.some.inj hj
    rw [Http.run_serve m hwho he, Http.run_serve m hwho he]
    by_cases hsame : ∀ piece id, e = .showRequest piece → Http.pathNumber? piece = some id →
        w.store.rows.isOthers i id = w'.store.rows.isOthers i id
    · have halike : Http.Alike ⟨w.store, mailbox, []⟩ ⟨w'.store, mailbox', []⟩
          (Http.answer m (Http.splitTarget m.target).2 caller settings rounds now e) :=
        Http.alike_answer hb hb' hown ha hreads hsame ..
      have hreply := congrArg (Http.settled m (.ok e)) halike
      exact ⟨congrArg Http.Reply.status hreply, Or.inl hreply⟩
    · push Not at hsame
      obtain ⟨piece, id, rfl, hid, hne⟩ := hsame
      by_cases hx : w.store.rows.isOthers i id
      · have hx' : ¬w'.store.rows.isOthers i id := fun hx' => hne (hx.trans hx'.symm)
        exact (Http.stranger_apart ha hown hid hx hx' ..).imp_right (Or.imp_right
          fun hapart => ⟨piece, id, rfl, hid, Or.inl hapart⟩)
      · have hx' : w'.store.rows.isOthers i id := by
          rw [Bool.not_eq_true] at hx
          rwa [hx, ne_eq, eq_comm, Bool.not_eq_false] at hne
        exact (Http.stranger_apart ha hown.symm hid hx' hx ..).imp Eq.symm (Or.imp Eq.symm
          fun hapart => ⟨piece, id, rfl, hid, Or.inr hapart⟩)

namespace Story

/-- Investor 7 asks for request 6. -/
def asking : Http.Message where
  method := "GET"
  target := "/requests/6"
  headers := [("X-Investor-Id", "7")]
  body := ""

/-- Where investor 8 has opened request 6, investor 7 can tell. -/
theorem answers_confined_asking :
    let s : Session := ⟨(World.played [rival, proposed, opened]).1, .empty true, []⟩
    let s' : Session := ⟨(World.played [proposed, opened]).1, .empty true, []⟩
    let reply := (Session.run (Http.serve asking .default 5 now) s).1
    let reply' := (Session.run (Http.serve asking .default 5 now) s').1
    s.store.rows.own 7 = s'.store.rows.own 7 ∧ reply.status = reply'.status ∧
      Http.TellsApart s.store.rows s'.store.rows 7 6 reply reply' := by
  intro s s' reply reply'
  have hown : s.store.rows.own 7 = s'.store.rows.own 7 := by decide +kernel
  have hothers : s'.store.rows.isOthers 7 6 = false := by decide +kernel
  have hwords : reply.body.map Json.text ≠ reply'.body.map Json.text := by decide +kernel
  have hraw : asking.headers.get? Http.investorHeader = some "7" := by decide +kernel
  have hendpoint : Http.findEndpoint asking.method (Http.splitTarget asking.target).1 =
      .ok (.showRequest "6".toList) := by
    decide +kernel
  have hsix : Http.pathNumber? "6".toList = some 6 := by decide +kernel
  have hs : s.store = (World.played [rival, proposed, opened]).1 := rfl
  have hs' : s'.store = (World.played [proposed, opened]).1 := rfl
  have hfaults : s.faults = [] := rfl
  have hfaults' : s'.faults = [] := rfl
  obtain ⟨hstatus, hreply⟩ := History.answers_confined
    (World.history_played [rival, proposed, opened]) (World.history_played [proposed, opened]) hown
    hs hs' hfaults hfaults' hraw (by decide +kernel) hendpoint trivial .default 5 now
  refine ⟨hown, hstatus, ?_⟩
  obtain ⟨piece, id, hpiece, hid, hapart⟩ :=
    hreply.resolve_left fun h => hwords (congrArg (·.body.map Json.text) h)
  rw [← Http.Endpoint.showRequest.inj hpiece, hsix] at hid
  obtain rfl := Option.some.inj hid
  refine hapart.resolve_right fun h => ?_
  have hhidden := h.hidden
  rw [hothers] at hhidden
  cases hhidden

end Story
end LoanDesk
