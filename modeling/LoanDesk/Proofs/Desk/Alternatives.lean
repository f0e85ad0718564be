/-
# What accepting a line changes

A line is accepted by an administrator who names its loan, or by the investor it was offered to. The
rows are changed in several strokes: the line is marked, the open lines of its offer are cancelled,
then those of the request, then the request is confirmed, and a contract may be written. The strokes
overlap, and the line must survive them.

`Rows.accepted` says row by row what is stored in the end, without the strokes: the line looks as it
is given back, every other open line of the request is cancelled, the request is confirmed, and
nothing else changes. In every world of a history that is what both ways of accepting leave, and the
numbers of lines that they tell are those of the lines cancelled (`History.accepted_exactly`).
-/

import LoanDesk.Proofs.Race.Verdicts

namespace LoanDesk

namespace Desk.Held

variable (h : Held)

/-- The other open lines of the request. -/
def rivals (rows : Rows) : List Line :=
  rows.pendingLines fun l => l.request == h.request.id && l.id != h.line.id

/-- What becomes of a line when the one that is held is accepted, and is `taken` then. -/
def fate (taken : Line) (by_ : String) (now : Instant) (l : Line) : Line :=
  if l.id = h.line.id then taken
  else if l.isPending ∧ l.request = h.request.id then l.cancelled by_ .alternativeOption now
  else l

variable {h} {taken l : Line} {by_ : String} {now : Instant}

/-- The held line meets the fate it is taken for. -/
theorem fate_self (hl : l.id = h.line.id) : h.fate taken by_ now l = taken := if_pos hl

/-- Every line keeps its id, whatever becomes of it. -/
theorem id_fate (ht : taken.id = h.line.id) (l : Line) : (h.fate taken by_ now l).id = l.id := by
  unfold fate
  split
  · rename_i hl
    rw [ht, hl]
  · split <;> rfl

end Desk.Held

namespace Rows

/-- The rows when the line that is held was accepted and is `taken` now, perhaps with a contract. -/
def accepted (rows : Rows) (h : Desk.Held) (taken : Line) (contract : Option Contract)
    (by_ : String) (now : Instant) : Rows :=
  { rows with
    requests := rows.requests.map fun r =>
      if r.id = h.request.id then { r with status := .confirmed, updatedAt := now } else r
    lines := rows.lines.map (h.fate taken by_ now)
    contracts := match contract with
      | some k => rows.contracts.insert k.id k
      | none => rows.contracts }

section Strokes

variable {F : Flow → Prop} {rows : Rows} {last : Int} {h : Desk.Held}

/-- Lines of the offer that is held are lines of the request that is held. -/
theorem request_of_held (hb : Book.LinkedIn F ⟨rows, last⟩) (hh : h.In rows) {i : Int} {l : Line}
    (hl : rows.lines.get? i = some l) (ho : l.offer = h.offer.id) : l.request = h.request.id := by
  have hoffer : h.offer.id = h.line.offer := hb.keyed.offers _ _ hh.offer
  rw [hoffer] at ho
  have hlo := hb.request_of_offer (Table.mem_values.2 ⟨i, hl⟩) (by rw [ho]; exact hh.offer)
  rw [hlo]
  exact (hb.keyed.requests _ _ hh.request).symm

/-- **What the strokes leave** is what is said row by row. -/
theorem take_eq_accepted (hb : Book.LinkedIn F ⟨rows, last⟩) (hh : h.In rows) {status : LineStatus}
    (hs : status.isAccepted) (by_ : String) (now : Instant) :
    rows.take h status by_ now = rows.accepted h (h.line.withStatus status now) none by_ now := by
  have hlines : rows.lines.map (h.settle status by_ now) =
      rows.lines.map (h.fate (h.line.withStatus status now) by_ now) := by
    refine Table.map_congr fun i l hl => ?_
    by_cases hid : l.id = h.line.id
    · rw [Desk.Held.settle_self hs hid, Desk.Held.fate_self hid,
        hb.keyed.lines.eq_of_key hl hh.line hid]
    · rw [Desk.Held.settle_eq hid, Desk.Held.fate, if_neg hid]
      have hoffer := request_of_held hb hh hl
      exact if_congr (and_congr_right fun _ => or_iff_right_of_imp hoffer) rfl rfl
  rw [take_eq, hlines, accepted]
  simp only [beq_iff_eq]

/-- A contract for the line that was accepted. -/
theorem sign_accepted (taken : Line) (ht : taken.id = h.line.id) {k : Contract}
    (hk : k.line = h.line.id) (by_ : String) (now : Instant) :
    (rows.accepted h taken none by_ now).sign k now =
      rows.accepted h (taken.withContract k.id now) (some k) by_ now := by
  have hlines : ((rows.accepted h taken none by_ now).sign k now).lines =
      rows.lines.map (h.fate (taken.withContract k.id now) by_ now) := by
    unfold sign attach putContract accepted
    dsimp only
    rw [Table.map_map]
    refine Table.map_congr fun _ l _ => ?_
    rw [Function.comp_apply, Desk.Held.id_fate ht, hk]
    by_cases hid : l.id = h.line.id
    · rw [Desk.Held.fate_self hid, Desk.Held.fate_self hid, if_pos (beq_iff_eq.2 hid)]
    · rw [if_neg (by simpa using hid), Desk.Held.fate, Desk.Held.fate, if_neg hid, if_neg hid]
  calc (rows.accepted h taken none by_ now).sign k now
      = { (rows.accepted h taken (some k)) by_ now with
          lines := ((rows.accepted h taken none by_ now).sign k now).lines } := rfl
    _ = rows.accepted h (taken.withContract k.id now) (some k) by_ now := by
      rw [hlines]
      rfl

/-- The alternatives of a line are its rivals, by offer. -/
theorem alternatives_eq (hb : Book.LinkedIn F ⟨rows, last⟩) (hh : h.In rows) :
    rows.alternatives h = ((h.rivals rows).countP fun l => l.offer = h.offer.id,
      (h.rivals rows).countP fun l => l.offer ≠ h.offer.id) := by
  have hfilter (q : Line → Bool) : (h.rivals rows).countP q =
      (rows.pendingLines fun l => (l.request == h.request.id && l.id != h.line.id) && q l).length := by
    rw [List.countP_eq_length_filter, Desk.Held.rivals, pendingLines_filter]
  rw [alternatives, hfilter, hfilter]
  refine Prod.ext (congrArg List.length (pendingLines_congr fun i l hl _ => ?_))
    (congrArg List.length (pendingLines_congr fun i l _ _ => ?_))
  · have hrequest := request_of_held hb hh hl
    grind
  · grind

end Strokes
end Rows

/-- What is given when the line that is held was accepted, beside the rows before and after: the line
and the contract are those stored, the contract is new, and the numbers are those of the other lines
that were cancelled, on the offer of the line and on other offers. -/
structure AcceptOutcome.Reports (a : AcceptOutcome) (x : Desk.Held) (by_ : String) (now : Instant)
    (rows rows' : Rows) : Prop where
  held : x.In rows
  request : a.request = x.request.id
  offer : a.offer = x.offer.id
  stored : rows' = rows.accepted x a.line a.contract by_ now
  line : rows'.lines.get? x.line.id = some a.line
  contract : ∀ k, a.contract = some k →
    rows.contracts.get? k.id = none ∧ rows'.contracts.get? k.id = some k
  siblings : a.cancelledSiblings = (x.rivals rows).countP fun l => l.offer = x.offer.id
  others : a.cancelledOthers = (x.rivals rows).countP fun l => l.offer ≠ x.offer.id

namespace Desk.Accepts

variable {F : Flow → Prop} {rows rows' : Rows} {last : Int} {x : Desk.Held} {n : Nat × Nat}

/-- The answer of an acceptance reports exactly the rows that it changed. -/
theorem reports (hx : Accepts x n rows rows') (hb : Book.LinkedIn F ⟨rows, last⟩) (taken : Line)
    {contract : Option Contract} (hk : ∀ k, contract = some k → last < k.id) (by_ : String)
    (now : Instant) (undelivered : Option String) :
    (x.outcome n taken contract undelivered).Reports x by_ now rows
      (rows.accepted x taken contract by_ now) where
  held := hx.held
  request := rfl
  offer := rfl
  stored := rfl
  line := Table.get?_map_eq_some.2 ⟨x.line, hx.held.line, Held.fate_self rfl⟩
  contract k hc := by
    change contract = some k at hc
    subst hc
    refine ⟨?_, Table.get?_insert_eq_some.2 (Or.inl ⟨rfl, rfl⟩)⟩
    cases hget : rows.contracts.get? k.id with
    | none => rfl
    | some k' => exact absurd (hb.contracts _ _ hget) (Int.not_le.2 (hk k rfl))
  siblings := congrArg Prod.fst (hx.count.trans (Rows.alternatives_eq hb hx.held))
  others := congrArg Prod.snd (hx.count.trans (Rows.alternatives_eq hb hx.held))

/-- The investor takes a line. -/
theorem reports_take (hx : Accepts x n rows rows') (hb : Book.LinkedIn F ⟨rows, last⟩)
    (by_ : String) (now : Instant) (undelivered : Option String) :
    (x.outcome n (x.line.withStatus .creatingPackage now) none undelivered).Reports x by_ now rows
      (rows.take x .creatingPackage by_ now) := by
  rw [Rows.take_eq_accepted hb hx.held rfl]
  exact hx.reports hb _ (fun _ hk => by cases hk) by_ now undelivered

/-- An administrator confirms a line, and its contract is written. -/
theorem reports_sign (hx : Accepts x n rows rows') (hb : Book.LinkedIn F ⟨rows, last⟩)
    {k : Contract} (hid : last < k.id) (hline : k.line = x.line.id) (by_ : String) (now : Instant)
    (undelivered : Option String) :
    (x.outcome n ((x.line.withStatus .packageCreated now).withContract k.id now) (some k)
        undelivered).Reports x by_ now rows
      ((rows.take x .packageCreated by_ now).sign k now) := by
  rw [Rows.take_eq_accepted hb hx.held rfl,
    Rows.sign_accepted (x.line.withStatus .packageCreated now) rfl hline]
  refine hx.reports hb _ (fun k' hk' => ?_) by_ now undelivered
  rw [← Option.some.inj hk']
  exact hid

end Desk.Accepts

open Program in
/-- **Accepting a line changes just what it has to**, in every world of a history and whatever rows
others hold. When an administrator confirms a request with a loan, or the investor takes a line, the
request is confirmed, the line looks as it is given back, with its contract on the first way, every
other open line of the request is cancelled as an alternative in the name of the caller, all that at
the time of the call, and no other row is touched. The lines that are cancelled are told by number,
those of the same offer and those of other offers. -/
theorem History.accepted_exactly {w : World} {ws : List World} (h : History (w :: ws))
    {s : Session} (hs : s.store = w.store) (caller : Caller) (now : Instant) :
    (∀ c a, (Session.run (Desk.confirm c caller now).run s).1 = .ok a →
      ∃ x n, x.line.request = c.request ∧ x.line.loan = c.loan ∧
        a.line = (x.line.withStatus .packageCreated now).withContract n now ∧
        a.contract = some ((ContractDraft.forLine x.request x.line).toContract n now) ∧
        a.Reports x caller.name now w.store.rows
          (Session.run (Desk.confirm c caller now).run s).2.store.rows) ∧
    ∀ c a, (Session.run (Desk.accept c caller now).run s).1 = .ok a →
      ∃ x : Desk.Held, c = ⟨x.offer.id, x.line.id⟩ ∧
        a.line = x.line.withStatus .creatingPackage now ∧ a.contract = none ∧
        a.Reports x caller.name now w.store.rows
          (Session.run (Desk.accept c caller now).run s).2.store.rows := by
  have hb : s.store.stored.Linked := by
    rw [hs]
    exact h.sound.1.part.stored
  rw [← hs]
  refine ⟨fun c a ha => ?_, fun c a ha => ?_⟩
  · have hruns := runs_run (Desk.confirm c caller now).run s
    rw [ha] at hruns
    generalize (Session.run (Desk.confirm c caller now).run s).2 = t at hruns ⊢
    obtain ⟨m, hm, he⟩ := Desk.confirm_eq c caller now
    rw [he] at hruns
    obtain ⟨⟨x, siblings, others, k⟩, last, ⟨-, hline, hx, n, hn, hk, hrows⟩, -, u, rfl⟩ :=
      hm.told (fun _ => Desk.telling_tell_eq _ _) hruns hb.keyed
    dsimp only at hline hx hk hrows
    subst hk
    refine ⟨x, n, hline.1, hline.2, rfl, rfl, ?_⟩
    rw [hrows]
    exact hx.reports_sign (k := (ContractDraft.forLine x.request x.line).toContract n now) hb hn rfl
      caller.name now u
  · have hruns := runs_run (Desk.accept c caller now).run s
    rw [ha] at hruns
    generalize (Session.run (Desk.accept c caller now).run s).2 = t at hruns ⊢
    obtain ⟨m, hm, he⟩ := Desk.accept_eq c caller now
    rw [he] at hruns
    obtain ⟨⟨x, n⟩, last, ⟨-, hc, hx, hrows⟩, -, u, rfl⟩ :=
      hm.told (fun _ => Desk.telling_tell_eq _ _) hruns hb.keyed
    dsimp only at hc hx hrows
    refine ⟨x, hc, rfl, rfl, ?_⟩
    rw [hrows]
    exact hx.reports_take hb caller.name now u

namespace Story

/-- Another offer for request 1, with two more lines. -/
def countered : Task :=
  .operate (.propose ⟨1, .online, none, .null, [line 20, line 21]⟩) caller now

/-- Two offers for request 1 are open, and somebody holds request 10. -/
def crowded : Session :=
  ⟨(World.played [opened, countered, proposed, opened]).1.engage (.lockRequest 10 .noWait),
    .empty true, []⟩

/-- Two offers for request 1 are open, and nobody is at work. -/
def quiet : Session := ⟨(World.played [countered, proposed, opened]).1, .empty true, []⟩

/-- The investor takes line 4: the other line of the offer goes, and both lines of the other offer.
Or an administrator confirms loan 21, and gets line 9 with a contract. -/
theorem accepted_exactly_crowded :
    (crowded.store.locks.holder? (.request 10) = some 5 ∧
      ∃ a x, (Session.run (Desk.accept ⟨3, 4⟩ caller now).run crowded).1 = .ok a ∧
        (a.line.id, a.cancelledSiblings, a.cancelledOthers) = (4, 1, 2) ∧
        a.Reports x caller.name now crowded.store.rows
          (Session.run (Desk.accept ⟨3, 4⟩ caller now).run crowded).2.store.rows) ∧
    ∃ a x, (Session.run (Desk.confirm ⟨1, 21⟩ caller now).run quiet).1 = .ok a ∧
      x.line.loan = 21 ∧ (∃ k, a.contract = some k ∧ k.loan = 21) ∧
      a.Reports x caller.name now quiet.store.rows
        (Session.run (Desk.confirm ⟨1, 21⟩ caller now).run quiet).2.store.rows := by
  refine ⟨⟨by decide +kernel, ?_⟩, ?_⟩
  · have hcounts : (Session.run (Desk.accept ⟨3, 4⟩ caller now).run crowded).1.toOption.map
        (fun a => (a.line.id, a.cancelledSiblings, a.cancelledOthers)) = some (4, 1, 2) := by
      decide +kernel
    cases he : (Session.run (Desk.accept ⟨3, 4⟩ caller now).run crowded).1 with
    | error e =>
      rw [he] at hcounts
      cases hcounts
    | ok a =>
      rw [he] at hcounts
      have h := (World.history_played [opened, countered, proposed, opened]).engage
        (.lockRequest 10 .noWait)
      obtain ⟨x, -, -, -, hx⟩ := (History.accepted_exactly h (s := crowded) rfl caller now).2 _ a he
      exact ⟨a, x, rfl, Option.some.inj hcounts, hx⟩
  · have h := World.history_played [countered, proposed, opened]
    have hopened : quiet.store.opened = .empty := Table.eq_empty (by decide +kernel)
    have hl : (quiet.store.rows.lines.get? 9).isSome := by decide +kernel
    have hid : (Option.get _ hl).id = 9 := by decide +kernel +revert
    have hoffered : (Option.get _ hl).request = 1 ∧ (Option.get _ hl).loan = 21 ∧
        (Option.get _ hl).isPending := by decide +kernel +revert
    have hline : quiet.store.rows.Confirmable ⟨1, 21⟩ (Option.get _ hl) :=
      ⟨by rw [hid]; exact (Option.some_get hl).symm, hoffered⟩
    have hrun := (Session.run_alone (Desk.confirm ⟨1, 21⟩ caller now).run quiet rfl
      (Desk.succeeds_confirm (h.rests hopened) hline)).1
    cases he : (Session.run (Desk.confirm ⟨1, 21⟩ caller now).run quiet).1 with
    | error e =>
      rw [he] at hrun
      exact hrun.elim
    | ok a =>
      obtain ⟨x, n, -, hloan, -, hk, hx⟩ :=
        (History.accepted_exactly h (s := quiet) rfl caller now).1 _ a he
      exact ⟨a, x, rfl, hloan, ⟨_, hk, hloan⟩, hx⟩

end Story
end LoanDesk
