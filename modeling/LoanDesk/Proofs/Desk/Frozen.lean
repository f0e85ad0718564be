/-
# Offers without a flow

Whoever fills a store may put offers of unspecified flow into it, although none can be proposed. The
table of moves has no move for their lines. What accepts a line or creates its package, and what
cancels lines one by one or with their offer or when it expires, looks at the flow of the offer, and
so these lines are frozen for it.

What closes a request does not look: where a symbol is withdrawn, where a request is declined for its
rate, and where a line of another offer is taken, all lines of the request are cancelled that are
pending, whatever the flow of their offers. That is the only way in which a line of an offer without
flow changes at all (`Session.frozen_unless_closed`): it changes if and only if it is pending and its
request is closed.
-/

import LoanDesk.Proofs.Desk.Frozen.Spared

namespace LoanDesk

/-- **What deeds do to lines of offers without flow.** -/
theorem Deed.frozen {t : Task} {b b' : Book} (hd : Deed t b b') (hb : b.Joined) (ht : t.Adds) :
    b.rows.Frozen t b'.rows := by
  -- an offer with a flow is another one
  have hother : ∀ {i : Int} {o o' : Offer}, b.rows.offers.get? i = some o →
      o.flow = .unspecified → b.rows.offers.get? o'.id = some o' → o'.flow ≠ .unspecified →
        i ≠ o'.id := by
    rintro i o o' ho hflow ho' hflow' rfl
    rw [ho] at ho'
    rw [Option.some.inj ho'] at hflow
    exact hflow' hflow
  have hheld : ∀ {x : Desk.Held}, x.In b.rows → x.offer.flow ≠ .unspecified → ∀ i l o,
      b.rows.lines.get? i = some l → b.rows.offers.get? l.offer = some o → o.flow = .unspecified →
        l.id ≠ x.line.id ∧ l.offer ≠ x.offer.id := by
    intro x hx hxflow i l o hl ho hflow
    have hid := hb.keyed.offers _ _ hx.offer
    have hne : l.offer ≠ x.offer.id :=
      hother ho hflow (by rw [hid]; exact hx.offer) hxflow
    refine ⟨fun he => hne ?_, hne⟩
    rw [hb.keyed.lines.eq_of_key hl hx.line he, hid]
  cases hd with
  | openRequest hs hn hlast =>
    intro i l o r hl ho hflow hr
    exact ⟨l, r, hl, ho, hb.requests.get?_insert hn hr, .refl _ l r⟩
  | deleteRequest => exact absurd ⟨_, _, rfl⟩ (ht _)
  | @propose c caller now _ r sheet offer lines last hc hr hp hs ho hl hlast =>
    intro i l o' r' hl' ho' hflow hr'
    rw [Store.foldl_putLine]
    have hoffer : b.last < offer := Int.lt_trans hs ho
    have hnew : ∀ m ∈ LineDraft.toLines offer r.id now lines c.lines, m.id ≠ i := by
      intro m hm he
      have hle := LineDraft.le_id_of_mem_toLines _ _ m hm
      have hi := hb.lines i l hl'
      omega
    refine ⟨l, r', ?_, hb.offers.get?_insert hoffer ho', hr', .refl _ l r'⟩
    rw [Table.get?_foldl_insert_of_notMem _ _ hnew]
    exact hl'
  | @confirm c caller now _ x n last hh hc hp hm hk hn hlast =>
    have hne := hheld hh (Desk.flow_of_canMove hm)
    have htake : b.rows.Frozen (.operate (.confirm c) caller now)
        (b.rows.take x .packageCreated caller.name now) :=
      Rows.Frozen.take (t := .operate (.confirm c) caller now) hb.keyed.requests hh hp trivial rfl
        hne _
    refine htake.trans (.sign (fun i l o hl ho hflow => ?_) now)
    rw [Rows.take_eq] at hl ho
    obtain ⟨m, hm, rfl⟩ := Table.get?_map_eq_some.1 hl
    rw [x.settle_place.2.1] at ho
    rw [x.settle_place.1]
    exact (hne i m o hm ho hflow).1
  | @accept caller now _ x last hh hs ho hx hp hm hlast =>
    exact Rows.Frozen.take (t := .operate (.accept ⟨x.offer.id, x.line.id⟩) caller now)
      hb.keyed.requests hh hp trivial rfl (hheld hh (Desk.flow_of_canMove hm)) _
  | @createPackage caller now _ x n last hh hm hk hn hlast =>
    have hne := hheld hh (Desk.flow_of_canMove hm)
    have hset : b.rows.Frozen (.operate (.createPackage x.line.id) caller now)
        (b.rows.setLines (fun l => [x.line.id].contains l.id) .packageCreated now) :=
      .mapLines fun i l o hl ho hflow => if_neg (by simpa using (hne i l o hl ho hflow).1)
    refine hset.trans (.sign (fun i l o hl ho hflow => ?_) now)
    obtain ⟨m, hm, rfl⟩ := Table.get?_map_eq_some.1 hl
    split at ho
    · next he =>
      exact absurd (by simpa using he) (hne i m o hm ho hflow).1
    · next he =>
      rw [if_neg he]
      exact (hne i m o hm ho hflow).1
  | setGuaranteeEnd => exact .of_eq rfl rfl rfl
  | cancel hr hids hlast hflows =>
    refine .cancel (fun i l o hl ho hflow => ?_) _ _ _
    rw [← Bool.not_eq_true, List.contains_iff_mem]
    intro hmem
    obtain ⟨o', ho', hflow'⟩ := hflows l.id hmem l (by rw [hb.keyed.lines i l hl]; exact hl)
    rw [ho] at ho'
    exact hflow' (Option.some.inj ho' ▸ hflow)
  | decline ho' hr hs hlast hflow' =>
    exact .cancel (fun i l o hl ho hflow => by simpa using hother ho hflow ho' hflow') _ _ _
  | @withdraw symbol caller now _ rs last hrs hlast =>
    exact Rows.Frozen.shut (t := .operate (.withdraw symbol) caller now) hb.keyed.requests
      (fun r hr => ⟨(hrs r hr).1, (hrs r hr).2.1⟩) trivial rfl
  | addCeiling => exact .of_eq rfl rfl rfl
  | expire hlast =>
    refine .cancel (fun i l o hl ho hflow => ?_) _ _ _
    rw [← Bool.not_eq_true, List.contains_iff_mem, List.mem_map]
    rintro ⟨o', hmem, hid⟩
    obtain ⟨hvalue, hcond⟩ := List.mem_filter.1 hmem
    have honline : o'.flow = .online := by
      rw [Bool.and_eq_true, Bool.and_eq_true] at hcond
      exact eq_of_beq hcond.1.1
    exact hother ho hflow (hb.keyed.offers.mem_values.1 hvalue) (by rw [honline]; decide) hid.symm
  | @declineBatch actor batch rounds now _ rate rs last hrs hlast =>
    exact Rows.Frozen.shut (t := .decline actor batch rounds now) hb.keyed.requests
      (fun r hr => ⟨(hrs r hr).1, (hrs r hr).2.1⟩) trivial rfl
  | record => exact .of_eq rfl rfl rfl

/-- **Nothing changes a line of an offer without flow but the closing of its request.**  Whatever
task runs over consistent rows, deletion apart, beside whomever: the line is kept, and so are its
offer and its request. If the request was open before and is closed afterwards, the task was an
acceptance, a withdrawal of a symbol or a decline of high rates, and a pending line has been
cancelled by it. In all other cases the line is as it was. -/
theorem Session.frozen_unless_closed {s : Session} (hs : s.store.Orderly)
    (hj : s.store.stored.Joined) {t : Task} (ht : t.Adds) {i : Int} {l : Line} {o : Offer}
    {r : Request} (hl : s.store.rows.lines.get? i = some l)
    (ho : s.store.rows.offers.get? l.offer = some o) (hflow : o.flow = .unspecified)
    (hr : s.store.rows.requests.get? l.request = some r) :
    let rows := (Session.run t.program s).2.store.rows
    ∃ l' r', rows.lines.get? i = some l' ∧ rows.offers.get? l.offer = some o ∧
      rows.requests.get? l.request = some r' ∧
      ((r.isPending ∧ r'.isPending = false ∧ t.Closes ∧ ∃ stamp, t.stamp? = some stamp ∧
          l' = if l.isPending then stamp.cancel l else l) ∨
        (r'.isPending = r.isPending ∧ l' = l)) := by
  have hsafe := t.safe_program (I := Book.Joined) (fun b hb => hb.keyed) ⟨[], s.store⟩ rfl
  have hfrozen := hsafe.relates (R := Rows.Frozen t) Book.LinkedIn.mono
    (Deed.linkedIn fun _ _ => trivial) (fun _ => .of_eq rfl rfl rfl) .trans
    (fun hd hb => hd.frozen hb ht) (Program.runs_run t.program s)
    ⟨hs, hj, fun tx hm => absurd hm List.not_mem_nil⟩
  obtain ⟨l', r', hl', ho', hr', hspares⟩ := hfrozen i l o r hl ho hflow hr
  refine ⟨l', r', hl', ho', hr', ?_⟩
  have hline := hspares.line
  cases hp : r.isPending with
  | false =>
    have hp' : r'.isPending = false := by
      cases h : r'.isPending with
      | false => rfl
      | true => rw [hspares.isPending h] at hp; cases hp
    exact Or.inr ⟨hp', by rw [hline, hp]; simp⟩
  | true =>
    cases hp' : r'.isPending with
    | true => exact Or.inr ⟨rfl, by rw [hline, hp']; simp⟩
    | false =>
      have hcloses := hspares.closes hp hp'
      obtain ⟨stamp, hstamp, hstrike⟩ := hcloses.strike l
      refine Or.inl ⟨rfl, rfl, hcloses, stamp, hstamp, ?_⟩
      rw [hline, hp, hp', hstrike]
      simp

namespace Story

/-- Somebody stores offer 2 for the request, which has no flow, and line 3. -/
def flowless : Store :=
  let s := (World.played [opened]).1.begin
  let offered := (s.2.perform s.1 (.createOffer ⟨1, "desk", .unspecified, none⟩ now)).2
  (offered.perform s.1 (.createLines 2 1 [line 10] now)).2.commit s.1

/-- The symbol of the request is withdrawn. -/
def withdrawn : Task := .operate (.withdraw 1) caller now

/-- The store with the offer without flow is orderly. -/
theorem orderly_flowless : flowless.Orderly := by
  have hplayed := (World.history_played [opened]).sound.1.part.orderly
  have hoffered := hplayed.begin.perform ((Store.isOpen_begin _ _).2 (Or.inl rfl))
    (.createOffer ⟨1, "desk", .unspecified, none⟩ now)
  exact (hoffered.perform (by decide +kernel) (.createLines 2 1 [line 10] now)).commit _

/-- Its rows belong together. -/
theorem joined_flowless : flowless.stored.Joined := by
  have hplayed := (World.history_played [opened]).sound.1.part.stored
  have hasked : Book.Joined (World.played [opened]).1.stored :=
    { hplayed with flow := fun _ _ _ => trivial }
  have hrequest : ((World.played [opened]).1.rows.requests.get? 1).isSome := by decide +kernel
  obtain ⟨r, hr⟩ := Option.isSome_iff_exists.1 hrequest
  have hoffered := hasked.putOffer (o := (⟨1, "desk", .unspecified, none⟩ : OfferDraft).toOffer 2 now)
    (by decide +kernel) trivial ⟨r, hr⟩
  exact hoffered.putLine (l := (line 10).toLine 3 2 1 now) (by decide) ⟨_, by rfl, rfl⟩

/-- What is stored after the withdrawal. -/
def flowlessAfter : Store := (Session.run withdrawn.program ⟨flowless, .empty true, []⟩).2.store

/-- Line 3 is pending, has no flow, and is cancelled. -/
theorem frozen_unless_closed_withdrawn :
    (flowless.rows.lines.get? 3).map (·.status) = some .pending ∧
      (flowless.rows.offers.get? 2).map (·.flow) = some .unspecified ∧
      ∃ l stamp, flowless.rows.lines.get? 3 = some l ∧ withdrawn.stamp? = some stamp ∧
        flowlessAfter.rows.lines.get? 3 = some (stamp.cancel l) := by
  have hline : flowless.rows.lines.get? 3 = some ((line 10).toLine 3 2 1 now) := by rfl
  have hoffer : flowless.rows.offers.get? 2 =
    some ((⟨1, "desk", .unspecified, none⟩ : OfferDraft).toOffer 2 now) := by rfl
  have hrequest : (flowless.rows.requests.get? 1).map (·.isPending) = some true := by decide +kernel
  have hclosed : (flowlessAfter.rows.requests.get? 1).map (·.isPending) = some false := by
    decide +kernel
  obtain ⟨r, hr, hopen⟩ := Option.map_eq_some_iff.1 hrequest
  have hadds : withdrawn.Adds := Task.adds_operate fun id h => by cases h
  obtain ⟨l', r', hl', -, hr', hcases⟩ := Session.frozen_unless_closed
    (s := ⟨flowless, .empty true, []⟩) orderly_flowless joined_flowless hadds hline hoffer rfl hr
  refine ⟨by rfl, by rfl, _, _, hline, rfl, ?_⟩
  rcases hcases with ⟨-, -, -, stamp, hstamp, rfl⟩ | ⟨hsame, -⟩
  · obtain rfl := Option.some.inj hstamp
    exact hl'
  · -- the request was closed
    replace hr' : flowlessAfter.rows.requests.get? 1 = some r' := hr'
    rw [hr', Option.map_some, hsame, hopen] at hclosed
    cases hclosed

end Story
end LoanDesk
