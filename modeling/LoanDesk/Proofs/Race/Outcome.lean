/-
# A race has one winner

Several bids for one open request are under way side by side, one command of one of them at a time
(`Race.Step`). Whatever the order of their commands, once all of them are through exactly one has
accepted its line, all others were told that they came too late, and what is stored is what the
winner would have left by itself (`History.one_bid_wins`).

Each bid runs in a lane of its own, and its own steps are such that they leave the other lanes alone
(`Race.On.step`). In the end no transaction is open, so nobody holds the request, and whoever was
told to be too late was so because somebody had won or was going to.
-/

import LoanDesk.Proofs.Desk.Histories
import LoanDesk.Proofs.Race.Outcome.Lanes
import Mathlib.Tactic.Choose

namespace LoanDesk
namespace Race

variable {n : Nat} {α : Type} {C : Course (Fin n)} {Q : Fin n → α → Lane (Fin n) → Prop}

/-! ### Bids side by side -/

/-- A race of bids from a store without open transactions on. -/
theorem on_start {s : Store} (hs : s.Orderly) (ho : s.opened = .empty) (hC : C.Sound)
    (hstart : C.start = s.stored) {bids : Fin n → Bid}
    (hb : ∀ i, (bids i).Leaves C.request C.start (C.finish i)) :
    On C (Desk.Settles C) ⟨s, fun i => (bids i).program⟩ (fun _ => []) none := by
  have hclosed : ∀ tx, ¬s.IsOpen tx := by
    intro tx h
    rw [Store.IsOpen, ho] at h
    simp at h
  have hfree : ∀ key tx, s.locks.holder? key ≠ some tx := fun key tx hk =>
    hclosed tx (hs.held key tx hk)
  refine ⟨fun i => ⟨hs, fun _ h => absurd h List.not_mem_nil, ?_, ?_, ?_⟩, ?_, ?_, fun i => ?_⟩
  · rw [Course.rows, hstart]
    rfl
  · exact fun key tx hk => absurd hk (hfree key tx)
  · intro _ _
    rw [hstart]
    rfl
  · exact fun _ _ _ h => absurd h List.not_mem_nil
  · exact fun tx h => absurd h (hclosed tx)
  · exact (hb i).settles hC rfl (Option.some_ne_none i).symm

/-- **Exactly one bid wins**, and leaves what it would have left by itself. -/
theorem On.one_wins {g : Race n (Except Failure AcceptOutcome)} {mine : Fin n → List TxId}
    {winner : Option (Fin n)} (h : On C (Desk.Settles C) g mine winner) (hn : 0 < n)
    {result : Fin n → Except Failure AcceptOutcome} (hd : ∀ i, g.programs i = .done (result i)) :
    ∃ i, (∃ a, result i = .ok a) ∧ (∀ j, j ≠ i → ∃ e, result j = .error e ∧ e.IsTooLate) ∧
      g.store.rows = C.finish i := by
  have hsettles : ∀ i, Desk.Settles C i (result i) ⟨mine i, g.store, winner⟩ := by
    intro i
    have hlane := h.ensures i
    rw [hd i] at hlane
    exact hlane _ (.refl i _)
  have hfree : ∀ tx, g.store.locks.holder? (.request C.request) ≠ some tx := by
    intro tx hh
    obtain ⟨i, hi⟩ := h.covered tx ((h.fit ⟨0, hn⟩).orderly.held _ tx hh)
    have hmine : mine i = [] := (hsettles i).mine_eq
    rw [hmine] at hi
    exact absurd hi List.not_mem_nil
  have hwinner : winner ≠ none := by
    rcases (hsettles ⟨0, hn⟩).decided with hw | hh
    · exact hw
    · obtain ⟨tx, htx⟩ := Option.ne_none_iff_exists'.1 hh
      exact absurd htx (hfree tx)
  obtain ⟨i, rfl⟩ := Option.ne_none_iff_exists'.1 hwinner
  exact ⟨i, (hsettles i).ok_of_winner rfl,
    fun j hj => (hsettles j).error_of_winner fun he => hj (Option.some.inj he).symm, (h.fit i).rows⟩

/-- A race from a state of the desk on, of bids of which it is known what each would leave. -/
theorem one_wins {s : Store} (hs : s.Orderly) (ho : s.opened = .empty) (hl : s.stored.Linked)
    (hp : s.rows.Paired fun _ => False) {request : Int} {r : Request}
    (hr : s.rows.requests.get? request = some r) (hr' : r.isPending) {bids : Fin n → Bid}
    {rows : Fin n → Rows} (hb : ∀ i, (bids i).Leaves request s.stored (rows i)) (hn : 0 < n)
    {g : Race n (Except Failure AcceptOutcome)} (hg : Runs ⟨s, fun i => (bids i).program⟩ g)
    {result : Fin n → Except Failure AcceptOutcome} (hd : ∀ i, g.programs i = .done (result i)) :
    ∃ i, (∃ a, result i = .ok a) ∧ (∀ j, j ≠ i → ∃ e, result j = .error e ∧ e.IsTooLate) ∧
      g.store.rows = rows i := by
  have hC : Course.Sound ⟨request, s.stored, rows⟩ := by
    refine ⟨hl, hp, fun w => ?_, fun w => ?_, ⟨r, hr, hr'⟩, fun k _ hk => (hb k).closed hk⟩
    · cases w with
      | none => exact hl.keyed
      | some k => exact (hb k).keyed hl
    · cases w with
      | none => exact .refl _
      | some k => exact (hb k).later
  obtain ⟨mine, winner, h⟩ := (on_start hs ho hC rfl hb).runs hg
  exact h.one_wins hn hd

/-! ### A bid by itself -/

end Race

/-- Where no fault is in force a session does what the store does. -/
theorem Session.handle_does (s : Session) (h : s.faults = []) (c : Command) :
    s.store.Does c (handle c s).1 (handle c s).2.store ∧ (handle c s).2.faults = [] := by
  obtain ⟨store, mailbox, faults⟩ := s
  dsimp only at h
  subst h
  cases c with
  | begin => exact ⟨⟨rfl, rfl⟩, rfl⟩
  | call tx c => exact ⟨rfl, rfl⟩
  | commit tx => exact ⟨⟨rfl, rfl⟩, rfl⟩
  | drop tx => exact ⟨rfl, rfl⟩
  | deliver e => exact ⟨rfl, rfl⟩

/-- What a session without faults does with a program is a race of one. -/
theorem Race.runs_alone {α : Type} : ∀ (p : Program α) (s : Session), s.faults = [] →
    Runs ⟨s.store, fun _ : Fin 1 => p⟩
      ⟨(Session.run p s).2.store, fun _ => .done (Session.run p s).1⟩
  | .done a, s, _ => .refl
  | .step c next, s, h => by
    obtain ⟨hdoes, hfaults⟩ := s.handle_does h c
    have hrest := runs_alone (next (Session.handle c s).1) (Session.handle c s).2 hfaults
    refine Relation.ReflTransGen.head (Step.mk (i := 0) rfl hdoes) ?_
    have hprograms : Function.update (fun _ : Fin 1 => Program.step c next) 0
        (next (Session.handle c s).1) = fun _ => next (Session.handle c s).1 := by
      funext i
      rw [Subsingleton.elim i 0, Function.update_self]
    rw [hprograms]
    exact hrest

/-- **Of any number of bids for an open request exactly one wins**, in whatever order their commands
come, once all of them are through. The others are told that the request or its offer is busy, that
the line cannot be moved, or that the request was dealt with; and what is stored is what the winner
leaves where it runs alone. -/
theorem History.one_bid_wins {w : World} {ws : List World} (h : History (w :: ws))
    (hopened : w.store.opened = .empty) {request : Int} {r : Request}
    (hr : w.store.rows.requests.get? request = some r) (hp : r.isPending) {n : Nat} (hn : 0 < n)
    {bids : Fin n → Bid} (hb : ∀ i, (bids i).Fits request w.store.rows)
    {g : Race n (Except Failure AcceptOutcome)}
    (hg : Race.Runs ⟨w.store, fun i => (bids i).program⟩ g)
    {result : Fin n → Except Failure AcceptOutcome} (hd : ∀ i, g.programs i = .done (result i)) :
    ∃ i, (∃ a, result i = .ok a) ∧ (∀ j, j ≠ i → ∃ e, result j = .error e ∧ e.IsTooLate) ∧
      ∀ s : Session, s.store = w.store → s.faults = [] →
        g.store.rows = (Session.run (bids i).program s).2.store.rows := by
  obtain ⟨⟨⟨horderly, hlinked, -⟩, -⟩, -, hpaired⟩ := h.sound
  choose rows hrows using fun i => (hb i).leaves (b := w.store.stored) hlinked ⟨r, hr⟩
  obtain ⟨i, hok, herror, he⟩ := Race.one_wins horderly hopened hlinked hpaired hr hp hrows hn hg hd
  refine ⟨i, hok, herror, fun s hs hf => ?_⟩
  have halone := Race.runs_alone (bids i).program s hf
  rw [hs] at halone
  obtain ⟨-, -, -, he'⟩ := Race.one_wins horderly hopened hlinked hpaired hr hp
    (fun _ : Fin 1 => hrows i) Nat.zero_lt_one halone fun _ => rfl
  rw [he, he']

namespace Story

/-- An offer with two lines is open. -/
def offered : Store := (World.played [proposed, opened]).1

/-- The investor takes both lines at once. -/
def bids : Fin 2 → Bid
  | 0 => .accept ⟨3, 4⟩ caller now
  | 1 => .accept ⟨3, 5⟩ caller now

/-- The two take turns. -/
def raced : Race 2 (Except Failure AcceptOutcome) :=
  (List.replicate 11 (List.finRange 2)).flatten.foldl Race.turn
    ⟨offered, fun i => (bids i).program⟩

/-- The bids of the story may be made for request 1. -/
theorem fits_bids : ∀ i, (bids i).Fits 1 offered.rows := by
  have hr : (offered.rows.requests.get? 1).isSome := by decide +kernel
  have ho : (offered.rows.offers.get? 3).isSome := by decide +kernel
  have hl : (offered.rows.lines.get? 4).isSome := by decide +kernel
  have hm : (offered.rows.lines.get? 5).isSome := by decide +kernel
  have hs : (Option.get _ hr).investor = 7 := by decide +kernel +revert
  have hoffer : (Option.get _ ho).request = 1 ∧ (Option.get _ ho).flow = .online ∧
      (Option.get _ ho).isExpired now = false := by decide +kernel +revert
  have hlines : (Option.get _ hl).offer = 3 ∧ (Option.get _ hl).isPending ∧
      (Option.get _ hm).offer = 3 ∧ (Option.get _ hm).isPending := by decide +kernel +revert
  obtain ⟨hor, honline, hx⟩ := hoffer
  obtain ⟨hlo, hlp, hmo, hmp⟩ := hlines
  have hscope : ∀ id, caller.actor = .investor id → id = (Option.get _ hr).investor := by
    intro id he
    cases he
    exact hs.symm
  refine Fin.forall_fin_two.2 ⟨?_, ?_⟩
  · exact .accept (c := ⟨3, 4⟩) (Option.some_get hr).symm (Option.some_get ho).symm
      (Option.some_get hl).symm hor hlo hlp honline hx hscope
  · exact .accept (c := ⟨3, 5⟩) (Option.some_get hr).symm (Option.some_get ho).symm
      (Option.some_get hm).symm hor hmo hmp honline hx hscope

/-- What a program has given, if it is done. -/
def given? {α : Type} : Program α → Option α
  | .done a => some a
  | .step _ _ => none

/-- A program that gives something is done. -/
theorem done_given? {α : Type} {p : Program α} (h : (given? p).isSome) :
    p = .done ((given? p).get h) := by
  cases p with
  | done a => rfl
  | step c next => cases h

/-- The two bids take turns, and one of them wins. -/
theorem one_bid_wins_raced : ∃ result : Fin 2 → Except Failure AcceptOutcome,
    (∀ i, raced.programs i = .done (result i)) ∧
      ∃ i, (∃ a, result i = .ok a) ∧ ∀ j, j ≠ i → ∃ e, result j = .error e ∧ e.IsTooLate := by
  have hopened : offered.opened = .empty := by
    have hnone : offered.opened.rows.isEmpty := by decide +kernel
    exact Table.ext fun k => by rw [Table.get?, List.isEmpty_iff.1 hnone]; rfl
  have hr : (offered.rows.requests.get? 1).isSome := by decide +kernel
  have hp : (Option.get _ hr).isPending := by decide +kernel +revert
  have hdone : ∀ i, (given? (raced.programs i)).isSome := by decide +kernel
  have hd : ∀ i, raced.programs i = .done ((given? (raced.programs i)).get (hdone i)) :=
    fun i => done_given? (hdone i)
  obtain ⟨i, hok, herror, -⟩ := History.one_bid_wins (World.history_played [proposed, opened])
    hopened (Option.some_get hr).symm hp (by decide) fits_bids (Race.runs_turns _ _) hd
  exact ⟨_, hd, i, hok, herror⟩

end Story
end LoanDesk
