/-
# Numbers are given out once

Every step of a store keeps its register (`Store.Does.kept`), so every store that comes about has
one. Hence a number stands in one table at most, rows that are created have greater numbers than all
before them, and a number that was lost is never seen again (`Store.Registered.given_once`).
-/

import LoanDesk.Proofs.Store.Register.Kept

namespace LoanDesk
namespace Store

namespace Continues

variable {s t u : Store} {l l' l'' : Register}

/-- Beginning gives out no number. -/
theorem begin (h : Continues s l t l') : Continues s l t.begin.2 l' := by
  refine h.step (c := .begin) (x := .ok t.begin.1) (fun i d hc => ?_) ⟨rfl, rfl⟩
  cases hc

/-- A call notes the numbers that it is given. -/
theorem call (h : Continues s l t l') {tx : TxId} (ho : t.IsOpen tx) (c : Call) :
    Continues s l (t.perform tx c).2
      (l'.after t (t.perform tx c).2 (.call tx c) (t.perform tx c).1) := by
  refine h.step (c := .call tx c) (x := (t.perform tx c).1) (fun i d hc => ?_) rfl
  cases hc
  exact ho

/-- A commit settles what was staged. -/
theorem commit (h : Continues s l t l') (tx : TxId) :
    Continues s l (t.commit tx) (l'.settle tx .stored) := by
  refine h.step (c := .commit tx) (x := .ok ()) (fun i d hc => ?_) ⟨rfl, rfl⟩
  cases hc

/-- The end of a transaction without a commit loses what was staged. -/
theorem drop (h : Continues s l t l') (tx : TxId) :
    Continues s l (t.drop tx) (l'.settle tx fun _ => .lost) := by
  refine h.step (c := .drop tx) (x := ()) (fun i d hc => ?_) rfl
  cases hc

/-- Two stretches of steps make up one. -/
theorem trans (h : Continues s l t l')
    (h' : Continues t l' u l'') : Continues s l u l'' := by
  induction h' with
  | refl => exact h
  | step _ hc hd ih => exact ih.step hc hd

/-- What is continued from a store that comes about comes about. -/
theorem reached (h : Continues s l t l') (hs : s.Reached) : t.Reached := by
  induction h with
  | refl => exact hs
  | step _ hc hd ih => exact ih.step hc hd

/-- A number that is lost stays lost. -/
theorem lost (h : Continues s l t l') {id : Int} (hid : ⟨id, .lost⟩ ∈ l) : ⟨id, .lost⟩ ∈ l' := by
  induction h with
  | refl => exact hid
  | step _ _ _ ih => exact Register.mem_after_of_lost ih

end Continues

/-- **The register is kept by every step.** -/
theorem Does.kept {s t : Store} {l : Register} (hr : s.Reached) (h : s.Kept l) {c : Command}
    {x : c.Answer} (hs : s.Does c x t) : t.Kept (l.after s t c x) := by
  cases c with
  | begin =>
    obtain ⟨-, rfl⟩ := hs
    refine ⟨h.last, h.numbers, h.stored, fun tx n id a ha => ?_⟩
    rw [changes_begin] at ha
    split at ha
    · cases n <;> cases ha
    · exact h.staged tx n id a ha
  | deliver e =>
    obtain rfl : t = s := hs
    exact h
  | commit tx =>
    obtain ⟨-, rfl⟩ := hs
    exact h.commit tx
  | drop tx =>
    obtain rfl : t = s.drop tx := hs
    exact h.drop tx
  | call tx c =>
    have hp : s.perform tx c = (x, t) := hs.symm
    have hframe := perform_frame s tx c
    rw [hp] at hframe
    cases x with
    | ok a =>
      obtain ⟨hbook, -, hk⟩ := perform_ok (h.keyed tx) hp
      obtain ⟨hlast, hnumbers, hgrows⟩ := Book.grows_perform hbook
      refine h.call hframe ?_ ?_ hk hgrows fun x hx => List.mem_map.2 ⟨x, hx, rfl⟩
      · rw [List.length_map]
        exact hlast
      · rw [List.map_map, List.length_map]
        exact hnumbers
    | error e =>
      have hview := (hr.failed_call hp).2.1
      have hk : (t.view tx).Keyed := hview ▸ (h.keyed tx).foldl_put
      have hgrows : (s.view tx).Grows (t.view tx) [] := by
        rw [hview]
        refine (Rows.grows_refl _).foldl_put fun x hx => ?_
        exact Call.isSome_of_mem_targets (h.keyed tx) (List.takeWhile_subset _ hx)
      refine h.call hframe ?_ ?_ hk hgrows fun x hx => absurd hx List.not_mem_nil
      · have hle : s.lastId ≤ t.lastId := hframe.lastId
        rw [List.length_map, length_numbersAfter]
        omega
      · rw [List.map_map, List.length_map, length_numbersAfter]
        exact List.map_id _

/-- A store that comes about with a register keeps to it. -/
theorem Registered.kept {s : Store} {l : Register} (h : s.Registered l) : s.Kept l := by
  induction h with
  | refl => exact .empty
  | step h _ hs ih => exact hs.kept (h.reached .empty) ih

/-- Every store that comes about has a register. -/
theorem Reached.registered {s : Store} (h : s.Reached) : ∃ l, s.Registered l := by
  induction h with
  | empty => exact ⟨[], .refl⟩
  | step _ hc hs ih =>
    obtain ⟨l, hl⟩ := ih
    exact ⟨_, hl.step hc hs⟩

/-- **Whatever a transaction sees in a store that comes about stands under its own number.** -/
theorem Reached.keyed {s : Store} (h : s.Reached) (tx : TxId) : (s.view tx).Keyed :=
  h.registered.choose_spec.kept.keyed tx

/-- **Numbers are given out once.**  However many transactions begin, make calls and end, in whatever
order, the register of what has happened lists the numbers in ascending order without a gap, so that
every row that is created has a number greater than those of all rows created before it, by whichever
transaction.

* Every row of every table stands under its own number, which the register has as stored in that
  table, and every row that a transaction has staged stands under its own number, which the register
  has as stored in that table or as staged for it by that transaction. So no number stands in two
  tables.
* What a call creates has numbers greater than all that were given out, in the order in which it
  creates them.
* A number that was lost, because its call failed or its transaction was rolled back, stays lost: no
  row is ever stored or staged under it again. -/
theorem Registered.given_once {s : Store} {l : Register} (h : s.Registered l) :
    (s.lastId = l.length ∧ l.map Entry.id = numbersAfter 0 l.length ∧ l.Pairwise (·.id < ·.id)) ∧
    (∀ n id a, (s.rows.get n).get? id = some a → n.number a = id ∧ ⟨id, .stored n⟩ ∈ l) ∧
    (∀ tx n id a, ((s.changes tx).get n).get? id = some (some a) →
      n.number a = id ∧ (⟨id, .stored n⟩ ∈ l ∨ ⟨id, .staged tx n⟩ ∈ l)) ∧
    (∀ n m id, s.Bears n id → s.Bears m id → n = m) ∧
    (∀ tx c a t, s.perform tx c = (.ok a, t) →
      ((c.created a).map Prod.snd).Pairwise (· < ·) ∧ ∀ x ∈ c.created a, ∀ e ∈ l, e.id < x.2) ∧
    ∀ id, ⟨id, .lost⟩ ∈ l → ∀ t l', s.Continues l t l' →
      ⟨id, .lost⟩ ∈ l' ∧ ∀ n, ¬t.Bears n id := by
  have hkept := h.kept
  refine ⟨⟨hkept.last, hkept.numbers, hkept.ascending⟩, hkept.stored, hkept.staged, ?_, ?_, ?_⟩
  · intro n m id hn hm
    have htable : ∀ {n}, s.Bears n id → ∃ fate, ⟨id, fate⟩ ∈ l ∧ fate.table? = some n := by
      intro n hb
      rcases hkept.bears hb with hmem | ⟨tx, hmem⟩
      · exact ⟨_, hmem, rfl⟩
      · exact ⟨_, hmem, rfl⟩
    obtain ⟨fate, hfate, htn⟩ := htable hn
    obtain ⟨fate', hfate', htm⟩ := htable hm
    rw [hkept.fate_eq hfate hfate', htm] at htn
    exact (Option.some.inj htn).symm
  · intro tx c a t hp
    obtain ⟨-, hnumbers, -⟩ := Book.grows_perform (perform_ok (hkept.keyed tx) hp).1
    refine ⟨hnumbers ▸ ascending_numbersAfter _ _, fun x hx e he => ?_⟩
    have hx : x.2 ∈ numbersAfter s.lastId (c.created a).length :=
      hnumbers ▸ List.mem_map_of_mem hx
    exact Int.lt_of_le_of_lt (hkept.id_le he) (mem_numbersAfter.1 hx).1
  · intro id hid t l' hc
    have hkept' := Registered.kept (h.trans hc)
    have hlost := hc.lost hid
    refine ⟨hlost, fun n hb => ?_⟩
    rcases hkept'.bears hb with hmem | ⟨tx, hmem⟩
    · cases hkept'.fate_eq hlost hmem
    · cases hkept'.fate_eq hlost hmem

end Store

namespace Story

/-- Transaction 3 is rolled back with the request that it had asked for, and transaction 2 asks for
another one. -/
def askedAgain : Store := ((tried.drop 3).perform 2 (.createRequest wish noon)).2

/-- Its register. -/
def askedTwice : Register := [⟨1, .stored .requests⟩, ⟨2, .lost⟩, ⟨3, .staged 2 .requests⟩]

/-- The store in which a request was asked for again has its register. -/
theorem registered_askedAgain : askedAgain.Registered askedTwice := by
  have hfirst : Store.empty.begin.2.IsOpen 1 := by decide +kernel
  have hsecond : stored.IsOpen 2 := by decide +kernel
  have hlocked : locked.IsOpen 3 := by decide +kernel
  have hrefused : (locked.perform 3 (.lockRequest 1 .noWait)).2.IsOpen 3 := by decide +kernel
  have hrolled : (tried.drop 3).IsOpen 2 := by decide +kernel
  have hempty : Store.empty.Registered [] := .refl
  have hstored := ((hempty.begin.call hfirst (.createRequest wish noon)).commit 1).begin.begin
  have htried := ((hstored.call hsecond (.lockRequest 1 .noWait)).call hlocked
    (.lockRequest 1 .noWait)).call hrefused (.createRequest wish noon)
  obtain ⟨l, hl, heq⟩ : ∃ l, askedAgain.Registered l ∧ l = askedTwice :=
    ⟨_, (htried.drop 3).call hrolled (.createRequest wish noon), by decide +kernel⟩
  exact heq ▸ hl

/-- Number 2 is lost. The request that is asked for next is number 3, and whatever happens then, none
is number 2 again. -/
theorem given_once_rolledBack :
    askedAgain.Registered askedTwice ∧ (askedAgain.rows.requests.get? 1).isSome ∧
      ((askedAgain.changes 2).requests.get? 3).isSome ∧
      ∀ t l, askedAgain.Continues askedTwice t l → ∀ n, ¬t.Bears n 2 := by
  obtain ⟨-, -, -, -, -, hlost⟩ := Store.Registered.given_once registered_askedAgain
  have hmem : ⟨2, .lost⟩ ∈ askedTwice := by decide
  exact ⟨registered_askedAgain, by decide +kernel, by decide +kernel,
    fun t l hc => (hlost 2 hmem t l hc).2⟩

end Story
end LoanDesk
