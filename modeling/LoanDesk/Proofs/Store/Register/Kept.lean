/-
# The register of numbers

One counter gives the rows of all seven tables their numbers, for all transactions. A `Register`
notes every number as it is given out, with what becomes of it: its row is staged by a transaction,
it reaches a table with the commit of that transaction, or it is lost, because the call that took it
failed or its transaction was rolled back.

A register is kept for a store (`Store.Kept`) if it lists the numbers in their order without a gap,
and whatever is stored or staged anywhere stands under its own number, in the table that the register
has for it. It is kept when a call has created rows and when a transaction ends.
-/

import LoanDesk.Proofs.Store.Register.Growth
import Mathlib.Data.List.Nodup

namespace LoanDesk

/-- What becomes of a number that was given out. -/
inductive Fate where
  /-- Its row is staged by a transaction, for a table. -/
  | staged (tx : TxId) (n : TableName)
  /-- The transaction has committed. -/
  | stored (n : TableName)
  /-- The call that took it failed, or the transaction was rolled back. -/
  | lost
  deriving DecidableEq

/-- The transaction ends, and with it what its rows are waiting for. -/
def Fate.settle (tx : TxId) (end_ : TableName → Fate) : Fate → Fate
  | .staged i n => if i = tx then end_ n else .staged i n
  | .stored n => .stored n
  | .lost => .lost

/-- The table that the number is for. -/
def Fate.table? : Fate → Option TableName
  | .staged _ n | .stored n => some n
  | .lost => none

/-- A number that was given out, and what has become of it. -/
structure Entry where
  id : Int
  fate : Fate
  deriving DecidableEq

/-- The numbers that were given out, in that order. -/
abbrev Register := List Entry

namespace Register

/-- The transaction ends. -/
def settle (l : Register) (tx : TxId) (end_ : TableName → Fate) : Register :=
  l.map fun e => ⟨e.id, e.fate.settle tx end_⟩

/-- A step from one store to another is noted with what it gives. -/
def after (l : Register) (s t : Store) : (c : Command) → c.Answer → Register
  | .call tx c, .ok a => l ++ (c.created a).map fun x => ⟨x.2, .staged tx x.1⟩
  | .call _ _, .error _ =>
    l ++ (numbersAfter s.lastId (t.lastId - s.lastId).toNat).map fun id => ⟨id, .lost⟩
  | .commit tx, _ => l.settle tx .stored
  | .drop tx, _ => l.settle tx fun _ => .lost
  | .begin, _ | .deliver _, _ => l

variable {l : Register} {tx : TxId} {end_ : TableName → Fate} {id : Int} {n : TableName}

/-- The end of a transaction leaves the numbers of a register. -/
theorem map_id_settle : (l.settle tx end_).map Entry.id = l.map Entry.id := by
  rw [settle, List.map_map]
  rfl

/-- Every number has, after the end of a transaction, what its fate has become. -/
theorem mem_settle {fate : Fate} (h : ⟨id, fate⟩ ∈ l) : ⟨id, fate.settle tx end_⟩ ∈ l.settle tx end_ :=
  List.mem_map.2 ⟨⟨id, fate⟩, h, rfl⟩

/-- What others have staged stays staged. -/
theorem mem_settle_of_ne {i : TxId} (hi : i ≠ tx) (h : ⟨id, .staged i n⟩ ∈ l) :
    ⟨id, .staged i n⟩ ∈ l.settle tx end_ := by
  have hmem : ⟨id, (Fate.staged i n).settle tx end_⟩ ∈ l.settle tx end_ := mem_settle h
  rwa [Fate.settle, if_neg hi] at hmem

/-- What the transaction had staged is settled. -/
theorem mem_settle_self (h : ⟨id, .staged tx n⟩ ∈ l) : ⟨id, end_ n⟩ ∈ l.settle tx end_ := by
  have hmem : ⟨id, (Fate.staged tx n).settle tx end_⟩ ∈ l.settle tx end_ := mem_settle h
  rwa [Fate.settle, if_pos rfl] at hmem

/-- What is lost stays lost. -/
theorem mem_after_of_lost {s t : Store} {c : Command} {x : c.Answer} (h : ⟨id, .lost⟩ ∈ l) :
    ⟨id, .lost⟩ ∈ l.after s t c x := by
  cases c with
  | begin | deliver => exact h
  | commit | drop => exact mem_settle h
  | call tx c =>
    cases x with
    | ok a => exact List.mem_append_left _ h
    | error e => exact List.mem_append_left _ h

end Register

namespace Store

/-- A row stands under the number in a table, or some transaction has staged one for it. -/
def Bears (s : Store) (n : TableName) (id : Int) : Prop :=
  (∃ a, (s.rows.get n).get? id = some a) ∨
    ∃ tx a, ((s.changes tx).get n).get? id = some (some a)

/-- Transactions begin, make calls and end, in whatever order, and the numbers that are given out on
the way are noted. -/
inductive Continues (s : Store) (l : Register) : Store → Register → Prop
  | refl : Continues s l s l
  | step {t u : Store} {l' : Register} {c : Command} {x : c.Answer} (h : Continues s l t l')
    (hc : ∀ tx d, c = .call tx d → t.IsOpen tx) (hs : t.Does c x u) :
    Continues s l u (l'.after t u c x)

/-- The store comes about from the empty one, and this is its register. -/
abbrev Registered : Store → Register → Prop := Continues .empty []

/-- The register lists the numbers without a gap, and what is stored or staged stands under its own
number, in the table that the register has for it. -/
structure Kept (s : Store) (l : Register) : Prop where
  last : s.lastId = l.length
  numbers : l.map Entry.id = numbersAfter 0 l.length
  stored : ∀ n id a, (s.rows.get n).get? id = some a → n.number a = id ∧ ⟨id, .stored n⟩ ∈ l
  staged : ∀ tx n id a, ((s.changes tx).get n).get? id = some (some a) →
    n.number a = id ∧ (⟨id, .stored n⟩ ∈ l ∨ ⟨id, .staged tx n⟩ ∈ l)

namespace Kept

variable {s t : Store} {l : Register} {tx : TxId}

/-- The numbers of a register ascend. -/
theorem ascending (h : s.Kept l) : l.Pairwise (·.id < ·.id) := by
  have hids := ascending_numbersAfter 0 l.length
  rw [← h.numbers] at hids
  exact List.pairwise_map.1 hids

/-- The numbers of a register go up to the last that was given out. -/
theorem id_le (h : s.Kept l) {e : Entry} (he : e ∈ l) : e.id ≤ s.lastId := by
  have hid : e.id ∈ numbersAfter 0 l.length := h.numbers ▸ List.mem_map_of_mem he
  have hle := (mem_numbersAfter.1 hid).2
  rw [h.last]
  omega

/-- A number has one entry. -/
theorem fate_eq (h : s.Kept l) {id : Int} {fate fate' : Fate} (he : ⟨id, fate⟩ ∈ l)
    (he' : ⟨id, fate'⟩ ∈ l) : fate = fate' := by
  have hnodup : (l.map Entry.id).Nodup := by
    rw [h.numbers]
    exact (ascending_numbersAfter 0 l.length).imp fun hlt => Int.ne_of_lt hlt
  exact (Entry.mk.inj (List.inj_on_of_nodup_map hnodup he he' rfl)).2

/-- What a transaction sees under a number is stored or staged by itself, as the register has it. -/
theorem seen (h : s.Kept l) {n : TableName} {id : Int} {a : n.Row}
    (ha : ((s.view tx).get n).get? id = some a) :
    n.number a = id ∧ (⟨id, .stored n⟩ ∈ l ∨ ⟨id, .staged tx n⟩ ∈ l) := by
  rw [get?_view] at ha
  cases hc : ((s.changes tx).get n).get? id with
  | none =>
    rw [hc] at ha
    obtain ⟨hid, hmem⟩ := h.stored n id a ha
    exact ⟨hid, Or.inl hmem⟩
  | some a? =>
    rw [hc] at ha
    exact h.staged tx n id a (by rw [hc]; exact congrArg some ha)

/-- What a transaction sees stands under its own numbers. -/
theorem keyed (h : s.Kept l) (tx : TxId) : (s.view tx).Keyed where
  requests _ _ ha := (h.seen (n := .requests) ha).1
  offers _ _ ha := (h.seen (n := .offers) ha).1
  lines _ _ ha := (h.seen (n := .lines) ha).1
  contracts _ _ ha := (h.seen (n := .contracts) ha).1
  sheets _ _ ha := (h.seen (n := .sheets) ha).1
  ceilings _ _ ha := (h.seen (n := .ceilings) ha).1
  jobs _ _ ha := (h.seen (n := .jobs) ha).1

/-- The table of a number is settled by its entry. -/
theorem bears (h : s.Kept l) {n : TableName} {id : Int} (hb : s.Bears n id) :
    ⟨id, .stored n⟩ ∈ l ∨ ∃ tx, ⟨id, .staged tx n⟩ ∈ l := by
  rcases hb with ⟨a, ha⟩ | ⟨tx, a, ha⟩
  · exact Or.inl (h.stored n id a ha).2
  · exact (h.staged tx n id a ha).2.imp_right fun hmem => ⟨tx, hmem⟩

/-- The empty store has an empty register. -/
theorem empty : Store.empty.Kept [] where
  last := rfl
  numbers := rfl
  stored n id a ha := by cases n <;> cases ha
  staged tx n id a ha := by
    have hnone : Store.empty.changes tx = .none := rfl
    rw [hnone] at ha
    cases n <;> cases ha

/-- A transaction ends, and its rows come to what they come to in the register. -/
theorem settle (h : s.Kept l) (tx : TxId) {end_ : TableName → Fate} {rows : Rows}
    (hrows : ∀ n id a, (rows.get n).get? id = some a →
      n.number a = id ∧ ⟨id, .stored n⟩ ∈ l.settle tx end_) :
    (drop { s with rows } tx).Kept (l.settle tx end_) where
  last := h.last.trans (by rw [Register.settle, List.length_map])
  numbers := by rw [Register.map_id_settle, h.numbers, Register.settle, List.length_map]
  stored := hrows
  staged i n id a ha := by
    rw [changes_drop] at ha
    by_cases hi : i = tx
    · rw [if_pos hi] at ha
      cases n <;> cases ha
    · rw [if_neg hi] at ha
      obtain ⟨hid, hmem⟩ := h.staged i n id a ha
      exact ⟨hid, hmem.imp Register.mem_settle (Register.mem_settle_of_ne hi)⟩

/-- A commit settles what was staged as stored. -/
theorem commit (h : s.Kept l) (tx : TxId) : (s.commit tx).Kept (l.settle tx .stored) := by
  refine h.settle tx fun n id a ha => ?_
  obtain ⟨hid, hmem⟩ := h.seen ha
  refine ⟨hid, ?_⟩
  rcases hmem with hmem | hmem
  · exact Register.mem_settle hmem
  · exact Register.mem_settle_self hmem

/-- The end of a transaction without a commit settles what was staged as lost. -/
theorem drop (h : s.Kept l) (tx : TxId) : (s.drop tx).Kept (l.settle tx fun _ => .lost) :=
  h.settle tx fun n id a ha =>
    ⟨(h.stored n id a ha).1, Register.mem_settle (h.stored n id a ha).2⟩

/-- A call has created rows for its transaction, or has lost numbers. -/
theorem call (h : s.Kept l) {new : Register} {created : List (TableName × Int)}
    (hframe : Frame tx s t) (hlast : t.lastId = s.lastId + new.length)
    (hnumbers : new.map Entry.id = numbersAfter s.lastId new.length) (hk : (t.view tx).Keyed)
    (hgrows : (s.view tx).Grows (t.view tx) created)
    (hnew : ∀ x ∈ created, ⟨x.2, .staged tx x.1⟩ ∈ new) : t.Kept (l ++ new) where
  last := by rw [hlast, h.last, List.length_append, Int.natCast_add]
  numbers := by
    rw [List.map_append, h.numbers, hnumbers, List.length_append, numbersAfter_add, h.last,
      Int.zero_add]
  stored n id a ha := by
    rw [hframe.rows] at ha
    obtain ⟨hid, hmem⟩ := h.stored n id a ha
    exact ⟨hid, List.mem_append_left _ hmem⟩
  staged i n id a ha := by
    by_cases hi : i = tx
    · subst hi
      -- what is staged is seen, so it stands under its number and was seen before or is new
      have hseen : ((t.view i).get n).get? id = some a := by
        rw [get?_view, ha]
        rfl
      refine ⟨hk.get n id a hseen, ?_⟩
      rcases hgrows n id (by rw [hseen]; rfl) with hbefore | hcreated
      · obtain ⟨a', ha'⟩ := Option.isSome_iff_exists.1 hbefore
        exact (h.seen ha').2.imp (List.mem_append_left _) (List.mem_append_left _)
      · exact Or.inr (List.mem_append_right _ (hnew _ hcreated))
    · have hchanges : t.changes i = s.changes i := by rw [changes, changes, hframe.others i hi]
      rw [hchanges] at ha
      obtain ⟨hid, hmem⟩ := h.staged i n id a ha
      exact ⟨hid, hmem.imp (List.mem_append_left _) (List.mem_append_left _)⟩

end Kept

end Store
end LoanDesk
