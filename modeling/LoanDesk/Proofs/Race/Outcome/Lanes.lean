/-
# Lanes side by side

Several programs run side by side in one store (`Race`), each in a lane of its own. Its own steps are
such that they leave the other lanes alone, so that each stays fit at every step of any of them
(`Race.On.runs`).
-/

import LoanDesk.Proofs.Race.Bid
import Mathlib.Logic.Function.Basic
import Mathlib.Logic.Relation

namespace LoanDesk

/-- Programs side by side in one store. -/
structure Race (n : Nat) (α : Type) where
  store : Store
  programs : Fin n → Program α

namespace Race

variable {n : Nat} {α : Type}

/-- One of the programs makes one step. -/
inductive Step : Race n α → Race n α → Prop
  | mk {s t : Store} {programs : Fin n → Program α} {i : Fin n} {c : Command}
    {next : c.Answer → Program α} {x : c.Answer} (hi : programs i = .step c next)
    (hx : s.Does c x t) : Step ⟨s, programs⟩ ⟨t, Function.update programs i (next x)⟩

/-- The programs run on from one state to another. -/
abbrev Runs : Race n α → Race n α → Prop := Relation.ReflTransGen Step

end Race

/-! ### One turn after another -/

namespace Race

variable {n : Nat} {α : Type}

/-- One of the programs makes its next step, unless it is done. -/
def turn (g : Race n α) (i : Fin n) : Race n α :=
  match g.programs i with
  | .done _ => g
  | .step c next =>
    ⟨(g.store.answer c).2, Function.update g.programs i (next (g.store.answer c).1)⟩

/-- A turn is a step, or none. -/
theorem runs_turn (g : Race n α) (i : Fin n) : g.Runs (g.turn i) := by
  unfold turn
  split
  · exact .refl
  · rename_i c next hi
    exact .single (.mk hi (g.store.does_answer c))

/-- Turns in any order are a run. -/
theorem runs_turns : ∀ (order : List (Fin n)) (g : Race n α), g.Runs (order.foldl turn g)
  | [], _ => .refl
  | i :: order, g => (runs_turn g i).trans (runs_turns order (g.turn i))

end Race

/-- What a program owns is foreign to the others. -/
theorem Command.Owned.foreign {mine others : List TxId} (h : ∀ tx ∈ mine, tx ∉ others) :
    ∀ {c : Command}, c.Owned mine → c.Foreign others
  | .call tx _, hc | .commit tx, hc | .drop tx, hc => h tx hc
  | .begin, _ | .deliver _, _ => trivial

namespace Course

variable {ι : Type} {C : Course ι} {i j : ι} {s t : Store} {mine mine' theirs : List TxId}
  {winner : Option ι} {c : Command}

/-- A commit makes nobody else the winner. -/
theorem wins_ne (hij : j ≠ i) (h : winner ≠ some j) (c : Command) : c.wins i winner ≠ some j := by
  cases c with
  | commit tx => exact fun he => hij (Option.some.inj he).symm
  | begin => exact h
  | call tx c => exact h
  | drop tx => exact h
  | deliver e => exact h

/-- **A fair step in one lane is a step of the others in every other lane.** -/
theorem Fair.others (h : C.Fair ⟨mine, s, winner⟩ c ⟨mine', t, c.wins i winner⟩) (hij : j ≠ i)
    (hd : ∀ tx ∈ mine, tx ∉ theirs) (hf : C.Fit ⟨theirs, s, winner⟩) {x : c.Answer}
    (hx : s.Does c x t) : C.Others j ⟨theirs, s, winner⟩ ⟨theirs, t, c.wins i winner⟩ where
  winner := h.winner
  decided := h.decided
  mine := rfl
  apart := Store.May.apart hf.orderly hf.isOpen (h.owned.foreign hd) (Or.inl hx)
  same tx hm hh := by
    have hsame := h.same tx (fun hm' => hd tx hm' hm) hh
    exact ⟨hsame.rows, hsame.lastId, hsame.winner⟩
  loses hne := wins_ne hij hne c

/-- What holds of the store in one lane holds of it in all of them. -/
theorem Fit.others {w : Option ι} (h : C.Fit ⟨mine, t, w⟩) (hf : C.Fit ⟨theirs, s, winner⟩)
    (ho : C.Others j ⟨theirs, s, winner⟩ ⟨theirs, t, w⟩) : C.Fit ⟨theirs, t, w⟩ where
  orderly := h.orderly
  isOpen tx hm := ho.apart.isOpen hm (hf.isOpen tx hm)
  rows := h.rows
  locked := h.locked
  last := h.last

end Course

namespace Store.Does

variable {s t : Store} {mine : List TxId}

/-- A transaction that a program gets is one that was not open before. -/
theorem mem_after (h : s.Orderly) {tx : TxId} : ∀ {c : Command} {x : c.Answer}, s.Does c x t →
    tx ∈ c.after mine x → tx ∈ mine ∨ ¬s.IsOpen tx
  | .begin, _, ⟨hx, _⟩, hm => by
    subst hx
    rcases List.mem_cons.1 hm with rfl | hm
    · exact Or.inr fun ho => absurd (h.numbered _ ho) (Int.not_le.2 (Int.lt_succ _))
    · exact Or.inl hm
  | .call _ _, _, _, hm | .deliver _, _, _, hm => Or.inl hm
  | .commit _, _, _, hm | .drop _, _, _, hm => Or.inl (List.mem_filter.1 hm).1

/-- A transaction that is open after a step of a program is one of the program's, or was open before
and is none of them. -/
theorem isOpen_cases {tx : TxId} (ho : t.IsOpen tx) : ∀ {c : Command} {x : c.Answer}, c.Owned mine →
    s.Does c x t → tx ∈ c.after mine x ∨ s.IsOpen tx ∧ tx ∉ mine
  | .begin, _, _, ⟨hx, ht⟩ => by
    subst hx ht
    rcases (isOpen_begin s tx).1 ho with rfl | ho
    · exact Or.inl List.mem_cons_self
    · by_cases hm : tx ∈ mine
      · exact Or.inl (List.mem_cons_of_mem _ hm)
      · exact Or.inr ⟨ho, hm⟩
  | .call i c, x, hc, hd => by
    by_cases hm : tx ∈ mine
    · exact Or.inl hm
    · have hf := perform_frame s i c
      rw [← show (x, t) = _ from hd] at hf
      have hne : tx ≠ i := fun he => hm (he ▸ hc)
      rw [IsOpen, hf.others tx hne] at ho
      exact Or.inr ⟨ho, hm⟩
  | .commit i, _, _, ⟨_, ht⟩ => by
    subst ht
    obtain ⟨hne, ho⟩ := (isOpen_commit s i tx).1 ho
    by_cases hm : tx ∈ mine
    · exact Or.inl (List.mem_filter.2 ⟨hm, by simpa using hne⟩)
    · exact Or.inr ⟨ho, hm⟩
  | .drop i, _, _, ht => by
    subst ht
    obtain ⟨hne, ho⟩ := (isOpen_drop s i tx).1 ho
    by_cases hm : tx ∈ mine
    · exact Or.inl (List.mem_filter.2 ⟨hm, by simpa using hne⟩)
    · exact Or.inr ⟨ho, hm⟩
  | .deliver _, _, _, ht => by
    subst ht
    by_cases hm : tx ∈ mine
    · exact Or.inl hm
    · exact Or.inr ⟨ho, hm⟩

end Store.Does

namespace Race

variable {n : Nat} {α : Type} {C : Course (Fin n)} {Q : Fin n → α → Lane (Fin n) → Prop}

/-- The lanes of a race: every open transaction belongs to one of them, and to one only, and every
program keeps to its lane. -/
structure On (C : Course (Fin n)) (Q : Fin n → α → Lane (Fin n) → Prop) (g : Race n α)
    (mine : Fin n → List TxId) (winner : Option (Fin n)) : Prop where
  fit : ∀ i, C.Fit ⟨mine i, g.store, winner⟩
  disjoint : ∀ i j tx, tx ∈ mine i → tx ∈ mine j → i = j
  covered : ∀ tx, g.store.IsOpen tx → ∃ i, tx ∈ mine i
  ensures : ∀ i, Program.Ensures (C.contest i) (Q i) (g.programs i) ⟨mine i, g.store, winner⟩

section After

variable {g : Race n α} {mine : Fin n → List TxId} {winner : Option (Fin n)} {t : Store} {i : Fin n}
  {c : Command} {x : c.Answer}

/-- A transaction of a lane after a step was its own before, or was not open. -/
theorem On.mem_after (h : On C Q g mine winner) (hx : g.store.Does c x t) {a : Fin n} {tx : TxId}
    (hm : tx ∈ Function.update mine i (c.after (mine i) x) a) :
    tx ∈ mine a ∨ a = i ∧ ¬g.store.IsOpen tx := by
  by_cases ha : a = i
  · subst ha
    rw [Function.update_self] at hm
    exact (hx.mem_after (h.fit a).orderly hm).imp_right fun ho => ⟨rfl, ho⟩
  · rw [Function.update_of_ne ha] at hm
    exact Or.inl hm

/-- The lanes share no transaction after a step either, for one that is new was not open before. -/
theorem On.disjoint_after (h : On C Q g mine winner) (hx : g.store.Does c x t) (a b : Fin n)
    (tx : TxId) (ha : tx ∈ Function.update mine i (c.after (mine i) x) a)
    (hb : tx ∈ Function.update mine i (c.after (mine i) x) b) : a = b := by
  rcases h.mem_after hx ha with hma | ⟨rfl, hna⟩
  · rcases h.mem_after hx hb with hmb | ⟨rfl, hnb⟩
    · exact h.disjoint a b tx hma hmb
    · exact absurd ((h.fit a).isOpen tx hma) hnb
  · rcases h.mem_after hx hb with hmb | ⟨rfl, -⟩
    · exact absurd ((h.fit b).isOpen tx hmb) hna
    · rfl

/-- Every transaction that is open after a step belongs to a lane. -/
theorem On.covered_after (h : On C Q g mine winner) (hc : c.Owned (mine i))
    (hx : g.store.Does c x t) {tx : TxId} (ho : t.IsOpen tx) :
    ∃ j, tx ∈ Function.update mine i (c.after (mine i) x) j := by
  rcases hx.isOpen_cases ho hc with hm | ⟨ho, hm⟩
  · exact ⟨i, by rw [Function.update_self]; exact hm⟩
  · obtain ⟨k, hk⟩ := h.covered tx ho
    have hne : k ≠ i := fun he => hm (he ▸ hk)
    exact ⟨k, by rw [Function.update_of_ne hne]; exact hk⟩

end After

/-- **A step of a race keeps all programs to their lanes.** -/
theorem On.step {g g' : Race n α} {mine : Fin n → List TxId} {winner : Option (Fin n)}
    (h : On C Q g mine winner) (hs : g.Step g') : ∃ mine' winner', On C Q g' mine' winner' := by
  cases hs with
  | @mk s t programs i c next x hi hx =>
    have hlane : Program.Ensures (C.contest i) (Q i) (programs i) ⟨mine i, s, winner⟩ := h.ensures i
    rw [hi] at hlane
    obtain ⟨hfair, hnext⟩ := hlane _ (.refl i _) x ⟨c.after (mine i) x, t, c.wins i winner⟩
      ⟨h.fit i, hx, rfl, rfl⟩
    have hothers : ∀ j, j ≠ i → C.Others j ⟨mine j, s, winner⟩ ⟨mine j, t, c.wins i winner⟩ :=
      fun j hj => hfair.others hj (fun tx hm hm' => hj (h.disjoint j i tx hm' hm)) (h.fit j) hx
    refine ⟨Function.update mine i (c.after (mine i) x), c.wins i winner, fun j => ?_,
      h.disjoint_after hx, fun tx ho => h.covered_after hfair.owned hx ho, fun j => ?_⟩
    · by_cases hj : j = i
      · subst hj
        rw [Function.update_self]
        exact hfair.fit
      · rw [Function.update_of_ne hj]
        exact hfair.fit.others (h.fit j) (hothers j hj)
    · by_cases hj : j = i
      · subst hj
        dsimp only
        rw [Function.update_self, Function.update_self]
        exact hnext
      · dsimp only
        rw [Function.update_of_ne hj, Function.update_of_ne hj]
        exact (h.ensures j).others (hothers j hj)

/-- Lanes go on side by side, whichever of them makes the next step. -/
theorem On.runs {g g' : Race n α} {mine : Fin n → List TxId} {winner : Option (Fin n)}
    (h : On C Q g mine winner) (hr : g.Runs g') : ∃ mine' winner', On C Q g' mine' winner' := by
  induction hr with
  | refl => exact ⟨mine, winner, h⟩
  | tail _ hs ih =>
    obtain ⟨mine', winner', h'⟩ := ih
    exact h'.step hs

end Race
end LoanDesk
