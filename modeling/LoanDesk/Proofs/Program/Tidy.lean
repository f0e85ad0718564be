/-
# Tidy programs

A program is *tidy* if it touches only transactions that it began and has ended all of them when it
is done, and *quiet* if it commits nothing and delivers nothing. Both are read off the program: every
bracket is tidy (`tidy_bracket`), and one that is dropped in any case is quiet (`quiet_bracket`).
-/

import LoanDesk.Proofs.Program.Ensures
import LoanDesk.Proofs.Program.Steps

namespace LoanDesk

/-- Events come in one after another. -/
def Mailbox.deliverAll (m : Mailbox) (es : List Event) : Mailbox :=
  es.foldl (fun m e => (m.deliver e).2) m

/-- Events that come in in two parts come in one after another. -/
theorem Mailbox.deliverAll_append (m : Mailbox) (es es' : List Event) :
    m.deliverAll (es ++ es') = (m.deliverAll es).deliverAll es' :=
  List.foldl_append

namespace Program

variable {α β ε : Type}

/-- The program touches its own transactions only. It has `mine` at first and `fin` at the end. -/
def Tidy (fin : List TxId) : List TxId → Program α → Prop
  | mine, .done _ => mine = fin
  | mine, .step .begin next =>
    (∀ e, Tidy fin mine (next (.error e))) ∧ ∀ tx ∉ mine, Tidy fin (tx :: mine) (next (.ok tx))
  | mine, .step (.call tx _) next => tx ∈ mine ∧ ∀ x, Tidy fin mine (next x)
  | mine, .step (.commit tx) next => tx ∈ mine ∧ ∀ x, Tidy fin (mine.filter (· != tx)) (next x)
  | mine, .step (.drop tx) next => tx ∈ mine ∧ ∀ x, Tidy fin (mine.filter (· != tx)) (next x)
  | mine, .step (.deliver _) next => ∀ x, Tidy fin mine (next x)

/-- The program commits nothing and delivers nothing. -/
def Quiet : Program α → Prop
  | .done _ => True
  | .step .begin next => ∀ x, Quiet (next x)
  | .step (.call _ _) next => ∀ x, Quiet (next x)
  | .step (.commit _) _ => False
  | .step (.drop _) next => ∀ x, Quiet (next x)
  | .step (.deliver _) _ => False

/-- Two tidy programs are tidy one after the other. -/
theorem Tidy.bind {mid fin : List TxId} {f : α → Program β} (hf : ∀ a, Tidy fin mid (f a)) :
    ∀ {mine : List TxId} {p : Program α}, Tidy mid mine p → Tidy fin mine (p.bind f)
  | _, .done a, h => by
    obtain rfl := h
    exact hf a
  | _, .step .begin _, ⟨he, hok⟩ => ⟨fun e => (he e).bind hf, fun tx htx => (hok tx htx).bind hf⟩
  | _, .step (.call _ _) _, ⟨hm, h⟩ => ⟨hm, fun x => (h x).bind hf⟩
  | _, .step (.commit _) _, ⟨hm, h⟩ => ⟨hm, fun x => (h x).bind hf⟩
  | _, .step (.drop _) _, ⟨hm, h⟩ => ⟨hm, fun x => (h x).bind hf⟩
  | _, .step (.deliver _) _, h => fun x => (h x).bind hf

/-- Two quiet programs are quiet one after the other. -/
theorem Quiet.bind {f : α → Program β} (hf : ∀ a, Quiet (f a)) :
    ∀ {p : Program α}, Quiet p → Quiet (p.bind f)
  | .done a, _ => hf a
  | .step .begin _, h => fun x => (h x).bind hf
  | .step (.call _ _) _, h => fun x => (h x).bind hf
  | .step (.commit _) _, h => h.elim
  | .step (.drop _) _, h => fun x => (h x).bind hf
  | .step (.deliver _) _, h => h.elim

/-- Two tidy programs that may fail are tidy one after the other. -/
theorem Tidy.bindExcept {mine : List TxId} {m : ExceptT ε Program α}
    {f : α → ExceptT ε Program β} (hm : Tidy mine mine m.run)
    (hf : ∀ a, Tidy mine mine (f a).run) : Tidy mine mine (m >>= f).run := by
  refine Tidy.bind (f := ExceptT.bindCont f) (fun r => ?_) hm
  cases r with
  | error e => exact rfl
  | ok a => exact hf a

/-- Two quiet programs that may fail are quiet one after the other. -/
theorem Quiet.bindExcept {m : ExceptT ε Program α} {f : α → ExceptT ε Program β}
    (hm : Quiet m.run) (hf : ∀ a, Quiet (f a).run) : Quiet (m >>= f).run := by
  refine Quiet.bind (f := ExceptT.bindCont f) (fun r => ?_) hm
  cases r with
  | error e => exact trivial
  | ok a => exact hf a

/-- A body within a transaction of the program is tidy. -/
theorem WithinRun.tidy {tx : TxId} {mine : List TxId} (hm : tx ∈ mine) :
    ∀ {p : Program (Except ε α)}, WithinRun tx p → Tidy mine mine p
  | .done _, _ => rfl
  | .step (.call _ _) next, ⟨hi, hok, herr⟩ => by
    subst hi
    refine ⟨hm, fun x => ?_⟩
    cases x with
    | ok a => exact (hok a).tidy hm
    | error e =>
      obtain ⟨e', he⟩ := herr e
      rw [he]
      exact rfl

/-- A body within a transaction is quiet: it makes calls only. -/
theorem WithinRun.quiet {tx : TxId} : ∀ {p : Program (Except ε α)}, WithinRun tx p → Quiet p
  | .done _, _ => trivial
  | .step (.call _ _) next, ⟨_, hok, herr⟩ => fun x => by
    cases x with
    | ok a => exact (hok a).quiet
    | error e =>
      obtain ⟨e', he⟩ := herr e
      rw [he]
      exact trivial

/-! ### Brackets -/

section Bracket

variable {blame : StoreError → ε} {keep : α → Bool} {body : TxId → ExceptT ε Program α}

/-- Without the transaction that was begun the others are as before. -/
theorem filter_opened {tx : TxId} {mine : List TxId} (h : tx ∉ mine) :
    (tx :: mine).filter (· != tx) = mine := by
  rw [List.filter_cons, if_neg (by simp), List.filter_eq_self]
  intro i hi
  have hne : i ≠ tx := by
    rintro rfl
    exact h hi
  simpa using hne

/-- However a bracket ends, it ends its transaction. -/
theorem tidy_close {mine : List TxId} {tx : TxId} (h : tx ∉ mine) (r : Except ε α) :
    Tidy mine (tx :: mine) (close blame keep tx r) := by
  cases r with
  | error e => exact ⟨List.mem_cons_self, fun _ => filter_opened h⟩
  | ok a =>
    change Tidy _ _ (if keep a then _ else _)
    split
    · refine ⟨List.mem_cons_self, fun x => ?_⟩
      cases x <;> exact filter_opened h
    · exact ⟨List.mem_cons_self, fun _ => filter_opened h⟩

/-- **A bracket ends the transaction that it begins**, as long as its body does so with its own. -/
theorem tidy_bracket {mine : List TxId}
    (h : ∀ tx ∉ mine, Tidy (tx :: mine) (tx :: mine) (body tx).run) :
    Tidy mine mine (bracket blame keep body).run := by
  rw [bracket_run]
  exact ⟨fun _ => rfl, fun tx htx => (h tx htx).bind fun r => tidy_close htx r⟩

/-- A bracket that is dropped in any case is quiet if its body is. -/
theorem quiet_bracket (h : ∀ tx, Quiet (body tx).run) :
    Quiet (bracket blame (fun _ => false) body).run := by
  rw [bracket_run]
  intro x
  cases x with
  | error e => exact trivial
  | ok tx =>
    refine (h tx).bind fun r => ?_
    cases r <;> exact fun _ => trivial

end Bracket

end Program
end LoanDesk
