/-
# Actions that keep order

The actions of the desk are put together in one way: they check and read, they make a change in a
bracket, and when it is made they only tell of it. `Ordered D` says that an action is put together
like that and that its brackets make changes by the deeds `D`.

From this it follows at once that the action is tidy (`Ordered.tidy`), that it is safe for its deeds
beside others (`Ordered.safe`), and that it is clean: where it fails, nothing that is stored has
changed and nothing has been told (`Ordered.clean`).
-/

import LoanDesk.Proofs.Program.Safe
import LoanDesk.Proofs.Program.Runs

namespace LoanDesk
namespace Program

variable {α β ε : Type}

/-! ### Where a program fails -/

/-- Where the program fails, what is stored is as before and no event was delivered. -/
def Clean (m : ExceptT ε Program α) : Prop :=
  ∀ {s es e t}, Runs m.run s es (.error e) t → t.rows = s.rows ∧ es = []

/-- The program does not fail. -/
def Unfailing (m : ExceptT ε Program α) : Prop := ∀ {s es e t}, ¬Runs m.run s es (.error e) t

/-- A quiet program stores nothing and delivers nothing. -/
theorem Quiet.runs {p : Program α} {s t : Store} {es : List Event} {a : α} (h : Runs p s es a t) :
    Quiet p → t.rows = s.rows ∧ es = [] := by
  induction h with
  | done a s => exact fun _ => ⟨rfl, rfl⟩
  | @step c next s t u x es a hmay hr ih =>
    intro hq
    have hrows : t.rows = s.rows := by
      rcases hmay.rows with h | ⟨tx, rfl, -⟩
      · exact h
      · exact hq.elim
    have hnext : Quiet (next x) ∧ events c = [] := by
      cases c with
      | commit tx => exact hq.elim
      | deliver e => exact hq.elim
      | begin => exact ⟨hq x, rfl⟩
      | call tx c => exact ⟨hq x, rfl⟩
      | drop tx => exact ⟨hq x, rfl⟩
    obtain ⟨hu, rfl⟩ := ih hnext.1
    exact ⟨hu.trans hrows, by rw [hnext.2]; rfl⟩

/-- A quiet program has done nothing where it fails. -/
theorem Quiet.clean {m : ExceptT ε Program α} (h : Quiet m.run) : Clean m := fun hr => h.runs hr

/-- A program fails in its first part, or its second part gives the result. -/
theorem runs_bindExcept {m : ExceptT ε Program α} {f : α → ExceptT ε Program β} {s u : Store}
    {es : List Event} {r : Except ε β} (h : Runs (m >>= f).run s es r u) :
    (∃ e, r = .error e ∧ Runs m.run s es (.error e) u) ∨
      ∃ es₁ es₂ a t, Runs m.run s es₁ (.ok a) t ∧ Runs (f a).run t es₂ r u ∧ es = es₁ ++ es₂ := by
  obtain ⟨es₁, es₂, x, t, h₁, h₂, rfl⟩ := runs_bind (f := ExceptT.bindCont f) h
  cases x with
  | error e' =>
    cases h₂
    rw [List.append_nil]
    exact Or.inl ⟨e', rfl, h₁⟩
  | ok a => exact Or.inr ⟨es₁, es₂, a, t, h₁, h₂, rfl⟩

/-- A clean program that is followed by what does not fail is clean. -/
theorem Clean.bind {m : ExceptT ε Program α} {f : α → ExceptT ε Program β} (hm : Clean m)
    (hf : ∀ a, Unfailing (f a)) : Clean (m >>= f) := by
  intro s es e u h
  rcases runs_bindExcept h with ⟨_, he, h⟩ | ⟨es₁, es₂, a, t, -, h₂, -⟩
  · cases he
    exact hm h
  · exact absurd h₂ (hf a)

/-- A clean program that follows a quiet one is clean. -/
theorem Quiet.clean_bind {m : ExceptT ε Program α} {f : α → ExceptT ε Program β} (hm : Quiet m.run)
    (hf : ∀ a, Clean (f a)) : Clean (m >>= f) := by
  intro s es e u h
  rcases runs_bindExcept h with ⟨_, he, h⟩ | ⟨es₁, es₂, a, t, h₁, h₂, rfl⟩
  · cases he
    exact hm.clean h
  · obtain ⟨ht, rfl⟩ := hm.runs h₁
    obtain ⟨hu, rfl⟩ := hf a h₂
    exact ⟨hu.trans ht, rfl⟩

/-- A value does not fail. -/
theorem unfailing_pure (a : α) : Unfailing (pure a : ExceptT ε Program α) := by
  intro s es e t h
  cases h

/-- A program without errors does not fail. -/
theorem unfailing_lift (p : Program α) : Unfailing (ExceptT.lift p : ExceptT ε Program α) := by
  intro s es e t h
  obtain ⟨_, _, _, _, _, h₂, _⟩ := runs_bind (f := fun a => .done (Except.ok a)) h
  cases h₂

/-- Two programs that do not fail do not fail one after the other. -/
theorem Unfailing.bind {m : ExceptT ε Program α} {f : α → ExceptT ε Program β} (hm : Unfailing m)
    (hf : ∀ a, Unfailing (f a)) : Unfailing (m >>= f) := by
  intro s es e u h
  rcases runs_bindExcept h with ⟨_, he, h⟩ | ⟨es₁, es₂, a, t, -, h₂, -⟩
  · cases he
    exact hm h
  · exact hf a h₂

/-- **A bracket that fails has changed nothing**, because it commits as its last step. -/
theorem clean_bracket {blame : StoreError → ε} {keep : α → Bool} {body : TxId → ExceptT ε Program α}
    (h : ∀ tx, Quiet (body tx).run) : Clean (bracket blame keep body) := by
  intro s es e u hr
  rw [bracket_run] at hr
  cases hr with
  | @step _ _ _ t _ x es a hmay hr =>
    have ht : t.rows = s.rows := by
      rcases hmay.rows with h | ⟨i, hi, -⟩
      · exact h
      · cases hi
    cases x with
    | error e' =>
      cases hr
      exact ⟨ht, rfl⟩
    | ok tx =>
      obtain ⟨es₁, es₂, r, v, h₁, h₂, rfl⟩ := runs_bind hr
      obtain ⟨hv, rfl⟩ := (h tx).runs h₁
      cases r with
      | error e' =>
        have hq : Quiet (close blame keep tx (.error e' : Except ε α)) := fun _ => trivial
        obtain ⟨hu, rfl⟩ := hq.runs h₂
        exact ⟨hu.trans (hv.trans ht), rfl⟩
      | ok a =>
        change Runs (if keep a then _ else _) _ _ _ _ at h₂
        split at h₂
        · cases h₂ with
          | @step _ _ _ w _ y es a hmay' hr' =>
            cases y with
            | ok _ => cases hr'
            | error e' =>
              cases hr'
              rcases hmay' with ⟨hy, -⟩ | ⟨-, rfl⟩
              · cases hy
              · exact ⟨hv.trans ht, rfl⟩
        · cases h₂ with
          | step hmay' hr' => cases hr'

/-! ### Actions that keep order -/

/-- The action reads and checks, changes what is stored by deeds, and cannot fail any more when it
has done so. -/
inductive Ordered (D : Book → Book → Prop) : {α : Type} → ExceptT ε Program α → Prop
  | still {α : Type} {m : ExceptT ε Program α} (ht : Tidy [] [] m.run) (hq : Quiet m.run) :
    Ordered D m
  | bracket {α : Type} {blame : StoreError → ε} {keep : α → Bool}
    {body : TxId → ExceptT ε Program α} (hw : ∀ tx, Within tx (body tx))
    (hd : ∀ tx b, b.rows.Keyed →
      Brings Book.shared (fun a b' => keep a → D b b') (fun _ _ => True) (body tx) b) :
    Ordered D (Program.bracket blame keep body)
  | deliver (e : Event) : Ordered D (ExceptT.lift (Program.deliver e))
  | bind {α β : Type} {m : ExceptT ε Program α} {f : α → ExceptT ε Program β} (hm : Ordered D m)
    (hf : ∀ a, Ordered D (f a)) (h : Quiet m.run ∨ ∀ a, Unfailing (f a)) : Ordered D (m >>= f)

namespace Ordered

variable {D : Book → Book → Prop} {m : ExceptT ε Program α}

/-- A value keeps order. -/
theorem pure (a : α) : Ordered D (Pure.pure a : ExceptT ε Program α) := .still rfl trivial

/-- An error keeps order. -/
theorem throw (e : ε) : Ordered D (MonadExcept.throw e : ExceptT ε Program α) := .still rfl trivial

/-- An ordered action is tidy. -/
theorem tidy (h : Ordered D m) : Tidy [] [] m.run := by
  induction h with
  | still ht hq => exact ht
  | bracket hw hd => exact tidy_bracket fun tx _ => (hw tx).tidy List.mem_cons_self
  | deliver e => exact fun x => by cases x <;> rfl
  | bind hm hf h ihm ihf => exact ihm.bindExcept ihf

/-- An ordered action is clean. -/
theorem clean (h : Ordered D m) : Clean m := by
  induction h with
  | still ht hq => exact hq.clean
  | bracket hw hd => exact clean_bracket fun tx => (hw tx).quiet
  | deliver e => exact fun hr => absurd hr (unfailing_lift _)
  | bind hm hf h ihm ihf =>
    rcases h with hq | hu
    · exact hq.clean_bind ihf
    · exact ihm.bind hu

/-- **An ordered action is safe for its deeds beside others.** -/
theorem safe {I : Book → Prop} (hI : ∀ b, I b → b.rows.Keyed) (h : Ordered D m) :
    Safe I D m.run := by
  induction h with
  | still ht hq => exact safe_of_quiet ht hq
  | bracket hw hd => exact safe_bracket hI hw fun tx b hb => hd tx b (hI b hb)
  | deliver e => exact safe_lift (safe_deliver e)
  | bind hm hf h ihm ihf => exact ihm.bindExcept ihf

end Ordered
end Program
end LoanDesk
