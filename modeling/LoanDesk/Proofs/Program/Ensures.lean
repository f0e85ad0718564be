/-
# What a program ensures beside others

A `Setting` says what others may do between two steps of a program, what a command may do, and which
of its steps a program is answerable for. `Ensures` follows a program through all its runs in a
setting: every own step is one that the setting allows, and what the program gives satisfies a
condition that the others cannot break any more.

A body *within* a transaction makes calls in it only, and ends where one of them fails
(`Program.Within`). What such a body ensures in one setting carries over to any setting whose steps
it images (`Image.ensures`): bodies are followed on books, and run on stores.
-/

import LoanDesk.Program

namespace LoanDesk

/-- Where programs run: what others do between the steps of a program, what a command does, and what
a program has to see to in every step of its own. -/
structure Setting (σ : Type) where
  others : σ → σ → Prop
  own : σ → (c : Command) → c.Answer → σ → Prop
  fair : σ → Command → σ → Prop
  refl : ∀ s, others s s
  trans : ∀ {s t u}, others s t → others t u → others s u

namespace Program

variable {σ α β ε : Type} {S : Setting σ}

/-- Every own step of the program is fair, and its result satisfies the condition, whatever the
others do. -/
def Ensures (S : Setting σ) (Q : α → σ → Prop) : Program α → σ → Prop
  | .done a, s => ∀ t, S.others s t → Q a t
  | .step c next, s => ∀ t, S.others s t → ∀ x u, S.own t c x u →
      S.fair t c u ∧ Ensures S Q (next x) u

/-- What a program ensures it still ensures after steps of others. -/
theorem Ensures.others {Q : α → σ → Prop} {p : Program α} {s t : σ} (h : Ensures S Q p s)
    (hst : S.others s t) : Ensures S Q p t := by
  cases p with
  | done a => exact fun u hu => h u (S.trans hst hu)
  | step c next => exact fun u hu => h u (S.trans hst hu)

/-- What follows a program may rely on what it ensures, whatever the others do meanwhile. -/
theorem Ensures.bind {P : α → σ → Prop} {Q : β → σ → Prop} {f : α → Program β}
    (hf : ∀ a t, (∀ u, S.others t u → P a u) → Ensures S Q (f a) t) :
    ∀ {p : Program α} {s : σ}, Ensures S P p s → Ensures S Q (p.bind f) s
  | .done a, s, h => hf a s h
  | .step _ _, s, h => by
    intro t ht x u hu
    obtain ⟨hfair, hnext⟩ := h t ht x u hu
    exact ⟨hfair, hnext.bind hf⟩

/-- A program ensures whatever follows from what it ensures. -/
theorem Ensures.mono {P Q : α → σ → Prop} (hPQ : ∀ a s, P a s → Q a s) :
    ∀ {p : Program α} {s : σ}, Ensures S P p s → Ensures S Q p s
  | .done a, _, h => fun t ht => hPQ a t (h t ht)
  | .step _ _, _, h => fun t ht x u hu => ⟨(h t ht x u hu).1, (h t ht x u hu).2.mono hPQ⟩

/-! ### Programs that may fail -/

/-- One condition for what a program gives, another for its errors. -/
def outcome (Q : α → σ → Prop) (E : ε → σ → Prop) : Except ε α → σ → Prop
  | .ok a, s => Q a s
  | .error e, s => E e s

/-- What a program gives satisfies one condition and its errors another. -/
def Brings (S : Setting σ) (Q : α → σ → Prop) (E : ε → σ → Prop) (m : ExceptT ε Program α)
    (s : σ) : Prop :=
  Ensures S (outcome Q E) m.run s

section Brings

variable {Q : α → σ → Prop} {E : ε → σ → Prop} {s : σ}

/-- A value brings what it satisfies, whatever the others do. -/
theorem Brings.pure {a : α} (h : ∀ t, S.others s t → Q a t) :
    Brings S Q E (Pure.pure a : ExceptT ε Program α) s := h

/-- An error brings what it satisfies, whatever the others do. -/
theorem Brings.throw {e : ε} (h : ∀ t, S.others s t → E e t) :
    Brings S Q E (MonadExcept.throw e : ExceptT ε Program α) s := h

/-- What follows may rely on what the first part brings. -/
theorem Brings.bind {P : α → σ → Prop} {Q : β → σ → Prop} {m : ExceptT ε Program α}
    {f : α → ExceptT ε Program β} (hm : Brings S P E m s)
    (hf : ∀ a t, P a t → Brings S Q E (f a) t) : Brings S Q E (m >>= f) s := by
  refine Ensures.bind (f := ExceptT.bindCont f) ?_ hm
  rintro (e | a) t h
  · exact h
  · exact hf a t (h t (S.refl t))

/-- A program brings whatever follows from what it brings. -/
theorem Brings.mono {P : α → σ → Prop} {F : ε → σ → Prop} (hPQ : ∀ a s, P a s → Q a s)
    (hFE : ∀ e s, F e s → E e s) {m : ExceptT ε Program α} (h : Brings S P F m s) :
    Brings S Q E m s := by
  refine Ensures.mono ?_ h
  rintro (e | a) t ht
  · exact hFE e t ht
  · exact hPQ a t ht

/-- What a program brings it still brings after steps of others. -/
theorem Brings.others {m : ExceptT ε Program α} {t : σ} (h : Brings S Q E m s)
    (hst : S.others s t) : Brings S Q E m t := Ensures.others h hst

/-- A call: what follows on its answer has to bring the result. -/
theorem Brings.ask {tx : TxId} {c : Call} {blame : StoreError → ε} {Q : c.Answer → σ → Prop}
    (h : ∀ t, S.others s t → ∀ x u, S.own t (.call tx c) x u → S.fair t (.call tx c) u ∧
      match x with
      | .ok a => ∀ v, S.others u v → Q a v
      | .error e => ∀ v, S.others u v → E (blame e) v) :
    Brings S Q E (Program.ask blame tx c) s := by
  intro t ht x u hu
  obtain ⟨hfair, hx⟩ := h t ht x u hu
  refine ⟨hfair, ?_⟩
  cases x with
  | ok a => exact hx
  | error e => exact hx

end Brings

/-! ### Bodies within a transaction -/

/-- The program makes calls in the transaction only, and fails as soon as one of them does. -/
def WithinRun (tx : TxId) : Program (Except ε α) → Prop
  | .done _ => True
  | .step (.call i _) next => i = tx ∧ (∀ a, WithinRun tx (next (.ok a))) ∧
      ∀ e, ∃ e' : ε, next (.error e) = .done (.error e')
  | .step _ _ => False

/-- The body makes calls in the transaction only, and fails as soon as one of them does. -/
def Within (tx : TxId) (m : ExceptT ε Program α) : Prop := WithinRun tx m.run

section Within

variable {tx : TxId}

/-- A value is within any transaction. -/
@[simp] theorem within_pure (a : α) : Within tx (pure a : ExceptT ε Program α) := trivial

/-- An error is within any transaction. -/
@[simp] theorem within_throw (e : ε) : Within tx (throw e : ExceptT ε Program α) := trivial

/-- A call is within its transaction. -/
@[simp] theorem within_ask (blame : StoreError → ε) (c : Call) :
    Within tx (Program.ask blame tx c) :=
  ⟨rfl, fun _ => trivial, fun e => ⟨blame e, rfl⟩⟩

/-- A body goes on within its transaction, or ends with the error that it has met. -/
theorem withinRun_bind {f : α → ExceptT ε Program β} (hf : ∀ a, Within tx (f a)) :
    ∀ {p : Program (Except ε α)}, WithinRun tx p → WithinRun tx (p.bind (ExceptT.bindCont f))
  | .done (.ok a), _ => hf a
  | .done (.error _), _ => trivial
  | .step (.call _ _) next, ⟨htx, hok, herr⟩ => by
    refine ⟨htx, fun a => withinRun_bind hf (hok a), fun e => ?_⟩
    obtain ⟨e', he⟩ := herr e
    exact ⟨e', congrArg (Program.bind · (ExceptT.bindCont f)) he⟩

/-- Two parts within a transaction are so one after the other. -/
theorem Within.bind {m : ExceptT ε Program α} {f : α → ExceptT ε Program β} (hm : Within tx m)
    (hf : ∀ a, Within tx (f a)) : Within tx (m >>= f) := withinRun_bind hf hm

end Within

/-! ### Images -/

/-- The steps of a transaction in one setting are imaged by steps in another. Once a call has failed
it is enough that `weak` stays true. -/
structure Image (S : Setting σ) {τ : Type} (T : Setting τ) (tx : TxId) (sim : σ → τ → Prop)
    (weak : σ → Prop) : Prop where
  others : ∀ {s b t}, sim s b → S.others s t → ∃ b', T.others b b' ∧ sim t b'
  ok : ∀ {s b c a t}, sim s b → S.own s (.call tx c) (.ok a) t →
    S.fair s (.call tx c) t ∧ ∃ b', T.own b (.call tx c) (.ok a) b' ∧ sim t b'
  error : ∀ {s b c e t}, sim s b → S.own s (.call tx c) (.error e) t →
    S.fair s (.call tx c) t ∧ (∃ b', T.own b (.call tx c) (.error e) b') ∧ weak t
  weak_of_sim : ∀ {s b}, sim s b → weak s
  weak_others : ∀ {s t}, weak s → S.others s t → weak t

/-- **What a body ensures in the image, it ensures.**  Its errors have to be right whatever the
state in which they are raised. -/
theorem Image.ensures {τ : Type} {T : Setting τ} {tx : TxId} {sim : σ → τ → Prop}
    {weak : σ → Prop} (h : Image S T tx sim weak) {Q : α → τ → Prop} {E : ε → Prop} :
    ∀ {p : Program (Except ε α)} {s : σ} {b : τ}, WithinRun tx p → sim s b →
      Ensures T (outcome Q fun e _ => E e) p b →
      Ensures S (outcome (fun a t => ∃ b, sim t b ∧ Q a b) fun e t => weak t ∧ E e) p s
  | .done (.ok a), s, b, _, hsim, hp => by
    intro t ht
    obtain ⟨b', hb, hsim'⟩ := h.others hsim ht
    exact ⟨b', hsim', hp b' hb⟩
  | .done (.error e), s, b, _, hsim, hp => fun t ht =>
    ⟨h.weak_others (h.weak_of_sim hsim) ht, hp b (T.refl b)⟩
  | .step (.call i _) next, s, b, ⟨hi, hok, herr⟩, hsim, hp => by
    subst hi
    intro t ht x u hu
    obtain ⟨b', hb, hsim'⟩ := h.others hsim ht
    cases x with
    | ok a =>
      obtain ⟨hfair, b'', hown, hsim''⟩ := h.ok hsim' hu
      exact ⟨hfair, h.ensures (hok a) hsim'' (hp b' hb _ b'' hown).2⟩
    | error e =>
      obtain ⟨hfair, ⟨b'', hown⟩, hweak⟩ := h.error hsim' hu
      refine ⟨hfair, ?_⟩
      obtain ⟨e', he⟩ := herr e
      have hdone := (hp b' hb _ b'' hown).2
      rw [he] at hdone ⊢
      exact fun v hv => ⟨h.weak_others hweak hv, hdone b'' (T.refl b'')⟩

/-! ### Brackets -/

/-- How a bracket ends: with a drop where the body failed or is not worth keeping, else with a
commit. -/
def close (blame : StoreError → ε) (keep : α → Bool) (tx : TxId) :
    Except ε α → Program (Except ε α)
  | .error e => .step (.drop tx) fun _ => .done (.error e)
  | .ok a =>
    if keep a then
      .step (.commit tx) fun
        | .ok () => .done (.ok a)
        | .error e => .done (.error (blame e))
    else .step (.drop tx) fun _ => .done (.ok a)

/-- How a bracket begins: with a new transaction, or not at all. -/
def openWith (blame : StoreError → ε) (p : TxId → Program (Except ε α)) :
    Except StoreError TxId → Program (Except ε α)
  | .error e => .done (.error (blame e))
  | .ok tx => p tx

/-- A bracket begins a transaction, goes through its body and ends the transaction. -/
theorem bracket_run (blame : StoreError → ε) (keep : α → Bool)
    (body : TxId → ExceptT ε Program α) :
    (bracket blame keep body).run =
      .step .begin (openWith blame fun tx => (body tx).run.bind (close blame keep tx)) := by
  refine congrArg (Program.step Command.begin) (funext fun x => ?_)
  cases x with
  | error e => rfl
  | ok tx =>
    change ((body tx).run.bind _).bind _ = (body tx).run.bind (close blame keep tx)
    rw [bind_assoc]
    refine congrArg ((body tx).run.bind ·) (funext fun r => ?_)
    cases r with
    | error e => rfl
    | ok a =>
      change ExceptT.run (if keep a then _ else _) = if keep a then _ else _
      split
      · refine congrArg (Program.step (Command.commit tx)) (funext fun y => ?_)
        cases y <;> rfl
      · rfl

end Program
end LoanDesk
