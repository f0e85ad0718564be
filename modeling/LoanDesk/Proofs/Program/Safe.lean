/-
# Safe programs

Beside a program there may be transactions of others, which take locks, stage changes and take
numbers at any time but commit nothing. A program is *safe* for a relation of deeds if what is
stored changes in no step of it but by a deed.

What a body in a bracket does is followed on a book (`Book.shared`): its rows change by nothing but
the body's own calls, while numbers may be missing and other rows be taken at each of them. A
bracket is safe if its body makes a deed of the book (`safe_bracket`). Tidy programs that are quiet
are safe for any deeds (`safe_of_quiet`).
-/

import LoanDesk.Proofs.Program.Runs
import LoanDesk.Proofs.Store.Mirror

namespace LoanDesk

/-! ### Books that are shared with others -/

namespace Book

/-- What a command may answer where any rows may be taken: calls answer as on the book, or fail. -/
def MayAnswer (b : Book) : (c : Command) → c.Answer → Book → Prop
  | .call _ c, .ok a, b' => ∃ free, b.perform free c = .ok (a, b')
  | .call _ _, .error _, _ => True
  | _, _, _ => False

/-- A book beside others, who take numbers and rows. -/
def shared : Setting Book where
  others b b' := b'.rows = b.rows ∧ b.last ≤ b'.last
  own := MayAnswer
  fair _ _ _ := True
  refl _ := ⟨rfl, Int.le_refl _⟩
  trans h₁ h₂ := ⟨h₂.1.trans h₁.1, Int.le_trans h₁.2 h₂.2⟩

end Book

namespace Program

section Shared

variable {α β ε : Type} {tx : TxId} {c : Call} {blame : StoreError → ε} {b : Book}

/-- The answer of a call is that of its book, with some numbers missing. -/
theorem Brings.shared_ask {Q : c.Answer → Book → Prop}
    (h : ∀ n, b.last ≤ n → ∀ free a b', (⟨b.rows, n⟩ : Book).perform free c = .ok (a, b') →
      ∀ m, b'.last ≤ m → Q a ⟨b'.rows, m⟩) :
    Brings Book.shared Q (fun _ _ => True) (Program.ask blame tx c) b := by
  refine Brings.ask ?_
  rintro ⟨rows, n⟩ ⟨hrows, hn⟩ x u hu
  refine ⟨trivial, ?_⟩
  dsimp only at hrows hn
  subst hrows
  cases x with
  | error e => exact fun _ _ => trivial
  | ok a =>
    obtain ⟨free, hp⟩ := hu
    rintro ⟨rows', m⟩ ⟨hrows', hm⟩
    dsimp only at hrows'
    subst hrows'
    exact h n hn free a u hp m hm

/-- A call beside others, and what follows on its answer: numbers may be missing by then, and any
rows be taken. -/
theorem Brings.shared_ask_bind {f : c.Answer → ExceptT ε Program β} {Q : β → Book → Prop}
    (h : ∀ n, b.last ≤ n → ∀ free a b', (⟨b.rows, n⟩ : Book).perform free c = .ok (a, b') →
      Brings Book.shared Q (fun _ _ => True) (f a) b') :
    Brings Book.shared Q (fun _ _ => True) (Program.ask blame tx c >>= f) b := by
  refine Brings.bind (Brings.shared_ask (Q := fun a b' =>
    Brings Book.shared Q (fun _ _ => True) (f a) b') ?_) fun a t h => h
  intro n hn free a b' hp m hm
  exact (h n hn free a b' hp).others ⟨rfl, hm⟩

end Shared

/-! ### Safety -/

/-- A program in the middle of a run: its open transactions, and the store. -/
structure Part where
  mine : List TxId
  store : Store

section Safety

variable (I : Book → Prop) (D : Book → Book → Prop)

/-- The store is orderly, what is stored satisfies the invariant, and the transactions of the
program are open. -/
structure Part.Fit (p : Part) : Prop where
  orderly : p.store.Orderly
  stored : I p.store.stored
  isOpen : ∀ tx ∈ p.mine, p.store.IsOpen tx

/-- What was stored changes by a deed. The deed was done to the book when fewer numbers may have
been given out. -/
def Effect (s t : Store) : Prop :=
  ∃ last, I ⟨s.rows, last⟩ ∧ D ⟨s.rows, last⟩ t.stored

/-- Beside others who commit nothing, own steps change what is stored by deeds only. -/
def safety : Setting Part where
  others p q := q.mine = p.mine ∧ Store.Apart p.mine p.store q.store ∧ q.store.rows = p.store.rows
  own p c x q := p.Fit I ∧ p.store.May c x q.store ∧ q.mine = c.after p.mine x
  fair p c q := c.Owned p.mine ∧ (q.store.rows = p.store.rows ∨ Effect I D p.store q.store)
  refl _ := ⟨rfl, .refl _ _, rfl⟩
  trans h₁ h₂ := ⟨h₂.1.trans h₁.1, h₁.2.1.trans (h₁.1 ▸ h₂.2.1), h₂.2.2.trans h₁.2.2⟩

/-- A program that ends what it begins and changes what is stored by deeds only. -/
def Safe {α : Type} (p : Program α) : Prop :=
  ∀ s : Part, s.mine = [] → Ensures (safety I D) (fun _ t => t.mine = []) p s

end Safety

section Safe

variable {α β ε : Type} {I : Book → Prop} {D : Book → Book → Prop}

/-- A program that is done is safe. -/
theorem safe_done (a : α) : Safe I D (.done a) := fun _ hs _ ht => ht.1.trans hs

/-- Two safe programs are safe one after the other. -/
theorem Safe.bind {p : Program α} {f : α → Program β} (hp : Safe I D p) (hf : ∀ a, Safe I D (f a)) :
    Safe I D (p.bind f) := fun s hs =>
  Ensures.bind (fun a t h => hf a t (h t ((safety I D).refl t))) (hp s hs)

/-- Two safe programs that may fail are safe one after the other. -/
theorem Safe.bindExcept {m : ExceptT ε Program α} {f : α → ExceptT ε Program β}
    (hm : Safe I D m.run) (hf : ∀ a, Safe I D (f a).run) : Safe I D (m >>= f).run := by
  refine Safe.bind (f := ExceptT.bindCont f) hm fun r => ?_
  cases r with
  | error e => exact safe_done _
  | ok a => exact hf a

/-- A safe program is safe where it might have failed, too. -/
theorem safe_lift {p : Program α} (hp : Safe I D p) :
    Safe I D (ExceptT.lift p : ExceptT ε Program α).run := hp.bind fun _ => safe_done _

/-- Delivering an event is safe. -/
theorem safe_deliver (e : Event) : Safe I D (deliver e) := by
  intro s hs t ht x u hu
  obtain ⟨hfit, hmay, hmine⟩ := hu
  have hst : u.store = t.store := by
    rcases hmay with h | h
    · exact h
    · exact h.elim
  refine ⟨⟨trivial, .inl (by rw [hst])⟩, ?_⟩
  have hu : u.mine = [] := by rw [hmine]; exact ht.1.trans hs
  cases x <;> exact fun v hv => hv.1.trans hu

/-- One step of a program that changes what is stored by deeds, where these keep an invariant that
does not mind if numbers are missing: the program goes on in a store that is as fit. -/
theorem Ensures.advance (hmono : ∀ {rows m n}, I ⟨rows, m⟩ → m ≤ n → I ⟨rows, n⟩)
    (hkeep : ∀ {b b'}, D b b' → I b → I b') {Q : α → Part → Prop} {c : Command}
    {next : c.Answer → Program α} {mine : List TxId} {s t : Store} {x : c.Answer}
    (h : Ensures (safety I D) Q (.step c next) ⟨mine, s⟩) (hfit : Part.Fit I ⟨mine, s⟩)
    (hmay : s.May c x t) :
    Part.Fit I ⟨c.after mine x, t⟩ ∧ (t.rows = s.rows ∨ Effect I D s t) ∧
      Ensures (safety I D) Q (next x) ⟨c.after mine x, t⟩ := by
  obtain ⟨⟨howned, heffect⟩, hnext⟩ := h _ ((safety I D).refl _) x ⟨c.after mine x, t⟩
    ⟨hfit, hmay, rfl⟩
  have hstored : I t.stored := by
    rcases heffect with hrows | ⟨last, hb, hd⟩
    · have hlater := hmono hfit.stored hmay.lastId
      rw [← hrows] at hlater
      exact hlater
    · exact hkeep hd hb
  refine ⟨⟨hmay.orderly hfit.orderly fun tx d hc => ?_, hstored, ?_⟩, heffect, hnext⟩
  · subst hc
    exact hfit.isOpen tx howned
  · exact hmay.isOpen hfit.isOpen howned

/-- What deeds do to the rows a program does to them in the whole of its run, where that may be done
any number of times. -/
theorem Ensures.relates {R : Rows → Rows → Prop}
    (hmono : ∀ {rows m n}, I ⟨rows, m⟩ → m ≤ n → I ⟨rows, n⟩)
    (hkeep : ∀ {b b'}, D b b' → I b → I b') (hrefl : ∀ rows, R rows rows)
    (htrans : ∀ {a b c}, R a b → R b c → R a c) (hR : ∀ {b b'}, D b b' → I b → R b.rows b'.rows)
    {Q : α → Part → Prop} {p : Program α} {s t : Store} {es : List Event} {a : α}
    (hr : Runs p s es a t) : ∀ {mine : List TxId}, Ensures (safety I D) Q p ⟨mine, s⟩ →
      Part.Fit I ⟨mine, s⟩ → R s.rows t.rows := by
  induction hr with
  | done a s => exact fun _ _ => hrefl s.rows
  | @step c next s t u x es a hmay hr ih =>
    intro mine h hfit
    obtain ⟨hfit', heffect, hnext⟩ := h.advance hmono hkeep hfit hmay
    have hrest := ih hnext hfit'
    rcases heffect with hrows | ⟨last, hb, hd⟩
    · rw [← hrows]
      exact hrest
    · exact htrans (hR hd hb) hrest

/-- What deeds leave alone a program leaves alone in the whole of its run. -/
theorem Ensures.leaves {γ : Type} {f : Rows → γ}
    (hmono : ∀ {rows m n}, I ⟨rows, m⟩ → m ≤ n → I ⟨rows, n⟩)
    (hkeep : ∀ {b b'}, D b b' → I b → I b') (hf : ∀ {b b'}, D b b' → I b → f b'.rows = f b.rows)
    {Q : α → Part → Prop} {p : Program α} {s t : Store} {es : List Event} {a : α}
    (hr : Runs p s es a t) {mine : List TxId} (h : Ensures (safety I D) Q p ⟨mine, s⟩)
    (hfit : Part.Fit I ⟨mine, s⟩) : f t.rows = f s.rows :=
  h.relates (R := fun rows rows' => f rows' = f rows) hmono hkeep (fun _ => rfl)
    (fun h h' => h'.trans h) hf hr hfit

/-- A tidy program that is quiet ends with no transaction of its own open. -/
theorem ensures_of_quiet {p : Program α} {s : Part} (ht : Tidy [] s.mine p) (hq : Quiet p) :
    Ensures (safety I D) (fun _ t => t.mine = []) p s := by
  induction p generalizing s with
  | done a => exact fun _ h => h.1.trans ht
  | step c next ih =>
    rintro p ⟨hp, -, -⟩ x q ⟨hfit, hmay, hmine⟩
    have hrows : q.store.rows = p.store.rows := by
      rcases hmay.rows with h | ⟨tx, rfl, -⟩
      · exact h
      · exact hq.elim
    rw [← hp] at ht
    cases c with
    | begin =>
      refine ⟨⟨trivial, .inl hrows⟩, ih x ?_ (hq x)⟩
      rw [hmine]
      rcases hmay with ⟨rfl, -⟩ | ⟨⟨e, rfl⟩, -⟩
      · refine ht.2 _ fun hm => ?_
        have hle := hfit.orderly.numbered _ (hfit.isOpen _ hm)
        exact absurd hle (Int.not_le.2 (Int.lt_succ _))
      · exact ht.1 e
    | call tx c =>
      refine ⟨⟨ht.1, .inl hrows⟩, ih x ?_ (hq x)⟩
      rw [hmine]
      exact ht.2 x
    | commit tx => exact hq.elim
    | drop tx =>
      refine ⟨⟨ht.1, .inl hrows⟩, ih x ?_ (hq x)⟩
      rw [hmine]
      exact ht.2 x
    | deliver e => exact hq.elim

/-- A tidy program that is quiet changes nothing that is stored. -/
theorem safe_of_quiet {p : Program α} (ht : Tidy [] [] p) (hq : Quiet p) : Safe I D p :=
  fun _ hs => ensures_of_quiet (hs ▸ ht) hq

/-! ### Brackets -/

section Bracket

variable {blame : StoreError → ε} {keep : α → Bool} {body : TxId → ExceptT ε Program α}

/-- In a transaction of its own, a program sees a book whose rows only its own calls change. -/
theorem image_shared (tx : TxId) (rows : Rows) :
    Image (safety I D) Book.shared tx
      (fun p b => p.mine = [tx] ∧ p.store.rows = rows ∧ p.store.book tx = b ∧ b.rows.Keyed)
      fun p => p.mine = [tx] ∧ p.store.rows = rows where
  others := by
    rintro p b q ⟨hmine, hrows, rfl, hk⟩ ⟨hmine', hapart, hrows'⟩
    have hview : q.store.view tx = p.store.view tx :=
      hapart.view hrows' (by rw [hmine]; exact List.mem_singleton.2 rfl)
    refine ⟨q.store.book tx, ⟨hview, hapart.lastId⟩, hmine'.trans hmine, hrows'.trans hrows, rfl, ?_⟩
    change (q.store.view tx).Keyed
    rw [hview]
    exact hk
  ok := by
    rintro p b c a q ⟨hmine, hrows, rfl, hk⟩ ⟨hfit, hmay, hmine'⟩
    rcases hmay with h | ⟨⟨e, he⟩, -⟩
    · have hrows' : q.store.rows = p.store.rows := by
        have hr := Store.rows_perform p.store tx c
        rwa [← show (Except.ok a, q.store) = _ from h] at hr
      obtain ⟨hbook, -, hk'⟩ := Store.perform_ok hk (show _ = (Except.ok a, q.store) from h.symm)
      refine ⟨⟨?_, .inl hrows'⟩, q.store.book tx, ⟨_, hbook⟩, hmine'.trans hmine,
        hrows'.trans hrows, rfl, hk'⟩
      rw [hmine]
      exact List.mem_singleton.2 rfl
    · cases he
  error := by
    rintro p b c e q ⟨hmine, hrows, rfl, hk⟩ ⟨hfit, hmay, hmine'⟩
    have hrows' : q.store.rows = p.store.rows := by
      rcases hmay.rows with h | ⟨i, hi, -⟩
      · exact h
      · cases hi
    refine ⟨⟨?_, .inl hrows'⟩, ⟨p.store.book tx, trivial⟩, hmine'.trans hmine, hrows'.trans hrows⟩
    rw [hmine]
    exact List.mem_singleton.2 rfl
  weak_of_sim := fun h => ⟨h.1, h.2.1⟩
  weak_others := fun h ho => ⟨ho.1.trans h.1, ho.2.2.trans h.2⟩

/-- Dropping the last transaction leaves what is stored, and ends with what the program gives. -/
theorem ensures_drop {β : Type} {tx : TxId} {p : Part} {Q : β → Prop} {r : β} (hp : p.mine = [tx])
    (hr : Q r) : Ensures (safety I D) (fun a t => t.mine = [] ∧ Q a)
      (.step (.drop tx) fun _ => .done r) p := by
  intro q hq x u hu
  obtain ⟨-, hmay, hmine⟩ := hu
  have hq₀ : q.mine = [tx] := hq.1.trans hp
  have hrows : u.store.rows = q.store.rows := by
    rcases hmay.rows with h | ⟨i, hi, -⟩
    · exact h
    · cases hi
  refine ⟨⟨?_, .inl hrows⟩, fun v hv => ⟨hv.1.trans ?_, hr⟩⟩
  · rw [hq₀]
    exact List.mem_singleton.2 rfl
  · rw [hmine, hq₀]
    simp [Command.after]

/-- Committing the last transaction is a deed, if what is seen has come about by one. -/
theorem ensures_commit {β : Type} {tx : TxId} {p : Part} {b₀ : Book} {next : _ → Program β}
    {Q : β → Prop} (hb₀ : I b₀) (hp : ∀ q, (safety I D).others p q →
      q.mine = [tx] ∧ q.store.rows = b₀.rows ∧ D b₀ (q.store.book tx))
    (hnext : ∀ x, ∃ r, next x = .done r ∧ Q r) :
    Ensures (safety I D) (fun a t => t.mine = [] ∧ Q a) (.step (.commit tx) next) p := by
  intro q hq x u hu
  obtain ⟨-, hmay, hmine⟩ := hu
  obtain ⟨hq₀, hrows, hdeed⟩ := hp q hq
  have hfair : u.store.rows = q.store.rows ∨ Effect I D q.store u.store := by
    rcases hmay with ⟨-, ht⟩ | ⟨-, ht⟩
    · refine Or.inr ⟨b₀.last, ?_, ?_⟩
      · rw [hrows]
        exact hb₀
      · rw [ht, hrows]
        exact hdeed
    · rw [ht]
      exact Or.inl rfl
  refine ⟨⟨?_, hfair⟩, ?_⟩
  · rw [hq₀]
    exact List.mem_singleton.2 rfl
  · obtain ⟨r, hr, hQ⟩ := hnext x
    rw [hr]
    refine fun v hv => ⟨hv.1.trans ?_, hQ⟩
    rw [hmine, hq₀]
    simp [Command.after]

/-- **What a bracket ensures**: it changes what is stored by the deed of its body, and gives what its
body may give.  The body is followed on the book that was stored when the bracket began. -/
theorem safety_bracket {P : α → Prop} (hI : ∀ b, I b → b.rows.Keyed)
    (hw : ∀ tx, Within tx (body tx))
    (hd : ∀ tx b, I b → Brings Book.shared (fun a b' => P a ∧ (keep a → D b b')) (fun _ _ => True)
      (body tx) b) {s : Part} (hs : s.mine = []) :
    Ensures (safety I D) (fun r t => t.mine = [] ∧ ∀ a, r = .ok a → P a)
      (bracket blame keep body).run s := by
  rw [bracket_run]
  intro p hp x q hq
  obtain ⟨hfit, hmay, hmine⟩ := hq
  have hp₀ : p.mine = [] := hp.1.trans hs
  have hrows : q.store.rows = p.store.rows := by
    rcases hmay.rows with h | ⟨i, hi, -⟩
    · exact h
    · cases hi
  refine ⟨⟨trivial, .inl hrows⟩, ?_⟩
  cases x with
  | error e => exact fun t ht => ⟨ht.1.trans (hmine.trans hp₀), nofun⟩
  | ok tx =>
    have hq₀ : q.mine = [tx] := by rw [hmine, hp₀]; rfl
    have hview : q.store.book tx = p.store.stored := by
      rcases hmay with ⟨hx, ht⟩ | ⟨⟨e, he⟩, -⟩
      · obtain rfl : tx = p.store.begin.1 := Except.ok.inj hx
        rw [ht]
        exact Store.book_begin p.store
      · cases he
    have hbody := (image_shared (I := I) (D := D) tx p.store.rows).ensures (hw tx)
      ⟨hq₀, hrows, hview, hI _ hfit.stored⟩ (hd tx _ hfit.stored)
    refine Ensures.bind (fun r t ht => ?_) hbody
    cases r with
    | error e => exact ensures_drop (ht t ((safety I D).refl t)).1.1 nofun
    | ok a =>
      obtain ⟨b, hsim, hP, -⟩ := ht t ((safety I D).refl t)
      have ha : ∀ a', (.ok a : Except ε α) = .ok a' → P a' := fun a' h => Except.ok.inj h ▸ hP
      change Ensures _ _ (if keep a then _ else _) t
      split
      · rename_i hkeep
        refine ensures_commit hfit.stored (fun u hu => ?_) fun y => ?_
        · obtain ⟨b, ⟨hmine, hrows, rfl, -⟩, -, hdeed⟩ := ht u hu
          exact ⟨hmine, hrows, hdeed hkeep⟩
        · cases y with
          | error e => exact ⟨_, rfl, nofun⟩
          | ok _ => exact ⟨_, rfl, ha⟩
      · exact ensures_drop hsim.1 ha

/-- **A bracket is safe if its body makes a deed.** -/
theorem safe_bracket (hI : ∀ b, I b → b.rows.Keyed) (hw : ∀ tx, Within tx (body tx))
    (hd : ∀ tx b, I b → Brings Book.shared (fun a b' => keep a → D b b') (fun _ _ => True)
      (body tx) b) : Safe I D (bracket blame keep body).run := by
  intro s hs
  refine (safety_bracket (P := fun _ => True) hI hw (fun tx b hb => ?_) hs).mono fun _ _ h => h.1
  exact (hd tx b hb).mono (fun _ _ h => ⟨trivial, h⟩) fun _ _ h => h

end Bracket
end Safe
end Program
end LoanDesk
