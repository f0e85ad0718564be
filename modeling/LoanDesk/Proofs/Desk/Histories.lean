/-
# One line for a request, one contract for a line

Over the whole history of a desk the accepted lines of one request are one line, whatever tasks are
taken up in whatever order and whatever others do in between. The exception is a line that was taken
in haste: its package was created while the line was still open. That looks at the table of moves
only, which has the move for the sake of administrators who confirm a request, so the request is
neither locked nor closed and its other lines stay open (`Hasty`,
`Story.two_accepted_hastened`).

Contracts and lines whose package is created are paired one to one in every world
(`Rows.OneToOne`), and contracts last.
-/

import LoanDesk.Proofs.Desk.World

namespace LoanDesk

/-- The package of a line is created while the line is open. -/
structure World.Hastens (w w' : World) (line : Int) : Prop where
  task : ∃ k caller now, w.work = some k ∧ k.task = .operate (.createPackage line) caller now
  pending : ∃ l, w.store.rows.lines.get? line = some l ∧ l.isPending
  created : ∃ l, w'.store.rows.lines.get? line = some l ∧ l.status = .packageCreated

/-- Somewhere in the history the line was taken in haste. -/
def Hasty (ws : List World) (line : Int) : Prop := ∃ w w', [w', w] <:+: ws ∧ w.Hastens w' line

/-- Haste is not forgotten. -/
theorem Hasty.mono {ws ws' : List World} (h : ws <:+ ws') {line : Int} (hx : Hasty ws line) :
    Hasty ws' line := by
  obtain ⟨w, w', hinfix, hw⟩ := hx
  exact ⟨w, w', hinfix.trans h.isInfix, hw⟩

/-- Nothing is taken in haste where no packages are created. -/
theorem not_hasty {ts : List Task}
    (h : ∀ line caller now, .operate (.createPackage line) caller now ∉ ts) (line : Int) :
    ¬Hasty (World.history ts) line := by
  rintro ⟨w, w', hinfix, hw⟩
  obtain ⟨k, caller, now, hk, ht⟩ := hw.task
  have hmem : w ∈ World.history ts := hinfix.subset (by simp)
  have htask := World.task_of_mem_history hmem hk
  rw [ht] at htask
  exact h line caller now htask

namespace History

variable {w : World} {ws : List World}

/-- The past of a history is a history. -/
theorem of_suffix {ws' : List World} (h : History ws') : w :: ws <:+ ws' → History (w :: ws) := by
  induction h with
  | empty =>
    intro hs
    rcases List.suffix_cons_iff.1 hs with he | hs
    · rw [he]
      exact .empty
    · simp at hs
  | @step v v' vs h hstep ih =>
    intro hs
    rcases List.suffix_cons_iff.1 hs with he | hs
    · rw [he]
      exact h.step hstep
    · exact ih hs

/-- Every world of a history is the last one of a history. -/
theorem of_mem {ws' : List World} (h : History ws') (hw : w ∈ ws') :
    ∃ ws, w :: ws <:+ ws' ∧ History (w :: ws) := by
  obtain ⟨after, before, he⟩ := List.append_of_mem hw
  have hs : w :: before <:+ ws' := ⟨after, he.symm⟩
  exact ⟨before, hs, h.of_suffix hs⟩

/-- **Every world of a history is fit**, and its accepted lines and contracts are in order. -/
theorem sound (h : History (w :: ws)) :
    w.Fit ∧ w.store.rows.Settled (Hasty (w :: ws)) ∧ w.store.rows.Paired fun _ => False := by
  generalize hvs : w :: ws = vs at h
  induction h generalizing w ws with
  | empty =>
    obtain ⟨rfl, rfl⟩ := List.cons.inj hvs
    exact ⟨World.fit_empty, .empty _, .empty _⟩
  | @step v v' vs h hs ih =>
    obtain ⟨rfl, rfl⟩ := List.cons.inj hvs
    obtain ⟨hfit, hsettled, hpaired⟩ := ih rfl
    obtain ⟨hfit', heffect⟩ := hs.effect World.invariant_linked hfit
    have hmono : ∀ i, Hasty (v :: vs) i → Hasty (w :: v :: vs) i :=
      fun i => Hasty.mono (List.suffix_cons _ _)
    refine ⟨hfit', ?_⟩
    rcases heffect with hrows | ⟨k, hk, last, hb, hd⟩
    · rw [hrows]
      exact ⟨hsettled.mono hmono, hpaired⟩
    · refine ⟨hd.settled hb hsettled hmono fun line caller now ht hp hc => ?_, hd.paired hb hpaired⟩
      exact ⟨v, w, ⟨[], vs, rfl⟩, ⟨k, caller, now, hk, ht⟩, hp, hc⟩

/-- Two worlds that follow each other in a history. -/
theorem step_of_infix {ws : List World} (h : History ws) {v w : World} {vs : List World}
    (hs : w :: v :: vs <:+: ws) : v.Fit ∧ v.Step w := by
  obtain ⟨after, before, rfl⟩ := hs
  have hsuffix : w :: v :: (vs ++ before) <:+ after ++ (w :: v :: vs) ++ before :=
    ⟨after, by simp⟩
  cases h.of_suffix hsuffix with
  | step h hstep => exact ⟨h.sound.1, hstep⟩

section AtWork

variable {I : Book → Prop} {D : Book → Book → Prop} {t : Task} {k : Work}

/-- What the program of a task is safe for, the steps that are left of it ensure in the middle of a
history. -/
theorem ensures (hI : ∀ {w ws}, History (w :: ws) → I w.store.stored)
    (hsafe : Program.Safe I D t.program) (h : History (w :: ws)) (hk : w.work = some k)
    (ht : k.task = t) :
    Program.Ensures (Program.safety I D) (fun _ p => p.mine = []) k.rest ⟨k.mine, w.store⟩ := by
  generalize hvs : w :: ws = vs at h
  induction h generalizing w ws k with
  | empty =>
    obtain ⟨rfl, rfl⟩ := List.cons.inj hvs
    cases hk
  | @step v v' vs h hs ih =>
    obtain ⟨rfl, rfl⟩ := List.cons.inj hvs
    have hfit := h.sound.1.part
    have hv (k' : Work) (hk' : v.work = some k') (ht' : k'.task = t) :
        Program.Ensures (Program.safety I D) (fun _ p => p.mine = []) k'.rest ⟨k'.mine, v.store⟩ :=
      ih hk' ht' rfl
    cases hs with
    | start s t' =>
      cases hk
      rw [← ht] at hsafe
      exact hsafe _ rfl
    | finish => cases hk
    | act hmay =>
      cases hk
      exact (hv _ rfl ht _ ((Program.safety I D).refl _) _ ⟨_, _⟩
        ⟨⟨hfit.orderly, hI h, hfit.isOpen⟩, hmay, rfl⟩).2
    | @stir _ s _ _ hf hi hmay =>
      have hmine : v.mine = k.mine := by
        rw [World.mine, show v.work = some k from hk]
      have hrows : s.rows = v.store.rows := hi.rows hmay
      refine (hv k hk ht).others ⟨rfl, ?_, hrows⟩
      rw [← hmine]
      exact hmay.apart hfit.orderly hfit.isOpen hf

/-- While a task is at work, what is stored changes by the deeds that its program is safe for. -/
theorem effect (hI : ∀ {w ws}, History (w :: ws) → I w.store.stored)
    (hsafe : Program.Safe I D t.program) {w' : World} (h : History (w' :: w :: ws))
    (hk : w.work = some k) (ht : k.task = t) :
    w'.store.rows = w.store.rows ∨ Program.Effect I D w.store w'.store := by
  cases h with
  | step h hs =>
    have hwork := h.ensures hI hsafe hk ht
    have hfit := h.sound.1.part
    cases hs with
    | start => cases hk
    | finish => exact Or.inl rfl
    | act hmay =>
      cases hk
      exact (hwork _ ((Program.safety I D).refl _) _ ⟨_, _⟩
        ⟨⟨hfit.orderly, hI h, hfit.isOpen⟩, hmay, rfl⟩).1.2
    | stir hf hi hmay => exact Or.inl (hi.rows hmay)

end AtWork

/-- What deeds keep lasts: if it holds of the rows of a world, it holds of those of all later ones. -/
theorem lasts {P : Rows → Prop} (hdeed : ∀ {t b b'}, Deed t b b' → b.Linked → P b.rows → P b'.rows)
    (h : History (w :: ws)) {u : World} (hu : u ∈ w :: ws) (hP : P u.store.rows) :
    P w.store.rows := by
  generalize hvs : w :: ws = vs at h
  induction h generalizing w ws with
  | empty =>
    obtain ⟨rfl, rfl⟩ := List.cons.inj hvs
    obtain rfl := List.mem_singleton.1 hu
    exact hP
  | @step v v' vs h hs ih =>
    obtain ⟨rfl, rfl⟩ := List.cons.inj hvs
    rcases List.mem_cons.1 hu with rfl | hu
    · exact hP
    · rcases (hs.effect World.invariant_linked h.sound.1).2 with hrows | ⟨k, -, last, hb, hd⟩
      · rw [hrows]
        exact ih hu rfl
      · exact hdeed hd hb (ih hu rfl)

/-- Accepted lines and contracts last to the end of a history. -/
theorem keeps (h : History (w :: ws)) : ∀ u ∈ w :: ws, u.store.rows.Keeps w.store.rows :=
  fun _ hu => h.lasts (fun hd hb hkeeps => hkeeps.trans (hd.keeps hb)) hu (.of_eq rfl rfl)

end History

/-! ### One line for a request -/

/-- The line is stored, and belongs to an offer for the request. -/
def Rows.Carries (rows : Rows) (request : Int) (l : Line) : Prop :=
  rows.lines.get? l.id = some l ∧ (rows.offers.get? l.offer).map (·.request) = some request

instance (rows : Rows) (request : Int) (l : Line) : Decidable (rows.Carries request l) :=
  inferInstanceAs (Decidable (_ ∧ _))

/-- **Over a whole history one line of a request is accepted**, but for lines taken in haste. -/
theorem History.accepted_unique {ws : List World} (h : History ws) {u v : World} (hu : u ∈ ws)
    (hv : v ∈ ws) {request : Int} {l m : Line} (hl : u.store.rows.Carries request l)
    (hm : v.store.rows.Carries request m) (hla : l.status.isAccepted)
    (hma : m.status.isAccepted) : l.id = m.id ∨ Hasty ws l.id ∨ Hasty ws m.id := by
  cases ws with
  | nil => cases hu
  | cons w ws =>
    have hlast : ∀ u ∈ w :: ws, ∀ l, u.store.rows.Carries request l → l.status.isAccepted →
        ∃ l', w.store.rows.lines.get? l.id = some l' ∧ l'.status.isAccepted ∧
          l'.request = request := by
      intro u hu l hl ha
      obtain ⟨vs, -, hvs⟩ := h.of_mem hu
      obtain ⟨hget, hoffer⟩ := hl
      obtain ⟨o, ho, hreq⟩ := hvs.sound.1.part.stored.line _ l hget
      obtain ⟨l', hl', ha', hlr⟩ := (h.keeps u hu).line _ l hget ha
      refine ⟨l', hl', ha', ?_⟩
      rw [show u.store.rows.offers.get? l.offer = some o from ho] at hoffer
      rw [hlr, ← hreq]
      exact Option.some.inj hoffer
    obtain ⟨l', hl', hla', hlr⟩ := hlast u hu l hl hla
    obtain ⟨m', hm', hma', hmr⟩ := hlast v hv m hm hma
    exact h.sound.2.1.single _ _ l' m' hl' hm' hla' hma' (hlr.trans hmr.symm)

namespace Story

/-- The time of everything that happens. -/
def now : Instant := { Instant.epoch with second := 1700000000 }

/-- The investor who acts. -/
def caller : Caller := .of (.investor 7)

/-- A decimal by its digits and how many of them are places. -/
def decimal (digits : Int) (places : Nat) : Decimal := (Decimal.ofParts? digits places).getD .zero

/-- Request 1 is opened. -/
def opened : Task := .operate (.openRequest ⟨{
  symbol := 1
  investor := 7
  account := "A1"
  kind := .flexible
  terms := .underlying (decimal 2 1) (decimal 100 0) }⟩) caller now

/-- A line with a loan. -/
def line (loan : Int) : LineDraft where
  loan
  scoreGroup := none
  limitAmount := decimal 100 0
  loanRate := decimal 2 1
  interestRate := decimal 1 1
  termDays := 30

/-- Offer 3 is made for it, with lines 4 and 5. -/
def proposed : Task := .operate (.propose ⟨1, .online, none, .null, [line 10, line 11]⟩) caller now

/-- Line 4 is accepted. -/
def accepted : Task := .operate (.accept ⟨3, 4⟩) caller now

/-- The package of a line is created. -/
def packaged (line : Int) : Task := .operate (.createPackage line) caller now

/-- A request, an offer, a line accepted and its package. -/
def told : List Task := [packaged 4, accepted, proposed, opened]

/-- The packages of both lines are created, although neither was accepted. -/
def hastened : List Task := [packaged 5, packaged 4, proposed, opened]

/-- Line 4 is accepted, and later its package is created. -/
theorem accepted_unique_told : ∃ u ∈ World.history told, ∃ v ∈ World.history told, ∃ l m,
    u.store.rows.Carries 1 l ∧ v.store.rows.Carries 1 m ∧ l.status = .creatingPackage ∧
      m.status = .packageCreated ∧
      (l.id = m.id ∨ Hasty (World.history told) l.id ∨ Hasty (World.history told) m.id) := by
  have hu : ⟨(World.played [accepted, proposed, opened]).1, none⟩ ∈ World.history told :=
    (World.suffix_history _ _).subset List.mem_cons_self
  have hl : ((World.played [accepted, proposed, opened]).1.rows.lines.get? 4).isSome := by
    decide +kernel
  have hm : ((World.played told).1.rows.lines.get? 4).isSome := by decide +kernel
  have hlc : (World.played [accepted, proposed, opened]).1.rows.Carries 1 (Option.get _ hl) := by
    decide +kernel +revert
  have hmc : (World.played told).1.rows.Carries 1 (Option.get _ hm) := by decide +kernel +revert
  have hls : (Option.get _ hl).status = .creatingPackage := by decide +kernel +revert
  have hms : (Option.get _ hm).status = .packageCreated := by decide +kernel +revert
  exact ⟨_, hu, _, List.mem_cons_self, _, _, hlc, hmc, hls, hms,
    History.accepted_unique (World.history_played told) hu List.mem_cons_self hlc hmc
      (by rw [hls]; rfl) (by rw [hms]; rfl)⟩

/-- The exception happens: the packages of two lines of an open request are created. -/
theorem two_accepted_hastened : ∃ w ∈ World.history hastened, ∃ l m, w.store.rows.Carries 1 l ∧
    w.store.rows.Carries 1 m ∧ l.status.isAccepted ∧ m.status.isAccepted ∧ l.id ≠ m.id := by
  have hl : ((World.played hastened).1.rows.lines.get? 4).isSome := by decide +kernel
  have hm : ((World.played hastened).1.rows.lines.get? 5).isSome := by decide +kernel
  exact ⟨_, List.mem_cons_self, Option.get _ hl, Option.get _ hm, by decide +kernel +revert⟩

end Story

/-! ### One contract for a line -/

/-- **Contracts stand one to one to the lines whose package is created**, in every world of a
history. Two contracts of one request are one, but for lines taken in haste. A contract lasts from
one world to all later ones, and nothing in it changes but the end of its guarantee. -/
theorem History.contracts_paired {ws : List World} (h : History ws) :
    (∀ w ∈ ws, w.store.rows.OneToOne ∧ ∀ n n' k k', w.store.rows.contracts.get? n = some k →
      w.store.rows.contracts.get? n' = some k' → k.request = k'.request →
        n = n' ∨ Hasty ws k.line ∨ Hasty ws k'.line) ∧
    ∀ w before, w :: before <:+ ws → ∀ u ∈ before, ∀ n k, u.store.rows.contracts.get? n = some k →
      ∃ e, w.store.rows.contracts.get? n = some { k with guaranteeEndedAt := e } := by
  refine ⟨fun w hw => ?_, fun w before hs u hu n k hk => ?_⟩
  · obtain ⟨vs, hs, hvs⟩ := h.of_mem hw
    obtain ⟨hfit, hsettled, hpaired⟩ := hvs.sound
    refine ⟨hpaired.oneToOne, fun n n' k k' hk hk' hreq => ?_⟩
    obtain ⟨-, l, r, hl, hls, hc, hr, hof⟩ := hpaired.signed n k hk
    obtain ⟨-, l', r', hl', hls', hc', hr', hof'⟩ := hpaired.signed n' k' hk'
    have hkeyed := hfit.part.stored.keyed.requests
    have hsame : l.request = l'.request := by
      rw [← hkeyed _ r hr, ← hkeyed _ r' hr', ← hof.request, ← hof'.request, hreq]
    have ha : l.status.isAccepted := by rw [hls]; rfl
    have ha' : l'.status.isAccepted := by rw [hls']; rfl
    rcases hsettled.single _ _ l l' hl hl' ha ha' hsame with he | hx | hx
    · exact Or.inl (hpaired.oneToOne.unique n n' k k' hk hk' he)
    · exact Or.inr (Or.inl (hx.mono hs))
    · exact Or.inr (Or.inr (hx.mono hs))
  · exact ((h.of_suffix hs).keeps u (List.mem_cons_of_mem _ hu)).contract n k hk

namespace Story

/-- Contract 6 is written with the package of line 4. -/
theorem contracts_paired_told :
    (World.played told).1.rows.OneToOne ∧
      ∃ k, (World.played told).1.rows.contracts.get? 6 = some k ∧ k.line = 4 := by
  refine ⟨((History.contracts_paired (World.history_played told)).1 _ List.mem_cons_self).1, ?_⟩
  have hk : ((World.played told).1.rows.contracts.get? 6).isSome := by decide +kernel
  exact ⟨Option.get _ hk, by decide +kernel +revert⟩

end Story
end LoanDesk
