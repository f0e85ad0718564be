/-
# Derivatives and the ceiling

A run that declines requests looks at one number, whether the loan rate of a request reaches the
ceiling. A derivative is safe from it for the zero that is written where it has no loan rate: a
ceiling is greater than zero. Both hold of all stored rows (`Rows.Sound`). So such a run closes no
derivative and cancels none of its lines (`Rows.SparesDerivatives`).
-/

import LoanDesk.Proofs.Desk.Soundness.Rows
import LoanDesk.Proofs.Store.Parts

namespace LoanDesk

open Program

namespace Rows

/-- Requests for derivatives are the same, and so are all of their lines. -/
def SparesDerivatives (rows rows' : Rows) : Prop :=
  ∀ i r, rows.requests.get? i = some r → r.asset = .derivative →
    rows'.requests.get? i = some r ∧
      rows'.lines.filter (·.request == i) = rows.lines.filter (·.request == i)

namespace SparesDerivatives

variable {rows rows' rows'' : Rows}

/-- Requests and lines are the same. -/
theorem of_eq (hr : rows'.requests = rows.requests) (hl : rows'.lines = rows.lines) :
    SparesDerivatives rows rows' :=
  fun i r hget _ => ⟨by rw [hr]; exact hget, by rw [hl]⟩

/-- One change of the rows after another. -/
theorem trans (h : SparesDerivatives rows rows') (h' : SparesDerivatives rows' rows'') :
    SparesDerivatives rows rows'' := by
  intro i r hget ha
  obtain ⟨hget', hlines⟩ := h i r hget ha
  obtain ⟨hget'', hlines'⟩ := h' i r hget' ha
  exact ⟨hget'', hlines'.trans hlines⟩

end SparesDerivatives

/-- The requests that are closed are none for derivatives. -/
theorem sparesDerivatives_shut {rows : Rows} (hk : rows.Keyed) {rs : List Request}
    (hrs : ∀ r ∈ rs, rows.requests.get? r.id = some r ∧ r.asset ≠ .derivative) (by_ : String)
    (reason : CancelReason) (now : Instant) :
    SparesDerivatives rows (rows.shut (rs.map (·.id)) by_ reason now) := by
  intro i r hr ha
  have hnone : (rs.map (·.id)).contains i = false := by
    rw [← Bool.not_eq_true, List.contains_iff_mem, List.mem_map]
    rintro ⟨r', hmem, rfl⟩
    obtain ⟨hr', hne⟩ := hrs r' hmem
    rw [hr] at hr'
    exact hne (Option.some.inj hr' ▸ ha)
  refine ⟨Table.get?_map_eq_some.2 ⟨r, hr, if_neg ?_⟩, ?_⟩
  · dsimp only
    rw [hk.requests i r hr, hnone]
    exact Bool.false_ne_true
  · change (rows.lines.map fun l => if l.isPending && (rs.map (·.id)).contains l.request then
      l.cancelled by_ reason now else l).filter _ = _
    refine Table.filter_map_of_eq (fun l => by split <;> rfl) fun l _ hl => if_neg ?_
    rw [eq_of_beq hl, hnone, Bool.and_false]
    exact Bool.false_ne_true

end Rows

/-- A sound request whose loan rate reaches a positive rate is not for a derivative. -/
theorem Request.Sound.not_derivative {r : Request} (h : r.Sound) {rate : Decimal}
    (hrate : Decimal.zero < rate) (hr : rate ≤ r.loanRate) : r.asset ≠ .derivative := by
  intro ha
  rcases h with ⟨hu, -⟩ | ⟨-, hzero, -⟩
  · rw [ha] at hu
    cases hu
  · rw [hzero] at hr
    exact absurd hrate (Decimal.not_lt.2 hr)

namespace Jobs

variable {actor : String} {batch : Int} {now : Instant}

/-- Books whose rows have their keys and keep the rules. -/
abbrev SoundBook (b : Book) : Prop := b.rows.Keyed ∧ b.rows.Sound

/-- Derivatives are spared, and the rows stay in order. -/
abbrev Spares (b b' : Book) : Prop := b.rows.SparesDerivatives b'.rows ∧ SoundBook b'

/-- Recording a run spares derivatives. -/
theorem spares_writeRecord (e : JobEntry) : Safe SoundBook Spares (writeRecord e now) := by
  refine Safe.bind (safe_bracket (fun _ h => h.1) (fun _ => within_ask _ _) fun tx b hb => ?_)
    fun r => ?_
  · refine Brings.shared_ask fun n hn free j b₁ h₁ last hlast _ => ?_
    obtain ⟨rfl, rfl⟩ := Book.createJob_eq_ok.1 h₁
    exact ⟨.of_eq rfl rfl, hb.1.putJob _, hb.2.of_eq rfl rfl rfl⟩
  · cases r <;> exact safe_done _

/-- A batch claims no derivatives: their loan rate is zero, and does not reach the ceiling. -/
theorem spares_declineBatch {c : Ceiling} (hc : c.Sound) {size : Int} :
    Safe SoundBook Spares (declineBatch c size actor now).run := by
  obtain ⟨body, hbody, hw, hd⟩ := bracket_declineBatch c size actor now
  rw [hbody]
  refine safe_bracket (fun _ h => h.1) hw fun tx b ⟨hk, hs⟩ => (hd tx b hk).mono ?_ fun _ _ h => h
  rintro x ⟨rows', last⟩ hx hkeep
  obtain ⟨hclaimed, rfl, -⟩ := hx hkeep
  refine ⟨Rows.sparesDerivatives_shut hk (fun r hr => ?_) _ _ _,
    (hk.cancel _ _ _ _).setRequests _ _ _, hs.shut _ _ _ _⟩
  obtain ⟨⟨hget, -⟩, hrate⟩ := hclaimed r hr
  exact ⟨hget, (hs.requests _ r hget).not_derivative hc.1 hrate⟩

/-- So do all batches together. -/
theorem spares_declineBatches {c : Ceiling} (hc : c.Sound) {size : Int} :
    ∀ left, Safe SoundBook Spares (declineBatches c size actor now left)
  | 0 => safe_done _
  | left + 1 => by
    refine Safe.bind (spares_declineBatch hc) fun r => ?_
    rcases r with e | ⟨claimed, cancelled⟩
    · exact safe_done _
    · cases claimed with
      | nil => exact safe_done _
      | cons r rs => exact Safe.bind (spares_declineBatches hc left) fun _ => safe_done _

/-- **A run that declines requests spares derivatives**, whatever the size of its batches, and
whatever others do in between that is not committed. -/
theorem spares_decline {rounds : Nat} :
    Safe SoundBook Spares (decline actor batch rounds now) := by
  intro s hs
  -- the ceiling is one that is stored, and so it is sound
  refine Ensures.bind ?_ (safety_bracket
    (P := fun c? : Option Ceiling => ∀ c, c? = some c → c.Sound) (fun _ h => h.1)
    (fun _ => within_ask _ _)
    (fun tx b hb => Brings.shared_ask fun n hn free c? b' h m hm => ?_) hs)
  · intro r t ht
    obtain ⟨hmine, hr⟩ := ht t ((safety SoundBook Spares).refl t)
    rcases r with e | c?
    · exact Safe.bind (spares_writeRecord _) (fun _ => safe_done _) t hmine
    · cases c? with
      | none => exact safe_done _ t hmine
      | some c =>
        refine Safe.bind (spares_declineBatches (hr _ rfl c rfl) rounds) (fun declined => ?_) t hmine
        refine Safe.bind (spares_writeRecord _) fun _ => ?_
        refine Safe.bind (safe_announce _) fun _ => ?_
        exact safe_done _
  · obtain ⟨rfl, rfl⟩ := Prod.mk.inj (Except.ok.inj h)
    exact ⟨fun c hc => hb.2.ceilings c.id c (Store.ceilingAt?_eq_some hb.1 hc).stored, nofun⟩

end Jobs

namespace History

variable {w w' : World} {ws : List World}

/-- A step that is made while requests are declined spares derivatives. -/
theorem sparesDerivatives (h : History (w' :: w :: ws)) {k : Work} (hk : w.work = some k)
    {actor : String} {batch : Int} {rounds : Nat} {now : Instant}
    (ht : k.task = .decline actor batch rounds now) :
    w.store.rows.SparesDerivatives w'.store.rows := by
  have hsafe : Safe Jobs.SoundBook Jobs.Spares (Task.decline actor batch rounds now).program :=
    Safe.bind Jobs.spares_decline fun _ => safe_done _
  rcases h.effect (fun h => ⟨h.sound.1.part.stored.keyed, h.rows_sound⟩) hsafe hk ht with
    hrows | ⟨last, -, hspares, -⟩
  · exact .of_eq (by rw [hrows]) (by rw [hrows])
  · exact hspares

/-- So does the whole of such a run, whatever else is open. -/
theorem sparesDerivatives_run (h : History (w :: ws)) {s : Session} (hs : s.store = w.store)
    (actor : String) (batch : Int) (rounds : Nat) (now : Instant) :
    w.store.rows.SparesDerivatives
      (Session.run (Jobs.decline actor batch rounds now) s).2.store.rows := by
  have hruns := Program.runs_run (Jobs.decline actor batch rounds now) s
  rw [hs] at hruns
  have hfit := h.sound.1.part
  exact Ensures.relates (R := Rows.SparesDerivatives) (fun h _ => h) (fun h _ => h.2)
    (fun _ => .of_eq rfl rfl) .trans (fun h _ => h.1) hruns (Jobs.spares_decline ⟨[], w.store⟩ rfl)
    ⟨hfit.orderly, ⟨hfit.stored.keyed, h.rows_sound⟩, fun _ hm => absurd hm List.not_mem_nil⟩

/-- **The rules hold of every row in every world of a history**, and neither a step of a run that
declines requests nor the whole of it changes a derivative or one of its lines. -/
theorem terms_sound {ws : List World} (h : History ws) :
    (∀ w ∈ ws, w.store.rows.Sound) ∧
    (∀ w w', [w', w] <:+: ws → ∀ k actor batch rounds now, w.work = some k →
      k.task = .decline actor batch rounds now →
        w.store.rows.SparesDerivatives w'.store.rows) ∧
    ∀ w ∈ ws, ∀ s : Session, s.store = w.store → ∀ actor batch rounds now,
      w.store.rows.SparesDerivatives
        (Session.run (Jobs.decline actor batch rounds now) s).2.store.rows := by
  refine ⟨fun w hw => ?_, fun w w' hw k actor batch rounds now hk ht => ?_,
    fun w hw s hs actor batch rounds now => ?_⟩
  · obtain ⟨_, -, hvs⟩ := h.of_mem hw
    exact hvs.rows_sound
  · obtain ⟨after, before, rfl⟩ := hw
    have hsuffix : w' :: w :: before <:+ after ++ [w', w] ++ before := ⟨after, by simp⟩
    exact (h.of_suffix hsuffix).sparesDerivatives hk ht
  · obtain ⟨_, -, hvs⟩ := h.of_mem hw
    exact hvs.sparesDerivatives_run hs actor batch rounds now

end History

namespace Story

/-- Request 2 is opened, for a derivative. -/
def derived : Task := .operate (.openRequest ⟨{
  symbol := 1
  investor := 7
  account := "A1"
  kind := .flexible
  terms := .derivative (decimal 5 2) 3 }⟩) caller now

/-- A line is offered for it. -/
def derivedOffer : Task := .operate (.propose ⟨2, .online, none, .null, [line 10]⟩) caller now

/-- A ceiling at half of the loan rate of request 1. -/
def ceiled : Task := .operate (.addCeiling (decimal 1 1) now) caller now

/-- The tasks before the run. -/
def ceiledDesk : List Task := [ceiled, derivedOffer, derived, opened]

/-- The store after a run with that ceiling. -/
def declined : Store :=
  (Session.run (Jobs.decline "risk" 10 5 now)
    ⟨(World.played ceiledDesk).1, .empty true, []⟩).2.store

/-- A run closes request 1, and finds request 2 and its line as they were. -/
theorem terms_sound_ceiled : (World.played ceiledDesk).1.rows.Sound ∧
    ((World.played ceiledDesk).1.rows.requests.get? 1).map (·.status) = some .pending ∧
    (declined.rows.requests.get? 1).map (·.status) = some .confirmed ∧
    ∃ r, r.asset = .derivative ∧ declined.rows.requests.get? 2 = some r ∧
      declined.rows.lines.filter (·.request == 2) =
        (World.played ceiledDesk).1.rows.lines.filter (·.request == 2) := by
  have hr : ((World.played ceiledDesk).1.rows.requests.get? 2).isSome := by decide +kernel
  have ha : (Option.get _ hr).asset = .derivative := by decide +kernel +revert
  obtain ⟨hsound, -, hrun⟩ := History.terms_sound (World.history_played ceiledDesk)
  have hspares : (World.played ceiledDesk).1.rows.SparesDerivatives declined.rows := by
    rw [declined]
    exact hrun _ List.mem_cons_self ⟨_, .empty true, []⟩ rfl "risk" 10 5 now
  exact ⟨hsound _ List.mem_cons_self, by decide +kernel, by decide +kernel, Option.get _ hr, ha,
    hspares 2 _ (Option.some_get hr).symm ha⟩

end Story
end LoanDesk
