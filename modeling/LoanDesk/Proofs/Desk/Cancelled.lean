/-
# Who cancelled a line

Seven kinds of tasks cancel lines, each with a reason, a name and a time of its own (`Task.stamp?`).
What a deed makes of the lines that were there is one of three things: a line stays as it is, it is
accepted, or it was pending and bears the stamp of the task from then on (`Deed.dealt`).

Numbers of lines are not given out twice. While a task is at work that deletes requests no line is
added, and deeds of later tasks number lines higher than all that were ever stored. So a line that
was final at some time is the same at any later time, or it is gone for good (`History.line_lasts`),
and a line that is cancelled was cancelled in one step of its history (`History.cancelled_once`).
-/

import LoanDesk.Proofs.Desk.Stamps

namespace LoanDesk

/-! ### Stamps of tasks -/

/-- A reason, a name and a time of cancellation. -/
structure Stamp where
  reason : CancelReason
  name : String
  time : Instant

/-- The line cancelled under a stamp. -/
def Stamp.cancel (s : Stamp) (l : Line) : Line := l.cancelled s.name s.reason s.time

/-- The stamp that a task puts on the lines that it cancels, if it cancels any. -/
def Task.stamp? : Task → Option Stamp
  | .operate (.confirm _) caller now => some ⟨.alternativeOption, caller.name, now⟩
  | .operate (.accept _) caller now => some ⟨.alternativeOption, caller.name, now⟩
  | .operate (.cancel c) caller now =>
    some ⟨if c.forInvestor then .investor else .admin, caller.name, now⟩
  | .operate (.decline _) caller now => some ⟨.investor, caller.name, now⟩
  | .operate (.withdraw _) caller now => some ⟨.admin, caller.name, now⟩
  | .expire actor now => some ⟨.expired, actor, now⟩
  | .decline actor _ _ now => some ⟨.highLoanRate, actor, now⟩
  | _ => none

/-- What a task makes of a line that it finds: nothing, or the line is accepted, or it was pending
and bears the stamp of the task. -/
inductive Line.Dealt (t : Task) (l : Line) : Line → Prop
  | same : Dealt t l l
  | accepted {l' : Line} (h : l'.status.isAccepted) : Dealt t l l'
  | cancelled {s : Stamp} (hs : t.stamp? = some s) (hp : l.isPending) : Dealt t l (s.cancel l)

namespace Rows

variable {t : Task} {rows : Rows} {i : Int} {l' : Line}

/-- A line is dealt with by a cancellation of the task: kept, or stamped by it. -/
theorem dealt_cancel {s : Stamp} (hs : t.stamp? = some s) {p : Line → Bool}
    (h : (rows.cancel p s.name s.reason s.time).lines.get? i = some l') :
    ∃ l, rows.lines.get? i = some l ∧ l.Dealt t l' := by
  obtain ⟨l, hl, rfl⟩ := Table.get?_map_eq_some.1 h
  refine ⟨l, hl, ?_⟩
  split
  · rename_i hp
    exact .cancelled hs (Bool.and_eq_true_iff.1 hp).1
  · exact .same

/-- When a line is taken it is accepted, and the others stay or are cancelled. -/
theorem dealt_settle {x : Desk.Held} {status : LineStatus} (ha : status.isAccepted) {by_ : String}
    {now : Instant} (hs : t.stamp? = some ⟨.alternativeOption, by_, now⟩) (l : Line) :
    l.Dealt t (x.settle status by_ now l) := by
  by_cases hi : l.id = x.line.id
  · rw [Desk.Held.settle_self ha hi]
    exact .accepted ha
  · rcases Desk.Held.settle_other hi with he | ⟨hp, -, he⟩
    · rw [he]
      exact .same
    · rw [he]
      exact .cancelled hs hp

/-- Lines change, and the one that was accepted gets its contract. -/
theorem dealt_sign {f : Line → Line} {k : Contract} {now : Instant} (hid : ∀ l, (f l).id = l.id)
    (ha : ∀ l, l.id = k.line → (f l).status.isAccepted) (hf : ∀ l : Line, l.Dealt t (f l))
    (h : (Rows.sign { rows with lines := rows.lines.map f } k now).lines.get? i = some l') :
    ∃ l, rows.lines.get? i = some l ∧ l.Dealt t l' := by
  obtain ⟨m, hm, rfl⟩ := Table.get?_map_eq_some.1 h
  obtain ⟨l, hl, rfl⟩ := Table.get?_map_eq_some.1 hm
  refine ⟨l, hl, ?_⟩
  split
  · rename_i hi
    exact .accepted (ha l (by rw [← hid]; simpa using hi))
  · exact hf l

/-- Lines that are put among others. -/
theorem get?_foldl_putLine : ∀ (ls : List Line) {rows : Rows},
    (ls.foldl putLine rows).lines.get? i = some l' →
      l' ∈ ls ∧ l'.id = i ∨ rows.lines.get? i = some l'
  | [], _, h => Or.inr h
  | l :: ls, rows, h => by
    rcases get?_foldl_putLine ls h with ⟨hmem, hi⟩ | h
    · exact Or.inl ⟨List.mem_cons_of_mem _ hmem, hi⟩
    · rcases Table.get?_insert_eq_some.1 h with ⟨hi, rfl⟩ | ⟨-, h⟩
      · exact Or.inl ⟨List.mem_cons_self, hi⟩
      · exact Or.inr h

end Rows

/-- A drafted line starts open. -/
theorem LineDraft.isPending_of_mem_toLines {offer request : Int} {now : Instant}
    (ds : List LineDraft) (n : Int) : ∀ l ∈ toLines offer request now n ds, l.isPending := by
  intro l hl
  obtain ⟨d, -, id, -, rfl⟩ := of_mem_toLines ds n hl
  rfl

/-- **What deeds make of lines.**  A line that a deed leaves is new, pending and numbered higher than
all before, or it was there and the deed made of it what its task makes of lines. -/
theorem Deed.dealt {t : Task} {b b' : Book} (hd : Deed t b b') {i : Int} {l' : Line}
    (hl' : b'.rows.lines.get? i = some l') :
    b.last < i ∧ l'.isPending ∨ ∃ l, b.rows.lines.get? i = some l ∧ l.Dealt t l' := by
  have hsame : b.rows.lines.get? i = some l' → b.last < i ∧ l'.isPending ∨
      ∃ l, b.rows.lines.get? i = some l ∧ l.Dealt t l' := fun h => Or.inr ⟨l', h, .same⟩
  cases hd with
  | openRequest => exact hsame hl'
  | deleteRequest => exact hsame (Table.get?_filter_eq_some.1 hl').1
  | propose hc hr hp hs ho hl hlast =>
    rcases Rows.get?_foldl_putLine _ hl' with ⟨hmem, hi⟩ | hl'
    · have hle := LineDraft.le_id_of_mem_toLines _ _ l' hmem
      exact Or.inl ⟨by omega, LineDraft.isPending_of_mem_toLines _ _ l' hmem⟩
    · exact hsame hl'
  | @confirm c caller now b x n last hh hc hp hm hk hn hlast =>
    rw [Rows.take_eq] at hl'
    have hs : (Task.operate (.confirm c) caller now).stamp? =
      some ⟨.alternativeOption, caller.name, now⟩ := rfl
    refine Or.inr (Rows.dealt_sign (fun _ => Desk.Held.settle_place.1) (fun l hi => ?_)
      (Rows.dealt_settle rfl hs) hl')
    rw [Desk.Held.settle_self rfl hi]
    rfl
  | @accept caller now b x last hh hs ho hx hp hm hlast =>
    rw [Rows.take_eq] at hl'
    obtain ⟨l, hl, rfl⟩ := Table.get?_map_eq_some.1 hl'
    exact Or.inr ⟨l, hl, Rows.dealt_settle rfl rfl l⟩
  | @createPackage caller now b x n last hh hm hk hn hlast =>
    refine Or.inr (Rows.dealt_sign (f := fun l => if [x.line.id].contains l.id then
      l.withStatus .packageCreated now else l) (fun l => by split <;> rfl) (fun l hi => ?_)
      (fun l => ?_) hl')
    · have hline : l.id = x.line.id := hi
      rw [if_pos (by simpa using hline)]
      rfl
    · split
      · exact .accepted rfl
      · exact .same
  | setGuaranteeEnd => exact hsame hl'
  | cancel => exact Or.inr (Rows.dealt_cancel rfl hl')
  | decline => exact Or.inr (Rows.dealt_cancel rfl hl')
  | withdraw => exact Or.inr (Rows.dealt_cancel rfl hl')
  | addCeiling => exact hsame hl'
  | expire => exact Or.inr (Rows.dealt_cancel rfl hl')
  | declineBatch => exact Or.inr (Rows.dealt_cancel rfl hl')
  | record => exact hsame hl'

/-! ### Numbers that do not come back -/

namespace World

variable {w w' : World} {i : Int} {l : Line}

/-- Rows are linked, and the number was given out. -/
def Past (i : Int) (b : Book) : Prop := b.Linked ∧ i ≤ b.last

/-- A number that was given out stays so. -/
theorem invariant_past (i : Int) : Invariant (Past i) where
  keyed _ h := h.1.keyed
  mono h hn := ⟨h.1.mono hn, Int.le_trans h.2 hn⟩
  keep hd h := ⟨hd.linked h.1, Int.le_trans h.2 hd.last_le⟩

/-- Where nothing is at work all deeds are yet to come. -/
theorem FitFor.past (hw : w.Fit) (hn : w.work = none) (hi : i ≤ w.store.lastId) :
    w.FitFor (Past i) where
  part := ⟨hw.part.orderly, ⟨hw.part.stored, hi⟩, hw.part.isOpen⟩
  safe k hk := by
    rw [hn] at hk
    cases hk

/-- A line is there, or it is gone and does not come back: the task that deleted it is still at work
and adds no lines, or all deeds that follow number lines higher. -/
inductive Trails (i : Int) (l : Line) (w : World) : Prop
  | there (h : w.store.rows.lines.get? i = some l)
  | going (h : w.store.rows.lines.get? i = none) (hi : i ≤ w.store.lastId) {k : Work}
    (hk : w.work = some k) (hno : ¬k.task.Adds)
  | gone (h : w.store.rows.lines.get? i = none) (hw : w.FitFor (Past i))

/-- The line that a world trails is the stored one. -/
theorem Trails.eq (h : w.Trails i l) {l' : Line} (hl' : w.store.rows.lines.get? i = some l') :
    l' = l := by
  rcases h with h | ⟨h, -, -, -⟩ | ⟨h, -⟩ <;> rw [h] at hl'
  · exact (Option.some.inj hl').symm
  · cases hl'
  · cases hl'

/-- A line that is missing after a step of a task that deletes stays away. -/
theorem Step.trails_of_none (hs : w.Step w') (hw : w.Fit)
    (h : w'.store.rows.lines.get? i = none) (hi : i ≤ w.store.lastId) {k : Work}
    (hk : w.work = some k) (hno : ¬k.task.Adds) : w'.Trails i l := by
  have hi' := Int.le_trans hi hs.lastId
  rcases hs.task hk with hnone | ⟨k', hk', htask⟩
  · exact .gone h ((hs.effect invariant_linked hw).1.past hnone hi')
  · exact .going h hi' hk' (by rw [htask]; exact hno)

/-- A final line stays as it is or goes for good. -/
theorem Step.trails (hs : w.Step w') (hw : w.Fit) (hf : l.status.isFinal) (h : w.Trails i l) :
    w'.Trails i l := by
  have heffect := (hs.effect invariant_linked hw).2
  cases h with
  | there h =>
    rcases heffect with hrows | ⟨k, hk, last, hb, hd⟩
    · exact .there (by rw [hrows]; exact h)
    · rcases (hd.evolves hb).lines.kept i l h with ⟨l', hl', hmoves⟩ | ⟨hnone, hremoves⟩
      · exact .there (by rw [← hmoves.final hf]; exact hl')
      · have hno : ¬k.task.Adds := fun ha => ha _ hremoves.deletes
        exact hs.trails_of_none hw hnone (hw.part.stored.lines i l h) hk hno
  | going h hi hk hno =>
    refine hs.trails_of_none hw ?_ hi hk hno
    rcases heffect with hrows | ⟨k', hk', last, hb, hd⟩
    · rw [hrows]
      exact h
    · rw [hk] at hk'
      obtain rfl := Option.some.inj hk'
      cases hl : w'.store.rows.lines.get? i with
      | none => rfl
      | some l' => exact absurd ((hd.evolves hb).lines.added i l' hl h) hno
  | gone h hpast =>
    obtain ⟨hpast', heffect⟩ := hs.effect (invariant_past i) hpast
    refine .gone ?_ hpast'
    rcases heffect with hrows | ⟨k, hk, last, hb, hd⟩
    · rw [hrows]
      exact h
    · cases hl : w'.store.rows.lines.get? i with
      | none => rfl
      | some l' =>
        rcases hd.dealt hl with ⟨hlt, -⟩ | ⟨l₀, hl₀, -⟩
        · exact absurd hb.2 (Int.not_le.2 hlt)
        · rw [h] at hl₀
          cases hl₀

end World

/-- **A line that is final lasts**: at any later time it is the same, if there is a line under its
number at all. -/
theorem History.line_lasts {w : World} {ws : List World} (h : History (w :: ws)) {u : World}
    (hu : u ∈ w :: ws) {i : Int} {l l' : Line} (hl : u.store.rows.lines.get? i = some l)
    (hf : l.status.isFinal) (hl' : w.store.rows.lines.get? i = some l') : l' = l := by
  have htrails : w.Trails i l := by
    clear hl'
    generalize hvs : w :: ws = vs at h
    induction h generalizing w ws with
    | empty =>
      obtain ⟨rfl, rfl⟩ := List.cons.inj hvs
      obtain rfl := List.mem_singleton.1 hu
      exact .there hl
    | @step v v' vs h hs ih =>
      obtain ⟨rfl, rfl⟩ := List.cons.inj hvs
      rcases List.mem_cons.1 hu with rfl | hu
      · exact .there hl
      · exact hs.trails h.sound.1 hf (ih hu rfl)
  exact htrails.eq hl'

/-! ### Histories -/

/-- The task at work cancels a line that is pending, and stamps it. -/
structure World.Strikes (w w' : World) (i : Int) (l : Line) : Prop where
  stamped : ∃ k s l₀, w.work = some k ∧ k.task.stamp? = some s ∧
    w.store.rows.lines.get? i = some l₀ ∧ l₀.isPending ∧ l = s.cancel l₀
  struck : w'.store.rows.lines.get? i = some l

/-- A line that is cancelled after a step was so before it, or the step struck it. -/
theorem World.Step.strikes {w w' : World} (hs : w.Step w') (hw : w.Fit) {i : Int} {l : Line}
    (hl : w'.store.rows.lines.get? i = some l) (hc : l.status = .cancelled) :
    w.store.rows.lines.get? i = some l ∨ w.Strikes w' i l := by
  rcases (hs.effect invariant_linked hw).2 with hrows | ⟨k, hk, last, hb, hd⟩
  · rw [hrows] at hl
    exact Or.inl hl
  · rcases hd.dealt hl with ⟨-, hp⟩ | ⟨l₀, hl₀, hdealt⟩
    · rw [Line.isPending, hc] at hp
      cases hp
    · cases hdealt with
      | same => exact Or.inl hl₀
      | accepted ha =>
        rw [hc] at ha
        cases ha
      | cancelled hstamp hp => exact Or.inr ⟨⟨k, _, l₀, hk, hstamp, hl₀, hp, rfl⟩, hl⟩

/-- **Every line is stamped as cancelled if and only if it is, and was cancelled once.**  It was
cancelled in one step of the history, by the task that was at work: it was pending before, and since
then it bears the reason, the name and the time of that task. In no world before was it cancelled,
and in all worlds after it is the same. -/
theorem History.cancelled_once {w : World} {ws : List World} (h : History (w :: ws)) {i : Int}
    {l : Line} (hl : w.store.rows.lines.get? i = some l) :
    l.Stamped ∧ (l.status = .cancelled → ∃ after v' v before, w :: ws = after ++ v' :: v :: before ∧
      v.Strikes v' i l ∧ (∀ u ∈ after, u.store.rows.lines.get? i = some l) ∧
      ∀ u ∈ v :: before, ∀ m, u.store.rows.lines.get? i = some m → m.status ≠ .cancelled) := by
  refine ⟨h.neat.stamped i l hl, fun hc => ?_⟩
  generalize hvs : w :: ws = vs at h
  induction h generalizing w ws with
  | empty =>
    obtain ⟨rfl, rfl⟩ := List.cons.inj hvs
    cases hl
  | @step v v' vs h hs ih =>
    obtain ⟨rfl, rfl⟩ := List.cons.inj hvs
    rcases hs.strikes h.sound.1 hl hc with hbefore | hstrikes
    · obtain ⟨after, x', x, before, hsplit, hstrikes, hafter, hnone⟩ := ih hbefore rfl
      refine ⟨w :: after, x', x, before, by rw [hsplit]; rfl, hstrikes, fun u hu => ?_, hnone⟩
      rcases List.mem_cons.1 hu with rfl | hu
      · exact hl
      · exact hafter u hu
    · refine ⟨[], w, v, vs, rfl, hstrikes, List.forall_mem_nil _, fun u hu m hm hcancelled => ?_⟩
      obtain ⟨k, s, l₀, -, -, hl₀, hp, -⟩ := hstrikes.stamped
      have hlasts := h.line_lasts hu hm (by rw [hcancelled]; rfl) hl₀
      rw [hlasts, Line.isPending, hcancelled] at hp
      cases hp

namespace Story

/-- Line 5 goes with the acceptance of line 4, and bears its stamp when the package is made. -/
theorem cancelled_once_told : ∃ l, (World.played told).1.rows.lines.get? 5 = some l ∧
    l.status = .cancelled ∧ l.cancelReason = .alternativeOption ∧
      l.cancelledBy = some caller.name ∧ l.cancelledAt = some now ∧
      ∃ after v' v before, World.history told = after ++ v' :: v :: before ∧ v.Strikes v' 5 l := by
  have hl : ((World.played told).1.rows.lines.get? 5).isSome := by decide +kernel
  have hstamps : (Option.get _ hl).status = .cancelled ∧
      (Option.get _ hl).cancelReason = .alternativeOption ∧
      (Option.get _ hl).cancelledBy = some caller.name ∧
      (Option.get _ hl).cancelledAt = some now := by decide +kernel +revert
  have hget := (Option.some_get hl).symm
  obtain ⟨-, hstruck⟩ := History.cancelled_once (World.history_played told) hget
  obtain ⟨hc, hreason, hname, htime⟩ := hstamps
  obtain ⟨after, v', v, before, hsplit, hstrikes, -⟩ := hstruck hc
  exact ⟨_, hget, hc, hreason, hname, htime, after, v', v, before, hsplit, hstrikes⟩

end Story
end LoanDesk
