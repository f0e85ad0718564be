/-
# Histories of the desk

A world is a store at which the desk is at work on one task or on none. A step of a world is one
command of the task, or a command of somebody else: others begin transactions, make calls in them,
take locks and end them as they like, but commit no changes of their own. A history is a sequence of
worlds, each a step after the one before, from the empty store on; the newest comes first.

In every world of a history the rows are linked, and what is stored changes in no step but by a deed
of the task at work (`World.Step.effect`).
-/

import LoanDesk.Proofs.Desk.Jobs
import LoanDesk.Proofs.Desk.Paired

namespace LoanDesk

/-- A task in the middle: its open transactions, and the steps that are left. -/
structure Work where
  task : Task
  mine : List TxId
  rest : Program Unit

/-- A store and the task at work. -/
structure World where
  store : Store
  work : Option Work

/-- The command may come from somebody who commits nothing: calls are made in open transactions, and
a transaction that is committed has no changes. -/
def Command.Idle (s : Store) : Command → Prop
  | .call tx _ => s.IsOpen tx
  | .commit tx => s.changes tx = .none
  | .begin | .drop _ | .deliver _ => True

/-- Who commits nothing changes nothing that is stored. -/
theorem Command.Idle.rows {s t : Store} {c : Command} {x : c.Answer} (hi : c.Idle s)
    (h : s.May c x t) : t.rows = s.rows := by
  rcases h.rows with h | ⟨tx, rfl, rfl⟩
  · exact h
  · change s.rows.overlay (s.changes tx) = _
    rw [show s.changes tx = .none from hi]
    rfl

namespace World

/-- The empty store, and nothing at work. -/
def empty : World := ⟨.empty, none⟩

/-- The open transactions of the task at work. -/
def mine (w : World) : List TxId :=
  match w.work with
  | some k => k.mine
  | none => []

/-- A task is taken up, makes a step or is done, or somebody else makes a step. -/
inductive Step : World → World → Prop
  | start (s : Store) (t : Task) : Step ⟨s, none⟩ ⟨s, some ⟨t, [], t.program⟩⟩
  | act {s s' : Store} {t : Task} {mine : List TxId} {c : Command} {next : c.Answer → Program Unit}
    {x : c.Answer} (h : s.May c x s') :
    Step ⟨s, some ⟨t, mine, .step c next⟩⟩ ⟨s', some ⟨t, c.after mine x, next x⟩⟩
  | finish (s : Store) (t : Task) (mine : List TxId) : Step ⟨s, some ⟨t, mine, .done ()⟩⟩ ⟨s, none⟩
  | stir {w : World} {s : Store} {c : Command} {x : c.Answer} (hf : c.Foreign w.mine)
    (hi : c.Idle w.store) (h : w.store.May c x s) : Step w { w with store := s }

/-- The books satisfy an invariant that does not mind if numbers are missing and that deeds keep. -/
structure Invariant (I : Book → Prop) : Prop where
  keyed : ∀ b, I b → b.rows.Keyed
  mono : ∀ {rows m n}, I ⟨rows, m⟩ → m ≤ n → I ⟨rows, n⟩
  keep : ∀ {t b b'}, Deed t b b' → I b → I b'

/-- Deeds keep the links. -/
theorem invariant_linked : Invariant Book.Linked :=
  ⟨fun _ h => h.keyed, Book.LinkedIn.mono, Deed.linked⟩

/-- What holds of a world all along: what is stored satisfies the invariant, and the task at work is
safe. -/
structure FitFor (I : Book → Prop) (w : World) : Prop where
  part : Program.Part.Fit I ⟨w.mine, w.store⟩
  safe : ∀ k, w.work = some k →
    Program.Ensures (Program.safety I (Deed k.task)) (fun _ t => t.mine = []) k.rest
      ⟨k.mine, w.store⟩

/-- What holds of every world of a history: the rows are linked, and the task at work is safe. -/
abbrev Fit : World → Prop := FitFor Book.Linked

/-- At first nothing is stored, and nobody is at work. -/
theorem fit_empty : Fit empty where
  part := ⟨Store.orderly_empty, Book.linked_empty, fun _ hm => absurd hm List.not_mem_nil⟩
  safe k hk := by cases hk

/-- A step changes what is stored by a deed of the task at work, if at all. -/
def EffectOn (I : Book → Prop) (w w' : World) : Prop :=
  w'.store.rows = w.store.rows ∨ ∃ k, w.work = some k ∧
    Program.Effect I (Deed k.task) w.store w'.store

/-- What is stored satisfies the invariant after a step. -/
theorem EffectOn.stored {I : Book → Prop} (hI : Invariant I) {w w' : World} (h : EffectOn I w w')
    (hw : I w.store.stored) (hlast : w.store.lastId ≤ w'.store.lastId) : I w'.store.stored := by
  rcases h with h | ⟨k, -, last, hb, hd⟩
  · have hmono := hI.mono hw hlast
    rw [← h] at hmono
    exact hmono
  · exact hI.keep hd hb

/-- **What a step does**, and that worlds stay fit. -/
theorem Step.effect {I : Book → Prop} (hI : Invariant I) {w w' : World} (h : w.Step w')
    (hw : w.FitFor I) : w'.FitFor I ∧ EffectOn I w w' := by
  cases h with
  | start s t =>
    refine ⟨⟨hw.part, fun k hk => ?_⟩, Or.inl rfl⟩
    cases hk
    exact t.safe_program hI.keyed _ rfl
  | finish s t mine =>
    refine ⟨⟨⟨hw.part.orderly, hw.part.stored, fun _ hm => absurd hm List.not_mem_nil⟩,
      fun k hk => ?_⟩, Or.inl rfl⟩
    cases hk
  | @act s s' t mine c next x h =>
    obtain ⟨hpart, heffect, hnext⟩ := (hw.safe _ rfl).advance hI.mono hI.keep hw.part h
    refine ⟨⟨hpart, fun k hk => ?_⟩, heffect.imp_right fun he => ⟨_, rfl, he⟩⟩
    cases hk
    exact hnext
  | @stir _ s c x hf hi h =>
    have hrows : s.rows = w.store.rows := hi.rows h
    have hapart := h.apart hw.part.orderly hw.part.isOpen hf
    have heff : EffectOn I w { w with store := s } := Or.inl hrows
    refine ⟨⟨⟨h.orderly hw.part.orderly fun tx d hc => ?_,
      heff.stored hI hw.part.stored h.lastId, ?_⟩, fun k hk => ?_⟩, heff⟩
    · subst hc
      exact hi
    · exact fun tx hm => hapart.isOpen hm (hw.part.isOpen tx hm)
    · refine (hw.safe k hk).others ⟨rfl, ?_, hrows⟩
      have hmine : w.mine = k.mine := by
        rw [mine, show w.work = some k from hk]
      rw [← hmine]
      exact hapart

/-- Whoever is at work is at the same task after a step, or done. -/
theorem Step.task {w w' : World} (h : w.Step w') {k : Work} (hk : w.work = some k) :
    w'.work = none ∨ ∃ k', w'.work = some k' ∧ k'.task = k.task := by
  cases h with
  | start => cases hk
  | act => exact Or.inr ⟨_, rfl, by rw [← Option.some.inj hk]⟩
  | finish => exact Or.inl rfl
  | stir => exact Or.inr ⟨k, hk, rfl⟩

/-- Numbers are not given back. -/
theorem Step.lastId {w w' : World} (h : w.Step w') : w.store.lastId ≤ w'.store.lastId := by
  cases h with
  | start | finish => exact Int.le_refl _
  | act h | stir _ _ h => exact h.lastId

end World

/-- Worlds one after another, the newest first. -/
inductive History : List World → Prop
  | empty : History [.empty]
  | step {w w' : World} {ws : List World} (h : History (w :: ws)) (hs : w.Step w') :
    History (w' :: w :: ws)

/-- **A session makes history** when a task is run in it, whatever fails on the way. -/
theorem History.run {t : Task} : ∀ (p : Program Unit) {s : Session} {mine : List TxId}
    {ws : List World}, History (⟨s.store, some ⟨t, mine, p⟩⟩ :: ws) →
      ∃ ws', History (⟨(Session.run p s).2.store, none⟩ :: ws') ∧ ws <:+ ws'
  | .done (), s, mine, ws, h => ⟨_, h.step (.finish s.store t mine), List.suffix_cons _ _⟩
  | .step c next, s, mine, ws, h => by
    obtain ⟨ws', hws, hsuffix⟩ := History.run (next (Session.handle c s).1)
      (s := (Session.handle c s).2) (h.step (.act (s.handle_may c)))
    exact ⟨ws', hws, (List.suffix_cons _ _).trans hsuffix⟩

/-- Somebody begins a transaction, makes a call in it and leaves it open. -/
def Store.engage (s : Store) (c : Call) : Store := (s.begin.2.perform s.begin.1 c).2

/-- Somebody else may leave a transaction open at any time. -/
theorem History.engage {s : Store} {ws : List World} (h : History (⟨s, none⟩ :: ws)) (c : Call) :
    History (⟨s.engage c, none⟩ :: ⟨s.begin.2, none⟩ :: ⟨s, none⟩ :: ws) := by
  have hbegun := h.step (.stir (w := ⟨s, none⟩) (c := .begin) trivial trivial
    (Or.inl (s.does_answer .begin)))
  refine hbegun.step (.stir (w := ⟨s.begin.2, none⟩) (c := .call s.begin.1 c) List.not_mem_nil ?_
    (Or.inl (s.begin.2.does_answer _)))
  exact (Store.isOpen_begin s _).2 (Or.inl rfl)

/-! ### Tasks one after another -/

/-- Tasks are run one after another, each to its end. -/
def Session.runTasks (s : Session) (order : List Task) : Session :=
  order.foldl (fun s t => (run t.program s).2) s

namespace World

/-- The steps that are left of a task, made without anybody else: the store when it is done, and the
worlds before. -/
def finished (t : Task) : List TxId → Program Unit → Store → List World → Store × List World
  | mine, .done (), s, ws => (s, ⟨s, some ⟨t, mine, .done ()⟩⟩ :: ws)
  | mine, .step c next, s, ws =>
    finished t (c.after mine (s.answer c).1) (next (s.answer c).1) (s.answer c).2
      (⟨s, some ⟨t, mine, .step c next⟩⟩ :: ws)

/-- Tasks taken up one after another, the last of them first in the list. -/
def played : List Task → Store × List World
  | [] => (.empty, [])
  | t :: ts => finished t [] t.program (played ts).1 (⟨(played ts).1, none⟩ :: (played ts).2)

/-- The worlds of tasks taken up one after another. -/
def history (ts : List Task) : List World := ⟨(played ts).1, none⟩ :: (played ts).2

/-- A task run to its end makes a history. -/
theorem history_finished (t : Task) : ∀ (mine : List TxId) (p : Program Unit) (s : Store)
    (ws : List World), History (⟨s, some ⟨t, mine, p⟩⟩ :: ws) →
      History (⟨(finished t mine p s ws).1, none⟩ :: (finished t mine p s ws).2)
  | mine, .done (), s, _, h => h.step (.finish s t mine)
  | _, .step c _, s, _, h =>
    history_finished t _ _ (s.answer c).2 (_ :: _) (h.step (.act (Or.inl (s.does_answer c))))

/-- So do tasks one after another. -/
theorem history_played : ∀ ts, History (history ts)
  | [] => .empty
  | t :: ts => history_finished t _ _ _ _ ((history_played ts).step (.start _ t))

/-- What was so before a task is part of its history. -/
theorem suffix_finished (t : Task) : ∀ (mine : List TxId) (p : Program Unit) (s : Store)
    (ws : List World), ws <:+ (finished t mine p s ws).2
  | _, .done (), _, _ => List.suffix_cons _ _
  | _, .step _ _, _, ws => (List.suffix_cons _ ws).trans (suffix_finished t _ _ _ _)

/-- What was so after the first tasks is part of the history of more of them. -/
theorem suffix_history (t : Task) (ts : List Task) : history ts <:+ history (t :: ts) :=
  (suffix_finished t _ _ _ _).trans (List.suffix_cons _ _)

/-- The worlds of a task taken up after others, from the one in which it is taken up on. -/
def turn (t : Task) (ts : List Task) : List World :=
  let x := finished t [] t.program (played ts).1 [⟨(played ts).1, none⟩]
  ⟨x.1, none⟩ :: x.2

/-- What was so before does not matter for the steps of a task. -/
theorem finished_append (t : Task) (before : List World) : ∀ (mine : List TxId) (p : Program Unit)
    (s : Store) (ws : List World), finished t mine p s (ws ++ before) =
      ((finished t mine p s ws).1, (finished t mine p s ws).2 ++ before)
  | _, .done (), _, _ => rfl
  | _, .step c _, s, _ => finished_append t before _ _ (s.answer c).2 (_ :: _)

/-- The worlds of a task are a stretch of the history. -/
theorem turn_infix (t : Task) (ts : List Task) : turn t ts <:+: history (t :: ts) := by
  have hsplit := finished_append t (played ts).2 [] t.program (played ts).1 [⟨(played ts).1, none⟩]
  have hhistory : history (t :: ts) = turn t ts ++ (played ts).2 := by
    change (⟨(finished t [] t.program _ ([_] ++ _)).1, none⟩ ::
      (finished t [] t.program _ ([_] ++ _)).2 : List World) = _
    rw [hsplit]
    rfl
  rw [hhistory]
  exact (List.prefix_append _ _).isInfix

/-- In the worlds of a task that task is at work. -/
theorem task_of_mem_finished (t : Task) : ∀ (mine : List TxId) (p : Program Unit) (s : Store)
    (ws : List World), ∀ v ∈ (finished t mine p s ws).2, v ∈ ws ∨ ∃ mine p, v.work = some ⟨t, mine, p⟩
  | _, .done (), _, _, v, hv => by
    rcases List.mem_cons.1 hv with rfl | hv
    · exact Or.inr ⟨_, _, rfl⟩
    · exact Or.inl hv
  | _, .step c _, s, _, v, hv => by
    rcases task_of_mem_finished t _ _ (s.answer c).2 (_ :: _) v hv with hv | hv
    · rcases List.mem_cons.1 hv with rfl | hv
      · exact Or.inr ⟨_, _, rfl⟩
      · exact Or.inl hv
    · exact Or.inr hv

/-- Whoever is at work in a turn is at its task. -/
theorem task_of_mem_turn {t : Task} {ts : List Task} :
    ∀ v ∈ turn t ts, ∀ k, v.work = some k → k.task = t := by
  intro v hv k hk
  rcases List.mem_cons.1 hv with rfl | hv
  · cases hk
  · rcases task_of_mem_finished t _ _ _ _ v hv with hv | ⟨mine, p, hw⟩
    · obtain rfl := List.mem_singleton.1 hv
      cases hk
    · rw [hw] at hk
      obtain rfl := Option.some.inj hk
      rfl

/-- Whoever is at work in a history is at one of its tasks. -/
theorem task_of_mem_history : ∀ {ts : List Task} {v : World} {k : Work}, v ∈ history ts →
    v.work = some k → k.task ∈ ts
  | [], v, k, hv, hk => by
    obtain rfl := List.mem_singleton.1 hv
    cases hk
  | t :: ts, v, k, hv, hk => by
    rcases List.mem_cons.1 hv with rfl | hv
    · cases hk
    · rcases task_of_mem_finished t _ _ _ _ v hv with hv | ⟨mine, p, hw⟩
      · exact List.mem_cons_of_mem _ (task_of_mem_history hv hk)
      · rw [hw] at hk
        obtain rfl := Option.some.inj hk
        exact List.mem_cons_self

/-- The turn starts where the tasks before it ended. -/
theorem mem_turn (t : Task) (ts : List Task) : ⟨(played ts).1, none⟩ ∈ turn t ts :=
  List.mem_cons_of_mem _ ((suffix_finished t _ _ _ _).subset List.mem_cons_self)

end World
end LoanDesk
