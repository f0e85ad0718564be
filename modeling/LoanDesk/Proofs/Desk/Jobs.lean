/-
# The jobs are safe

A run of a job is a row of brackets, each with a deed of its own: the lines of an expired offer are
cancelled, a batch of requests is closed, a record is written. Where a bracket fails the run goes on
or ends, with what was committed before. With the actions of the desk this makes every task safe
(`safe_program`).

Only a run that declines requests has something to tell, and it does so last. The requests were open
when the run began: a batch claims open ones, and those of a later batch were open before the earlier
ones too (`told_decline`).
-/

import LoanDesk.Proofs.Desk.Order

namespace LoanDesk
namespace Jobs

open Program

variable {I : Book → Prop} {t : Task} {actor : String} {batch : Int} {now : Instant}

/-- Recording a run does a deed of the run. -/
theorem safe_writeRecord (hI : ∀ b, I b → b.rows.Keyed) (ht : t.IsJob) (e : JobEntry) :
    Safe I (Deed t) (writeRecord e now) := by
  refine Safe.bind (safe_bracket hI (fun _ => within_ask _ _) fun tx b hb => ?_) fun r => ?_
  · refine Brings.shared_ask fun n hn free j b₁ h₁ last hlast _ => ?_
    obtain ⟨rfl, rfl⟩ := Book.createJob_eq_ok.1 h₁
    exact .record ht (Int.lt_add_one_of_le hn) hlast
  · cases r <;> exact safe_done _

/-- Expiring lines does one deed of its run. -/
theorem safe_expireLines (hI : ∀ b, I b → b.rows.Keyed) :
    Safe I (Deed (.expire actor now)) (expireLines actor now).run := by
  refine safe_bracket hI (fun tx => ?_) fun tx b hb => ?_
  · refine (within_ask _ _).bind fun _ => ?_
    refine (within_ask _ _).bind fun _ => ?_
    exact within_pure _
  · refine Brings.shared_ask_bind fun n hn free os b₁ h₁ => ?_
    obtain ⟨rfl, rfl⟩ := Book.expiredOffers_eq_ok.1 h₁
    refine Brings.shared_ask_bind fun n₂ hn₂ free₂ _ b₂ h₂ => ?_
    obtain ⟨-, -, rfl⟩ := Book.cancelWhere_eq_ok.1 h₂
    refine Brings.pure fun ⟨rows', last⟩ ⟨hrows, hlast⟩ _ => ?_
    dsimp only at hn hn₂ hlast
    subst hrows
    exact .expire (by omega)

/-- A run that expires offers does deeds of its own only. -/
theorem safe_expire (hI : ∀ b, I b → b.rows.Keyed) :
    Safe I (Deed (.expire actor now)) (expire actor now) := by
  have hrecord (e : JobEntry) : Safe I (Deed (.expire actor now)) (writeRecord e now) :=
    safe_writeRecord (t := .expire actor now) hI trivial e
  refine Safe.bind (safe_expireLines hI) fun r => ?_
  cases r with
  | error e => exact Safe.bind (hrecord _) fun _ => safe_done _
  | ok x =>
    obtain ⟨offers, cancelled⟩ := x
    dsimp only
    split
    · exact safe_done _
    · exact Safe.bind (hrecord _) fun _ => safe_done _

/-- A batch is one bracket, kept if it claims anything: the requests that it claims are open and
their rate reaches the ceiling, and it closes them. -/
theorem bracket_declineBatch (c : Ceiling) (size : Int) (actor : String) (now : Instant) :
    ∃ body, declineBatch c size actor now = bracket id (fun x => !x.1.isEmpty) body ∧
      (∀ tx, Within tx (body tx)) ∧ ∀ tx b, b.rows.Keyed → Brings Book.shared
        (fun x b' => !x.1.isEmpty → (∀ r ∈ x.1, b.rows.HasOpen r ∧ c.maximumRate ≤ r.loanRate) ∧
          b'.rows = b.rows.shut (x.1.map (·.id)) actor .highLoanRate now ∧ b.last ≤ b'.last)
        (fun _ _ => True) (body tx) b := by
  refine ⟨_, rfl, fun tx => ?_, fun tx b hk => ?_⟩
  · refine (within_ask _ _).bind fun claimed => ?_
    split
    · exact within_pure _
    · refine (within_ask _ _).bind fun _ => ?_
      refine (within_ask _ _).bind fun _ => ?_
      exact within_pure _
  · refine Brings.shared_ask_bind fun n hn free rs b₁ h₁ => ?_
    obtain ⟨hrs, rfl⟩ := Book.claimAboveRate_eq_ok.1 h₁
    split
    · exact Brings.pure fun _ _ hkeep => by simp at hkeep
    · refine Brings.shared_ask_bind fun n₂ hn₂ free₂ _ b₂ h₂ => ?_
      obtain ⟨-, -, rfl⟩ := Book.cancelWhere_eq_ok.1 h₂
      refine Brings.shared_ask_bind fun n₃ hn₃ free₃ _ b₃ h₃ => ?_
      obtain ⟨-, -, rfl⟩ := Book.setRequestStatuses_eq_ok.1 h₃
      refine Brings.pure fun b' ⟨hrows, hlast⟩ _ => ⟨fun r hr => ?_, hrows, ?_⟩
      · rw [hrs] at hr
        obtain ⟨hmem, hpend, hrate, -⟩ := Book.mem_claimable.1 (List.mem_of_mem_take hr)
        exact ⟨⟨hk.requests.mem_values.1 hmem, hpend⟩, by simpa using hrate⟩
      · dsimp only at hn hn₂ hn₃ hlast
        omega

/-- A batch of a run that declines requests does one deed of the run. -/
theorem safe_declineBatch (hI : ∀ b, I b → b.rows.Keyed) (c : Ceiling) {size : Int} {rounds : Nat} :
    Safe I (Deed (.decline actor batch rounds now)) (declineBatch c size actor now).run := by
  obtain ⟨body, hbody, hw, hd⟩ := bracket_declineBatch c size actor now
  rw [hbody]
  refine safe_bracket hI hw fun tx b hb => ?_
  refine (hd tx b (hI b hb)).mono ?_ fun _ _ h => h
  rintro x ⟨rows', last⟩ hx hkeep
  obtain ⟨hclaimed, rfl, hlast⟩ := hx hkeep
  exact .declineBatch (fun r hr => and_assoc.1 (hclaimed r hr)) hlast

/-- All batches together do deeds of the run only. -/
theorem safe_declineBatches (hI : ∀ b, I b → b.rows.Keyed) (c : Ceiling) {size : Int}
    {rounds : Nat} : ∀ left, Safe I (Deed (.decline actor batch rounds now))
      (declineBatches c size actor now left)
  | 0 => safe_done _
  | left + 1 => by
    refine Safe.bind (safe_declineBatch hI c) fun r => ?_
    rcases r with e | ⟨claimed, cancelled⟩
    · exact safe_done _
    · cases claimed with
      | nil => exact safe_done _
      | cons r rs => exact Safe.bind (safe_declineBatches hI c left) fun _ => safe_done _

/-- Announcements do not touch the rows. -/
theorem safe_announce {D : Book → Book → Prop} : ∀ rs, Safe I D (announce rs)
  | [] => safe_done _
  | _ :: rs => Safe.bind (safe_deliver _) fun _ => safe_announce rs

/-- A run that declines requests does deeds of its own only. -/
theorem safe_decline (hI : ∀ b, I b → b.rows.Keyed) {rounds : Nat} :
    Safe I (Deed (.decline actor batch rounds now)) (decline actor batch rounds now) := by
  have hrecord (e : JobEntry) :
      Safe I (Deed (.decline actor batch rounds now)) (writeRecord e now) :=
    safe_writeRecord (t := .decline actor batch rounds now) hI trivial e
  have hceiling : Safe I (Deed (.decline actor batch rounds now)) (Program.bracket id
      (fun _ => false) fun tx => ask tx (.currentCeiling now) : Work (Option Ceiling)).run :=
    safe_of_quiet (tidy_bracket fun tx _ => (within_ask _ _).tidy List.mem_cons_self)
      (quiet_bracket fun tx => (within_ask _ _).quiet)
  refine Safe.bind hceiling fun r => ?_
  rcases r with e | c?
  · exact Safe.bind (hrecord _) fun _ => safe_done _
  · cases c? with
    | none => exact safe_done _
    | some c =>
      refine Safe.bind (safe_declineBatches hI c rounds) fun _ => ?_
      refine Safe.bind (hrecord _) fun _ => ?_
      refine Safe.bind (safe_announce _) fun _ => ?_
      exact safe_done _

/-! ### What runs of the jobs tell -/

/-- Recording a run tells nobody. -/
theorem silent_writeRecord (e : JobEntry) : Silent (writeRecord e now) := by
  refine Silent.bind (fun r => ?_) (silent_bracket fun tx => (within_ask _ _).quiet)
  cases r <;> exact silent_done _

/-- Expiring lines tells nobody. -/
theorem silent_expireLines : Silent (expireLines actor now).run := by
  refine silent_bracket fun tx => ?_
  refine @WithinRun.quiet _ _ tx _ ?_
  refine (within_ask _ _).bind fun offers => ?_
  refine (within_ask _ _).bind fun cancelled => ?_
  exact within_pure _

/-- A run that expires offers tells nobody. -/
theorem silent_expire : Silent (expire actor now) := by
  refine Silent.bind (fun r => ?_) silent_expireLines
  cases r with
  | error e => exact Silent.bind (fun _ => silent_done _) (silent_writeRecord _)
  | ok x =>
    obtain ⟨offers, cancelled⟩ := x
    dsimp only
    split
    · exact silent_done _
    · exact Silent.bind (fun _ => silent_done _) (silent_writeRecord _)

/-- Declining requests in batches tells nobody: that comes later. -/
theorem silent_declineBatches (c : Ceiling) {size : Int} :
    ∀ left, Silent (declineBatches c size actor now left)
  | 0 => silent_done _
  | left + 1 => by
    obtain ⟨body, hbody, hw, -⟩ := bracket_declineBatch c size actor now
    rw [declineBatches, hbody]
    refine Silent.bind (fun r => ?_) (silent_bracket fun tx => (hw tx).quiet)
    rcases r with e | ⟨claimed, cancelled⟩
    · exact silent_done _
    · cases claimed with
      | nil => exact silent_done _
      | cons r rs => exact Silent.bind (fun _ => silent_done _) (silent_declineBatches c left)

/-- The requests of all batches were open before the first of them. -/
theorem open_declineBatches (c : Ceiling) {size : Int} : ∀ {left : Nat} {s t : Store}
    {es : List Event} {d : Declined}, Runs (declineBatches c size actor now left) s es d t →
      s.rows.Keyed → ∀ r ∈ d.requests, s.rows.HasOpen r
  | 0, s, t, es, d, h, _ => by
    cases h
    exact List.forall_mem_nil _
  | left + 1, s, t, es, d, h, hk => by
    obtain ⟨body, hbody, hw, hd⟩ := bracket_declineBatch c size actor now
    rw [declineBatches, hbody] at h
    obtain ⟨_, _, x, u, h₁, h₂, -⟩ := runs_bind h
    rcases x with e | ⟨claimed, cancelled⟩
    · cases h₂
      exact List.forall_mem_nil _
    cases claimed with
    | nil =>
      cases h₂
      exact List.forall_mem_nil _
    | cons r₀ rs =>
      obtain ⟨-, b, hb, hrows⟩ := h₁.bracket hk hw fun tx => hd tx s.stored hk
      obtain ⟨hclaimed, hshut, -⟩ := hb rfl
      obtain ⟨_, _, rest, v, h₃, h₄, -⟩ := runs_bind h₂
      cases h₄
      rw [if_pos (by rfl), hshut] at hrows
      have hku : u.rows.Keyed := by
        rw [hrows]
        exact (hk.cancel _ _ _ _).setRequests _ _ _
      intro r hr
      rcases List.mem_append.1 hr with hr | hr
      · exact (hclaimed r hr).1
      · have hopen := open_declineBatches c h₃ hku r hr
        rw [hrows] at hopen
        exact hopen.of_shut

/-- Every request is told to be declined for its high rate. -/
theorem told_announce : ∀ {rs : List Request} {s t : Store} {es : List Event},
    Runs (announce rs) s es () t → es = rs.map fun r => .requestDeclined (.of r) .highLoanRate
  | [], s, t, es, h => by
    cases h
    rfl
  | r :: rs, s, t, es, h => by
    obtain ⟨es₁, es₂, x, u, h₁, h₂, rfl⟩ := runs_bind h
    rw [told_announce h₂]
    cases h₁ with
    | @step _ _ _ _ _ y _ _ hmay h₁ => cases y <;> cases h₁ <;> rfl

/-- **A run that declines requests tells of those that were open when it began.** -/
theorem told_decline {rounds : Nat} {s t : Store} {es : List Event} {report : JobReport}
    (h : Runs (decline actor batch rounds now) s es report t) (hk : s.rows.Keyed) :
    ∃ rs : List Request, es = rs.map (fun r => .requestDeclined (.of r) .highLoanRate) ∧
      ∀ r ∈ rs, s.rows.HasOpen r := by
  obtain ⟨es₁, es₂, x, u, h₁, h₂, rfl⟩ := runs_bind h
  obtain ⟨hu, rfl⟩ := Quiet.runs h₁ (quiet_bracket fun tx => (within_ask _ _).quiet)
  rcases x with e | c?
  · exact ⟨[], h₂.silent (Silent.bind (fun _ => silent_done _) (silent_writeRecord _)),
      List.forall_mem_nil _⟩
  cases c? with
  | none =>
    cases h₂
    exact ⟨[], rfl, List.forall_mem_nil _⟩
  | some c =>
    obtain ⟨es₃, es₄, declined, v, h₃, h₄, rfl⟩ := runs_bind h₂
    obtain ⟨es₅, es₆, record, w, h₅, h₆, rfl⟩ := runs_bind h₄
    obtain ⟨es₇, es₈, _, w', h₇, h₈, rfl⟩ := runs_bind h₆
    cases h₈
    refine ⟨declined.requests, ?_, ?_⟩
    · rw [h₃.silent (silent_declineBatches c rounds), h₅.silent (silent_writeRecord _),
        told_announce h₇, List.append_nil]
      rfl
    · rw [← hu] at hk ⊢
      exact open_declineBatches c h₃ hk

end Jobs

/-- **Every task is safe**: beside others it changes what is stored by its deeds only. -/
theorem Task.safe_program {I : Book → Prop} (hI : ∀ b, I b → b.rows.Keyed) (t : Task) :
    Program.Safe I (Deed t) t.program := by
  cases t with
  | operate o caller now =>
    exact ((Desk.ordered_action o caller now).safe hI).bind fun _ => Program.safe_done _
  | expire actor now => exact (Jobs.safe_expire hI).bind fun _ => Program.safe_done _
  | decline actor batch rounds now => exact (Jobs.safe_decline hI).bind fun _ => Program.safe_done _

end LoanDesk
