/-
# What a failed call leaves behind

A call of one transaction that fails takes no step back. Most calls fail before they change anything.
But statements over many rows write one row after another, and where such a statement meets a row
that somebody else holds, the rows before it stay staged and locked: its *residue*. And a deletion
that finds a line of its request locked keeps the request.

`Store.Reached.failed_call` says exactly what is left, and when anything is.
-/

import LoanDesk.Proofs.Store.Residue.Undone

namespace LoanDesk
namespace Store

variable {tx : TxId} {s t : Store}

/-- A call that fails only before it changes anything leaves nothing and keeps nothing. -/
theorem aftermath_of_undone {c : Call} (hr : s.residue tx c = []) (hg : s.grip tx c = [])
    (h : Undone tx s (act tx c)) {e : StoreError} (hp : act tx c s = (.error e, t)) :
    Aftermath tx s c t := by
  refine ⟨?_, fun hne => absurd hr hne, fun hne => absurd hg hne⟩
  rw [hr, hg]
  exact h e t hp

/-- **Every call that fails leaves its residue and keeps its grip.** -/
theorem aftermath (h : s.Numbered) {c : Call} {e : StoreError} (hp : act tx c s = (.error e, t)) :
    Aftermath tx s c t := by
  cases c with
  | createRequest d now =>
    obtain ⟨r, hr⟩ := createRequest_ok h tx d now
    exact aftermath_of_undone rfl rfl (undone_of_ok hr) hp
  | getRequest id => exact aftermath_of_undone rfl rfl (Undone.asks (undone_orError _ _)) hp
  | lockRequest id mode =>
    refine aftermath_of_undone rfl rfl (undone_request fun _ => ?_) hp
    exact (undone_lockOr _ _).bind_sure fun _ => sure_pure _
  | setRequestStatus id status now =>
    exact aftermath_of_undone rfl rfl (undone_request fun _ => undone_writeRequest _) hp
  | setRequestStatuses ids status now =>
    exact aftermath_of_writes rfl (setRequestStatuses_eq ids status now s) hp
  | listRequests f page => exact aftermath_of_undone rfl rfl (sure_asks _).undone hp
  | countRequests f => exact aftermath_of_undone rfl rfl (sure_asks _).undone hp
  | claimAboveRate rate limit =>
    exact aftermath_of_undone rfl rfl (Undone.asks (sure_claim _ _).undone) hp
  | claimBySymbol symbol => exact aftermath_of_undone rfl rfl (Undone.asks (sure_claim _ _).undone) hp
  | deleteRequest id => exact aftermath_deleteRequest hp
  | createOffer d now =>
    exact aftermath_of_undone rfl rfl (undone_request fun _ => sure_create.undone) hp
  | createLines offer req ds now =>
    obtain ⟨ls, hls⟩ := createLines_ok tx offer req now ds h
    exact aftermath_of_undone rfl rfl (undone_of_ok hls) hp
  | offerWithRequest id =>
    refine aftermath_of_undone rfl rfl (Undone.asks (undone_orError_bind _ fun _ => ?_)) hp
    exact undone_request fun _ => (sure_pure _).undone
  | offersOfRequest id => exact aftermath_of_undone rfl rfl (sure_asks _).undone hp
  | offersOfInvestor id => exact aftermath_of_undone rfl rfl (sure_asks _).undone hp
  | getLine id => exact aftermath_of_undone rfl rfl (Undone.asks (undone_orError _ _)) hp
  | linesOfRequests ids => exact aftermath_of_undone rfl rfl (sure_asks _).undone hp
  | expiredOffers now => exact aftermath_of_undone rfl rfl (sure_asks _).undone hp
  | lockLinesOfOffer offer => exact aftermath_of_undone rfl rfl (undone_lockLinesOfOffer offer) hp
  | cancelByOffer offer by_ reason now =>
    exact aftermath_of_writes rfl (cancelWhere_eq _ by_ reason now s) hp
  | cancelExpired offers by_ now => exact aftermath_of_writes rfl (cancelWhere_eq _ by_ _ now s) hp
  | cancelLines ids by_ reason now =>
    exact aftermath_of_writes rfl (cancelWhere_eq _ by_ reason now s) hp
  | cancelByRequests ids by_ reason now =>
    exact aftermath_of_writes rfl (cancelWhere_eq _ by_ reason now s) hp
  | setLineStatuses ids status now =>
    exact aftermath_of_writes rfl (setLineStatuses_eq ids status now s) hp
  | attachContract line contract now =>
    refine aftermath_of_undone rfl rfl (Undone.asks (undone_orError_bind _ fun _ => ?_)) hp
    exact undone_writeLine _
  | createSheet req by_ terms now =>
    exact aftermath_of_undone rfl rfl (undone_request fun _ => sure_create.undone) hp
  | createContract d now => exact aftermath_of_undone rfl rfl (undone_createContract d now) hp
  | getContract id => exact aftermath_of_undone rfl rfl (Undone.asks (undone_orError _ _)) hp
  | contractOfLine line => exact aftermath_of_undone rfl rfl (sure_asks _).undone hp
  | setGuaranteeEnd id at_ =>
    refine aftermath_of_undone rfl rfl (Undone.asks (undone_orError_bind _ fun _ => ?_)) hp
    exact ((sure_stages _).bind fun _ => sure_pure _).undone
  | currentCeiling now => exact aftermath_of_undone rfl rfl (sure_asks _).undone hp
  | createCeiling rate affectedFrom now => exact aftermath_of_undone rfl rfl sure_create.undone hp
  | createJob entry now => exact aftermath_of_undone rfl rfl sure_create.undone hp
  | listJobs kind limit => exact aftermath_of_undone rfl rfl (sure_asks _).undone hp

/-- A row is not free if somebody else holds it. -/
theorem isFree_eq_false_iff {l : Locks} {key : RowKey} :
    l.isFree tx key = false ↔ ∃ other, other ≠ tx ∧ l.holder? key = some other := by
  rw [Locks.isFree]
  cases l.holder? key with
  | none => simp
  | some holder => simp

/-- **What a failed call leaves behind.**  In a store that comes about, with any transactions open,
a call that fails changes nothing that is stored. Its transaction sees what it saw before, with the
residue of the call over it, which is what its commit would publish; and it holds the locks that it
held and those of the call's grip. There is a residue only where a statement over many rows met a row
that somebody else holds after others that were free. Where there is none, locks were taken only by
a deletion that found a line of its request in other hands. -/
theorem Reached.failed_call {s t : Store} (h : s.Reached) {c : Call} {e : StoreError}
    (hp : s.perform tx c = (.error e, t)) :
    t.rows = s.rows ∧
    t.view tx = (s.residue tx c).foldl Rows.put (s.view tx) ∧
    (∀ key, t.locks.holder? key =
      if key ∈ s.grip tx c then some tx else s.locks.holder? key) ∧
    (s.residue tx c ≠ [] → ∃ x rest other,
      c.targets (s.view tx) = s.residue tx c ++ x :: rest ∧
      other ≠ tx ∧ s.locks.holder? (.of x) = some other) ∧
    (s.residue tx c = [] → s.grip tx c ≠ [] → ∃ id l other, c = .deleteRequest id ∧
      l ∈ (s.view tx).lines.values ∧ l.request = id ∧
      other ≠ tx ∧ s.locks.holder? (.line l.id) = some other) := by
  have hafter := aftermath h.numbered hp
  have hrows : t.rows = s.rows := by
    rw [← rows_perform s tx c, hp]
  refine ⟨hrows, ?_, hafter.leaves.locks, fun hne => ?_, fun hnil hne => ?_⟩
  · rw [view, hafter.leaves.changes, hrows, Rows.overlay_foldl_put]
    rfl
  · obtain ⟨x, rest, htargets, hbusy⟩ := hafter.written hne
    obtain ⟨other, hother, hheld⟩ := isFree_eq_false_iff.1 hbusy
    exact ⟨x, rest, other, htargets, hother, hheld⟩
  · obtain ⟨id, hc, l, hl, hrequest, hbusy⟩ := (hafter.gripped hne).resolve_left (absurd hnil)
    obtain ⟨other, hother, hheld⟩ := isFree_eq_false_iff.1 hbusy
    exact ⟨id, l, other, hc, hl, hrequest, hother, hheld⟩

end Store

namespace Story

/-- A line to be offered. -/
def tender : LineDraft := ⟨10, none, .one, .zero, .zero, 30⟩

/-- A transaction stores request 1 with offer 2 and its lines 3 and 4. -/
def written : Store :=
  let asked := (Store.empty.begin.2.perform 1 (.createRequest wish noon)).2
  let offered := (asked.perform 1 (.createOffer ⟨1, "desk", .online, none⟩ noon)).2
  (offered.perform 1 (.createLines 2 1 [tender, tender] noon)).2

/-- Two more transactions are open, and the first of them has changed line 4. -/
def engaged : Store :=
  ((written.commit 1).begin.2.begin.2.perform 2 (.setLineStatuses [4] .creatingPackage noon)).2

/-- All pending lines of request 1 are to be cancelled. -/
def sweep : Call := .cancelByRequests [1] "desk" .highLoanRate noon

/-- The store with the lines comes about. -/
theorem reached_written : written.Reached := by
  have hasked : Store.empty.begin.2.Reached := Store.Reached.empty.begin
  have hrequest := hasked.call (show Store.empty.begin.2.IsOpen 1 by decide +kernel)
    (.createRequest wish noon)
  have hoffer := hrequest.call
    (show (Store.empty.begin.2.perform 1 (.createRequest wish noon)).2.IsOpen 1 by decide +kernel)
    (.createOffer ⟨1, "desk", .online, none⟩ noon)
  exact hoffer.call (by decide +kernel) _

/-- The store in which line 4 is taken comes about. -/
theorem reached_engaged : engaged.Reached :=
  (reached_written.commit 1).begin.begin.call (by decide +kernel) _

/-- The third transaction fails at line 4 and keeps line 3, cancelled and locked. -/
theorem failed_call_engaged :
    ∃ t, engaged.perform 3 sweep = (.error (.locked "offer interest" 4), t) ∧
      (engaged.residue 3 sweep).map RowKey.of = [.line 3] ∧
      t.view 3 = (engaged.residue 3 sweep).foldl Rows.put (engaged.view 3) ∧
      ((engaged.view 3).lines.get? 3).map (·.status) = some .pending ∧
      ((t.view 3).lines.get? 3).map (·.status) = some .cancelled ∧
      engaged.locks.holder? (.line 3) = none ∧ t.locks.holder? (.line 3) = some 3 := by
  have herror : (engaged.perform 3 sweep).1 = .error (.locked "offer interest" 4) := by
    rfl
  have hp : engaged.perform 3 sweep =
      (.error (.locked "offer interest" 4), (engaged.perform 3 sweep).2) := Prod.ext herror rfl
  obtain ⟨-, hview, hlocks, -⟩ := Store.Reached.failed_call reached_engaged hp
  have hresidue : (engaged.residue 3 sweep).map .of = [RowKey.line 3] := by decide +kernel
  have hgrip : RowKey.line 3 ∈ engaged.grip 3 sweep := by
    change RowKey.line 3 ∈ (engaged.residue 3 sweep).map RowKey.of
    rw [hresidue]
    exact List.mem_cons_self
  refine ⟨_, hp, hresidue, hview, by decide +kernel, by decide +kernel, by decide +kernel, ?_⟩
  rw [hlocks, if_pos hgrip]

end Story
end LoanDesk
