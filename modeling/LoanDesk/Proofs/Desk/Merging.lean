/-
# Standings of lines put together

The lines of a request come from several offers, and are listed now in one order and now in another.
The standing does not mind: it is a maximum, of how far the lines are (`Standing.le_rank_of`), and the
reason of a cancellation belongs to the line that is stamped last, of which there is only one as long
as no two lines have the same number (`Standing.latest?_eq_some`).

A maximum may be taken part by part. So the standing of lines from two places is the further of the
two, and where nothing is left open in either, the reason is that of one of them
(`Standing.furthest_of_parts`).
-/

import LoanDesk.Proofs.Desk.Reasons
import Mathlib.Data.List.Nodup
import Mathlib.Order.MinMax

namespace LoanDesk

/-- How far a line is. -/
def LineStatus.rank : LineStatus → Nat
  | cancelled => 0
  | pending => 1
  | creatingPackage => 2
  | signed => 3
  | packageCreated => 4

/-- Only cancelled lines are at the start. -/
theorem LineStatus.eq_cancelled_of_rank {s : LineStatus} (h : s.rank = 0) : s = .cancelled := by
  cases s <;> first | rfl | cases h

namespace Standing

/-- How far a request is:
`CANCELLED` < `PENDING` < `CREATING_LOAN_PACKAGE` < `SIGNED` < `PACKAGE_CREATED`. -/
def rank : Standing → Nat
  | cancelled _ => 0
  | pending => 1
  | creatingPackage => 2
  | signed => 3
  | packageCreated => 4

/-- Only cancelled requests are at the start. -/
theorem isCancelled_iff_rank {s : Standing} : s.isCancelled ↔ s.rank = 0 := by
  cases s <;> simp [isCancelled, rank]

variable {r : Request} {ls ls' xs ys : List Line}

/-! ### The furthest line -/

/-- No line is further than its request. -/
theorem rank_le_of {l : Line} (hl : l ∈ ls) : l.status.rank ≤ (of r ls).rank := by
  unfold of
  cases hs : l.status <;> grind [LineStatus.rank, rank]

/-- Where there are lines, one of them is as far as the request. -/
theorem exists_rank_of (h : ls ≠ []) : ∃ l ∈ ls, l.status.rank = (of r ls).rank := by
  obtain ⟨l, hl⟩ := List.exists_mem_of_ne_nil ls h
  unfold of
  cases hs : l.status <;> grind [LineStatus.rank, rank]

/-- A request with lines is as far as the furthest of them. -/
theorem le_rank_of (h : ls ≠ []) {n : Nat} : n ≤ (of r ls).rank ↔ ∃ l ∈ ls, n ≤ l.status.rank := by
  constructor
  · intro hn
    obtain ⟨l, hl, hrank⟩ := exists_rank_of (r := r) h
    exact ⟨l, hl, hrank ▸ hn⟩
  · rintro ⟨l, hl, hn⟩
    exact Nat.le_trans hn (rank_le_of hl)

/-- Lines in two parts are as far as the further of the parts. -/
theorem rank_of_append (hx : xs ≠ []) (hy : ys ≠ []) :
    (of r (xs ++ ys)).rank = max (of r xs).rank (of r ys).rank := by
  refine eq_of_forall_le_iff fun n => ?_
  rw [le_rank_of (List.append_ne_nil_of_left_ne_nil hx ys), le_max_iff, le_rank_of hx, le_rank_of hy]
  simp only [List.mem_append, or_and_right, exists_or]

/-! ### The line that is stamped last -/

/-- No two lines of different numbers are both stamped last. -/
theorem eq_of_notBefore (hn : (ls.map (·.id)).Nodup) {a b : Line} (ha : a ∈ ls) (hb : b ∈ ls)
    (hab : notBefore a b) (hba : notBefore b a) : a = b := by
  have hkey : (stamp a, a.id) = (stamp b, b.id) := Instant.notBefore_antisymm hab hba
  exact List.inj_on_of_nodup_map hn ha hb (congrArg Prod.snd hkey)

/-- The latest line is the one that no other comes after. -/
theorem latest?_eq_some (hn : (ls.map (·.id)).Nodup) {l : Line} :
    latest? ls = some l ↔ l ∈ ls ∧ ∀ m ∈ ls, notBefore m l := by
  constructor
  · intro hl
    obtain ⟨m, hm, hlatest, hlast⟩ := latest?_spec (show ls ≠ [] by rintro rfl; cases hl)
    rw [hl] at hlatest
    obtain rfl := Option.some.inj hlatest
    exact ⟨hm, hlast⟩
  · rintro ⟨hl, hlast⟩
    obtain ⟨m, hm, hlatest, hlast'⟩ := latest?_spec (List.ne_nil_of_mem hl)
    rw [hlatest, eq_of_notBefore hn hm hl (hlast m hm) (hlast' l hl)]

/-- The lines whose reason is known. -/
def known (ls : List Line) : List Line := ls.filter fun l => l.cancelReason != .unknown

/-- The reason is that of the line that is stamped last of these. -/
theorem latestReason_eq_known :
    latestReason ls = ((latest? (known ls)).map (·.cancelReason)).getD .admin := by
  rw [latestReason, known]
  cases latest? (ls.filter fun l => l.cancelReason != .unknown) <;> rfl

/-- The reason is that of the latest line with a known one. -/
theorem latestReason_congr (h : latest? (known ls) = latest? (known ls')) :
    latestReason ls = latestReason ls' := by
  rw [latestReason_eq_known, latestReason_eq_known, h]

/-- Lines with a known reason have different numbers if all lines have. -/
theorem nodup_known (hn : (ls.map (·.id)).Nodup) : ((known ls).map (·.id)).Nodup :=
  hn.sublist (List.filter_sublist.map _)

/-- The line that is stamped last is the same in every order. -/
theorem latest?_perm (hn : (ls.map (·.id)).Nodup) (h : ls.Perm ls') : latest? ls' = latest? ls := by
  refine Option.ext fun l => ?_
  rw [latest?_eq_some hn, latest?_eq_some ((h.map _).nodup_iff.1 hn), h.mem_iff]
  simp only [h.mem_iff]

/-- The order of the lines does not matter for their reason. -/
theorem latestReason_perm (hn : (ls.map (·.id)).Nodup) (h : ls.Perm ls') :
    latestReason ls' = latestReason ls :=
  latestReason_congr (latest?_perm (nodup_known hn) (h.filter _))

/-- The standing is the same for every order of the lines. -/
theorem of_perm (hn : (ls.map (·.id)).Nodup) (h : ls.Perm ls') : of r ls' = of r ls := by
  have hany : ∀ s, (ls'.any fun l => l.status == s) = ls.any fun l => l.status == s := fun s =>
    h.symm.any_eq
  rw [of, of, latestReason_perm hn h, h.symm.isEmpty_eq]
  simp only [hany]

/-- Of the lines of two places, the one stamped last is the last of its own place. -/
theorem latest?_append (hn : ((xs ++ ys).map (·.id)).Nodup) :
    latest? (xs ++ ys) = latest? xs ∨ latest? (xs ++ ys) = latest? ys := by
  obtain ⟨hx, hy, -⟩ := List.nodup_append.1 (List.map_append ▸ hn)
  by_cases hnil : xs ++ ys = []
  · obtain ⟨rfl, rfl⟩ := List.append_eq_nil_iff.1 hnil
    exact Or.inl rfl
  obtain ⟨l, hl, hlatest, hlast⟩ := latest?_spec hnil
  obtain ⟨hlastx, hlasty⟩ := List.forall_mem_append.1 hlast
  rw [hlatest]
  exact (List.mem_append.1 hl).imp (fun hl => ((latest?_eq_some hx).2 ⟨hl, hlastx⟩).symm)
    fun hl => ((latest?_eq_some hy).2 ⟨hl, hlasty⟩).symm

/-- The reason of lines in two parts is that of one of the parts. -/
theorem latestReason_append (hn : ((xs ++ ys).map (·.id)).Nodup) :
    latestReason (xs ++ ys) = latestReason xs ∨ latestReason (xs ++ ys) = latestReason ys := by
  have hknown : known (xs ++ ys) = known xs ++ known ys := List.filter_append ..
  have hlatest := latest?_append (hknown ▸ nodup_known hn)
  rw [← hknown] at hlatest
  exact hlatest.imp latestReason_congr latestReason_congr

/-- Lines of two places that are all cancelled have the reason of one of the places. -/
theorem of_append_of_isCancelled (hx : xs ≠ []) (hy : ys ≠ [])
    (hn : ((xs ++ ys).map (·.id)).Nodup) (hc : (of r (xs ++ ys)).isCancelled) :
    of r (xs ++ ys) = of r xs ∨ of r (xs ++ ys) = of r ys := by
  have hall : ∀ l ∈ xs ++ ys, l.status = .cancelled := fun l hl => by
    have hrank : l.status.rank ≤ 0 := isCancelled_iff_rank.1 hc ▸ rank_le_of hl
    exact LineStatus.eq_cancelled_of_rank (Nat.le_zero.1 hrank)
  obtain ⟨hallx, hally⟩ := List.forall_mem_append.1 hall
  rw [of_eq_cancelled (List.append_ne_nil_of_left_ne_nil hx ys) hall, of_eq_cancelled hx hallx,
    of_eq_cancelled hy hally]
  exact (latestReason_append hn).imp (congrArg _) (congrArg _)

/-- **The standing of lines is that of the furthest, whatever their order and however they are put
together.** As long as no two lines have one number, standing and reason are the same for every order
of the lines. The lines of two places are as far as those of the place that is further, and where
nothing is open in either they are cancelled for the reason that one of the places gives. -/
theorem furthest_of_parts (r : Request) :
    (∀ ls ls' : List Line, (ls.map (·.id)).Nodup → ls.Perm ls' →
      of r ls' = of r ls ∧ latestReason ls' = latestReason ls) ∧
    ∀ xs ys : List Line, xs ≠ [] → ys ≠ [] → ((xs ++ ys).map (·.id)).Nodup →
      (of r (xs ++ ys)).rank = max (of r xs).rank (of r ys).rank ∧
      ((of r (xs ++ ys)).isCancelled →
        of r (xs ++ ys) = of r xs ∨ of r (xs ++ ys) = of r ys) :=
  ⟨fun _ _ hn h => ⟨of_perm hn h, latestReason_perm hn h⟩, fun _ _ hx hy hn =>
    ⟨rank_of_append hx hy, of_append_of_isCancelled hx hy hn⟩⟩

end Standing

namespace Story

/-- Request 1, as it is opened. -/
def asked : Request :=
  RequestDraft.toRequest ⟨1, 7, "A1", .flexible, .underlying (decimal 2 1) (decimal 100 0)⟩ 1 now

/-- A line that was cancelled, perhaps without a stamp. -/
def ended (id : Int) (reason : CancelReason) (stamped : Option Instant) : Line :=
  { ((line id).toLine id 3 1 now).cancelled "desk" reason now with cancelledAt := stamped }

/-- Line 4 was cancelled last, but nobody knows why, and line 5 has expired. -/
def quarter : List Line := [ended 4 .unknown (some (tick 9)), ended 5 .expired (some now)]

/-- Line 6 was turned down when line 5 expired; it was not stamped, so its change counts. -/
def other : List Line := [ended 6 .investor none]

/-- Lines 5 and 6 were cancelled at one time, and the greater number decides, wherever it stands. -/
theorem furthest_of_parts_tied :
    Standing.latestReason (other ++ quarter) = .investor ∧
      (Standing.of asked (quarter ++ other)).rank = 0 ∧
      Standing.of asked (quarter ++ other) = Standing.of asked other := by
  have hn : ((quarter ++ other).map (·.id)).Nodup := by decide
  have hreason : Standing.latestReason (quarter ++ other) = .investor := by decide
  have hcancelled : (Standing.of asked (quarter ++ other)).isCancelled := by decide
  have hquarter : Standing.of asked (quarter ++ other) ≠ Standing.of asked quarter := by decide
  obtain ⟨horder, hparts⟩ := Standing.furthest_of_parts asked
  obtain ⟨hrank, hpart⟩ := hparts quarter other (by decide) (by decide) hn
  exact ⟨(horder _ _ hn List.perm_append_comm).2.trans hreason, hrank.trans (by decide),
    (hpart hcancelled).resolve_left hquarter⟩

end Story
end LoanDesk
