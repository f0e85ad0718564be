/-
# Decimals read back

A decimal is read from its own text, its places with it (`Decimal.ofText?_text`). All of its digits
fit, because the decimal did, so none of them is rounded away.
-/

import LoanDesk.Number.Decimal
import LoanDesk.Proofs.Text.Digits

namespace LoanDesk
namespace Decimal

open Text

/-- Digits that fit are taken up, in front of the point or behind it. -/
theorem magnitude_digits (point : Bool) (rest : List Char) : ∀ (ds : List Nat) (m s : Nat)
    (seen : Bool), (∀ d ∈ ds, d < 10) → ds.foldl (fun n d => n * 10 + d) m < Nat.pow 2 96 →
      (point → s + ds.length ≤ 28) →
        magnitude m s point seen (ds.map Nat.digitChar ++ rest) =
          magnitude (ds.foldl (fun n d => n * 10 + d) m) (if point then s + ds.length else s) point
            (seen || !ds.isEmpty) rest
  | [], m, s, seen, _, _, _ => by simp
  | d :: ds, m, s, seen, hds, hm, hs => by
    obtain ⟨hd, hds⟩ := List.forall_mem_cons.1 hds
    have hfit : m * 10 + d < Nat.pow 2 96 := by
      rw [List.foldl_cons, foldl_value] at hm
      have hpos : 0 < 10 ^ ds.length := Nat.pow_pos (by decide)
      have hle := Nat.le_mul_of_pos_right (m * 10 + d) hpos
      omega
    have hroom (hp : point) : s + 1 + ds.length ≤ 28 := by
      have hlen := hs hp
      rw [List.length_cons] at hlen
      omega
    have hplaces : ¬(point && decide (28 ≤ s)) := by
      rw [Bool.and_eq_true, decide_eq_true_eq]
      rintro ⟨hp, hle⟩
      have hlen := hroom hp
      omega
    rw [List.map_cons, List.cons_append, magnitude, if_neg hplaces, digit?_digitChar d hd]
    dsimp only
    rw [if_pos hfit, magnitude_digits point rest ds _ _ _ hds hm fun hp => by
      rw [if_pos hp]
      exact hroom hp]
    cases point <;> simp [Nat.add_assoc, Nat.add_comm 1]

/-- Digits with the last of them behind the point are read as what they are worth. -/
theorem magnitude_spelled {n scale : Nat} {cs : List Char} (h : Spells 10 n cs)
    (hn : n < Nat.pow 2 96) (hscale : scale ≤ 28) (hlen : scale < cs.length) :
    magnitude 0 0 false false (cs.take (cs.length - scale) ++
      if scale = 0 then [] else '.' :: cs.drop (cs.length - scale)) = some (n, scale) := by
  obtain ⟨ds, rfl, hds, hvalue⟩ := h
  rw [List.length_map] at hlen ⊢
  rw [← List.map_take, ← List.map_drop]
  obtain ⟨whole, places, hsplit, hwhole, hplaces⟩ : ∃ whole places, ds = whole ++ places ∧
      ds.take (ds.length - scale) = whole ∧ ds.drop (ds.length - scale) = places :=
    ⟨_, _, (List.take_append_drop _ _).symm, rfl, rfl⟩
  have hlength : places.length = scale := by
    rw [← hplaces, List.length_drop]
    omega
  have hne : whole ≠ [] := fun he => by simp [hsplit, he, hlength] at hlen
  rw [hwhole, hplaces]
  rw [hsplit, value_append, hlength] at hvalue
  have hfit : value 10 whole < Nat.pow 2 96 := by
    have hpos : 0 < 10 ^ scale := Nat.pow_pos (by decide)
    have hle := Nat.le_mul_of_pos_right (value 10 whole) hpos
    omega
  rw [magnitude_digits false _ whole 0 0 false (fun d hd => hds d (by simp [hsplit, hd])) hfit
    nofun]
  have hseen : (false || !whole.isEmpty) = true := by
    rw [Bool.false_or, Bool.not_eq_true', List.isEmpty_eq_false_iff]
    exact hne
  rw [hseen, show whole.foldl (fun n d => n * 10 + d) 0 = value 10 whole from rfl]
  by_cases hzero : scale = 0
  · obtain rfl : places = [] := List.length_eq_zero_iff.1 (hlength.trans hzero)
    simp [hzero, magnitude, ← hvalue, value]
  · have htotal : places.foldl (fun n d => n * 10 + d) (value 10 whole) = n := by
      rw [foldl_value, hlength, hvalue]
    have hread := magnitude_digits true [] places (value 10 whole) 0 true
      (fun d hd => hds d (by simp [hsplit, hd])) (htotal ▸ hn) fun _ => by omega
    rw [List.append_nil, htotal, hlength] at hread
    rw [if_neg hzero, magnitude]
    simpa [show digit? '.' = none from rfl, magnitude] using hread

/-- The characters of a decimal without its sign. -/
def unsigned (a : Decimal) : List Char :=
  let ds := padded (a.scale + 1) a.unscaled.natAbs
  ds.take (ds.length - a.scale) ++ if a.scale = 0 then [] else '.' :: ds.drop (ds.length - a.scale)

/-- A decimal is written as its magnitude, and a minus in front if it is negative. -/
theorem chars_eq (a : Decimal) :
    a.chars = if a.unscaled < 0 then '-' :: a.unsigned else a.unsigned := by
  unfold chars unsigned
  dsimp only
  split <;> simp only [List.nil_append, List.cons_append]

/-- The magnitude that was written is read, with its places. -/
theorem magnitude_unsigned (a : Decimal) :
    magnitude 0 0 false false a.unsigned = some (a.unscaled.natAbs, a.scale) :=
  magnitude_spelled (spells_padded _ _) a.unscaled_lt a.scale_le
    (Nat.lt_of_succ_le (le_length_padded _ _))

/-- The first character without a sign is a digit. -/
theorem unsigned_eq_cons (a : Decimal) : ∃ d rest, a.unsigned = Nat.digitChar d :: rest := by
  have hlen := le_length_padded (a.scale + 1) a.unscaled.natAbs
  obtain ⟨d, -, rest, hcs⟩ := (spells_padded (a.scale + 1) a.unscaled.natAbs).cons
    (List.ne_nil_of_length_pos (by omega))
  unfold unsigned
  dsimp only
  rw [hcs, List.length_cons] at hlen ⊢
  rw [show rest.length + 1 - a.scale = rest.length - a.scale + 1 by omega, List.take_succ_cons]
  exact ⟨d, _, List.cons_append⟩

/-- **A decimal is read from its own text**, with all of its places. -/
theorem ofText?_text (a : Decimal) : ofText? a.text = some a := by
  have hparts : ofParts? a.unscaled a.scale = some a := dif_pos ⟨a.unscaled_lt, a.scale_le⟩
  have hplain : plain? a.chars = some a := by
    rw [chars_eq]
    split
    · rename_i hneg
      change (magnitude 0 0 false false a.unsigned).bind _ = _
      rw [magnitude_unsigned, Option.bind_some,
        show -(a.unscaled.natAbs : Int) = a.unscaled by omega, hparts]
    · rename_i hneg
      obtain ⟨d, rest, hcs⟩ := a.unsigned_eq_cons
      have hsign (c : Char) (hc : ∀ d, Nat.digitChar d ≠ c) (cs : List Char) :
          a.unsigned ≠ c :: cs := by
        rw [hcs]
        exact fun he => hc d (List.cons.inj he).1
      unfold plain?
      split
      · exact absurd ‹_› (hsign _ (fun _ => Nat.digitChar_ne _ rfl) _)
      · exact absurd ‹_› (hsign _ (fun _ => Nat.digitChar_ne _ rfl) _)
      · rw [magnitude_unsigned]
        change ofParts? (a.unscaled.natAbs : Int) a.scale = some a
        rw [show (a.unscaled.natAbs : Int) = a.unscaled by omega, hparts]
  rw [ofText?, text, String.toList_ofList, hplain]
  rfl

end Decimal
end LoanDesk
