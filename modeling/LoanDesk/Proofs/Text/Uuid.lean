/-
# Identifiers read back

The hyphenated text of an identifier is 36 characters long, its groups have no hyphens in them, and
their 32 digits are worth the identifier. So it is read from its own text (`Uuid.ofText?_text`).
-/

import LoanDesk.Proofs.Text.Digits
import LoanDesk.Text.Uuid

namespace LoanDesk
namespace Uuid

open Text

/-- A group of digits that was written is read, if it has the right length. -/
theorem hexGroup_digits {n : Nat} {ds : List Nat} (hlen : ds.length = n) (hds : ∀ d ∈ ds, d < 16) :
    hexGroup n (ds.map Nat.digitChar) = some ds := by
  rw [hexGroup, List.length_map, if_pos hlen]
  exact mapM_written fun d hd => hexDigit?_digitChar d (hds d hd)

/-- A stretch of the digits. -/
def group (ds : List Nat) (start n : Nat) : List Nat := (ds.drop start).take n

/-- Two stretches that follow each other make up one. -/
theorem group_append (ds : List Nat) (start m n : Nat) :
    group ds start m ++ group ds (start + m) n = group ds start (m + n) := by
  rw [group, group, group, ← List.drop_drop, List.take_add]

/-- The characters of digits, in groups with hyphens between them. -/
def grouped (ds : List Nat) : List Char :=
  let chars (start n : Nat) := (group ds start n).map Nat.digitChar
  chars 0 8 ++ '-' ::
    (chars 8 4 ++ '-' :: (chars 12 4 ++ '-' :: (chars 16 4 ++ '-' :: chars 20 12)))

section Grouped

variable {ds : List Nat}

/-- A stretch within the digits has its length. -/
theorem length_group (hlen : ds.length = 32) {start n : Nat} (h : start + n ≤ 32) :
    (group ds start n).length = n := by
  rw [group, List.length_take, List.length_drop]
  omega

/-- The groups with their hyphens take up 36 characters. -/
theorem length_grouped (hlen : ds.length = 32) : (grouped ds).length = 36 := by
  simp only [grouped, List.length_append, List.length_cons, List.length_map]
  rw [length_group hlen (by decide), length_group hlen (by decide), length_group hlen (by decide),
    length_group hlen (by decide), length_group hlen (by decide)]

/-- There is no hyphen within a group. -/
theorem hyphen_notMem (start n : Nat) : '-' ∉ (group ds start n).map Nat.digitChar := by
  rw [List.mem_map]
  rintro ⟨d, -, hd⟩
  exact Nat.digitChar_ne (n := d) _ rfl hd

/-- The digits of the groups together are the digits that were written. -/
theorem hyphenated_grouped (hlen : ds.length = 32) (hds : ∀ d ∈ ds, d < 16) :
    hyphenated (grouped ds) = some ds := by
  have hgroup (start n : Nat) (h : start + n ≤ 32) :
      hexGroup n ((group ds start n).map Nat.digitChar) = some (group ds start n) :=
    hexGroup_digits (length_group hlen h) fun d hd =>
      hds d (List.mem_of_mem_drop (List.mem_of_mem_take hd))
  rw [hyphenated, if_pos (length_grouped hlen)]
  simp only [grouped, List.splitOn_append_cons_self_of_not_mem (hyphen_notMem _ _),
    List.splitOn_eq_singleton (hyphen_notMem _ _)]
  rw [hgroup 0 8 (by decide), hgroup 8 4 (by decide), hgroup 12 4 (by decide),
    hgroup 16 4 (by decide), hgroup 20 12 (by decide)]
  change some (group ds 0 8 ++ group ds (0 + 8) 4 ++ group ds (0 + 12) 4 ++ group ds (0 + 16) 4 ++
    group ds (0 + 20) 12) = some ds
  rw [group_append, group_append, group_append, group_append]
  refine congrArg some (List.take_of_length_le ?_)
  rw [List.drop_zero]
  exact Nat.le_of_eq hlen

end Grouped

/-- **An identifier is read from its own text.** -/
theorem ofText?_text (u : Uuid) : ofText? u.text = some u := by
  obtain ⟨ds, hcs, hds, hvalue⟩ := spells_padZeros (n := u.value) (show 1 < 16 by decide) 32
  have hlen : ds.length = 32 := by
    have hlen := length_padZeros (show 1 < 16 by decide) (show 0 < 32 by decide) u.value_lt
    rwa [hcs, List.length_map] at hlen
  have hchars : u.text.toList = grouped ds := by
    rw [text, String.toList_ofList, hexDigits, hcs]
    simp only [grouped, group, List.map_take, List.map_drop, List.append_assoc, List.cons_append,
      List.nil_append]
  have hdigits : digits u.text.toList = some ds := by
    have hlength := length_grouped hlen
    rw [hchars, digits, if_neg (by omega), if_pos hlength, hyphenated_grouped hlen hds]
  rw [ofText?, hdigits, Option.bind_some]
  simp only [hvalue]
  exact dif_pos u.value_lt

end Uuid
end LoanDesk
