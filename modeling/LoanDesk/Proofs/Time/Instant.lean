/-
# Instants read back

An instant that was read from any text is read again from its own (`Instant.ofText?_text`). Each
field is written in as many digits as its reader takes.

Not every instant can be read at all: years have bounds, and a leap second belongs to the last
second of a minute (`Instant.Readable`). What was read is readable, because offsets are whole
minutes (`Instant.readable_of_ofText?`).
-/

import LoanDesk.Proofs.Text.Digits
import LoanDesk.Proofs.Time.Calendar
import LoanDesk.Time.Instant

namespace LoanDesk
namespace Instant

open Text

/-! ### The fields of a text -/

/-- Digits are no blanks. -/
theorem isBlank_digitChar : ∀ d < 10, isBlank d.digitChar = false := by decide

/-- Nothing is trimmed before digits. -/
theorem trimStart_spelled {n : Nat} {cs rest : List Char} (h : Spells 10 n cs) (hcs : cs ≠ []) :
    trimStart (cs ++ rest) = cs ++ rest := by
  obtain ⟨d, hd, cs, rfl⟩ := h.cons hcs
  exact List.dropWhile_cons_of_neg (by rw [isBlank_digitChar d hd]; exact Bool.false_ne_true)

/-- A number of as many digits as are taken. -/
theorem field_padded {width n : Nat} (rest : List Char) (hw : 0 < width) (hn : n < 10 ^ width) :
    field width (padded width n ++ rest) = some (n, rest) := by
  have hlen := length_padded hw hn
  have hne : padded width n ≠ [] := List.ne_nil_of_length_pos (by omega)
  obtain ⟨ds, hread, hvalue, hds⟩ :=
    (spells_padded width n).takeDigits (show takeDigits digit? [] = ([], []) from rfl)
  rw [List.append_nil] at hread
  have hnot : ds.isEmpty = false := List.isEmpty_eq_false_iff.2
    (List.ne_nil_of_length_pos (by omega))
  unfold field
  rw [trimStart_spelled (spells_padded width n) hne]
  simp only [List.take_left' hlen, hread, hnot, hvalue, List.drop_left' (hds.trans rfl).symm]
  rfl

/-- Nothing is trimmed before a character that is no blank. -/
theorem trimStart_cons {c : Char} (h : isBlank c = false) (rest : List Char) :
    trimStart (c :: rest) = c :: rest :=
  List.dropWhile_cons_of_neg (by rw [h]; exact Bool.false_ne_true)

/-- A mark is read where it stands. -/
theorem mark_cons {c : Char} (h : isBlank c = false) (rest : List Char) :
    mark c (c :: rest) = some rest := by
  rw [mark, trimStart_cons h]
  exact if_pos rfl

/-- The digits of a year are read behind its sign. -/
theorem signed_padded {n : Nat} (sign : Int) {rest : List Char}
    (hr : takeDigits digit? rest = ([], rest)) :
    yearField.signed sign (padded 4 n ++ rest) = some (sign * n, rest) := by
  obtain ⟨ds, hread, hvalue, hds⟩ := (spells_padded 4 n).takeDigits hr
  have hlen := le_length_padded 4 n
  unfold yearField.signed
  rw [hread]
  cases ds with
  | nil =>
    rw [List.length_nil] at hds
    omega
  | cons d ds => rw [← hvalue]

/-- A year without a sign. -/
theorem yearField_spelled {n : Nat} {cs rest : List Char} (h : Spells 10 n cs) (hcs : cs ≠ []) :
    yearField (cs ++ rest) = (field 4 (cs ++ rest)).map fun r => ((r.1 : Int), r.2) := by
  unfold yearField
  rw [trimStart_spelled h hcs]
  obtain ⟨d, -, cs, rfl⟩ := h.cons hcs
  have hsign (c : Char) (hc : Nat.digitChar d ≠ c) (cs' : List Char) :
      d.digitChar :: cs ++ rest ≠ c :: cs' := fun he => hc (List.cons.inj he).1
  split
  · exact absurd ‹_› (hsign _ (Nat.digitChar_ne _ rfl) _)
  · exact absurd ‹_› (hsign _ (Nat.digitChar_ne _ rfl) _)
  · rfl

/-- The year that was written is read, up to the hyphen behind it. -/
theorem yearField_yearChars (y : Int) (rest : List Char) :
    yearField (yearChars y ++ '-' :: rest) = some (y, '-' :: rest) := by
  have hstop : takeDigits digit? ('-' :: rest) = ([], '-' :: rest) := rfl
  unfold yearChars
  split
  · rename_i hy
    simp only [Bool.and_eq_true, decide_eq_true_eq] at hy
    have hne : padded 4 y.toNat ≠ [] :=
      List.ne_nil_of_length_pos (Nat.lt_of_lt_of_le (by decide) (le_length_padded 4 _))
    rw [yearField_spelled (spells_padded 4 y.toNat) hne, field_padded _ (by decide) (by omega),
      Option.map_some, Int.toNat_of_nonneg hy.1]
  · split
    · rename_i hneg
      change yearField.signed (-1) (padded 4 y.natAbs ++ '-' :: rest) = _
      rw [signed_padded (-1) hstop, show -1 * (y.natAbs : Int) = y by omega]
    · rename_i hneg
      change yearField.signed 1 (padded 4 y.natAbs ++ '-' :: rest) = _
      rw [signed_padded 1 hstop, show 1 * (y.natAbs : Int) = y by omega]

/-- Places of a second, as many of them as make a whole number of nanoseconds. -/
theorem fraction_padded {width n nano : Nat} (hw : 0 < width) (hle : width ≤ 9)
    (hn : n < 10 ^ width) (hnano : n * 10 ^ (9 - width) = nano) :
    fraction ('.' :: padded width n ++ ['Z']) = some (nano, ['Z']) := by
  obtain ⟨ds, hread, hvalue, hds⟩ :=
    (spells_padded width n).takeDigits (show takeDigits digit? ['Z'] = ([], ['Z']) from rfl)
  rw [length_padded hw hn] at hds
  rw [List.cons_append, fraction, hread]
  cases ds with
  | nil =>
    rw [List.length_nil] at hds
    omega
  | cons d ds =>
    dsimp only
    rw [List.take_of_length_le (by omega), hvalue, hds]
    exact congrArg (fun nano => some (nano, ['Z'])) hnano

/-- The places of the second that were written are read as the nanoseconds. -/
theorem fraction_placesOfSecond {nano : Nat} (h : nano < 1000000000) :
    fraction (placesOfSecond nano ++ ['Z']) = some (nano, ['Z']) := by
  unfold placesOfSecond
  split
  · rename_i hzero
    rw [hzero]
    rfl
  · split
    · exact fraction_padded (by decide) (by decide) (by omega) (by omega)
    · split
      · exact fraction_padded (by decide) (by decide) (by omega) (by omega)
      · exact fraction_padded (by decide) (by decide) (by omega) (by omega)

/-! ### Instants that can be read -/

/-- The year has bounds, and only the last second of a minute has a leap second. -/
structure Readable (t : Instant) : Prop where
  year : yearInRange (Date.civil (t.second / daySeconds)).year
  leap : 1000000000 ≤ t.nano → t.second % 60 = 59

/-- What fields give, and when. -/
theorem ofFields?_eq_some {date : Date} {hour minute second nano : Nat} {shift : Int}
    {t : Instant} : ofFields? date hour minute second nano shift = some t ↔
      (date.isValid && yearInRange date.year && hour < 24 && minute < 60 && second ≤ 60 &&
        -daySeconds < shift && shift < daySeconds) ∧
      t.second = date.dayNumber * daySeconds + (hour * 3600 + minute * 60 + min second 59 : Nat) -
        shift ∧
      t.nano = (if second = 60 then nano + 1000000000 else nano) ∧
      yearInRange (Date.civil (t.second / daySeconds)).year := by
  obtain ⟨sec, n, hn⟩ := t
  rw [ofFields?, show ((hour * 3600 + minute * 60 + min second 59 : Nat) : Int) =
    hour * 3600 + minute * 60 + min second 59 by omega]
  dsimp only
  generalize (date.isValid && _ && _ && _ && _ && _ && _) = fits
  generalize (if second = 60 then nano + 1000000000 else nano) = n'
  generalize date.dayNumber * daySeconds + _ - shift = utc
  cases fits with
  | false => simp
  | true =>
    simp only [if_true, true_and]
    split
    · split
      · rename_i hyear
        constructor
        · intro he
          obtain ⟨rfl, rfl⟩ := Instant.mk.inj (Option.some.inj he)
          exact ⟨rfl, rfl, hyear⟩
        · rintro ⟨rfl, rfl, -⟩
          rfl
      · rename_i hyear
        refine iff_of_false (Option.some_ne_none _).symm fun h => hyear ?_
        rw [← h.1]
        exact h.2.2
    · rename_i hlarge
      exact iff_of_false (Option.some_ne_none _).symm fun h => hlarge (h.2.1 ▸ hn)

/-- A distance from the meridian is in whole minutes. -/
theorem clock_minutes {sign : Int} {cs rest : List Char} {shift : Int}
    (h : offset.clock sign cs = some (shift, rest)) : shift % 60 = 0 := by
  refine of_bind h fun ⟨hours, _⟩ _ h => ?_
  refine of_bind h fun ⟨minutes, _⟩ _ h => ?_
  dsimp only at h
  split at h
  · cases h
  · cases h
    have hsplit : sign * ((hours : Int) * 3600 + minutes * 60) =
        60 * (sign * (hours * 60 + minutes)) := by grind
    omega

/-- Offsets are whole minutes. -/
theorem offset_minutes {cs rest : List Char} {shift : Int} (h : offset cs = some (shift, rest)) :
    shift % 60 = 0 := by
  unfold offset at h
  split at h
  · cases h
    rfl
  · cases h
    rfl
  · exact clock_minutes h
  · exact clock_minutes h
  · exact clock_minutes h
  · split at h <;> cases h
    rfl
  · cases h

/-- Places are less than a second. -/
theorem fraction_lt {cs rest : List Char} {nano : Nat} (h : fraction cs = some (nano, rest)) :
    nano < 1000000000 := by
  unfold fraction at h
  split at h
  · rename_i cs
    split at h
    · cases h
    · rename_i ds _ _ hread
      cases h
      have hds : ∀ d ∈ ds.take 9, d < 10 := fun d hd => by
        have hlt := takeDigits_lt cs d
        rw [hread] at hlt
        exact hlt (List.mem_of_mem_take hd)
      have hlen : (ds.take 9).length ≤ 9 := List.length_take_le _ _
      calc value 10 (ds.take 9) * Nat.pow 10 (9 - (ds.take 9).length)
        _ < 10 ^ (ds.take 9).length * 10 ^ (9 - (ds.take 9).length) :=
          Nat.mul_lt_mul_of_pos_right (value_lt hds) (Nat.pow_pos (by decide))
        _ = 1000000000 := by rw [← Nat.pow_add, Nat.add_sub_cancel' hlen]
  · cases h
    decide

/-- What follows the date in a text. -/
def time? (date : Date) (cs : List Char) : Option Instant := do
  let (hour, cs) ← field 2 cs
  let cs ← mark ':' cs
  let (minute, cs) ← field 2 cs
  let cs ← mark ':' cs
  let (second, cs) ← field 2 cs
  let (nano, cs) ← fraction cs
  let (shift, cs) ← offset (trimStart cs)
  if cs.all isBlank then ofFields? date hour minute second nano shift else none

/-- **What was read is readable.** -/
theorem readable_of_ofText? {s : String} {t : Instant} (h : ofText? s = some t) : t.Readable := by
  refine of_bind h fun ⟨year, _⟩ _ h => ?_
  refine of_bind h fun _ _ h => ?_
  refine of_bind h fun ⟨month, _⟩ _ h => ?_
  refine of_bind h fun _ _ h => ?_
  refine of_bind h fun ⟨day, _⟩ _ h => ?_
  have htime : ∃ rest, time? ⟨year, month, day⟩ rest = some t := by
    dsimp only at h
    split at h
    · split at h
      · exact ⟨_, h⟩
      · cases h
    · cases h
  obtain ⟨rest, htime⟩ := htime
  refine of_bind htime fun ⟨hour, _⟩ _ h => ?_
  refine of_bind h fun _ _ h => ?_
  refine of_bind h fun ⟨minute, _⟩ _ h => ?_
  refine of_bind h fun _ _ h => ?_
  refine of_bind h fun ⟨second, _⟩ _ h => ?_
  refine of_bind h fun ⟨nano, _⟩ hnano h => ?_
  refine of_bind h fun ⟨shift, _⟩ hshift htime => ?_
  dsimp only at htime
  split at htime
  · obtain ⟨-, hsec, hnan, hyear⟩ := ofFields?_eq_some.1 htime
    refine ⟨hyear, fun hleap => ?_⟩
    have hplaces := fraction_lt hnano
    have hminutes := offset_minutes hshift
    unfold daySeconds at hsec
    split at hnan
    · omega
    · omega
  · cases htime

/-! ### Reading what was written -/

/-- Whether nanoseconds belong to a leap second. -/
def leapOf (t : Instant) : Nat := if 1000000000 ≤ t.nano then 1 else 0

/-- The second of its day that an instant lies in. -/
def ofDay (t : Instant) : Nat := (t.second % daySeconds).toNat

/-- A second of a day is one of 86400. -/
theorem ofDay_lt (t : Instant) : t.ofDay < 86400 := by
  unfold ofDay daySeconds
  omega

/-- What follows the date where it is written. -/
def clockChars (t : Instant) : List Char :=
  padded 2 (t.ofDay / 3600) ++ ':' :: (padded 2 (t.ofDay / 60 % 60) ++ ':' ::
    (padded 2 (t.ofDay % 60 + t.leapOf) ++ (placesOfSecond (t.nano % 1000000000) ++ ['Z'])))

/-- An instant is written as its year, month and day, and what follows them. -/
theorem chars_eq (t : Instant) : t.chars =
    yearChars (Date.civil (t.second / daySeconds)).year ++ '-' ::
      (padded 2 (Date.civil (t.second / daySeconds)).month ++ '-' ::
        (padded 2 (Date.civil (t.second / daySeconds)).day ++ 'T' :: t.clockChars)) := by
  unfold chars clockChars
  simp only [List.append_assoc, List.cons_append]
  rfl

/-- The fields of an instant that can be read make up that instant. -/
theorem ofFields?_readable {t : Instant} (h : t.Readable) :
    ofFields? (Date.civil (t.second / daySeconds)) (t.ofDay / 3600) (t.ofDay / 60 % 60)
      (t.ofDay % 60 + t.leapOf) (t.nano % 1000000000) 0 = some t := by
  have hday := t.ofDay_lt
  have hvalid := Date.isValid_civil (t.second / daySeconds)
  have hnano := t.nano_lt
  have hleap := h.leap
  refine ofFields?_eq_some.2 ⟨?_, ?_, ?_, h.year⟩
  · simp only [hvalid, h.year, Bool.true_and, Bool.and_eq_true, decide_eq_true_eq]
    unfold leapOf ofDay daySeconds at *
    split <;> omega
  · rw [Date.dayNumber_civil]
    unfold leapOf ofDay daySeconds at *
    split <;> omega
  · unfold leapOf ofDay daySeconds at *
    split <;> split <;> omega

/-- What was written behind the date is read together with it as the instant. -/
theorem time?_clockChars {t : Instant} (h : t.Readable) :
    time? (Date.civil (t.second / daySeconds)) t.clockChars = some t := by
  have hday := t.ofDay_lt
  have hsec : t.ofDay % 60 + t.leapOf < 10 ^ 2 := by
    unfold leapOf
    split <;> omega
  exact bind_of (field_padded _ (by decide) (by omega)) <| bind_of (mark_cons rfl _) <|
    bind_of (field_padded _ (by decide) (by omega)) <| bind_of (mark_cons rfl _) <|
    bind_of (field_padded _ (by decide) hsec) <|
    bind_of (fraction_placesOfSecond (Nat.mod_lt _ (by decide))) <|
    bind_of rfl (ofFields?_readable h)

/-- **An instant that can be read is read from its own text.** -/
theorem ofText?_text {t : Instant} (h : t.Readable) : ofText? t.text = some t := by
  have hvalid := Date.isValid_civil (t.second / daySeconds)
  have hdays : Date.daysInMonth (Date.civil (t.second / daySeconds)).year
      (Date.civil (t.second / daySeconds)).month ≤ 31 := by
    unfold Date.daysInMonth
    split
    · split <;> decide
    · split <;> decide
  simp only [Date.isValid, Bool.and_eq_true, decide_eq_true_eq] at hvalid
  obtain ⟨⟨⟨hmin, hmax⟩, hfirst⟩, hlast⟩ := hvalid
  have htime := time?_clockChars h
  rw [ofText?, text, String.toList_ofList, chars_eq]
  exact bind_of (yearField_yearChars _ _) <| bind_of (mark_cons rfl _) <|
    bind_of (field_padded _ (by decide) (by omega)) <| bind_of (mark_cons rfl _) <|
    bind_of (field_padded _ (by decide) (by omega)) htime

end Instant
end LoanDesk
