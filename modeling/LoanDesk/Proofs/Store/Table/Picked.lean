/-
# Selected rows of a table

Writing selected rows of a keyed table one after another changes them where they stand
(`Table.foldl_insert`), and removing them leaves the others (`Table.foldl_erase`). The rows under given
numbers are picked in the order of the numbers (`Table.pick`).
-/

import LoanDesk.Proofs.Store.Table.Keyed

namespace LoanDesk
namespace Table

variable {α : Type}

/-! ### Rows written one after another -/

/-- Rows that are written leave a number alone that is none of theirs. -/
theorem get?_foldl_insert_of_notMem {key : α → Int} {k : Int} :
    ∀ (as : List α) (t : Table α), (∀ a ∈ as, key a ≠ k) →
      (as.foldl (fun t a => t.insert (key a) a) t).get? k = t.get? k
  | [], _, _ => rfl
  | a :: as, t, h => by
    have hne : key a ≠ k := h a List.mem_cons_self
    rw [List.foldl_cons, get?_foldl_insert_of_notMem as _ fun b hb => h b (List.mem_cons_of_mem _ hb),
      get?_insert, if_neg hne]

/-- Removals leave a number alone that is none of theirs. -/
theorem get?_foldl_insert_none {k : Int} : ∀ (ks : List Int) (t : Table (Option α)), k ∉ ks →
    (ks.foldl (·.insert · none) t).get? k = t.get? k
  | [], _, _ => rfl
  | i :: ks, t, h => by
    have hne : i ≠ k := fun he => h (he ▸ List.mem_cons_self)
    rw [List.foldl_cons, get?_foldl_insert_none ks _ fun hm => h (List.mem_cons_of_mem _ hm),
      get?_insert, if_neg hne]

/-- A row that is written and shares its number with no other is found there. -/
theorem get?_foldl_insert_of_mem {key : α → Int} {a : α} :
    ∀ (as : List α) (t : Table α), a ∈ as → (∀ b ∈ as, key b = key a → b = a) →
      (as.foldl (fun t a => t.insert (key a) a) t).get? (key a) = some a
  | b :: as, t, ha, huniq => by
    rw [List.foldl_cons]
    by_cases hmem : a ∈ as
    · exact get?_foldl_insert_of_mem as _ hmem fun c hc => huniq c (List.mem_cons_of_mem _ hc)
    · have hab : b = a := ((List.mem_cons.1 ha).resolve_right hmem).symm
      subst hab
      rw [get?_foldl_insert_of_notMem as, get?_insert, if_pos rfl]
      intro c hc hkey
      exact hmem (huniq c (List.mem_cons_of_mem _ hc) hkey ▸ hc)

/-- One of the rows that were written is there in any case, if there were some. -/
theorem exists_get?_foldl_insert {key : α → Int} : ∀ {as : List α}, as ≠ [] → ∀ t : Table α,
    ∃ a ∈ as, (as.foldl (fun t a => t.insert (key a) a) t).get? (key a) = some a
  | [], h, _ => absurd rfl h
  | [a], _, t => ⟨a, List.mem_cons_self, by rw [List.foldl_cons, List.foldl_nil, get?_insert, if_pos rfl]⟩
  | a :: b :: as, _, t => by
    obtain ⟨c, hc, hget⟩ :=
      exists_get?_foldl_insert (List.cons_ne_nil b as) (t.insert (key a) a)
    exact ⟨c, List.mem_cons_of_mem _ hc, hget⟩

/-- **Writing rows back changes them where they stand.**  The rows of a keyed table that satisfy `p`
are written back one after another, in any order, each as `f` has it. -/
theorem foldl_insert {key : α → Int} {t : Table α} (h : t.Keyed key) {p : α → Bool} {as : List α}
    (has : ∀ a, a ∈ as ↔ t.get? (key a) = some a ∧ p a) {f : α → α}
    (hf : ∀ a, key (f a) = key a) :
    (as.map f).foldl (fun t a => t.insert (key a) a) t = t.map fun a => if p a then f a else a := by
  refine ext fun k => ?_
  rw [get?_map]
  by_cases hk : ∃ a ∈ as, key a = k
  · obtain ⟨a, ha, rfl⟩ := hk
    obtain ⟨hget, hp⟩ := (has a).1 ha
    rw [← hf a, get?_foldl_insert_of_mem _ _ (List.mem_map_of_mem ha), hf, hget]
    · simp [hp]
    · intro c hc hkey
      obtain ⟨b, hb, rfl⟩ := List.mem_map.1 hc
      rw [hf, hf] at hkey
      have hgetb := ((has b).1 hb).1
      rw [hkey, hget] at hgetb
      rw [Option.some.inj hgetb]
  · rw [get?_foldl_insert_of_notMem]
    · cases ht : t.get? k with
      | none => rfl
      | some a =>
        have hka := h k a ht
        have hp : ¬p a := fun hp => hk ⟨a, (has a).2 ⟨by rw [hka, ht], hp⟩, hka⟩
        simp [hp]
    · intro b hb hkey
      obtain ⟨a, ha, rfl⟩ := List.mem_map.1 hb
      exact hk ⟨a, ha, by rw [← hf, hkey]⟩

/-- The rows under the given numbers, in the order of the numbers, each once. -/
def pick (t : Table α) : List Int → List α
  | [] => []
  | id :: ids =>
    match t.get? id with
    | some a => a :: (t.erase id).pick ids
    | none => t.pick ids

/-- A keyed table from which a row is erased is keyed. -/
theorem Keyed.erase {key : α → Int} {t : Table α} (h : t.Keyed key) (id : Int) :
    (t.erase id).Keyed key := by
  intro k a hk
  rw [get?_erase] at hk
  split at hk
  · cases hk
  · exact h k a hk

/-- Erasing a number leaves the rows with other numbers. -/
theorem Keyed.erase_eq_filter {key : α → Int} {t : Table α} (h : t.Keyed key) (id : Int) :
    t.erase id = t.filter fun a => key a != id := by
  refine ext fun k => ?_
  rw [get?_erase, get?_filter]
  cases hk : t.get? k with
  | none => simp
  | some a =>
    obtain rfl : key a = k := h k a hk
    by_cases hid : id = key a
    · simp [Option.filter, hid]
    · simp [Option.filter, hid, Ne.symm hid]

/-- The rows that are picked are those under the given numbers. -/
theorem Keyed.mem_pick {key : α → Int} {a : α} : ∀ {ids : List Int} {t : Table α}, t.Keyed key →
    (a ∈ t.pick ids ↔ t.get? (key a) = some a ∧ key a ∈ ids)
  | [], t, _ => by simp [pick]
  | id :: ids, t, h => by
    rw [pick, List.mem_cons]
    cases hid : t.get? id with
    | none =>
      rw [h.mem_pick]
      refine ⟨fun ha => ⟨ha.1, Or.inr ha.2⟩, ?_⟩
      rintro ⟨ha, rfl | hmem⟩
      · rw [hid] at ha
        cases ha
      · exact ⟨ha, hmem⟩
    | some b =>
      have hb := h id b hid
      dsimp only
      rw [List.mem_cons, (h.erase id).mem_pick, get?_erase]
      constructor
      · rintro (rfl | ⟨ha, hmem⟩)
        · exact ⟨by rw [hb, hid], Or.inl hb⟩
        · split at ha
          · cases ha
          · exact ⟨ha, Or.inr hmem⟩
      · rintro ⟨ha, hmem⟩
        by_cases hka : key a = id
        · rw [hka, hid] at ha
          exact Or.inl (Option.some.inj ha).symm
        · refine Or.inr ⟨?_, hmem.resolve_left hka⟩
          rw [if_neg (Ne.symm hka)]
          exact ha

/-- No row is picked twice, however often its number is given. -/
theorem Keyed.nodup_pick {key : α → Int} : ∀ {ids : List Int} {t : Table α}, t.Keyed key →
    (t.pick ids).Nodup
  | [], _, _ => .nil
  | id :: ids, t, h => by
    rw [pick]
    cases hid : t.get? id with
    | none => exact h.nodup_pick
    | some a =>
      refine List.nodup_cons.2 ⟨fun ha => ?_, (h.erase id).nodup_pick⟩
      have hget := ((h.erase id).mem_pick.1 ha).1
      rw [h id a hid, get?_erase, if_pos rfl] at hget
      cases hget

/-- The rows come in the order of their numbers. -/
theorem Keyed.ascending_values {key : α → Int} {t : Table α} (h : t.Keyed key) :
    t.values.Pairwise fun a b => key a < key b := by
  refine List.pairwise_map.2 (t.sorted.imp_of_mem ?_)
  rintro ⟨i, a⟩ ⟨j, b⟩ hi hj hlt
  rwa [h i a (get?_eq_some_iff.2 hi), h j b (get?_eq_some_iff.2 hj)]

/-- No two of the rows have one number. -/
theorem Keyed.nodup_keys {key : α → Int} {t : Table α} (h : t.Keyed key) {as : List α}
    (hs : as.Sublist t.values) : (as.map key).Nodup :=
  List.pairwise_map.2 ((h.ascending_values.sublist hs).imp fun hlt => Int.ne_of_lt hlt)

/-- No row stands in a keyed table twice. -/
theorem Keyed.nodup_values {key : α → Int} {t : Table α} (h : t.Keyed key) : t.values.Nodup :=
  List.Pairwise.of_map key (fun _ _ hne he => hne (congrArg key he))
    (h.nodup_keys (List.Sublist.refl _))

/-- The rows with one key are the one that stands under it, or none. -/
theorem Keyed.filter_key {key : α → Int} {t : Table α} (h : t.Keyed key) (k : Int) (p : α → Bool) :
    t.values.filter (fun a => k == key a && p a) = ((t.get? k).filter p).toList := by
  have hmem : ∀ a, a ∈ t.values.filter (fun a => k == key a && p a) ↔
      (t.get? k).filter p = some a := by
    intro a
    rw [List.mem_filter, h.mem_values, Option.filter_eq_some_iff, Bool.and_eq_true, beq_iff_eq]
    constructor
    · rintro ⟨ha, rfl, hp⟩
      exact ⟨ha, hp⟩
    · rintro ⟨ha, hp⟩
      have hkey := h k a ha
      exact ⟨hkey ▸ ha, hkey.symm, hp⟩
  cases ho : (t.get? k).filter p with
  | none =>
    refine List.eq_nil_iff_forall_not_mem.2 fun a ha => ?_
    cases ho.symm.trans ((hmem a).1 ha)
  | some a =>
    refine List.perm_singleton.1 ((List.perm_ext_iff_of_nodup (h.nodup_values.filter _)
      (List.pairwise_singleton _ a)).2 fun b => ?_)
    rw [hmem, ho, List.mem_singleton, Option.some.injEq, eq_comm]

/-- As many rows are picked as have one of the numbers. -/
theorem Keyed.length_pick {key : α → Int} {t : Table α} (h : t.Keyed key) (ids : List Int) :
    (t.pick ids).length = (t.values.filter fun a => ids.contains (key a)).length := by
  refine List.Perm.length_eq ?_
  refine (List.perm_ext_iff_of_nodup h.nodup_pick (h.nodup_values.filter _)).2 fun a => ?_
  rw [h.mem_pick, List.mem_filter, h.mem_values, List.contains_iff_mem]

/-- The first number with a given property is the same among the rows picked and among the numbers
that are in use. -/
theorem Keyed.find?_pick {key : α → Int} (p : Int → Bool) :
    ∀ {ids : List Int} {t : Table α}, t.Keyed key →
      ((t.pick ids).map key).find? p = (ids.filter fun id => (t.get? id).isSome).find? p
  | [], _, _ => rfl
  | id :: ids, t, h => by
    rw [pick, List.filter_cons]
    cases hid : t.get? id with
    | none => exact h.find?_pick p
    | some a =>
      have hka := h id a hid
      simp only [List.map_cons, Option.isSome_some, if_true, List.find?_cons, hka]
      cases hp : p id with
      | true => rfl
      | false =>
        dsimp only
        rw [(h.erase id).find?_pick p, List.find?_filter, List.find?_filter]
        congr 1
        funext i
        rw [get?_erase]
        by_cases hi : id = i
        · subst hi
          simp [hp]
        · simp [hi]

/-- After numbers were erased one after another, nothing is found under them, and the others are
found as before. -/
theorem get?_foldl_erase (ks : List Int) (t : Table α) (k : Int) :
    (ks.foldl erase t).get? k = if k ∈ ks then none else t.get? k := by
  induction ks generalizing t with
  | nil => simp
  | cons i ks ih =>
    rw [List.foldl_cons, ih, get?_erase]
    by_cases hk : k ∈ ks
    · simp [hk]
    · by_cases hik : i = k
      · simp [hik]
      · simp [hk, hik, Ne.symm hik]

/-- **Removing selected rows one after another leaves the others.** -/
theorem foldl_erase {key : α → Int} {t : Table α} (h : t.Keyed key) (p : α → Bool) :
    ((t.values.filter p).map key).foldl erase t = t.filter fun a => !p a := by
  refine ext fun k => ?_
  rw [get?_foldl_erase, get?_filter]
  have hiff : k ∈ (t.values.filter p).map key ↔ ∃ a, t.get? k = some a ∧ p a := by
    rw [List.mem_map]
    constructor
    · rintro ⟨a, ha, rfl⟩
      obtain ⟨hv, hp⟩ := List.mem_filter.1 ha
      exact ⟨a, h.mem_values.1 hv, hp⟩
    · rintro ⟨a, ha, hp⟩
      exact ⟨a, List.mem_filter.2 ⟨mem_values.2 ⟨k, ha⟩, hp⟩, h k a ha⟩
  cases ht : t.get? k with
  | none => simp
  | some a =>
    rw [ht] at hiff
    by_cases hp : p a
    · rw [if_pos (hiff.2 ⟨a, rfl, hp⟩)]
      simp [hp, Option.filter]
    · rw [if_neg]
      · simp [hp, Option.filter]
      · intro hk
        obtain ⟨b, hb, hpb⟩ := hiff.1 hk
        exact hp (Option.some.inj hb ▸ hpb)

end Table
end LoanDesk
