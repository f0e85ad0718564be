/-
# Filters as conditions

A filter is a test on requests, and it is also the conditions of two statements: one for a page of
the requests that fit, one for their number. A field that is not set is no test and no condition.

Field by field the condition is the test (`forall₂_filterParts`). The values are bound to places in
the order of the conditions, counted from one, and what a page needs comes after them, so that in both
statements each condition finds its own value. Hence a row satisfies all of the conditions if and only
if the filter accepts the request in it (`filter_conditions`).
-/

import LoanDesk.Proofs.Sql.Meaning
import Mathlib.Data.List.Forall2

namespace LoanDesk

/-! ### The tests of a filter -/

/-- The tests of a filter, one for every field that is set. -/
def RequestFilter.tests (f : RequestFilter) : List (Request → Bool) :=
  let test {α : Type} (p : α → Request → Bool) (a : Option α) : List (Request → Bool) :=
    (a.map p).toList
  test (fun a r => r.symbol == a) f.symbol ++
  test (fun a r => r.investor == a) f.investor ++
  test (fun a r => r.account == a) f.account ++
  test (fun a r => r.status == a) f.status ++
  test (fun a r => r.kind == a) f.kind ++
  test (fun a r => r.asset == a) f.asset ++
  test (fun a r => a ≤ r.loanRate) f.rateFrom ++
  test (fun a r => r.loanRate ≤ a) f.rateTo ++
  test (fun a r => a ≤ r.createdAt) f.createdFrom ++
  test (fun a r => r.createdAt ≤ a) f.createdTo

/-- A field that may be set is tested if it is. -/
theorem accepts_eq_all {α : Type} (wanted : Option α) (p : α → Request → Bool) (r : Request) :
    accepts wanted (p · r) = (wanted.map p).toList.all (· r) := by
  cases wanted <;> simp [accepts]

/-- A filter accepts what passes all of its tests. -/
theorem RequestFilter.accepts_eq_all_tests (f : RequestFilter) (r : Request) :
    f.accepts r = f.tests.all (· r) := by
  simp only [tests, List.all_append, ← LoanDesk.accepts_eq_all]
  rfl

namespace Sql

/-! ### The conditions of a filter -/

/-- The conditions of a filter. -/
def filterConditions (f : RequestFilter) : List Condition := (bindParts (filterParts f)).1

/-- The values that its conditions compare with. -/
def filterParams (f : RequestFilter) : List Value := (bindParts (filterParts f)).2

/-- A column and a value, and how they have to relate, say of rows what a test says of the requests
in them. -/
def Tests (part : String × Relation × Value) (test : Request → Bool) : Prop :=
  ∀ row r, Holds row r → part.2.1.holds (cell row part.1) part.2.2 = test r

/-- Words are the same only for what is the same. -/
theorem word_beq {α : Type} [Vocabulary α] [DecidableEq α] (a b : α) :
    (Vocabulary.word a == Vocabulary.word b) = (a == b) := by
  rw [Bool.eq_iff_iff, beq_iff_eq, beq_iff_eq]
  exact ⟨Vocabulary.word_injective a b, congrArg _⟩

/-- A field that may be set has a condition and a test if it is. -/
theorem forall₂_toList {α : Type} {part : α → String × Relation × Value} {test : α → Request → Bool}
    (h : ∀ a, Tests (part a) (test a)) (a? : Option α) :
    List.Forall₂ Tests (a?.map part).toList (a?.map test).toList := by
  cases a? with
  | none => exact .nil
  | some a => exact .cons (h a) .nil

/-- **Each condition is the test of its field.** -/
theorem forall₂_filterParts (f : RequestFilter) : List.Forall₂ Tests (filterParts f) f.tests := by
  have hsymbol : ∀ a, Tests ("symbol_id", .eq, .int a) (fun r => r.symbol == a) :=
    fun a row r h => by rw [h.symbol]; rfl
  have hinvestor : ∀ a, Tests ("investor_id", .eq, .int a) (fun r => r.investor == a) :=
    fun a row r h => by rw [h.investor]; rfl
  have haccount : ∀ a, Tests ("account_no", .eq, .text a) (fun r => r.account == a) :=
    fun a row r h => by rw [h.account]; rfl
  have hstatus : ∀ a, Tests ("status", .eq, wordOf a) (fun r => r.status == a) :=
    fun a row r h => by rw [h.status]; exact word_beq _ _
  have hkind : ∀ a, Tests ("request_type", .eq, wordOf a) (fun r => r.kind == a) :=
    fun a row r h => by rw [h.kind]; exact word_beq _ _
  have hasset : ∀ a, Tests ("asset_type", .eq, wordOf a) (fun r => r.asset == a) :=
    fun a row r h => by rw [h.asset]; exact word_beq _ _
  have hrateFrom : ∀ a, Tests ("loan_rate", .ge, .decimal a) (fun r => a ≤ r.loanRate) :=
    fun a row r h => by rw [h.loanRate]; exact decide_eq_decide.2 Decimal.le_iff_worth.symm
  have hrateTo : ∀ a, Tests ("loan_rate", .le, .decimal a) (fun r => r.loanRate ≤ a) :=
    fun a row r h => by rw [h.loanRate]; exact decide_eq_decide.2 Decimal.le_iff_worth.symm
  have hcreatedFrom : ∀ a, Tests ("created_at", .ge, .time a) (fun r => a ≤ r.createdAt) :=
    fun a row r h => by rw [h.createdAt]; rfl
  have hcreatedTo : ∀ a, Tests ("created_at", .le, .time a) (fun r => r.createdAt ≤ a) :=
    fun a row r h => by rw [h.createdAt]; rfl
  have happend := @List.rel_append _ _ Tests
  exact happend (happend (happend (happend (happend (happend (happend (happend (happend
    (forall₂_toList hsymbol _) (forall₂_toList hinvestor _)) (forall₂_toList haccount _))
    (forall₂_toList hstatus _)) (forall₂_toList hkind _)) (forall₂_toList hasset _))
    (forall₂_toList hrateFrom _)) (forall₂_toList hrateTo _)) (forall₂_toList hcreatedFrom _))
    (forall₂_toList hcreatedTo _)

/-! ### Values at their places -/

section Bound

variable (parts : List (String × Relation × Value))

/-- There is one condition for each part. -/
theorem length_bindParts : (bindParts parts).1.length = parts.length := by
  rw [bindParts, List.length_map, List.length_zipIdx]

/-- The places are counted from one, in the order of the conditions. -/
theorem operands_bindParts : (bindParts parts).1.map (·.operand) = places 1 parts.length := by
  have hplaces : (parts.zipIdx 1).map Prod.snd = (List.range parts.length).map (1 + ·) := by
    rw [List.zipIdx_map_snd, List.range'_eq_map_range]
  calc (bindParts parts).1.map (·.operand)
      = ((parts.zipIdx 1).map Prod.snd).map Operand.bound := by
        rw [bindParts, List.map_map, List.map_map]
        rfl
    _ = places 1 parts.length := by rw [hplaces, List.map_map, places]; rfl

/-- A condition compares with the value at its own place. -/
theorem getElem_bindParts {i : Nat} (h : i < (bindParts parts).1.length) (hi : i < parts.length) :
    (bindParts parts).1[i] = ⟨parts[i].1, parts[i].2.1, .bound (i + 1)⟩ := by
  simp [bindParts, Nat.add_comm]

/-- A condition finds its own value, whatever values follow those of the conditions. -/
theorem value_bindParts {i : Nat} (hi : i < parts.length) (extra : List Value) :
    (Operand.bound (i + 1)).value ((bindParts parts).2 ++ extra) = parts[i].2.2 := by
  rw [Operand.value, List.getElem?_append_left (by simpa [bindParts] using hi)]
  simp [bindParts, hi]

/-- The values that the conditions compare with are those that were bound, in their order. -/
theorem values_bindParts (extra : List Value) :
    (bindParts parts).1.map (·.operand.value ((bindParts parts).2 ++ extra)) =
      (bindParts parts).2 := by
  refine List.ext_getElem (by simp [bindParts]) fun i hi hi' => ?_
  have hlen : i < parts.length := by simpa [bindParts] using hi'
  rw [List.getElem_map, getElem_bindParts parts _ hlen, value_bindParts parts hlen extra]
  simp [bindParts]

end Bound

/-- Each condition of a filter says of a row what the test of its field says of the request in it. -/
theorem forall₂_filterConditions (f : RequestFilter) (extra : List Value) : List.Forall₂
    (fun c test => ∀ row r, readRequest row = .ok (.ok r) →
      Condition.holds (filterParams f ++ extra) row c = test r) (filterConditions f) f.tests := by
  obtain ⟨hlen, hparts⟩ := List.forall₂_iff_get.1 (forall₂_filterParts f)
  refine List.forall₂_iff_get.2 ⟨(length_bindParts _).trans hlen, fun i hc ht row r hr => ?_⟩
  have hi : i < (filterParts f).length := hlen ▸ ht
  have hget : (filterConditions f).get ⟨i, hc⟩ =
      ⟨(filterParts f)[i].1, (filterParts f)[i].2.1, .bound (i + 1)⟩ := getElem_bindParts _ hc hi
  have hvalue : (Operand.bound (i + 1)).value (filterParams f ++ extra) = (filterParts f)[i].2.2 :=
    value_bindParts _ hi extra
  rw [hget, Condition.holds, hvalue]
  exact hparts i hi ht row r (readRequest_eq_ok.1 hr)

/-- Conditions that say what tests say all hold if all tests are passed. -/
theorem forall_holds_iff {params : List Value} {row : Row} {r : Request} {cs : List Condition}
    {tests : List (Request → Bool)}
    (h : List.Forall₂ (fun c test => Condition.holds params row c = test r) cs tests) :
    (∀ c ∈ cs, c.holds params row) ↔ tests.all (· r) := by
  induction h with
  | nil => simp
  | cons hc _ ih => rw [List.forall_mem_cons, hc, ih, List.all_cons, Bool.and_eq_true]

/-- The statement for a page in words: the places of limit and offset come after those of the
conditions. -/
theorem text_listRequestsQuery (f : RequestFilter) (page : Page) :
    (listRequestsQuery f page).statement.text =
      "SELECT " ++ commas requestColumns ++ " FROM loan_package_requests" ++
        conditionsText true (filterConditions f) ++ " ORDER BY created_at DESC, id DESC LIMIT " ++
        (Operand.bound ((filterParams f).length + 1)).text ++ " OFFSET " ++
        (Operand.bound ((filterParams f).length + 2)).text := by
  have horder : orderText "" newestOrder = " ORDER BY created_at DESC, id DESC" := by decide
  show "SELECT " ++ commas requestColumns ++ " FROM " ++ requestTable ++
    conditionsText true (filterConditions f) ++ orderText "" newestOrder ++
    (" LIMIT " ++ (Operand.bound ((filterParams f).length + 1)).text) ++
    (" OFFSET " ++ (Operand.bound ((filterParams f).length + 2)).text) ++ "" = _
  rw [horder]
  simp only [String.append_assoc, String.append_empty]
  rfl

/-- **A filter is the conditions of its statements.** The statement for a page and the one for the
number of requests have the same conditions, one for every field that is set, and the same values,
bound to places that are counted from one, so that each condition compares with its own; limit and
offset of the page come last. Each condition says of a row what the test of its field says of the
request in it, and so a row satisfies all of them if and only if the filter accepts the request. -/
theorem filter_conditions (f : RequestFilter) (page : Page) :
    let selected := " WHERE " ++
      String.intercalate " AND " ("TRUE" :: (filterConditions f).map Condition.text)
    let count := f.tests.length
    (listRequestsQuery f page).statement.text =
      "SELECT " ++ commas requestColumns ++ " FROM loan_package_requests" ++ selected ++
        " ORDER BY created_at DESC, id DESC LIMIT " ++ (Operand.bound (count + 1)).text ++
        " OFFSET " ++ (Operand.bound (count + 2)).text ∧
    (countRequestsQuery f).statement.text =
      "SELECT COUNT(*) FROM loan_package_requests" ++ selected ∧
    (listRequestsQuery f page).params = filterParams f ++ [.int page.limit, .int page.offset] ∧
    (countRequestsQuery f).params = filterParams f ∧
    (filterParams f).length = count ∧
    (filterConditions f).map (·.operand) = places 1 count ∧
    ∀ q, q = listRequestsQuery f page ∨ q = countRequestsQuery f →
      (filterConditions f).map (·.operand.value q.params) = filterParams f ∧
      List.Forall₂ (fun c test => ∀ row r, readRequest row = .ok (.ok r) →
        Condition.holds q.params row c = test r) (filterConditions f) f.tests ∧
      ∀ row r, readRequest row = .ok (.ok r) →
        ((∀ c ∈ filterConditions f, c.holds q.params row) ↔ f.accepts r) := by
  intro selected count
  have hlen : (filterParts f).length = count := (forall₂_filterParts f).length_eq
  have hparams : (filterParams f).length = count := (List.length_map _).trans hlen
  refine ⟨?_, rfl, rfl, rfl, hparams, hlen ▸ operands_bindParts _, fun q hq => ?_⟩
  · rw [← hparams]
    exact text_listRequestsQuery f page
  · obtain ⟨extra, hextra⟩ : ∃ extra, q.params = filterParams f ++ extra := by
      rcases hq with rfl | rfl
      · exact ⟨_, rfl⟩
      · exact ⟨[], (List.append_nil _).symm⟩
    have htests := forall₂_filterConditions f extra
    rw [hextra]
    refine ⟨values_bindParts _ extra, htests, fun row r hr => ?_⟩
    rw [f.accepts_eq_all_tests]
    exact forall_holds_iff (htests.imp fun c test h => h row r hr)

namespace Story

/-- Requests on symbol 1 that are open, of a rate of one at least, made no later than 1970 began. -/
def bounded : RequestFilter where
  symbol := some 1
  status := some .pending
  rateFrom := some .one
  createdTo := some .epoch

/-- Request 1, of a rate of one, made when 1970 began. -/
def early : Request :=
  RequestDraft.toRequest ⟨1, 7, "A1", .flexible, .underlying .one .one⟩ 1 .epoch

/-- Request 1 lies on both bounds, and it is selected. -/
theorem filter_conditions_bounded :
    (countRequestsQuery bounded).statement.text =
      "SELECT COUNT(*) FROM loan_package_requests WHERE TRUE AND symbol_id = $1 AND status = $2 " ++
        "AND loan_rate >= $3 AND created_at <= $4" ∧
    ∀ c ∈ filterConditions bounded, c.holds (countRequestsQuery bounded).params (requestRow early) := by
  obtain ⟨-, htext, -, -, -, -, hq⟩ := filter_conditions bounded .default
  obtain ⟨-, -, hrows⟩ := hq _ (Or.inr rfl)
  exact ⟨htext.trans (by decide), (hrows _ _ (readRequest_requestRow early)).2 (by decide)⟩

end Story

end Sql
end LoanDesk
