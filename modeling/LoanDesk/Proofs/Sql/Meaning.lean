/-
# What conditions mean

A condition compares a column of a row with a value that stands in the statement or is bound to one
of its places. Values are compared as what they are: decimals by their worth, which is a rational
number, texts letter by letter, times as points in time. A comparison with nothing, or of values of
different types, does not hold.

A row reads as a request if and only if its columns hold what the request has there: numbers, times
and decimals as they are, and the words of kinds and statuses (`readRequest_eq_ok`).
-/

import LoanDesk.Proofs.Store.Answers
import LoanDesk.Sql.Calls
import Mathlib.Algebra.Order.Field.Basic
import Mathlib.Algebra.Order.Ring.Rat
import Mathlib.Tactic.Positivity

namespace LoanDesk

/-- What a decimal is worth. -/
def Decimal.worth (d : Decimal) : ℚ := d.unscaled / 10 ^ d.scale

/-- Decimals are ordered by their worth. -/
theorem Decimal.le_iff_worth {a b : Decimal} : a ≤ b ↔ a.worth ≤ b.worth := by
  have hpow : ∀ n : Nat, (0 : ℚ) < 10 ^ n := fun n => by positivity
  rw [worth, worth, div_le_div_iff₀ (hpow _) (hpow _), le_def]
  exact_mod_cast Iff.rfl

namespace Sql

/-! ### Comparing values -/

namespace Value

/-- The values are equal. -/
def same : Value → Value → Bool
  | bool a, bool b => a == b
  | int a, int b => a == b
  | decimal a, decimal b => a.worth == b.worth
  | text a, text b => a == b
  | time a, time b => a == b
  | _, _ => false

/-- The first value is at most the second. -/
def atMost : Value → Value → Bool
  | int a, int b => a ≤ b
  | decimal a, decimal b => a.worth ≤ b.worth
  | time a, time b => a ≤ b
  | _, _ => false

/-- The value is one of several. -/
def isOneOf : Value → Value → Bool
  | int a, ints bs => bs.contains a
  | _, _ => false

end Value

/-- How a column relates to a value. -/
def Relation.holds : Relation → Value → Value → Bool
  | eq, column, v => column.same v
  | le, column, v => column.atMost v
  | ge, column, v => v.atMost column
  | lt, column, v => column.atMost v && !column.same v
  | among, column, v => column.isOneOf v

/-- The value that stands for an operand when values are bound to the places, counted from one. -/
def Operand.value (params : List Value) : Operand → Value
  | bound 0 => .null
  | bound (place + 1) => params[place]?.getD .null
  | word s => .text s
  | number n => .int n

/-- The row satisfies the condition. -/
def Condition.holds (params : List Value) (row : Row) (c : Condition) : Bool :=
  c.relation.holds (cell row c.column) (c.operand.value params)

/-! ### Rows of requests -/

section Cells

variable {row : Row} {column : String}

/-- A number is read where one stands. -/
theorem intAt_eq_ok {n : Int} : intAt row column = .ok n ↔ cell row column = .int n := by
  unfold intAt isNull
  split <;> simp_all

/-- A text is read where one stands. -/
theorem textAt_eq_ok {s : String} : textAt row column = .ok s ↔ cell row column = .text s := by
  unfold textAt isNull
  split <;> simp_all

/-- A decimal is read where one stands. -/
theorem decimalAt_eq_ok {d : Decimal} :
    decimalAt row column = .ok d ↔ cell row column = .decimal d := by
  unfold decimalAt isNull
  split <;> simp_all

/-- A time is read where one stands. -/
theorem timeAt_eq_ok {t : Instant} : timeAt row column = .ok t ↔ cell row column = .time t := by
  unfold timeAt isNull
  split <;> simp_all

end Cells

/-- A text is read as what it names. -/
theorem word_eq_ok {α : Type} [Vocabulary α] {table text : String} {a : α} :
    word table text = .ok a ↔ text = Vocabulary.word a := by
  rw [← Vocabulary.find?_eq_some_iff, word, Vocabulary.parse]
  cases Vocabulary.find? (α := α) text <;> simp

/-- The row holds the request: in every column what the request has there, and words for what is
named by words. -/
structure Holds (row : Row) (r : Request) : Prop where
  id : cell row "id" = .int r.id
  symbol : cell row "symbol_id" = .int r.symbol
  investor : cell row "investor_id" = .int r.investor
  account : cell row "account_no" = .text r.account
  loanRate : cell row "loan_rate" = .decimal r.loanRate
  limitAmount : cell row "limit_amount" = .decimal r.limitAmount
  kind : cell row "request_type" = .text (Vocabulary.word r.kind)
  asset : cell row "asset_type" = .text (Vocabulary.word r.asset)
  initialRate : decimalAt? row "initial_rate" = r.initialRate
  contractSize : intAt? row "contract_size" = r.contractSize
  status : cell row "status" = .text (Vocabulary.word r.status)
  createdAt : cell row "created_at" = .time r.createdAt
  updatedAt : cell row "updated_at" = .time r.updatedAt

/-- A row reads as the request that it holds. -/
theorem readRequest_eq_ok {row : Row} {r : Request} :
    readRequest row = .ok (.ok r) ↔ Holds row r := by
  unfold readRequest
  simp only [Book.bind_eq_ok, intAt_eq_ok, textAt_eq_ok, decimalAt_eq_ok, timeAt_eq_ok, pure,
    Except.pure, Except.ok.injEq, word_eq_ok]
  constructor
  · rintro ⟨id, hid, symbol, hsymbol, investor, hinvestor, account, haccount, rate, hrate, limit,
      hlimit, kind, hkind, asset, hasset, status, hstatus, created, hcreated, updated, hupdated, h⟩
    obtain ⟨_, rfl, _, rfl, _, rfl, rfl⟩ := h
    exact ⟨hid, hsymbol, hinvestor, haccount, hrate, hlimit, hkind, hasset, rfl, rfl, hstatus,
      hcreated, hupdated⟩
  · rintro ⟨hid, hsymbol, hinvestor, haccount, hrate, hlimit, hkind, hasset, hinitial, hsize, hstatus,
      hcreated, hupdated⟩
    refine ⟨_, hid, _, hsymbol, _, hinvestor, _, haccount, _, hrate, _, hlimit, _, hkind, _, hasset,
      _, hstatus, _, hcreated, _, hupdated, _, rfl, _, rfl, _, rfl, ?_⟩
    rw [hinitial, hsize]

/-- The row that a request is stored in. -/
def requestRow (r : Request) : Row :=
  [("id", .int r.id), ("symbol_id", .int r.symbol), ("investor_id", .int r.investor),
    ("account_no", .text r.account), ("loan_rate", .decimal r.loanRate),
    ("limit_amount", .decimal r.limitAmount), ("request_type", wordOf r.kind),
    ("asset_type", wordOf r.asset), ("initial_rate", .ofOption .decimal r.initialRate),
    ("contract_size", .ofOption .int r.contractSize), ("status", wordOf r.status),
    ("created_at", .time r.createdAt), ("updated_at", .time r.updatedAt)]

/-- A request is read back from its row. -/
theorem readRequest_requestRow (r : Request) : readRequest (requestRow r) = .ok (.ok r) := by
  refine readRequest_eq_ok.2 ⟨rfl, rfl, rfl, rfl, rfl, rfl, rfl, rfl, ?_, ?_, rfl, rfl, rfl⟩
  · have hcell : cell (requestRow r) "initial_rate" = .ofOption .decimal r.initialRate := rfl
    rw [decimalAt?, hcell]
    cases r.initialRate <;> rfl
  · have hcell : cell (requestRow r) "contract_size" = .ofOption .int r.contractSize := rfl
    rw [intAt?, hcell]
    cases r.contractSize <;> rfl

end Sql
end LoanDesk
