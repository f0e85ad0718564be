/-
# How entities are laid out in rows

A row has a value of its type in every column, and nothing only in the columns that may hold nothing
(`Layout.Formed`). Statuses, kinds, reasons and flows stand there as texts, and any text may stand
there; only the words of the column name something (`Layout.Spelt`). The first column with another
text is at fault: the table, what the column names, and the text (`Layout.Blames`).
-/

import LoanDesk.Proofs.Sql.Reading

namespace LoanDesk
namespace Sql

/-! ### Values by type -/

namespace ColumnType

/-- What the values of a type are made of. -/
abbrev Carrier : ColumnType → Type
  | bool => Bool
  | int => Int
  | decimal => Decimal
  | text => String
  | time => Instant
  | json => Json

/-- The values of a type. -/
def value : (t : ColumnType) → t.Carrier → Value
  | bool => .bool
  | int => .int
  | decimal => .decimal
  | text => .text
  | time => .time
  | json => .json

/-- The value is of the type. -/
def has : ColumnType → Value → Bool
  | bool, .bool _ | int, .int _ | decimal, .decimal _ | text, .text _ | time, .time _
  | json, .json _ => true
  | _, _ => false

/-- What is of a type is a value of it. -/
theorem exists_of_has {t : ColumnType} {v : Value} (h : t.has v) : ∃ x, v = t.value x := by
  unfold has at h
  split at h
  case h_7 => cases h
  all_goals exact ⟨_, rfl⟩

end ColumnType

/-- There is no value. -/
def Value.isNull : Value → Bool
  | .null => true
  | _ => false

/-- What is empty is the empty value. -/
theorem Value.eq_null {v : Value} (h : v.isNull) : v = .null := by
  unfold isNull at h
  split at h
  · rfl
  · cases h

/-! ### Columns and their words -/

/-- A column whose texts name something. -/
structure WordColumn where
  column : String
  /-- What the texts name, as messages say it. -/
  kind : String
  /-- The texts that name something. -/
  words : List String

namespace WordColumn

/-- The column of the words of a vocabulary. -/
def of (α : Type) [Vocabulary α] (column : String) : WordColumn :=
  ⟨column, Vocabulary.kind α, (Vocabulary.all : List α).map Vocabulary.word⟩

/-- The text in the column, if there is one, is one of its words. -/
def Spelt (c : WordColumn) (row : Row) : Prop := ∀ s, cell row c.column = .text s → s ∈ c.words

end WordColumn

/-- How the entities of a table are laid out in its rows. -/
structure Layout (α : Type) where
  table : String
  columns : List String
  /-- The columns that may hold nothing. -/
  optional : List String
  wordColumns : List WordColumn
  /-- Words that are stored as nothing, each with its column. -/
  unwritten : List (String × String) := []
  read : Row → Cells (Words α)
  /-- The row that an entity is stored in. -/
  row : α → Row
  /-- Words are looked up in the order of the columns. -/
  ordered : (wordColumns.map (·.column)).Sublist columns

namespace Layout

/-- The rows of requests. -/
def requests : Layout Request where
  table := requestTable
  columns := requestColumns
  optional := ["initial_rate", "contract_size"]
  wordColumns :=
    [.of RequestKind "request_type", .of AssetKind "asset_type", .of RequestStatus "status"]
  read := readRequest
  row := requestRow
  ordered := by decide

/-- The rows of offers. -/
def offers : Layout Offer where
  table := offerTable
  columns := offerColumns
  optional := ["flow_type", "expired_at"]
  wordColumns := [.of Flow "flow_type"]
  unwritten := [("flow_type", "UNSPECIFIED")]
  read := readOffer
  row := offerRow
  ordered := by decide

/-- The rows of lines. -/
def lines : Layout Line where
  table := lineTable
  columns := lineColumns
  optional := ["score_group_id", "cancelled_by", "cancelled_at", "contract_id"]
  wordColumns := [.of LineStatus "status", .of CancelReason "cancelled_reason"]
  read := readLine
  row := lineRow
  ordered := by decide

/-- The rows of job records. -/
def jobs : Layout JobRecord where
  table := jobTable
  columns := jobColumns
  optional := []
  wordColumns := [.of JobKind "job_type", .of JobStatus "status"]
  read := readJob
  row := jobRow
  ordered := by decide

variable {α : Type} (l : Layout α)

/-- A row of the table: every column holds a value of its type, or nothing where it may. -/
def Formed (row : Row) : Prop :=
  ∀ c ∈ l.columns, (ColumnType.ofName c).has (cell row c) ∨ (c ∈ l.optional ∧ (cell row c).isNull)

instance (row : Row) : Decidable (l.Formed row) :=
  inferInstanceAs (Decidable (∀ c ∈ l.columns, _))

/-- Every text of the row that has to name something does. -/
def Spelt (row : Row) : Prop := ∀ c ∈ l.wordColumns, c.Spelt row

/-- The error tells the first text of the row that names nothing. -/
def Blames (row : Row) (e : StoreError) : Prop :=
  ∃ before c after s, l.wordColumns = before ++ c :: after ∧ (∀ b ∈ before, b.Spelt row) ∧
    cell row c.column = .text s ∧ s ∉ c.words ∧ e = .corrupt l.table (.unknownWord c.kind s)

/-- What is stored where a value was. -/
def storedValue (column : String) : Value → Value
  | .text s => if (column, s) ∈ l.unwritten then .null else .text s
  | v => v

/-- What is stored where a row was. -/
def stored (row : Row) : Row := l.columns.map fun c => (c, l.storedValue c (cell row c))

end Layout

/-- The columns of words, with what these name. -/
example : Layout.requests.wordColumns ++ Layout.offers.wordColumns ++ Layout.lines.wordColumns ++
      Layout.jobs.wordColumns =
    [⟨"request_type", "request type", ["FLEXIBLE", "GUARANTEED"]⟩,
      ⟨"asset_type", "asset type", ["UNDERLYING", "DERIVATIVE"]⟩,
      ⟨"status", "request status", ["PENDING", "CONFIRMED"]⟩,
      ⟨"flow_type", "flow type", ["ONLINE", "OFFLINE", "UNSPECIFIED"]⟩,
      ⟨"status", "offer interest status",
        ["PENDING", "CANCELLED", "SIGNED", "CREATING_LOAN_PACKAGE", "PACKAGE_CREATED"]⟩,
      ⟨"cancelled_reason", "cancelled reason",
        ["UNKNOWN", "EXPIRED", "INVESTOR", "ADMIN", "ALTERNATIVE_OPTION", "HIGH_LOAN_RATE"]⟩,
      ⟨"job_type", "scheduler job type", ["DECLINE_HIGH_LOAN_REQUESTS", "EXPIRE_OFFERS"]⟩,
      ⟨"status", "scheduler job status", ["SUCCESS", "FAIL"]⟩] := rfl

/-! ### Faults -/

/-- Where there is a fault it is told, and else there is a result with a property. -/
def Settles {α : Type} (fault? : Option StoreError) (w : Words α) (P : α → Prop) : Prop :=
  match fault? with
  | some e => w = .error e
  | none => ∃ a, w = .ok a ∧ P a

namespace Settles

variable {α β : Type} {f : Option StoreError} {w : Words α} {P : α → Prop}

/-- There is a result where there is no fault. -/
theorem ok_iff (h : Settles f w P) : (∃ a, w = .ok a) ↔ f = none := by
  cases f with
  | some e =>
    obtain rfl : w = .error e := h
    simp
  | none =>
    obtain ⟨a, rfl, -⟩ := h
    simp

/-- The fault that is told is the one there is. -/
theorem error_iff (h : Settles f w P) {e : StoreError} : w = .error e ↔ f = some e := by
  cases f with
  | some e' =>
    obtain rfl : w = .error e' := h
    simp
  | none =>
    obtain ⟨a, rfl, -⟩ := h
    simp

/-- The result has the property. -/
theorem of_ok (h : Settles f w P) {a : α} (hw : w = .ok a) : P a := by
  obtain rfl : f = none := h.ok_iff.1 ⟨a, hw⟩
  obtain ⟨b, rfl, hb⟩ := h
  rwa [← Except.ok.inj hw]

/-- The result has every weaker property. -/
theorem imp (h : Settles f w P) {Q : α → Prop} (hPQ : ∀ a, P a → Q a) : Settles f w Q := by
  cases f with
  | some e => exact h
  | none =>
    obtain ⟨a, hw, ha⟩ := h
    exact ⟨a, hw, hPQ a ha⟩

/-- Of two faults the first is told. -/
theorem bind (hw : Settles f w P) {g : Option StoreError} {k : α → Words β} {Q : β → Prop}
    (hk : ∀ a, P a → Settles g (k a) Q) : Settles (f.or g) (w >>= k) Q := by
  cases f with
  | some e =>
    obtain rfl : w = .error e := hw
    rfl
  | none =>
    obtain ⟨a, rfl, ha⟩ := hw
    exact hk a ha

/-- The result is passed on. -/
theorem map (hw : Settles f w P) {g : α → β} {Q : β → Prop} (hg : ∀ a, P a → Q (g a)) :
    Settles f (w >>= fun a => pure (g a)) Q := by
  have h := hw.bind (g := none) (k := fun a => pure (g a)) fun a ha => ⟨g a, rfl, hg a ha⟩
  rwa [Option.or_none] at h

/-- Of several faults the first is told. -/
theorem cons {γ : Type} {faultOf : γ → Option StoreError} {x : γ} {xs : List γ}
    (hw : Settles (faultOf x) w P) {k : α → Words β} {Q : β → Prop}
    (hk : ∀ a, P a → Settles (xs.findSome? faultOf) (k a) Q) :
    Settles ((x :: xs).findSome? faultOf) (w >>= k) Q := by
  have hor : (x :: xs).findSome? faultOf = (faultOf x).or (xs.findSome? faultOf) := by
    rw [List.findSome?_cons]
    cases faultOf x <;> rfl
  exact hor ▸ hw.bind hk

end Settles

namespace WordColumn

/-- What is wrong with the text in the column. -/
def fault? (table : String) (row : Row) (c : WordColumn) : Option StoreError :=
  match cell row c.column with
  | .text s => if s ∈ c.words then none else some (.corrupt table (.unknownWord c.kind s))
  | _ => none

variable {table : String} {row : Row} {c : WordColumn}

/-- A text that names something is no fault. -/
theorem fault?_eq_none : c.fault? table row = none ↔ c.Spelt row := by
  unfold fault? Spelt
  cases cell row c.column <;> simp

/-- The fault tells the text that names nothing. -/
theorem fault?_eq_some {e : StoreError} : c.fault? table row = some e ↔
    ∃ s, cell row c.column = .text s ∧ s ∉ c.words ∧ e = .corrupt table (.unknownWord c.kind s) := by
  unfold fault?
  cases cell row c.column <;> simp [eq_comm]

/-- A text is looked up as the value that it names, and nothing else is read in its place. -/
theorem settles {α : Type} [Vocabulary α] {column s : String} (h : cell row column = .text s) :
    Settles ((of α column).fault? table row) (word table s) fun a : α => s = Vocabulary.word a := by
  have hwords : s ∈ (of α column).words ↔ ∃ a : α, Vocabulary.word a = s :=
    List.mem_map.trans ⟨fun ⟨a, _, ha⟩ => ⟨a, ha⟩, fun ⟨a, ha⟩ => ⟨a, Vocabulary.mem_all a, ha⟩⟩
  have hfault : (of α column).fault? table row = if s ∈ (of α column).words then none
      else some (.corrupt table (.unknownWord (Vocabulary.kind α) s)) := by
    rw [fault?, show (of α column).column = column from rfl, h]
    rfl
  rw [hfault, word, Vocabulary.parse]
  cases hs : Vocabulary.find? (α := α) s with
  | some a =>
    have hspelt := Vocabulary.eq_word_of_find? hs
    rw [if_pos (hwords.2 ⟨a, hspelt.symm⟩)]
    exact ⟨a, rfl, hspelt⟩
  | none =>
    have hnot : s ∉ (of α column).words := by
      intro hmem
      obtain ⟨a, rfl⟩ := hwords.1 hmem
      rw [Vocabulary.find?_word] at hs
      cases hs
    rw [if_neg hnot]
    rfl

end WordColumn

namespace Layout

variable {α : Type} {l : Layout α} {row : Row} {e : StoreError}

/-- What is wrong with the first text of the row that names nothing. -/
def fault? (l : Layout α) (row : Row) : Option StoreError :=
  l.wordColumns.findSome? (·.fault? l.table row)

/-- A row is without fault when all of its texts name something. -/
theorem fault?_eq_none : l.fault? row = none ↔ l.Spelt row := by
  rw [fault?, List.findSome?_eq_none_iff]
  exact forall₂_congr fun c _ => WordColumn.fault?_eq_none

/-- The fault of a row is that of the first column to blame. -/
theorem fault?_eq_some : l.fault? row = some e ↔ l.Blames row e := by
  rw [fault?, List.findSome?_eq_some_iff]
  simp only [WordColumn.fault?_eq_none, WordColumn.fault?_eq_some]
  constructor
  · rintro ⟨before, c, after, hc, ⟨s, hs⟩, hbefore⟩
    exact ⟨before, c, after, s, hc, hbefore, hs⟩
  · rintro ⟨before, c, after, s, hc, hbefore, hs⟩
    exact ⟨before, c, after, hc, ⟨s, hs⟩, hbefore⟩

end Layout
end Sql
end LoanDesk
