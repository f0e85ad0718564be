/-
# Vocabularies

`domain/status`: what the eight closed enumerations have in common, `as_str` as `word` and reading
as `find?`.

A vocabulary is a closed list of values, each with a word of its own. Statuses, kinds and reasons
are stored and sent as such words.

Reading takes the exact word and nothing else: `find?_word` and `eq_word_of_find?` say that a text
is read as `a` if and only if it is the word of `a`.
-/

import LoanDesk.Json.Record

namespace LoanDesk

/-- A type whose values are named by words. -/
class Vocabulary (α : Type) where
  /-- What the words name, as messages say it. -/
  kind : String
  /-- Every value, in order. -/
  all : List α
  /-- The word of a value. -/
  word : α → String
  mem_all : ∀ a, a ∈ all
  word_injective : ∀ a b, word a = word b → a = b

namespace Vocabulary

variable {α : Type} [Vocabulary α]

/-- The value that a text names. -/
def find? (s : String) : Option α := (all : List α).find? fun a => word a == s

/-- A text that names a value is the word of that value. -/
theorem eq_word_of_find? {s : String} {a : α} (h : find? s = some a) : s = word a := by
  unfold find? at h
  have := List.find?_some h
  simp_all

/-- The word of a value names it. -/
theorem find?_word (a : α) : find? (word a) = some a := by
  unfold find?
  cases h : (all : List α).find? fun b => word b == word a with
  | none => simpa using List.find?_eq_none.1 h a (mem_all a)
  | some b =>
    have := List.find?_some h
    rw [word_injective b a (by simpa using this)]

/-- **A text names a value just if it is its word**, letter by letter. -/
theorem find?_eq_some_iff {s : String} {a : α} : find? s = some a ↔ s = word a :=
  ⟨eq_word_of_find?, fun h => h ▸ find?_word a⟩

instance (priority := low) : Coded α where
  toJson a := .str (word a)
  ofJson? j := j.word?.bind find?

end Vocabulary
end LoanDesk
