import RequestSql.Plan.Predicate
import RequestSql.Schema.WellFormed

/-!
# The characters of a predicate

The SQL text of a predicate character by character, for everything that reads such a text
from left to right. An identifier is a character that may begin one and then characters
that may continue one.

Key theorems: `Predicate.toList_text_compare`, `Predicate.toList_text_isNull`,
`Predicate.toList_text_logical`, `exists_cons_of_isIdentifier`.
-/

namespace RequestSql

theorem exists_cons_of_isIdentifier {name : String} (h : isIdentifier name = true) :
    ∃ c cs, name.toList = c :: cs ∧ isIdentifierStart c = true ∧
      ∀ d ∈ cs, isIdentifierPart d = true := by
  unfold isIdentifier at h
  split at h
  · cases h
  · next c cs heq =>
    rw [Bool.and_eq_true, List.all_eq_true] at h
    exact ⟨c, cs, heq, h.1, h.2⟩

/-- What begins an identifier may also continue one. -/
theorem isIdentifierPart_of_start {c : Char} (h : isIdentifierStart c = true) :
    isIdentifierPart c = true := by
  unfold isIdentifierStart at h
  unfold isIdentifierPart Char.isAlphanum
  rcases Bool.or_eq_true_iff.1 h with h | h <;> simp [h]

theorem isIdentifierPart_of_mem {name : String} (h : isIdentifier name = true) {c : Char}
    (hc : c ∈ name.toList) : isIdentifierPart c = true := by
  obtain ⟨d, ds, heq, hd, hds⟩ := exists_cons_of_isIdentifier h
  rw [heq] at hc
  rcases List.mem_cons.1 hc with rfl | hc
  · exact isIdentifierPart_of_start hd
  · exact hds c hc

/-- The table of a column, a point and its name. -/
theorem Column.toList_text (column : Column) :
    column.text.toList = column.table.toList ++ '.' :: column.name.toList := by
  simp [Column.text]

namespace Predicate

theorem toList_text_compare (column : Column) (op : CompareOp) (param : Param)
    (negated : Bool) :
    (compare column op param negated).text.toList =
      (negation negated).toList ++ '(' :: (column.table.toList ++ '.' ::
        (column.name.toList ++ ' ' :: (op.text.toList ++ [' ', '?', ')']))) := by
  simp [text, Column.text]

theorem toList_text_isNull (column : Column) (negated : Bool) :
    (isNull column negated).text.toList =
      (negation negated).toList ++ '(' :: (column.table.toList ++ '.' ::
        (column.name.toList ++ [' ', 'I', 'S', ' ', 'N', 'U', 'L', 'L', ')'])) := by
  simp [text, Column.text]

theorem toList_text_logical (combinator : Combinator) (negated : Bool)
    (left right : Predicate) :
    (logical combinator negated left right).text.toList =
      (negation negated).toList ++ '(' :: (left.text.toList ++ ' ' ::
        (combinator.keyword.toList ++ ' ' :: (right.text.toList ++ [')']))) := by
  simp [text]

end Predicate

end RequestSql
