import RequestSql.Proofs.Text.Blank
import RequestSql.Request.Params

/-!
# Parameters that are present

A parameter is present if there is something to read in it, a character that is no blank. What is
read then is the parameter without the blanks at its ends, and its pieces between separators are
the same as before, once the blanks at their ends are left out too.

Key definitions: `IsPresent`, `trimmed`.
Key theorems: `present?_eq_none`, `present?_eq_some`, `map_trimmed_pieces`.
-/

namespace RequestSql

open Text (Blanks)

/-- The text without the blanks at its ends. -/
def trimmed (text : String) : String := String.ofList (Text.trim text.toList)

/-- The parameter is given and is more than blanks. -/
def IsPresent (param : Option String) : Prop :=
  ∃ text, param = some text ∧ ∃ c ∈ text.toList, Text.isBlank c = false

theorem isPresent_some {text : String} : IsPresent (some text) ↔ ¬Blanks text.toList := by
  simp [IsPresent, Blanks]

theorem not_isPresent_none : ¬IsPresent none := by
  rintro ⟨text, h, -⟩
  cases h

theorem present?_eq_none {param : Option String} : present? param = none ↔ ¬IsPresent param := by
  cases param with
  | none => exact iff_of_true rfl not_isPresent_none
  | some text =>
    simp only [isPresent_some, not_not, present?, ite_eq_left_iff, reduceCtorEq, imp_false,
      List.isEmpty_iff, Text.trim_eq_nil]

theorem present?_eq_some {param : Option String} {core : String} :
    present? param = some core ↔
      IsPresent param ∧ ∃ text, param = some text ∧ core = trimmed text := by
  by_cases hpresent : IsPresent param
  · obtain ⟨text, rfl, -⟩ := id hpresent
    have hmore : ¬(Text.trim text.toList).isEmpty = true := by
      rw [List.isEmpty_iff, Text.trim_eq_nil]
      exact isPresent_some.1 hpresent
    have hread : present? (some text) = some (trimmed text) := if_neg hmore
    simp only [hread, Option.some.injEq, hpresent, true_and, exists_eq_left', eq_comm]
  · rw [present?_eq_none.2 hpresent]
    exact iff_of_false nofun fun h => hpresent h.1

theorem present?_some {text : String} (h : IsPresent (some text)) :
    present? (some text) = some (trimmed text) :=
  present?_eq_some.2 ⟨h, text, rfl, rfl⟩

/-- A trimmed text has blanks around it, and none at its ends. -/
theorem trimmed_eq_iff {text core : String} :
    trimmed text = core ↔ Text.Tight core.toList ∧
      ∃ lead trail, Blanks lead ∧ Blanks trail ∧ text.toList = lead ++ (core.toList ++ trail) := by
  rw [← Text.trim_eq_iff, trimmed, ← String.toList_inj, String.toList_ofList]

/-- Trimming a text does not change its trimmed pieces. -/
theorem map_trimmed_pieces {separator : Char} (hseparator : Text.isBlank separator = false)
    (text : String) :
    (Text.pieces separator (trimmed text)).map trimmed =
      (Text.pieces separator text).map trimmed := by
  have hpieces : ∀ text : String, (Text.pieces separator text).map trimmed =
      ((text.toList.splitOn separator).map Text.trim).map String.ofList := by
    intro text
    simp [Text.pieces, trimmed, Function.comp_def]
  rw [hpieces, hpieces, trimmed, String.toList_ofList, Text.map_trim_splitOn_trim hseparator]

end RequestSql
