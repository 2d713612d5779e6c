import RequestSql.Proofs.Query.Numbering

/-!
# The wording of a statement

The text of a statement, part by part: the table and its joins, the conditions, the order and
the window. A condition is its predicate with the marks numbered; the number of the first one
is one more than there are values in the conditions before it. A single condition stands as
it is, of several ones each stands in parentheses with `AND` between them. The numbers of the
limit and the offset come last.

Key definitions: `whereText`, `windowText`, `statementText`.
Key theorem: `Select.sql_eq`.
-/

namespace RequestSql

open Select (quotedName quotedColumn)

/-! ### The parts -/

/-- A condition whose first value is the `n`-th one. -/
def conditionText (n : Nat) (predicate : String × List Param) : String :=
  String.ofList (numberMarksFrom n predicate.1.toList)

/-- Further conditions, whose first value is the `n`-th one. -/
def conjunctsText (n : Nat) : List (String × List Param) → String
  | [] => ""
  | predicate :: predicates =>
    " AND (" ++ conditionText n predicate ++ ")" ++
      conjunctsText (n + predicate.2.length) predicates

/-- All conditions. -/
def whereText : List (String × List Param) → String
  | [] => ""
  | [predicate] => " WHERE " ++ conditionText 1 predicate
  | predicate :: predicates =>
    " WHERE (" ++ conditionText 1 predicate ++ ")" ++
      conjunctsText (1 + predicate.2.length) predicates

/-- A join, on all pairs of keys. -/
def joinedText (join : Join) : String :=
  " LEFT JOIN " ++ quotedName join.table ++ " ON " ++
    " AND ".intercalate
      (join.keyPairs.map fun pair => quotedColumn pair.1 ++ " = " ++ quotedColumn pair.2)

/-- The limit, which is the `n`-th value, and the offset, which is the next one. -/
def windowText (n : Nat) : Option Window → String
  | none => ""
  | some _ => " LIMIT $" ++ toString n ++ " OFFSET $" ++ toString (n + 1)

/-- The statement with these parts. -/
def statementText (table : String) (joins : List Join) (predicates : List (String × List Param))
    (terms : List OrderTerm) (window : Option Window) : String :=
  "SELECT " ++ quotedName table ++ ".* FROM " ++ quotedName table ++
    String.join (joins.map joinedText) ++ whereText predicates ++ Select.orderClause terms ++
      windowText (1 + (predicates.flatMap (·.2)).length) window

/-! ### What is written -/

section

variable {condition : String × List Param} {conditions : List (String × List Param)}

theorem numberedChars_enclosed (h : Marked condition.2.length condition.1.toList) (n : Nat) :
    numberedChars n (Select.enclosed condition) =
      '(' :: ((conditionText n condition).toList ++ [')']) := by
  have hclosing : ∀ m, numberedChars m [.text ")"] = [')'] := fun m => rfl
  rw [Select.enclosed, List.cons_append, numberedChars_text, numberedChars_append,
    h.numberedChars_splice, hclosing]
  simp [conditionText]

theorem numberedChars_conjuncts (h : Fitted conditions) (n : Nat) :
    numberedChars n
        (conditions.flatMap fun condition => .text " AND " :: Select.enclosed condition) =
      (conjunctsText n conditions).toList := by
  induction conditions generalizing n with
  | nil => rfl
  | cons condition conditions ih =>
    have hhead : Marked condition.2.length condition.1.toList := h _ (List.mem_cons_self ..)
    have hlength : (boundValues (.text " AND " :: Select.enclosed condition)).length =
        condition.2.length := by
      rw [boundValues, Select.boundValues_enclosed hhead, List.length_map]
    rw [List.flatMap_cons, numberedChars_append, hlength,
      ih (fun c hc => h c (List.mem_cons_of_mem _ hc)), numberedChars_text,
      numberedChars_enclosed hhead, conjunctsText]
    simp

/-- Conditions are written one after the other, each numbered on from those before it. -/
theorem numberedChars_wherePieces (h : Fitted conditions) :
    numberedChars 1 (Select.wherePieces conditions) = (whereText conditions).toList := by
  unfold Select.wherePieces
  split
  · rfl
  · next text params =>
    have hmarked : Marked params.length text.toList := h _ (List.mem_singleton.2 rfl)
    simp only [numberedChars_text, hmarked.numberedChars_splice, whereText, conditionText,
      String.toList_append, String.toList_ofList]
  · next condition conditions hseveral =>
    have hhead : Marked condition.2.length condition.1.toList := h _ (List.mem_cons_self ..)
    have htail : Fitted conditions := fun c hc => h c (List.mem_cons_of_mem _ hc)
    have hwording : whereText (condition :: conditions) =
        " WHERE (" ++ conditionText 1 condition ++ ")" ++
          conjunctsText (1 + condition.2.length) conditions := by
      rw [whereText]
      exact hseveral _ _ rfl
    rw [List.cons_append, numberedChars_text, numberedChars_append, numberedChars_enclosed hhead,
      Select.boundValues_enclosed hhead, List.length_map, numberedChars_conjuncts htail, hwording]
    simp

end

/-! ### Statements -/

theorem numberedChars_windowPieces (n : Nat) (window : Option Window) :
    numberedChars n (Select.windowPieces window) = (windowText n window).toList := by
  cases window with
  | none => rfl
  | some window => simp [Select.windowPieces, windowText, numberedChars, numberedFrom]

namespace Select

theorem joinText_eq {join : Join} (h : join.keyPairs ≠ []) : joinText join = joinedText join := by
  rw [joinText, joinCondition, if_neg (by simpa using h), joinedText]

/-- **What a statement says.** Its text is made of the texts of its parts. -/
theorem sql_eq {s : Select} (h : Fitted s.conditions)
    (hkeyed : ∀ join ∈ s.joins, join.keyPairs ≠ []) :
    s.sql = statementText s.table s.joins s.conditions s.order s.window := by
  have hjoins : s.joins.map joinText = s.joins.map joinedText :=
    List.map_congr_left fun join hjoin => joinText_eq (hkeyed join hjoin)
  have hvalues := congrArg List.length (boundValues_wherePieces h)
  rw [List.length_map] at hvalues
  apply String.toList_injective
  rw [sql, toList_numberedText, pieces_eq, numberedChars_text, numberedChars_append, hvalues,
    numberedChars_wherePieces h, List.cons_append, numberedChars_text, List.nil_append,
    numberedChars_windowPieces, headText, hjoins, statementText]
  simp only [String.toList_append, List.append_assoc]

end Select

end RequestSql
