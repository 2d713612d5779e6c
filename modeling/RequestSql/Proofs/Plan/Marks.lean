import RequestSql.Proofs.Plan.PredicateText
import RequestSql.Proofs.Schema.Names
import RequestSql.Proofs.Text.Run
import RequestSql.Query.Splice

/-!
# Marks and values

The text of a compiled filter has one `?` for every value of its parameter list, and the
values are those of the leaves of the filter, from left to right. Because a compiled
filter names identifiers only, its text is bare but for the marks: nothing in it is quoted,
no number of a value stands in it yet, and every mark stands between a blank and a closing
parenthesis.

Key definitions: `Filter.leafValues`, `Filter.valueLeaves`, `Bare`, `Marked`.
Key theorems: `Filter.Compiles.params_eq`, `Predicate.marked`, `Marked.count_eq`.
-/

namespace RequestSql

/-! ### Values -/

namespace Filter

/-- The values of the leaves, from left to right; a test for a missing value has none. -/
def leafValues : Filter → List Param
  | logical _ _ left right => left.leafValues ++ right.leafValues
  | text _ _ value _ => [.text value]
  | number _ _ value _ => [.number value]
  | null .. => []
  | unsupported => []

/-- How many leaves compare a field with a text or a number. -/
def valueLeaves : Filter → Nat
  | logical _ _ left right => left.valueLeaves + right.valueLeaves
  | text .. => 1
  | number .. => 1
  | null .. => 0
  | unsupported => 0

theorem length_leafValues (f : Filter) : f.leafValues.length = f.valueLeaves := by
  induction f with
  | logical combinator negated left right ihl ihr =>
    rw [leafValues, valueLeaves, List.length_append, ihl, ihr]
  | text => rfl
  | number => rfl
  | null => rfl
  | unsupported => rfl

/-- Compiling keeps the values of the leaves in order. -/
theorem Compiles.params_eq {scope : Scope} {f : Filter} {predicate : Predicate}
    {associations : NameSet} (h : f.Compiles scope predicate associations) :
    predicate.params = f.leafValues := by
  induction h with
  | logical _ _ ihl ihr => rw [Predicate.params, leafValues, ihl, ihr]
  | text => rfl
  | number => rfl
  | null => rfl

end Filter

theorem Predicate.length_params (p : Predicate) : p.params.length = p.paramCount := by
  induction p with
  | compare => rfl
  | isNull => rfl
  | logical combinator negated left right ihl ihr =>
    rw [params, paramCount, List.length_append, ihl, ihr]

/-! ### Marked texts -/

/-- Whether a character has no meaning of its own when a text is spliced. -/
def isBare (c : Char) : Bool := c != '$' && c != '?' && (SqlToken.closing? c).isNone

/-- Nothing in the text is quoted or stands for a value. -/
def Bare (cs : List Char) : Prop := ∀ c ∈ cs, isBare c = true

instance (cs : List Char) : Decidable (Bare cs) := List.decidableBAll _ cs

/-- A text with `n` marks, each between a blank and a closing parenthesis, that is bare
otherwise. -/
inductive Marked : Nat → List Char → Prop where
  | bare {cs : List Char} : Bare cs → Marked 0 cs
  | mark {n : Nat} {cs rest : List Char} : Bare cs → Marked n (')' :: rest) →
      Marked (n + 1) (cs ++ ' ' :: '?' :: ')' :: rest)

theorem Bare.append {cs ds : List Char} (hcs : Bare cs) (hds : Bare ds) : Bare (cs ++ ds) := by
  intro c hc
  rcases List.mem_append.1 hc with hc | hc
  · exact hcs c hc
  · exact hds c hc

theorem Bare.not_mem {cs : List Char} (h : Bare cs) {c : Char} (hc : isBare c = false) :
    c ∉ cs := by
  intro hmem
  rw [h c hmem] at hc
  cases hc

namespace Marked

variable {m n : Nat} {cs ds : List Char}

theorem bare_append (hcs : Bare cs) (h : Marked n ds) : Marked n (cs ++ ds) := by
  cases h with
  | bare hds => exact .bare (hcs.append hds)
  | mark hds h =>
    rw [← List.append_assoc]
    exact .mark (hcs.append hds) h

theorem append (h : Marked m cs) (h' : Marked n ds) : Marked (m + n) (cs ++ ds) := by
  induction h with
  | bare hcs =>
    rw [Nat.zero_add]
    exact bare_append hcs h'
  | @mark m cs rest hcs _ ih =>
    rw [List.append_assoc, Nat.succ_add]
    exact .mark hcs ih

theorem count_eq (h : Marked n cs) : cs.count '?' = n := by
  induction h with
  | bare hcs => exact List.count_eq_zero.2 (hcs.not_mem (by decide))
  | @mark n cs rest hcs _ ih =>
    have hbare : cs.count '?' = 0 := List.count_eq_zero.2 (hcs.not_mem (by decide))
    rw [List.count_append, hbare, List.count_cons_of_ne (by decide), List.count_cons_self, ih,
      Nat.zero_add]

end Marked

/-! ### Predicates -/

theorem isBare_of_isIdentifierPart {c : Char} (h : isIdentifierPart c = true) :
    isBare c = true := by
  have hne : ∀ d, isIdentifierPart d = false → c ≠ d := fun d hd => Text.ne_of_apart h hd
  have hclosing : SqlToken.closing? c = none := by
    unfold SqlToken.closing?
    split
    · exact absurd rfl (hne _ (by decide))
    · exact absurd rfl (hne _ (by decide))
    · exact absurd rfl (hne _ (by decide))
    · exact absurd rfl (hne _ (by decide))
    · rfl
  simp [isBare, hne '$' (by decide), hne '?' (by decide), hclosing]

theorem bare_of_isIdentifier {name : String} (h : isIdentifier name = true) :
    Bare name.toList :=
  fun _ hc => isBare_of_isIdentifierPart (isIdentifierPart_of_mem h hc)

namespace Predicate

/-- A node opens with its negation and a parenthesis. -/
theorem bare_opening (negated : Bool) : Bare ((negation negated).toList ++ ['(']) := by
  cases negated <;> decide

theorem bare_column {column : Column} (h : column.Named) :
    Bare (column.table.toList ++ '.' :: column.name.toList) :=
  (bare_of_isIdentifier h.table).append
    (Bare.append (show Bare ['.'] by decide) (bare_of_isIdentifier h.name))

theorem bare_operator (op : CompareOp) : Bare (' ' :: op.text.toList) := by
  cases op <;> decide

theorem bare_combinator (combinator : Combinator) :
    Bare (' ' :: (combinator.keyword.toList ++ [' '])) := by
  cases combinator <;> decide

/-- The text of a predicate over identifiers has a mark for every value. -/
theorem marked {p : Predicate} (hp : p.Named) : Marked p.params.length p.text.toList := by
  induction p with
  | compare column op param negated =>
    have hbare := ((bare_opening negated).append (bare_column hp)).append (bare_operator op)
    have h := Marked.mark hbare (.bare (show Bare [')'] by decide))
    rw [toList_text_compare, params, List.length_singleton]
    simpa using h
  | isNull column negated =>
    have hnull : Bare " IS NULL)".toList := by decide
    have h := ((bare_opening negated).append (bare_column hp)).append hnull
    rw [toList_text_isNull]
    exact .bare (by simpa using h)
  | logical combinator negated left right ihl ihr =>
    have hright := (ihr hp.2).append (.bare (show Bare [')'] by decide))
    have hcombined := hright.bare_append (bare_combinator combinator)
    have h := ((ihl hp.1).append hcombined).bare_append (bare_opening negated)
    rw [toList_text_logical, params, List.length_append]
    simpa using h

end Predicate

end RequestSql
