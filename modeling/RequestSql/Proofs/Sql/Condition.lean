import RequestSql.Plan.Predicate

/-!
# Conditions of SQL

What the text of a predicate says to the database: the grammar of conditions, in which
`NOT` binds tighter than `AND` and `AND` tighter than `OR`, and their truth values, which
are three. A comparison with a column that has no value is neither true nor false, and the
connectives carry this on.

The grammar is a relation, so it could give several readings to one text. That it does not
is shown by a reader that goes through the symbols once and keeps, for every parenthesis
that is open, the operands that wait in it: what is joined by `OR` so far, what is joined
by `AND` since then, and how many `NOT` stand before the next operand. Whatever the grammar
derives, the reader reads it, and it reads one condition only.

Key definitions: `Sql.Truth`, `Sql.World`, `Sql.Condition`, `Sql.Symbol`, `Sql.Derives`.
Key theorem: `Sql.Derives.unique`.
-/

namespace RequestSql.Sql

/-! ### Truth -/

/-- A truth value of SQL. -/
inductive Truth where
  | yes
  | no
  | unknown
deriving DecidableEq, Repr

namespace Truth

/-- The opposite; nothing is known of the opposite of what is unknown. -/
def not : Truth → Truth
  | yes => no
  | no => yes
  | unknown => unknown

/-- Both hold: no as soon as one does not hold. -/
def and : Truth → Truth → Truth
  | no, _ => no
  | _, no => no
  | yes, yes => yes
  | _, _ => unknown

/-- One of the two holds: yes as soon as one holds. -/
def or : Truth → Truth → Truth
  | yes, _ => yes
  | _, yes => yes
  | no, no => no
  | _, _ => unknown

/-- The opposite if `negated` is set. -/
def flip (negated : Bool) (t : Truth) : Truth := if negated then t.not else t

@[simp] theorem not_not (t : Truth) : t.not.not = t := by cases t <;> rfl

theorem flip_not (negated : Bool) (t : Truth) : flip (!negated) t = (flip negated t).not := by
  cases negated <;> simp [flip]

end Truth

/-- A row, and what the comparison operators mean: the values of all columns, of which any
may be missing, and the outcome of an operator between a value and a parameter. -/
structure World (V : Type) where
  value : Column → Option V
  holds : String → V → Param → Truth

namespace World

variable {V : Type}

/-- A comparison; it is unknown where the column has no value. -/
def compare (world : World V) (column : Column) (op : String) (param : Param) : Truth :=
  match world.value column with
  | none => .unknown
  | some value => world.holds op value param

/-- Whether a column has no value; this is always known. -/
def isNull (world : World V) (column : Column) : Truth :=
  match world.value column with
  | none => .yes
  | some _ => .no

end World

/-- A condition, as it has been read. -/
inductive Condition where
  | compare (column : Column) (op : String) (param : Param)
  | isNull (column : Column)
  | not (c : Condition)
  | and (left right : Condition)
  | or (left right : Condition)
deriving DecidableEq, Repr

/-- The truth value of a condition. -/
def Condition.truth {V : Type} (world : World V) : Condition → Truth
  | compare column op param => world.compare column op param
  | isNull column => world.isNull column
  | not c => (c.truth world).not
  | and left right => (left.truth world).and (right.truth world)
  | or left right => (left.truth world).or (right.truth world)

/-! ### The grammar -/

/-- A symbol of the text of a condition. -/
inductive Symbol where
  | opening
  | closing
  | not
  | and
  | or
  | is
  | null
  /-- A table, a point and a column. -/
  | column (column : Column)
  | op (text : String)
  /-- A `?`, with the parameter that it stands for. -/
  | value (param : Param)
deriving DecidableEq, Repr

/-- How loosely the connectives of a condition may bind. -/
inductive Level where
  | primary
  | negation
  | conjunction
  | disjunction
deriving DecidableEq, Repr

/-- Which condition a list of symbols is. -/
inductive Derives : Level → List Symbol → Condition → Prop
  | compare (column : Column) (op : String) (param : Param) :
    Derives .primary [.column column, .op op, .value param] (.compare column op param)
  | isNull (column : Column) :
    Derives .primary [.column column, .is, .null] (.isNull column)
  | group {ts : List Symbol} {c : Condition} :
    Derives .disjunction ts c → Derives .primary (.opening :: (ts ++ [.closing])) c
  | primary {ts : List Symbol} {c : Condition} :
    Derives .primary ts c → Derives .negation ts c
  | not {ts : List Symbol} {c : Condition} :
    Derives .negation ts c → Derives .negation (.not :: ts) (.not c)
  | negation {ts : List Symbol} {c : Condition} :
    Derives .negation ts c → Derives .conjunction ts c
  | and {ts us : List Symbol} {a b : Condition} :
    Derives .conjunction ts a → Derives .negation us b →
      Derives .conjunction (ts ++ .and :: us) (.and a b)
  | conjunction {ts : List Symbol} {c : Condition} :
    Derives .conjunction ts c → Derives .disjunction ts c
  | or {ts us : List Symbol} {a b : Condition} :
    Derives .disjunction ts a → Derives .conjunction us b →
      Derives .disjunction (ts ++ .or :: us) (.or a b)

/-! ### One reading -/

/-- What waits in a parenthesis for the next operand. -/
structure Pending where
  /-- The operands joined by `OR` so far. -/
  disjunct : Option Condition
  /-- The operands joined by `AND` since the last `OR`. -/
  conjunct : Option Condition
  /-- How many `NOT` stand directly before the next operand. -/
  negations : Nat

/-- Two operands joined, if the left one is there. -/
def joined (join : Condition → Condition → Condition) : Option Condition → Condition → Condition
  | none, c => c
  | some left, c => join left c

/-- A condition with some `NOT` before it. -/
def negatedTimes : Nat → Condition → Condition
  | 0, c => c
  | n + 1, c => negatedTimes n (.not c)

namespace Pending

/-- Nothing waits. -/
def none : Pending := ⟨.none, .none, 0⟩

/-- What is joined by `AND` once the next operand is there. -/
def conjoin (p : Pending) (c : Condition) : Condition :=
  joined .and p.conjunct (negatedTimes p.negations c)

end Pending

mutual

/-- Reads on where an operand has to come. -/
def readOperand (outer : List Pending) (p : Pending) : List Symbol → Option Condition
  | .not :: ts => readOperand outer { p with negations := p.negations + 1 } ts
  | .opening :: ts => readOperand (p :: outer) .none ts
  | .column column :: .op op :: .value param :: ts =>
    readOperator outer p.disjunct (p.conjoin (.compare column op param)) ts
  | .column column :: .is :: .null :: ts =>
    readOperator outer p.disjunct (p.conjoin (.isNull column)) ts
  | _ => none

/-- Reads on after an operand; `c` is what is joined by `AND` since the last `OR`. -/
def readOperator (outer : List Pending) (disjunct : Option Condition) (c : Condition) :
    List Symbol → Option Condition
  | [] => if outer.isEmpty then some (joined .or disjunct c) else none
  | .and :: ts => readOperand outer ⟨disjunct, some c, 0⟩ ts
  | .or :: ts => readOperand outer ⟨some (joined .or disjunct c), none, 0⟩ ts
  | .closing :: ts =>
    match outer with
    | [] => none
    | p :: outer => readOperator outer p.disjunct (p.conjoin (joined .or disjunct c)) ts
  | _ => none

end

/-- What the reader does with the symbols of a derivation, by the level of the connectives:
from a place that fits the level it gets behind them, with their condition joined to what
waits there. -/
def ReadAs : Level → List Symbol → Condition → Prop
  | .primary, ts, c => ∀ outer p rest,
    readOperand outer p (ts ++ rest) = readOperator outer p.disjunct (p.conjoin c) rest
  | .negation, ts, c => ∀ outer p rest,
    readOperand outer p (ts ++ rest) = readOperator outer p.disjunct (p.conjoin c) rest
  | .conjunction, ts, c => ∀ outer disjunct rest,
    readOperand outer ⟨disjunct, none, 0⟩ (ts ++ rest) = readOperator outer disjunct c rest
  | .disjunction, ts, c => ∃ disjunct last, joined .or disjunct last = c ∧ ∀ outer rest,
    readOperand outer .none (ts ++ rest) = readOperator outer disjunct last rest

/-- The reader follows every rule of the grammar. -/
theorem Derives.readAs {level : Level} {ts : List Symbol} {c : Condition}
    (h : Derives level ts c) : ReadAs level ts c := by
  induction h with
  | compare column op param =>
    intro outer p rest
    simp only [List.cons_append, List.nil_append, readOperand]
  | isNull column =>
    intro outer p rest
    simp only [List.cons_append, List.nil_append, readOperand]
  | group _ ih =>
    obtain ⟨disjunct, last, rfl, ih⟩ := ih
    intro outer p rest
    rw [List.cons_append, List.append_assoc, readOperand, ih, List.singleton_append,
      readOperator]
  | primary _ ih => exact ih
  | not _ ih =>
    intro outer p rest
    rw [List.cons_append, readOperand, ih]
    rfl
  | negation _ ih =>
    intro outer disjunct rest
    rw [ih]
    rfl
  | and _ _ iha ihb =>
    intro outer disjunct rest
    rw [List.append_assoc, List.cons_append, iha, readOperator, ihb]
    rfl
  | conjunction _ ih => exact ⟨none, _, rfl, fun outer rest => ih outer none rest⟩
  | or _ _ iha ihb =>
    obtain ⟨disjunct, last, rfl, iha⟩ := iha
    refine ⟨some (joined .or disjunct last), _, rfl, fun outer rest => ?_⟩
    rw [List.append_assoc, List.cons_append, iha, readOperator, ihb]

/-- A list of symbols is one condition at most. -/
theorem Derives.unique {ts : List Symbol} {a b : Condition}
    (ha : Derives .disjunction ts a) (hb : Derives .disjunction ts b) : a = b := by
  have hread : ∀ {c}, Derives .disjunction ts c → readOperand [] .none ts = some c := by
    intro c hc
    obtain ⟨disjunct, last, rfl, h⟩ := hc.readAs
    have := h [] []
    rwa [List.append_nil, readOperator] at this
  exact Option.some.inj ((hread ha).symm.trans (hread hb))

end RequestSql.Sql
