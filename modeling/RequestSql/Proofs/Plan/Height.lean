import RequestSql.Proofs.Filter.Printing
import RequestSql.Proofs.Plan.Leaves

/-!
# How high trees are

Compiling, rendering and writing go down a filter node by node, so the height of the tree is how
deep they recurse. The parser limits how many groups and operands of `not` enclose a token. This
limits the ways down the tree to the right: a right operand is the operand of a chain, a chain
stands in a group, and between a group and the next there is a chain of `or` and a chain of
`and`. It does not limit the ways to the left: a chain leans to the left, so its filter is as
high as the chain is long. All in all a filter is lower than it has conditions, and a chain of
conditions without any group is the highest filter that they can be.

Key definitions: `Skeleton.height`, `Skeleton.rightTurns`, `conditionCount`, `conditionChain`.
Key theorems: `passedOn_rightTurns`, `passedOn_size`, `parseFilter_chainText`,
`nesting_limits_right_turns`.
-/

namespace RequestSql

/-! ### Measures of a tree -/

namespace Skeleton

/-- How many combinators there are on the longest way from the root to a leaf. -/
def height : Skeleton → Nat
  | leaf => 0
  | node _ _ left right => max left.height right.height + 1

/-- How many times a way from the root to a leaf goes on to the right, at most. -/
def rightTurns : Skeleton → Nat
  | leaf => 0
  | node _ _ left right => max left.rightTurns (right.rightTurns + 1)

theorem size_pos (s : Skeleton) : 0 < s.size := by
  induction s with
  | leaf => exact Nat.zero_lt_one
  | node _ _ left right ihl _ => exact Nat.add_pos_left ihl _

/-- A tree is lower than it has leaves. -/
theorem height_lt_size (s : Skeleton) : s.height < s.size := by
  induction s with
  | leaf => exact Nat.zero_lt_one
  | node _ _ left right ihl ihr =>
    have hleft := left.size_pos
    have hright := right.size_pos
    simp only [height, size]
    omega

end Skeleton

namespace Filter

theorem rightTurns_negate (f : Filter) :
    f.negate.skeleton.rightTurns = f.skeleton.rightTurns := by
  cases f <;> rfl

theorem size_negate (f : Filter) : f.negate.skeleton.size = f.skeleton.size := by
  cases f <;> rfl

end Filter

/-! ### What the tokens say of the tree -/

theorem ConditionRule.skeleton_eq {path : FieldPath} {operator literal : TokenKind} {f : Filter}
    (h : ConditionRule path operator literal f) : f.skeleton = .leaf := by
  cases h <;> rfl

/-- Each level of nesting lets a way turn to the right twice: at a chain of `or` and at a chain
of `and`. -/
theorem passedOn_rightTurns : PassedOn (fun _ f n => f.skeleton.rightTurns ≤ 2 * n)
    (fun _ f n => f.skeleton.rightTurns ≤ 2 * n + 1)
    (fun _ f n => f.skeleton.rightTurns ≤ 2 * n + 2) where
  condition := by
    intro name operator literal path f _ hrule
    rw [hrule.skeleton_eq]
    exact Nat.le_refl 0
  not := by
    intro t ts f n _ hf
    rw [f.rightTurns_negate]
    omega
  group := by
    intro opening closing ts f n _ hf _
    omega
  operand := by
    intro ts f n hf
    omega
  and := by
    intro ts us t f g n m hf _ hg
    have hturns : (f.and g).skeleton.rightTurns =
        max f.skeleton.rightTurns (g.skeleton.rightTurns + 1) := rfl
    omega
  conjunction := by
    intro ts f n hf
    omega
  or := by
    intro ts us t f g n m hf _ hg
    have hturns : (f.or g).skeleton.rightTurns =
        max f.skeleton.rightTurns (g.skeleton.rightTurns + 1) := rfl
    omega

/-- Whether a token is a path. -/
def TokenKind.isPath : TokenKind → Bool
  | identifier _ => true
  | _ => false

/-- How many conditions some tokens hold: each of them has one path. -/
def conditionCount (ts : List Token) : Nat := ts.countP (·.kind.isPath)

theorem conditionCount_append (ts us : List Token) :
    conditionCount (ts ++ us) = conditionCount ts + conditionCount us := List.countP_append

theorem conditionCount_cons_of_eq {t : Token} {kind : TokenKind} (ht : t.kind = kind)
    (hkind : kind.isPath = false) (ts : List Token) :
    conditionCount (t :: ts) = conditionCount ts := by
  rw [conditionCount, List.countP_cons_of_neg]
  · rfl
  · rw [ht, hkind]
    exact Bool.false_ne_true

theorem ConditionRule.isPath_eq_false {path : FieldPath} {operator literal : TokenKind}
    {f : Filter} (h : ConditionRule path operator literal f) :
    operator.isPath = false ∧ literal.isPath = false := by
  cases h <;> exact ⟨rfl, rfl⟩

/-- Every condition of the text is one leaf. -/
theorem passedOn_size : PassedOn (fun ts f _ => f.skeleton.size = conditionCount ts)
    (fun ts f _ => f.skeleton.size = conditionCount ts)
    (fun ts f _ => f.skeleton.size = conditionCount ts) where
  condition := by
    intro name operator literal path f hname hrule
    obtain ⟨hoperator, hliteral⟩ := hrule.isPath_eq_false
    have hpath : name.kind.isPath = true := by
      rw [hname]
      rfl
    rw [hrule.skeleton_eq]
    simp [conditionCount, hpath, hoperator, hliteral, Skeleton.size]
  not := by
    intro t ts f n ht hf
    rw [f.size_negate, conditionCount_cons_of_eq ht rfl, hf]
  group := by
    intro opening closing ts f n hopening hf hclosing
    have hend : conditionCount [closing] = 0 := conditionCount_cons_of_eq hclosing rfl []
    rw [conditionCount_cons_of_eq hopening rfl, conditionCount_append, hend, hf]
    rfl
  operand := id
  and := by
    intro ts us t f g n m hf ht hg
    rw [conditionCount_append, conditionCount_cons_of_eq ht rfl, ← hf, ← hg]
    rfl
  conjunction := id
  or := by
    intro ts us t f g n m hf ht hg
    rw [conditionCount_append, conditionCount_cons_of_eq ht rfl, ← hf, ← hg]
    rfl

/-! ### Texts with high trees -/

/-- A condition. -/
def aCondition : Filter := .null ⟨["a"]⟩ false

theorem says_aCondition : SaysAs Operand "a == null" aCondition 0 := by
  have hpath : FieldPath.Printable ⟨["a"]⟩ := by decide +kernel
  have heq : Spells "==" [.eq] := spells_pair rfl (by decide) (by decide)
  have hnull : Spells "null" [.null] := spells_word (by decide) (by decide)
  exact says_condition hpath heq hnull .eqNull

/-- The condition `n + 1` times, joined by `and`, as a text. -/
def chainText : Nat → String
  | 0 => "a == null"
  | n + 1 => chainText n ++ " " ++ "and" ++ " " ++ "a == null"

/-- The condition `n + 1` times, joined by `and`. -/
def conditionChain : Nat → Filter
  | 0 => aCondition
  | n + 1 => (conditionChain n).and aCondition

theorem says_conditionChain (n : Nat) : SaysAs Conjunction (chainText n) (conditionChain n) 0 := by
  induction n with
  | zero => exact says_aCondition.one
  | succ n ih => exact ih.more spells_and says_aCondition

theorem size_conditionChain (n : Nat) : (conditionChain n).skeleton.size = n + 1 := by
  induction n with
  | zero => rfl
  | succ n ih => exact congrArg (· + 1) ih

/-- A chain leans to the left all along. -/
theorem height_conditionChain (n : Nat) : (conditionChain n).skeleton.height = n := by
  induction n with
  | zero => rfl
  | succ n ih =>
    have hheight : (conditionChain (n + 1)).skeleton.height =
        max (conditionChain n).skeleton.height 0 + 1 := rfl
    rw [hheight, ih, Nat.max_zero]

/-- However long a chain is, it is read. -/
theorem parseFilter_chainText (n : Nat) : parseFilter (chainText n) = .ok (conditionChain n) :=
  (says_conditionChain n).one.parseFilter_eq_ok (Nat.zero_le _)

/-- A condition and, to the right of it in both chains of a level, an operand. -/
def bentText (operandText : String) : String :=
  "a == null" ++ " " ++ "or" ++ " " ++ ("a == null" ++ " " ++ "and" ++ " " ++ operandText)

def bent (f : Filter) : Filter := aCondition.or (aCondition.and f)

theorem SaysAs.bent {text : String} {f : Filter} {n : Nat} (h : SaysAs Operand text f n) :
    SaysAs Disjunction (bentText text) (bent f) n := by
  have hchain : SaysAs Conjunction _ (aCondition.and f) (max 0 n) :=
    says_aCondition.one.more spells_and h
  have hboth : SaysAs Disjunction (bentText text) (RequestSql.bent f) (max 0 (max 0 n)) :=
    says_aCondition.one.one.more spells_or hchain
  rwa [Nat.zero_max, Nat.zero_max] at hboth

/-- A text that goes on to the right wherever it can, in `n` groups. -/
def zigzagText : Nat → String
  | 0 => bentText "a == null"
  | n + 1 => bentText ("(" ++ zigzagText n ++ ")")

/-- A filter that goes on to the right wherever it can, in `n` groups. -/
def zigzag : Nat → Filter
  | 0 => bent aCondition
  | n + 1 => bent (zigzag n)

theorem says_zigzag (n : Nat) : SaysAs Disjunction (zigzagText n) (zigzag n) n := by
  induction n with
  | zero => exact says_aCondition.bent
  | succ n ih => exact ih.group.bent

theorem rightTurns_bent (f : Filter) :
    (bent f).skeleton.rightTurns = f.skeleton.rightTurns + 2 := by
  have hbent : (bent f).skeleton.rightTurns =
      max 0 (max 0 (f.skeleton.rightTurns + 1) + 1) := rfl
  omega

theorem rightTurns_zigzag (n : Nat) : (zigzag n).skeleton.rightTurns = 2 * (n + 1) := by
  induction n with
  | zero => rfl
  | succ n ih =>
    rw [zigzag, rightTurns_bent, ih]
    omega

/-! ### The main result -/

/-- What is compiled recurses as deep as the filter does. -/
theorem skeleton_of_compileFilter {scope : Scope} {f : Filter} {compiled : CompiledFilter}
    (h : compileFilter scope (some f) = .ok compiled) :
    ∃ predicate, compiled.predicate = some predicate ∧ predicate.skeleton = f.skeleton := by
  obtain ⟨judged, predicate, -, hpredicate, hfilled⟩ := compileFilter_eq_ok_iff_filled.1 h
  exact ⟨predicate, hpredicate, hfilled.skeleton⟩

/-- **The limit on nesting bounds how often a way down the tree goes to the right, and nothing
bounds how often it goes to the left but the number of conditions.** A way to a leaf of a filter
that has been read goes to the right at most twice for each level of nesting, the outermost one
included, and there is a text in which one does so as often. The filter is lower than the text
has conditions, its predicate has the same tree, and for every number of conditions there is a
text whose filter is as high as this allows. -/
theorem nesting_limits_right_turns :
    (∀ input f, parseFilter input = .ok f →
      f.skeleton.rightTurns ≤ 2 * (maxDepth + 1) ∧
      f.skeleton.height < conditionCount (lex input) ∧
      (∀ scope compiled, compileFilter scope (some f) = .ok compiled →
        ∃ predicate, compiled.predicate = some predicate ∧ predicate.skeleton = f.skeleton)) ∧
    (∃ input f, parseFilter input = .ok f ∧ f.skeleton.rightTurns = 2 * (maxDepth + 1)) ∧
    (∀ n, ∃ input f, parseFilter input = .ok f ∧ conditionCount (lex input) = n + 1 ∧
      f.skeleton.height = n) := by
  have hsize {input : String} {f : Filter} (h : parseFilter input = .ok f) :
      f.skeleton.size = conditionCount (lex input) := by
    obtain ⟨n, hderived, -⟩ := parseTokens_eq_ok.1 h
    exact passedOn_size.disjunction_of hderived
  refine ⟨fun input f h => ⟨?_, ?_, fun scope compiled => skeleton_of_compileFilter⟩,
    ⟨zigzagText maxDepth, zigzag maxDepth, ?_, rightTurns_zigzag maxDepth⟩,
    fun n => ⟨chainText n, conditionChain n, parseFilter_chainText n, ?_,
      height_conditionChain n⟩⟩
  · obtain ⟨n, hderived, hn⟩ := parseTokens_eq_ok.1 h
    have hturns := passedOn_rightTurns.disjunction_of hderived
    omega
  · rw [← hsize h]
    exact f.skeleton.height_lt_size
  · exact (says_zigzag maxDepth).parseFilter_eq_ok (Nat.le_refl _)
  · rw [← hsize (parseFilter_chainText n), size_conditionChain]

/-- Three conditions are at most two combinators high. -/
theorem nesting_limits_right_turns_of_three :
    ∃ f, parseFilter "a == null and a == null and a == null" = .ok f ∧
      f.skeleton.rightTurns ≤ 258 ∧ f.skeleton.height < 3 := by
  have hcount : conditionCount (lex "a == null and a == null and a == null") = 3 := by
    decide +kernel
  have hread : parseFilter "a == null and a == null and a == null" = .ok (conditionChain 2) :=
    parseFilter_chainText 2
  obtain ⟨hturns, hheight, -⟩ := nesting_limits_right_turns.1 _ _ hread
  rw [hcount] at hheight
  exact ⟨conditionChain 2, hread, hturns, hheight⟩

/-- A chain of 260 conditions stands in no group and is higher than twice the levels. -/
theorem conditionChain_higher_than_levels :
    parseFilter (chainText 259) = .ok (conditionChain 259) ∧
      ¬ (conditionChain 259).skeleton.height ≤ 2 * (maxDepth + 1) := by
  refine ⟨parseFilter_chainText 259, ?_⟩
  rw [height_conditionChain]
  decide

end RequestSql
