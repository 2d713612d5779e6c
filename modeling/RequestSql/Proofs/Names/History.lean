import Mathlib.Data.List.Sort
import Mathlib.Data.Set.Card
import RequestSql.Names.Set
import RequestSql.Proofs.Names.Bytes
import RequestSql.Proofs.Since

/-!
# Sets of names over their history

A set of names is made from the empty one by operations that give it names; one of them, a
replacement, also takes away all that was there. So a name is in the set if it was given to an
operation that no replacement has followed. Nothing else of the history can be seen: a set is the
ascending list of its members, hence sets with the same members are the same set.

Key definitions: `NameSet.Operation`, `NameSet.run`, `NameSet.Given`.
Key theorems: `NameSet.ext_of_mem`, `NameSet.Operation.mem_apply`, `NameSet.mem_run`,
`NameSet.sets_keep_what_was_given`.
-/

namespace RequestSql.NameSet

/-! ### Members -/

/-- Sets with the same members are equal. -/
theorem ext_of_mem {s t : NameSet} (h : ∀ name, name ∈ s ↔ name ∈ t) : s = t := by
  obtain ⟨names, hnames⟩ := s
  obtain ⟨others, hothers⟩ := t
  obtain rfl := hnames.eq_of_mem_iff hothers h
  rfl

theorem contains_iff {s : NameSet} {name : String} : s.contains name = true ↔ name ∈ s :=
  List.contains_iff_mem

/-- Where a name goes in an ascending list it is new if it is not in the list. -/
theorem insertInto_fst {name : String} {names : List String} (h : names.Pairwise (· < ·)) :
    (insertInto name names).1 = true ↔ name ∉ names := by
  induction names with
  | nil => exact iff_of_true rfl List.not_mem_nil
  | cons n names ih =>
    obtain ⟨hn, hnames⟩ := List.pairwise_cons.1 h
    by_cases hless : name < n
    · simp only [insertInto, hless, if_true]
      refine iff_of_true trivial fun hmem => ?_
      rcases List.mem_cons.1 hmem with rfl | hmem
      · exact String.lt_irrefl _ hless
      · exact String.lt_irrefl _ (String.lt_trans hless (hn name hmem))
    · by_cases heq : name = n
      · simp [insertInto, heq]
      · simp only [insertInto, hless, heq, if_false, List.mem_cons, false_or]
        exact ih hnames

theorem insert_fst {s : NameSet} {name : String} : (s.insert name).1 = true ↔ name ∉ s :=
  insertInto_fst s.ascending

theorem nodup (s : NameSet) : s.toList.Nodup := by
  refine s.ascending.imp fun {a b} hless => ?_
  rintro rfl
  exact String.lt_irrefl _ hless

/-- The size is the number of the members. -/
theorem size_eq_ncard (s : NameSet) : s.size = {name | s.contains name = true}.ncard := by
  have hmembers : {name | s.contains name = true} = (s.toList.toFinset : Set String) := by
    ext name
    simp [contains]
  rw [hmembers, Set.ncard_coe_finset, List.toFinset_card_of_nodup s.nodup, size]

/-! ### Operations -/

/-- What can be done to a set. -/
inductive Operation where
  | insert (name : String)
  | extend (names : List String)
  | union (other : NameSet)
  /-- A new set is made from names. -/
  | replace (names : List String)
deriving DecidableEq, Repr

namespace Operation

/-- The set after an operation. -/
def apply (s : NameSet) : Operation → NameSet
  | insert name => (s.insert name).2
  | extend names => s.extend names
  | union other => s.union other
  | replace names => .ofList names

/-- The names that an operation is given. -/
def names : Operation → List String
  | insert name => [name]
  | extend names => names
  | union other => other.toList
  | replace names => names

/-- Whether an operation takes away what was there. -/
def replaces : Operation → Bool
  | replace _ => true
  | _ => false

/-- **What an operation does**: it puts in what it is given and keeps what was there, unless it
replaces it. -/
theorem mem_apply {s : NameSet} {operation : Operation} {name : String} :
    name ∈ operation.apply s ↔
      name ∈ operation.names ∨ operation.replaces = false ∧ name ∈ s := by
  cases operation with
  | insert n => simp [apply, names, replaces]
  | extend ns => simp [apply, names, replaces, or_comm]
  | union other =>
    have hmem : name ∈ other.toList ↔ name ∈ other := Iff.rfl
    simp [apply, names, replaces, hmem, or_comm]
  | replace ns => simp [apply, names, replaces]

end Operation

/-! ### Runs -/

/-- The set that operations make from the empty one. -/
def run (operations : List Operation) : NameSet := operations.foldl Operation.apply .empty

/-- The name was given to an operation that no replacement has followed. -/
def Given (operations : List Operation) (name : String) : Prop :=
  Since (name ∈ ·.names) (·.replaces = false) operations

/-- **The members after a run** are the names that were given since the last replacement. -/
theorem mem_run {operations : List Operation} {name : String} :
    name ∈ run operations ↔ Given operations name := by
  induction operations using List.reverseRecOn with
  | nil => exact iff_of_false not_mem_empty not_since_nil
  | append_singleton operations last ih =>
    have hrun : run (operations ++ [last]) = last.apply (run operations) := by
      rw [run, List.foldl_concat, ← run]
    rw [hrun, Operation.mem_apply, ih, Given, Given, since_concat]

/-- Where nothing is replaced, neither order nor repetition of the operations matters. -/
theorem run_eq_of_mem_iff {operations others : List Operation}
    (hkeeps : ∀ operation ∈ operations, operation.replaces = false)
    (h : ∀ operation, operation ∈ operations ↔ operation ∈ others) :
    run operations = run others := by
  have hkeeps' : ∀ operation ∈ others, operation.replaces = false :=
    fun operation hmem => hkeeps operation ((h operation).2 hmem)
  refine ext_of_mem fun name => ?_
  rw [mem_run, mem_run, Given, Given, since_iff_of_forall hkeeps, since_iff_of_forall hkeeps']
  simp only [h]

/-! ### Unions -/

theorem union_comm (s t : NameSet) : s.union t = t.union s :=
  ext_of_mem fun name => by rw [mem_union, mem_union, or_comm]

theorem union_assoc (s t u : NameSet) : (s.union t).union u = s.union (t.union u) :=
  ext_of_mem fun name => by simp only [mem_union, or_assoc]

theorem union_self (s : NameSet) : s.union s = s :=
  ext_of_mem fun name => by rw [mem_union, or_self]

/-! ### The main result -/

/-- **Sets keep what was given to them.** After any operations a name is contained if and only if
it was given since the last replacement, and putting it in says whether it was not. What is listed
are the contained names, each once, ascending by their bytes, and as many as the size says. Without
replacements neither order nor repetition of the operations matters; and it does not matter for
unions how they are grouped, ordered or repeated. -/
theorem sets_keep_what_was_given (operations : List Operation) :
    let s := run operations
    (∀ name, s.contains name = true ↔ Given operations name) ∧
    (∀ name, (s.insert name).1 = true ↔ s.contains name = false) ∧
    (∀ name, name ∈ s.toList ↔ s.contains name = true) ∧
    s.toList.Pairwise (Names.bytes · < Names.bytes ·) ∧
    s.size = {name | s.contains name = true}.ncard ∧ (s.isEmpty = true ↔ s.size = 0) ∧
    (∀ others, (∀ operation ∈ operations, operation.replaces = false) →
      (∀ operation, operation ∈ operations ↔ operation ∈ others) → s = run others) ∧
    ∀ a b c : NameSet, a.union b = b.union a ∧ (a.union b).union c = a.union (b.union c) ∧
      a.union a = a := by
  intro s
  refine ⟨fun name => ?_, fun name => ?_, fun name => contains_iff.symm,
    s.ascending.imp Names.lt_iff_bytes_lt.1, size_eq_ncard s, ?_,
    fun others hkeeps h => run_eq_of_mem_iff hkeeps h,
    fun a b c => ⟨union_comm a b, union_assoc a b c, union_self a⟩⟩
  · rw [contains_iff, mem_run]
  · rw [insert_fst, ← contains_iff, Bool.not_eq_true]
  · rw [isEmpty, List.isEmpty_iff_length_eq_zero, size]

/-- Two orders of the same operations, one of them made twice, lead to the same set, which lists the
name of three bytes before the one of four; a name given before a replacement is not there. -/
theorem sets_keep_what_was_given_in_any_order :
    run [.extend ["𐀀", "owner"], .insert "￮", .union (.ofList ["owner"])] =
      run [.insert "￮", .union (.ofList ["owner"]), .insert "￮", .extend ["𐀀", "owner"]] ∧
    (run [.extend ["𐀀", "owner"], .insert "￮"]).toList = ["owner", "￮", "𐀀"] ∧
    (run [.insert "owner", .replace ["𐀀"], .insert "￮"]).contains "owner" = false := by
  have hsame := (sets_keep_what_was_given
    [.extend ["𐀀", "owner"], .insert "￮", .union (.ofList ["owner"])]).2.2.2.2.2.2.1
      [.insert "￮", .union (.ofList ["owner"]), .insert "￮", .extend ["𐀀", "owner"]] (by decide)
  refine ⟨hsame fun operation => ?_, by decide +kernel, by decide +kernel⟩
  simp only [List.mem_cons, List.not_mem_nil, or_false]
  tauto

end RequestSql.NameSet
