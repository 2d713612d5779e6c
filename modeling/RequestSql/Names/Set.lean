import RequestSql.Names.Order

/-!
# Sets of names

A set of names is the strictly ascending list of its members, so equal sets are equal
values and listing the members needs no sorting. Inserting a name also says whether it
is a new one.

Key definitions: `NameSet`, `NameSet.insert`, `NameSet.extend`, `NameSet.union`.
-/

namespace RequestSql

/-- A finite set of names. -/
structure NameSet where
  /-- The members, in ascending order. -/
  toList : List String
  /-- No name comes twice or out of order. -/
  ascending : toList.Pairwise (· < ·)
deriving DecidableEq, Repr

namespace NameSet

/-- The set without members. -/
def empty : NameSet := ⟨[], .nil⟩

instance : Inhabited NameSet := ⟨empty⟩

instance : EmptyCollection NameSet := ⟨empty⟩

/-- Whether a name is a member. -/
def contains (s : NameSet) (name : String) : Bool := s.toList.contains name

instance : Membership String NameSet := ⟨fun s name => name ∈ s.toList⟩

instance (name : String) (s : NameSet) : Decidable (name ∈ s) :=
  inferInstanceAs (Decidable (name ∈ s.toList))

/-- How many members there are. -/
def size (s : NameSet) : Nat := s.toList.length

/-- Whether there are no members. -/
def isEmpty (s : NameSet) : Bool := s.toList.isEmpty

/-- An ascending list with a name in its place, and whether the name is new there. -/
def insertInto (name : String) : List String → Bool × List String
  | [] => (true, [name])
  | n :: names =>
    if name < n then (true, name :: n :: names)
    else if name = n then (false, n :: names)
    else
      let (new, rest) := insertInto name names
      (new, n :: rest)

theorem mem_insertInto {name x : String} {names : List String} :
    x ∈ (insertInto name names).2 ↔ x = name ∨ x ∈ names := by
  induction names with
  | nil => simp [insertInto]
  | cons n names ih =>
    by_cases h1 : name < n
    · simp [insertInto, h1]
    · by_cases h2 : name = n
      · subst h2
        simp [insertInto]
      · simp only [insertInto, h1, h2, if_false, List.mem_cons, ih]
        exact or_left_comm

theorem pairwise_insertInto {name : String} {names : List String}
    (h : names.Pairwise (· < ·)) : (insertInto name names).2.Pairwise (· < ·) := by
  induction names with
  | nil => simp [insertInto]
  | cons n names ih =>
    obtain ⟨hn, hnames⟩ := List.pairwise_cons.1 h
    by_cases h1 : name < n
    · simp only [insertInto, h1, if_true]
      refine List.pairwise_cons.2 ⟨fun x hx => ?_, h⟩
      rcases List.mem_cons.1 hx with rfl | hx
      · exact h1
      · exact String.lt_trans h1 (hn x hx)
    · by_cases h2 : name = n
      · simpa [insertInto, h1, h2, String.lt_irrefl] using h
      · simp only [insertInto, h1, h2, if_false]
        refine List.pairwise_cons.2 ⟨fun x hx => ?_, ih hnames⟩
        rcases mem_insertInto.1 hx with rfl | hx
        · exact Names.lt_of_not_lt h1 h2
        · exact hn x hx

/-- The set with one more member, and whether the name is a new one. -/
def insert (s : NameSet) (name : String) : Bool × NameSet :=
  ((insertInto name s.toList).1, ⟨(insertInto name s.toList).2, pairwise_insertInto s.ascending⟩)

/-- The set with all the names of a list. -/
def extend (s : NameSet) (names : List String) : NameSet :=
  names.foldl (fun s name => (s.insert name).2) s

/-- The set of the names of a list. -/
def ofList (names : List String) : NameSet := empty.extend names

/-- The members of either set. -/
def union (s t : NameSet) : NameSet := s.extend t.toList

@[simp] theorem mem_insert {s : NameSet} {name x : String} :
    x ∈ (s.insert name).2 ↔ x = name ∨ x ∈ s := mem_insertInto

@[simp] theorem mem_extend {s : NameSet} {names : List String} {x : String} :
    x ∈ s.extend names ↔ x ∈ s ∨ x ∈ names := by
  induction names generalizing s with
  | nil => simp [extend]
  | cons n names ih =>
    have h : s.extend (n :: names) = (s.insert n).2.extend names := rfl
    rw [h, ih, mem_insert, List.mem_cons]
    constructor
    · rintro ((rfl | h) | h)
      · exact .inr (.inl rfl)
      · exact .inl h
      · exact .inr (.inr h)
    · rintro (h | rfl | h)
      · exact .inl (.inr h)
      · exact .inl (.inl rfl)
      · exact .inr h

@[simp] theorem not_mem_empty {x : String} : x ∉ empty := List.not_mem_nil

@[simp] theorem mem_ofList {names : List String} {x : String} : x ∈ ofList names ↔ x ∈ names := by
  rw [ofList, mem_extend, or_iff_right not_mem_empty]

@[simp] theorem mem_union {s t : NameSet} {x : String} : x ∈ s.union t ↔ x ∈ s ∨ x ∈ t :=
  mem_extend

end NameSet

end RequestSql
