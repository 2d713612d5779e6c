import RequestSql.Names.Order

/-!
# Maps from names

A map from names is the list of its entries in strictly ascending order of the names.
Inserting a name that is there already replaces its value.

Key definitions: `NameMap`, `NameMap.get?`, `NameMap.insert`, `NameMap.ofList`.
-/

namespace RequestSql

/-- A finite map from names to values. -/
structure NameMap (α : Type) where
  /-- The entries, by ascending name. -/
  toList : List (String × α)
  /-- No name comes twice or out of order. -/
  ascending : toList.Pairwise (·.1 < ·.1)
deriving DecidableEq, Repr

namespace NameMap

variable {α : Type}

/-- The map without entries. -/
def empty : NameMap α := ⟨[], .nil⟩

instance : Inhabited (NameMap α) := ⟨empty⟩

/-- The value under a name. -/
def get? (m : NameMap α) (name : String) : Option α := m.toList.lookup name

/-- Whether there is a value under a name. -/
def contains (m : NameMap α) (name : String) : Bool := (m.get? name).isSome

/-- The names, ascending. -/
def names (m : NameMap α) : List String := m.toList.map (·.1)

/-- The values, by ascending name. -/
def values (m : NameMap α) : List α := m.toList.map (·.2)

/-- An ascending list of entries with a value under a name. -/
def insertInto (name : String) (value : α) : List (String × α) → List (String × α)
  | [] => [(name, value)]
  | (n, v) :: entries =>
    if name < n then (name, value) :: (n, v) :: entries
    else if name = n then (name, value) :: entries
    else (n, v) :: insertInto name value entries

theorem mem_insertInto {name : String} {value : α} {entry : String × α}
    {entries : List (String × α)} (h : entry ∈ insertInto name value entries) :
    entry.1 = name ∨ entry ∈ entries := by
  induction entries with
  | nil =>
    simp only [insertInto, List.mem_singleton] at h
    exact .inl (by rw [h])
  | cons e entries ih =>
    obtain ⟨n, v⟩ := e
    simp only [insertInto] at h
    split at h
    · rcases List.mem_cons.1 h with rfl | h
      · exact .inl rfl
      · exact .inr h
    · split at h
      · rcases List.mem_cons.1 h with rfl | h
        · exact .inl rfl
        · exact .inr (List.mem_cons_of_mem _ h)
      · rcases List.mem_cons.1 h with rfl | h
        · exact .inr (List.mem_cons_self ..)
        · exact (ih h).imp id (List.mem_cons_of_mem _)

theorem pairwise_insertInto {name : String} {value : α} {entries : List (String × α)}
    (h : entries.Pairwise (·.1 < ·.1)) :
    (insertInto name value entries).Pairwise (·.1 < ·.1) := by
  induction entries with
  | nil => simp [insertInto]
  | cons e entries ih =>
    obtain ⟨n, v⟩ := e
    obtain ⟨hn, hentries⟩ := List.pairwise_cons.1 h
    by_cases h1 : name < n
    · simp only [insertInto, h1, if_true]
      refine List.pairwise_cons.2 ⟨fun x hx => ?_, h⟩
      rcases List.mem_cons.1 hx with rfl | hx
      · exact h1
      · exact String.lt_trans h1 (hn x hx)
    · by_cases h2 : name = n
      · subst h2
        simp only [insertInto, h1, if_false, if_true]
        exact List.pairwise_cons.2 ⟨hn, hentries⟩
      · simp only [insertInto, h1, h2, if_false]
        refine List.pairwise_cons.2 ⟨fun x hx => ?_, ih hentries⟩
        rcases mem_insertInto hx with hx | hx
        · rw [hx]
          exact Names.lt_of_not_lt h1 h2
        · exact hn x hx

/-- The map with a value under a name, in place of the one that was there. -/
def insert (m : NameMap α) (name : String) (value : α) : NameMap α :=
  ⟨insertInto name value m.toList, pairwise_insertInto m.ascending⟩

/-- The map of the entries of a list; of several under one name the last one counts. -/
def ofList (entries : List (String × α)) : NameMap α :=
  entries.foldl (fun m (name, value) => m.insert name value) empty

end NameMap

end RequestSql
