import RequestSql.Proofs.Query.Statement

/-!
# Entries

A program that puts statements together itself gets the terms of the order and the joins as
texts. Among those that name identifiers such a text belongs to one term only, and to joins
of one table on one list of key pairs, so it says no less than the term or the join does.

Key definitions: `OrderTerm.SaidBy`, `Join.SaidBy`.
Key theorems: `OrderTerm.saidBy_text`, `Join.saidBy_text`.
-/

namespace RequestSql

open Sql (Atom)

/-! ### Terms -/

namespace OrderTerm

/-- The entry is the text of the term and of no other one. -/
def SaidBy (term : OrderTerm) (entry : String) : Prop :=
  term.column.Named ∧
    ∀ other : OrderTerm, other.column.Named → (other.text = entry ↔ other = term)

theorem eq_of_atoms_eq {term other : OrderTerm} (h : other.atoms = term.atoms) : other = term := by
  obtain ⟨⟨table, name⟩, descending⟩ := term
  obtain ⟨⟨table', name'⟩, descending'⟩ := other
  cases descending <;> cases descending' <;> simp_all [atoms, Column.atoms]

/-- A term can be read off its text. -/
theorem saidBy_text {term : OrderTerm} (h : term.column.Named) : term.SaidBy term.text := by
  refine ⟨h, fun other hother => ⟨fun htext => ?_, fun heq => congrArg text heq⟩⟩
  have hatoms := congrArg (fun text => Sql.atoms text.toList) htext
  simp only [atoms_termText hother, atoms_termText h] at hatoms
  exact eq_of_atoms_eq hatoms

end OrderTerm

/-! ### Joins -/

namespace Join

/-- The entry is the text of the join and of no join of another table or on other pairs of
keys. -/
def SaidBy (join : Join) (entry : String) : Prop :=
  join.Named ∧ ∀ other : Join, other.Named →
    (other.text = entry ↔ other.table = join.table ∧ other.keyPairs = join.keyPairs)

theorem eq_of_pairAtoms_append {pair other : Column × Column} {ls ms : List Atom}
    (h : pairAtoms .word other ++ ms = pairAtoms .word pair ++ ls) : other = pair ∧ ms = ls := by
  obtain ⟨⟨table, name⟩, ⟨ownTable, ownName⟩⟩ := pair
  obtain ⟨⟨table', name'⟩, ⟨ownTable', ownName'⟩⟩ := other
  simp only [pairAtoms, Column.atoms, List.cons_append, List.nil_append, List.cons.injEq,
    Atom.word.injEq, true_and] at h
  obtain ⟨rfl, rfl, rfl, rfl, rfl⟩ := h
  exact ⟨rfl, rfl⟩

theorem intercalate_pairAtoms_cons (pair : Column × Column) (pairs : List (Column × Column)) :
    [Atom.blank, .word "AND", .blank].intercalate ((pair :: pairs).map (pairAtoms .word)) =
      pairAtoms .word pair ++
        pairs.flatMap fun pair => [.blank, .word "AND", .blank] ++ pairAtoms .word pair := by
  induction pairs generalizing pair with
  | nil => rw [List.map_singleton, List.intercalate_singleton, List.flatMap_nil, List.append_nil]
  | cons following pairs ih =>
    rw [List.map_cons, List.map_cons, List.intercalate_cons_cons, ← List.map_cons, ih,
      List.flatMap_cons, List.append_assoc, List.append_assoc]

/-- Further pairs of keys can be read off the atoms of their conditions. -/
theorem eq_of_flatMap_pairAtoms {pairs others : List (Column × Column)}
    (h : (others.flatMap fun pair => [.blank, .word "AND", .blank] ++ pairAtoms .word pair) =
      pairs.flatMap fun pair => [.blank, .word "AND", .blank] ++ pairAtoms .word pair) :
    others = pairs := by
  induction pairs generalizing others with
  | nil =>
    cases others with
    | nil => rfl
    | cons other others => cases h
  | cons pair pairs ih =>
    cases others with
    | nil => cases h
    | cons other others =>
      rw [List.flatMap_cons, List.flatMap_cons, List.append_assoc, List.append_assoc,
        List.append_cancel_left_eq] at h
      obtain ⟨rfl, hrest⟩ := eq_of_pairAtoms_append h
      rw [ih hrest]

/-- The pairs of keys can be read off the atoms of their conditions. -/
theorem eq_of_intercalate_pairAtoms {pairs others : List (Column × Column)}
    (h : [Atom.blank, .word "AND", .blank].intercalate (others.map (pairAtoms .word)) =
      [Atom.blank, .word "AND", .blank].intercalate (pairs.map (pairAtoms .word))) :
    others = pairs := by
  cases pairs with
  | nil =>
    cases others with
    | nil => rfl
    | cons other others =>
      rw [intercalate_pairAtoms_cons] at h
      cases h
  | cons pair pairs =>
    cases others with
    | nil =>
      rw [intercalate_pairAtoms_cons] at h
      cases h
    | cons other others =>
      rw [intercalate_pairAtoms_cons, intercalate_pairAtoms_cons] at h
      obtain ⟨rfl, hrest⟩ := eq_of_pairAtoms_append h
      rw [eq_of_flatMap_pairAtoms hrest]

/-- Table and pairs of keys of a join can be read off its text. -/
theorem saidBy_text {join : Join} (h : join.Named) : join.SaidBy join.text := by
  refine ⟨h, fun other hother => ⟨fun htext => ?_, fun ⟨htable, hpairs⟩ => ?_⟩⟩
  · have hatoms := congrArg (fun text => Sql.atoms text.toList) htext
    simp only [atoms_joinText hother, atoms_joinText h, atoms, List.cons.injEq, Atom.word.injEq,
      true_and] at hatoms
    exact ⟨hatoms.1, eq_of_intercalate_pairAtoms hatoms.2⟩
  · rw [text, text, condition, condition, htable, hpairs]

end Join

end RequestSql
