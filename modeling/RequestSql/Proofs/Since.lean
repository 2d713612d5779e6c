import Mathlib.Data.List.Basic

/-!
# What has held since

In a list of things that happen one after the other, an item makes something so, and no item behind
it undoes that. One more item makes it so itself, or it does not undo it and it was so before.

Key definition: `Since`.
Key theorem: `since_concat`.
-/

namespace RequestSql

variable {α : Type} {p q : α → Prop} {items : List α}

/-- An item has the first property, and all items behind it have the second one. -/
def Since (p q : α → Prop) (items : List α) : Prop :=
  ∃ before item after, items = before ++ item :: after ∧ p item ∧ ∀ later ∈ after, q later

theorem not_since_nil : ¬Since p q [] := by
  rintro ⟨before, item, after, heq, -⟩
  simp at heq

theorem since_concat {last : α} :
    Since p q (items ++ [last]) ↔ p last ∨ q last ∧ Since p q items := by
  constructor
  · rintro ⟨before, item, after, heq, hitem, hafter⟩
    rcases List.eq_nil_or_concat' after with rfl | ⟨rest, final, rfl⟩
    · obtain ⟨-, hlast⟩ := List.append_inj' heq rfl
      obtain rfl := List.singleton_inj.1 hlast
      exact .inl hitem
    · rw [← List.cons_append, ← List.append_assoc] at heq
      obtain ⟨rfl, hlast⟩ := List.append_inj' heq rfl
      obtain rfl := List.singleton_inj.1 hlast
      obtain ⟨hrest, hfinal⟩ := List.forall_mem_append.1 hafter
      exact .inr ⟨hfinal last (List.mem_singleton_self last), before, item, rest, rfl, hitem, hrest⟩
  · rintro (hlast | ⟨hkeeps, before, item, after, rfl, hitem, hafter⟩)
    · exact ⟨items, last, [], rfl, hlast, fun _ h => absurd h List.not_mem_nil⟩
    · have hafter' : ∀ later ∈ after ++ [last], q later :=
        List.forall_mem_append.2 ⟨hafter, List.forall_mem_singleton.2 hkeeps⟩
      exact ⟨before, item, after ++ [last], by simp, hitem, hafter'⟩

/-- Where every item has the second property, one with the first one is enough. -/
theorem since_iff_of_forall (h : ∀ item ∈ items, q item) :
    Since p q items ↔ ∃ item ∈ items, p item := by
  constructor
  · rintro ⟨before, item, after, rfl, hitem, -⟩
    exact ⟨item, by simp, hitem⟩
  · rintro ⟨item, hmem, hitem⟩
    obtain ⟨before, after, rfl⟩ := List.append_of_mem hmem
    exact ⟨before, item, after, rfl, hitem, fun later hlater => h later (by simp [hlater])⟩

end RequestSql
