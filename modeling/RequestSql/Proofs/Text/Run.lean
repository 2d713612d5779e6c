/-!
# Runs of characters

A run that is followed by an item of another sort ends there at the latest; one that is
followed by such an item and has no other one in it ends right there.

Key definition: `Text.NotAhead`.
Key theorems: `Text.ne_of_apart`, `Text.takeWhile_append_stop`,
`Text.dropWhile_append_stop`, `Text.takeWhile_run`, `Text.dropWhile_run`,
`Text.forall_mem_intercalate`, `Text.NotAhead.takeWhile_append`, `Text.NotAhead.dropWhile_append`.
-/

namespace RequestSql.Text

variable {α : Type} {p : α → Bool} {run rest : List α} {next : α}

/-- Items that a test tells apart are different ones. -/
theorem ne_of_apart {a b : α} (ha : p a = true) (hb : p b = false) : a ≠ b := by
  rintro rfl
  rw [ha] at hb
  cases hb

theorem takeWhile_append_stop (run rest : List α) (hnext : p next = false) :
    (run ++ next :: rest).takeWhile p = run.takeWhile p := by
  induction run with
  | nil => simp [hnext]
  | cons a run ih =>
    cases h : p a <;> simp [h, ih]

theorem dropWhile_append_stop (run rest : List α) (hnext : p next = false) :
    (run ++ next :: rest).dropWhile p = run.dropWhile p ++ next :: rest := by
  induction run with
  | nil => simp [hnext]
  | cons a run ih =>
    cases h : p a <;> simp [h, ih]

theorem takeWhile_run (hrun : ∀ a ∈ run, p a = true) (hnext : p next = false) :
    (run ++ next :: rest).takeWhile p = run := by
  rw [List.takeWhile_append_of_pos hrun, List.takeWhile_cons_of_neg (by simp [hnext]),
    List.append_nil]

theorem dropWhile_run (hrun : ∀ a ∈ run, p a = true) (hnext : p next = false) :
    (run ++ next :: rest).dropWhile p = next :: rest := by
  rw [List.dropWhile_append_of_pos hrun, List.dropWhile_cons_of_neg (by simp [hnext])]

/-- What holds of every item of a separator and of the parts holds of what is put together. -/
theorem forall_mem_intercalate {P : α → Prop} {separator : List α}
    (hseparator : ∀ a ∈ separator, P a) {parts : List (List α)}
    (h : ∀ part ∈ parts, ∀ a ∈ part, P a) : ∀ a ∈ separator.intercalate parts, P a := by
  induction parts with
  | nil => exact fun a ha => absurd ha List.not_mem_nil
  | cons part parts ih =>
    obtain ⟨hpart, htail⟩ := List.forall_mem_cons.1 h
    cases parts with
    | nil =>
      rw [List.intercalate_singleton]
      exact hpart
    | cons other parts =>
      rw [List.intercalate_cons_cons]
      exact List.forall_mem_append.2 ⟨List.forall_mem_append.2 ⟨hpart, hseparator⟩, ih htail⟩

/-- What follows does not begin with an item of a sort. -/
def NotAhead (p : α → Bool) (rest : List α) : Prop := ∀ a ∈ rest.head?, p a = false

namespace NotAhead

theorem nil : NotAhead p [] := by
  rintro a ⟨⟩

theorem cons (h : p next = false) (rest : List α) : NotAhead p (next :: rest) := by
  intro a ha
  obtain rfl := Option.some.inj ha
  exact h

theorem any_eq_false (h : NotAhead p rest) : rest.head?.any p = false := by
  cases rest with
  | nil => rfl
  | cons a rest => exact h a rfl

theorem mono {q : α → Bool} (h : NotAhead p rest) (hq : ∀ a, q a = true → p a = true) :
    NotAhead q rest := fun a ha =>
  Bool.eq_false_iff.2 fun hqa => Bool.eq_false_iff.1 (h a ha) (hq a hqa)

/-- Only what comes first counts, so the rest may be exchanged for what does not begin so either. -/
theorem exchange {before tail other : List α} (h : NotAhead p (before ++ tail))
    (hother : NotAhead p other) : NotAhead p (before ++ other) := by
  cases before with
  | nil => exact hother
  | cons a before => exact h

theorem dropWhile (p : α → Bool) : ∀ as : List α, NotAhead p (as.dropWhile p)
  | [] => nil
  | a :: as => by
    cases h : p a with
    | false =>
      rw [List.dropWhile_cons_of_neg (by simp [h])]
      exact cons h as
    | true =>
      rw [List.dropWhile_cons_of_pos h]
      exact dropWhile p as

theorem append (h : NotAhead p run) (hne : run ≠ []) (rest : List α) :
    NotAhead p (run ++ rest) := by
  cases run with
  | nil => exact absurd rfl hne
  | cons a run => exact h

theorem dropWhile_eq (h : NotAhead p rest) : rest.dropWhile p = rest := by
  cases rest with
  | nil => rfl
  | cons a rest => exact List.dropWhile_cons_of_neg (by simp [h a rfl])

/-- A run goes up to where the items are no longer of its sort. -/
theorem takeWhile_append (h : NotAhead p rest) (hrun : ∀ a ∈ run, p a = true) :
    (run ++ rest).takeWhile p = run := by
  cases rest with
  | nil => rw [List.takeWhile_append_of_pos hrun, List.takeWhile_nil, List.append_nil]
  | cons a rest => exact takeWhile_run hrun (h a rfl)

theorem dropWhile_append (h : NotAhead p rest) (hrun : ∀ a ∈ run, p a = true) :
    (run ++ rest).dropWhile p = rest := by
  cases rest with
  | nil => rw [List.dropWhile_append_of_pos hrun, List.dropWhile_nil]
  | cons a rest => exact dropWhile_run hrun (h a rfl)

end NotAhead

end RequestSql.Text
