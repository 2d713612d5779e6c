import RequestSql.Text.Position

/-!
# Bytes of a text

The bytes of a text are those of its parts, one part after the other, so an offset into the
text is counted over the characters before it.

Key theorems: `utf8Length_append`, `utf8ByteSize_ofList`, `utf8Length_toList`.
-/

namespace RequestSql

@[simp] theorem utf8Length_nil : utf8Length [] = 0 := rfl

@[simp] theorem utf8Length_cons (c : Char) (cs : List Char) :
    utf8Length (c :: cs) = c.utf8Size + utf8Length cs := rfl

@[simp] theorem utf8Length_append (cs ds : List Char) :
    utf8Length (cs ++ ds) = utf8Length cs + utf8Length ds := by
  induction cs with
  | nil => rw [List.nil_append, utf8Length_nil, Nat.zero_add]
  | cons c cs ih => rw [List.cons_append, utf8Length_cons, utf8Length_cons, ih, Nat.add_assoc]

/-- A text has as many bytes as its UTF-8 form. -/
theorem utf8ByteSize_ofList (cs : List Char) :
    (String.ofList cs).utf8ByteSize = utf8Length cs := by
  induction cs with
  | nil => rfl
  | cons c cs ih =>
    rw [String.ofList_cons, String.utf8ByteSize_append, ih, String.utf8ByteSize_singleton,
      utf8Length_cons]

/-- Two cuts of a text after as many bytes are the same cut. -/
theorem append_inj_of_utf8Length {as bs cs ds : List Char} (h : as ++ bs = cs ++ ds)
    (hlength : utf8Length as = utf8Length cs) : as = cs ∧ bs = ds := by
  induction as generalizing cs with
  | nil =>
    cases cs with
    | nil => exact ⟨rfl, h⟩
    | cons c cs =>
      have := c.utf8Size_pos
      rw [utf8Length_nil, utf8Length_cons] at hlength
      omega
  | cons a as ih =>
    cases cs with
    | nil =>
      have := a.utf8Size_pos
      rw [utf8Length_nil, utf8Length_cons] at hlength
      omega
    | cons c cs =>
      obtain ⟨rfl, htails⟩ := List.cons.inj h
      obtain ⟨rfl, rfl⟩ := ih htails (Nat.add_left_cancel hlength)
      exact ⟨rfl, rfl⟩

theorem utf8Length_toList (text : String) : utf8Length text.toList = text.utf8ByteSize := by
  rw [← utf8ByteSize_ofList, String.ofList_toList]

end RequestSql
