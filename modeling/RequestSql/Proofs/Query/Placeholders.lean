import RequestSql.Proofs.Query.Splicing
import RequestSql.Query.Select

/-!
# Placeholders

The placeholders of a statement are the words with a `$` in them, wherever the statement
does not quote a name. A statement is put together from texts without a placeholder
(`Unmarked`) and texts whose placeholders are numbered from a given one on (`Numbers`). A
text may end within a word, so both say what is pending then: a word without a `$`, which
cannot become a placeholder unless one follows at once.

Key definitions: `placeholders`, `Unmarked`, `Numbers`.
Key theorems: `unmarked_quotedName`, `Numbers.append`, `Marked.numbers`.
-/

namespace RequestSql

open SqlToken (continuesWord)

/-! ### Words with a dollar sign -/

/-- The word that has come to its end, if it has a `$`. -/
def finished (word : List Char) : List (List Char) := if '$' ∈ word then [word] else []

/-- The words with a `$` in a text, from left to right. Before it stands `word`, unless it
begins inside a quoted name. -/
def dollarWords (quoted : Bool) (word : List Char) : List Char → List (List Char)
  | [] => finished word
  | c :: cs =>
    if quoted then dollarWords (c != '"') [] cs
    else if continuesWord c then dollarWords false (word ++ [c]) cs
    else finished word ++ dollarWords (c == '"') [] cs

/-- The placeholders of a statement, from left to right. -/
def placeholders (sql : String) : List String :=
  (dollarWords false [] sql.toList).map String.ofList

theorem finished_of_not_mem {word : List Char} (h : '$' ∉ word) : finished word = [] :=
  if_neg h

/-- A text that does not begin with a part of a word. -/
def Breaks (cs : List Char) : Prop := ∀ c, cs.head? = some c → continuesWord c = false

theorem Breaks.cons {c : Char} (h : continuesWord c = false) (cs : List Char) :
    Breaks (c :: cs) := by
  intro d hd
  obtain rfl : c = d := Option.some.inj hd
  exact h

theorem Breaks.append {cs ds : List Char} (hcs : Breaks cs) (hds : Breaks ds) :
    Breaks (cs ++ ds) := by
  intro c hc
  cases cs with
  | nil => exact hds c hc
  | cons d cs => exact hcs c hc

/-- A word ends where the text breaks. -/
theorem dollarWords_of_breaks {cs : List Char} (h : Breaks cs) (word : List Char) :
    dollarWords false word cs = finished word ++ dollarWords false [] cs := by
  cases cs with
  | nil => exact (List.append_nil _).symm
  | cons c cs =>
    simp only [dollarWords, h c rfl, Bool.false_eq_true, if_false]
    rfl

theorem dollarWords_word {word : List Char} (hword : ∀ c ∈ word, continuesWord c = true)
    (before rest : List Char) :
    dollarWords false before (word ++ rest) = dollarWords false (before ++ word) rest := by
  induction word generalizing before with
  | nil => rw [List.append_nil, List.nil_append]
  | cons c word ih =>
    simp only [List.cons_append, dollarWords, hword c (List.mem_cons_self ..),
      Bool.false_eq_true, if_false, if_true]
    rw [ih fun d hd => hword d (List.mem_cons_of_mem _ hd), List.append_assoc]
    rfl

/-! ### Texts without a placeholder -/

/-- Nothing in the text is a placeholder or part of one, whatever comes before and after. -/
def Unmarked (cs : List Char) : Prop :=
  ∀ word rest, '$' ∉ word → ∃ word', '$' ∉ word' ∧
    dollarWords false word (cs ++ rest) = dollarWords false word' rest

namespace Unmarked

variable {cs ds : List Char}

theorem nil : Unmarked [] := fun word _ hword => ⟨word, hword, rfl⟩

theorem append (hcs : Unmarked cs) (hds : Unmarked ds) : Unmarked (cs ++ ds) := by
  intro word rest hword
  obtain ⟨mid, hmid, heq⟩ := hcs word (ds ++ rest) hword
  obtain ⟨last, hlast, heq'⟩ := hds mid rest hmid
  exact ⟨last, hlast, by rw [List.append_assoc, heq, heq']⟩

theorem char {c : Char} (hdollar : c ≠ '$') (hquote : c ≠ '"') : Unmarked [c] := by
  intro word rest hword
  by_cases hc : continuesWord c = true
  · refine ⟨word ++ [c], fun hmem => ?_, by simp [dollarWords, hc]⟩
    rcases List.mem_append.1 hmem with hmem | hmem
    · exact hword hmem
    · exact hdollar (List.mem_singleton.1 hmem).symm
  · have hopens : (c == '"') = false := beq_false_of_ne hquote
    refine ⟨[], List.not_mem_nil, ?_⟩
    simp [dollarWords, hc, hopens, finished_of_not_mem hword]

theorem of_forall (h : ∀ c ∈ cs, c ≠ '$' ∧ c ≠ '"') : Unmarked cs := by
  induction cs with
  | nil => exact nil
  | cons c cs ih =>
    obtain ⟨hdollar, hquote⟩ := h c (List.mem_cons_self ..)
    have htail := ih fun d hd => h d (List.mem_cons_of_mem _ hd)
    exact append (char hdollar hquote) htail

theorem of_bare (h : Bare cs) : Unmarked cs :=
  of_forall fun c hc =>
    ⟨Text.ne_of_apart (h c hc) (by decide), Text.ne_of_apart (h c hc) (by decide)⟩

theorem join {texts : List String} (h : ∀ text ∈ texts, Unmarked text.toList) :
    Unmarked (String.join texts).toList := by
  induction texts with
  | nil => exact nil
  | cons text texts ih =>
    rw [String.join_cons, String.toList_append]
    exact (h text (List.mem_cons_self ..)).append (ih fun t ht => h t (List.mem_cons_of_mem _ ht))

theorem intercalate {separator : String} (hseparator : Unmarked separator.toList)
    {texts : List String} (h : ∀ text ∈ texts, Unmarked text.toList) :
    Unmarked (separator.intercalate texts).toList := by
  induction texts with
  | nil => exact nil
  | cons text texts ih =>
    cases texts with
    | nil =>
      rw [String.intercalate_singleton]
      exact h text (List.mem_cons_self ..)
    | cons other texts =>
      have htail := ih fun t ht => h t (List.mem_cons_of_mem _ ht)
      rw [String.intercalate_cons_cons, String.toList_append, String.toList_append]
      exact ((h text (List.mem_cons_self ..)).append hseparator).append htail

end Unmarked

/-- In a quoted name nothing is a placeholder: a quote of the name is written twice. -/
theorem dollarWords_escaped (name rest : List Char) :
    dollarWords true [] (name.flatMap (fun c => if c = '"' then [c, c] else [c]) ++ '"' :: rest) =
      dollarWords false [] rest := by
  induction name with
  | nil => rfl
  | cons c name ih =>
    by_cases hc : c = '"'
    · subst hc
      exact ih
    · have hstays : (c != '"') = true := bne_iff_ne.2 hc
      rw [List.flatMap_cons, if_neg hc, List.append_assoc, List.singleton_append]
      simp only [dollarWords, hstays, if_true]
      exact ih

theorem unmarked_quotedName (name : String) : Unmarked (Select.quotedName name).toList := by
  intro word rest hword
  refine ⟨[], List.not_mem_nil, ?_⟩
  have h := dollarWords_escaped name.toList rest
  have hquote : continuesWord '"' = false := by decide
  rw [Select.quotedName, String.toList_ofList]
  simp only [List.cons_append, List.append_assoc, dollarWords, hquote,
    finished_of_not_mem hword]
  exact h

/-! ### Numbered texts -/

/-- The placeholders from the `m`-th on, `n` of them. -/
def marksFrom (m n : Nat) : List (List Char) :=
  (List.range' m n).map fun i => '$' :: Nat.toDigits 10 i

theorem marksFrom_add (m k n : Nat) :
    marksFrom m (k + n) = marksFrom m k ++ marksFrom (m + k) n := by
  unfold marksFrom
  rw [← List.map_append, List.range'_append_1]

/-- The placeholders of the text are the `n` ones from the `m`-th on, as long as no part of a
word follows. -/
def Numbers (m n : Nat) (cs : List Char) : Prop :=
  ∀ word rest, '$' ∉ word → Breaks rest → ∃ word', '$' ∉ word' ∧
    dollarWords false word (cs ++ rest) = marksFrom m n ++ dollarWords false word' rest

theorem Unmarked.numbers {cs : List Char} (h : Unmarked cs) (m : Nat) : Numbers m 0 cs :=
  fun word rest hword _ => h word rest hword

/-- A text without placeholders may stand before any other. -/
theorem Unmarked.append_numbers {cs ds : List Char} {m n : Nat} (hcs : Unmarked cs)
    (hds : Numbers m n ds) : Numbers m n (cs ++ ds) := by
  intro word rest hword hrest
  obtain ⟨mid, hmid, heq⟩ := hcs word (ds ++ rest) hword
  obtain ⟨last, hlast, heq'⟩ := hds mid rest hmid hrest
  exact ⟨last, hlast, by rw [List.append_assoc, heq, heq']⟩

namespace Numbers

variable {m k n : Nat} {cs ds : List Char}

theorem append (hcs : Numbers m k cs) (hds : Numbers (m + k) n ds) (hbreaks : Breaks ds) :
    Numbers m (k + n) (cs ++ ds) := by
  intro word rest hword hrest
  obtain ⟨mid, hmid, heq⟩ := hcs word (ds ++ rest) hword (hbreaks.append hrest)
  obtain ⟨last, hlast, heq'⟩ := hds mid rest hmid hrest
  refine ⟨last, hlast, ?_⟩
  rw [List.append_assoc, heq, heq', marksFrom_add, List.append_assoc]

/-- A blank and a number behind a `$` are one placeholder. -/
theorem mark (m : Nat) : Numbers m 1 (' ' :: '$' :: Nat.toDigits 10 m) := by
  intro word rest hword hrest
  refine ⟨[], List.not_mem_nil, ?_⟩
  have hblank : continuesWord ' ' = false := by decide
  have hnumber : ∀ c ∈ '$' :: Nat.toDigits 10 m, continuesWord c = true := by
    intro c hc
    rcases List.mem_cons.1 hc with rfl | hc
    · decide
    · have hdigit := Nat.isDigit_of_mem_toDigits (by decide) (by decide) hc
      simp [continuesWord, SqlToken.startsWord, hdigit]
  have h := dollarWords_word hnumber [] rest
  rw [List.nil_append, dollarWords_of_breaks hrest, finished, if_pos (List.mem_cons_self ..)] at h
  rw [List.cons_append, dollarWords]
  simp only [hblank, finished_of_not_mem hword]
  exact h

end Numbers

/-- The placeholders of a marked text are those that its marks are numbered with. -/
theorem Marked.numbers {n : Nat} {cs : List Char} (h : Marked n cs) :
    ∀ m, Numbers m n (numberMarksFrom m cs) := by
  induction h with
  | @bare cs hbare =>
    intro m
    rw [hbare.numberMarksFrom_eq]
    exact (Unmarked.of_bare hbare).numbers m
  | @mark n cs rest hbare _ ih =>
    intro m
    have htail : Numbers (m + 1) n (')' :: numberMarksFrom (m + 1) rest) := ih (m + 1)
    have hbreaks : Breaks (')' :: numberMarksFrom (m + 1) rest) := .cons (by decide) _
    rw [numberMarksFrom_append_of_bare hbare, Nat.add_comm n 1]
    exact (Unmarked.of_bare hbare).append_numbers ((Numbers.mark m).append htail hbreaks)

end RequestSql
