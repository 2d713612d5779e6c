import RequestSql.Proofs.Sql.Symbols
import RequestSql.Query.Select

/-!
# The atoms of a statement

Any text is cut into atoms as a database does it: from left to right, a word and an
operator taking as many characters as they can, and a name in double quotes going up to the
quote that ends it, two quotes in a row being one of the name. Nothing is lost by that.

A list of atoms is legible if every word, operator and name in it is followed by a
separator, which is a blank or a sign that stands for itself. A legible list can be read back
from its text. So the atoms of a text that is put together from parts are known as soon as
the atoms of its parts are.

Key definitions: `Sql.Atom`, `Sql.atoms`, `Sql.Legible`.
Key theorems: `Sql.flatMap_text_atoms`, `Sql.Legible.append`, `Sql.Legible.atoms_eq`.
-/

namespace RequestSql.Sql

/-! ### Cutting a text -/

/-- A part of a text that belongs together. -/
inductive Atom where
  | blank
  /-- Letters, digits, `_` and `$`. -/
  | word (text : String)
  | operator (text : String)
  /-- A name in double quotes. -/
  | quoted (name : String)
  /-- Any other character. -/
  | mark (c : Char)
deriving DecidableEq, Repr

/-- Whether a character may stand in a word. What is not ASCII may. -/
def isWordPart (c : Char) : Bool := isIdentifierPart c || c == '$' || 128 ≤ c.toNat

/-- The name that ends with the first single quote, and what follows it; two quotes in a row
are one of the name. There is none if nothing ends it. -/
def quotation : List Char → Option (List Char × List Char)
  | [] => none
  | c :: cs =>
    if c = '"' then
      match cs with
      | '"' :: rest => (quotation rest).map fun (name, left) => ('"' :: name, left)
      | _ => some ([], cs)
    else (quotation cs).map fun (name, left) => (c :: name, left)

/-- The characters of a name, every quote written twice. -/
def escaped (name : List Char) : List Char :=
  name.flatMap fun c => if c = '"' then [c, c] else [c]

namespace Atom

/-- The characters of an atom. -/
def text : Atom → List Char
  | blank => [' ']
  | word text => text.toList
  | operator text => text.toList
  | quoted name => '"' :: (escaped name.toList ++ ['"'])
  | mark c => [c]

@[simp] theorem text_blank : blank.text = [' '] := rfl

@[simp] theorem text_word (word : String) : (Atom.word word).text = word.toList := rfl

@[simp] theorem text_operator (op : String) : (operator op).text = op.toList := rfl

@[simp] theorem text_quoted (name : String) :
    (quoted name).text = '"' :: (escaped name.toList ++ ['"']) := rfl

@[simp] theorem text_mark (c : Char) : (mark c).text = [c] := rfl

/-- The atom that begins with `c`, and what follows it. -/
def scan (c : Char) (cs : List Char) : Atom × List Char :=
  if c = ' ' then (.blank, cs)
  else if isWordPart c then
    (.word (String.ofList (c :: cs.takeWhile isWordPart)), cs.dropWhile isWordPart)
  else if isOperatorChar c then
    (.operator (String.ofList (c :: cs.takeWhile isOperatorChar)), cs.dropWhile isOperatorChar)
  else if c = '"' then
    match quotation cs with
    | some (name, rest) => (.quoted (String.ofList name), rest)
    | none => (.mark c, cs)
  else (.mark c, cs)

end Atom

theorem quotation_append {cs name rest : List Char} (h : quotation cs = some (name, rest)) :
    escaped name ++ '"' :: rest = cs := by
  fun_induction quotation cs generalizing name rest with
  | case1 => cases h
  | case2 cs ih =>
    obtain ⟨⟨inner, left⟩, hinner, heq⟩ := Option.map_eq_some_iff.1 h
    obtain ⟨rfl, rfl⟩ := Prod.mk.inj heq
    exact congrArg (['"', '"'] ++ ·) (ih hinner)
  | case3 =>
    obtain ⟨rfl, rfl⟩ := Prod.mk.inj (Option.some.inj h)
    rfl
  | case4 c cs hc ih =>
    obtain ⟨⟨inner, left⟩, hinner, heq⟩ := Option.map_eq_some_iff.1 h
    obtain ⟨rfl, rfl⟩ := Prod.mk.inj heq
    have hhead : escaped (c :: inner) = c :: escaped inner := by
      rw [escaped, List.flatMap_cons, if_neg hc]
      rfl
    rw [hhead, List.cons_append, ih hinner]

/-- An atom and what follows it are the whole text. -/
theorem Atom.scan_append (c : Char) (cs : List Char) :
    (scan c cs).1.text ++ (scan c cs).2 = c :: cs := by
  unfold scan
  split
  · next hc => rw [hc]; rfl
  · split
    · rw [text, String.toList_ofList, List.cons_append, List.takeWhile_append_dropWhile]
    · split
      · rw [text, String.toList_ofList, List.cons_append, List.takeWhile_append_dropWhile]
      · split
        · next hc =>
          split
          · next name rest hquotation =>
            rw [text, String.toList_ofList, List.cons_append, List.append_assoc,
              List.singleton_append, quotation_append hquotation, hc]
          · rfl
        · rfl

theorem Atom.text_ne_nil_of_scan (c : Char) (cs : List Char) : (scan c cs).1.text ≠ [] := by
  unfold scan
  repeat' split
  all_goals simp [text]

theorem Atom.scan_length (c : Char) (cs : List Char) : (scan c cs).2.length ≤ cs.length := by
  have hwhole := congrArg List.length (scan_append c cs)
  have htext := List.length_pos_iff.2 (text_ne_nil_of_scan c cs)
  rw [List.length_append, List.length_cons] at hwhole
  omega

/-- The atoms of a text. -/
def atoms (cs : List Char) : List Atom :=
  match cs with
  | [] => []
  | c :: cs => (Atom.scan c cs).1 :: atoms (Atom.scan c cs).2
termination_by cs.length
decreasing_by exact Nat.lt_succ_of_le (Atom.scan_length c cs)

/-- Cutting a text into atoms loses nothing. -/
theorem flatMap_text_atoms (cs : List Char) : (atoms cs).flatMap Atom.text = cs := by
  fun_induction atoms cs with
  | case1 => rfl
  | case2 c cs ih => rw [List.flatMap_cons, ih, Atom.scan_append]

/-! ### Reading atoms back -/

/-- Whether a character neither continues an atom nor begins one of more than itself. -/
def isSign (c : Char) : Bool := !(c == ' ' || isWordPart c || isOperatorChar c || c == '"')

namespace Atom

/-- Whether the atom ends any other one before it. -/
def isSeparator : Atom → Bool
  | blank => true
  | mark c => isSign c
  | _ => false

/-- Whether the atom is a word, an operator or a name, and is made of characters that may
stand in such a one. -/
def isRun : Atom → Bool
  | word text => !text.toList.isEmpty && text.toList.all isWordPart
  | operator text => !text.toList.isEmpty && text.toList.all isOperatorChar
  | quoted _ => true
  | _ => false

end Atom

/-- A text that does not begin with anything that could continue an atom. -/
def Apart (cs : List Char) : Prop :=
  ∀ c, cs.head? = some c → isWordPart c = false ∧ isOperatorChar c = false ∧ c ≠ '"'

/-- A list in which every word, operator and name is followed by a separator. -/
inductive Legible : List Atom → Prop where
  | nil : Legible []
  | separator {l : Atom} {ls : List Atom} : l.isSeparator = true → Legible ls → Legible (l :: ls)
  | last {l : Atom} : l.isRun = true → Legible [l]
  | run {l s : Atom} {ls : List Atom} :
      l.isRun = true → s.isSeparator = true → Legible ls → Legible (l :: s :: ls)

/-- A legible list that does not begin with a word, an operator or a name. -/
inductive Follows : List Atom → Prop where
  | nil : Follows []
  | separator {s : Atom} {ls : List Atom} :
      s.isSeparator = true → Legible ls → Follows (s :: ls)

theorem Apart.nil : Apart [] := by
  rintro c ⟨⟩

theorem Apart.cons {c : Char} (hword : isWordPart c = false) (hoperator : isOperatorChar c = false)
    (hquote : c ≠ '"') (cs : List Char) : Apart (c :: cs) := by
  intro d hd
  obtain rfl : c = d := Option.some.inj hd
  exact ⟨hword, hoperator, hquote⟩

theorem apart_of_isSign {c : Char} (h : isSign c = true) (cs : List Char) : Apart (c :: cs) := by
  simp only [isSign, Bool.not_eq_true', Bool.or_eq_false_iff, beq_eq_false_iff_ne] at h
  exact .cons h.1.1.2 h.1.2 h.2 cs

/-- A run of characters goes up to where the text is no longer of their sort. -/
theorem exists_run {p : Char → Bool} {run : List Char} (h : (!run.isEmpty && run.all p) = true)
    {cs : List Char} (hcs : ∀ c, cs.head? = some c → p c = false) :
    ∃ c rest, run = c :: rest ∧ p c = true ∧ (rest ++ cs).takeWhile p = rest ∧
      (rest ++ cs).dropWhile p = cs := by
  simp only [Bool.and_eq_true, Bool.not_eq_true', List.isEmpty_eq_false_iff, List.all_eq_true] at h
  obtain ⟨hne, hrun⟩ := h
  obtain ⟨c, rest, rfl⟩ := List.exists_cons_of_ne_nil hne
  have hrest : ∀ d ∈ rest, p d = true := fun d hd => hrun d (List.mem_cons_of_mem _ hd)
  refine ⟨c, rest, rfl, hrun c (List.mem_cons_self ..), ?_⟩
  cases cs with
  | nil =>
    rw [List.takeWhile_append_of_pos hrest, List.dropWhile_append_of_pos hrest]
    exact ⟨List.append_nil _, rfl⟩
  | cons d cs => exact ⟨Text.takeWhile_run hrest (hcs d rfl), Text.dropWhile_run hrest (hcs d rfl)⟩

theorem quotation_doubled (cs : List Char) :
    quotation ('"' :: '"' :: cs) = (quotation cs).map fun (name, left) => ('"' :: name, left) := by
  rw [quotation, if_pos rfl]

theorem quotation_end {cs : List Char} (hcs : Apart cs) :
    quotation ('"' :: cs) = some ([], cs) := by
  rw [quotation.eq_def]
  simp only [if_true]
  split
  · next rest => exact absurd rfl (hcs _ rfl).2.2
  · rfl

theorem quotation_inside {c : Char} (hc : c ≠ '"') (cs : List Char) :
    quotation (c :: cs) = (quotation cs).map fun (name, left) => (c :: name, left) := by
  rw [quotation.eq_def]
  simp only [if_neg hc]

/-- A name in quotes is read back. -/
theorem quotation_escaped (name : List Char) {cs : List Char} (hcs : Apart cs) :
    quotation (escaped name ++ '"' :: cs) = some (name, cs) := by
  induction name with
  | nil => exact quotation_end hcs
  | cons c name ih =>
    rw [escaped, List.flatMap_cons, ← escaped, List.append_assoc]
    by_cases hc : c = '"'
    · subst hc
      rw [if_pos rfl, List.cons_append, List.singleton_append, quotation_doubled, ih]
      rfl
    · rw [if_neg hc, List.singleton_append, quotation_inside hc, ih]
      rfl

namespace Atom

/-- A separator is an atom whatever follows it. -/
theorem atoms_separator {l : Atom} (h : l.isSeparator = true) (cs : List Char) :
    Apart (l.text ++ cs) ∧ atoms (l.text ++ cs) = l :: atoms cs := by
  cases l with
  | blank =>
    refine ⟨.cons (by decide) (by decide) (by decide) cs, ?_⟩
    rw [text, List.singleton_append, atoms]
    rfl
  | mark c =>
    refine ⟨apart_of_isSign h cs, ?_⟩
    simp only [isSeparator, isSign, Bool.not_eq_true', Bool.or_eq_false_iff,
      beq_eq_false_iff_ne] at h
    obtain ⟨⟨⟨hblank, hword⟩, hoperator⟩, hquote⟩ := h
    rw [text, List.singleton_append, atoms, scan, if_neg hblank, hword,
      if_neg Bool.false_ne_true, hoperator, if_neg Bool.false_ne_true, if_neg hquote]
  | word => cases h
  | operator => cases h
  | quoted => cases h

/-- What may stand in an operator may not stand in a word. -/
theorem isWordPart_of_isOperatorChar {c : Char} (h : isOperatorChar c = true) :
    isWordPart c = false := by
  have hc : c = '=' ∨ c = '~' ∨ c = '<' ∨ c = '>' := by
    simpa [isOperatorChar, or_assoc] using h
  rcases hc with rfl | rfl | rfl | rfl <;> decide

/-- A word, an operator or a name is an atom if nothing that follows continues it. -/
theorem atoms_run {l : Atom} (h : l.isRun = true) {cs : List Char} (hcs : Apart cs) :
    atoms (l.text ++ cs) = l :: atoms cs := by
  cases l with
  | word word =>
    obtain ⟨c, rest, heq, hc, htake, hdrop⟩ := exists_run h fun d hd => (hcs d hd).1
    have hblank : c ≠ ' ' := Text.ne_of_apart hc (by decide)
    rw [text, heq, List.cons_append, atoms, scan, if_neg hblank, if_pos hc, htake, hdrop, ← heq,
      String.ofList_toList]
  | operator operator =>
    obtain ⟨c, rest, heq, hc, htake, hdrop⟩ := exists_run h fun d hd => (hcs d hd).2.1
    have hblank : c ≠ ' ' := Text.ne_of_apart hc (by decide)
    rw [text, heq, List.cons_append, atoms, scan, if_neg hblank,
      isWordPart_of_isOperatorChar hc, if_neg Bool.false_ne_true, if_pos hc, htake, hdrop, ← heq,
      String.ofList_toList]
  | quoted name =>
    rw [text, List.cons_append, List.append_assoc, List.singleton_append, atoms, scan,
      if_neg (by decide), show isWordPart '"' = false by decide, if_neg Bool.false_ne_true,
      show isOperatorChar '"' = false by decide, if_neg Bool.false_ne_true, if_pos rfl,
      quotation_escaped name.toList hcs]
    simp only [String.ofList_toList]
  | blank => cases h
  | mark => cases h

end Atom

namespace Legible

variable {ls ms : List Atom}

/-- What is empty or begins with a separator may stand behind anything. -/
theorem append (hls : Legible ls) (hms : Follows ms) : Legible (ls ++ ms) := by
  induction hls with
  | nil =>
    cases hms with
    | nil => exact .nil
    | separator hs hms => exact .separator hs hms
  | separator h _ ih => exact .separator h ih
  | last h =>
    cases hms with
    | nil => exact .last h
    | separator hs hms => exact .run h hs hms
  | run h hs _ ih => exact .run h hs ih

/-- A legible list is what its text is cut into. -/
theorem atoms_eq (h : Legible ls) : atoms (ls.flatMap Atom.text) = ls := by
  induction h with
  | nil => rw [List.flatMap_nil, atoms]
  | separator h _ ih => rw [List.flatMap_cons, (Atom.atoms_separator h _).2, ih]
  | last h => rw [List.flatMap_cons, List.flatMap_nil, Atom.atoms_run h .nil, atoms]
  | @run l s ls h hs _ ih =>
    obtain ⟨hapart, hatoms⟩ := Atom.atoms_separator hs (ls.flatMap Atom.text)
    rw [List.flatMap_cons, List.flatMap_cons, Atom.atoms_run h hapart, hatoms, ih]

end Legible

namespace Follows

theorem append {ls ms : List Atom} (hls : Follows ls) (hms : Follows ms) :
    Follows (ls ++ ms) := by
  cases hls with
  | nil => exact hms
  | separator hs hls => exact .separator hs (hls.append hms)

theorem flatMap {α : Type} {f : α → List Atom} {as : List α} (h : ∀ a ∈ as, Follows (f a)) :
    Follows (as.flatMap f) := by
  induction as with
  | nil => exact .nil
  | cons a as ih =>
    rw [List.flatMap_cons]
    exact (h a (List.mem_cons_self ..)).append (ih fun b hb => h b (List.mem_cons_of_mem _ hb))

end Follows

namespace Legible

/-- One atom may stand before anything that follows it properly. -/
theorem cons {l : Atom} (h : l.isSeparator = true ∨ l.isRun = true) {ls : List Atom}
    (hls : Follows ls) : Legible (l :: ls) := by
  rcases h with h | h
  · cases hls with
    | nil => exact .separator h .nil
    | separator hs hls => exact .separator h (.separator hs hls)
  · exact (Legible.last h).append hls

theorem intercalate {s : Atom} (hs : s.isSeparator = true) {separator : List Atom}
    (hseparator : ∀ {ls}, Legible ls → Legible (separator ++ ls)) {parts : List (List Atom)}
    (h : ∀ part ∈ parts, Legible part) : Legible ((s :: separator).intercalate parts) := by
  induction parts with
  | nil => exact .nil
  | cons part parts ih =>
    have hpart := h part (List.mem_cons_self ..)
    cases parts with
    | nil =>
      rw [List.intercalate_singleton]
      exact hpart
    | cons other parts =>
      have htail := hseparator (ih fun p hp => h p (List.mem_cons_of_mem _ hp))
      rw [List.intercalate_cons_cons, List.append_assoc]
      exact hpart.append (.separator hs htail)

end Legible

/-- The characters of parts with separators between them. -/
theorem flatMap_intercalate {α β : Type} (f : α → List β) (separator : List α)
    (parts : List (List α)) :
    (separator.intercalate parts).flatMap f =
      (separator.flatMap f).intercalate (parts.map (List.flatMap f)) := by
  induction parts with
  | nil => rfl
  | cons part parts ih =>
    cases parts with
    | nil => rw [List.intercalate_singleton, List.map_singleton, List.intercalate_singleton]
    | cons other parts =>
      rw [List.intercalate_cons_cons, List.flatMap_append, List.flatMap_append, ih]
      simp only [List.map_cons, List.intercalate_cons_cons]

end RequestSql.Sql
