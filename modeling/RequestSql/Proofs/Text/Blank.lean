import Mathlib.Data.List.DropRight
import RequestSql.Proofs.Text.Run
import RequestSql.Text.Blank

/-!
# Blanks around words

What is trimmed off a text is blanks, and what is left has none at its ends; nothing is left of a
text only if it is nothing but blanks. The words of a text are found in one way only: blanks, a
word that goes on up to the next blank, and the words of what follows. And the pieces of a text
make it up again with the separator between them; they have no separator in them, and are one more
than the separators of the text. Of texts that are put together with the separator each is cut by
itself, so they are the pieces if they do not have the separator in them. Trimming a text does not
change its pieces once these are trimmed themselves, if the separator is no blank.

Key definitions: `Text.blankCodes`, `Text.Blanks`, `Text.Tight`, `Text.IsWord`, `Text.HasWords`.
Key theorems: `Text.isBlank_of_sort`, `Text.exists_trim`, `Text.trim_eq_nil`, `Text.trim_eq_iff`,
`Text.words_eq_iff`, `Text.intercalate_pieces`, `Text.length_pieces`,
`Text.pieces_intercalate_eq_flatMap`, `Text.pieces_intercalate`, `Text.map_trim_splitOn_trim`.
-/

namespace RequestSql.Text

/-! ### Single blanks -/

/-- The codes of the blanks. -/
def blankCodes : List Nat :=
  [0x9, 0xA, 0xB, 0xC, 0xD, 0x20, 0x85, 0xA0, 0x1680, 0x2000, 0x2001, 0x2002, 0x2003, 0x2004,
    0x2005, 0x2006, 0x2007, 0x2008, 0x2009, 0x200A, 0x2028, 0x2029, 0x202F, 0x205F, 0x3000]

theorem mem_blankCodes {c : Char} (h : isBlank c = true) : c.toNat ∈ blankCodes := by
  simp only [isBlank, Bool.or_eq_true, Bool.and_eq_true, decide_eq_true_eq, beq_iff_eq] at h
  simp only [blankCodes, List.mem_cons, List.not_mem_nil, or_false]
  omega

/-- What holds of no code of a blank holds of no blank. -/
theorem eq_false_of_isBlank {p : Char → Bool} (hblanks : ∀ n ∈ blankCodes, p (Char.ofNat n) = false)
    {c : Char} (hc : isBlank c = true) : p c = false := by
  have hcode := hblanks c.toNat (mem_blankCodes hc)
  rwa [Char.ofNat_toNat] at hcode

/-- A sort of characters that no blank is of. -/
theorem isBlank_of_sort {p : Char → Bool} (hblanks : ∀ n ∈ blankCodes, p (Char.ofNat n) = false)
    {c : Char} (hc : p c = true) : isBlank c = false :=
  Bool.eq_false_iff.2 fun hblank => Bool.eq_false_iff.1 (eq_false_of_isBlank hblanks hblank) hc

/-! ### Runs of blanks -/

/-- The text is nothing but blanks. -/
def Blanks (text : List Char) : Prop := ∀ c ∈ text, isBlank c = true

instance (text : List Char) : Decidable (Blanks text) :=
  decidable_of_iff (text.all isBlank = true) List.all_eq_true

namespace Blanks

theorem nil : Blanks [] := fun _ hc => absurd hc List.not_mem_nil

theorem takeWhile (text : List Char) : Blanks (text.takeWhile isBlank) :=
  List.all_eq_true.1 List.all_takeWhile

theorem append {as bs : List Char} : Blanks (as ++ bs) ↔ Blanks as ∧ Blanks bs :=
  List.forall_mem_append

theorem notAhead {text : List Char} (h : Blanks text) : NotAhead (!isBlank ·) text := by
  intro c hc
  simp [h c (List.mem_of_mem_head? hc)]

end Blanks

/-! ### Trimming -/

/-- What is trimmed off at the end is blanks too. -/
theorem exists_trim (text : List Char) :
    ∃ trail, Blanks trail ∧ text = text.takeWhile isBlank ++ (trim text ++ trail) := by
  refine ⟨(trimLeft text).rtakeWhile isBlank, fun c hc => List.mem_rtakeWhile_imp hc, ?_⟩
  have htrim : trim text = (trimLeft text).rdropWhile isBlank := rfl
  rw [htrim, List.rdropWhile_append_rtakeWhile]
  exact List.takeWhile_append_dropWhile.symm

/-- Nothing is left of blanks, and of nothing else. -/
theorem trim_eq_nil {text : List Char} : trim text = [] ↔ Blanks text := by
  constructor
  · intro h
    obtain ⟨trail, htrail, htext⟩ := exists_trim text
    rw [h, List.nil_append] at htext
    rw [htext]
    exact Blanks.append.2 ⟨.takeWhile text, htrail⟩
  · intro h
    have hleft : trimLeft text = [] := List.dropWhile_eq_nil_iff.2 h
    rw [trim, hleft]
    rfl

/-- Blanks around a text are trimmed off with its own. -/
theorem trim_surrounded {lead trail : List Char} (hlead : Blanks lead) (htrail : Blanks trail)
    (text : List Char) : trim (lead ++ (text ++ trail)) = trim text := by
  unfold trim trimLeft trimRight
  rw [List.dropWhile_append_of_pos hlead, List.dropWhile_append]
  by_cases hblanks : Blanks text
  · rw [if_pos (List.isEmpty_iff.2 (List.dropWhile_eq_nil_iff.2 hblanks)),
      List.dropWhile_eq_nil_iff.2 htrail, List.dropWhile_eq_nil_iff.2 hblanks]
  · have hleft : ¬(text.dropWhile isBlank).isEmpty = true := by
      rw [List.isEmpty_iff, List.dropWhile_eq_nil_iff]
      exact hblanks
    have hreverse : ∀ c ∈ trail.reverse, isBlank c = true :=
      fun c hc => htrail c (List.mem_reverse.1 hc)
    rw [if_neg hleft, List.reverse_append, List.dropWhile_append_of_pos hreverse]

/-- The text neither begins nor ends with a blank. -/
structure Tight (text : List Char) : Prop where
  ahead : NotAhead isBlank text
  behind : NotAhead isBlank text.reverse

/-- Two tight texts are one with whatever stands between them, if both have characters. -/
theorem Tight.append {front back : List Char} (hfront : Tight front) (hback : Tight back)
    (hne : front ≠ []) (hne' : back ≠ []) (between : List Char) :
    Tight (front ++ (between ++ back)) where
  ahead := hfront.ahead.append hne _
  behind := by
    rw [List.reverse_append, List.reverse_append, List.append_assoc]
    exact hback.behind.append (mt List.reverse_eq_nil_iff.1 hne') _

theorem Tight.trim_eq {text : List Char} (h : Tight text) : trim text = text := by
  have hleft : trimLeft text = text := h.ahead.dropWhile_eq
  have hright : text.reverse.dropWhile isBlank = text.reverse := h.behind.dropWhile_eq
  rw [trim, hleft, trimRight, hright, List.reverse_reverse]

theorem tight_trim (text : List Char) : Tight (trim text) where
  ahead := by
    obtain ⟨trail, -, htext⟩ := exists_trim text
    have hleft : trimLeft text = trim text ++ trail := by
      apply List.append_cancel_left
      rw [← htext]
      exact List.takeWhile_append_dropWhile
    have hahead : NotAhead isBlank (trimLeft text) := .dropWhile isBlank text
    intro c hc
    apply hahead
    rw [hleft, List.head?_append, Option.mem_def.1 hc]
    rfl
  behind := by
    rw [trim, trimRight, List.reverse_reverse]
    exact .dropWhile isBlank _

/-- **What is left of a trimmed text** had blanks around it, and has none at its ends. -/
theorem trim_eq_iff {text core : List Char} :
    trim text = core ↔
      Tight core ∧ ∃ lead trail, Blanks lead ∧ Blanks trail ∧ text = lead ++ (core ++ trail) := by
  constructor
  · rintro rfl
    obtain ⟨trail, htrail, htext⟩ := exists_trim text
    exact ⟨tight_trim text, _, trail, .takeWhile text, htrail, htext⟩
  · rintro ⟨htight, lead, trail, hlead, htrail, rfl⟩
    rw [trim_surrounded hlead htrail, htight.trim_eq]

/-! ### Words -/

/-- The text is a word: it has characters, and none of them is a blank. -/
structure IsWord (word : List Char) : Prop where
  ne_nil : word ≠ []
  isBlank_eq_false : ∀ c ∈ word, isBlank c = false

/-- Characters of a sort that no blank is of make up a word. -/
theorem isWord_of_sort {p : Char → Bool} (hblanks : ∀ n ∈ blankCodes, p (Char.ofNat n) = false)
    {word : List Char} (hne : word ≠ []) (h : ∀ c ∈ word, p c = true) : IsWord word where
  ne_nil := hne
  isBlank_eq_false c hc := isBlank_of_sort hblanks (h c hc)

theorem IsWord.tight {word : List Char} (h : IsWord word) : Tight word where
  ahead c hc := h.isBlank_eq_false c (List.mem_of_mem_head? hc)
  behind c hc := h.isBlank_eq_false c (List.mem_reverse.1 (List.mem_of_mem_head? hc))

/-- A text that does not begin with a blank begins with a word. -/
theorem isWord_takeWhile {text : List Char} (h : NotAhead isBlank text) (hne : text ≠ []) :
    IsWord (text.takeWhile (!isBlank ·)) where
  ne_nil := by
    cases text with
    | nil => exact absurd rfl hne
    | cons c text =>
      rw [List.takeWhile_cons_of_pos (by simp [h c rfl])]
      exact List.cons_ne_nil _ _
  isBlank_eq_false c hc := by simpa using List.mem_takeWhile_imp hc

/-- The text consists of these words with blanks around them and between them. -/
inductive HasWords : List Char → List (List Char) → Prop
  | blanks {text : List Char} : Blanks text → HasWords text []
  | word {lead word rest : List Char} {words : List (List Char)} : Blanks lead → IsWord word →
      NotAhead (!isBlank ·) rest → HasWords rest words →
        HasWords (lead ++ (word ++ rest)) (word :: words)

section

variable {word rest : List Char}

theorem words_blank {c : Char} (hblank : isBlank c = true) : words (c :: rest) = words rest := by
  rw [words, words, List.splitOnP_cons_eq_if_modifyHead, if_pos hblank]
  rfl

theorem words_blanks_append {lead : List Char} (hlead : Blanks lead) :
    words (lead ++ rest) = words rest := by
  induction lead with
  | nil => rfl
  | cons c lead ih =>
    obtain ⟨hc, hlead⟩ := List.forall_mem_cons.1 hlead
    exact (words_blank hc).trans (ih hlead)

theorem words_blanks (h : Blanks rest) : words rest = [] := by
  have hwords := @words_blanks_append [] rest h
  rwa [List.append_nil] at hwords

/-- A word goes up to the next blank. -/
theorem words_word_append (hword : IsWord word) (hrest : NotAhead (!isBlank ·) rest) :
    words (word ++ rest) = word :: words rest := by
  have hkept : ∀ others : List (List Char), (word :: others).filter (!·.isEmpty) =
      word :: others.filter (!·.isEmpty) :=
    fun _ => List.filter_cons_of_pos (by simp [hword.ne_nil])
  cases rest with
  | nil =>
    rw [List.append_nil, words, List.splitOnP_eq_singleton hword.isBlank_eq_false, hkept]
    rfl
  | cons c rest =>
    have hblank : isBlank c = true := by simpa using hrest c rfl
    rw [words_blank hblank, words, List.splitOnP_append_cons_of_forall_mem hword.isBlank_eq_false c
      hblank, hkept]
    rfl

end

namespace HasWords

theorem words_eq {text : List Char} {ws : List (List Char)} (h : HasWords text ws) :
    words text = ws := by
  induction h with
  | blanks hblanks => exact words_blanks hblanks
  | word hlead hword hrest _ ih => rw [words_blanks_append hlead, words_word_append hword hrest, ih]

theorem cons_blank {text : List Char} {ws : List (List Char)} (h : HasWords text ws) {c : Char}
    (hc : isBlank c = true) : HasWords (c :: text) ws := by
  cases h with
  | blanks hblanks => exact .blanks (List.forall_mem_cons.2 ⟨hc, hblanks⟩)
  | @word lead word rest ws hlead hword hrest h =>
    have hlead : Blanks (c :: lead) := List.forall_mem_cons.2 ⟨hc, hlead⟩
    exact .word hlead hword hrest h

end HasWords

/-- A character is a word of its own in front of a blank, and goes in front of a word. -/
theorem exists_hasWords (text : List Char) : ∃ ws, HasWords text ws := by
  induction text with
  | nil => exact ⟨[], .blanks .nil⟩
  | cons c text ih =>
    obtain ⟨ws, h⟩ := ih
    cases hc : isBlank c with
    | true => exact ⟨ws, h.cons_blank hc⟩
    | false =>
      have hword : IsWord [c] := ⟨List.cons_ne_nil _ _, by simpa using hc⟩
      cases h with
      | blanks hblanks => exact ⟨[[c]], .word .nil hword hblanks.notAhead (.blanks hblanks)⟩
      | @word lead word rest ws hlead hnext hrest h =>
        cases lead with
        | nil =>
          have hlonger : IsWord (c :: word) := ⟨List.cons_ne_nil _ _,
            List.forall_mem_cons.2 ⟨hc, hnext.isBlank_eq_false⟩⟩
          exact ⟨(c :: word) :: ws, .word .nil hlonger hrest h⟩
        | cons d lead =>
          exact ⟨[c] :: word :: ws, .word .nil hword (.cons (by simp [hlead d]) _)
            (.word hlead hnext hrest h)⟩

/-- **The words of a text** are what stands between its blanks. -/
theorem words_eq_iff {text : List Char} {ws : List (List Char)} :
    words text = ws ↔ HasWords text ws := by
  constructor
  · rintro rfl
    obtain ⟨ws, h⟩ := exists_hasWords text
    rwa [h.words_eq]
  · exact HasWords.words_eq

/-- Only blanks are without words. -/
theorem words_eq_nil {text : List Char} : words text = [] ↔ Blanks text := by
  refine ⟨fun h => ?_, words_blanks⟩
  cases words_eq_iff.1 h with
  | blanks hblanks => exact hblanks

/-! ### Pieces -/

section

variable {separator : Char} {mark : String}

/-- The separators are taken out of a text. -/
theorem not_mem_of_mem_splitOn {text part : List Char} (h : part ∈ text.splitOn separator) :
    separator ∉ part := by
  induction text generalizing part with
  | nil =>
    obtain rfl := List.mem_singleton.1 h
    exact List.not_mem_nil
  | cons c text ih =>
    obtain ⟨first, rest, hparts⟩ := List.exists_cons_of_ne_nil (List.splitOn_ne_nil separator text)
    rw [hparts] at ih
    rw [List.splitOn_cons_eq_if_modifyHead, hparts] at h
    split at h
    · rcases List.mem_cons.1 h with rfl | h
      · exact List.not_mem_nil
      · exact ih h
    · next hc =>
      rcases List.mem_cons.1 h with rfl | h
      · rw [List.mem_cons, not_or]
        exact ⟨fun heq => hc (beq_iff_eq.2 heq.symm), ih (List.mem_cons_self ..)⟩
      · exact ih (List.mem_cons_of_mem _ h)

theorem length_splitOn (separator : Char) (text : List Char) :
    (text.splitOn separator).length = text.count separator + 1 := by
  induction text with
  | nil => rfl
  | cons c text ih =>
    rw [List.splitOn_cons_eq_if_modifyHead, List.count_cons]
    split
    · rw [List.length_cons, ih]
    · rw [List.length_modifyHead, ih, Nat.add_zero]

theorem splitOn_intercalate_eq_flatMap (separator : Char) {parts : List (List Char)}
    (hne : parts ≠ []) :
    ([separator].intercalate parts).splitOn separator =
      parts.flatMap (·.splitOn separator) := by
  induction parts with
  | nil => exact absurd rfl hne
  | cons part parts ih =>
    cases parts with
    | nil => simp
    | cons next parts =>
      rw [List.intercalate_cons_cons, List.append_assoc, List.singleton_append,
        List.splitOn_append_cons_self, ih (List.cons_ne_nil _ _)]
      exact List.flatMap_cons.symm

theorem pieces_ne_nil (separator : Char) (text : String) : pieces separator text ≠ [] :=
  mt List.map_eq_nil_iff.1 (List.splitOn_ne_nil separator text.toList)

/-- The pieces make up the text. -/
theorem intercalate_pieces (hmark : mark.toList = [separator]) (text : String) :
    mark.intercalate (pieces separator text) = text := by
  have htexts : (pieces separator text).map String.toList = text.toList.splitOn separator := by
    simp [pieces, Function.comp_def]
  rw [← String.toList_inj, String.toList_intercalate, hmark, htexts, List.intercalate_splitOn]

/-- There are no separators in the pieces. -/
theorem not_mem_of_mem_pieces {text piece : String} (h : piece ∈ pieces separator text) :
    separator ∉ piece.toList := by
  obtain ⟨part, hpart, rfl⟩ := List.mem_map.1 h
  rw [String.toList_ofList]
  exact not_mem_of_mem_splitOn hpart

/-- The pieces are one more than the separators. -/
theorem length_pieces (separator : Char) (text : String) :
    (pieces separator text).length = text.toList.count separator + 1 := by
  rw [pieces, List.length_map, length_splitOn]

/-- A text without the separator is its only piece. -/
theorem pieces_of_not_mem {text : String} (h : separator ∉ text.toList) :
    pieces separator text = [text] := by
  rw [pieces, List.splitOn_eq_singleton h, List.map_singleton, String.ofList_toList]

/-- Texts without the separator are their own pieces. -/
theorem flatMap_pieces {texts : List String} (hapart : ∀ text ∈ texts, separator ∉ text.toList) :
    texts.flatMap (pieces separator) = texts := by
  rw [List.flatMap_congr fun text htext => pieces_of_not_mem (hapart text htext),
    List.flatMap_singleton']

/-- Of texts that are put together each is cut by itself. -/
theorem pieces_intercalate_eq_flatMap (hmark : mark.toList = [separator]) {texts : List String}
    (hne : texts ≠ []) :
    pieces separator (mark.intercalate texts) = texts.flatMap (pieces separator) := by
  rw [pieces, String.toList_intercalate, hmark,
    splitOn_intercalate_eq_flatMap separator (mt List.map_eq_nil_iff.1 hne), List.flatMap_map,
    List.map_flatMap]
  rfl

/-- What is put together from texts without the separator has these as its pieces. -/
theorem pieces_intercalate (hmark : mark.toList = [separator]) {texts : List String}
    (hne : texts ≠ []) (hapart : ∀ text ∈ texts, separator ∉ text.toList) :
    pieces separator (mark.intercalate texts) = texts := by
  rw [pieces_intercalate_eq_flatMap hmark hne, flatMap_pieces hapart]

/-- What stands in front of a text without the separator goes to its first piece. -/
theorem splitOn_append_left {lead : List Char} (hlead : separator ∉ lead) (text : List Char) :
    ∃ first rest, text.splitOn separator = first :: rest ∧
      (lead ++ text).splitOn separator = (lead ++ first) :: rest := by
  by_cases hmem : separator ∈ text
  · obtain ⟨first, rest, rfl, hfirst⟩ := List.eq_append_cons_of_mem hmem
    have hwhole : separator ∉ lead ++ first := by simp [hlead, hfirst]
    refine ⟨first, rest.splitOn separator, ?_, ?_⟩
    · rw [List.splitOn_append_cons_self, List.splitOn_eq_singleton hfirst, List.singleton_append]
    · rw [← List.append_assoc, List.splitOn_append_cons_self, List.splitOn_eq_singleton hwhole,
        List.singleton_append]
  · have hwhole : separator ∉ lead ++ text := by simp [hlead, hmem]
    exact ⟨text, [], List.splitOn_eq_singleton hmem, List.splitOn_eq_singleton hwhole⟩

/-- What stands behind a text without the separator goes to its last piece. -/
theorem splitOn_append_right {trail : List Char} (htrail : separator ∉ trail) (text : List Char) :
    ∃ front last, text.splitOn separator = front ++ [last] ∧
      (text ++ trail).splitOn separator = front ++ [last ++ trail] := by
  by_cases hmem : separator ∈ text
  · obtain ⟨front, last, rfl, hlast⟩ :
        ∃ front last, text = front ++ separator :: last ∧ separator ∉ last := by
      obtain ⟨last, front, htext, hlast⟩ := List.eq_append_cons_of_mem (List.mem_reverse.2 hmem)
      refine ⟨front.reverse, last.reverse, ?_, mt List.mem_reverse.1 hlast⟩
      rw [← List.reverse_reverse text, htext]
      simp
    have hwhole : separator ∉ last ++ trail := by simp [hlast, htrail]
    refine ⟨front.splitOn separator, last, ?_, ?_⟩
    · rw [List.splitOn_append_cons_self, List.splitOn_eq_singleton hlast]
    · rw [List.append_assoc, List.cons_append, List.splitOn_append_cons_self,
        List.splitOn_eq_singleton hwhole]
  · have hwhole : separator ∉ text ++ trail := by simp [hmem, htrail]
    exact ⟨[], text, List.splitOn_eq_singleton hmem, List.splitOn_eq_singleton hwhole⟩

/-- **Trimming a text does not change its trimmed pieces**, if the separator is no blank. -/
theorem map_trim_splitOn_trim (hseparator : isBlank separator = false) (text : List Char) :
    ((trim text).splitOn separator).map trim = (text.splitOn separator).map trim := by
  obtain ⟨trail, htrail, htext⟩ := exists_trim text
  have hlead : Blanks (text.takeWhile isBlank) := .takeWhile text
  have hapart : ∀ {blanks : List Char}, Blanks blanks → separator ∉ blanks :=
    fun hblanks hmem => ne_of_apart (hblanks _ hmem) hseparator rfl
  obtain ⟨front, last, hcore, hbehind⟩ := splitOn_append_right (hapart htrail) (trim text)
  obtain ⟨first, rest, hinner, hwhole⟩ :=
    splitOn_append_left (hapart hlead) (trim text ++ trail)
  have hlast : trim (last ++ trail) = trim last := trim_surrounded .nil htrail last
  have hfirst : trim (text.takeWhile isBlank ++ first) = trim first := by
    simpa using trim_surrounded hlead .nil first
  calc ((trim text).splitOn separator).map trim
      = front.map trim ++ [trim last] := by rw [hcore, List.map_append, List.map_singleton]
    _ = ((trim text ++ trail).splitOn separator).map trim := by
        rw [hbehind, List.map_append, List.map_singleton, hlast]
    _ = trim first :: rest.map trim := by rw [hinner, List.map_cons]
    _ = (text.splitOn separator).map trim := by
        rw [← hfirst, ← List.map_cons, ← hwhole, ← htext]

end

end RequestSql.Text
