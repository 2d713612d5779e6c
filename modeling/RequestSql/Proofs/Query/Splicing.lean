import RequestSql.Proofs.Number.Digits
import RequestSql.Proofs.Plan.Marks
import RequestSql.Proofs.Text.Run

/-!
# Splicing marked texts

What becomes of a marked text in a statement. Cutting it into tokens loses nothing, and
once its marks are numbered every number is a token of its own: the blank before it and the
parenthesis behind it keep it from growing together with its neighbours. So the `i`-th mark
is bound to the `i`-th value, in order, and the pieces have the text again, with the marks
numbered from wherever the statement has come to.

Key theorems: `flatMap_text_sqlTokens`, `sqlTokens_append_dollar`, `Marked.spliced`,
`Marked.numberedChars_splice`, `Marked.boundValues_splice`.
-/

namespace RequestSql

/-! ### Tokens -/

namespace SqlToken

theorem quotation_append (opening close : Char) (escaped : Bool) (cs : List Char) :
    (quotation opening close escaped cs).1 ++ (quotation opening close escaped cs).2 = cs := by
  fun_induction quotation opening close escaped cs with
  | case1 => rfl
  | case2 => rfl
  | case3 => simp_all
  | case4 => rfl
  | case5 => simp_all

/-- A token and what follows it are the whole text. -/
theorem scan_append (c : Char) (cs : List Char) :
    (scan c cs).1.text ++ (scan c cs).2 = c :: cs := by
  unfold scan
  split
  · exact congrArg (c :: ·) List.takeWhile_append_dropWhile
  · split
    · exact congrArg (c :: ·) List.takeWhile_append_dropWhile
    · split
      · exact congrArg (c :: ·) (quotation_append ..)
      · rfl

end SqlToken

/-- Cutting a text into tokens loses nothing. -/
theorem flatMap_text_sqlTokens (cs : List Char) :
    (sqlTokens cs).flatMap SqlToken.text = cs := by
  fun_induction sqlTokens cs with
  | case1 => rfl
  | case2 c cs ih => rw [List.flatMap_cons, ih, SqlToken.scan_append]

/-- A character that is a token stands in the text. -/
theorem mem_of_mark_mem_sqlTokens {c : Char} {cs : List Char}
    (h : SqlToken.mark c ∈ sqlTokens cs) : c ∈ cs := by
  rw [← flatMap_text_sqlTokens cs]
  exact List.mem_flatMap.2 ⟨_, h, List.mem_singleton.2 rfl⟩

namespace SqlToken

/-- The token that a bare text begins with stays the same if the text ends in a blank and
then a `$` follows. -/
theorem scan_append_dollar {c : Char} {cs : List Char} (hc : isBare c = true)
    (hlast : ∀ d, (c :: cs).getLast? = some d → d = ' ') (rest : List Char) :
    scan c (cs ++ '$' :: rest) = ((scan c cs).1, (scan c cs).2 ++ '$' :: rest) := by
  unfold scan
  by_cases hspace : isSpace c = true
  · rw [if_pos hspace, if_pos hspace, Text.takeWhile_append_stop _ _ (by decide),
      Text.dropWhile_append_stop _ _ (by decide)]
  · rw [if_neg hspace, if_neg hspace]
    by_cases hword : startsWord c = true
    · -- A word may hold a `$`, so here it is the blank that keeps the two apart.
      rcases List.eq_nil_or_concat cs with rfl | ⟨ds, d, hcs⟩
      · obtain rfl := hlast c rfl
        exact absurd hword (by decide)
      · rw [List.concat_eq_append] at hcs
        subst hcs
        obtain rfl : d = ' ' := hlast d (List.getLast?_concat (l := c :: ds))
        rw [if_pos hword, if_pos hword, List.append_assoc, List.singleton_append,
          Text.takeWhile_append_stop _ _ (by decide), Text.dropWhile_append_stop _ _ (by decide),
          Text.takeWhile_append_stop _ _ (by decide), Text.dropWhile_append_stop _ _ (by decide),
          List.append_assoc, List.singleton_append]
    · have hclosing : closing? c = none := by
        simp only [isBare, Bool.and_eq_true, Option.isNone_iff_eq_none] at hc
        exact hc.2
      rw [if_neg hword, if_neg hword, hclosing]

end SqlToken

/-- A bare text that ends in a blank is cut up as it would be without the `$` that comes
next. -/
theorem sqlTokens_append_dollar {cs : List Char} (hbare : Bare cs)
    (hlast : ∀ c, cs.getLast? = some c → c = ' ') (rest : List Char) :
    sqlTokens (cs ++ '$' :: rest) = sqlTokens cs ++ sqlTokens ('$' :: rest) := by
  fun_induction sqlTokens cs with
  | case1 => rfl
  | case2 c cs ih =>
    have hscan := SqlToken.scan_append c cs
    have hbare' : Bare (SqlToken.scan c cs).2 := by
      intro d hd
      exact hbare d (hscan ▸ List.mem_append_right _ hd)
    have hlast' : ∀ d, (SqlToken.scan c cs).2.getLast? = some d → d = ' ' := by
      intro d hd
      refine hlast d ?_
      rw [← hscan, List.getLast?_append, hd, Option.some_or]
    have hfirst := SqlToken.scan_append_dollar (hbare c (List.mem_cons_self ..)) hlast rest
    rw [List.cons_append, sqlTokens, hfirst, ih hbare' hlast', List.cons_append]

/-! ### Numbers -/

/-- The word of a number asks for the value of that number. -/
theorem wordValue?_toDigits (params : List Param) (i : Nat) :
    wordValue? params (Nat.toDigits 10 (i + 1)) = params[i]? := by
  have hdigits : (Nat.toDigits 10 (i + 1)).all Char.isDigit = true :=
    List.all_eq_true.2 fun c hc => Nat.isDigit_of_mem_toDigits (by decide) (by decide) hc
  unfold wordValue? wordNumber?
  rw [if_pos hdigits, digitsValue_toDigits]

/-- A number between a `$` and a parenthesis is a word of its own. -/
theorem sqlTokens_number (n : Nat) (cs : List Char) :
    sqlTokens ('$' :: (Nat.toDigits 10 n ++ ')' :: cs)) =
      .mark '$' :: .word (Nat.toDigits 10 n) :: sqlTokens (')' :: cs) := by
  obtain ⟨c, digits, heq⟩ := List.exists_cons_of_ne_nil (Nat.toDigits_ne_nil (n := n) (b := 10))
  have hdigit : ∀ d ∈ Nat.toDigits 10 n, d.isDigit = true :=
    fun d hd => Nat.isDigit_of_mem_toDigits (by decide) (by decide) hd
  rw [heq] at hdigit ⊢
  have hword : ∀ d ∈ digits, SqlToken.continuesWord d = true := by
    intro d hd
    simp [SqlToken.continuesWord, SqlToken.startsWord, hdigit d (List.mem_cons_of_mem _ hd)]
  have hc := hdigit c (List.mem_cons_self ..)
  have hne : ∀ d, d.isDigit = false → c ≠ d := fun d hd => Text.ne_of_apart hc hd
  have hspace : SqlToken.isSpace c = false := by
    simp [SqlToken.isSpace, hne ' ' (by decide), hne '\t' (by decide), hne '\r' (by decide),
      hne '\n' (by decide)]
  have hscan : SqlToken.scan c (digits ++ ')' :: cs) = (.word (c :: digits), ')' :: cs) := by
    unfold SqlToken.scan
    rw [hspace, if_neg Bool.false_ne_true, if_pos (by simp [SqlToken.startsWord, hc]),
      Text.takeWhile_run hword (by decide), Text.dropWhile_run hword (by decide)]
  have hdollar : ∀ cs, SqlToken.scan '$' cs = (.mark '$', cs) := fun _ => rfl
  rw [sqlTokens, hdollar, List.cons_append, sqlTokens, hscan]

/-! ### Pieces -/

theorem boundValues_append (a b : List Piece) :
    boundValues (a ++ b) = boundValues a ++ boundValues b := by
  induction a with
  | nil => rfl
  | cons piece a ih =>
    cases piece with
    | text content => exact ih
    | value value => exact congrArg (value :: ·) ih

theorem numberedFrom_append (n : Nat) (a b : List Piece) :
    numberedFrom n (a ++ b) = numberedFrom n a ++ numberedFrom (n + (boundValues a).length) b := by
  induction a generalizing n with
  | nil => rfl
  | cons piece a ih =>
    cases piece with
    | text content => exact congrArg (content :: ·) (ih n)
    | value value =>
      have h := ih (n + 1)
      rw [Nat.add_assoc, Nat.add_comm 1] at h
      exact congrArg (("$" ++ toString n) :: ·) h

/-- The characters of the pieces, the values numbered from `n` on. -/
def numberedChars (n : Nat) (pieces : List Piece) : List Char :=
  (numberedFrom n pieces).flatMap String.toList

theorem toList_numberedText (pieces : List Piece) :
    (numberedText pieces).toList = numberedChars 1 pieces := by
  rw [numberedText, numberedChars, String.toList_join]

theorem numberedChars_append (n : Nat) (a b : List Piece) :
    numberedChars n (a ++ b) =
      numberedChars n a ++ numberedChars (n + (boundValues a).length) b := by
  rw [numberedChars, numberedFrom_append, List.flatMap_append]
  rfl

theorem numberedChars_text (n : Nat) (content : String) (pieces : List Piece) :
    numberedChars n (.text content :: pieces) = content.toList ++ numberedChars n pieces := rfl

theorem numberedChars_value (n : Nat) (value : Value) (pieces : List Piece) :
    numberedChars n (.value value :: pieces) =
      '$' :: (Nat.toDigits 10 n ++ numberedChars (n + 1) pieces) := by
  simp [numberedChars, numberedFrom, Nat.toString_eq_repr]

/-- A token as a piece of text. -/
def SqlToken.piece (token : SqlToken) : Piece := .text (String.ofList token.text)

theorem numberedChars_map_piece (n : Nat) (tokens : List SqlToken) :
    numberedChars n (tokens.map SqlToken.piece) = tokens.flatMap SqlToken.text := by
  induction tokens with
  | nil => rfl
  | cons token tokens ih =>
    rw [List.map_cons, SqlToken.piece, numberedChars_text, ih, String.toList_ofList,
      List.flatMap_cons]

theorem boundValues_map_piece (tokens : List SqlToken) :
    boundValues (tokens.map SqlToken.piece) = [] := by
  induction tokens with
  | nil => rfl
  | cons token tokens ih => exact ih

/-- A token other than `$` is a piece as it is. -/
theorem bindTokens_cons_of_ne {token : SqlToken} (h : token ≠ .mark '$') (params : List Param)
    (next : Nat) (tokens : List SqlToken) :
    bindTokens params next (token :: tokens) = token.piece :: bindTokens params next tokens := by
  rw [bindTokens]
  · rfl
  · intro _ heq
    exact absurd heq h
  · intro _ _ heq
    exact absurd heq h
  · exact h

theorem bindTokens_append {tokens : List SqlToken} (h : SqlToken.mark '$' ∉ tokens)
    (params : List Param) (next : Nat) (rest : List SqlToken) :
    bindTokens params next (tokens ++ rest) =
      tokens.map SqlToken.piece ++ bindTokens params next rest := by
  induction tokens with
  | nil => rfl
  | cons token tokens ih =>
    obtain ⟨hne, hrest⟩ := List.ne_and_not_mem_of_not_mem_cons h
    rw [List.cons_append, bindTokens_cons_of_ne (Ne.symm hne), ih hrest]
    rfl

/-! ### Marked texts -/

/-- Numbering goes on where the text before left off. -/
theorem numberMarksFrom_append (n : Nat) (cs ds : List Char) :
    numberMarksFrom n (cs ++ ds) =
      numberMarksFrom n cs ++ numberMarksFrom (n + cs.count '?') ds := by
  induction cs generalizing n with
  | nil => rfl
  | cons c cs ih =>
    rw [List.cons_append, numberMarksFrom, numberMarksFrom]
    by_cases hc : c = '?'
    · subst hc
      rw [if_pos rfl, if_pos rfl, ih, List.count_cons_self, Nat.add_right_comm, List.append_assoc]
      rfl
    · rw [if_neg hc, if_neg hc, ih, List.count_cons_of_ne hc]
      rfl

theorem numberMarksFrom_append_of_bare {cs : List Char} (hbare : Bare cs) (n : Nat)
    (rest : List Char) : numberMarksFrom n (cs ++ rest) = cs ++ numberMarksFrom n rest := by
  induction cs with
  | nil => rfl
  | cons c cs ih =>
    have hc : c ≠ '?' := Text.ne_of_apart (hbare c (List.mem_cons_self ..)) (by decide)
    rw [List.cons_append, numberMarksFrom, if_neg hc,
      ih fun d hd => hbare d (List.mem_cons_of_mem _ hd), List.cons_append]

namespace Bare

variable {cs : List Char}

theorem mark_not_mem_sqlTokens (hbare : Bare cs) : SqlToken.mark '$' ∉ sqlTokens cs :=
  fun h => hbare.not_mem (by decide) (mem_of_mark_mem_sqlTokens h)

/-- A bare text has no marks to be numbered. -/
theorem numberMarksFrom_eq (hbare : Bare cs) (n : Nat) : numberMarksFrom n cs = cs := by
  have h := numberMarksFrom_append_of_bare hbare n []
  rwa [List.append_nil, numberMarksFrom, List.append_nil] at h

/-- The tokens of a bare text are pieces as they are. -/
theorem bindTokens_eq (hbare : Bare cs) (params : List Param) (next : Nat) :
    bindTokens params next (sqlTokens cs) = (sqlTokens cs).map SqlToken.piece := by
  have h := bindTokens_append hbare.mark_not_mem_sqlTokens params next []
  rwa [List.append_nil, bindTokens, List.append_nil] at h

/-- The first mark of a text gets the value of its number. -/
theorem bindTokens_mark (hbare : Bare cs) {params : List Param} {i : Nat} {param : Param}
    (hparam : params[i]? = some param) (next : Nat) (rest : List Char) :
    bindTokens params next (sqlTokens (numberMarksFrom (i + 1) (cs ++ ' ' :: '?' :: ')' :: rest))) =
      (sqlTokens (cs ++ [' '])).map SqlToken.piece ++ .value param.value ::
        bindTokens params next (sqlTokens (numberMarksFrom (i + 2) (')' :: rest))) := by
  have hblank : Bare (cs ++ [' ']) := hbare.append (by decide)
  have hlast : ∀ c, (cs ++ [' ']).getLast? = some c → c = ' ' := by
    intro c hc
    rw [List.getLast?_concat] at hc
    exact (Option.some.inj hc).symm
  have hnumbered : numberMarksFrom (i + 1) (cs ++ ' ' :: '?' :: ')' :: rest) =
      (cs ++ [' ']) ++
        '$' :: (Nat.toDigits 10 (i + 1) ++ ')' :: numberMarksFrom (i + 2) rest) := by
    rw [numberMarksFrom_append_of_bare hbare, List.append_assoc]
    rfl
  rw [hnumbered, sqlTokens_append_dollar hblank hlast, sqlTokens_number,
    bindTokens_append hblank.mark_not_mem_sqlTokens, bindTokens, wordValue?_toDigits, hparam]
  rfl

end Bare

namespace Marked

variable {n : Nat} {cs : List Char}

/-- From the mark after `before.length` others on, the pieces have the text, its marks
numbered from `m` on, and the values in order. -/
theorem spliced (h : Marked n cs) : ∀ {params : List Param}, params.length = n →
    ∀ (before : List Param) (next m : Nat) (pieces : List Piece),
      bindTokens (before ++ params) next
        (sqlTokens (numberMarksFrom (before.length + 1) cs)) = pieces →
      numberedChars m pieces = numberMarksFrom m cs ∧
        boundValues pieces = params.map Param.value := by
  induction h with
  | @bare cs hbare =>
    rintro params hlength before next m pieces rfl
    obtain rfl := List.eq_nil_of_length_eq_zero hlength
    rw [hbare.numberMarksFrom_eq, hbare.numberMarksFrom_eq, hbare.bindTokens_eq,
      numberedChars_map_piece, flatMap_text_sqlTokens, boundValues_map_piece]
    exact ⟨rfl, rfl⟩
  | @mark n cs rest hbare _ ih =>
    rintro params hlength before next m pieces rfl
    obtain ⟨param, params, rfl⟩ := List.exists_cons_of_length_eq_add_one hlength
    have hparam : (before ++ param :: params)[before.length]? = some param := by
      rw [List.getElem?_append_right (Nat.le_refl _), Nat.sub_self]
      rfl
    obtain ⟨hchars, hvalues⟩ := ih (Nat.succ.inj hlength) (before ++ [param]) next (m + 1) _ rfl
    rw [List.append_assoc, List.singleton_append, List.length_append,
      List.length_singleton] at hchars hvalues
    rw [hbare.bindTokens_mark hparam]
    constructor
    · rw [numberedChars_append, boundValues_map_piece, numberedChars_map_piece,
        flatMap_text_sqlTokens, List.length_nil, Nat.add_zero, numberedChars_value, hchars,
        numberMarksFrom_append_of_bare hbare, List.append_assoc]
      rfl
    · rw [boundValues_append, boundValues_map_piece, boundValues, hvalues, List.nil_append,
        List.map_cons]

end Marked

/-- What a text with as many marks as values becomes in a statement that has come to the
number `m`: the text with its marks numbered from there on. -/
theorem Marked.numberedChars_splice {text : String} {params : List Param}
    (h : Marked params.length text.toList) (m : Nat) :
    numberedChars m (splice text params) = numberMarksFrom m text.toList :=
  (h.spliced rfl [] 0 m _ rfl).1

/-- The values of such a text are bound in order, all of them. -/
theorem Marked.boundValues_splice {text : String} {params : List Param}
    (h : Marked params.length text.toList) :
    boundValues (splice text params) = params.map Param.value :=
  (h.spliced rfl [] 0 0 _ rfl).2

end RequestSql
