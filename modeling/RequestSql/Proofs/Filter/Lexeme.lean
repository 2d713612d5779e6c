import RequestSql.Filter.Lexer
import RequestSql.Proofs.Text.Run

/-!
# The forms of tokens

What a token is, by its form: a sign or a pair of signs, a numeral, a quoted text, a path or
a keyword, or nothing of these. A form says which characters make up the token and what may
follow it, for a token goes on as far as it can; it does not say how to find the end.
Scanning finds the token of which the text begins with the form, and there is one only
(`Lexeme.isToken_scan`, `IsToken.scan_eq`). Since nothing is required of the end of a text, a
token by itself is the same token again (`IsToken.alone`).

Key definitions: `PlainNumeral`, `Quoted`, `Unclosed`, `IsToken`.
Key theorems: `PlainNumeral.numeral_text`, `Lexeme.isToken_scan`, `IsToken.scan_eq`,
`IsToken.alone`, `IsToken.of_illegal`.
-/

namespace RequestSql

open Text (NotAhead)

/-! ### Signs -/

/-- The characters that are a token whatever follows. -/
def signs : List (Char × TokenKind) := [('(', .lparen), (')', .rparen), ('~', .matching)]

/-- The pairs of characters that are one token. -/
def signPairs : List ((Char × Char) × TokenKind) :=
  [(('=', '='), .eq), (('!', '='), .notEq), (('!', '~'), .notMatching), (('<', '='), .le),
    (('>', '='), .ge)]

/-- What the first character of such a pair is without the second one. -/
def loneSigns : List (Char × TokenKind) :=
  [('=', .illegal), ('!', .illegal), ('<', .lt), ('>', .gt)]

/-- The characters that may stand around a quoted text. -/
def quoteMarks : List Char := ['"', '\'']

/-- The characters that begin a token of their own kind. -/
def reserved : List Char := ['(', ')', '~', '=', '!', '<', '>', '"', '\'']

/-! ### Numerals -/

/-- A number as it is written: a sign or none, digits, and after a point the places. -/
structure PlainNumeral where
  negative : Bool
  whole : List Char
  places : List Char
  whole_ne_nil : whole ≠ []
  isDigit : ∀ c ∈ whole ++ places, c.isDigit = true

namespace PlainNumeral

/-- A point and the places behind it; without places there is no point. -/
def pointed (places : List Char) : List Char := if places.isEmpty then [] else '.' :: places

/-- The characters of the numeral. -/
def text (n : PlainNumeral) : List Char :=
  (if n.negative then ['-'] else []) ++ (n.whole ++ pointed n.places)

/-- The number nearest to what the numeral says. -/
def value (n : PlainNumeral) : Binary64 :=
  .ofRatio n.negative (digitsValue (n.whole ++ n.places)) (Nat.pow 10 n.places.length)

/-- What follows does not continue the numeral: no digit does, and if there are no places yet
neither does a point with a digit. -/
def Ends (n : PlainNumeral) (rest : List Char) : Prop :=
  NotAhead Char.isDigit rest ∧
    (n.places = [] → ∀ digits, rest = '.' :: digits → NotAhead Char.isDigit digits)

/-- What is read behind the sign of a numeral. -/
theorem parseDigits?_eq (n : PlainNumeral) :
    Binary64.parseDigits? n.negative (n.whole ++ pointed n.places) = some n.value := by
  have hwhole : ∀ c ∈ n.whole, (c != '.') = true := fun c hc =>
    bne_iff_ne.2 (Text.ne_of_apart (n.isDigit c (List.mem_append_left _ hc)) (by decide))
  have hpoint : NotAhead (· != '.') (pointed n.places) := by
    cases n.places with
    | nil => exact .nil
    | cons c places => exact .cons (by decide) _
  have hplaces : (pointed n.places).drop 1 = n.places := by
    cases n.places <;> rfl
  have hne : (n.whole ++ n.places).isEmpty = false :=
    List.isEmpty_eq_false_iff.2 (List.append_ne_nil_of_left_ne_nil n.whole_ne_nil _)
  have hdigits : (n.whole ++ n.places).all Char.isDigit = true := List.all_eq_true.2 n.isDigit
  rw [Binary64.parseDigits?, hpoint.takeWhile_append hwhole, hpoint.dropWhile_append hwhole,
    hplaces, hne, hdigits]
  rfl

/-- Every numeral says a number, the one nearest to it. -/
theorem parse?_text (n : PlainNumeral) : Binary64.parse? n.text = some n.value := by
  rw [← n.parseDigits?_eq, text]
  cases hsign : n.negative with
  | true => rfl
  | false =>
    obtain ⟨d, digits, hwhole⟩ := List.exists_cons_of_ne_nil n.whole_ne_nil
    have hd : d.isDigit = true :=
      n.isDigit d (List.mem_append_left _ (hwhole ▸ List.mem_cons_self ..))
    rw [if_neg Bool.false_ne_true, List.nil_append, hwhole, List.cons_append]
    refine Binary64.parse?.eq_3 _ ?_ ?_ <;> rintro cs ⟨⟩ <;> cases hd

/-- **No numeral is illegal.** -/
theorem numeral_text (n : PlainNumeral) : Lexeme.numeral n.text = .number n.value := by
  rw [Lexeme.numeral, n.parse?_text]

end PlainNumeral

/-! ### Quoted texts -/

/-- How a content may be written between two quotes: a quote or a backslash in it has a
backslash before it, and any other character may have one. -/
inductive Quoted (quote : Char) : List Char → List Char → Prop
  | nil : Quoted quote [] []
  | plain {c : Char} {content written : List Char} : c ≠ quote → c ≠ '\\' →
      Quoted quote content written → Quoted quote (c :: content) (c :: written)
  | escaped {c : Char} {content written : List Char} :
      Quoted quote content written → Quoted quote (c :: content) ('\\' :: c :: written)

/-- No quote ends the text: it is the writing of some content, and at most a backslash with
nothing behind it. -/
def Unclosed (quote : Char) (cs : List Char) : Prop :=
  ∃ content written, Quoted quote content written ∧ (cs = written ∨ cs = written ++ ['\\'])

/-! ### Forms -/

/-- The first characters of a text are a token when they are followed by the rest. -/
inductive IsToken : List Char → TokenKind → List Char → Prop
  | sign {c : Char} {kind : TokenKind} {rest : List Char} :
      (c, kind) ∈ signs → IsToken [c] kind rest
  | pair {c d : Char} {kind : TokenKind} {rest : List Char} :
      ((c, d), kind) ∈ signPairs → IsToken [c, d] kind rest
  | lone {c : Char} {kind : TokenKind} {rest : List Char} : (c, kind) ∈ loneSigns →
      (∀ d ∈ rest.head?, (c, d) ∉ signPairs.map Prod.fst) → IsToken [c] kind rest
  | number (n : PlainNumeral) {rest : List Char} :
      n.Ends rest → IsToken n.text (.number n.value) rest
  | text {quote : Char} {content written rest : List Char} : quote ∈ quoteMarks →
      Quoted quote content written →
        IsToken (quote :: (written ++ [quote])) (.text (String.ofList content)) rest
  | unclosed {quote : Char} {cs : List Char} : quote ∈ quoteMarks → Unclosed quote cs →
      IsToken (quote :: cs) .illegal []
  | path {c : Char} {cs rest : List Char} : Lexeme.startsPath c = true →
      (∀ d ∈ cs, Lexeme.continuesPath d = true) → NotAhead Lexeme.continuesPath rest →
        IsToken (c :: cs) (Lexeme.keyword (c :: cs)) rest
  | illegal {c : Char} {rest : List Char} : c ∉ reserved → c.isDigit = false →
      Lexeme.startsPath c = false → (c = '-' → NotAhead Char.isDigit rest) →
        IsToken [c] .illegal rest

/-! ### Scanning a quoted text -/

section Quotation

variable {quote : Char} {content written : List Char}

/-- A writing goes up to the quote behind it. -/
theorem Quoted.quotation_eq (h : Quoted quote content written) (hquote : quote ≠ '\\')
    (rest : List Char) :
    Lexeme.quotation quote (written ++ quote :: rest) =
      some (content, written ++ [quote], rest) := by
  induction h with
  | nil =>
    rw [List.nil_append, Lexeme.quotation.eq_def]
    split
    · next heq => cases heq
    · next heq => exact absurd (List.cons.inj heq).1 hquote
    · next heq => exact absurd (List.cons.inj heq).1 hquote
    · next c text heq =>
      obtain ⟨rfl, rfl⟩ := List.cons.inj heq
      simp
  | @plain c content written hc hbackslash _ ih =>
    rw [List.cons_append, Lexeme.quotation.eq_4 _ _ _ (by simp) (by simp [hbackslash]), ih]
    simp [hc]
  | escaped _ ih =>
    rw [List.cons_append, List.cons_append, Lexeme.quotation, ih]
    rfl

/-- A backslash is alone or has a character behind it. -/
theorem Lexeme.ne_backslash {c : Char} {cs : List Char} (hlone : c = '\\' → cs = [] → False)
    (hescape : ∀ d ds, c = '\\' → cs = d :: ds → False) : c ≠ '\\' := by
  rintro rfl
  cases cs with
  | nil => exact hlone rfl rfl
  | cons d ds => exact hescape d ds rfl rfl

/-- What is found before a quote is a writing of the content. -/
theorem Lexeme.quoted_of_quotation {cs taken rest : List Char}
    (h : quotation quote cs = some (content, taken, rest)) :
    ∃ written, taken = written ++ [quote] ∧ Quoted quote content written := by
  fun_induction quotation quote cs generalizing content taken rest with
  | case1 => cases h
  | case2 => cases h
  | case3 c text ih =>
    obtain ⟨⟨content, taken, rest⟩, hinner, heq⟩ := Option.map_eq_some_iff.1 h
    cases heq
    obtain ⟨written, rfl, hwritten⟩ := ih hinner
    exact ⟨'\\' :: c :: written, rfl, .escaped hwritten⟩
  | case4 c text _ _ hc =>
    cases h
    exact ⟨[], congrArg ([·]) (beq_iff_eq.1 hc), .nil⟩
  | case5 c text hlone hescape hc ih =>
    obtain ⟨⟨content, taken, rest⟩, hinner, heq⟩ := Option.map_eq_some_iff.1 h
    cases heq
    obtain ⟨written, rfl, hwritten⟩ := ih hinner
    exact ⟨c :: written, rfl,
      .plain (mt beq_iff_eq.2 hc) (ne_backslash hlone hescape) hwritten⟩

/-- Where no quote is found there is none that could end the text. -/
theorem Lexeme.unclosed_of_quotation {cs : List Char} (h : quotation quote cs = none) :
    Unclosed quote cs := by
  fun_induction quotation quote cs with
  | case1 => exact ⟨[], [], .nil, .inl rfl⟩
  | case2 => exact ⟨[], [], .nil, .inr rfl⟩
  | case3 c text ih =>
    obtain ⟨content, written, hwritten, hcs⟩ := ih (Option.map_eq_none_iff.1 h)
    refine ⟨c :: content, '\\' :: c :: written, .escaped hwritten, ?_⟩
    exact hcs.imp (congrArg ('\\' :: c :: ·)) (congrArg ('\\' :: c :: ·))
  | case4 => cases h
  | case5 c text hlone hescape hc ih =>
    obtain ⟨content, written, hwritten, hcs⟩ := ih (Option.map_eq_none_iff.1 h)
    have hplain := Quoted.plain (mt beq_iff_eq.2 hc) (ne_backslash hlone hescape) hwritten
    refine ⟨c :: content, c :: written, hplain, ?_⟩
    exact hcs.imp (congrArg (c :: ·)) (congrArg (c :: ·))

/-- A text that nothing ends has no closing quote. -/
theorem Unclosed.quotation_eq {cs : List Char} (h : Unclosed quote cs) :
    Lexeme.quotation quote cs = none := by
  obtain ⟨content, written, hwritten, hcs⟩ := h
  obtain ⟨tail, htail, rfl⟩ :
      ∃ tail, Lexeme.quotation quote tail = none ∧ cs = written ++ tail := by
    rcases hcs with rfl | rfl
    · exact ⟨[], rfl, (List.append_nil _).symm⟩
    · exact ⟨['\\'], rfl, rfl⟩
  clear hcs
  induction hwritten with
  | nil => exact htail
  | plain hc hbackslash _ ih =>
    rw [List.cons_append, Lexeme.quotation.eq_4 _ _ _ (by simp [hbackslash]) (by simp [hbackslash]),
      ih]
    simp [hc]
  | escaped _ ih =>
    rw [List.cons_append, List.cons_append, Lexeme.quotation, ih]
    rfl

end Quotation

/-! ### Scanning a numeral -/

namespace Lexeme

open PlainNumeral (pointed)

/-- A fraction is found where its digits end. -/
theorem fraction_append {places rest : List Char} (hplaces : ∀ c ∈ places, c.isDigit = true)
    (hrest : NotAhead Char.isDigit rest)
    (hpoint : places = [] → ∀ digits, rest = '.' :: digits → NotAhead Char.isDigit digits) :
    fraction (pointed places ++ rest) = (places, rest) := by
  cases places with
  | nil =>
    rw [pointed, List.isEmpty_nil, if_pos rfl, List.nil_append]
    unfold fraction
    split
    · next digits =>
      rw [(hpoint rfl digits rfl).any_eq_false, if_neg Bool.false_ne_true]
    · rfl
  | cons c places =>
    have hc : c.isDigit = true := hplaces c (List.mem_cons_self ..)
    rw [pointed, List.isEmpty_cons, if_neg Bool.false_ne_true, List.cons_append, List.cons_append,
      fraction, List.head?_cons, Option.any_some, if_pos hc, ← List.cons_append,
      hrest.takeWhile_append hplaces, hrest.dropWhile_append hplaces]

/-- What is found after the digits of a numeral are its places. -/
theorem fraction_ends {cs : List Char} (h : NotAhead Char.isDigit cs) :
    (∀ c ∈ (fraction cs).1, c.isDigit = true) ∧ NotAhead Char.isDigit (fraction cs).2 ∧
      ((fraction cs).1 = [] → ∀ digits, (fraction cs).2 = '.' :: digits →
        NotAhead Char.isDigit digits) := by
  unfold fraction
  split
  · next digits =>
    split
    · next hdigit =>
      refine ⟨fun c hc => List.all_eq_true.1 List.all_takeWhile c hc,
        .dropWhile Char.isDigit digits, ?_⟩
      intro hnil
      cases digits with
      | nil => cases hdigit
      | cons d digits =>
        have hd : d.isDigit = true := hdigit
        rw [List.takeWhile_cons_of_pos hd] at hnil
        cases hnil
    · next hdigit =>
      refine ⟨fun c hc => absurd hc List.not_mem_nil, h, fun _ others heq c hc => ?_⟩
      obtain rfl := (List.cons.inj heq).2
      rw [hc] at hdigit
      exact Bool.eq_false_iff.2 hdigit
  · next hpoint =>
    exact ⟨fun c hc => absurd hc List.not_mem_nil, h,
      fun _ digits heq => absurd heq (hpoint digits)⟩

/-- A numeral is scanned up to where it ends, whatever its first character is. -/
theorem number_append {n : PlainNumeral} {first : Char} {digits rest : List Char}
    (hdigits : ∀ c ∈ digits, c.isDigit = true)
    (htext : n.text = first :: (digits ++ pointed n.places)) (h : n.Ends rest) :
    number first (digits ++ (pointed n.places ++ rest)) =
      ⟨.number n.value, digits ++ pointed n.places, rest⟩ := by
  have hplaces : ∀ c ∈ n.places, c.isDigit = true :=
    fun c hc => n.isDigit c (List.mem_append_right _ hc)
  have hbehind : NotAhead Char.isDigit (pointed n.places ++ rest) := by
    cases n.places with
    | nil => exact h.1
    | cons c places => exact .cons (by decide) _
  rw [← n.numeral_text, htext]
  simp only [number]
  rw [hbehind.takeWhile_append hdigits, hbehind.dropWhile_append hdigits,
    fraction_append hplaces h.1 h.2]
  rfl

/-- Whether a text begins like a numeral: with a digit, or with a minus sign and a digit. -/
def BeginsNumeral : List Char → Prop
  | [] => False
  | first :: cs => first.isDigit = true ∨ first = '-' ∧ cs.head?.any Char.isDigit = true

/-- What begins like a numeral is one, and is a number, never illegal. -/
theorem exists_numeral {first : Char} {cs : List Char} (h : BeginsNumeral (first :: cs)) :
    ∃ n : PlainNumeral, first :: (number first cs).taken = n.text ∧
      (number first cs).kind = .number n.value ∧ n.Ends (number first cs).rest := by
  obtain ⟨hplaces, hrest, hpoint⟩ := fraction_ends (NotAhead.dropWhile Char.isDigit cs)
  have hwhole : ∀ c ∈ cs.takeWhile Char.isDigit, c.isDigit = true :=
    List.all_eq_true.1 List.all_takeWhile
  have hdigits : ∀ c ∈ cs.takeWhile Char.isDigit ++ (fraction (cs.dropWhile Char.isDigit)).1,
      c.isDigit = true :=
    fun c hc => (List.mem_append.1 hc).elim (hwhole c) (hplaces c)
  rcases h with hdigit | ⟨rfl, hnext⟩
  · let n : PlainNumeral :=
      ⟨false, first :: cs.takeWhile Char.isDigit, (fraction (cs.dropWhile Char.isDigit)).1,
        List.cons_ne_nil _ _, List.forall_mem_cons.2 ⟨hdigit, hdigits⟩⟩
    exact ⟨n, rfl, n.numeral_text, hrest, hpoint⟩
  · have hne : cs.takeWhile Char.isDigit ≠ [] := by
      cases cs with
      | nil => cases hnext
      | cons d cs =>
        rw [List.takeWhile_cons_of_pos (show d.isDigit = true from hnext)]
        exact List.cons_ne_nil _ _
    let n : PlainNumeral :=
      ⟨true, cs.takeWhile Char.isDigit, (fraction (cs.dropWhile Char.isDigit)).1, hne, hdigits⟩
    exact ⟨n, rfl, n.numeral_text, hrest, hpoint⟩

theorem isToken_number {first : Char} {cs : List Char} (h : BeginsNumeral (first :: cs)) :
    IsToken (first :: (number first cs).taken) (number first cs).kind (number first cs).rest := by
  obtain ⟨n, htext, hkind, hends⟩ := exists_numeral h
  rw [htext, hkind]
  exact .number n hends

/-! ### Scanning a token -/

/-- A character that begins no token of its own kind begins a numeral, a path or nothing. -/
theorem scan_of_not_reserved {first : Char} (h : first ∉ reserved) (cs : List Char) :
    scan first cs =
      if first == '-' && cs.head?.any Char.isDigit then number first cs
      else if first.isDigit then number first cs
      else if startsPath first then path first cs
      else ⟨.illegal, [], cs⟩ := by
  simp only [reserved, List.mem_cons, List.not_mem_nil, or_false, not_or] at h
  simp [scan, h]

theorem not_mem_reserved {p : Char → Bool} {c : Char} (hc : p c = true)
    (h : reserved.all (fun d => !p d) = true) : c ∉ reserved := by
  intro hmem
  have hapart := List.all_eq_true.1 h c hmem
  rw [hc] at hapart
  cases hapart

theorem scan_of_beginsNumeral {first : Char} {cs : List Char} (h : BeginsNumeral (first :: cs)) :
    scan first cs = number first cs := by
  rcases h with hdigit | ⟨rfl, hnext⟩
  · have hsign : (first == '-') = false := beq_false_of_ne (Text.ne_of_apart hdigit (by decide))
    rw [scan_of_not_reserved (not_mem_reserved hdigit (by decide)), hsign, Bool.false_and,
      if_neg Bool.false_ne_true, if_pos hdigit]
  · rw [scan_of_not_reserved (by decide), hnext]
    rfl

/-- A path does not begin with a digit. -/
theorem startsPath_of_isDigit {c : Char} (h : c.isDigit = true) : startsPath c = false := by
  simp only [Char.isDigit, Bool.and_eq_true, decide_eq_true_eq] at h
  have hhigh : c.toNat ≤ 57 := UInt32.le_iff_toNat_le.1 h.2
  have hletter : c.isAlpha = false := by
    refine Bool.eq_false_iff.2 fun halpha => ?_
    change (decide ('A'.val ≤ c.val ∧ c.val ≤ 'Z'.val) ||
      (decide ('a'.val ≤ c.val) && decide (c.val ≤ 'z'.val))) = true at halpha
    simp only [Bool.or_eq_true, Bool.and_eq_true, decide_eq_true_eq] at halpha
    have hlow : 65 ≤ c.toNat := by
      rcases halpha with halpha | halpha
      · exact UInt32.le_iff_toNat_le.1 halpha.1
      · exact Nat.le_trans (by decide) (UInt32.le_iff_toNat_le.1 halpha.1)
    omega
  have hne : c ≠ '_' := by
    rintro rfl
    exact absurd hhigh (by decide)
  have hascii : c.toNat < 0x80 := by omega
  rw [startsPath, Text.isLetter, if_pos hascii, hletter, beq_false_of_ne hne]
  rfl

/-- A sign that may be one of a pair is read with its second one if that is there. -/
theorem isToken_oneOrTwo {first second : Char} {two one : TokenKind}
    (htwo : ((first, second), two) ∈ signPairs) (hone : (first, one) ∈ loneSigns)
    {cs : List Char} (hother : ∀ d ∈ cs.head?, d ≠ second → (first, d) ∉ signPairs.map Prod.fst) :
    IsToken (first :: (oneOrTwo second two one cs).taken) (oneOrTwo second two one cs).kind
      (oneOrTwo second two one cs).rest := by
  cases cs with
  | nil => exact .lone hone (by rintro d ⟨⟩)
  | cons c cs =>
    rw [oneOrTwo]
    by_cases hc : c = second
    · subst hc
      rw [beq_self_eq_true, if_pos rfl]
      exact .pair htwo
    · rw [beq_false_of_ne hc, if_neg Bool.false_ne_true]
      refine .lone hone fun d hd => ?_
      obtain rfl := Option.some.inj hd
      exact hother c rfl hc

theorem oneOrTwo_of_ne {second : Char} {two one : TokenKind} {cs : List Char}
    (h : second ∉ cs.head?) : oneOrTwo second two one cs = ⟨one, [], cs⟩ := by
  cases cs with
  | nil => rfl
  | cons c cs =>
    have hc : c ≠ second := fun heq => h (congrArg some heq)
    rw [oneOrTwo, beq_false_of_ne hc, if_neg Bool.false_ne_true]

/-- An exclamation mark is the first one of two pairs. -/
theorem scan_exclamation (cs : List Char) :
    scan '!' cs = if cs.head? == some '~' then oneOrTwo '~' .notMatching .illegal cs
      else oneOrTwo '=' .notEq .illegal cs := rfl

theorem isToken_scan_exclamation (cs : List Char) :
    IsToken ('!' :: (scan '!' cs).taken) (scan '!' cs).kind (scan '!' cs).rest := by
  rw [scan_exclamation]
  split
  · next htilde =>
    refine isToken_oneOrTwo (by decide) (by decide) fun d hd hne => absurd ?_ hne
    exact Option.some.inj (hd.symm.trans (beq_iff_eq.1 htilde))
  · next htilde =>
    refine isToken_oneOrTwo (by decide) (by decide) fun d hd hne => ?_
    have hd' : d ≠ '~' := fun h => htilde (by rw [hd, h]; rfl)
    simp [signPairs, hne, hd']

/-- A character that is one of a pair is alone if the second one does not follow. -/
theorem scan_lone {first : Char} {one : TokenKind} (hone : (first, one) ∈ loneSigns)
    {cs : List Char} (h : ∀ d ∈ cs.head?, (first, d) ∉ signPairs.map Prod.fst) :
    scan first cs = ⟨one, [], cs⟩ := by
  have hsecond : ∀ d, (first, d) ∈ signPairs.map Prod.fst → d ∉ cs.head? :=
    fun d hd hcs => h d hcs hd
  simp only [loneSigns, List.mem_cons, Prod.mk.injEq, List.not_mem_nil, or_false] at hone
  rcases hone with ⟨rfl, rfl⟩ | ⟨rfl, rfl⟩ | ⟨rfl, rfl⟩ | ⟨rfl, rfl⟩
  · exact oneOrTwo_of_ne (hsecond '=' (by decide))
  · have htilde : (cs.head? == some '~') = false := beq_false_of_ne (hsecond '~' (by decide))
    rw [scan_exclamation, htilde, if_neg Bool.false_ne_true]
    exact oneOrTwo_of_ne (hsecond '=' (by decide))
  · exact oneOrTwo_of_ne (hsecond '=' (by decide))
  · exact oneOrTwo_of_ne (hsecond '=' (by decide))

theorem scan_quote {quote : Char} (h : quote ∈ quoteMarks) (cs : List Char) :
    scan quote cs = text quote cs := by
  simp only [quoteMarks, List.mem_cons, List.not_mem_nil, or_false] at h
  rcases h with rfl | rfl <;> rfl

theorem isToken_text {quote : Char} (hquote : quote ∈ quoteMarks) (cs : List Char) :
    IsToken (quote :: (text quote cs).taken) (text quote cs).kind (text quote cs).rest := by
  unfold text
  split
  · next content taken rest h =>
    obtain ⟨written, rfl, hwritten⟩ := quoted_of_quotation h
    exact .text hquote hwritten
  · next h => exact .unclosed hquote (unclosed_of_quotation h)

/-- **Scanning finds the token that the text begins with.** -/
theorem isToken_scan (first : Char) (cs : List Char) :
    IsToken (first :: (scan first cs).taken) (scan first cs).kind (scan first cs).rest := by
  by_cases h : first ∈ reserved
  · simp only [reserved, List.mem_cons, List.not_mem_nil, or_false] at h
    rcases h with rfl | rfl | rfl | rfl | rfl | rfl | rfl | rfl | rfl
    · exact .sign (show ('(', TokenKind.lparen) ∈ signs by decide)
    · exact .sign (show (')', TokenKind.rparen) ∈ signs by decide)
    · exact .sign (show ('~', TokenKind.matching) ∈ signs by decide)
    · exact isToken_oneOrTwo (by decide) (by decide) fun d _ hd => by simpa [signPairs] using hd
    · exact isToken_scan_exclamation cs
    · exact isToken_oneOrTwo (by decide) (by decide) fun d _ hd => by simpa [signPairs] using hd
    · exact isToken_oneOrTwo (by decide) (by decide) fun d _ hd => by simpa [signPairs] using hd
    · exact isToken_text (by decide) cs
    · exact isToken_text (by decide) cs
  · rw [scan_of_not_reserved h]
    split
    · next hminus =>
      rw [Bool.and_eq_true, beq_iff_eq] at hminus
      exact isToken_number (.inr hminus)
    · next hminus =>
      split
      · next hdigit => exact isToken_number (.inl hdigit)
      · next hdigit =>
        split
        · next hstart =>
          exact .path hstart (List.all_eq_true.1 List.all_takeWhile) (.dropWhile continuesPath cs)
        · next hstart =>
          refine .illegal h (Bool.eq_false_iff.2 hdigit) (Bool.eq_false_iff.2 hstart) ?_
          rintro rfl c hc
          refine Bool.eq_false_iff.2 fun hc' => hminus ?_
          rw [hc, Option.any_some, hc']
          rfl

theorem scan_numeral {n : PlainNumeral} {first : Char} {taken rest : List Char}
    (htext : n.text = first :: taken) (h : n.Ends rest) :
    scan first (taken ++ rest) = ⟨.number n.value, taken, rest⟩ := by
  have hwhole : ∀ c ∈ n.whole, c.isDigit = true :=
    fun c hc => n.isDigit c (List.mem_append_left _ hc)
  obtain ⟨d, digits, hcons⟩ := List.exists_cons_of_ne_nil n.whole_ne_nil
  obtain ⟨hd, hdigits⟩ := List.forall_mem_cons.1 (hcons ▸ hwhole)
  cases hsign : n.negative with
  | true =>
    have hminus : n.text = '-' :: (n.whole ++ pointed n.places) := by
      rw [PlainNumeral.text, hsign]
      rfl
    obtain ⟨rfl, rfl⟩ := List.cons.inj (hminus.symm.trans htext)
    have hbegins : BeginsNumeral ('-' :: (n.whole ++ pointed n.places ++ rest)) := by
      rw [hcons]
      exact .inr ⟨rfl, hd⟩
    rw [scan_of_beginsNumeral hbegins, List.append_assoc]
    exact number_append hwhole hminus h
  | false =>
    have hplain : n.text = d :: (digits ++ pointed n.places) := by
      rw [PlainNumeral.text, hsign, hcons]
      rfl
    obtain ⟨rfl, rfl⟩ := List.cons.inj (hplain.symm.trans htext)
    rw [scan_of_beginsNumeral (.inl hd), List.append_assoc]
    exact number_append hdigits hplain h

end Lexeme

/-- **A text begins with one token only**, the one that scanning finds. -/
theorem IsToken.scan_eq {first : Char} {taken rest : List Char} {kind : TokenKind}
    (h : IsToken (first :: taken) kind rest) :
    Lexeme.scan first (taken ++ rest) = ⟨kind, taken, rest⟩ := by
  generalize htext : first :: taken = text at h
  cases h with
  | sign hsign =>
    obtain ⟨rfl, rfl⟩ := List.cons.inj htext
    simp only [signs, List.mem_cons, Prod.mk.injEq, List.not_mem_nil, or_false] at hsign
    rcases hsign with ⟨rfl, rfl⟩ | ⟨rfl, rfl⟩ | ⟨rfl, rfl⟩ <;> rfl
  | pair hpair =>
    obtain ⟨rfl, rfl⟩ := List.cons.inj htext
    simp only [signPairs, List.mem_cons, Prod.mk.injEq, List.not_mem_nil, or_false] at hpair
    rcases hpair with ⟨⟨rfl, rfl⟩, rfl⟩ | ⟨⟨rfl, rfl⟩, rfl⟩ | ⟨⟨rfl, rfl⟩, rfl⟩ | ⟨⟨rfl, rfl⟩, rfl⟩ |
      ⟨⟨rfl, rfl⟩, rfl⟩ <;> rfl
  | lone hlone hnext =>
    obtain ⟨rfl, rfl⟩ := List.cons.inj htext
    exact Lexeme.scan_lone hlone hnext
  | number n hends => exact Lexeme.scan_numeral htext.symm hends
  | text hquote hwritten =>
    obtain ⟨rfl, rfl⟩ := List.cons.inj htext
    have hbackslash : first ≠ '\\' := by
      rintro rfl
      revert hquote
      decide
    rw [Lexeme.scan_quote hquote, List.append_assoc, List.singleton_append, Lexeme.text,
      hwritten.quotation_eq hbackslash]
  | unclosed hquote hunclosed =>
    obtain ⟨rfl, rfl⟩ := List.cons.inj htext
    rw [Lexeme.scan_quote hquote, List.append_nil, Lexeme.text, hunclosed.quotation_eq]
  | path hstart hparts hrest =>
    obtain ⟨rfl, rfl⟩ := List.cons.inj htext
    have hminus : (first == '-') = false := beq_false_of_ne (Text.ne_of_apart hstart (by decide))
    have hdigit : first.isDigit = false := Bool.eq_false_iff.2 fun h => by
      rw [Lexeme.startsPath_of_isDigit h] at hstart
      cases hstart
    rw [Lexeme.scan_of_not_reserved (Lexeme.not_mem_reserved hstart (by decide)), hminus, hdigit,
      hstart, Lexeme.path, hrest.takeWhile_append hparts, hrest.dropWhile_append hparts]
    rfl
  | illegal hreserved hdigit hstart hminus =>
    obtain ⟨rfl, rfl⟩ := List.cons.inj htext
    have hnumber : (first == '-' && rest.head?.any Char.isDigit) = false := by
      by_cases hfirst : first = '-'
      · rw [(hminus hfirst).any_eq_false, Bool.and_false]
      · rw [beq_false_of_ne hfirst, Bool.false_and]
    rw [List.nil_append, Lexeme.scan_of_not_reserved hreserved, hnumber, hdigit, hstart]
    rfl

/-! ### What follows from the form -/

namespace IsToken

variable {text rest : List Char} {kind : TokenKind}

/-- The end of a text continues no token, so a token by itself is the same token. -/
theorem alone (h : IsToken text kind rest) : IsToken text kind [] := by
  cases h with
  | sign hsign => exact .sign hsign
  | pair hpair => exact .pair hpair
  | lone hlone _ => exact .lone hlone (by rintro d ⟨⟩)
  | number n _ => exact .number n ⟨.nil, by rintro _ _ ⟨⟩⟩
  | text hquote hwritten => exact .text hquote hwritten
  | unclosed hquote hunclosed => exact .unclosed hquote hunclosed
  | path hstart hparts _ => exact .path hstart hparts .nil
  | illegal hreserved hdigit hstart _ => exact .illegal hreserved hdigit hstart fun _ => .nil

end IsToken

theorem Lexeme.keyword_ne_illegal (word : List Char) : keyword word ≠ .illegal := by
  unfold keyword
  split <;> exact TokenKind.noConfusion

namespace IsToken

variable {text rest : List Char} {kind : TokenKind}

/-- A token that is illegal is one character, or a quoted text that nothing ends. -/
theorem of_illegal (h : IsToken text .illegal rest) :
    text.length = 1 ∨
      rest = [] ∧ ∃ quote cs, quote ∈ quoteMarks ∧ text = quote :: cs ∧ Unclosed quote cs := by
  generalize hkind : TokenKind.illegal = kind at h
  cases h with
  | sign => exact .inl rfl
  | pair hpair =>
    subst hkind
    simp [signPairs] at hpair
  | lone => exact .inl rfl
  | number => cases hkind
  | text => cases hkind
  | unclosed hquote hunclosed => exact .inr ⟨rfl, _, _, hquote, rfl, hunclosed⟩
  | path => exact absurd hkind.symm (Lexeme.keyword_ne_illegal _)
  | illegal => exact .inl rfl

/-- A token at the beginning of what begins like a numeral is a numeral. -/
theorem of_beginsNumeral (h : IsToken text kind rest) (hne : text ≠ [])
    (hbegins : Lexeme.BeginsNumeral (text ++ rest)) :
    ∃ n : PlainNumeral, text = n.text ∧ kind = .number n.value := by
  obtain ⟨first, taken, rfl⟩ := List.exists_cons_of_ne_nil hne
  have hbegins : Lexeme.BeginsNumeral (first :: (taken ++ rest)) := hbegins
  have hscan : Lexeme.number first (taken ++ rest) = ⟨kind, taken, rest⟩ :=
    (Lexeme.scan_of_beginsNumeral hbegins).symm.trans h.scan_eq
  obtain ⟨n, htext, hkind, -⟩ := Lexeme.exists_numeral hbegins
  rw [hscan] at htext hkind
  exact ⟨n, htext, hkind⟩

end IsToken

end RequestSql
