import RequestSql.Json.Reader
import RequestSql.Json.Writer
import RequestSql.Proofs.Number.Digits
import RequestSql.Proofs.Text.Run

/-!
# JSON text read back

What is written as JSON text is read back by the readers of what was written: texts with
whatever characters in them, counts, lists of texts, and objects whose members are read one
after the other. Each of these is stated with what follows in the text, for a value is read up to
where it ends and leaves the rest; what may follow it is a comma, a closing bracket or nothing.

A text is read back character by character, since each escape stands for one. An object is
followed through the states that its members lead to: what one member does to the state is all
that has to be known of it (`MembersLead`).

Key definitions: `Json.Yields`, `Json.Ends`, `Json.ReadsBack`, `Json.MembersLead`.
Key theorems: `Json.readsBack_text`, `Json.readsBack_count`, `Json.readsBack_texts`,
`Json.MembersLead.foldObject`, `Json.MembersLead.record`, `Json.leads_field`.
-/

namespace RequestSql.Json

open Reader
open Text (NotAhead)

/-! ### What is found -/

/-- The value was read, with this left of the text. -/
def Yields {α : Type} {cs : List Char} (x : Except Fault (Found α cs)) (a : α)
    (rest : List Char) : Prop :=
  ∃ h, x = .ok ⟨(a, rest), h⟩

namespace Yields

variable {α β : Type} {cs cs' rest : List Char} {x : Except Fault (Found α cs)} {a : α}

theorem widen (h : Yields x a rest) (hlength : cs.length ≤ cs'.length) :
    Yields (Reader.widen hlength x) a rest := by
  obtain ⟨hrest, rfl⟩ := h
  exact ⟨_, rfl⟩

theorem mapFound (h : Yields x a rest) (f : α → β) :
    Yields (Reader.mapFound f x) (f a) rest := by
  obtain ⟨hrest, rfl⟩ := h
  exact ⟨_, rfl⟩

theorem bracketed (h : Yields x a rest) (bracket : Bracket) :
    Yields (Reader.bracketed bracket x) a rest := by
  obtain ⟨hrest, rfl⟩ := h
  exact ⟨_, rfl⟩

theorem finishWith (h : Yields x a rest) {finish : α → List Char → Except Fault β} {b : β}
    (hfinish : finish a rest = .ok b) : Yields (Reader.finishWith finish x) b rest := by
  obtain ⟨hrest, rfl⟩ := h
  refine ⟨hrest, ?_⟩
  simp only [Reader.finishWith, hfinish]

end Yields

theorem skipBlanks_cons {c : Char} (h : isBlank c = false) (cs : List Char) :
    skipBlanks (c :: cs) = c :: cs :=
  List.dropWhile_cons_of_neg (by simp [h])

theorem skipBlanks_ne_nil {c : Char} (h : isBlank c = false) (cs : List Char) :
    skipBlanks (c :: cs) ≠ [] := by
  rw [skipBlanks_cons h]
  exact List.cons_ne_nil c cs

/-- What is found behind the blanks is what stands there, if that is no blank. -/
theorem eq_of_skipBlanks {c d : Char} {cs tail : List Char} (h : isBlank c = false)
    (hfound : skipBlanks (c :: cs) = d :: tail) : c = d ∧ cs = tail :=
  List.cons.inj ((skipBlanks_cons h cs).symm.trans hfound)

/-- What may follow a value: a comma, a closing bracket or nothing. -/
def Ends (rest : List Char) : Prop := ∀ c ∈ rest.head?, c = ',' ∨ c = ']' ∨ c = '\x7d'

theorem Ends.nil : Ends [] := by
  rintro c ⟨⟩

theorem Ends.comma (rest : List Char) : Ends (',' :: rest) := by
  intro c hc
  exact .inl (Option.some.inj hc).symm

theorem Ends.brace (rest : List Char) : Ends ('\x7d' :: rest) := by
  intro c hc
  exact .inr (.inr (Option.some.inj hc).symm)

/-- The end of a value is of no other sort of characters. -/
theorem Ends.notAhead {p : Char → Bool} {rest : List Char} (h : Ends rest)
    (hcomma : p ',' = false) (hbracket : p ']' = false) (hbrace : p '\x7d' = false) :
    NotAhead p rest := by
  intro c hc
  rcases h c hc with rfl | rfl | rfl
  · exact hcomma
  · exact hbracket
  · exact hbrace

/-- The reader reads the value from how it is written, whatever may follow. -/
def ReadsBack {α : Type} (reader : Reader α) (json : Json) (a : α) : Prop :=
  ∀ rest, Ends rest → Yields (reader (json.writeValue rest)) a rest

/-! ### Texts -/

section Text

variable {unit : Reader Char} {c : Char} {cs between rest content : List Char}

theorem yields_textFrom_escape (hescape : Yields (escape unit cs) c between)
    (h : Yields (textFrom unit between) content rest) :
    Yields (textFrom unit ('\\' :: cs)) (c :: content) rest := by
  obtain ⟨hshorter, hescape⟩ := hescape
  rw [textFrom, if_neg (by decide), if_pos rfl]
  simp only [hescape]
  exact (h.widen _).mapFound _

theorem yields_textFrom_plain (hquote : c ≠ '"') (hbackslash : c ≠ '\\')
    (hcontrol : ¬c.toNat < 0x20) (h : Yields (textFrom unit cs) content rest) :
    Yields (textFrom unit (c :: cs)) (c :: content) rest := by
  rw [textFrom, if_neg hquote, if_neg hbackslash, if_neg hcontrol]
  exact (h.widen _).mapFound _

theorem yields_textFrom_quote (unit : Reader Char) (rest : List Char) :
    Yields (textFrom unit ('"' :: rest)) [] rest := by
  rw [textFrom, if_pos rfl]
  exact ⟨_, rfl⟩

theorem yields_shortEscape {letter : Char} (hletter : shortEscape? letter = some c)
    (cs : List Char) : Yields (escape unit (letter :: cs)) c cs := by
  have hne : letter ≠ 'u' := by
    rintro rfl
    cases hletter
  rw [escape.eq_3 _ _ _ hne]
  simp only [hletter]
  exact ⟨_, rfl⟩

/-- The two digits that are written of a control are read back. -/
theorem hexValue?_control : ∀ n < 0x20, hexValue? (Nat.digitChar (n / 16)) = some (n / 16) ∧
    hexValue? (Nat.digitChar (n % 16)) = some (n % 16) := by decide

/-- The code unit of a control is the one its digits were written for. -/
theorem yields_hexUnit_control {n : Nat} (hcontrol : n < 0x20) (cs : List Char) :
    Yields (hexUnit ('0' :: '0' :: Nat.digitChar (n / 16) :: Nat.digitChar (n % 16) :: cs))
      n cs := by
  obtain ⟨hhigh, hlow⟩ := hexValue?_control n hcontrol
  have hzero : hexValue? '0' = some 0 := by decide
  have hunit : ((0 * 16 + 0) * 16 + n / 16) * 16 + n % 16 = n := by omega
  have hshorter : cs.length < ('0' :: '0' :: Nat.digitChar (n / 16) ::
      Nat.digitChar (n % 16) :: cs).length := by
    simp only [List.length_cons]
    omega
  refine ⟨hshorter, ?_⟩
  rw [hexUnit, hzero, hhigh, hlow]
  exact congrArg Except.ok (Subtype.ext (Prod.ext hunit rfl))

theorem yields_codePoint_control (hcontrol : c.toNat < 0x20) (cs : List Char) :
    Yields (codePoint ('0' :: '0' :: Nat.digitChar (c.toNat / 16) ::
      Nat.digitChar (c.toNat % 16) :: cs)) c cs := by
  obtain ⟨hshorter, hread⟩ := yields_hexUnit_control hcontrol cs
  have htrailing : ¬isTrailing c.toNat = true := by
    rw [isTrailing, Bool.and_eq_true, decide_eq_true_eq]
    omega
  have hleading : ¬isLeading c.toNat = true := by
    rw [isLeading, Bool.and_eq_true, decide_eq_true_eq]
    omega
  have hchar : Char.ofNat c.toNat = c := Char.ofNat_toNat c
  refine ⟨hshorter, ?_⟩
  rw [codePoint, hread]
  dsimp only
  rw [if_neg htrailing, if_neg hleading]
  exact congrArg Except.ok (Subtype.ext (Prod.ext hchar rfl))

/-- The characters that are written as a letter with a backslash before it. -/
def shortlyEscaped : List Char := ['"', '\\', '\x08', '\x0c', '\n', '\r', '\t']

theorem exists_letter {c : Char} (h : c ∈ shortlyEscaped) :
    ∃ letter, escaped c = ['\\', letter] ∧ shortEscape? letter = some c := by
  simp only [shortlyEscaped, List.mem_cons, List.not_mem_nil, or_false] at h
  rcases h with rfl | rfl | rfl | rfl | rfl | rfl | rfl <;> exact ⟨_, rfl, rfl⟩

/-- What is written for a character is read as this character. -/
theorem yields_textFrom_escaped (c : Char)
    (h : Yields (textFrom codePoint cs) content rest) :
    Yields (textFrom codePoint (escaped c ++ cs)) (c :: content) rest := by
  by_cases hshort : c ∈ shortlyEscaped
  · obtain ⟨letter, heq, hletter⟩ := exists_letter hshort
    rw [heq]
    exact yields_textFrom_escape (yields_shortEscape hletter cs) h
  · simp only [shortlyEscaped, List.mem_cons, List.not_mem_nil, or_false, not_or] at hshort
    obtain ⟨hquote, hbackslash, hb, hf, hn, hr, ht⟩ := hshort
    by_cases hcontrol : c.toNat < 0x20
    · have heq : escaped c = ['\\', 'u', '0', '0', Nat.digitChar (c.toNat / 16),
          Nat.digitChar (c.toNat % 16)] := by
        simp only [escaped, hquote, hbackslash, hb, hf, hn, hr, ht, hcontrol, if_false, if_true]
      rw [heq]
      refine yields_textFrom_escape ?_ h
      exact (yields_codePoint_control hcontrol cs).widen (Nat.le_succ _)
    · have heq : escaped c = [c] := by
        simp only [escaped, hquote, hbackslash, hb, hf, hn, hr, ht, hcontrol, if_false]
      rw [heq]
      exact yields_textFrom_plain hquote hbackslash hcontrol h

theorem yields_textFrom (content rest : List Char) :
    Yields (textFrom codePoint (content.flatMap escaped ++ '"' :: rest)) content rest := by
  induction content with
  | nil => exact yields_textFrom_quote codePoint rest
  | cons c content ih =>
    rw [List.flatMap_cons, List.append_assoc]
    exact yields_textFrom_escaped c ih

theorem yields_contentFrom (content : String) (rest : List Char) :
    Yields (contentFrom (content.toList.flatMap escaped ++ '"' :: rest)) content rest := by
  have htext := (yields_textFrom content.toList rest).mapFound String.ofList
  rwa [String.ofList_toList] at htext

/-- **A text is read back**, whatever it holds. -/
theorem yields_text (content : String) (rest : List Char) :
    Yields (Reader.text (writeText content rest)) content rest := by
  unfold Reader.text
  split
  · next found hfound =>
    rw [writeText, List.cons_append, skipBlanks_cons (by decide)] at hfound
    obtain rfl := (List.cons.inj hfound).2
    exact (yields_contentFrom content rest).widen _
  · next hnone => exact absurd (skipBlanks_cons (by decide) _) (hnone _)

theorem readsBack_text (content : String) : ReadsBack Reader.text (.text content) content :=
  fun rest _ => yields_text content rest

end Text

/-! ### Counts -/

section Count

variable {rest : List Char} {ds : List Char} {atEnd : Cause}

theorem yields_digits (atEnd : Cause) (hne : ds ≠ []) (hds : ∀ c ∈ ds, c.isDigit = true)
    (hrest : NotAhead Char.isDigit rest) : Yields (digits atEnd (ds ++ rest)) ds rest := by
  obtain ⟨d, ds, rfl⟩ := List.exists_cons_of_ne_nil hne
  obtain ⟨hd, hds⟩ := List.forall_mem_cons.1 hds
  have htaken := hrest.takeWhile_append hds
  have hleft := hrest.dropWhile_append hds
  have hshorter : rest.length < (d :: (ds ++ rest)).length := by
    rw [List.length_cons, List.length_append]
    omega
  rw [List.cons_append, digits, if_pos hd]
  refine ⟨hshorter, congrArg Except.ok (Subtype.ext (Prod.ext ?_ hleft))⟩
  exact congrArg (d :: ·) htaken

/-- The digits of a natural begin with a zero only if it is zero. -/
theorem eq_zero_of_head?_toDigits (n : Nat) (h : (Nat.toDigits 10 n).head? = some '0') :
    n = 0 := by
  induction n using Nat.strongRecOn with
  | ind n ih =>
    by_cases hn : n < 10
    · rw [Nat.toDigits_of_lt_base hn] at h
      have hone : ∀ m < 10, Nat.digitChar m = '0' → m = 0 := by decide
      exact hone n hn (Option.some.inj h)
    · have hten : 10 ≤ n := Nat.le_of_not_lt hn
      obtain ⟨d, ds, hds⟩ := List.exists_cons_of_ne_nil (Nat.toDigits_ne_nil (n := n / 10) (b := 10))
      rw [Nat.toDigits_of_base_le (by decide) hten, hds] at h
      have hzero := ih (n / 10) (by omega) (hds ▸ h)
      omega

theorem yields_wholeDigits (atEnd : Cause) (n : Nat) (hrest : NotAhead Char.isDigit rest) :
    Yields (wholeDigits atEnd (Nat.toDigits 10 n ++ rest)) (Nat.toDigits 10 n) rest := by
  have hne : Nat.toDigits 10 n ≠ [] := Nat.toDigits_ne_nil
  have hds : ∀ c ∈ Nat.toDigits 10 n, c.isDigit = true :=
    fun c hc => Nat.isDigit_of_mem_toDigits (by decide) (by decide) hc
  obtain ⟨hshorter, hdigits⟩ := yields_digits atEnd hne hds hrest
  have hzero : ¬((Nat.toDigits 10 n).head? = some '0' ∧ (Nat.toDigits 10 n).length ≠ 1) := by
    rintro ⟨hhead, hlength⟩
    rw [eq_zero_of_head?_toDigits n hhead] at hlength
    exact hlength rfl
  simp only [wholeDigits, hdigits, if_neg hzero]
  exact ⟨_, rfl⟩

theorem placesFrom_of_ends (h : Ends rest) :
    placesFrom atEnd rest = .ok ⟨(none, rest), Nat.le_refl _⟩ := by
  rw [placesFrom.eq_2]
  rintro cs rfl
  rcases h '.' rfl with h | h | h <;> exact absurd h (by decide)

theorem powerFrom_of_ends (h : Ends rest) :
    powerFrom atEnd rest = .ok ⟨(none, rest), Nat.le_refl _⟩ := by
  cases rest with
  | nil => rfl
  | cons c cs =>
    have hc : ¬(c = 'e' ∨ c = 'E') := by
      rcases h c rfl with rfl | rfl | rfl <;> decide
    rw [powerFrom, if_neg hc]

/-- Whole digits without a sign are a numeral if nothing that could go on follows. -/
theorem yields_numeral {cs : List Char} (hsign : ∀ tail, cs ≠ '-' :: tail) (h : Ends rest)
    (hwhole : Yields (wholeDigits atEnd cs) ds rest) :
    Yields (numeral atEnd cs) ⟨false, ds, none, none⟩ rest := by
  obtain ⟨hshorter, hwhole⟩ := hwhole
  unfold numeral
  split
  next negative unsigned hle hunsigned =>
  split at hunsigned
  · exact absurd rfl (hsign _)
  · cases hunsigned
    simp only [hwhole, placesFrom_of_ends h, powerFrom_of_ends h]
    exact ⟨_, rfl⟩

theorem isBlank_of_isDigit {c : Char} (h : c.isDigit = true) : isBlank c = false := by
  have hother (d : Char) (hd : d.isDigit = false) : (c == d) = false :=
    beq_eq_false_iff_ne.2 (Text.ne_of_apart h hd)
  rw [isBlank, hother ' ' rfl, hother '\n' rfl, hother '\t' rfl, hother '\r' rfl]
  rfl

theorem value?_toDigits {n : Nat} (hn : n < Nat.pow 2 64) :
    Numeral.value? ⟨false, Nat.toDigits 10 n, none, none⟩ = some (.integer n) := by
  have hinteger : Numeral.integer? ⟨false, Nat.toDigits 10 n, none, none⟩ = some (n : Int) := by
    simp only [Numeral.integer?, Option.isSome_none, Bool.or_false, Bool.false_eq_true, if_false,
      digitsValue_toDigits, if_pos hn]
  rw [Numeral.value?, hinteger]

theorem count?_count (n : UInt64) : (Json.count n).count? = some n := by
  have hlimit : n.toNat < Nat.pow 2 64 := n.toNat_lt
  have hrange : (0 : Int) ≤ n.toNat ∧ (n.toNat : Int) < Nat.pow 2 64 :=
    ⟨Int.natCast_nonneg _, Int.ofNat_lt.2 hlimit⟩
  rw [Json.count, Json.nat, Json.count?, if_pos hrange, Int.toNat_natCast, UInt64.ofNat_toNat]

/-- An integer in range is read as a count. -/
theorem yields_count {c : Char} {cs : List Char} {n : UInt64} (hc : c.isDigit = true)
    (h : Yields (Reader.number (c :: cs)) (.integer n.toNat) rest) :
    Yields (Reader.count (c :: cs)) n rest := by
  obtain ⟨hshorter, hnumber⟩ := h
  unfold Reader.count
  split
  · next hnil => exact absurd hnil (skipBlanks_ne_nil (isBlank_of_isDigit hc) _)
  · next d tail hfound =>
    obtain ⟨rfl, rfl⟩ := eq_of_skipBlanks (isBlank_of_isDigit hc) hfound
    rw [if_pos (by rw [hc, Bool.or_true])]
    split
    · next e herror =>
      rw [hnumber] at herror
      cases herror
    · next m left hleft hread =>
      have hpair : (JsonNumber.integer n.toNat, rest) = (m, left) :=
        congrArg Subtype.val (Except.ok.inj (hnumber.symm.trans hread))
      obtain ⟨hm, rfl⟩ := Prod.mk.inj hpair
      have hcount : (Json.number m).count? = some n := hm ▸ count?_count n
      simp only [hcount]
      exact ⟨_, rfl⟩

/-- **A count is read back**, to the greatest of 64 bits. -/
theorem readsBack_count (n : UInt64) : ReadsBack Reader.count (.count n) n := by
  intro rest hrest
  have hwritten : (Json.count n).writeValue rest = Nat.toDigits 10 n.toNat ++ rest := by
    have htext : toString (n.toNat : Int) = toString n.toNat := rfl
    rw [Json.count, Json.nat, writeValue, numberCharacters, htext,
      Nat.toString_eq_ofList_toDigits, String.toList_ofList]
  obtain ⟨d, ds, hds⟩ := List.exists_cons_of_ne_nil (Nat.toDigits_ne_nil (n := n.toNat) (b := 10))
  have hd : d.isDigit = true :=
    Nat.isDigit_of_mem_toDigits (by decide) (by decide) (hds ▸ List.mem_cons_self ..)
  have hsign : d ≠ '-' := Text.ne_of_apart hd (by decide)
  have hwhole := yields_wholeDigits (.ended .value) n.toNat
    (hrest.notAhead (p := Char.isDigit) (by decide) (by decide) (by decide))
  obtain ⟨hshorter, hnumeral⟩ := yields_numeral (fun tail heq => by
    rw [hds] at heq
    exact hsign (List.cons.inj heq).1) hrest hwhole
  have hnumber : Yields (Reader.number (Nat.toDigits 10 n.toNat ++ rest))
      (.integer n.toNat) rest := by
    simp only [Reader.number, hnumeral, value?_toDigits n.toNat_lt]
    exact ⟨_, rfl⟩
  rw [hwritten]
  rw [hds, List.cons_append] at hnumber ⊢
  exact yields_count hd hnumber

end Count

/-! ### Lists of texts -/

/-- Where a loop stands that has written its first part already, or not. -/
def turnOf (first : Bool) : Turn := if first then .first else .later

section Items

variable {α : Type} {item : Reader α} {turn : Turn} {c : Char} {cs : List Char}

theorem exists_nextItem_first (hblank : isBlank c = false) (cs : List Char) :
    ∃ h, nextItem .first (c :: cs) = .ok ⟨c :: cs, h⟩ := by
  have hskip := skipBlanks_cons hblank cs
  unfold nextItem
  split
  · exact ⟨Nat.le_refl _, congrArg Except.ok (Subtype.ext hskip)⟩
  · next hturn _ => cases hturn
  · next hturn _ => cases hturn

theorem exists_nextItem_later (hblank : isBlank c = false) (hc : c ≠ ']') (cs : List Char) :
    ∃ h, nextItem .later (',' :: c :: cs) = .ok ⟨c :: cs, h⟩ := by
  unfold nextItem
  split
  · next hturn => cases hturn
  · next hnil => exact absurd hnil (skipBlanks_ne_nil (by decide) _)
  · next d tail _ hfound =>
    obtain ⟨rfl, rfl⟩ := eq_of_skipBlanks (by decide) hfound
    rw [if_pos rfl]
    split
    · next hnil => exact absurd hnil (skipBlanks_ne_nil hblank _)
    · next d tail hfound' =>
      obtain ⟨rfl, rfl⟩ := eq_of_skipBlanks hblank hfound'
      rw [if_neg hc]
      exact ⟨Nat.le_succ _, rfl⟩

theorem yields_itemsFrom_close (item : Reader α) (turn : Turn) (rest : List Char) :
    Yields (itemsFrom item turn (']' :: rest)) [] rest := by
  rw [itemsFrom]
  split
  · next hnil => exact absurd hnil (skipBlanks_ne_nil (by decide) _)
  · next d tail hfound =>
    obtain ⟨rfl, rfl⟩ := eq_of_skipBlanks (by decide) hfound
    rw [if_pos rfl]
    exact ⟨_, rfl⟩

theorem yields_itemsFrom_item {start between rest : List Char} {a : α} {as : List α}
    (hblank : isBlank c = false) (hc : c ≠ ']')
    (hnext : ∃ h, nextItem turn (c :: cs) = .ok ⟨start, h⟩) (ha : Yields (item start) a between)
    (has : Yields (itemsFrom item .later between) as rest) :
    Yields (itemsFrom item turn (c :: cs)) (a :: as) rest := by
  obtain ⟨hstart, hnext⟩ := hnext
  obtain ⟨hshorter, ha⟩ := ha
  rw [itemsFrom]
  split
  · next hnil => exact absurd hnil (skipBlanks_ne_nil hblank _)
  · next d tail hfound =>
    obtain ⟨rfl, rfl⟩ := eq_of_skipBlanks hblank hfound
    rw [if_neg hc]
    simp only [hnext, ha]
    exact (has.widen _).mapFound _

end Items

theorem yields_items (contents : List String) (first : Bool) (rest : List Char) :
    Yields (itemsFrom Reader.text (turnOf first)
      (writeItems first (contents.map Json.text) rest)) contents rest := by
  induction contents generalizing first with
  | nil =>
    rw [List.map_nil, writeItems]
    exact yields_itemsFrom_close _ _ rest
  | cons content contents ih =>
    rw [List.map_cons, writeItems, writeValue]
    cases first with
    | true =>
      exact yields_itemsFrom_item (by decide) (by decide)
        (exists_nextItem_first (by decide) _) (yields_text content _) (ih false)
    | false =>
      exact yields_itemsFrom_item (by decide) (by decide)
        (exists_nextItem_later (by decide) (by decide) _) (yields_text content _) (ih false)

/-- **A list of texts is read back.** -/
theorem readsBack_texts (contents : List String) :
    ReadsBack (Reader.list Reader.text) (.texts contents) contents := by
  intro rest hrest
  have hskip : skipBlanks ((Json.texts contents).writeValue rest) =
      '[' :: writeItems true (contents.map Json.text) rest := skipBlanks_cons (by decide) _
  unfold Reader.list
  split
  · next tail hfound =>
    obtain rfl := (List.cons.inj (hskip.symm.trans hfound)).2
    exact ((yields_items contents true rest).bracketed _).widen _
  · next hnone => exact absurd hskip (hnone _)

/-! ### Objects -/

section Objects

variable {α σ : Type} {member : σ → String → Reader σ} {state state' state'' : σ}
  {rest : List Char}

/-- Reading a member, of which the name has been read, leads from one state to another. -/
def Leads (member : σ → String → Reader σ) (state : σ) (name : String) (json : Json)
    (state' : σ) : Prop :=
  ∀ rest, Ends rest → Yields (member state name (':' :: json.writeValue rest)) state' rest

/-- Reading the members of an object leads from one state to another. -/
inductive MembersLead (member : σ → String → Reader σ) : σ → List (String × Json) → σ → Prop
  | nil {state : σ} : MembersLead member state [] state
  | cons {state between last : σ} {name : String} {json : Json} {members : List (String × Json)} :
    Leads member state name json between → MembersLead member between members last →
      MembersLead member state ((name, json) :: members) last

theorem exists_nextName_first (cs : List Char) :
    ∃ h, nextName .first ('"' :: cs) = .ok ⟨cs, h⟩ := by
  unfold nextName
  split
  · next hnil => exact absurd hnil (skipBlanks_ne_nil (by decide) _)
  · next c tail _ hfound =>
    obtain ⟨rfl, rfl⟩ := eq_of_skipBlanks (by decide) hfound
    rw [if_pos rfl]
    exact ⟨Nat.lt_succ_self _, rfl⟩
  · next hturn _ => cases hturn

theorem exists_nextName_later (cs : List Char) :
    ∃ h, nextName .later (',' :: '"' :: cs) = .ok ⟨cs, h⟩ := by
  unfold nextName
  split
  · next hnil => exact absurd hnil (skipBlanks_ne_nil (by decide) _)
  · next hturn _ => cases hturn
  · next c tail _ hfound =>
    obtain ⟨rfl, rfl⟩ := eq_of_skipBlanks (by decide) hfound
    rw [if_pos rfl]
    split
    · next hnil => exact absurd hnil (skipBlanks_ne_nil (by decide) _)
    · next c tail hfound' =>
      obtain ⟨rfl, rfl⟩ := eq_of_skipBlanks (by decide) hfound'
      rw [if_pos rfl]
      exact ⟨Nat.lt_succ_of_lt (Nat.lt_succ_self _), rfl⟩

/-- The value of a member is read after its colon. -/
theorem yields_memberValue {value : Reader α} {cs : List Char} {a : α}
    (h : Yields (value cs) a rest) : Yields (memberValue value (':' :: cs)) a rest := by
  obtain ⟨hshorter, hcolon⟩ : ∃ h, colon (':' :: cs) = .ok ⟨cs, h⟩ := by
    unfold colon
    split
    · next hnil => exact absurd hnil (skipBlanks_ne_nil (by decide) _)
    · next c tail hfound =>
      obtain ⟨rfl, rfl⟩ := eq_of_skipBlanks (by decide) hfound
      rw [if_pos rfl]
      exact ⟨Nat.lt_succ_self _, rfl⟩
  simp only [memberValue, hcolon]
  exact h.widen _

theorem yields_membersFrom_close (member : σ → String → Reader σ) (state : σ) (turn : Turn)
    (rest : List Char) : Yields (membersFrom member state turn ('\x7d' :: rest)) state rest := by
  rw [membersFrom]
  split
  · next hnil => exact absurd hnil (skipBlanks_ne_nil (by decide) _)
  · next c tail hfound =>
    obtain ⟨rfl, rfl⟩ := eq_of_skipBlanks (by decide) hfound
    rw [if_pos rfl]
    exact ⟨_, rfl⟩

/-- A member leads on to the members behind it. -/
theorem yields_membersFrom_member {turn : Turn} {c : Char} {cs start afterName between : List Char}
    {name : String} (hblank : isBlank c = false) (hc : c ≠ '\x7d')
    (hnext : ∃ h, nextName turn (c :: cs) = .ok ⟨start, h⟩)
    (hname : Yields (contentFrom start) name afterName)
    (hmember : Yields (member state name afterName) state' between)
    (hmembers : Yields (membersFrom member state' .later between) state'' rest) :
    Yields (membersFrom member state turn (c :: cs)) state'' rest := by
  obtain ⟨hstart, hnext⟩ := hnext
  obtain ⟨hafter, hname⟩ := hname
  obtain ⟨hbetween, hmember⟩ := hmember
  rw [membersFrom]
  split
  · next hnil => exact absurd hnil (skipBlanks_ne_nil hblank _)
  · next d tail hfound =>
    obtain ⟨rfl, rfl⟩ := eq_of_skipBlanks hblank hfound
    rw [if_neg hc]
    simp only [hnext, hname, hmember]
    exact hmembers.widen _

theorem ends_writeMembers (members : List (String × Json)) (rest : List Char) :
    Ends (writeMembers false members rest) := by
  cases members with
  | nil => exact .brace rest
  | cons => exact .comma _

namespace MembersLead

variable {members : List (String × Json)}

/-- **The members of an object are read one after the other.** -/
theorem membersFrom (h : MembersLead member state members state') (first : Bool)
    (rest : List Char) : Yields (Reader.membersFrom member state (turnOf first)
      (writeMembers first members rest)) state' rest := by
  induction h generalizing first with
  | nil => exact yields_membersFrom_close _ _ _ rest
  | @cons state between last name json members hmember _ ih =>
    have hname := yields_contentFrom name (':' :: json.writeValue (writeMembers false members rest))
    have hvalue := hmember _ (ends_writeMembers members rest)
    rw [writeMembers]
    cases first with
    | true =>
      exact yields_membersFrom_member (by decide) (by decide) (exists_nextName_first _) hname
        hvalue (ih false)
    | false =>
      exact yields_membersFrom_member (by decide) (by decide) (exists_nextName_later _) hname
        hvalue (ih false)

theorem foldObject (h : MembersLead member state members state') :
    ReadsBack (Reader.foldObject member state) (.object members) state' := by
  intro rest _
  have hskip : skipBlanks ((Json.object members).writeValue rest) =
      '\x7b' :: writeMembers true members rest := skipBlanks_cons (by decide) _
  unfold Reader.foldObject
  split
  · next tail hfound =>
    obtain rfl := (List.cons.inj (hskip.symm.trans hfound)).2
    exact ((h.membersFrom true rest).bracketed _).widen _
  · next hnone => exact absurd hskip (hnone _)

/-- A record is read back from an object if its members lead to a state that can be finished. -/
theorem record {name : String} {fields : List (Reader.Field σ)} {finish : σ → Except String α}
    {a : α} (h : MembersLead (fieldMember fields) state members state') (hfinish : finish state' = .ok a) :
    ReadsBack (Reader.record name fields state finish) (.object members) a := by
  intro rest _
  have hskip : skipBlanks ((Json.object members).writeValue rest) =
      '\x7b' :: writeMembers true members rest := skipBlanks_cons (by decide) _
  unfold Reader.record
  split
  · next tail hfound =>
    obtain rfl := (List.cons.inj (hskip.symm.trans hfound)).2
    exact (((h.membersFrom true rest).bracketed _).finishWith (by rw [hfinish]; rfl)).widen _
  · next hfound =>
    cases hskip.symm.trans hfound
  · next hnone _ => exact absurd hskip (hnone _)

end MembersLead

/-- A field of a record that is read for the first time is put into the state. -/
theorem leads_field {fields : List (Reader.Field σ)} {name : String} {get : σ → Option α}
    {set : σ → α → σ} {value : Reader α} {json : Json} {a : α}
    (hfind : fields.find? (·.name == name) = some (field name get set value))
    (hnew : get state = none) (h : ReadsBack value json a) :
    Leads (fieldMember fields) state name json (set state a) := by
  intro rest hrest
  have hset : (field name get set value).isSet state = false := by
    show (get state).isSome = false
    rw [hnew]
    rfl
  unfold fieldMember
  simp only [hfind, hset]
  exact yields_memberValue ((h rest hrest).mapFound _)

end Objects

/-! ### Whole texts -/

/-- What is written as a whole text is read from it. -/
theorem ReadsBack.run {α : Type} {reader : Reader α} {json : Json} {a : α}
    (h : ReadsBack reader json a) : Reader.run reader json.write = .ok a := by
  obtain ⟨hshorter, hread⟩ := h [] .nil
  have hnil : skipBlanks [] = [] := rfl
  rw [Reader.run, Json.write, String.toList_ofList]
  simp only [hread, hnil]

end RequestSql.Json
