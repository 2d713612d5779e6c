import RequestSql.Proofs.Number.Digits
import RequestSql.Proofs.Plan.Joined
import RequestSql.Proofs.Query.Additions
import RequestSql.Proofs.Request.Presence

/-!
# Counts and pages

A page is given by two counts, how many rows to leave out and how many to list. A count is written
in decimal digits, as many as one likes, with a plus sign before them or without; it is read if 64
bits hold it, and refused otherwise, so no count is ever taken for another one. A count that is not
present is zero, and instead of a limit of zero the configured one is used.

A parameter is one of three: not present, a count, or a mistake (`parseCount_cases`). All else
follows from this for the two parameters together.

Key definitions: `CountForm`, `SaysCount`, `Miscounts`, `Params.AsksFor`.
Key theorems: `parseCount?_eq_some`, `parseCount_cases`, `pages_are_read_exactly`.
-/

namespace RequestSql

open Text (Blanks)

/-! ### Counts -/

/-- The texts that say a count: digits, perhaps with a plus sign before them. -/
inductive CountForm : List Char → Nat → Prop
  | plain {digits : List Char} : digits ≠ [] → (∀ c ∈ digits, c.isDigit = true) →
      CountForm digits (Nat.ofDigitChars 10 digits 0)
  | signed {digits : List Char} : digits ≠ [] → (∀ c ∈ digits, c.isDigit = true) →
      CountForm ('+' :: digits) (Nat.ofDigitChars 10 digits 0)

/-- The digits of a text. -/
def unsigned (text : List Char) : List Char :=
  match text with
  | '+' :: digits => digits
  | _ => text

theorem unsigned_of_ne {c : Char} (h : c ≠ '+') (text : List Char) :
    unsigned (c :: text) = c :: text := by
  unfold unsigned
  split
  · next heq => exact absurd (List.cons.inj heq).1 h
  · rfl

theorem countForm_iff {text : List Char} {n : Nat} :
    CountForm text n ↔ unsigned text ≠ [] ∧ (∀ c ∈ unsigned text, c.isDigit = true) ∧
      Nat.ofDigitChars 10 (unsigned text) 0 = n := by
  constructor
  · intro h
    cases h with
    | @plain digits hne hdigits =>
      obtain ⟨c, rest, rfl⟩ := List.exists_cons_of_ne_nil hne
      have hplus : c ≠ '+' := by
        rintro rfl
        exact absurd (hdigits '+' (List.mem_cons_self ..)) (by decide)
      rw [unsigned_of_ne hplus]
      exact ⟨hne, hdigits, rfl⟩
    | signed hne hdigits => exact ⟨hne, hdigits, rfl⟩
  · rintro ⟨hne, hdigits, rfl⟩
    by_cases hsign : ∃ digits, text = '+' :: digits
    · obtain ⟨digits, rfl⟩ := hsign
      exact .signed hne hdigits
    · have hplain : unsigned text = text := by
        unfold unsigned
        split
        · exact absurd ⟨_, rfl⟩ hsign
        · rfl
      rw [hplain] at hne hdigits ⊢
      exact .plain hne hdigits

theorem CountForm.unique {text : List Char} {m n : Nat} (hm : CountForm text m)
    (hn : CountForm text n) : m = n :=
  (countForm_iff.1 hm).2.2.symm.trans (countForm_iff.1 hn).2.2

/-- **A text is read as a count if it says it** and 64 bits hold it. -/
theorem parseCount?_eq_some {text : List Char} {count : UInt64} :
    parseCount? text = some count ↔ CountForm text count.toNat := by
  have hread : parseCount? text =
      if !(unsigned text).isEmpty && (unsigned text).all Char.isDigit &&
        digitsValue (unsigned text) < Nat.pow 2 64 then
          some (.ofNat (digitsValue (unsigned text)))
      else none := rfl
  have hfits : ∀ n, (n < Nat.pow 2 64 ∧ UInt64.ofNat n = count) ↔ n = count.toNat := by
    intro n
    constructor
    · rintro ⟨hn, rfl⟩
      exact (UInt64.toNat_ofNat_of_lt' hn).symm
    · rintro rfl
      exact ⟨count.toNat_lt, UInt64.ofNat_toNat⟩
  rw [hread, countForm_iff, digitsValue_eq, ← hfits]
  simp [and_assoc]

/-! ### Parameters -/

/-- The parameter says a count. -/
def SaysCount (param : Option String) (n : Nat) : Prop :=
  ∃ text, param = some text ∧ CountForm (Text.trim text.toList) n

/-- The parameter is present, but says no count that 64 bits hold. -/
def Miscounts (param : Option String) : Prop :=
  IsPresent param ∧ ¬∃ n < 2 ^ 64, SaysCount param n

/-- The parameter says a count, or it is not present and this stands for zero. -/
def Counts (param : Option String) (n : Nat) : Prop :=
  SaysCount param n ∨ ¬IsPresent param ∧ n = 0

section

variable {param : Option String}

theorem SaysCount.isPresent {n : Nat} (h : SaysCount param n) : IsPresent param := by
  obtain ⟨text, rfl, hform⟩ := h
  rw [isPresent_some, ← Text.trim_eq_nil]
  intro hnil
  rw [hnil] at hform
  exact (countForm_iff.1 hform).1 rfl

theorem SaysCount.unique {m n : Nat} (hm : SaysCount param m) (hn : SaysCount param n) :
    m = n := by
  obtain ⟨text, rfl, hm⟩ := hm
  obtain ⟨_, heq, hn⟩ := hn
  obtain rfl := Option.some.inj heq
  exact hm.unique hn

theorem Counts.unique {m n : Nat} (hm : Counts param m) (hn : Counts param n) : m = n := by
  rcases hm with hm | ⟨habsent, rfl⟩ <;> rcases hn with hn | ⟨habsent', rfl⟩
  · exact hm.unique hn
  · exact absurd hm.isPresent habsent'
  · exact absurd hn.isPresent habsent
  · rfl

theorem Counts.not_miscounts {count : UInt64} (h : Counts param count.toNat) :
    ¬Miscounts param := by
  rintro ⟨hpresent, hnone⟩
  rcases h with hcount | ⟨habsent, -⟩
  · exact hnone ⟨_, count.toNat_lt, hcount⟩
  · exact habsent hpresent

/-- A parameter is not present, or it says a count, or it is a mistake. -/
theorem parseCount_cases (name : String) (param : Option String) :
    (¬IsPresent param ∧ parseCount name param = .ok none) ∨
    (∃ count, SaysCount param count.toNat ∧ parseCount name param = .ok (some count)) ∨
    (∃ text, param = some text ∧ Miscounts param ∧
      parseCount name param = .error (.pagination name (trimmed text))) := by
  by_cases hpresent : IsPresent param
  · right
    obtain ⟨text, rfl, -⟩ := id hpresent
    have htrimmed : (trimmed text).toList = Text.trim text.toList := by
      rw [trimmed, String.toList_ofList]
    cases hcount : parseCount? (Text.trim text.toList) with
    | some count =>
      refine .inl ⟨count, ⟨text, rfl, parseCount?_eq_some.1 hcount⟩, ?_⟩
      simp only [parseCount, present?_some hpresent, htrimmed, hcount]
    | none =>
      refine .inr ⟨text, rfl, ⟨hpresent, ?_⟩, ?_⟩
      · rintro ⟨n, hn, _, heq, hform⟩
        obtain rfl := Option.some.inj heq
        have htoNat : (UInt64.ofNat n).toNat = n := UInt64.toNat_ofNat_of_lt' hn
        rw [← htoNat, ← parseCount?_eq_some, hcount] at hform
        cases hform
      · simp only [parseCount, present?_some hpresent, htrimmed, hcount]
  · exact .inl ⟨hpresent, by rw [parseCount, present?_eq_none.2 hpresent]⟩

/-- What has been read of a parameter counts for it. -/
theorem counts_of_parseCount {name : String} {count : Option UInt64}
    (h : parseCount name param = .ok count) :
    Counts param (count.getD 0).toNat ∧ (count.isSome ↔ IsPresent param) := by
  rcases parseCount_cases name param with
    ⟨habsent, hread⟩ | ⟨c, hsays, hread⟩ | ⟨text, -, -, hread⟩ <;> rw [hread] at h
  · obtain rfl := Except.ok.inj h
    exact ⟨.inr ⟨habsent, rfl⟩, iff_of_false nofun habsent⟩
  · obtain rfl := Except.ok.inj h
    exact ⟨.inl hsays, iff_of_true rfl hsays.isPresent⟩
  · cases h

/-- What counts for a parameter is read. -/
theorem Counts.exists_parseCount (name : String) {count : UInt64} (h : Counts param count.toNat) :
    ∃ read, parseCount name param = .ok read ∧ read.getD 0 = count := by
  rcases parseCount_cases name param with
    ⟨habsent, hread⟩ | ⟨c, hsays, hread⟩ | ⟨text, -, hmistake, -⟩
  · exact ⟨none, hread, UInt64.toNat_inj.1 (Counts.unique (.inr ⟨habsent, rfl⟩) h)⟩
  · exact ⟨some c, hread, UInt64.toNat_inj.1 (Counts.unique (.inl hsays) h)⟩
  · exact absurd hmistake h.not_miscounts

theorem parseCount_eq_none {name : String} :
    parseCount name param = .ok none ↔ ¬IsPresent param := by
  rcases parseCount_cases name param with
    ⟨habsent, hread⟩ | ⟨c, hsays, hread⟩ | ⟨text, -, hmistake, hread⟩ <;> rw [hread]
  · exact iff_of_true rfl habsent
  · exact iff_of_false nofun fun h => h hsays.isPresent
  · exact iff_of_false nofun fun h => h hmistake.1

theorem parseCount_eq_error {name : String} {e : RequestError} :
    parseCount name param = .error e ↔
      Miscounts param ∧ ∃ text, param = some text ∧ e = .pagination name (trimmed text) := by
  rcases parseCount_cases name param with
    ⟨habsent, hread⟩ | ⟨c, hsays, hread⟩ | ⟨text, rfl, hmistake, hread⟩ <;> rw [hread]
  · exact iff_of_false nofun fun h => habsent h.1.1
  · exact iff_of_false nofun fun h => h.1.2 ⟨_, c.toNat_lt, hsays⟩
  · simp [hmistake, eq_comm]

theorem exists_parseCount_iff (name : String) :
    (∃ count, parseCount name param = .ok count) ↔ ¬Miscounts param := by
  rcases parseCount_cases name param with
    ⟨habsent, hread⟩ | ⟨c, hsays, hread⟩ | ⟨text, -, hmistake, hread⟩ <;> rw [hread]
  · exact iff_of_true ⟨_, rfl⟩ fun h => habsent h.1
  · exact iff_of_true ⟨_, rfl⟩ fun h => h.2 ⟨_, c.toNat_lt, hsays⟩
  · exact iff_of_false nofun fun h => h hmistake

end

/-! ### Pages -/

namespace Params

variable {params : Params}

/-- The page of two counts that have been read, if at least one of them is there. -/
def pageOf? (offset limit : Option UInt64) : Option Pagination :=
  if offset.isNone && limit.isNone then none else some ⟨offset.getD 0, limit.getD 0⟩

theorem pageOf?_eq_none {offset limit : Option UInt64} :
    pageOf? offset limit = none ↔ offset = none ∧ limit = none := by
  cases offset <;> cases limit <;> simp [pageOf?]

theorem pageOf?_eq_some {offset limit : Option UInt64} {page : Pagination} :
    pageOf? offset limit = some page ↔
      (offset.isSome ∨ limit.isSome) ∧ page = ⟨offset.getD 0, limit.getD 0⟩ := by
  cases offset <;> cases limit <;> simp [pageOf?, eq_comm]

theorem readPagination_eq (params : Params) :
    params.readPagination = do
      let offset ← parseCount "offset" params.offset
      let limit ← parseCount "limit" params.limit
      return pageOf? offset limit := by
  unfold readPagination pageOf?
  cases parseCount "offset" params.offset with
  | error e => rfl
  | ok offset =>
    cases parseCount "limit" params.limit with
    | error e => rfl
    | ok limit =>
      simp only [Outcome.ok_bind]
      split <;> rfl

theorem readPagination_eq_ok {page : Option Pagination} :
    params.readPagination = .ok page ↔ ∃ offset limit,
      parseCount "offset" params.offset = .ok offset ∧
      parseCount "limit" params.limit = .ok limit ∧ pageOf? offset limit = page := by
  rw [readPagination_eq]
  simp only [Outcome.bind_eq_ok, pure, Except.pure, Except.ok.injEq, exists_and_left]

theorem readPagination_eq_none :
    params.readPagination = .ok none ↔
      ¬IsPresent params.offset ∧ ¬IsPresent params.limit := by
  rw [readPagination_eq_ok]
  constructor
  · rintro ⟨offset, limit, hoffset, hlimit, hpage⟩
    obtain ⟨rfl, rfl⟩ := pageOf?_eq_none.1 hpage
    exact ⟨parseCount_eq_none.1 hoffset, parseCount_eq_none.1 hlimit⟩
  · rintro ⟨hoffset, hlimit⟩
    exact ⟨none, none, parseCount_eq_none.2 hoffset, parseCount_eq_none.2 hlimit, rfl⟩

/-- Where a count is present, the page has what counts for the two parameters. -/
theorem readPagination_eq_some {page : Pagination} :
    params.readPagination = .ok (some page) ↔
      (IsPresent params.offset ∨ IsPresent params.limit) ∧
      Counts params.offset page.offset.toNat ∧ Counts params.limit page.limit.toNat := by
  rw [readPagination_eq_ok]
  constructor
  · rintro ⟨offset, limit, hoffset, hlimit, hpage⟩
    obtain ⟨hsome, rfl⟩ := pageOf?_eq_some.1 hpage
    obtain ⟨hoffset, hpresent⟩ := counts_of_parseCount hoffset
    obtain ⟨hlimit, hpresent'⟩ := counts_of_parseCount hlimit
    rw [hpresent, hpresent'] at hsome
    exact ⟨hsome, hoffset, hlimit⟩
  · rintro ⟨hpresent, hoffset, hlimit⟩
    obtain ⟨offset, hreadOffset, heqOffset⟩ := hoffset.exists_parseCount "offset"
    obtain ⟨limit, hreadLimit, heqLimit⟩ := hlimit.exists_parseCount "limit"
    rw [← (counts_of_parseCount hreadOffset).2, ← (counts_of_parseCount hreadLimit).2] at hpresent
    refine ⟨offset, limit, hreadOffset, hreadLimit, pageOf?_eq_some.2 ⟨hpresent, ?_⟩⟩
    rw [heqOffset, heqLimit]

/-- The offset is looked at first. -/
theorem readPagination_eq_error {e : RequestError} :
    params.readPagination = .error e ↔
      (Miscounts params.offset ∧
        ∃ text, params.offset = some text ∧ e = .pagination "offset" (trimmed text)) ∨
      ¬Miscounts params.offset ∧ Miscounts params.limit ∧
        ∃ text, params.limit = some text ∧ e = .pagination "limit" (trimmed text) := by
  rw [readPagination_eq, Outcome.bind_eq_error, parseCount_eq_error,
    ← exists_parseCount_iff "offset"]
  simp only [Outcome.bind_eq_error, parseCount_eq_error, pure, Except.pure, reduceCtorEq,
    and_false, exists_false, or_false, exists_and_right]

/-! ### Windows -/

/-- What the parameters ask of the window of a query: there is none if no count is present. -/
def AsksFor (params : Params) (defaultLimit : UInt64) : Option Window → Prop
  | none => ¬IsPresent params.offset ∧ ¬IsPresent params.limit
  | some window => (IsPresent params.offset ∨ IsPresent params.limit) ∧
      Counts params.offset window.offset.toNat ∧
      ∃ n, Counts params.limit n ∧
        window.limit.toNat = if n = 0 then defaultLimit.toNat else n

theorem asksFor_of_readPagination {page : Option Pagination} (defaultLimit : UInt64)
    (h : params.readPagination = .ok page) :
    params.AsksFor defaultLimit (page.map (·.window defaultLimit)) := by
  cases page with
  | none => exact readPagination_eq_none.1 h
  | some page =>
    obtain ⟨hpresent, hoffset, hlimit⟩ := readPagination_eq_some.1 h
    refine ⟨hpresent, hoffset, page.limit.toNat, hlimit, ?_⟩
    have hzero : page.limit = 0 ↔ page.limit.toNat = 0 := by
      rw [← UInt64.toNat_inj, UInt64.toNat_zero]
    show UInt64.toNat (if page.limit = 0 then defaultLimit else page.limit) = _
    by_cases hnone : page.limit = 0
    · rw [if_pos hnone, if_pos (hzero.1 hnone)]
    · rw [if_neg hnone, if_neg (mt hzero.2 hnone)]

/-- The window of a query that is made for the parameters is the one that they ask for. -/
theorem asksFor_of_applyRequest {catalog : Catalog} {defaultLimit : UInt64}
    {entityName table : String} {select : Select}
    (h : applyRequest catalog defaultLimit entityName params.request (Select.ofTable table) =
      .ok select) : params.AsksFor defaultLimit select.window := by
  obtain ⟨plan, hplan, rfl⟩ := Outcome.map_eq_ok.1 h
  obtain ⟨scope, operators, -, hrequest, hcompile⟩ := compile_eq_ok.1 hplan
  have hread : params.readPagination = .ok operators.pagination :=
    congrArg Request.pagination hrequest
  have hwindow : (plan.applyTo (Select.ofTable table)).window = plan.window := by
    rw [Plan.applyTo_eq_build, Select.window_build, Plan.lastWindow_additions]
    exact Option.or_none
  rw [hwindow, (compileIn_eq_ok.1 hcompile).2.2.2.2]
  exact asksFor_of_readPagination defaultLimit hread

end Params

/-! ### Decimal texts -/

theorem CountForm.isWord {text : List Char} {n : Nat} (h : CountForm text n) :
    Text.IsWord text := by
  have hsort : ∀ c ∈ text, (c.isDigit || c == '+') = true := by
    cases h with
    | plain _ hdigits => exact fun c hc => by rw [hdigits c hc, Bool.true_or]
    | signed _ hdigits =>
      refine List.forall_mem_cons.2 ⟨rfl, fun c hc => ?_⟩
      rw [hdigits c hc, Bool.true_or]
  refine Text.isWord_of_sort (p := fun c => c.isDigit || c == '+') (by decide) ?_ hsort
  rintro rfl
  exact (countForm_iff.1 h).1 rfl

theorem countForm_toString (n : Nat) : CountForm (toString n).toList n := by
  have hform : CountForm (Nat.toDigits 10 n) (Nat.ofDigitChars 10 (Nat.toDigits 10 n) 0) :=
    .plain Nat.toDigits_ne_nil fun c hc => Nat.isDigit_of_mem_toDigits (by decide) (by decide) hc
  have hdigits : (toString n).toList = Nat.toDigits 10 n := String.toList_ofList
  rwa [Nat.ofDigitChars_ten_toDigits, ← hdigits] at hform

theorem saysCount_toString (n : Nat) : SaysCount (some (toString n)) n := by
  refine ⟨_, rfl, ?_⟩
  rw [(countForm_toString n).isWord.tight.trim_eq]
  exact countForm_toString n

theorem trimmed_toString (n : Nat) : trimmed (toString n) = toString n := by
  rw [trimmed, (countForm_toString n).isWord.tight.trim_eq, String.ofList_toList]

theorem miscounts_toString {n : Nat} (h : 2 ^ 64 ≤ n) : Miscounts (some (toString n)) := by
  refine ⟨(saysCount_toString n).isPresent, ?_⟩
  rintro ⟨m, hm, hsays⟩
  rw [(saysCount_toString n).unique hsays] at h
  exact Nat.lt_irrefl _ (Nat.lt_of_lt_of_le hm h)

/-! ### The main result -/

/-- **Pages are read exactly.** There is no page if and only if neither count is present. It is
refused, the offset first, if one that is present says no count that 64 bits hold, whatever else it
is. Otherwise the page has the counts that are said, zero for one that is not present, and the
query has these as its window, except that the configured limit stands for a limit of zero. So the
decimal text of a natural gives just this natural, or is refused if 64 bits do not hold it. -/
theorem pages_are_read_exactly (params : Params) :
    (params.readPagination = .ok none ↔
      ¬IsPresent params.offset ∧ ¬IsPresent params.limit) ∧
    (∀ e, params.readPagination = .error e ↔
      (Miscounts params.offset ∧
        ∃ text, params.offset = some text ∧ e = .pagination "offset" (trimmed text)) ∨
      ¬Miscounts params.offset ∧ Miscounts params.limit ∧
        ∃ text, params.limit = some text ∧ e = .pagination "limit" (trimmed text)) ∧
    (∀ page, params.readPagination = .ok (some page) ↔
      (IsPresent params.offset ∨ IsPresent params.limit) ∧
      Counts params.offset page.offset.toNat ∧ Counts params.limit page.limit.toNat) ∧
    (∀ catalog defaultLimit entityName table select,
      applyRequest catalog defaultLimit entityName params.request (Select.ofTable table) =
          .ok select →
        params.AsksFor defaultLimit select.window) ∧
    ∀ n : Nat,
      let said := { params with offset := some (toString n), limit := some (toString n) }
      (n < 2 ^ 64 → ∃ page, said.readPagination = .ok (some page) ∧
        page.offset.toNat = n ∧ page.limit.toNat = n) ∧
      (2 ^ 64 ≤ n → said.readPagination = .error (.pagination "offset" (toString n)) ∧
        Params.readPagination { said with offset := none } =
          .error (.pagination "limit" (toString n))) := by
  refine ⟨Params.readPagination_eq_none, fun e => Params.readPagination_eq_error,
    fun page => Params.readPagination_eq_some, fun catalog defaultLimit entityName table select h =>
      Params.asksFor_of_applyRequest h, fun n => ?_⟩
  intro said
  refine ⟨fun hn => ?_, fun hn => ⟨?_, ?_⟩⟩
  · have htoNat : (UInt64.ofNat n).toNat = n := UInt64.toNat_ofNat_of_lt' hn
    have hcounts : Counts (some (toString n)) (UInt64.ofNat n).toNat := by
      rw [htoNat]
      exact .inl (saysCount_toString n)
    exact ⟨⟨.ofNat n, .ofNat n⟩, Params.readPagination_eq_some.2
      ⟨.inl (saysCount_toString n).isPresent, hcounts, hcounts⟩, htoNat, htoNat⟩
  · exact Params.readPagination_eq_error.2
      (.inl ⟨miscounts_toString hn, _, rfl, by rw [trimmed_toString]⟩)
  · exact Params.readPagination_eq_error.2 (.inr
      ⟨fun hmistake => not_isPresent_none hmistake.1, miscounts_toString hn, _, rfl,
        by rw [trimmed_toString]⟩)

/-- The greatest offset there is, with zeros before it, and a limit of zeros are asked for; the next
natural is refused. -/
theorem pages_are_read_exactly_at_the_end :
    let params := { Params.empty with
      offset := some "\u2003+0018446744073709551615", limit := some "000 " }
    (∃ select, applyRequest tracker.catalog 25 "Ticket" params.request (Select.ofTable "tickets") =
        .ok select ∧ select.window = some ⟨18446744073709551615, 25⟩ ∧
        params.AsksFor 25 select.window) ∧
    (∃ page, Params.readPagination { params with
        offset := some (toString (2 ^ 64 - 1)), limit := some (toString (2 ^ 64 - 1)) } =
        .ok (some page) ∧ page.offset.toNat = 2 ^ 64 - 1 ∧ page.limit.toNat = 2 ^ 64 - 1) ∧
    Params.readPagination { params with
        offset := some (toString (2 ^ 64)), limit := some (toString (2 ^ 64)) } =
      .error (.pagination "offset" "18446744073709551616") := by
  intro params
  obtain ⟨-, -, -, hwindow, hdecimal⟩ := pages_are_read_exactly params
  have hselect : applyRequest tracker.catalog 25 "Ticket" params.request
      (Select.ofTable "tickets") =
        .ok { Select.ofTable "tickets" with window := some ⟨18446744073709551615, 25⟩ } := rfl
  exact ⟨⟨_, hselect, rfl, hwindow tracker.catalog 25 "Ticket" "tickets" _ hselect⟩,
    (hdecimal _).1 (by decide), ((hdecimal _).2 (Nat.le_refl _)).1⟩

end RequestSql
