import RequestSql.Proofs.Filter.Reading
import RequestSql.Proofs.Outcome

/-!
# The grammar of filters

The filter language as rules, and the theorem that the parser accepts what the rules
derive, with the same tree, and nothing else (`parseTokens_iff_derivation`).

A derivation is about a whole list of tokens: it says which filter the tokens are and how
deep the deepest token stands, that is, how many groups and operands of `not` enclose it.
Side by side the depths of two operands do not add up, their maximum counts; only a group
and a `not` add one. A chain is one rule for `and` and for `or`: it grows at the right end
by a separator and an item, so its filter leans to the left.

The parser is followed in both directions. What it reads off the front of the tokens has
a derivation (`Sound`). And where the tokens of a derivation are followed by something
that cannot continue them, the parser reads exactly these (`Complete`); what can continue
a chain is its separator, what can continue an operand is nothing. Both are passed on
from the items of a chain to the chain and from one level of nesting to the next, so one
induction on the levels that are left carries them to whole filters.

Key definitions: `ConditionRule`, `Chained`, `Operand`, `Disjunction`, `PassedOn`.
Key theorems: `PassedOn.disjunction_of`, `chain_sound`, `chain_complete`, `operand_sound`, `operand_complete`,
`parseTokens_iff_derivation`.
-/

namespace RequestSql

/-! ### The rules -/

/-- What a path, an operator and a literal say together. -/
inductive ConditionRule (path : FieldPath) : TokenKind → TokenKind → Filter → Prop
  | eqText (value : String) :
    ConditionRule path .eq (.text value) (.text path .eq value false)
  | notEqText (value : String) :
    ConditionRule path .notEq (.text value) (.text path .eq value true)
  | eqNumber (value : Binary64) :
    ConditionRule path .eq (.number value) (.number path .eq value false)
  | notEqNumber (value : Binary64) :
    ConditionRule path .notEq (.number value) (.number path .eq value true)
  | eqNull : ConditionRule path .eq .null (.null path false)
  | notEqNull : ConditionRule path .notEq .null (.null path true)
  | matching (value : String) :
    ConditionRule path .matching (.text value) (.text path .matching value false)
  | notMatching (value : String) :
    ConditionRule path .notMatching (.text value) (.text path .matching value true)
  | gt (value : Binary64) :
    ConditionRule path .gt (.number value) (.number path .gt value false)
  | ge (value : Binary64) :
    ConditionRule path .ge (.number value) (.number path .ge value false)
  | lt (value : Binary64) :
    ConditionRule path .lt (.number value) (.number path .lt value false)
  | le (value : Binary64) :
    ConditionRule path .le (.number value) (.number path .le value false)

/-- One or more items with a separator between them, joined from the left. -/
inductive Chained (separator : TokenKind) (join : Filter → Filter → Filter)
    (Item : List Token → Filter → Nat → Prop) : List Token → Filter → Nat → Prop
  | one {ts : List Token} {f : Filter} {n : Nat} :
    Item ts f n → Chained separator join Item ts f n
  | more {ts us : List Token} {t : Token} {f g : Filter} {n m : Nat} :
    Chained separator join Item ts f n → t.kind = separator → Item us g m →
      Chained separator join Item (ts ++ t :: us) (join f g) (max n m)

/-- A condition, a negation or a group. -/
inductive Operand : List Token → Filter → Nat → Prop
  | condition {name operator literal : Token} {path : String} {f : Filter} :
    name.kind = .identifier path →
      ConditionRule (.ofDotted path) operator.kind literal.kind f →
        Operand [name, operator, literal] f 0
  | not {t : Token} {ts : List Token} {f : Filter} {n : Nat} :
    t.kind = .not → Operand ts f n → Operand (t :: ts) f.negate (n + 1)
  | group {opening closing : Token} {ts : List Token} {f : Filter} {n : Nat} :
    opening.kind = .lparen →
      Chained .or Filter.or (Chained .and Filter.and Operand) ts f n →
        closing.kind = .rparen → Operand (opening :: (ts ++ [closing])) f (n + 1)

/-- Operands joined by `and`. -/
def Conjunction : List Token → Filter → Nat → Prop := Chained .and Filter.and Operand

/-- Conjunctions joined by `or`: a whole filter. -/
def Disjunction : List Token → Filter → Nat → Prop := Chained .or Filter.or Conjunction

/-- What three properties of operands, conjunctions and disjunctions have to pass on, rule by
rule, so that they hold of all of them. -/
structure PassedOn (operands conjunctions disjunctions : List Token → Filter → Nat → Prop) :
    Prop where
  condition : ∀ {name operator literal : Token} {path : String} {f : Filter},
    name.kind = .identifier path → ConditionRule (.ofDotted path) operator.kind literal.kind f →
      operands [name, operator, literal] f 0
  not : ∀ {t : Token} {ts : List Token} {f : Filter} {n : Nat},
    t.kind = .not → operands ts f n → operands (t :: ts) f.negate (n + 1)
  group : ∀ {opening closing : Token} {ts : List Token} {f : Filter} {n : Nat},
    opening.kind = .lparen → disjunctions ts f n → closing.kind = .rparen →
      operands (opening :: (ts ++ [closing])) f (n + 1)
  operand : ∀ {ts : List Token} {f : Filter} {n : Nat}, operands ts f n → conjunctions ts f n
  and : ∀ {ts us : List Token} {t : Token} {f g : Filter} {n m : Nat},
    conjunctions ts f n → t.kind = .and → operands us g m →
      conjunctions (ts ++ t :: us) (f.and g) (max n m)
  conjunction : ∀ {ts : List Token} {f : Filter} {n : Nat},
    conjunctions ts f n → disjunctions ts f n
  or : ∀ {ts us : List Token} {t : Token} {f g : Filter} {n m : Nat},
    disjunctions ts f n → t.kind = .or → conjunctions us g m →
      disjunctions (ts ++ t :: us) (f.or g) (max n m)

/-- Induction on derivations. The chains inside a group are chains of operands again, so the
three kinds of derivation go through one recursor. -/
theorem PassedOn.operand_of {operands conjunctions disjunctions : List Token → Filter → Nat → Prop}
    (rules : PassedOn operands conjunctions disjunctions) {ts : List Token} {f : Filter} {n : Nat}
    (h : Operand ts f n) : operands ts f n :=
  @Operand.rec (fun ts f n _ => operands ts f n) (fun ts f n _ => disjunctions ts f n)
    (fun ts f n _ => conjunctions ts f n)
    rules.condition (fun ht _ ih => rules.not ht ih)
    (fun hopening _ hclosing ih => rules.group hopening ih hclosing)
    (fun _ ih => rules.conjunction ih) (fun _ ht _ ihf ihg => rules.or ihf ht ihg)
    (fun _ ih => rules.operand ih) (fun _ ht _ ihf ihg => rules.and ihf ht ihg) ts f n h

theorem PassedOn.conjunction_of
    {operands conjunctions disjunctions : List Token → Filter → Nat → Prop}
    (rules : PassedOn operands conjunctions disjunctions) {ts : List Token} {f : Filter} {n : Nat}
    (h : Conjunction ts f n) : conjunctions ts f n := by
  induction h with
  | one hts => exact rules.operand (rules.operand_of hts)
  | more _ ht hus ih => exact rules.and ih ht (rules.operand_of hus)

theorem PassedOn.disjunction_of
    {operands conjunctions disjunctions : List Token → Filter → Nat → Prop}
    (rules : PassedOn operands conjunctions disjunctions) {ts : List Token} {f : Filter} {n : Nat}
    (h : Disjunction ts f n) : disjunctions ts f n := by
  induction h with
  | one hts => exact rules.conjunction (rules.conjunction_of hts)
  | more _ ht hus ih => exact rules.or ih ht (rules.conjunction_of hus)

/-! ### Conditions -/

/-- The readers of operators and literals and the table of conditions follow the rules. -/
theorem condition_iff_rule {path : FieldPath} {operatorSpan span : Span}
    {operator literal : TokenKind} {f : Filter} :
    (∃ comparison value, operator.comparison? = some comparison ∧
      literal.literal? = some value ∧
        condition path operatorSpan span comparison value = .ok f) ↔
      ConditionRule path operator literal f := by
  constructor
  · rintro ⟨comparison, value, hop, hlit, h⟩
    unfold TokenKind.comparison? at hop
    unfold TokenKind.literal? at hlit
    -- Each pair of an operator and a literal is one row of the table.
    split at hop <;> split at hlit <;> cases hop <;> cases hlit <;> cases h <;> constructor
  · intro h
    cases h <;> exact ⟨_, _, rfl, rfl, rfl⟩

/-- A condition is read off the front of the tokens: its operator, then its literal. -/
theorem run_conditionFrom_eq_ok {path : FieldPath} {pathSpan : Span} {ts rest : List Token}
    {f : Filter} :
    FilterReader.run (conditionFrom path pathSpan) ts = .ok (f, rest) ↔
      ∃ operator literal, ts = operator :: literal :: rest ∧
        ConditionRule path operator.kind literal.kind f := by
  rw [run_conditionFrom]
  constructor
  · intro h
    split at h
    · cases h
    · next operator ts =>
      split at h
      · cases h
      · next comparison hop =>
        split at h
        · cases h
        · next literal rest' =>
          split at h
          · cases h
          · next value hlit =>
            obtain ⟨g, hg, heq⟩ := Outcome.map_eq_ok.1 h
            obtain ⟨rfl, rfl⟩ := Prod.mk.inj heq
            exact ⟨operator, literal, rfl, condition_iff_rule.1 ⟨_, _, hop, hlit, hg⟩⟩
  · rintro ⟨operator, literal, rfl, hrule⟩
    obtain ⟨comparison, value, hop, hlit, h⟩ := condition_iff_rule.2 hrule
    simp only [hop, hlit]
    rw [h]
    rfl

/-! ### From items to chains -/

/-- What the reader reads off the front of some tokens is derived, with tokens at most
`depth` deep. -/
def Sound (item : FilterReader) (Item : List Token → Filter → Nat → Prop) (depth : Nat) :
    Prop :=
  ∀ (ts : List Token) (f : Filter) (rest : List Token), item.run ts = .ok (f, rest) →
    ∃ us n, ts = us ++ rest ∧ Item us f n ∧ n ≤ depth

/-- Where `Stops` holds of what follows, the reader reads exactly the tokens of a
derivation with tokens at most `depth` deep. -/
def Complete (item : FilterReader) (Item : List Token → Filter → Nat → Prop) (depth : Nat)
    (Stops : List Token → Prop) : Prop :=
  ∀ (us : List Token) (f : Filter) (n : Nat) (rest : List Token), Item us f n → n ≤ depth →
    Stops rest → item.run (us ++ rest) = .ok (f, rest)

/-- The next token, if there is one, is of another kind. -/
def NotNext (kind : TokenKind) (ts : List Token) : Prop := ∀ t ∈ ts.head?, t.kind ≠ kind

section

variable {separator : TokenKind} {join : Filter → Filter → Filter} {item : FilterReader}
  {Item : List Token → Filter → Nat → Prop} {depth : Nat}

/-- The loop goes on with a chain that has been read up to `left`. -/
theorem runChainFrom_sound (hitem : Sound item Item depth) : ∀ (k : Nat) (ts : List Token),
    ts.length ≤ k → ∀ (read : List Token) (left f : Filter) (n : Nat) (rest : List Token),
      Chained separator join Item read left n → n ≤ depth →
        runChainFrom separator join item left ts = .ok (f, rest) →
          ∃ us m, ts = us ++ rest ∧ Chained separator join Item (read ++ us) f m ∧ m ≤ depth
  | k, [], _, read, left, f, n, rest, hread, hn, h => by
    rw [runChainFrom_nil] at h
    obtain ⟨rfl, rfl⟩ := Prod.mk.inj (Except.ok.inj h)
    exact ⟨[], n, rfl, by rwa [List.append_nil], hn⟩
  | 0, t :: ts, hk, _, _, _, _, _, _, _, _ => absurd hk (Nat.not_succ_le_zero _)
  | k + 1, t :: ts, hk, read, left, f, n, rest, hread, hn, h => by
    rw [runChainFrom_cons] at h
    split at h
    · next ht =>
      obtain ⟨⟨right, mid⟩, hright, hloop⟩ := Outcome.bind_eq_ok.1 h
      obtain ⟨us, m, rfl, hus, hm⟩ := hitem ts right mid hright
      have hmid : mid.length ≤ k := by
        have := FilterReader.run_shorter hright
        simp only [List.length_cons] at hk
        omega
      have hlonger : Chained separator join Item (read ++ t :: us) (join left right) (max n m) :=
        .more hread ht hus
      obtain ⟨vs, l, rfl, hvs, hl⟩ := runChainFrom_sound hitem k mid hmid _ _ f _ rest hlonger
        (Nat.max_le.2 ⟨hn, hm⟩) hloop
      refine ⟨t :: us ++ vs, l, by simp, ?_, hl⟩
      rwa [← List.append_assoc]
    · obtain ⟨rfl, rfl⟩ := Prod.mk.inj (Except.ok.inj h)
      exact ⟨[], n, rfl, by rwa [List.append_nil], hn⟩

theorem chain_sound (hitem : Sound item Item depth) :
    Sound (chain separator join item) (Chained separator join Item) depth := by
  intro ts f rest h
  rw [run_chain] at h
  obtain ⟨⟨left, mid⟩, hleft, hloop⟩ := Outcome.bind_eq_ok.1 h
  obtain ⟨us, n, rfl, hus, hn⟩ := hitem ts left mid hleft
  obtain ⟨vs, m, rfl, hvs, hm⟩ :=
    runChainFrom_sound hitem mid.length mid (Nat.le_refl _) us left f n rest (.one hus) hn hloop
  exact ⟨us ++ vs, m, by rw [List.append_assoc], hvs, hm⟩

theorem runChainFrom_of_notNext {rest : List Token} (h : NotNext separator rest)
    (left : Filter) : runChainFrom separator join item left rest = .ok (left, rest) := by
  cases rest with
  | nil => exact runChainFrom_nil ..
  | cons t ts => rw [runChainFrom_cons, if_neg (h t rfl)]

variable {Stops : List Token → Prop}

/-- Reading a chain that is followed by more is going on with the loop from its filter. -/
theorem run_chain_append (hitem : Complete item Item depth Stops)
    (hseparator : ∀ t ts, t.kind = separator → Stops (t :: ts)) {us : List Token} {f : Filter}
    {n : Nat} (h : Chained separator join Item us f n) (hn : n ≤ depth) :
    ∀ rest, Stops rest → (chain separator join item).run (us ++ rest) =
      runChainFrom separator join item f rest := by
  induction h with
  | one hus =>
    intro rest hrest
    rw [run_chain, hitem _ _ _ rest hus hn hrest]
    rfl
  | more _ ht hvs ih =>
    intro rest hrest
    obtain ⟨hn, hm⟩ := Nat.max_le.1 hn
    rw [List.append_assoc, List.cons_append, ih hn _ (hseparator _ _ ht), runChainFrom_cons,
      if_pos ht, hitem _ _ _ rest hvs hm hrest]
    rfl

/-- A chain ends where neither its items nor its separators go on. -/
theorem chain_complete (hitem : Complete item Item depth Stops)
    (hseparator : ∀ t ts, t.kind = separator → Stops (t :: ts)) :
    Complete (chain separator join item) (Chained separator join Item) depth
      (fun rest => Stops rest ∧ NotNext separator rest) := by
  intro us f n rest h hn hrest
  rw [run_chain_append hitem hseparator h hn rest hrest.1]
  exact runChainFrom_of_notNext hrest.2 f

end

theorem disjunctionOf_sound {item : FilterReader} {Item : List Token → Filter → Nat → Prop}
    {depth : Nat} (hitem : Sound item Item depth) :
    Sound (disjunctionOf item) (Chained .or Filter.or (Chained .and Filter.and Item)) depth :=
  chain_sound (chain_sound hitem)

/-- What neither `and` nor `or` follows is read to its end. -/
theorem disjunctionOf_complete {item : FilterReader}
    {Item : List Token → Filter → Nat → Prop} {depth : Nat}
    (hitem : Complete item Item depth fun _ => True) :
    Complete (disjunctionOf item) (Chained .or Filter.or (Chained .and Filter.and Item)) depth
      (fun rest => NotNext .and rest ∧ NotNext .or rest) := by
  intro us f n rest h hn hrest
  have hand : Complete (chain .and Filter.and item) (Chained .and Filter.and Item) depth
      (fun rest => True ∧ NotNext .and rest) :=
    chain_complete hitem fun _ _ _ => trivial
  refine chain_complete hand ?_ us f n rest h hn ⟨⟨trivial, hrest.1⟩, hrest.2⟩
  intro t ts ht
  refine ⟨trivial, fun u hu => ?_⟩
  obtain rfl : t = u := Option.some.inj hu
  rw [ht]
  decide

/-! ### From one level to the next -/

/-- A group is sound one level above its content. -/
theorem groupOf_sound {item : FilterReader} {depth : Nat} (hitem : Sound item Operand depth)
    {opening : Token} (hopening : opening.kind = .lparen) {ts rest : List Token} {f : Filter}
    (h : FilterReader.run (groupOf item) ts = .ok (f, rest)) :
    ∃ us n, opening :: ts = us ++ rest ∧ Operand us f n ∧ n ≤ depth + 1 := by
  rw [run_groupOf] at h
  obtain ⟨⟨g, after⟩, hg, hclose⟩ := Outcome.bind_eq_ok.1 h
  obtain ⟨us, n, rfl, hus, hn⟩ := disjunctionOf_sound hitem ts g after hg
  cases after with
  | nil => cases hclose
  | cons t after =>
    simp only at hclose
    split at hclose
    · next ht =>
      obtain ⟨rfl, rfl⟩ := Prod.mk.inj (Except.ok.inj hclose)
      exact ⟨opening :: (us ++ [t]), n + 1, by simp, .group hopening hus ht,
        Nat.succ_le_succ hn⟩
    · cases hclose

/-- Operands are sound at a level if they are sound at the level below. -/
theorem operand_sound_of_below (depth : Nat)
    (hbelow : ∀ d, d + 1 = depth → Sound (operand d) Operand d) :
    Sound (operand depth) Operand depth := by
  intro ts f rest h
  cases ts with
  | nil => rw [run_operand_nil] at h; cases h
  | cons t ts =>
    by_cases hnot : t.kind = .not
    · rw [run_operand_not depth hnot] at h
      cases depth with
      | zero => cases h
      | succ depth =>
        obtain ⟨⟨g, after⟩, hg, heq⟩ := Outcome.map_eq_ok.1 h
        obtain ⟨us, n, rfl, hus, hn⟩ := hbelow depth rfl ts g after hg
        obtain ⟨rfl, rfl⟩ := Prod.mk.inj heq
        exact ⟨t :: us, n + 1, rfl, .not hnot hus, Nat.succ_le_succ hn⟩
    · by_cases hlparen : t.kind = .lparen
      · rw [run_operand_lparen depth hlparen] at h
        cases depth with
        | zero => cases h
        | succ depth => exact groupOf_sound (hbelow depth rfl) hlparen h
      · by_cases hpath : ∃ path, t.kind = .identifier path
        · obtain ⟨path, hpath⟩ := hpath
          rw [run_operand_identifier depth hpath] at h
          obtain ⟨operator, literal, rfl, hrule⟩ := run_conditionFrom_eq_ok.1 h
          exact ⟨[t, operator, literal], 0, rfl, .condition hpath hrule, Nat.zero_le _⟩
        · rw [run_operand_other depth hnot hlparen fun path hp => hpath ⟨path, hp⟩] at h
          cases h

theorem operand_sound (depth : Nat) : Sound (operand depth) Operand depth := by
  induction depth with
  | zero => exact operand_sound_of_below 0 fun d hd => absurd hd (Nat.succ_ne_zero d)
  | succ depth ih =>
    refine operand_sound_of_below (depth + 1) fun d hd => ?_
    obtain rfl := Nat.succ.inj hd
    exact ih

/-- An operand ends by itself, whatever follows. -/
theorem operand_complete (depth : Nat) :
    Complete (operand depth) Operand depth fun _ => True := by
  induction depth with
  | zero =>
    intro us f n rest h hn _
    cases h with
    | condition hpath hrule =>
      rw [List.cons_append, run_operand_identifier 0 hpath]
      exact run_conditionFrom_eq_ok.2 ⟨_, _, rfl, hrule⟩
    | not ht hus => exact absurd hn (Nat.not_succ_le_zero _)
    | group hopening hus hclosing => exact absurd hn (Nat.not_succ_le_zero _)
  | succ depth ih =>
    intro us f n rest h hn _
    cases h with
    | condition hpath hrule =>
      rw [List.cons_append, run_operand_identifier _ hpath]
      exact run_conditionFrom_eq_ok.2 ⟨_, _, rfl, hrule⟩
    | not ht hus =>
      rw [List.cons_append, run_operand_not _ ht]
      simp only
      rw [ih _ _ _ rest hus (Nat.le_of_succ_le_succ hn) trivial]
      rfl
    | group hopening hus hclosing =>
      have hstop : ∀ kind, kind ≠ .rparen → NotNext kind (_ :: rest) := fun kind hkind t ht => by
        obtain rfl := Option.some.inj ht
        rw [hclosing]
        exact fun h => hkind h.symm
      have hread := disjunctionOf_complete ih _ _ _ (_ :: rest) hus (Nat.le_of_succ_le_succ hn)
        ⟨hstop .and (by decide), hstop .or (by decide)⟩
      rw [List.cons_append, run_operand_lparen _ hopening]
      simp only
      rw [run_groupOf, List.append_assoc, List.singleton_append, hread]
      exact if_pos hclosing

/-! ### Whole filters -/

/-- Up to a depth, the parser reads what has a derivation of that depth. -/
theorem run_disjunction_eq_ok {depth : Nat} {ts : List Token} {f : Filter} :
    (disjunction depth).run ts = .ok (f, []) ↔ ∃ n, Disjunction ts f n ∧ n ≤ depth := by
  constructor
  · intro h
    obtain ⟨us, n, hts, hus, hn⟩ := disjunctionOf_sound (operand_sound depth) ts f [] h
    rw [List.append_nil] at hts
    exact ⟨n, hts ▸ hus, hn⟩
  · rintro ⟨n, h, hn⟩
    have hnil : ∀ kind, NotNext kind [] := fun kind t ht => by cases ht
    have hread := disjunctionOf_complete (operand_complete depth) ts f n [] h hn
      ⟨hnil .and, hnil .or⟩
    rwa [List.append_nil] at hread

theorem parseTokens_eq_ok {ts : List Token} {f : Filter} :
    parseTokens ts = .ok f ↔ ∃ n, Disjunction ts f n ∧ n ≤ maxDepth := by
  rw [← run_disjunction_eq_ok, parseTokens_eq]
  constructor
  · intro h
    obtain ⟨⟨g, rest⟩, hread, hend⟩ := Outcome.bind_eq_ok.1 h
    cases rest with
    | nil =>
      obtain rfl : g = f := Except.ok.inj hend
      exact hread
    | cons t rest => cases hend
  · intro h
    rw [h]
    rfl

/-- Tokens are one filter at most, however deep they are. -/
theorem Disjunction.unique {ts : List Token} {f g : Filter} {n m : Nat}
    (hf : Disjunction ts f n) (hg : Disjunction ts g m) : f = g := by
  have hf := run_disjunction_eq_ok.2 ⟨n, hf, Nat.le_max_left n m⟩
  have hg := run_disjunction_eq_ok.2 ⟨m, hg, Nat.le_max_right n m⟩
  rw [hf] at hg
  exact (Prod.mk.inj (Except.ok.inj hg)).1

/-- **The parser accepts the language of the grammar.** It gives back a filter exactly when
the tokens have a derivation of it in which no token is deeper than `maxDepth`. Tokens have
derivations of one filter at most. And operands side by side are read as soon as each of
them could be read alone: only the deepest one counts. -/
theorem parseTokens_iff_derivation (ts : List Token) :
    (∀ f, parseTokens ts = .ok f ↔ ∃ n, Disjunction ts f n ∧ n ≤ maxDepth) ∧
    (∀ f g n m, Disjunction ts f n → Disjunction ts g m → f = g) ∧
    (∀ us vs t f g n m, ts = us ++ t :: vs → n ≤ maxDepth → m ≤ maxDepth →
      (Conjunction us f n → t.kind = .and → Operand vs g m → parseTokens ts = .ok (f.and g)) ∧
      (Disjunction us f n → t.kind = .or → Conjunction vs g m →
        parseTokens ts = .ok (f.or g))) := by
  refine ⟨fun f => parseTokens_eq_ok, fun f g n m hf hg => hf.unique hg, ?_⟩
  rintro us vs t f g n m rfl hn hm
  have hmax : max n m ≤ maxDepth := Nat.max_le.2 ⟨hn, hm⟩
  constructor
  · intro hus ht hvs
    exact parseTokens_eq_ok.2 ⟨max n m, .one (.more hus ht hvs), hmax⟩
  · intro hus ht hvs
    exact parseTokens_eq_ok.2 ⟨max n m, .more hus ht hvs, hmax⟩

end RequestSql
