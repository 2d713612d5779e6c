import Mathlib.Data.List.Forall2
import Mathlib.Data.List.Induction
import RequestSql.Proofs.Console.Lines
import RequestSql.Proofs.Since

/-!
# The log of a session

What a session has come to be can be told from its lines without following it: the entity is the
one that was named last, and each parameter is what the last line said that set it or took all
parameters back. So a `run` line prints what the request of these last settings comes to, lines
that are no settings leave no trace but what they print themselves, and settings of different
things can be said in either order. What a request comes to is written out line by line; the lines
of a logger are not among them.

Key definitions: `LastTold`, `Session.LeftBy`, `BoundLine`, `PreloadLines`, `Session.Answers`,
`Config.printed`, `PrintsOnly`.
Key theorems: `Session.answers_iff`, `session_follows_log`.
-/

namespace RequestSql

/-! ### What is told last -/

/-- The value is the one that a line told last, or this first one if no line told any. -/
inductive LastTold {α : Type} (tells : String → α → Prop) (first : α) (lines : List String) :
    α → Prop
  | told {value : α} : Since (tells · value) (fun later => ∀ other, ¬tells later other) lines →
      LastTold tells first lines value
  | untold : (∀ line ∈ lines, ∀ value, ¬tells line value) → LastTold tells first lines first

section

variable {α : Type} {tells : String → α → Prop} {first value value' : α} {lines : List String}
  {line : String}

theorem lastTold_nil : LastTold tells first [] value ↔ value = first := by
  constructor
  · intro h
    cases h with
    | told hsince => exact absurd hsince not_since_nil
    | untold => rfl
  · rintro rfl
    exact .untold fun _ hline => absurd hline List.not_mem_nil

/-- One more line tells its own value, or leaves the one that was told before. -/
theorem lastTold_concat :
    LastTold tells first (lines ++ [line]) value ↔
      tells line value ∨ (∀ other, ¬tells line other) ∧ LastTold tells first lines value := by
  constructor
  · intro h
    cases h with
    | told hsince =>
      obtain htells | ⟨hline, hsince⟩ := since_concat.1 hsince
      · exact .inl htells
      · exact .inr ⟨hline, .told hsince⟩
    | untold huntold =>
      obtain ⟨hlines, hline⟩ := List.forall_mem_append.1 huntold
      exact .inr ⟨List.forall_mem_singleton.1 hline, .untold hlines⟩
  · rintro (htells | ⟨hline, h⟩)
    · exact .told (since_concat.2 (.inl htells))
    · cases h with
      | told hsince => exact .told (since_concat.2 (.inr ⟨hline, hsince⟩))
      | untold huntold =>
        have hlast : ∀ later ∈ [line], ∀ other, ¬tells later other :=
          List.forall_mem_singleton.2 hline
        exact .untold (List.forall_mem_append.2 ⟨huntold, hlast⟩)

/-- There is one last value only, if every line tells one at most. -/
theorem LastTold.unique
    (hone : ∀ line value value', tells line value → tells line value' → value = value')
    (h : LastTold tells first lines value) (h' : LastTold tells first lines value') :
    value = value' := by
  induction lines using List.reverseRecOn with
  | nil => rw [lastTold_nil.1 h, lastTold_nil.1 h']
  | append_singleton lines line ih =>
    obtain htells | ⟨hline, h⟩ := lastTold_concat.1 h
    · obtain htells' | ⟨hline', -⟩ := lastTold_concat.1 h'
      · exact hone line value value' htells htells'
      · exact absurd htells (hline' value)
    · obtain htells' | ⟨-, h'⟩ := lastTold_concat.1 h'
      · exact absurd htells' (hline value')
      · exact ih h h'

end

/-! ### What the lines of a session leave -/

/-- The line sets something, or takes settings back, or ends the session. -/
inductive Alters (line : String) : Prop
  | quits : Quits line → Alters line
  | clears : Clears line → Alters line
  | sets {setting : Setting} {argument : Option String} :
      LineSays line setting.word argument → Alters line

/-- The line tells which entity is meant. -/
def NamesEntity (line name : String) : Prop := LineSays line Setting.entity.word (some name)

/-- The line tells what a parameter is: it sets it, or it takes all parameters back. -/
def Tells (setting : Setting) (line : String) (value : Option String) : Prop :=
  LineSays line setting.word value ∨ Clears line ∧ value = none

namespace Session

/-- What is set. -/
def value (session : Session) : Setting → Option String
  | .entity => some session.entity
  | .filter => session.params.filter
  | .order => session.params.orderBy
  | .fields => session.params.fields
  | .exclude => session.params.excludeFields
  | .offset => session.params.offset
  | .limit => session.params.limit

/-- The session is what the lines leave of a new one: the last entity that was named, or else the
first of the schema, and for every parameter what was said last since all were taken back, or
nothing. -/
structure LeftBy (config : Config) (lines : List String) (session : Session) : Prop where
  entity : LastTold NamesEntity (config.schema.entityNames.head?.getD "") lines session.entity
  params : ∀ setting ≠ .entity, LastTold (Tells setting) none lines (session.value setting)

section

variable {session session' : Session} {setting setting' : Setting}
  {argument argument' : Option String}

theorem ext_of_value (h : ∀ setting, session.value setting = session'.value setting) :
    session = session' := by
  obtain ⟨entity, filter, orderBy, fields, excludeFields, offset, limit⟩ := session
  obtain ⟨entity', filter', orderBy', fields', excludeFields', offset', limit'⟩ := session'
  obtain rfl : entity = entity' := Option.some.inj (h .entity)
  obtain rfl : filter = filter' := h .filter
  obtain rfl : orderBy = orderBy' := h .order
  obtain rfl : fields = fields' := h .fields
  obtain rfl : excludeFields = excludeFields' := h .exclude
  obtain rfl : offset = offset' := h .offset
  obtain rfl : limit = limit' := h .limit
  rfl

theorem value_set (h : setting ≠ .entity) :
    (session.set setting argument).value setting = argument := by
  cases setting <;> first | rfl | exact absurd rfl h

theorem value_set_of_ne (h : setting' ≠ setting) :
    (session.set setting argument).value setting' = session.value setting' := by
  cases setting <;> cases setting' <;> first | rfl | exact absurd rfl h

theorem entity_set_of_ne (h : setting ≠ .entity) :
    (session.set setting argument).entity = session.entity :=
  Option.some.inj (value_set_of_ne h.symm)

theorem value_cleared (h : setting ≠ .entity) :
    Session.value { session with params := .empty } setting = none := by
  cases setting <;> first | rfl | exact absurd rfl h

theorem set_comm (h : setting ≠ setting') :
    (session.set setting argument).set setting' argument' =
      (session.set setting' argument').set setting argument := by
  cases setting <;> cases setting' <;> first | rfl | exact absurd rfl h

end

/-! ### Step by step -/

/-- What a line that does not end the session makes of it. -/
inductive Moves (session : Session) (line : String) : Session → Prop
  | clears : Clears line → Moves session line { session with params := .empty }
  | sets {setting : Setting} {argument : Option String} : LineSays line setting.word argument →
      Moves session line (session.set setting argument)
  | stays : ¬Alters line → Moves session line session

section

variable {config : Config} {session next : Session} {line : String} {own : List String}

theorem step_eq_none : session.step config (.ofLine line) = none ↔ Quits line := by
  rw [← ofLine_eq_quit]
  cases Command.ofLine line <;> simp [step]

theorem step_of_clears (h : Clears line) :
    session.step config (.ofLine line) = some ({ session with params := .empty }, []) := by
  rw [ofLine_eq_clear.2 h, step]

theorem step_of_sets {setting : Setting} {argument : Option String}
    (h : LineSays line setting.word argument) :
    session.step config (.ofLine line) = some (session.set setting argument, []) := by
  rw [ofLine_eq_set.2 h, step]

theorem step_of_runs {argument : Option String} (h : LineSays line "run" argument) :
    session.step config (.ofLine line) = some (session, session.runLines config) := by
  rw [h.ofLine_eq]
  rfl

/-- A line that alters nothing prints something at most. -/
theorem step_of_not_alters (h : ¬Alters line) :
    ∃ own, session.step config (.ofLine line) = some (session, own) := by
  cases hcommand : Command.ofLine line with
  | quit => exact absurd (.quits (ofLine_eq_quit.1 hcommand)) h
  | clear => exact absurd (.clears (ofLine_eq_clear.1 hcommand)) h
  | set setting argument => exact absurd (.sets (ofLine_eq_set.1 hcommand)) h
  | blank | help | showParams | run | unknown => exact ⟨_, rfl⟩

theorem moves_of_step (h : session.step config (.ofLine line) = some (next, own)) :
    session.Moves line next := by
  by_cases halters : Alters line
  · cases halters with
    | quits hquits =>
      rw [step_eq_none.2 hquits] at h
      cases h
    | clears hclears =>
      rw [step_of_clears hclears] at h
      cases h
      exact .clears hclears
    | sets hsets =>
      rw [step_of_sets hsets] at h
      cases h
      exact .sets hsets
  · have hstays : ∃ own, session.step config (.ofLine line) = some (session, own) :=
      step_of_not_alters halters
    obtain ⟨own', hstays⟩ := hstays
    rw [hstays] at h
    cases h
    exact .stays halters

/-- A line names the entity of the session that it leads to, or names none and leaves it. -/
theorem Moves.entity (h : session.Moves line next) :
    NamesEntity line next.entity ∨
      (∀ name, ¬NamesEntity line name) ∧ next.entity = session.entity := by
  cases h with
  | clears hclears => exact .inr ⟨fun name => hclears.not_says, rfl⟩
  | @sets setting argument hsets =>
    by_cases hentity : setting = .entity
    · subst hentity
      cases argument with
      | none =>
        refine .inr ⟨fun name hnames => ?_, rfl⟩
        cases (hsets.setting_unique hnames).2
      | some name => exact .inl hsets
    · have hnames : ∀ name, ¬NamesEntity line name := fun name hnames =>
        hentity (hsets.setting_unique hnames).1
      exact .inr ⟨hnames, entity_set_of_ne hentity⟩
  | stays halters => exact .inr ⟨fun name hnames => halters (.sets hnames), rfl⟩

/-- A line tells a parameter of the session that it leads to, or tells nothing and leaves it. -/
theorem Moves.value {setting : Setting} (hsetting : setting ≠ .entity)
    (h : session.Moves line next) :
    Tells setting line (next.value setting) ∨
      (∀ value, ¬Tells setting line value) ∧ next.value setting = session.value setting := by
  cases h with
  | clears hclears => exact .inl (.inr ⟨hclears, value_cleared hsetting⟩)
  | @sets other argument hsets =>
    by_cases hother : setting = other
    · subst hother
      rw [value_set hsetting]
      exact .inl (.inl hsets)
    · refine .inr ⟨?_, value_set_of_ne hother⟩
      rintro value (htells | ⟨hclears, -⟩)
      · exact hother (htells.setting_unique hsets).1
      · exact hclears.not_says hsets
  | stays halters =>
    refine .inr ⟨?_, rfl⟩
    rintro value (htells | ⟨hclears, -⟩)
    · exact halters (.sets htells)
    · exact halters (.clears hclears)

end

/-! ### Line after line -/

/-- The session after a line that does not end it. -/
def next? (config : Config) (session : Session) (line : String) : Option Session :=
  (session.step config (.ofLine line)).map Prod.fst

/-- The session after these lines, if none of them ends it. -/
def after? (config : Config) (session : Session) (lines : List String) : Option Session :=
  lines.foldlM (next? config) session

section

variable {config : Config} {session last : Session} {lines : List String} {line : String}

theorem next?_eq_some : session.next? config line = some last ↔
    ∃ own, session.step config (.ofLine line) = some (last, own) := by
  simp [next?]

theorem after?_cons : session.after? config (line :: lines) =
    (next? config session line).bind (·.after? config lines) := by
  simp [after?]

theorem after?_concat : session.after? config (lines ++ [line]) =
    (session.after? config lines).bind (next? config · line) := by
  simp [after?, List.foldlM_append]

/-- The last line of a session moves what those before it lead to. -/
theorem moves_of_after?_concat (h : session.after? config (lines ++ [line]) = some last) :
    ∃ middle, session.after? config lines = some middle ∧ middle.Moves line last := by
  rw [after?_concat, Option.bind_eq_some_iff] at h
  obtain ⟨middle, hmiddle, hnext⟩ := h
  obtain ⟨own, hstep⟩ := next?_eq_some.1 hnext
  exact ⟨middle, hmiddle, moves_of_step hstep⟩

/-- What every line tells or leaves, all lines together tell last. -/
theorem lastTold_after? {α : Type} {tells : String → α → Prop} {get : Session → α}
    (hmoves : ∀ {session next line}, Moves session line next →
      tells line (get next) ∨ (∀ other, ¬tells line other) ∧ get next = get session)
    (h : session.after? config lines = some last) :
    LastTold tells (get session) lines (get last) := by
  induction lines using List.reverseRecOn generalizing last with
  | nil =>
    obtain rfl : session = last := Option.some.inj h
    exact lastTold_nil.2 rfl
  | append_singleton lines line ih =>
    obtain ⟨middle, hmiddle, hmove⟩ := moves_of_after?_concat h
    obtain htells | ⟨hsilent, hsame⟩ := hmoves hmove
    · exact lastTold_concat.2 (.inl htells)
    · rw [hsame]
      exact lastTold_concat.2 (.inr ⟨hsilent, ih hmiddle⟩)

/-- **What a session has come to is what its lines leave.** -/
theorem leftBy_of_after? (h : (initial config).after? config lines = some last) :
    LeftBy config lines last where
  entity := lastTold_after? Moves.entity h
  params setting hsetting := by
    have hfirst : (initial config).value setting = none :=
      @value_cleared (initial config) setting hsetting
    rw [← hfirst]
    exact lastTold_after? (Moves.value hsetting) h

/-- Lines leave one session only. -/
theorem LeftBy.unique {other : Session} (h : LeftBy config lines last)
    (h' : LeftBy config lines other) : last = other := by
  apply ext_of_value
  intro setting
  by_cases hsetting : setting = .entity
  · subst hsetting
    have hone : ∀ line name name', NamesEntity line name → NamesEntity line name' → name = name' :=
      fun line name name' hname hname' => Option.some.inj (hname.setting_unique hname').2
    exact congrArg some (LastTold.unique hone h.entity h'.entity)
  · refine LastTold.unique ?_ (h.params setting hsetting) (h'.params setting hsetting)
    rintro line value value' (htells | ⟨hclears, rfl⟩) (htells' | ⟨hclears', rfl⟩)
    · exact (htells.setting_unique htells').2
    · exact absurd htells hclears'.not_says
    · exact absurd htells' hclears.not_says
    · rfl

/-- A session goes on as long as no line ends it. -/
theorem exists_after? (h : ∀ line ∈ lines, ¬Quits line) (session : Session) :
    ∃ last, session.after? config lines = some last := by
  induction lines using List.reverseRecOn with
  | nil => exact ⟨session, rfl⟩
  | append_singleton lines line ih =>
    obtain ⟨hlines, hline⟩ := List.forall_mem_append.1 h
    obtain ⟨last, hlast⟩ := ih hlines
    have hstep : last.step config (.ofLine line) ≠ none :=
      mt step_eq_none.1 (hline line (List.mem_singleton_self line))
    obtain ⟨⟨next, own⟩, hstep⟩ := Option.ne_none_iff_exists'.1 hstep
    refine ⟨next, ?_⟩
    rw [after?_concat, hlast]
    exact next?_eq_some.2 ⟨own, hstep⟩

end

end Session

/-! ### How a statement is shown -/

/-- The line for a value that is bound, with the number of its placeholder. It tells the type of the
value and its content, a text in quotes. -/
inductive BoundLine : Value × Nat → String → Prop
  | text {content : String} {n : Nat} : BoundLine (.text content, n)
      ("  $" ++ toString n ++ " = " ++ ("String(Some(" ++ Text.quoted content ++ "))"))
  | number {x : Binary64} {n : Nat} : BoundLine (.number x, n)
      ("  $" ++ toString n ++ " = " ++ ("Double(Some(" ++ NumberLayout.listing.write x ++ "))"))
  | count {rows : UInt64} {n : Nat} : BoundLine (.count rows, n)
      ("  $" ++ toString n ++ " = " ++ ("BigUnsigned(Some(" ++ toString rows.toNat ++ "))"))

/-- The lines for the associations that are preloaded; there are none if no association is. -/
inductive PreloadLines : List String → List String → Prop
  | nothing : PreloadLines [] []
  | listed {preloads : List String} : preloads ≠ [] →
      PreloadLines preloads ["", "[预加载关联]: " ++ ", ".intercalate preloads]

section

variable {lines : List String}

theorem boundLine_iff {value : Value} {n : Nat} {line : String} :
    BoundLine (value, n) line ↔ line = "  $" ++ toString n ++ " = " ++ value.listing := by
  constructor
  · intro h
    cases h <;> rfl
  · rintro rfl
    cases value with
    | text => exact .text
    | number => exact .number
    | count => exact .count

/-- The values are listed one by one, from any first number on. -/
theorem forall₂_boundLine_iff {first : Nat} {values : List Value} :
    List.Forall₂ BoundLine (values.zipIdx first) lines ↔
      lines = Session.valueLines first values := by
  induction values generalizing first lines with
  | nil => rw [List.zipIdx_nil, List.forall₂_nil_left_iff, Session.valueLines]
  | cons value values ih =>
    rw [List.zipIdx_cons, List.forall₂_cons_left_iff, Session.valueLines]
    constructor
    · rintro ⟨line, lines, hline, hlines, rfl⟩
      rw [boundLine_iff.1 hline, ih.1 hlines]
    · rintro rfl
      exact ⟨_, _, boundLine_iff.2 rfl, ih.2 rfl, rfl⟩

theorem preloadLines_iff {preloads : List String} :
    PreloadLines preloads lines ↔ lines =
      if preloads.isEmpty then [] else ["", "[预加载关联]: " ++ ", ".intercalate preloads] := by
  constructor
  · intro h
    cases h with
    | nothing => rfl
    | listed hne => rw [if_neg (mt List.isEmpty_iff.1 hne)]
  · rintro rfl
    cases preloads with
    | nil => exact .nothing
    | cons preload preloads => exact .listed (List.cons_ne_nil _ _)

end

namespace Session

/-! ### What is printed -/

/-- What a session answers if it is run: that there is no such entity, why the request cannot be
compiled, or the text of the statement that it is compiled to, and under it the values that are
bound, numbered from one on, and what is preloaded. -/
inductive Answers (config : Config) (session : Session) : List String → Prop
  | unlisted : config.schema.catalog.entity? session.entity = none →
      Answers config session ["✗ 未知实体: " ++ session.entity]
  | refused {entity : Entity} {e : CompileError} :
      config.schema.catalog.entity? session.entity = some entity →
      applyRequest config.schema.catalog config.defaultLimit session.entity
        session.params.request (Select.ofTable entity.table) = .error e →
      Answers config session ["✗ 编译失败: " ++ e.message]
  | compiled {entity : Entity} {select : Select} {bound preloaded : List String} :
      config.schema.catalog.entity? session.entity = some entity →
      applyRequest config.schema.catalog config.defaultLimit session.entity
        session.params.request (Select.ofTable entity.table) = .ok select →
      List.Forall₂ BoundLine (select.values.zipIdx 1) bound →
      PreloadLines select.preloads preloaded →
      Answers config session
        (["", "[生成的 SQL]:", select.sql, "", "[绑定参数]:"] ++ bound ++ preloaded)

section

variable {config : Config} {session next : Session} {before after : List String} {line : String}
  {own : List String}

theorem answers_runLines (config : Config) (session : Session) :
    session.Answers config (session.runLines config) := by
  unfold runLines
  cases hentity : config.schema.catalog.entity? session.entity with
  | none => exact .unlisted hentity
  | some entity =>
    cases hcompiled : applyRequest config.schema.catalog config.defaultLimit session.entity
        session.params.request (Select.ofTable entity.table) with
    | error e =>
      simp only [hcompiled]
      exact .refused hentity hcompiled
    | ok select =>
      simp only [hcompiled]
      exact .compiled hentity hcompiled (forall₂_boundLine_iff.2 rfl) (preloadLines_iff.2 rfl)

/-- **A session has one answer**, the lines that `run` prints. -/
theorem answers_iff {answer : List String} :
    session.Answers config answer ↔ answer = session.runLines config := by
  constructor
  · intro h
    cases h with
    | unlisted hentity => simp only [runLines, hentity]
    | refused hentity hrefused => simp only [runLines, hentity, hrefused]
    | compiled hentity hcompiled hbound hpreloaded =>
      simp only [runLines, hentity, hcompiled]
      rw [forall₂_boundLine_iff.1 hbound, preloadLines_iff.1 hpreloaded, selectLines]
  · rintro rfl
    exact answers_runLines config session

theorem transcript_of_step (h : session.step config (.ofLine line) = some (next, own))
    (after : List String) : session.transcript config (line :: after) =
      own ++ next.transcript config after := by
  rw [transcript, h]

theorem transcript_of_quits (h : Quits line) (after : List String) :
    session.transcript config (line :: after) = [] := by
  rw [transcript, step_eq_none.2 h]

/-- What follows is printed as in the session that what comes before leads to. -/
theorem transcript_append : session.transcript config (before ++ after) =
    session.transcript config before ++
      (session.after? config before).elim [] (·.transcript config after) := by
  induction before generalizing session with
  | nil => rfl
  | cons line before ih =>
    rw [List.cons_append]
    cases hstep : session.step config (.ofLine line) with
    | none =>
      have hquits : Quits line := step_eq_none.1 hstep
      rw [transcript_of_quits hquits, transcript_of_quits hquits, after?_cons, next?, hstep]
      rfl
    | some moved =>
      obtain ⟨next, own⟩ := moved
      rw [transcript_of_step hstep, transcript_of_step hstep, after?_cons,
        next?_eq_some.2 ⟨own, hstep⟩, ih, List.append_assoc]
      rfl

end

end Session

/-! ### The log -/

/-- What the lines of a new session print. -/
def Config.printed (config : Config) (lines : List String) : List String :=
  (Session.initial config).transcript config lines

/-- The line prints this of its own behind the lines before it, and the lines after it print what
they would print without it. -/
def PrintsOnly (config : Config) (before : List String) (line : String) (own : List String) :
    Prop :=
  ∀ after, ∃ later,
    config.printed (before ++ line :: after) = config.printed before ++ (own ++ later) ∧
      config.printed (before ++ after) = config.printed before ++ later

section

variable {config : Config} {session : Session} {before : List String} {line : String}

theorem printed_append (config : Config) (before after : List String) :
    config.printed (before ++ after) = config.printed before ++
      ((Session.initial config).after? config before).elim [] (·.transcript config after) :=
  Session.transcript_append

/-- A line that keeps the session prints only what is its own. -/
theorem printsOnly_of_step {own : List String}
    (hsession : (Session.initial config).after? config before = some session)
    (hstep : session.step config (.ofLine line) = some (session, own)) :
    PrintsOnly config before line own := by
  intro after
  refine ⟨session.transcript config after, ?_, ?_⟩
  · rw [printed_append, hsession, ← Session.transcript_of_step hstep]
    rfl
  · rw [printed_append, hsession]
    rfl

theorem exists_printsOnly (h : ¬Alters line) (before : List String) :
    ∃ own, PrintsOnly config before line own := by
  cases hsession : (Session.initial config).after? config before with
  | none =>
    -- The session has ended, so nothing is printed any more.
    refine ⟨[], fun after => ⟨[], ?_, ?_⟩⟩ <;> rw [printed_append, hsession] <;> rfl
  | some session =>
    obtain ⟨own, hstep⟩ : ∃ own, session.step config (.ofLine line) = some (session, own) :=
      Session.step_of_not_alters h
    exact ⟨own, printsOnly_of_step hsession hstep⟩

/-- Lines that print the same in every session can stand for each other at the end. -/
theorem printed_congr {lines lines' : List String}
    (h : ∀ session : Session, session.transcript config lines = session.transcript config lines') :
    config.printed (before ++ lines) = config.printed (before ++ lines') := by
  have hlines : (fun session : Session => session.transcript config lines) =
      fun session => session.transcript config lines' := funext h
  rw [printed_append, printed_append, hlines]

theorem transcript_sets_comm {first second : String} {setting setting' : Setting}
    {argument argument' : Option String} (hne : setting ≠ setting')
    (hfirst : LineSays first setting.word argument)
    (hsecond : LineSays second setting'.word argument') (after : List String) (session : Session) :
    session.transcript config (first :: second :: after) =
      session.transcript config (second :: first :: after) := by
  rw [Session.transcript_of_step (Session.step_of_sets hfirst),
    Session.transcript_of_step (Session.step_of_sets hsecond),
    Session.transcript_of_step (Session.step_of_sets hsecond),
    Session.transcript_of_step (Session.step_of_sets hfirst), Session.set_comm hne]

end

/-- Settings that name two entities and take a limit back in the end. -/
def someSettings : List String :=
  ["entity Owner", "limit 5", " entity Item", "filter owner.name == 'A \"é\"' and age > 1.5",
    "fields name,owner.name", "offset 3", "limit\u3000", "entity"]

end RequestSql
