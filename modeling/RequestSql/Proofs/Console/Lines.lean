import RequestSql.Console.Session
import RequestSql.Proofs.Text.Blank

/-!
# What a line says

A line says a word and perhaps an argument: the word is its first run of characters that are no
blanks, and the argument is what stands behind it, without the blanks around. Every line says
something in exactly one way, unless it has nothing but blanks. What a line says is all that its
command depends on.

Key definitions: `LineSays`, `firstWord`, `argumentOf`, `Quits`, `Clears`, `Setting.word`.
Key theorems: `says_iff`, `LineSays.ofLine_eq`, `ofLine_eq_set`, `ofLine_eq_quit`,
`ofLine_eq_clear`.
-/

namespace RequestSql

open Text (Blanks IsWord Tight NotAhead)

/-! ### Words and arguments -/

/-- The line has this word behind the blanks that it begins with, and then this argument with
blanks around it, or nothing but blanks. -/
inductive LineSays (line word : String) : Option String → Prop
  | alone {lead trail : List Char} : Blanks lead → IsWord word.toList → Blanks trail →
      line.toList = lead ++ (word.toList ++ trail) → LineSays line word none
  | along {lead gap trail : List Char} {argument : String} : Blanks lead → IsWord word.toList →
      Blanks gap → gap ≠ [] → argument ≠ "" → Tight argument.toList → Blanks trail →
      line.toList = lead ++ (word.toList ++ (gap ++ (argument.toList ++ trail))) →
        LineSays line word (some argument)

/-- The characters of a line up to the first blank in it. -/
def firstWord (line : String) : String :=
  .ofList ((Text.trim line.toList).takeWhile (!Text.isBlank ·))

/-- The characters of a line behind its first word. -/
def behindWord (line : String) : List Char :=
  Text.trim ((Text.trim line.toList).dropWhile (!Text.isBlank ·))

/-- The argument behind the first word of a line, if there is one. -/
def argumentOf (line : String) : Option String :=
  if (behindWord line).isEmpty then none else some (.ofList (behindWord line))

section

variable {line word : String}

/-- A line begins with its first word, whatever follows. -/
theorem parts_of_eq {lead rest trail : List Char} (hlead : Blanks lead)
    (hword : IsWord word.toList) (hrest : NotAhead (!Text.isBlank ·) rest) (htrail : Blanks trail)
    (htight : Tight (word.toList ++ rest))
    (hline : line.toList = lead ++ (word.toList ++ (rest ++ trail))) :
    firstWord line = word ∧ behindWord line = Text.trim rest := by
  have htrim : Text.trim line.toList = word.toList ++ rest :=
    Text.trim_eq_iff.2 ⟨htight, lead, trail, hlead, htrail, by rw [hline, List.append_assoc]⟩
  have hletters : ∀ c ∈ word.toList, (!Text.isBlank c) = true := fun c hc => by
    rw [hword.isBlank_eq_false c hc, Bool.not_false]
  rw [firstWord, behindWord, htrim, hrest.takeWhile_append hletters,
    hrest.dropWhile_append hletters, String.ofList_toList]
  exact ⟨rfl, rfl⟩

/-- **What a line says is read off it**: its first word, and the argument behind it. -/
theorem LineSays.eq {argument : Option String} (h : LineSays line word argument) :
    firstWord line = word ∧ argumentOf line = argument := by
  cases h with
  | alone hlead hword htrail hline =>
    have hnone : NotAhead (!Text.isBlank ·) [] := .nil
    have htight : Tight (word.toList ++ []) := by
      rw [List.append_nil]
      exact hword.tight
    obtain ⟨hfirst, hbehind⟩ := parts_of_eq hlead hword hnone htrail htight hline
    refine ⟨hfirst, ?_⟩
    rw [argumentOf, hbehind]
    rfl
  | @along lead gap trail argument hlead hword hgap hne hargument htight htrail hline =>
    have hargument : argument.toList ≠ [] := mt String.toList_eq_nil_iff.1 hargument
    have hrest : NotAhead (!Text.isBlank ·) (gap ++ argument.toList) :=
      hgap.notAhead.append hne _
    have hends : Tight (word.toList ++ (gap ++ argument.toList)) :=
      hword.tight.append htight hword.ne_nil hargument gap
    have htrim : Text.trim (gap ++ argument.toList) = argument.toList :=
      Text.trim_eq_iff.2 ⟨htight, gap, [], hgap, .nil, by rw [List.append_nil]⟩
    obtain ⟨hfirst, hbehind⟩ := parts_of_eq hlead hword hrest htrail hends
      (by rw [hline, List.append_assoc])
    refine ⟨hfirst, ?_⟩
    rw [argumentOf, hbehind, htrim, if_neg (mt List.isEmpty_iff.1 hargument),
      String.ofList_toList]

/-- What begins with a blank and has more than blanks has a gap in front of the rest. -/
theorem exists_gap {rest : List Char} (h : NotAhead (!Text.isBlank ·) rest)
    (hne : Text.trim rest ≠ []) :
    ∃ gap tail, Blanks gap ∧ gap ≠ [] ∧ Blanks tail ∧ rest = gap ++ (Text.trim rest ++ tail) := by
  obtain ⟨tail, htail, hrest⟩ := Text.exists_trim rest
  refine ⟨_, tail, .takeWhile rest, fun hgap => ?_, htail, hrest⟩
  rw [hgap, List.nil_append] at hrest
  have hahead : NotAhead Text.isBlank rest := by
    rw [hrest]
    exact (Text.tight_trim rest).ahead.append hne tail
  -- The first character would be a blank and no blank.
  cases rest with
  | nil => exact hne rfl
  | cons c rest =>
    have hblank : (!Text.isBlank c) = false := h c rfl
    rw [hahead c rfl] at hblank
    cases hblank

/-- **Every line says something**, unless it is blank. -/
theorem says_firstWord (h : ¬Blanks line.toList) :
    LineSays line (firstWord line) (argumentOf line) := by
  obtain ⟨trail, htrail, hline⟩ := Text.exists_trim line.toList
  have hlead : Blanks (line.toList.takeWhile Text.isBlank) := .takeWhile _
  have hahead : NotAhead Text.isBlank (Text.trim line.toList) := (Text.tight_trim _).ahead
  have hword : IsWord (firstWord line).toList := by
    rw [firstWord, String.toList_ofList]
    exact Text.isWord_takeWhile hahead (mt Text.trim_eq_nil.1 h)
  obtain ⟨rest, hrest, hcore, hbehind⟩ : ∃ rest, NotAhead (!Text.isBlank ·) rest ∧
      Text.trim line.toList = (firstWord line).toList ++ rest ∧
        behindWord line = Text.trim rest := by
    refine ⟨(Text.trim line.toList).dropWhile (!Text.isBlank ·), .dropWhile _ _, ?_, rfl⟩
    rw [firstWord, String.toList_ofList, List.takeWhile_append_dropWhile]
  rw [hcore, List.append_assoc] at hline
  rw [argumentOf, hbehind]
  by_cases hnone : Text.trim rest = []
  · rw [hnone]
    exact .alone hlead hword (Blanks.append.2 ⟨Text.trim_eq_nil.1 hnone, htrail⟩) hline
  · obtain ⟨gap, tail, hgap, hne, htail, hsplit⟩ := exists_gap hrest hnone
    rw [hsplit, List.append_assoc, List.append_assoc] at hline
    rw [if_neg (mt List.isEmpty_iff.1 hnone)]
    refine .along hlead hword hgap hne ?_ ?_ (Blanks.append.2 ⟨htail, htrail⟩) ?_
    · exact fun hargument => hnone (String.ofList_eq_empty_iff.1 hargument)
    · rw [String.toList_ofList]
      exact Text.tight_trim rest
    · rw [String.toList_ofList]
      exact hline

theorem LineSays.not_blanks {argument : Option String} (h : LineSays line word argument) :
    ¬Blanks line.toList := by
  have hword : IsWord word.toList → ¬Blanks word.toList := fun hword hblanks =>
    hword.ne_nil (by rw [← hword.tight.trim_eq, Text.trim_eq_nil.2 hblanks])
  cases h with
  | alone _ h _ hline =>
    rw [hline]
    exact fun hblanks => hword h (Blanks.append.1 (Blanks.append.1 hblanks).2).1
  | along _ h _ _ _ _ _ hline =>
    rw [hline]
    exact fun hblanks => hword h (Blanks.append.1 (Blanks.append.1 hblanks).2).1

/-- **What a line says**: its first word and the argument behind it, and nothing if it is blank. -/
theorem says_iff {argument : Option String} :
    LineSays line word argument ↔
      ¬Blanks line.toList ∧ firstWord line = word ∧ argumentOf line = argument := by
  constructor
  · exact fun h => ⟨h.not_blanks, h.eq⟩
  · rintro ⟨hblanks, rfl, rfl⟩
    exact says_firstWord hblanks

end

instance (line word : String) (argument : Option String) :
    Decidable (LineSays line word argument) :=
  decidable_of_iff' _ says_iff

/-! ### The commands of lines -/

/-- The line ends the session. -/
def Quits (line : String) : Prop :=
  ∃ argument, LineSays line "quit" argument ∨ LineSays line "exit" argument

/-- The line takes all parameters back. -/
def Clears (line : String) : Prop := ∃ argument, LineSays line "clear" argument

/-- The word of the lines that are for a setting. -/
def Setting.word : Setting → String
  | entity => "entity"
  | filter => "filter"
  | order => "order"
  | fields => "fields"
  | exclude => "exclude"
  | offset => "offset"
  | limit => "limit"

section

variable {line word : String} {argument : Option String} {setting : Setting}

theorem ofWord_eq_set {given : Option String} :
    Command.ofWord word argument = .set setting given ↔ word = setting.word ∧ argument = given := by
  constructor
  · intro h
    unfold Command.ofWord at h
    split at h <;> cases h <;> exact ⟨rfl, rfl⟩
  · rintro ⟨rfl, rfl⟩
    cases setting <;> rfl

theorem ofWord_eq_quit : Command.ofWord word argument = .quit ↔ word = "quit" ∨ word = "exit" := by
  constructor
  · intro h
    unfold Command.ofWord at h
    split at h <;> cases h
    · exact .inl rfl
    · exact .inr rfl
  · rintro (rfl | rfl) <;> rfl

theorem ofWord_eq_clear : Command.ofWord word argument = .clear ↔ word = "clear" := by
  constructor
  · intro h
    unfold Command.ofWord at h
    split at h <;> cases h
    rfl
  · rintro rfl
    rfl

theorem ofLine_of_blanks (h : Blanks line.toList) : Command.ofLine line = .blank := by
  simp only [Command.ofLine, Text.trim_eq_nil.2 h, List.isEmpty_nil, if_true]

/-- **A command depends on nothing but what its line says.** -/
theorem LineSays.ofLine_eq (h : LineSays line word argument) :
    Command.ofLine line = Command.ofWord word argument := by
  have hne : ¬(Text.trim line.toList).isEmpty = true :=
    mt (fun hnone => Text.trim_eq_nil.1 (List.isEmpty_iff.1 hnone)) h.not_blanks
  obtain ⟨rfl, rfl⟩ := h.eq
  exact if_neg hne

/-- Every command but none at all is what a line with its word and argument says. -/
theorem ofLine_eq_iff {command : Command} (hcommand : command ≠ .blank) :
    Command.ofLine line = command ↔
      ∃ word argument, LineSays line word argument ∧ Command.ofWord word argument = command := by
  constructor
  · intro h
    have hblanks : ¬Blanks line.toList := fun hblanks =>
      hcommand (h.symm.trans (ofLine_of_blanks hblanks))
    exact ⟨_, _, says_firstWord hblanks, (says_firstWord hblanks).ofLine_eq.symm.trans h⟩
  · rintro ⟨word, argument, hsays, rfl⟩
    exact hsays.ofLine_eq

theorem ofLine_eq_set :
    Command.ofLine line = .set setting argument ↔ LineSays line setting.word argument := by
  simp [ofLine_eq_iff, ofWord_eq_set]

theorem ofLine_eq_quit : Command.ofLine line = .quit ↔ Quits line := by
  simp [ofLine_eq_iff, ofWord_eq_quit, Quits, and_or_left, exists_or]

theorem ofLine_eq_clear : Command.ofLine line = .clear ↔ Clears line := by
  simp [ofLine_eq_iff, ofWord_eq_clear, Clears]

/-- A line is for one setting only. -/
theorem LineSays.setting_unique {setting' : Setting} {argument' : Option String}
    (h : LineSays line setting.word argument) (h' : LineSays line setting'.word argument') :
    setting = setting' ∧ argument = argument' :=
  Command.set.inj ((ofLine_eq_set.2 h).symm.trans (ofLine_eq_set.2 h'))

theorem Clears.not_says (h : Clears line) : ¬LineSays line setting.word argument := fun hsays => by
  have hset : Command.ofLine line = .set setting argument := ofLine_eq_set.2 hsays
  rw [ofLine_eq_clear.2 h] at hset
  cases hset

end

instance (line : String) : Decidable (Quits line) := decidable_of_iff _ ofLine_eq_quit

instance (line : String) : Decidable (Clears line) := decidable_of_iff _ ofLine_eq_clear

end RequestSql
