import RequestSql.Filter.Path
import RequestSql.Proofs.Text.Blank

/-!
# Paths written with dots

A text is cut at its dots, and a path is put together with dots. Cutting loses nothing, for the
segments of a text make up the text again. Putting together loses where the segments end if there
are dots in them, for each segment is then cut by itself; and a path without segments is written
like the path of one empty segment. Every other path is told from its written form.

Where a path has segments and is not told from its written form, the two part at the first segment
with a dot in it: the written form goes on with a part of this segment only.

Key definition: `FieldPath.Recoverable`.
Key theorems: `FieldPath.toDotted_ofDotted`, `FieldPath.length_segments_ofDotted`,
`FieldPath.segments_ofDotted_toDotted`, `FieldPath.ofDotted_toDotted_iff`,
`FieldPath.exists_first_cut`.
-/

namespace RequestSql.FieldPath

/-- A path that is told from its written form: it has segments and these have no dots. -/
structure Recoverable (path : FieldPath) : Prop where
  segments_ne_nil : path.segments ≠ []
  dot_not_mem : ∀ segment ∈ path.segments, '.' ∉ segment.toList

/-! ### Cutting -/

/-- The path of a text is written like the text. -/
theorem toDotted_ofDotted (text : String) : (ofDotted text).toDotted = text :=
  Text.intercalate_pieces rfl text

theorem recoverable_ofDotted (text : String) : (ofDotted text).Recoverable where
  segments_ne_nil := Text.pieces_ne_nil '.' text
  dot_not_mem _ hsegment := Text.not_mem_of_mem_pieces hsegment

/-- The segments of a text are one more than its dots. -/
theorem length_segments_ofDotted (text : String) :
    (ofDotted text).segments.length = text.toList.count '.' + 1 :=
  Text.length_pieces '.' text

theorem segments_ofDotted_of_not_mem {text : String} (h : '.' ∉ text.toList) :
    (ofDotted text).segments = [text] :=
  Text.pieces_of_not_mem h

/-- A text with a dot has two segments at least, and the first of them is not the text. -/
theorem exists_segments_of_mem {text : String} (h : '.' ∈ text.toList) :
    ∃ first next others, (ofDotted text).segments = first :: next :: others ∧ first ≠ text := by
  have hlength := length_segments_ofDotted text
  have hdots := List.count_pos_iff.2 h
  match hsegments : (ofDotted text).segments with
  | [] => rw [hsegments, List.length_nil] at hlength; omega
  | [_] => rw [hsegments, List.length_singleton] at hlength; omega
  | first :: next :: others =>
    refine ⟨first, next, others, rfl, ?_⟩
    rintro rfl
    exact (recoverable_ofDotted first).dot_not_mem first (hsegments ▸ List.mem_cons_self ..) h

/-! ### Putting together -/

section

variable {path : FieldPath}

/-- Of a written path each segment is cut by itself. -/
theorem segments_ofDotted_toDotted (hne : path.segments ≠ []) :
    (ofDotted path.toDotted).segments =
      path.segments.flatMap fun segment => (ofDotted segment).segments :=
  Text.pieces_intercalate_eq_flatMap rfl hne

theorem Recoverable.ofDotted_toDotted (h : path.Recoverable) : ofDotted path.toDotted = path := by
  rw [toDotted, ofDotted, Text.pieces_intercalate rfl h.segments_ne_nil h.dot_not_mem]

/-- **A path is read back from its written form** if and only if it has segments and these have no
dots. -/
theorem ofDotted_toDotted_iff : ofDotted path.toDotted = path ↔ path.Recoverable :=
  ⟨fun h => h ▸ recoverable_ofDotted path.toDotted, Recoverable.ofDotted_toDotted⟩

/-- A path that has segments and is not recoverable has a first segment with a dot in it. Up to
this one its written form has the same segments, and then it goes on with another one, which is not
its last. -/
theorem exists_first_cut (hne : path.segments ≠ []) (h : ¬path.Recoverable) :
    ∃ before segment after part hops field, path.segments = before ++ segment :: after ∧
      part ≠ segment ∧
        (ofDotted path.toDotted).segments = before ++ part :: hops ++ [field] := by
  obtain ⟨segment, hfirst⟩ : ∃ segment,
      path.segments.find? (fun segment => segment.toList.contains '.') = some segment := by
    refine Option.ne_none_iff_exists'.1 fun hnone => h ⟨hne, fun segment hsegment hmem => ?_⟩
    exact List.find?_eq_none.1 hnone segment hsegment (List.contains_iff_mem.2 hmem)
  obtain ⟨hdot, before, after, hsegments, hbefore⟩ := List.find?_eq_some_iff_append.1 hfirst
  have hfront : before.flatMap (Text.pieces '.') = before := by
    refine Text.flatMap_pieces fun passed hpassed hmem => ?_
    simpa [hmem] using hbefore passed hpassed
  obtain ⟨part, next, others, hparts, hpart⟩ :=
    exists_segments_of_mem (List.contains_iff_mem.1 hdot)
  obtain ⟨hops, field, hbehind⟩ : ∃ hops field,
      next :: others ++ after.flatMap (Text.pieces '.') = hops ++ [field] :=
    ⟨_, _, (List.dropLast_append_getLast (List.cons_ne_nil _ _)).symm⟩
  refine ⟨before, segment, after, part, hops, field, hsegments, hpart, ?_⟩
  calc (ofDotted path.toDotted).segments
      = path.segments.flatMap (Text.pieces '.') := segments_ofDotted_toDotted hne
    _ = before ++ ((ofDotted segment).segments ++ after.flatMap (Text.pieces '.')) := by
        rw [hsegments, List.flatMap_append, List.flatMap_cons, hfront]
        rfl
    _ = before ++ part :: (hops ++ [field]) := by rw [hparts, List.cons_append, hbehind]
    _ = before ++ part :: hops ++ [field] := by rw [List.append_assoc, List.cons_append]

end

end RequestSql.FieldPath
