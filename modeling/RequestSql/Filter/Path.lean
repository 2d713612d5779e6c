import RequestSql.Text.Letter
import RequestSql.Text.Blank

/-!
# Field paths

A field path names a field of the listed entity, or one reached from it through
associations: its segments are written with dots between them. Text between two dots is
a segment whatever it holds, so every text is a written path and the empty text is the
path of one empty segment.

Key definitions: `FieldPath`, `FieldPath.ofDotted`, `FieldPath.toDotted`,
`FieldPath.isName`.
-/

namespace RequestSql

/-- The segments of a path, the outermost first. -/
structure FieldPath where
  /-- Association names and at the end a field name. -/
  segments : List String
deriving DecidableEq, Repr

namespace FieldPath

/-- The path written with dots. -/
def ofDotted (text : String) : FieldPath := ⟨Text.pieces '.' text⟩

/-- The written form of a path. -/
def toDotted (path : FieldPath) : String := ".".intercalate path.segments

/-- Whether a text is a path of names: segments that are not empty and consist of word
characters. -/
def isName (text : String) : Bool :=
  (ofDotted text).segments.all fun segment =>
    segment != "" && segment.toList.all Text.isWordChar

end FieldPath

end RequestSql
