import RequestSql.Proofs.Filter.Path
import RequestSql.Proofs.Plan.Routes

/-!
# Where written paths lead

A path that is told from its written form leads to the same whether it is written or not. All
others lead elsewhere in some scope once they are written, so nothing weaker will do.

A path without segments is refused everywhere, but once it is written it may be a field without a
name. The other paths are told apart from what is read of them in a catalog with a single trail
through it, along the segments in front of the first one with a dot in it. Both paths follow the
trail to its end, where nothing leads on. There the written one breaks off at a part of that
segment; and if the path itself breaks off, or lacks a field, it is the whole segment that is told.

Key definition: `Catalog.trail`.
Key theorems: `Catalog.exists_route_trail`, `Scope.exists_resolve_ne`,
`paths_split_and_join_without_loss`.
-/

namespace RequestSql

/-! ### A single trail -/

/-- The catalog in which these associations can be followed, one after the other, and no others.
An entity is known by how many have been followed up to it, which is the length of its name. Each
has a field without a name. -/
def Catalog.trail (hops : List String) : Catalog where
  entity? name := some {
    table := ""
    fields := .ofList [("", "")]
    associations := match hops.drop name.length with
      | [] => .empty
      | hop :: _ => .ofList [(hop, ⟨name.push 'x', [], []⟩)] }

/-- What is left of a trail can be followed, and nothing leads on from its end. -/
theorem Catalog.exists_route_trail (hops : List String) :
    ∀ (left : List String) (name : String), hops.drop name.length = left →
      ∃ last reached, (trail hops).Route name left last reached ∧
        ∀ other, reached.associations.get? other = none
  | [], name, hleft => by
    refine ⟨name, _, .here rfl, fun other => ?_⟩
    simp only [hleft]
    rfl
  | hop :: left, name, hleft => by
    have hnext : hops.drop (name.push 'x').length = left := by
      rw [String.length_push, ← List.tail_drop, hleft, List.tail_cons]
    obtain ⟨last, reached, hroute, hend⟩ := exists_route_trail hops left _ hnext
    have hhop : ((trail hops).entity? name).bind (·.associations.get? hop) =
        some ⟨name.push 'x', [], []⟩ := by
      simp [trail, hleft, NameMap.get?, NameMap.ofList, NameMap.insert, NameMap.insertInto,
        NameMap.empty]
    exact ⟨last, reached, .hop rfl hhop hroute, hend⟩

/-! ### Resolving at the end of a route -/

namespace Scope

section

variable {scope : Scope} (hlisted : scope.Listed)

include hlisted

/-- Where a path breaks off is told whatever its last segment is. -/
theorem resolve_of_breaksOff {hops : List String} {last missing : String}
    (h : scope.catalog.BreaksOff scope.entityName hops last missing) (field : String) :
    scope.resolve ⟨hops ++ [field]⟩ = .error (.unknownField last missing) := by
  rw [resolve_concat, follow_of_breaksOff hlisted h]

/-- Behind a route nothing can be missing but the last segment. -/
theorem missing_eq_of_route {hops : List String} {last field name missing : String}
    {reached : Entity} (hroute : scope.catalog.Route scope.entityName hops last reached)
    (h : scope.resolve ⟨hops ++ [field]⟩ = .error (.unknownField name missing)) :
    missing = field := by
  rw [resolve_concat, follow_of_route hlisted hroute] at h
  simp only at h
  split at h
  · cases h
  · split at h
    · next e hcolumn =>
      obtain ⟨-, rfl⟩ := columnOf_eq_error.1 hcolumn
      exact (CompileError.unknownField.inj (Except.error.inj h)).2.symm
    · cases h

/-- At the end of a route from which nothing leads on, two paths are told apart if one of them
goes on with a segment that is not its last, and the other one with another segment. -/
theorem resolve_ne_of_route {before : List String} {last : String} {reached : Entity}
    (hroute : scope.catalog.Route scope.entityName before last reached)
    (hend : ∀ other, reached.associations.get? other = none) {part segment field : String}
    (hne : part ≠ segment) (hops after : List String) :
    scope.resolve ⟨before ++ part :: hops ++ [field]⟩ ≠
      scope.resolve ⟨before ++ segment :: after⟩ := by
  have hcut : ∀ missing behind,
      scope.catalog.BreaksOff scope.entityName (before ++ missing :: behind) last missing :=
    fun missing behind => ⟨before, behind, reached, rfl, hroute, hend missing⟩
  rw [resolve_of_breaksOff hlisted (hcut part hops) field]
  intro heq
  apply hne
  rcases List.eq_nil_or_concat after with rfl | ⟨front, other, rfl⟩
  · exact missing_eq_of_route hlisted hroute heq.symm
  · have hother := resolve_of_breaksOff hlisted (hcut segment front) other
    rw [List.append_assoc, List.cons_append] at hother
    rw [List.concat_eq_append, hother] at heq
    exact (CompileError.unknownField.inj (Except.error.inj heq)).2

end

/-- **A path that is not recoverable leads elsewhere once it is written**, in some scope. -/
theorem exists_resolve_ne {path : FieldPath} (h : ¬path.Recoverable) :
    ∃ scope : Scope, scope.Listed ∧ scope.resolveDotted path.toDotted ≠ scope.resolve path := by
  by_cases hne : path.segments = []
  · obtain ⟨segments⟩ := path
    obtain rfl : segments = [] := hne
    exact ⟨⟨.trail [], "", ((Catalog.trail []).entity? "").get rfl⟩, rfl, by decide⟩
  · obtain ⟨before, segment, after, part, hops, field, hsegments, hpart, hwritten⟩ :=
      FieldPath.exists_first_cut hne h
    obtain ⟨last, reached, hroute, hend⟩ :=
      Catalog.exists_route_trail before before "" rfl
    obtain ⟨entity, hentity⟩ := hroute.exists_start
    have hlisted : Scope.Listed ⟨.trail before, "", entity⟩ := hentity
    refine ⟨_, hlisted, ?_⟩
    have hread : FieldPath.ofDotted path.toDotted = ⟨before ++ part :: hops ++ [field]⟩ :=
      congrArg FieldPath.mk hwritten
    have hpath : path = ⟨before ++ segment :: after⟩ := congrArg FieldPath.mk hsegments
    rw [resolveDotted, hread, hpath]
    exact resolve_ne_of_route hlisted hroute hend hpart hops after

end Scope

/-! ### The main result -/

/-- **Paths are split and joined without loss.** The path of a text is written like the text; there
are no dots in its segments, and these are one more than the dots of the text. A path is read back
from its written form if and only if it has segments and these have no dots. In every scope such a
path leads to the same, or is refused for the same reason, whether it is written or not; and any
other path leads elsewhere in some scope once it is written. -/
theorem paths_split_and_join_without_loss :
    (∀ text : String, (FieldPath.ofDotted text).toDotted = text ∧
      (∀ segment ∈ (FieldPath.ofDotted text).segments, '.' ∉ segment.toList) ∧
      (FieldPath.ofDotted text).segments.length = text.toList.count '.' + 1) ∧
    (∀ path : FieldPath, FieldPath.ofDotted path.toDotted = path ↔ path.Recoverable) ∧
    (∀ path : FieldPath, path.Recoverable → ∀ scope : Scope,
      scope.resolveDotted path.toDotted = scope.resolve path) ∧
    ∀ path : FieldPath, ¬path.Recoverable → ∃ scope : Scope, scope.Listed ∧
      scope.resolveDotted path.toDotted ≠ scope.resolve path := by
  refine ⟨fun text => ⟨FieldPath.toDotted_ofDotted text, ?_, ?_⟩,
    fun path => FieldPath.ofDotted_toDotted_iff, fun path h scope => ?_,
    fun path h => Scope.exists_resolve_ne h⟩
  · exact (FieldPath.recoverable_ofDotted text).dot_not_mem
  · exact FieldPath.length_segments_ofDotted text
  · rw [Scope.resolveDotted, h.ofDotted_toDotted]

/-- Dots at both ends of a text and next to each other leave segments that are empty. A path over
the author of a ticket may be written; one with a dot in its only segment, and one without
segments, may not. -/
theorem paths_split_and_join_without_loss_at_the_ends :
    (FieldPath.ofDotted ".a..größe.").toDotted = ".a..größe." ∧
    (FieldPath.ofDotted ".a..größe.").segments.length = 5 ∧
    "größe" ∈ (FieldPath.ofDotted ".a..größe.").segments ∧ '.' ∉ "größe".toList ∧
    FieldPath.ofDotted (FieldPath.toDotted ⟨["", "author", ""]⟩) = ⟨["", "author", ""]⟩ ∧
    ticketScope.resolveDotted (FieldPath.toDotted ⟨["author", "name"]⟩) =
      .ok ⟨⟨"users", "name"⟩, some "author"⟩ ∧
    ∀ path ∈ ([⟨["author.name"]⟩, ⟨[]⟩] : List FieldPath),
      FieldPath.ofDotted path.toDotted ≠ path ∧ ∃ scope : Scope,
        scope.Listed ∧ scope.resolveDotted path.toDotted ≠ scope.resolve path := by
  obtain ⟨hcut, hback, hsame, hother⟩ := paths_split_and_join_without_loss
  obtain ⟨hwritten, hdots, hlength⟩ := hcut ".a..größe."
  have hmember : "größe" ∈ (FieldPath.ofDotted ".a..größe.").segments := by decide +kernel
  have hresolved : ticketScope.resolve ⟨["author", "name"]⟩ =
      .ok ⟨⟨"users", "name"⟩, some "author"⟩ := by decide +kernel
  refine ⟨hwritten, ?_, hmember, hdots _ hmember, (hback _).2 ⟨by decide, by decide +kernel⟩, ?_,
    fun path hpath => ?_⟩
  · rw [hlength]
    decide +kernel
  · rw [hsame ⟨["author", "name"]⟩ ⟨by decide, by decide +kernel⟩ ticketScope, hresolved]
  · have hunclear : ¬path.Recoverable := by
      intro h
      rcases List.mem_pair.1 hpath with rfl | rfl
      · exact h.dot_not_mem "author.name" (by decide) (by decide)
      · exact h.segments_ne_nil rfl
    exact ⟨mt (hback path).1 hunclear, hother path hunclear⟩

end RequestSql
