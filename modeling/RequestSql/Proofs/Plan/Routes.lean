import RequestSql.Proofs.Plan.Refusals

/-!
# Where paths of any length lead

The associations of a schema are the edges of a graph, which may have cycles. All segments of a
path but the last are followed through this graph, however many there are: each of them has to be
an association of the entity that the ones before it have reached. Where one is not, the path
breaks off, and this is told first. A path that does not break off is refused if it has more than
one of these segments, whatever comes last; and if it has one or none, its last segment is looked
up in the entity that has been reached.

A route may be followed piece by piece (`Route.follow_append`), so following a path computes where
its route leads or where it breaks off. In a closed catalog there is no third outcome.

Key definitions: `Catalog.Route`, `Catalog.BreaksOff`.
Key theorems: `Catalog.Route.follow_append`, `Catalog.Closed.route_or_breaksOff`,
`Scope.follow_eq_error`, `Scope.resolve_eq_error`, `paths_resolve_exactly`.
-/

namespace RequestSql

/-! ### Routes -/

namespace Catalog

/-- Following these associations leads from one entity of the catalog to another. -/
inductive Route (catalog : Catalog) : String → List String → String → Entity → Prop where
  | here {name : String} {entity : Entity} :
      catalog.entity? name = some entity → Route catalog name [] name entity
  | hop {name hop last : String} {entity reached : Entity} {association : Association}
      {hops : List String} :
      catalog.entity? name = some entity → entity.associations.get? hop = some association →
        Route catalog association.entity hops last reached →
          Route catalog name (hop :: hops) last reached

/-- Of these associations `missing` is the first that is not there: the ones before it lead to
the entity `last`, which has no such association. -/
def BreaksOff (catalog : Catalog) (name : String) (hops : List String) (last missing : String) :
    Prop :=
  ∃ before after reached, hops = before ++ missing :: after ∧
    catalog.Route name before last reached ∧ reached.associations.get? missing = none

variable {catalog : Catalog} {name : String} {hops : List String}

theorem Route.exists_start {last : String} {reached : Entity}
    (h : catalog.Route name hops last reached) : ∃ entity, catalog.entity? name = some entity := by
  cases h with
  | here hfound => exact ⟨_, hfound⟩
  | hop hfound _ _ => exact ⟨_, hfound⟩

/-- A route is followed to its end, and from there what comes behind it. -/
theorem Route.follow_append {before after : List String} {entity reached : Entity} {last : String}
    (h : catalog.Route name before last reached) (hentity : catalog.entity? name = some entity) :
    Scope.follow catalog name entity (before ++ after) =
      Scope.follow catalog last reached after := by
  induction h generalizing entity with
  | here hfound =>
    obtain rfl := Option.some.inj (hfound.symm.trans hentity)
    rfl
  | hop hfound hassociation hroute ih =>
    obtain rfl := Option.some.inj (hfound.symm.trans hentity)
    obtain ⟨next, hnext⟩ := hroute.exists_start
    rw [List.cons_append, Scope.follow, hassociation]
    simp only [hnext]
    exact ih hnext

/-- Associations that can be put in front of a list that breaks off. -/
theorem BreaksOff.cons {hop last missing : String} {entity : Entity} {association : Association}
    (hentity : catalog.entity? name = some entity)
    (hassociation : entity.associations.get? hop = some association)
    (h : catalog.BreaksOff association.entity hops last missing) :
    catalog.BreaksOff name (hop :: hops) last missing := by
  obtain ⟨before, after, reached, rfl, hroute, hmissing⟩ := h
  exact ⟨hop :: before, after, reached, rfl, .hop hentity hassociation hroute, hmissing⟩

/-- In a closed catalog associations lead somewhere, or one of them is missing. -/
theorem Closed.route_or_breaksOff (hclosed : catalog.Closed) (hops : List String) {name : String}
    {entity : Entity} (hentity : catalog.entity? name = some entity) :
    (∃ last reached, catalog.Route name hops last reached) ∨
      ∃ last missing, catalog.BreaksOff name hops last missing := by
  induction hops generalizing name entity with
  | nil => exact .inl ⟨name, entity, .here hentity⟩
  | cons hop hops ih =>
    cases hassociation : entity.associations.get? hop with
    | none => exact .inr ⟨name, hop, [], hops, entity, rfl, .here hentity, hassociation⟩
    | some association =>
      have hfound := hclosed association ⟨name, entity, hop, hentity, hassociation⟩
      obtain ⟨next, hnext⟩ := Option.isSome_iff_exists.1 hfound
      rcases ih hnext with ⟨last, reached, hroute⟩ | ⟨last, missing, hbreaks⟩
      · exact .inl ⟨last, reached, .hop hentity hassociation hroute⟩
      · exact .inr ⟨last, missing, hbreaks.cons hentity hassociation⟩

end Catalog

/-! ### Resolving -/

namespace Scope

section Follow

variable {catalog : Catalog} {name : String} {entity : Entity}
  (hentity : catalog.entity? name = some entity)

include hentity

theorem follow_of_route {hops : List String} {last : String} {reached : Entity}
    (h : catalog.Route name hops last reached) :
    follow catalog name entity hops = .ok (last, reached) := by
  rw [← List.append_nil hops, h.follow_append hentity, follow_nil]

theorem follow_of_breaksOff {hops : List String} {last missing : String}
    (h : catalog.BreaksOff name hops last missing) :
    follow catalog name entity hops = .error (.unknownField last missing) := by
  obtain ⟨before, after, reached, rfl, hroute, hmissing⟩ := h
  rw [hroute.follow_append hentity, follow, hmissing]

variable (hclosed : catalog.Closed) {hops : List String}

include hclosed

/-- What following associations reaches is where their route leads. -/
theorem follow_eq_ok {last : String} {reached : Entity} :
    follow catalog name entity hops = .ok (last, reached) ↔
      catalog.Route name hops last reached := by
  refine ⟨fun h => ?_, follow_of_route hentity⟩
  rcases hclosed.route_or_breaksOff hops hentity with ⟨last', reached', hroute⟩ | ⟨_, _, hbreaks⟩
  · rw [follow_of_route hentity hroute] at h
    obtain ⟨rfl, rfl⟩ := Prod.mk.inj (Except.ok.inj h)
    exact hroute
  · rw [follow_of_breaksOff hentity hbreaks] at h
    cases h

/-- Following associations fails exactly where they break off. -/
theorem follow_eq_error {e : CompileError} :
    follow catalog name entity hops = .error e ↔
      ∃ last missing, catalog.BreaksOff name hops last missing ∧
        e = .unknownField last missing := by
  constructor
  · intro h
    rcases hclosed.route_or_breaksOff hops hentity with ⟨_, _, hroute⟩ | ⟨last, missing, hbreaks⟩
    · rw [follow_of_route hentity hroute] at h
      cases h
    · rw [follow_of_breaksOff hentity hbreaks] at h
      exact ⟨last, missing, hbreaks, (Except.error.inj h).symm⟩
  · rintro ⟨last, missing, hbreaks, rfl⟩
    exact follow_of_breaksOff hentity hbreaks

end Follow

variable {scope : Scope}

/-- A path of at least one segment is resolved by following all of them but the last. -/
theorem resolve_concat (hops : List String) (field : String) :
    scope.resolve ⟨hops ++ [field]⟩ =
      match follow scope.catalog scope.entityName scope.entity hops with
      | .error e => .error e
      | .ok (name, entity) =>
        if 1 < hops.length then .error (.unsupportedPath (".".intercalate (hops ++ [field])))
        else
          match columnOf name entity field with
          | .error e => .error e
          | .ok column => .ok ⟨column, hops.head?⟩ := by
  unfold resolve
  rw [List.getLast?_concat]
  simp only [List.dropLast_concat]
  rfl

theorem columnOf_eq_error {name field : String} {entity : Entity} {e : CompileError} :
    columnOf name entity field = .error e ↔
      entity.fields.get? field = none ∧ e = .unknownField name field := by
  unfold columnOf
  cases entity.fields.get? field with
  | none => simp [eq_comm]
  | some column => simp

/-- A path is refused where it breaks off; else for its length; else for its last segment. -/
theorem resolve_eq_error (hlisted : scope.Listed) (hclosed : scope.catalog.Closed)
    {hops : List String} {field : String} {e : CompileError} :
    scope.resolve ⟨hops ++ [field]⟩ = .error e ↔
      (∃ last missing, scope.catalog.BreaksOff scope.entityName hops last missing ∧
        e = .unknownField last missing) ∨
      ∃ last reached, scope.catalog.Route scope.entityName hops last reached ∧
        (2 ≤ hops.length ∧ e = .unsupportedPath (".".intercalate (hops ++ [field])) ∨
          hops.length ≤ 1 ∧ reached.fields.get? field = none ∧ e = .unknownField last field) := by
  rw [resolve_concat, ← follow_eq_error hlisted hclosed]
  simp only [← follow_eq_ok hlisted hclosed]
  cases hfollow : follow scope.catalog scope.entityName scope.entity hops with
  | error other => simp
  | ok found =>
    obtain ⟨last, reached⟩ := found
    simp only [reduceCtorEq, false_or, Except.ok.injEq, Prod.mk.injEq, and_assoc,
      exists_and_left, exists_eq_left']
    by_cases hlength : 1 < hops.length
    · have hlong : ¬hops.length ≤ 1 := by omega
      rw [if_pos hlength]
      simp only [Except.error.injEq, hlong, false_and, or_false, Nat.succ_le_of_lt hlength,
        true_and, eq_comm]
    · have hshort : ¬2 ≤ hops.length := by omega
      rw [if_neg hlength, ← columnOf_eq_error]
      simp only [hshort, false_and, false_or, Nat.le_of_not_lt hlength, true_and]
      cases columnOf last reached field <;> simp

end Scope

/-! ### The main result -/

/-- **Paths of every length resolve exactly.** In a well-formed schema a path leads to a column
if and only if it is a field of the entity, or an association of it and a field of the entity that
this leads to; the column is then the one behind the field in the table of that entity. Any other
path of at least one segment is refused. If one of its segments but the last is not an association
of the entity reached so far, the first such segment is told with that entity. Else, if these are
two or more, the whole path is told, whatever its last segment is; and if it is one or none, the
last segment is told with the entity reached. -/
theorem paths_resolve_exactly (schema : Schema) (entityName : String) (scope : Scope)
    (h : Scope.of? schema.catalog entityName = .ok scope) :
    (∀ path resolved, scope.resolve path = .ok resolved ↔
      (∃ field column, path.segments = [field] ∧ scope.entity.fields.get? field = some column ∧
        resolved = ⟨⟨scope.entity.table, column⟩, none⟩) ∨
      ∃ name field association target column, path.segments = [name, field] ∧
        scope.entity.associations.get? name = some association ∧
        schema.entities.get? association.entity = some target ∧
        target.fields.get? field = some column ∧
        resolved = ⟨⟨target.table, column⟩, some name⟩) ∧
    (∀ hops field e, scope.resolve ⟨hops ++ [field]⟩ = .error e ↔
      (∃ last missing, schema.catalog.BreaksOff entityName hops last missing ∧
        e = .unknownField last missing) ∨
      ∃ last reached, schema.catalog.Route entityName hops last reached ∧
        (2 ≤ hops.length ∧ e = .unsupportedPath (".".intercalate (hops ++ [field])) ∨
          hops.length ≤ 1 ∧ reached.fields.get? field = none ∧
            e = .unknownField last field)) ∧
    scope.resolve ⟨[]⟩ = .error (.unknownField entityName "") := by
  have hlisted := Scope.listed_of_of? h
  obtain ⟨entity, hentity, rfl⟩ := Scope.of?_eq_ok.1 h
  refine ⟨fun path resolved => ?_, fun hops field e => ?_, rfl⟩
  · obtain ⟨segments⟩ := path
    rw [Scope.resolve_iff_reaches]
    constructor
    · intro hreaches
      cases hreaches with
      | own hcolumn => exact .inl ⟨_, _, rfl, hcolumn, rfl⟩
      | across hleads hcolumn =>
        exact .inr ⟨_, _, _, _, _, rfl, hleads.declared, hleads.found, hcolumn, rfl⟩
    · rintro (⟨field, column, rfl, hcolumn, rfl⟩ |
        ⟨name, field, association, target, column, rfl, hdeclared, hfound, hcolumn, rfl⟩)
      · exact .own hcolumn
      · exact .across ⟨hdeclared, hfound⟩ hcolumn
  · exact Scope.resolve_eq_error hlisted schema.catalog_closed

/-- Tickets have tickets as parents, so a path may go around as often as it likes. It is refused
for its length, but only if every segment on the way is there. -/
theorem paths_resolve_exactly_around_tickets :
    ticketScope.resolve ⟨["parent", "closed"]⟩ =
      .ok ⟨⟨"tickets", "closed_at"⟩, some "parent"⟩ ∧
    ticketScope.resolve ⟨["parent", "parent", "author", "ghost"]⟩ =
      .error (.unsupportedPath "parent.parent.author.ghost") ∧
    ticketScope.resolve ⟨["parent", "author", "ghost", "name"]⟩ =
      .error (.unknownField "User" "ghost") := by
  obtain ⟨hok, herror, -⟩ := paths_resolve_exactly tracker "Ticket" ticketScope scope_ticket
  have hticket : tracker.catalog.entity? "Ticket" = some ticketScope.entity :=
    Scope.listed_of_of? scope_ticket
  obtain ⟨user, huser, hghost⟩ : ∃ user, tracker.catalog.entity? "User" = some user ∧
      user.associations.get? "ghost" = none := ⟨_, rfl, rfl⟩
  have hparent : ticketScope.entity.associations.get? "parent" =
      some ⟨"Ticket", ["id"], ["parent_id"]⟩ := by decide +kernel
  have hauthor : ticketScope.entity.associations.get? "author" =
      some ⟨"User", ["id"], ["author_id"]⟩ := by decide +kernel
  have hroute : tracker.catalog.Route "Ticket" ["parent", "author"] "User" user :=
    .hop hticket hparent (.hop hticket hauthor (.here huser))
  refine ⟨(hok _ _).2 (.inr ⟨"parent", "closed", _, _, "closed_at", rfl, hparent, hticket, ?_, ?_⟩),
    (herror ["parent", "parent", "author"] "ghost" _).2
      (.inr ⟨"User", user, .hop hticket hparent hroute, .inl ⟨by decide, by decide +kernel⟩⟩),
    (herror ["parent", "author", "ghost"] "name" _).2
      (.inl ⟨"User", "ghost", ⟨["parent", "author"], [], user, rfl, hroute, hghost⟩, rfl⟩)⟩
  · decide +kernel
  · decide +kernel

end RequestSql
