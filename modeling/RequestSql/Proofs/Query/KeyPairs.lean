import RequestSql.Proofs.Plan.Refusals
import RequestSql.Proofs.Query.Entries

/-!
# Joins on all pairs of keys

An association of a well-formed schema has as many source keys as target keys, so pairing them up
drops none of them: read by their first halves, the pairs of its join are the source keys in the
table that is joined, and read by their second halves they are the target keys in the entity's own
table, in the order of their declaration. The first half and the second half determine the pairs,
so this says all there is to say about them. A set of associations is joined as long as all of them
are declared; and two joins with the same text are of the same table and on the same pairs, even
where a table or a key is called `ON` or `AND`.

Key definition: `Join.Complete`.
Key theorems: `zipWith_eq_iff_halves`, `Scope.join_eq_ok_iff_complete`, `Scope.join_eq_error`,
`joins_keep_every_key_pair`.
-/

namespace RequestSql

/-- Two lists of one length that are paired up are the halves of the pairs. -/
theorem zipWith_eq_iff_halves {α β γ δ : Type} {f : α → γ} {g : β → δ} {as : List α} {bs : List β}
    (h : as.length = bs.length) {pairs : List (γ × δ)} :
    pairs = List.zipWith (fun a b => (f a, g b)) as bs ↔
      pairs.map (·.1) = as.map f ∧ pairs.map (·.2) = bs.map g := by
  have hzip : List.zipWith (fun a b => (f a, g b)) as bs = (as.map f).zip (bs.map g) := by
    rw [List.zip_eq_zipWith, List.zipWith_map]
  have hlength : (as.map f).length = (bs.map g).length := by
    rw [List.length_map, List.length_map, h]
  rw [hzip]
  constructor
  · rintro rfl
    exact ⟨List.map_fst_zip hlength.le, List.map_snd_zip hlength.ge⟩
  · rintro ⟨hfst, hsnd⟩
    exact List.zip_of_prod hfst hsnd

/-- A join keeps all that is declared of an association: its name, the table of the entity that it
leads to, and every pair of its keys, of which there is one at least. -/
structure Join.Complete (join : Join) (scope : Scope) (name : String) (association : Association)
    (target : Entity) : Prop where
  name : join.association = name
  table : join.table = target.table
  keyed : join.keyPairs ≠ []
  sources : join.keyPairs.map (·.1) = association.sourceKeys.map (⟨target.table, ·⟩)
  owns : join.keyPairs.map (·.2) = association.targetKeys.map (⟨scope.entity.table, ·⟩)

section Schema

variable {schema : Schema} {entityName : String} {scope : Scope}

/-- The join for an association of a well-formed schema is the one that keeps all of it. -/
theorem Scope.join_eq_ok_iff_complete (hscope : Scope.of? schema.catalog entityName = .ok scope)
    {name : String} {join : Join} :
    scope.join name = .ok join ↔
      ∃ association target, scope.Leads name association target ∧
        join.Complete scope name association target := by
  rw [join_eq_ok]
  refine exists_congr fun association => exists_congr fun target => and_congr_right fun hleads => ?_
  have hnamed : association.Named := by
    obtain ⟨entity, hentity, rfl⟩ := Scope.of?_eq_ok.1 hscope
    exact schema.association_named hentity hleads.declared
  obtain ⟨joined, table, pairs⟩ := join
  constructor
  · intro heq
    obtain ⟨rfl, rfl, hpairs⟩ := Join.mk.inj heq
    obtain ⟨hsources, howns⟩ := (zipWith_eq_iff_halves hnamed.paired).1 hpairs
    refine ⟨rfl, rfl, fun hnil => hnamed.keyed ?_, hsources, howns⟩
    obtain rfl : pairs = [] := hnil
    exact List.map_eq_nil_iff.1 hsources.symm
  · rintro ⟨rfl, rfl, -, hsources, howns⟩
    rw [Join.mk.injEq]
    exact ⟨rfl, rfl, (zipWith_eq_iff_halves hnamed.paired).2 ⟨hsources, howns⟩⟩

/-- There is no join for what is not an association of the entity, and for nothing else. -/
theorem Scope.join_eq_error (hlisted : scope.Listed) (hclosed : scope.catalog.Closed)
    {name : String} {e : CompileError} :
    scope.join name = .error e ↔
      scope.entity.associations.contains name = false ∧
        e = .unknownAssociation scope.entityName name := by
  unfold Scope.join NameMap.contains
  cases hassociation : scope.entity.associations.get? name with
  | none => simp [eq_comm]
  | some association =>
    have hfound := hclosed association ⟨_, _, name, hlisted, hassociation⟩
    obtain ⟨target, htarget⟩ := Option.isSome_iff_exists.1 hfound
    simp [htarget]

theorem Scope.exists_join_iff (hlisted : scope.Listed) (hclosed : scope.catalog.Closed)
    {name : String} :
    (∃ join, scope.join name = .ok join) ↔ scope.entity.associations.contains name = true := by
  cases hjoin : scope.join name with
  | error e => simp [((join_eq_error hlisted hclosed).1 hjoin).1]
  | ok join =>
    obtain ⟨association, target, hleads, -⟩ := join_eq_ok.1 hjoin
    simp [NameMap.contains, hleads.declared]

/-- A set of associations is refused for the first one that is not declared. -/
theorem assembleJoins_eq_error (hlisted : scope.Listed) (hclosed : scope.catalog.Closed)
    {associations : NameSet} {e : CompileError} :
    assembleJoins scope associations = .error e ↔
      ∃ before name after, associations.toList = before ++ name :: after ∧
        (∀ declared ∈ before, scope.entity.associations.contains declared = true) ∧
          scope.entity.associations.contains name = false ∧
            e = .unknownAssociation scope.entityName name := by
  unfold assembleJoins
  rw [Outcome.mapM_eq_error]
  simp only [Scope.exists_join_iff hlisted hclosed, Scope.join_eq_error hlisted hclosed]

/-- The joins of a set are those of its members, each complete. -/
theorem assembleJoins_eq_ok_iff_complete
    (hscope : Scope.of? schema.catalog entityName = .ok scope) {associations : NameSet}
    {joins : List Join} :
    assembleJoins scope associations = .ok joins ↔
      List.Forall₂ (fun name join => ∃ association target, scope.Leads name association target ∧
        join.Complete scope name association target) associations.toList joins := by
  rw [assembleJoins_eq_ok]
  simp only [Scope.join_eq_ok_iff_complete hscope]

theorem named_of_mem_joins (hscope : Scope.of? schema.catalog entityName = .ok scope)
    {associations : NameSet} {joins : List Join}
    (h : assembleJoins scope associations = .ok joins) {join : Join} (hjoin : join ∈ joins) :
    join.Named := by
  obtain ⟨name, -, hname⟩ := Outcome.exists_of_mem_right (assembleJoins_eq_ok.1 h) hjoin
  exact named_of_join hscope hname

end Schema

/-! ### The main result -/

/-- **Joins keep every pair of keys.** In a well-formed schema a set of associations is refused if
and only if a member is not an association of the entity, and the first such member in ascending
order is told. Else there is one join for each member, in ascending order of their bytes: it is of
the table of the entity that the association leads to, its pairs are all source keys in this table
beside all target keys in the entity's own, in the order of their declaration, and there is one at
least. Joins from any two well-formed schemas have the same text only if they are of the same
table and on the same pairs. -/
theorem joins_keep_every_key_pair (schema : Schema) (entityName : String) (scope : Scope)
    (h : Scope.of? schema.catalog entityName = .ok scope) (associations : NameSet) :
    ((∃ e, assembleJoins scope associations = .error e) ↔
      ∃ name ∈ associations, scope.entity.associations.contains name = false) ∧
    (∀ e, assembleJoins scope associations = .error e ↔
      ∃ before name after, associations.toList = before ++ name :: after ∧
        (∀ declared ∈ before, scope.entity.associations.contains declared = true) ∧
          scope.entity.associations.contains name = false ∧
            e = .unknownAssociation entityName name) ∧
    (∀ joins, assembleJoins scope associations = .ok joins ↔
      List.Forall₂ (fun name join => ∃ association target, scope.Leads name association target ∧
        join.Complete scope name association target) associations.toList joins) ∧
    ∀ joins, assembleJoins scope associations = .ok joins →
      ((joins.map (·.association)).Pairwise fun a b => Names.bytes a < Names.bytes b) ∧
      ∀ (other : Schema) (otherName : String) (otherScope : Scope) (others : NameSet)
        (otherJoins : List Join), Scope.of? other.catalog otherName = .ok otherScope →
          assembleJoins otherScope others = .ok otherJoins →
            ∀ join ∈ joins, ∀ otherJoin ∈ otherJoins, otherJoin.text = join.text →
              otherJoin.table = join.table ∧ otherJoin.keyPairs = join.keyPairs := by
  have hlisted := Scope.listed_of_of? h
  obtain ⟨entity, -, rfl⟩ := Scope.of?_eq_ok.1 h
  have hclosed := schema.catalog_closed
  refine ⟨⟨?_, ?_⟩, fun e => assembleJoins_eq_error hlisted hclosed,
    fun joins => assembleJoins_eq_ok_iff_complete h, fun joins hjoins => ⟨?_, ?_⟩⟩
  · rintro ⟨e, he⟩
    obtain ⟨before, name, after, hmembers, -, hmissing, -⟩ :=
      (assembleJoins_eq_error hlisted hclosed).1 he
    have hmem : name ∈ associations.toList := by
      rw [hmembers]
      exact List.mem_append_right _ (List.mem_cons_self ..)
    exact ⟨name, hmem, hmissing⟩
  · rintro ⟨name, hmem, hmissing⟩
    cases hjoins : assembleJoins ⟨schema.catalog, entityName, entity⟩ associations with
    | error e => exact ⟨e, rfl⟩
    | ok joins =>
      obtain ⟨join, -, hjoin⟩ := Outcome.exists_of_mem_left (assembleJoins_eq_ok.1 hjoins) hmem
      rw [(Scope.exists_join_iff hlisted hclosed).1 ⟨join, hjoin⟩] at hmissing
      cases hmissing
  · rw [map_association_of_assembleJoins hjoins]
    exact associations.ascending.imp Names.lt_iff_bytes_lt.1
  · intro other otherName otherScope others otherJoins hother hothers join hjoin otherJoin hin htext
    obtain ⟨-, hsaid⟩ := Join.saidBy_text (named_of_mem_joins h hjoins hjoin)
    exact (hsaid otherJoin (named_of_mem_joins hother hothers hin)).1 htext

/-- A project is joined on both of its keys, behind the author, whose name comes first. With two
names more that are no associations, the first of these is told. -/
theorem joins_keep_every_key_pair_of_tickets :
    (∃ joins, assembleJoins ticketScope (.ofList ["project", "author"]) = .ok joins ∧
      List.Forall₂ (fun name join => ∃ association target,
        ticketScope.Leads name association target ∧
          join.Complete ticketScope name association target) ["author", "project"] joins ∧
      joins.map (·.keyPairs.length) = [1, 2] ∧
      ∀ join ∈ joins, ∀ other ∈ joins, other.text = join.text → other.table = join.table) ∧
    assembleJoins ticketScope (.ofList ["zone", "project", "ghost"]) =
      .error (.unknownAssociation "Ticket" "ghost") := by
  have hnames : (NameSet.ofList ["project", "author"]).toList = ["author", "project"] := by
    decide +kernel
  have hwrong : (NameSet.ofList ["zone", "project", "ghost"]).toList =
      [] ++ "ghost" :: ["project", "zone"] := by decide +kernel
  obtain ⟨joins, hjoins⟩ :
      ∃ joins, assembleJoins ticketScope (.ofList ["project", "author"]) = .ok joins := ⟨_, rfl⟩
  obtain ⟨-, -, hok, hothers⟩ := joins_keep_every_key_pair tracker "Ticket" ticketScope scope_ticket
    (.ofList ["project", "author"])
  obtain ⟨-, herror, -, -⟩ := joins_keep_every_key_pair tracker "Ticket" ticketScope scope_ticket
    (.ofList ["zone", "project", "ghost"])
  obtain ⟨-, htexts⟩ := hothers joins hjoins
  refine ⟨⟨joins, hjoins, ?_, ?_, ?_⟩,
    (herror _).2 ⟨[], "ghost", _, hwrong, List.forall_mem_nil _, by decide +kernel, rfl⟩⟩
  · rw [← hnames]
    exact (hok joins).1 hjoins
  · obtain rfl := Except.ok.inj hjoins
    rfl
  · intro join hjoin other hother htext
    exact (htexts tracker "Ticket" ticketScope _ joins scope_ticket hjoins join hjoin other hother
      htext).1

end RequestSql
