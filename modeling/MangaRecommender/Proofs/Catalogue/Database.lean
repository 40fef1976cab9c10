import Mathlib
import MangaRecommender.Catalogue.Database
import MangaRecommender.Proofs.Catalogue.FirstFailure
import MangaRecommender.Proofs.Generator.Selection

/-!
# What the statements find

A database keeps the tables of a catalogue as relations, and each statement asks something of their
rows.  Said once for every statement, this is all that a repository over the database depends on:
results are read back as the rows that they were made of, so that its lookups have the answers of
the tables in memory.  Only a failing statement comes between, and it fails the lookup; no result
is ever unfit.  The tables themselves are the repository over a database that never fails.
-/

namespace MangaRecommender

/-! ## Results that are read back -/

namespace Cell

/-- Whatever is put into a cell is read from it again. -/
def Restores {Value : Type} (read : Cell → Option Value) (cell : Value → Cell) : Prop :=
  ∀ value, read (cell value) = some value

theorem restores_id : Restores id? id := fun _ => rfl

theorem restores_double : Restores double? double := fun _ => rfl

theorem restores_date : Restores date? date := fun _ => rfl

theorem restores_text : Restores text? text := fun _ => rfl

theorem restores_boolean : Restores boolean? boolean := fun _ => rfl

/-- A cell for an optional value, which is left empty without one. -/
def ofOption {Value : Type} (cell : Value → Cell) : Option Value → Cell
  | none => null
  | some value => cell value

theorem Restores.orAbsent {Value : Type} {read : Cell → Option Value} {cell : Value → Cell}
    (hcell : Restores read cell) (hnull : read null = none) :
    Restores (orAbsent read) (ofOption cell) := by
  intro value
  cases value with
  | none => rfl
  | some value =>
    have hother : cell value ≠ null := by
      intro heq
      have hsome := hcell value
      rw [heq, hnull] at hsome
      cases hsome
    rw [ofOption, Cell.orAbsent, hcell value, Option.map_some]
    exact hother

end Cell

/-- The columns of the relation that candidates are read from. -/
def Manga.columns : List String :=
  ["manga_id", "title", "external_average_rating", "published_date", "cover_image_url"]

def Manga.cells (row : Manga) : List Cell :=
  [.id row.id, .text row.title, .ofOption .double row.rating, .ofOption .date row.published,
    .ofOption .text row.cover]

namespace ResultSet

variable {Row First Second : Type}

/-- Rows that are each read as a value are read as the list of these values. -/
theorem mapM_map_eq_some {read : List Cell → Option First} {write : Row → List Cell}
    {value : Row → First} (hread : ∀ row, read (write row) = some (value row)) (rows : List Row) :
    (rows.map write).mapM read = some (rows.map value) := by
  have hpure : read ∘ write = fun row => Pure.pure (value row) := funext hread
  rw [List.mapM_map, hpure, List.mapM_pure]
  rfl

theorem scalars?_map {read : Cell → Option First} {cell : First → Cell}
    (hcell : Cell.Restores read cell) (columns : List String) (values : List First) :
    scalars? read ⟨columns, values.map fun value => [cell value]⟩ = some values :=
  (mapM_map_eq_some (fun value => hcell value) values).trans (congrArg some (List.map_id' values))

theorem pairs?_map {readFirst : Cell → Option First} {readSecond : Cell → Option Second}
    {firstCell : First → Cell} {secondCell : Second → Cell}
    (hfirst : Cell.Restores readFirst firstCell) (hsecond : Cell.Restores readSecond secondCell)
    (first : Row → First) (second : Row → Second) (columns : List String) (rows : List Row) :
    pairs? readFirst readSecond
        ⟨columns, rows.map fun row => [firstCell (first row), secondCell (second row)]⟩ =
      some (rows.map fun row => (first row, second row)) := by
  refine mapM_map_eq_some (fun row => ?_) rows
  simp [hfirst (first row), hsecond (second row)]

theorem manga?_map (rows : List Manga) :
    manga? ⟨Manga.columns, rows.map Manga.cells⟩ = some rows := by
  refine (mapM_map_eq_some (fun row => ?_) rows).trans (congrArg some (List.map_id' rows))
  have hrating := Cell.restores_double.orAbsent rfl row.rating
  have hpublished := Cell.restores_date.orAbsent rfl row.published
  have hcover := Cell.restores_text.orAbsent rfl row.cover
  simp [cell?, Manga.columns, Manga.cells, List.lookup_cons, hrating, hpublished, hcover,
    Cell.restores_id row.id, Cell.restores_text row.title]

end ResultSet

/-! ## What a statement asks for -/

/-- Tables as a database keeps them: ids are keys, and what is listed in an order is listed in that
of the ids. -/
structure Tables.AreKeyed (tables : Tables) : Prop where
  fixedCandidates : tables.fixedCandidates = none
  manga : (tables.manga.map Manga.id).Nodup
  collections : tables.collections.Pairwise fun first second => first.id < second.id
  collectionManga : ∀ row ∈ tables.collections, row.manga.Pairwise (· < ·)

/-- The condition on the rows that candidates are selected from. -/
def Tables.Matches (tables : Tables) (query : CandidateQuery) (row : Manga) : Prop :=
  row.id ∉ query.excluded ∧ row.rating ≠ none ∧
    ((∃ link ∈ tables.links .genre, link.1 = row.id ∧ link.2 ∈ query.genres) ∨
      (∃ link ∈ tables.links .tag, link.1 = row.id ∧ link.2 ∈ query.tags) ∨
      ∃ link ∈ tables.links .demographic, link.1 = row.id ∧ link.2 ∈ query.demographics)

/-- The rows of a relation about some manga, with the attributes. -/
def Tables.linksResult (tables : Tables) (kind : AttributeKind) (ids : List Int32) : ResultSet where
  columns := ["manga_id", kind.column]
  rows := ((tables.links kind).filter fun link => ids.contains link.1).map fun link =>
    [.id link.1, .id link.2]

def Tables.ratingsResult (tables : Tables) (ids : List Int32) : ResultSet where
  columns := ["manga_id", "external_average_rating"]
  rows := (tables.manga.filter fun row => ids.contains row.id).map fun row =>
    [.id row.id, .ofOption .double row.rating]

def Tables.datesResult (tables : Tables) (ids : List Int32) : ResultSet where
  columns := ["manga_id", "published_date"]
  rows := (tables.manga.filter fun row => ids.contains row.id).map fun row =>
    [.id row.id, .ofOption .date row.published]

section Results

variable (tables : Tables) (ids : List Int32)

theorem Tables.pairs?_linksResult (kind : AttributeKind) :
    (tables.linksResult kind ids).pairs? Cell.id? Cell.id? =
      some ((tables.links kind).filter fun link => ids.contains link.1) :=
  (ResultSet.pairs?_map Cell.restores_id Cell.restores_id Prod.fst Prod.snd _ _).trans
    (congrArg some (List.map_id' _))

theorem Tables.pairs?_ratingsResult :
    (tables.ratingsResult ids).pairs? Cell.id? (Cell.orAbsent Cell.double?) =
      some ((tables.manga.filter fun row => ids.contains row.id).map fun row =>
        (row.id, row.rating)) :=
  ResultSet.pairs?_map Cell.restores_id (Cell.restores_double.orAbsent rfl) Manga.id Manga.rating _ _

theorem Tables.pairs?_datesResult :
    (tables.datesResult ids).pairs? Cell.id? (Cell.orAbsent Cell.date?) =
      some ((tables.manga.filter fun row => ids.contains row.id).map fun row =>
        (row.id, row.published)) :=
  ResultSet.pairs?_map Cell.restores_id (Cell.restores_date.orAbsent rfl) Manga.id Manga.published
    _ _

end Results

/-- The ids of a column that is listed in their order. -/
def ResultSet.ofIds (column : String) (ids : List Int32) : ResultSet :=
  ⟨[column], ids.map fun id => [.id id]⟩

/-- The database holds the tables: whatever it answers to a statement, if it does not fail, is what
the statement asks of them.  Rows are in the order that the statement names, and where it names none
in the order of the tables. -/
structure Database.Holds (database : Database) (tables : Tables) : Prop where
  links : ∀ kind ids result, database.execute (.links kind ids) = .ok result →
    result = tables.linksResult kind ids
  ratings : ∀ ids result, database.execute (.ratings ids) = .ok result →
    result = tables.ratingsResult ids
  dates : ∀ ids result, database.execute (.dates ids) = .ok result →
    result = tables.datesResult ids
  candidates : ∀ query result, database.execute (.candidates query) = .ok result →
    ∃ rows : List Manga, rows.Pairwise (fun first second => first.id < second.id) ∧
      (∀ row, row ∈ rows ↔ row ∈ tables.manga ∧ tables.Matches query row) ∧
      result = ⟨Manga.columns, (rows.take query.limit.toNat).map Manga.cells⟩
  owns : ∀ user collection result, database.execute (.owns user collection) = .ok result →
    result = ⟨["exists"],
      [[.boolean (decide (∃ row ∈ tables.collections, row.id = collection ∧ row.owner = user))]]⟩
  collectionManga : ∀ collection result,
    database.execute (.collectionManga collection) = .ok result →
    ∃ ids : List Int32, ids.Pairwise (· < ·) ∧
      (∀ id, id ∈ ids ↔ ∃ row ∈ tables.collections, row.id = collection ∧ id ∈ row.manga) ∧
      result = .ofIds "manga_id" ids
  userCollections : ∀ user result, database.execute (.userCollections user) = .ok result →
    ∃ ids : List Int32, ids.Pairwise (· < ·) ∧
      (∀ id, id ∈ ids ↔ ∃ row ∈ tables.collections, row.owner = user ∧ row.id = id) ∧
      result = .ofIds "collection_id" ids

/-! ## What the tables answer -/

namespace Tables

variable {tables : Tables}

theorem qualifies_iff_matches {query : CandidateQuery} {row : Manga} :
    tables.qualifies query row = true ↔ tables.Matches query row := by
  simp only [qualifies, Matches, Bool.and_eq_true, Bool.or_eq_true, isLinked_eq_true_iff,
    Bool.not_eq_true', List.contains_eq_mem, decide_eq_false_iff_not, Option.isSome_iff_ne_none,
    and_assoc, or_assoc]

theorem ownsCollection_eq_decide (user : Uuid) (collection : Int32) :
    tables.ownsCollection user collection =
      decide (∃ row ∈ tables.collections, row.id = collection ∧ row.owner = user) := by
  rw [Bool.eq_iff_iff, decide_eq_true_iff]
  simp only [ownsCollection, List.any_eq_true, Bool.and_eq_true, beq_iff_eq]

theorem exists_collection_of_owns {user : Uuid} {collection : Int32}
    (howned : tables.ownsCollection user collection = true) :
    ∃ row ∈ tables.collections, row.id = collection ∧
      tables.collectionManga user collection = .ok row.manga := by
  obtain ⟨owned, howned, hmatches⟩ := List.any_eq_true.1 howned
  cases hfound : tables.collections.find?
      (fun row => row.id == collection && row.owner == user) with
  | none => exact absurd hmatches (List.find?_eq_none.1 hfound owned howned)
  | some row =>
    have hboth := List.find?_some hfound
    simp only [Bool.and_eq_true, beq_iff_eq] at hboth
    refine ⟨row, List.mem_of_find?_eq_some hfound, hboth.1, ?_⟩
    simp only [collectionManga, hfound]

theorem collectionManga_of_not_owns {user : Uuid} {collection : Int32}
    (hforeign : ¬tables.ownsCollection user collection = true) :
    tables.collectionManga user collection = .error .collectionNotFound := by
  have hnone : tables.collections.find? (fun row => row.id == collection && row.owner == user) =
      none := by
    rw [List.find?_eq_none]
    exact fun row hrow hmatches => hforeign (List.any_eq_true.2 ⟨row, hrow, hmatches⟩)
  simp only [collectionManga, hnone]

namespace AreKeyed

variable (hkeyed : tables.AreKeyed)

include hkeyed

theorem collection_eq {first second : Collection} (hfirst : first ∈ tables.collections)
    (hsecond : second ∈ tables.collections) (hid : first.id = second.id) : first = second := by
  have hnodup : (tables.collections.map Collection.id).Nodup :=
    List.pairwise_map.2 (hkeyed.collections.imp fun hlt => Int32.ne_of_lt hlt)
  exact List.inj_on_of_nodup_map hnodup hfirst hsecond hid

/-- Sorting the rows that a query selects leaves no two of them with one id. -/
theorem pairwise_mergeSort_filter (select : Manga → Bool) :
    ((tables.manga.filter select).mergeSort fun left right => decide (left.id ≤ right.id)).Pairwise
      fun first second => first.id < second.id := by
  have hnodup : (((tables.manga.filter select).mergeSort fun left right =>
      decide (left.id ≤ right.id)).map Manga.id).Nodup :=
    (((List.mergeSort_perm _ _).map Manga.id).nodup_iff).2
      (hkeyed.manga.sublist (List.filter_sublist.map Manga.id))
  refine (pairwise_mergeSort_id _).imp₂ (fun first second hle hne => ?_) (List.pairwise_map.1 hnodup)
  exact Int32.lt_of_le_of_ne hle hne

/-- The selected rows in order of id, cut to the limit, are the candidates. -/
theorem candidates_eq {query : CandidateQuery} {rows : List Manga}
    (hrows : rows.Pairwise fun first second => first.id < second.id)
    (hmem : ∀ row, row ∈ rows ↔ row ∈ tables.manga ∧ tables.Matches query row) :
    tables.candidates query = rows.take query.limit.toNat := by
  have hselected : ∀ row, row ∈ tables.manga.filter (tables.qualifies query) ↔ row ∈ rows := by
    intro row
    rw [List.mem_filter, qualifies_iff_matches, hmem]
  have hperm : (tables.manga.filter (tables.qualifies query)).Perm rows :=
    (List.perm_ext_iff_of_nodup (hkeyed.manga.of_map.filter _)
      (hrows.imp fun hlt heq => Int32.ne_of_lt hlt (congrArg Manga.id heq))).2 hselected
  have hsorted : (tables.manga.filter (tables.qualifies query)).mergeSort
      (fun left right => decide (left.id ≤ right.id)) = rows :=
    ((List.mergeSort_perm _ _).trans hperm).eq_of_pairwise
      (fun _ _ _ _ hlt hgt => absurd hlt (Int32.lt_asymm hgt))
      (hkeyed.pairwise_mergeSort_filter _) hrows
  simp only [candidates, hkeyed.fixedCandidates, hsorted]

/-- A collection has all manga that the relation links to its id. -/
theorem mem_manga_iff {row : Collection} (hrow : row ∈ tables.collections) {id : Int32} :
    id ∈ row.manga ↔ ∃ other ∈ tables.collections, other.id = row.id ∧ id ∈ other.manga := by
  constructor
  · intro hlisted
    exact ⟨row, hrow, rfl, hlisted⟩
  · rintro ⟨other, hother, hid, hlisted⟩
    rwa [← hkeyed.collection_eq hother hrow hid]

theorem userCollections_eq {user : Uuid} {ids : List Int32} (hids : ids.Pairwise (· < ·))
    (hmem : ∀ id, id ∈ ids ↔ ∃ row ∈ tables.collections, row.owner = user ∧ row.id = id) :
    tables.userCollections user = ids := by
  have hascending : (tables.userCollections user).Pairwise (· < ·) :=
    List.pairwise_map.2 (hkeyed.collections.filter _)
  refine hascending.eq_of_mem_iff hids fun id => ?_
  simp only [userCollections, List.mem_map, List.mem_filter, beq_iff_eq, hmem, and_assoc]

end AreKeyed

end Tables

/-! ## What a repository answers -/

attribute [ext] Repository

namespace Database

variable {Value : Type}

/-- An answer, unless the statement that it needs fails. -/
def unlessFailing (database : Database) (statement : Statement) (answer : Except Failure Value) :
    Except Failure Value :=
  database.execute statement >>= fun _ => answer

theorem eq_ok_of_unlessFailing {database : Database} {statement : Statement}
    {found answer : Except Failure Value} (hfound : found = database.unlessFailing statement answer)
    {value : Value} (hvalue : found = .ok value) : answer = .ok value := by
  rw [hfound, unlessFailing] at hvalue
  cases hresult : database.execute statement with
  | error failure =>
    rw [hresult] at hvalue
    cases hvalue
  | ok result =>
    rw [hresult] at hvalue
    exact hvalue

theorem error_of_unlessFailing {database : Database} {statement : Statement}
    {found answer : Except Failure Value} (hfound : found = database.unlessFailing statement answer)
    {failure : Failure} (hfailure : found = .error failure) :
    database.execute statement = .error failure ∨ answer = .error failure := by
  rw [hfound, unlessFailing] at hfailure
  cases hresult : database.execute statement with
  | error other =>
    rw [hresult] at hfailure
    cases hfailure
    exact .inl rfl
  | ok result =>
    rw [hresult] at hfailure
    exact .inr hfailure

theorem unlessFailing_of_ok {database : Database} {statement : Statement} {result : ResultSet}
    (hresult : database.execute statement = .ok result) (answer : Except Failure Value) :
    database.unlessFailing statement answer = answer := by
  rw [unlessFailing, hresult]
  rfl

/-- What the tables answer with a value can fail only with the statement. -/
theorem exists_failing_statement {database : Database} {statement : Statement}
    {found : Except Failure Value} {value : Value}
    (hfound : found = database.unlessFailing statement (.ok value)) {failure : Failure}
    (hfailure : Failure.ofAnswer? found = some failure) :
    ∃ statement, database.execute statement = .error failure :=
  ⟨statement, (error_of_unlessFailing hfound
    (Failure.ofAnswer?_eq_some_iff.1 hfailure)).resolve_right nofun⟩

/-- A result that is read in every case fails a lookup only if there is none. -/
theorem ask_eq_unlessFailing {database : Database} {statement : Statement}
    {read : ResultSet → Option Value} {value : Value}
    (hread : ∀ result, database.execute statement = .ok result → read result = some value) :
    database.ask statement read = database.unlessFailing statement (.ok value) := by
  unfold ask unlessFailing
  cases hresult : database.execute statement with
  | error failure => rfl
  | ok result => simp [Bind.bind, Except.bind, hread result hresult]

theorem unlessFailing_bind {First Second : Type} (database : Database) (statement : Statement)
    (value : First) (next : First → Except Failure Second) :
    database.unlessFailing statement (.ok value) >>= next =
      database.unlessFailing statement (next value) := by
  unfold unlessFailing
  cases database.execute statement <;> rfl

/-- A repository over the database answers as the tables do, unless a statement fails.  The manga of
a collection need two statements, and the second one is not made for anybody but the owner. -/
structure AnswersFor (database : Database) (tables : Tables) : Prop where
  links : ∀ kind ids, database.repository.links kind ids =
    database.unlessFailing (.links kind ids) ((tables.repository .none).links kind ids)
  ratings : ∀ ids, database.repository.ratings ids =
    database.unlessFailing (.ratings ids) ((tables.repository .none).ratings ids)
  dates : ∀ ids, database.repository.dates ids =
    database.unlessFailing (.dates ids) ((tables.repository .none).dates ids)
  candidates : ∀ query, database.repository.candidates query =
    database.unlessFailing (.candidates query) ((tables.repository .none).candidates query)
  owns : ∀ user collection, database.repository.owns user collection =
    database.unlessFailing (.owns user collection)
      ((tables.repository .none).owns user collection)
  collectionManga : ∀ user collection, database.repository.collectionManga user collection =
    database.unlessFailing (.owns user collection)
      (if tables.ownsCollection user collection then
        database.unlessFailing (.collectionManga collection)
          ((tables.repository .none).collectionManga user collection)
      else .error .collectionNotFound)
  userCollections : ∀ user, database.repository.userCollections user =
    database.unlessFailing (.userCollections user)
      ((tables.repository .none).userCollections user)

variable {database : Database} {tables : Tables}

namespace Holds

variable (hholds : database.Holds tables)

include hholds

theorem owns_eq (user : Uuid) (collection : Int32) :
    database.owns user collection = database.unlessFailing (.owns user collection)
      (.ok (tables.ownsCollection user collection)) := by
  refine ask_eq_unlessFailing fun result hresult => ?_
  rw [hholds.owns user collection result hresult, Tables.ownsCollection_eq_decide]
  exact Cell.restores_boolean _

theorem ask_collectionManga (hkeyed : tables.AreKeyed) {user : Uuid} {collection : Int32}
    (howned : tables.ownsCollection user collection = true) :
    database.ask (.collectionManga collection) (ResultSet.scalars? Cell.id?) =
      database.unlessFailing (.collectionManga collection)
        (tables.collectionManga user collection) := by
  obtain ⟨row, hrow, rfl, hmanga⟩ := Tables.exists_collection_of_owns howned
  rw [hmanga]
  refine ask_eq_unlessFailing fun result hresult => ?_
  obtain ⟨ids, hids, hmem, rfl⟩ := hholds.collectionManga row.id result hresult
  rw [hids.eq_of_mem_iff (hkeyed.collectionManga row hrow) fun id =>
    (hmem id).trans (hkeyed.mem_manga_iff hrow).symm]
  exact ResultSet.scalars?_map Cell.restores_id _ _

theorem answersFor (hkeyed : tables.AreKeyed) : database.AnswersFor tables := by
  constructor
  case links =>
    intro kind ids
    refine ask_eq_unlessFailing fun result hresult => ?_
    rw [hholds.links kind ids result hresult, Tables.pairs?_linksResult]
  case ratings =>
    intro ids
    refine ask_eq_unlessFailing fun result hresult => ?_
    rw [hholds.ratings ids result hresult, Tables.pairs?_ratingsResult]
  case dates =>
    intro ids
    refine ask_eq_unlessFailing fun result hresult => ?_
    rw [hholds.dates ids result hresult, Tables.pairs?_datesResult]
  case candidates =>
    intro query
    refine ask_eq_unlessFailing fun result hresult => ?_
    obtain ⟨rows, hrows, hmem, rfl⟩ := hholds.candidates query result hresult
    rw [hkeyed.candidates_eq hrows hmem]
    exact ResultSet.manga?_map _
  case owns => exact hholds.owns_eq
  case collectionManga =>
    intro user collection
    show database.collectionManga user collection = _
    rw [Database.collectionManga, hholds.owns_eq, unlessFailing_bind]
    split
    · next howned => rw [hholds.ask_collectionManga hkeyed howned]; rfl
    · rfl
  case userCollections =>
    intro user
    refine ask_eq_unlessFailing fun result hresult => ?_
    obtain ⟨ids, hids, hmem, rfl⟩ := hholds.userCollections user result hresult
    rw [hkeyed.userCollections_eq hids hmem]
    exact ResultSet.scalars?_map Cell.restores_id _ _

end Holds

namespace AnswersFor

variable (hanswers : database.AnswersFor tables)

include hanswers

/-- What is looked up in a database and found is what its tables hold. -/
theorem refines : database.repository.Refines (tables.repository .none) where
  links kind ids _ := eq_ok_of_unlessFailing (hanswers.links kind ids)
  ratings ids _ := eq_ok_of_unlessFailing (hanswers.ratings ids)
  dates ids _ := eq_ok_of_unlessFailing (hanswers.dates ids)
  candidates query _ := eq_ok_of_unlessFailing (hanswers.candidates query)
  owns user collection _ := eq_ok_of_unlessFailing (hanswers.owns user collection)
  collectionManga user collection _ hfound := by
    have hanswer := eq_ok_of_unlessFailing (hanswers.collectionManga user collection) hfound
    split at hanswer
    · exact eq_ok_of_unlessFailing rfl hanswer
    · cases hanswer
  userCollections user _ := eq_ok_of_unlessFailing (hanswers.userCollections user)

/-- A lookup fails only if a statement does, or if the collection is not the user's. -/
theorem failure_cases {lookup : Lookup} {failure : Failure}
    (hfailure : database.repository.failure? lookup = some failure) :
    (∃ statement, database.execute statement = .error failure) ∨
      ∃ user collection, lookup = .collectionManga user collection ∧
        tables.ownsCollection user collection = false ∧ failure = .collectionNotFound := by
  cases lookup with
  | links kind ids => exact .inl (exists_failing_statement (hanswers.links kind ids) hfailure)
  | ratings ids => exact .inl (exists_failing_statement (hanswers.ratings ids) hfailure)
  | dates ids => exact .inl (exists_failing_statement (hanswers.dates ids) hfailure)
  | candidates query => exact .inl (exists_failing_statement (hanswers.candidates query) hfailure)
  | owns user collection =>
    exact .inl (exists_failing_statement (hanswers.owns user collection) hfailure)
  | userCollections user =>
    exact .inl (exists_failing_statement (hanswers.userCollections user) hfailure)
  | collectionManga user collection =>
    rcases error_of_unlessFailing (hanswers.collectionManga user collection)
      (Failure.ofAnswer?_eq_some_iff.1 hfailure) with howner | hanswer
    · exact .inl ⟨_, howner⟩
    cases howned : tables.ownsCollection user collection with
    | false =>
      rw [howned] at hanswer
      cases hanswer
      exact .inr ⟨user, collection, rfl, howned, rfl⟩
    | true =>
      obtain ⟨row, -, -, hmanga⟩ := Tables.exists_collection_of_owns howned
      rw [howned] at hanswer
      rcases error_of_unlessFailing rfl hanswer with hstatement | hmissing
      · exact .inl ⟨_, hstatement⟩
      · cases hmanga.symm.trans hmissing

end AnswersFor

end Database

/-! ## A database in memory -/

namespace Tables

instance (tables : Tables) (query : CandidateQuery) (row : Manga) :
    Decidable (tables.Matches query row) :=
  decidable_of_iff _ qualifies_iff_matches

/-- The statements about a list of manga are told apart by their texts. -/
def executeForManga (tables : Tables) (text : String) (ids : List Int32) :
    Except Failure ResultSet :=
  if text = (Statement.ratings []).text then .ok (tables.ratingsResult ids)
  else if text = (Statement.dates []).text then .ok (tables.datesResult ids)
  else
    match [AttributeKind.genre, .tag, .demographic, .author].find? fun kind =>
        text = (Statement.links kind []).text with
    | some kind => .ok (tables.linksResult kind ids)
    | none => .error (.database "unknown statement")

/-- A database that answers from the tables.  A limit below zero leaves no row, where another
database may well fail. -/
def database (tables : Tables) : Database where
  execute
    | ⟨text, [.ids ids]⟩ => tables.executeForManga text ids
    | ⟨_, [.ids excluded, .ids genres, .ids tags, .ids demographics, .limit limit]⟩ =>
      let rows := tables.manga.filter fun row =>
        decide (tables.Matches ⟨excluded, genres, tags, demographics, limit⟩ row)
      let sorted := rows.mergeSort fun left right => decide (left.id ≤ right.id)
      .ok ⟨Manga.columns, (sorted.take limit.toNat).map Manga.cells⟩
    | ⟨_, [.id collection, .user user]⟩ => .ok ⟨["exists"],
      [[.boolean (decide (∃ row ∈ tables.collections, row.id = collection ∧ row.owner = user))]]⟩
    | ⟨_, [.id collection]⟩ => .ok <| .ofIds "manga_id"
      ((tables.collections.find? fun row => row.id == collection).elim [] Collection.manga)
    | ⟨_, [.user user]⟩ => .ok <| .ofIds "collection_id"
      ((tables.collections.filter fun row => row.owner == user).map Collection.id)
    | _ => .error (.database "unknown statement")

theorem executeForManga_links (tables : Tables) (kind : AttributeKind) (ids : List Int32) :
    tables.executeForManga (Statement.links kind ids).text ids =
      .ok (tables.linksResult kind ids) := by
  have hratings : (Statement.links kind []).text ≠ (Statement.ratings []).text := by
    cases kind <;> decide +kernel
  have hdates : (Statement.links kind []).text ≠ (Statement.dates []).text := by
    cases kind <;> decide +kernel
  have hkind : ([AttributeKind.genre, .tag, .demographic, .author].find? fun other =>
      (Statement.links kind []).text = (Statement.links other []).text) = some kind := by
    cases kind <;> decide +kernel
  show tables.executeForManga (Statement.links kind []).text ids = _
  simp only [executeForManga, if_neg hratings, if_neg hdates, hkind]

theorem executeForManga_dates (tables : Tables) (ids : List Int32) :
    tables.executeForManga (Statement.dates ids).text ids = .ok (tables.datesResult ids) := by
  have hratings : (Statement.dates []).text ≠ (Statement.ratings []).text := by decide +kernel
  show tables.executeForManga (Statement.dates []).text ids = _
  rw [executeForManga, if_neg hratings, if_pos rfl]

namespace AreKeyed

variable {tables : Tables} (hkeyed : tables.AreKeyed)

include hkeyed

/-- For any keyed tables there is a database that holds them. -/
theorem holds_database : tables.database.Holds tables where
  links kind ids result hresult :=
    Except.ok.inj (hresult.symm.trans (tables.executeForManga_links kind ids))
  ratings ids result hresult := (Except.ok.inj hresult).symm
  dates ids result hresult :=
    Except.ok.inj (hresult.symm.trans (tables.executeForManga_dates ids))
  candidates query result hresult := by
    refine ⟨_, hkeyed.pairwise_mergeSort_filter _, fun row => ?_, (Except.ok.inj hresult).symm⟩
    rw [List.mem_mergeSort, List.mem_filter, decide_eq_true_iff]
  owns user collection result hresult := (Except.ok.inj hresult).symm
  collectionManga collection result hresult := by
    change Except.ok (ResultSet.ofIds "manga_id"
      ((tables.collections.find? fun row => row.id == collection).elim [] Collection.manga)) =
        Except.ok result at hresult
    cases hresult
    cases hfound : tables.collections.find? (fun row => row.id == collection) with
    | none =>
      refine ⟨[], .nil, fun id => iff_of_false List.not_mem_nil ?_, rfl⟩
      rintro ⟨row, hrow, hid, -⟩
      exact List.find?_eq_none.1 hfound row hrow (beq_iff_eq.2 hid)
    | some row =>
      have hrow := List.mem_of_find?_eq_some hfound
      obtain rfl : row.id = collection := by simpa using List.find?_some hfound
      exact ⟨row.manga, hkeyed.collectionManga row hrow, fun id => hkeyed.mem_manga_iff hrow, rfl⟩
  userCollections user result hresult := by
    refine ⟨_, ?_, fun id => ?_, (Except.ok.inj hresult).symm⟩
    · exact List.pairwise_map.2 (hkeyed.collections.filter _)
    · simp only [List.mem_map, List.mem_filter, beq_iff_eq, and_assoc]

/-- The tables answer every lookup as the database does that holds them and never fails. -/
theorem repository_database : tables.database.repository = tables.repository .none := by
  have hanswers := hkeyed.holds_database.answersFor hkeyed
  apply Repository.ext
  case links =>
    funext kind ids
    rw [hanswers.links, Database.unlessFailing_of_ok (tables.executeForManga_links kind ids)]
  case ratings =>
    funext ids
    rw [hanswers.ratings, Database.unlessFailing_of_ok rfl]
  case dates =>
    funext ids
    rw [hanswers.dates, Database.unlessFailing_of_ok (tables.executeForManga_dates ids)]
  case candidates =>
    funext query
    rw [hanswers.candidates, Database.unlessFailing_of_ok rfl]
  case owns =>
    funext user collection
    rw [hanswers.owns, Database.unlessFailing_of_ok rfl]
  case collectionManga =>
    funext user collection
    rw [hanswers.collectionManga, Database.unlessFailing_of_ok rfl,
      Database.unlessFailing_of_ok rfl]
    split
    · rfl
    · next hforeign => exact (collectionManga_of_not_owns hforeign).symm
  case userCollections =>
    funext user
    rw [hanswers.userCollections, Database.unlessFailing_of_ok rfl]

end AreKeyed

end Tables

end MangaRecommender
