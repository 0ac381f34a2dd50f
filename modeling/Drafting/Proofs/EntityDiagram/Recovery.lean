import Drafting.Proofs.EntityDiagram.Printing

/-!
# Recovering schemas

Reading the printed lines of a schema gives back its tables, the columns of each of them and
its ties, all in order. Only lines that begin like a directive are passed over, and a word
may begin like one: a column named `titles` is taken for a title, unless the asterisk of the
primary key stands before it.

The main statement is that what is read is the schema without the columns and ties whose
lines begin with such a word, and hence the schema itself exactly if it has none.
-/

namespace Drafting.EntityDiagram

open Text

/-- The directives whose beginning is a word. -/
def wordDirectives : List String := ["skinparam", "title", "hide"]

/-- Whether a word begins like a directive. -/
def isReserved (word : Word) : Bool := beginsWithAny wordDirectives word.characters

/-- A line that begins with a word is a directive exactly if the word begins like one. -/
theorem beginsWithAny_word (word : Word) {rest : List Char}
    (ended : ∀ character ∈ rest.head?, isWord character = false) :
    beginsWithAny directivesWithHide (word.characters ++ rest) = isReserved word := by
  have letters : ∀ start ∈ wordDirectives, start.toList.all isWord = true := by decide
  have split : directivesWithHide = ["@", "!"] ++ wordDirectives := rfl
  have unmarked : (["@", "!"].any fun start =>
      (expect start (word.characters ++ rest)).isSome) = false := by
    have atSign : expect "@" (word.characters ++ rest) = none :=
      expect_eq_none rfl (word.ne_of_head? (by decide) rest)
    have exclamation : expect "!" (word.characters ++ rest) = none :=
      expect_eq_none rfl (word.ne_of_head? (by decide) rest)
    simp [atSign, exclamation]
  have words : ∀ start ∈ wordDirectives, (expect start (word.characters ++ rest)).isSome =
      (expect start word.characters).isSome := by
    intro start member
    rw [Bool.eq_iff_iff, isSome_expect_iff, isSome_expect_iff]
    constructor
    · exact word.prefix_of_prefix_append (List.all_eq_true.mp (letters start member)) ended
    · exact fun begins => begins.trans (List.prefix_append _ _)
  rw [beginsWithAny, split, List.any_append, unmarked, Bool.false_or, isReserved, beginsWithAny,
    Bool.eq_iff_iff, List.any_eq_true, List.any_eq_true]
  exact exists_congr fun start => and_congr_right fun member => by rw [words start member]

/-- A filter drops nothing that shows in a map exactly if it accepts everything. -/
theorem map_filter_eq_map_iff {α β : Type} (accepts : α → Bool) (image : α → β)
    (items : List α) :
    (items.filter accepts).map image = items.map image ↔ ∀ item ∈ items, accepts item = true := by
  constructor
  · intro same
    have lengths := congrArg List.length same
    rw [List.length_map, List.length_map] at lengths
    exact List.length_filter_eq_length_iff.mp lengths
  · intro accepted
    rw [List.filter_eq_self.mpr accepted]

namespace Column

/-- Whether the line of a column is passed over as a directive. -/
def isHidden (column : Column) : Bool := !column.isKey && isReserved column.name

/-- Columns of the primary key are never hidden, others if their names begin like a
directive. -/
theorem not_isHidden_iff (column : Column) :
    (!column.isHidden) = true ↔ (column.isKey = false → isReserved column.name = false) := by
  cases key : column.isKey <;> simp [isHidden, key]

/-- The line of a column is a directive exactly if the column is hidden. -/
theorem beginsWithAny_line (column : Column) :
    beginsWithAny directivesWithHide column.line.toList = column.isHidden := by
  rw [column.toList_line, Column.characters, isHidden]
  cases column.isKey with
  | true => rfl
  | false => exact beginsWithAny_word column.name column.typeCharacters_ended

end Column

namespace Tie

/-- Whether the line of a tie is passed over as a directive. -/
def isHidden (tie : Tie) : Bool := isReserved tie.source

/-- The line of a tie is a directive exactly if the tie is hidden. -/
theorem beginsWithAny_line (tie : Tie) :
    beginsWithAny directivesWithHide tie.line.toList = tie.isHidden := by
  rw [tie.toList_line]
  exact beginsWithAny_word tie.source tie.behindSource_ended

end Tie

namespace Table

/-- A table without its hidden columns. -/
def shown (table : Table) : Table :=
  { table with columns := table.columns.filter fun column => !column.isHidden }

/-- A table keeps its entity exactly if none of its columns is hidden. -/
theorem shown_entity_eq_iff (table : Table) (number : Nat) :
    table.shown.entity number = table.entity number ↔
      ∀ column ∈ table.columns, column.isKey = false → isReserved column.name = false := by
  have attributes : table.shown.entity number = table.entity number ↔
      (table.columns.filter fun column => !column.isHidden).map Column.entityAttribute =
        table.columns.map Column.entityAttribute := by
    simp [entity, shown]
  rw [attributes, map_filter_eq_map_iff]
  exact forall₂_congr fun column _ => column.not_isHidden_iff

/-- Of the lines of a table, those are read that print the table without its hidden
columns. -/
theorem filter_lines (table : Table) :
    (table.lines.filter fun line => !beginsWithAny directivesWithHide line.toList) =
      table.shown.lines := by
  have head : beginsWithAny directivesWithHide table.head.toList = false := by
    rw [table.toList_head]
    rfl
  have columns : ((table.columns.map Column.line).filter fun line =>
      !beginsWithAny directivesWithHide line.toList) =
      (table.columns.filter fun column => !column.isHidden).map Column.line := by
    rw [List.filter_map]
    congr 1
    exact List.filter_congr fun column _ => by simp [Column.beginsWithAny_line]
  have brace : (["\x7d"].filter fun line => !beginsWithAny directivesWithHide line.toList) =
      ["\x7d"] := rfl
  rw [lines, List.filter_cons_of_pos (by rw [head]; rfl), List.filter_append, columns, brace]
  rfl

end Table

namespace Progress

/-- The line that begins a table adds an entity without attributes and opens it. -/
theorem readLine_head (entities : List Entity) (relationships : List Relationship)
    (table : Table) :
    readLine ⟨⟨entities, relationships⟩, none⟩ table.head =
      ⟨⟨entities ++ [{ table.entity entities.length with attributes := [] }], relationships⟩,
        some entities.length⟩ := by
  rw [readLine, table.toList_head, head?_word]
  rfl

/-- The line of a column adds its attribute to the open entity. -/
theorem readLine_column (entities : List Entity) (entity : Entity)
    (relationships : List Relationship) (column : Column) :
    readLine ⟨⟨entities ++ [entity], relationships⟩, some entities.length⟩ column.line =
      ⟨⟨entities ++ [{ entity with
          attributes := entity.attributes ++ [column.entityAttribute] }], relationships⟩,
        some entities.length⟩ := by
  have noHead : head? column.line.toList = none := by rw [column.toList_line, head?_column]
  have brace : "\x7d".toList.head? = some '\x7d' := rfl
  have noBrace : (column.line == "\x7d") = false := by
    have absent : '\x7d' ∉ column.characters :=
      column.not_mem_characters (by decide) (by decide) (by decide)
    apply beq_eq_false_of_head? brace
    rintro character begins rfl
    rw [column.toList_line] at begins
    exact absent (List.mem_of_head? begins)
  have extended : readLine ⟨⟨entities ++ [entity], relationships⟩, some entities.length⟩
      column.line = addAttribute ⟨⟨entities ++ [entity], relationships⟩, some entities.length⟩
        entities.length column.entityAttribute := by
    simp [readLine, noHead, noBrace, isAttributeLine_column, attribute?_column]
  rw [extended]
  simp [addAttribute, List.modify_eq_take_drop]

/-- The lines of columns add their attributes to the open entity. -/
theorem foldl_columns (entities : List Entity) (entity : Entity)
    (relationships : List Relationship) (columns : List Column) :
    (columns.map Column.line).foldl readLine
        ⟨⟨entities ++ [entity], relationships⟩, some entities.length⟩ =
      ⟨⟨entities ++ [{ entity with
          attributes := entity.attributes ++ columns.map Column.entityAttribute }],
          relationships⟩, some entities.length⟩ := by
  induction columns generalizing entity with
  | nil => simp
  | cons column others inductionHypothesis =>
    rw [List.map_cons, List.foldl_cons, readLine_column, inductionHypothesis]
    simp

/-- The lines of a table add its entity and leave none open. -/
theorem foldl_table (entities : List Entity) (relationships : List Relationship)
    (table : Table) :
    table.lines.foldl readLine ⟨⟨entities, relationships⟩, none⟩ =
      ⟨⟨entities ++ [table.entity entities.length], relationships⟩, none⟩ := by
  rw [Table.lines, List.foldl_cons, readLine_head, List.foldl_append, foldl_columns]
  rfl

/-- The lines of tables add their entities, numbered from those that are there. -/
theorem foldl_tables (entities : List Entity) (relationships : List Relationship)
    (tables : List Table) :
    (tables.flatMap Table.lines).foldl readLine ⟨⟨entities, relationships⟩, none⟩ =
      ⟨⟨entities ++ (tables.zipIdx entities.length).map fun (table, number) =>
          table.entity number, relationships⟩, none⟩ := by
  induction tables generalizing entities with
  | nil => simp
  | cons table others inductionHypothesis =>
    rw [List.flatMap_cons, List.foldl_append, foldl_table, inductionHypothesis]
    simp [List.zipIdx_cons]

/-- An entity that is known is not added again. -/
theorem ensure_of_known {progress : Progress} {name : String}
    (known : name ∈ progress.diagram.entities.map Entity.name) :
    progress.ensure name = progress := by
  obtain ⟨entity, member, rfl⟩ := List.mem_map.mp known
  rw [ensure, if_pos (List.any_eq_true.mpr ⟨entity, member, by simp⟩)]

/-- The line of a tie between known entities adds its relationship. -/
theorem readLine_tie {entities : List Entity} (relationships : List Relationship) {tie : Tie}
    (source : tie.source.text ∈ entities.map Entity.name)
    (target : tie.target.text ∈ entities.map Entity.name) :
    readLine ⟨⟨entities, relationships⟩, none⟩ tie.line =
      ⟨⟨entities, relationships ++ [tie.relationship]⟩, none⟩ := by
  have noHead : head? tie.line.toList = none := by rw [tie.toList_line, head?_tie]
  have brace : "\x7d".toList.head? = some '\x7d' := rfl
  have noBrace : (tie.line == "\x7d") = false := by
    apply beq_eq_false_of_head? brace
    rw [tie.toList_line]
    exact tie.source.ne_of_head? (by decide) _
  have knownSource : ensure ⟨⟨entities, relationships⟩, none⟩ tie.relationship.source =
      ⟨⟨entities, relationships⟩, none⟩ := ensure_of_known source
  have knownTarget : ensure ⟨⟨entities, relationships⟩, none⟩ tie.relationship.target =
      ⟨⟨entities, relationships⟩, none⟩ := ensure_of_known target
  simp [readLine, noHead, noBrace, readRelationship, relationship?_tie, knownSource, knownTarget]

/-- The lines of ties between known entities add their relationships. -/
theorem foldl_ties {entities : List Entity} (relationships : List Relationship)
    {ties : List Tie}
    (known : ∀ tie ∈ ties, tie.source.text ∈ entities.map Entity.name ∧
      tie.target.text ∈ entities.map Entity.name) :
    (ties.map Tie.line).foldl readLine ⟨⟨entities, relationships⟩, none⟩ =
      ⟨⟨entities, relationships ++ ties.map Tie.relationship⟩, none⟩ := by
  induction ties generalizing relationships with
  | nil => simp
  | cons tie others inductionHypothesis =>
    obtain ⟨source, target⟩ := known tie (by simp)
    rw [List.map_cons, List.foldl_cons, readLine_tie relationships source target,
      inductionHypothesis _ fun other member => known other (by simp [member])]
    simp

end Progress

/-- Tables, which may even share a name, and ties whose two ends name tables. -/
structure Schema where
  tables : List Table
  ties : List Tie
  declared : ∀ tie ∈ ties, tie.source.text ∈ tables.map (·.name.text) ∧
    tie.target.text ∈ tables.map (·.name.text)

namespace Schema

/-- The lines of a schema, first those of its tables. -/
def lines (schema : Schema) : List String :=
  schema.tables.flatMap Table.lines ++ schema.ties.map Tie.line

/-- The diagram that a schema stands for. -/
def diagram (schema : Schema) : EntityDiagram where
  entities := schema.tables.zipIdx.map fun (table, number) => table.entity number
  relationships := schema.ties.map Tie.relationship

/-- A schema without its hidden columns and ties. -/
def shown (schema : Schema) : Schema where
  tables := schema.tables.map Table.shown
  ties := schema.ties.filter fun tie => !tie.isHidden
  declared := by
    intro tie member
    have names : (schema.tables.map Table.shown).map (·.name.text) =
        schema.tables.map (·.name.text) := by simp [Table.shown]
    rw [names]
    exact schema.declared tie (List.mem_filter.mp member).1

/-- The lines of a schema that are no directives print the schema without its hidden
parts. -/
theorem filter_lines (schema : Schema) :
    (schema.lines.filter fun line => !beginsWithAny directivesWithHide line.toList) =
      schema.shown.lines := by
  have tables : ((schema.tables.flatMap Table.lines).filter fun line =>
      !beginsWithAny directivesWithHide line.toList) =
      (schema.tables.map Table.shown).flatMap Table.lines := by
    rw [List.filter_flatMap, List.flatMap_map]
    exact List.flatMap_congr fun table _ => table.filter_lines
  have ties : ((schema.ties.map Tie.line).filter fun line =>
      !beginsWithAny directivesWithHide line.toList) =
      (schema.ties.filter fun tie => !tie.isHidden).map Tie.line := by
    rw [List.filter_map]
    congr 1
    exact List.filter_congr fun tie _ => by simp [Tie.beginsWithAny_line]
  rw [lines, List.filter_append, tables, ties]
  rfl

/-- Reading all lines of a schema, directives or not, gives its diagram. -/
theorem foldl_lines (schema : Schema) :
    schema.lines.foldl Progress.readLine {} = { diagram := schema.diagram } := by
  have known : ∀ tie ∈ schema.ties,
      tie.source.text ∈ schema.diagram.entities.map Entity.name ∧
      tie.target.text ∈ schema.diagram.entities.map Entity.name := by
    have names : schema.diagram.entities.map Entity.name =
        schema.tables.map (·.name.text) := by
      have named : (schema.tables.zipIdx.map Prod.fst).map (·.name.text) =
          schema.tables.map (·.name.text) := by rw [List.zipIdx_map_fst]
      rw [← named, diagram, List.map_map, List.map_map]
      rfl
    rw [names]
    exact schema.declared
  have start : ({} : Progress) = ⟨⟨[], []⟩, none⟩ := rfl
  rw [lines, List.foldl_append, start, Progress.foldl_tables]
  exact Progress.foldl_ties [] known

/-- The diagram that is read from a printed schema is that of the schema without its
hidden columns and ties. -/
theorem ofLines_lines (schema : Schema) : ofLines schema.lines = schema.shown.diagram := by
  rw [ofLines, filter_lines, foldl_lines]

/-- A schema keeps its entities exactly if no column of its tables is hidden. -/
theorem shown_entities_eq_iff (schema : Schema) :
    schema.shown.diagram.entities = schema.diagram.entities ↔
      ∀ table ∈ schema.tables, ∀ column ∈ table.columns,
        column.isKey = false → isReserved column.name = false := by
  have mapped : schema.shown.diagram.entities =
      schema.tables.zipIdx.map fun (table, number) => table.shown.entity number := by
    rw [diagram, shown, List.zipIdx_map, List.map_map]
    rfl
  rw [mapped, diagram, List.map_inj_left]
  constructor
  · intro same table member
    obtain ⟨number, found⟩ := List.mem_iff_getElem?.mp member
    have numbered : (table, number) ∈ schema.tables.zipIdx :=
      List.mem_zipIdx_iff_getElem?.mpr found
    exact (table.shown_entity_eq_iff number).mp (same (table, number) numbered)
  · rintro visible ⟨table, number⟩ numbered
    have found := List.mem_zipIdx_iff_getElem?.mp numbered
    exact (table.shown_entity_eq_iff number).mpr (visible table (List.mem_of_getElem? found))

/-- A schema keeps its relationships exactly if none of its ties is hidden. -/
theorem shown_relationships_eq_iff (schema : Schema) :
    schema.shown.diagram.relationships = schema.diagram.relationships ↔
      ∀ tie ∈ schema.ties, isReserved tie.source = false := by
  rw [diagram, diagram, shown, map_filter_eq_map_iff]
  exact forall₂_congr fun tie _ => by simp [Tie.isHidden]

/-- A printed schema is read back exactly if no column outside a primary key and no first
name of a tie begins like a directive. -/
theorem ofLines_lines_eq_iff (schema : Schema) :
    ofLines schema.lines = schema.diagram ↔
      (∀ table ∈ schema.tables, ∀ column ∈ table.columns,
        column.isKey = false → isReserved column.name = false) ∧
      ∀ tie ∈ schema.ties, isReserved tie.source = false := by
  rw [ofLines_lines, EntityDiagram.mk.injEq, shown_entities_eq_iff, shown_relationships_eq_iff]

/-- A table of books with their titles, which are lost. -/
def books : Schema where
  tables := [{
    name := .ofString "book" (by decide) (by decide)
    columns := [
      { name := .ofString "title" (by decide) (by decide)
        type := some (.ofString "varchar" (by decide) (by decide))
        isKey := false },
      { name := .ofString "id" (by decide) (by decide)
        type := some (.ofString "int" (by decide) (by decide))
        isKey := true }] }]
  ties := []
  declared := by simp

/-- A column for titles is taken for the title of the diagram. -/
theorem ofLines_books :
    books.lines = ["entity book \x7b", "title : varchar", "* id : int", "\x7d"] ∧
      ofLines books.lines = {
        entities := [{ id := 0, name := "book", label := "book", attributes := [
          { name := "id", type := "int", isPrimaryKey := true }] }] } ∧
      ofLines books.lines ≠ books.diagram := by
  decide +kernel

end Schema

end Drafting.EntityDiagram
