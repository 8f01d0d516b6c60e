import Mathlib
import QueryLowering.Proofs.Select.Reachable
import QueryLowering.Proofs.Text.Digits

/-!
# Aliases of tables

The tables of a context have distinct aliases. A fresh alias is free in any
context, since one of the numbered aliases is free as soon as there are more of
them than tables. Which of them it is depends on the tables alone that have the
same base: bases are single letters, and a number is never empty, so that the
aliases of different bases never meet.
-/

namespace QueryLowering
namespace Select

/-- What follows the last point of a name, or the whole of a name without
one. -/
inductive IsUnqualified (part : List Char) : (name : List Char) → Prop
  | whole : '.' ∉ part → IsUnqualified part part
  | qualified (qualifier : List Char) :
      '.' ∉ part → IsUnqualified part (qualifier ++ '.' :: part)

theorem isUnqualified_unqualified (name : List Char) :
    IsUnqualified (unqualified name) name := by
  have noPoint : '.' ∉ unqualified name := by
    intro point
    simpa using List.mem_takeWhile_imp (List.mem_reverse.1 point)
  have parts : name =
      (name.reverse.dropWhile (· != '.')).reverse ++ unqualified name := by
    rw [unqualified, ← List.reverse_append, List.takeWhile_append_dropWhile,
      List.reverse_reverse]
  have headIsPoint := List.head?_dropWhile_not (· != '.') name.reverse
  generalize unqualified name = part at noPoint parts ⊢
  cases before : name.reverse.dropWhile (· != '.') with
  | nil =>
      obtain rfl : name = part := by simpa [before] using parts
      exact .whole noPoint
  | cons point qualifier =>
      obtain rfl : point = '.' := by simpa [before] using headIsPoint
      obtain rfl : name = qualifier.reverse ++ '.' :: part := by
        simpa [before] using parts
      exact .qualified qualifier.reverse noPoint

/-- The base of an alias: the first letter of the unqualified name in lower
case, or `t` if that name is empty. -/
inductive IsBaseOf : (base : String) → (table : String) → Prop
  | letter {first : Char} {rest : List Char} {table : String} :
      IsUnqualified (first :: rest) table.toList →
      IsBaseOf (String.ofList [first.toLower]) table
  | nameless {table : String} : IsUnqualified [] table.toList →
      IsBaseOf "t" table

theorem isBaseOf_baseAlias (table : String) :
    IsBaseOf (baseAlias table) table := by
  have unqualifiedName := isUnqualified_unqualified table.toList
  unfold baseAlias
  split
  · next empty => exact .nameless (empty ▸ unqualifiedName)
  · next nonempty => exact .letter (nonempty ▸ unqualifiedName)

/-- A base is a single letter. -/
theorem exists_baseAlias_eq (table : String) :
    ∃ letter, baseAlias table = String.ofList [letter] := by
  unfold baseAlias
  split
  · exact ⟨'t', rfl⟩
  · next first _ _ => exact ⟨first.toLower, rfl⟩

/-- The alias of a table after a number of tables with the same base. -/
def aliasAfter (base : String) : (sharing : Nat) → String
  | 0 => base
  | number + 1 => numberedAlias base number

theorem numberedAlias_injective (base : String) :
    Function.Injective (numberedAlias base) := by
  intro first second same
  exact Text.decimal_injective
    (String.ofList_injective (by simpa [numberedAlias] using same))

/-- Aliases of tables agree only if their bases and their numbers do. -/
theorem aliasAfter_eq_iff
    (first second : String)
    (firstSharing secondSharing : Nat) :
    aliasAfter (baseAlias first) firstSharing =
        aliasAfter (baseAlias second) secondSharing ↔
      baseAlias first = baseAlias second ∧ firstSharing = secondSharing := by
  refine ⟨fun same => ?_, ?_⟩
  · obtain ⟨firstLetter, isFirst⟩ := exists_baseAlias_eq first
    obtain ⟨secondLetter, isSecond⟩ := exists_baseAlias_eq second
    rw [isFirst, isSecond] at same ⊢
    have sameText := congrArg String.toList same
    cases firstSharing with
    | zero =>
        cases secondSharing with
        | zero => exact ⟨same, rfl⟩
        | succ =>
            simp [aliasAfter, numberedAlias, Text.decimal_ne_nil] at sameText
    | succ =>
        cases secondSharing with
        | zero =>
            simp [aliasAfter, numberedAlias, Text.decimal_ne_nil] at sameText
        | succ =>
            simpa [aliasAfter, numberedAlias, Text.decimal_injective.eq_iff]
              using sameText
  · rintro ⟨sameBase, rfl⟩
    rw [sameBase]

/-- A number under which an alias is free, and none below it. -/
structure IsLeastFree
    (select : Select)
    (base : String)
    (number : Nat) : Prop where
  free : select.usesAlias (numberedAlias base number) = false
  taken : ∀ smaller, smaller < number →
    select.usesAlias (numberedAlias base smaller) = true

section Fresh

variable (select : Select)

theorem usesAlias_iff (tableAlias : String) :
    select.usesAlias tableAlias = true ↔
      tableAlias ∈ select.tables.map TableSource.tableAlias := by
  simp [usesAlias]

/-- A context cannot use more numbered aliases than it has tables. -/
theorem exists_free_number (base : String) :
    ∃ number, number ≤ select.tables.length ∧
      select.usesAlias (numberedAlias base number) = false := by
  by_contra noneFree
  have allTaken : ∀ number, number ≤ select.tables.length →
      select.usesAlias (numberedAlias base number) = true := by
    simpa using noneFree
  -- one more distinct alias than there are tables, and each of them in use
  let numbered :=
    (List.range (select.tables.length + 1)).map (numberedAlias base)
  have distinct : numbered.Nodup :=
    List.Nodup.map (numberedAlias_injective base) List.nodup_range
  have used : numbered ⊆ select.tables.map TableSource.tableAlias := by
    rintro _ candidate
    obtain ⟨number, inRange, rfl⟩ := List.mem_map.1 candidate
    exact (usesAlias_iff _ _).1
      (allTaken number (Nat.le_of_lt_succ (List.mem_range.1 inRange)))
  have tooMany := (distinct.subperm used).length_le
  simp only [numbered, List.length_map, List.length_range] at tooMany
  exact Nat.not_succ_le_self _ tooMany

theorem exists_isLeastFree (base : String) :
    ∃ number, number ≤ select.tables.length ∧
      select.IsLeastFree base number := by
  have someFree := select.exists_free_number base
  obtain ⟨few, free⟩ := Nat.find_spec someFree
  refine ⟨Nat.find someFree, few, free, fun smaller isSmaller => ?_⟩
  have notFree := Nat.find_min someFree isSmaller
  simpa [Nat.le_of_lt (isSmaller.trans_le few)] using notFree

variable {select}

theorem IsLeastFree.unique
    {base : String}
    {first second : Nat}
    (isFirst : select.IsLeastFree base first)
    (isSecond : select.IsLeastFree base second) :
    first = second := by
  rcases Nat.lt_trichotomy first second with less | same | greater
  · cases isFirst.free.symm.trans (isSecond.taken first less)
  · exact same
  · cases isSecond.free.symm.trans (isFirst.taken second greater)

/-- The search for a fresh alias comes to the least free number. -/
theorem freshAlias_eq
    {table : String}
    {number : Nat}
    (isLeastFree : select.IsLeastFree (baseAlias table) number) :
    select.freshAlias table =
      if select.usesAlias (baseAlias table) then
        numberedAlias (baseAlias table) number
      else baseAlias table := by
  obtain ⟨found, few, isFound⟩ := select.exists_isLeastFree (baseAlias table)
  obtain rfl := isLeastFree.unique isFound
  have search : (List.range (select.tables.length + 1)).find?
      ((fun candidate => !select.usesAlias candidate) ∘
          numberedAlias (baseAlias table)) =
        some number := by
    refine List.find?_range_eq_some.2
      ⟨?_, List.mem_range.2 (Nat.lt_succ_of_le few), ?_⟩
    · simp [isLeastFree.free]
    · intro smaller isSmaller
      simp [isLeastFree.taken smaller isSmaller]
  rw [freshAlias, List.find?_map, search]
  rfl

variable (select)

/-- A fresh alias is used by no table of the context. -/
theorem usesAlias_freshAlias (table : String) :
    select.usesAlias (select.freshAlias table) = false := by
  obtain ⟨number, _, isLeastFree⟩ := select.exists_isLeastFree (baseAlias table)
  rw [freshAlias_eq isLeastFree]
  split
  · exact isLeastFree.free
  · next free => exact Bool.eq_false_iff.2 free

end Fresh

/-- No two tables of a context have the same alias. -/
theorem Reachable.nodup_tableAlias
    {select : Select}
    (reachable : select.Reachable) :
    (select.tables.map TableSource.tableAlias).Nodup := by
  refine reachable.tables_induction
    (motive := fun tables => (tables.map TableSource.tableAlias).Nodup)
    List.nodup_nil ?_
  intro select entity nodup
  have fresh := mt (usesAlias_iff select _).2
    (Bool.eq_false_iff.1 (select.usesAlias_freshAlias entity.table))
  rw [Select.addTable, List.map_append]
  exact List.nodup_append.2
    ⟨nodup, List.nodup_singleton _, by simpa using fresh⟩

/-- How many tables have the base. -/
def sharing (tables : List TableSource) (base : String) : Nat :=
  tables.countP fun table => baseAlias table.table == base

theorem sharing_append (before after : List TableSource) (base : String) :
    sharing (before ++ after) base = sharing before base + sharing after base :=
  List.countP_append

/-- The aliases of the tables with one base are the first ones in order. -/
def IsNumbered (tables : List TableSource) : Prop :=
  ∀ table number,
    aliasAfter (baseAlias table) number ∈ tables.map TableSource.tableAlias ↔
      number < sharing tables (baseAlias table)

/-- Where the aliases are numbered in order, the fresh one is the next. -/
theorem IsNumbered.freshAlias_eq
    {select : Select}
    (isNumbered : IsNumbered select.tables)
    (table : String) :
    select.freshAlias table =
      aliasAfter (baseAlias table)
        (sharing select.tables (baseAlias table)) := by
  have used : ∀ number,
      select.usesAlias (aliasAfter (baseAlias table) number) = true ↔
        number < sharing select.tables (baseAlias table) :=
    fun number => (select.usesAlias_iff _).trans (isNumbered table number)
  generalize sharing select.tables (baseAlias table) = count at used ⊢
  cases count with
  | zero =>
      have free : ¬select.usesAlias (baseAlias table) = true :=
        mt (used 0).1 (Nat.lt_irrefl 0)
      rw [freshAlias, if_neg free, aliasAfter]
  | succ number =>
      have isLeastFree : select.IsLeastFree (baseAlias table) number := by
        refine ⟨Bool.eq_false_iff.2
          (mt (used (number + 1)).1 (Nat.lt_irrefl _)), ?_⟩
        exact fun smaller isSmaller =>
          (used (smaller + 1)).2 (Nat.succ_lt_succ isSmaller)
      have taken : select.usesAlias (baseAlias table) = true :=
        (used 0).2 (Nat.succ_pos number)
      rw [Select.freshAlias_eq isLeastFree, if_pos taken, aliasAfter]

theorem Reachable.isNumbered {select : Select} (reachable : select.Reachable) :
    IsNumbered select.tables := by
  refine reachable.tables_induction (fun _ _ => by simp [sharing]) ?_
  intro select entity isNumbered table number
  have next := isNumbered.freshAlias_eq entity.table
  rw [Select.addTable, List.map_append, List.mem_append, isNumbered,
    sharing_append]
  simp only [List.map_cons, List.map_nil, List.mem_singleton, next,
    aliasAfter_eq_iff]
  -- the alias of the new table is the next of its base, and none of any other
  -- base
  by_cases sameBase : baseAlias entity.table = baseAlias table
  · simp only [sharing, List.countP_singleton, sameBase, beq_self_eq_true,
      if_true, true_and]
    exact Nat.lt_succ_iff_lt_or_eq.symm
  · simp [sharing, sameBase, Ne.symm sameBase]

/-- Buffers are numbered by the places of their tables. -/
theorem Reachable.buffer_eq
    {select : Select}
    (reachable : select.Reachable) :
    ∀ (place : Nat) (table : TableSource), select.tables[place]? = some table →
      table.buffer = ⟨UInt32.ofNat place⟩ := by
  refine reachable.tables_induction
    (motive := fun tables => ∀ (place : Nat) (table : TableSource),
      tables[place]? = some table → table.buffer = ⟨UInt32.ofNat place⟩)
    (fun place table stands => by simp at stands) ?_
  intro select entity numbered place table stands
  rw [Select.addTable] at stands
  rcases Nat.lt_trichotomy place select.tables.length with before | rfl | after
  · rw [List.getElem?_append_left before] at stands
    exact numbered place table stands
  · rw [List.getElem?_concat_length] at stands
    obtain rfl := Option.some.inj stands
    rfl
  · have inRange := (List.getElem?_eq_some_iff.1 stands).1
    simp only [List.length_append, List.length_singleton] at inRange
    omega

/-- As long as the numbers of buffers do not run out, a buffer leads to its own
table. -/
theorem Reachable.tableFor?_eq
    {select : Select}
    (reachable : select.Reachable)
    (few : select.tables.length ≤ UInt32.size)
    {place : Nat}
    {table : TableSource}
    (stands : select.tables[place]? = some table) :
    select.tableFor? table.buffer = some table := by
  obtain ⟨inRange, isTable⟩ := List.getElem?_eq_some_iff.1 stands
  refine List.find?_eq_some_iff_getElem.2
    ⟨beq_self_eq_true _, place, inRange, isTable, ?_⟩
  intro earlier isEarlier
  have earlierInRange := isEarlier.trans inRange
  rw [reachable.buffer_eq place table stands,
    reachable.buffer_eq earlier _ (List.getElem?_eq_getElem earlierInRange)]
  have otherNumber : UInt32.ofNat earlier ≠ UInt32.ofNat place := by
    intro same
    have sameNumber := congrArg UInt32.toNat same
    rw [UInt32.toNat_ofNat_of_lt' (earlierInRange.trans_le few),
      UInt32.toNat_ofNat_of_lt' (inRange.trans_le few)] at sameNumber
    exact isEarlier.ne sameNumber
  simpa using otherNumber

section Sequence

variable (select : Select)

theorem addTables_append (first second : List EntityType) :
    select.addTables (first ++ second) =
      (select.addTables first).addTables second :=
  List.foldl_append

theorem addTables_cons (entity : EntityType) (rest : List EntityType) :
    select.addTables (entity :: rest) =
      (select.addTable entity).1.addTables rest :=
  rfl

/-- Further tables come after those that are there, and no column comes with
them. -/
theorem addTables_keeps (entities : List EntityType) :
    select.tables <+: (select.addTables entities).tables ∧
      (select.addTables entities).columns = select.columns := by
  induction entities generalizing select with
  | nil => exact ⟨List.prefix_rfl, rfl⟩
  | cons entity rest inductionHypothesis =>
      obtain ⟨tables, columns⟩ := inductionHypothesis (select.addTable entity).1
      exact ⟨(List.prefix_append _ _).trans tables, columns⟩

/-- The further tables are those of the entity types. -/
theorem map_table_addTables (entities : List EntityType) :
    (select.addTables entities).tables.map TableSource.table =
      select.tables.map TableSource.table ++ entities.map EntityType.table := by
  induction entities generalizing select with
  | nil => exact (List.append_nil _).symm
  | cons entity rest inductionHypothesis =>
      refine (inductionHypothesis (select.addTable entity).1).trans ?_
      simp [addTable]

theorem length_tables_addTables (entities : List EntityType) :
    (select.addTables entities).tables.length =
      select.tables.length + entities.length := by
  simpa using congrArg List.length (select.map_table_addTables entities)

end Sequence

theorem sharing_addTables
    (mappings : MappingSource)
    (entities : List EntityType)
    (base : String) :
    sharing ((empty mappings).addTables entities).tables base =
      entities.countP fun entity => baseAlias entity.table == base := by
  have sameTables := congrArg (List.countP fun table => baseAlias table == base)
    ((empty mappings).map_table_addTables entities)
  rw [empty, List.map_nil, List.nil_append, List.countP_map,
    List.countP_map] at sameTables
  exact sameTables

theorem length_tables_empty_addTables
    (mappings : MappingSource)
    (entities : List EntityType) :
    ((empty mappings).addTables entities).tables.length = entities.length :=
  ((empty mappings).length_tables_addTables entities).trans (Nat.zero_add _)

/-- A table stays in the place that it was added at. -/
theorem getElem?_addTables
    (mappings : MappingSource)
    (earlier : List EntityType)
    (entity : EntityType)
    (later : List EntityType) :
    ((empty mappings).addTables
        (earlier ++ entity :: later)).tables[earlier.length]? =
      some (((empty mappings).addTables earlier).addTable entity).2 := by
  let before := (empty mappings).addTables earlier
  have added : (before.addTable entity).1.tables[earlier.length]? =
      some (before.addTable entity).2 := by
    rw [← length_tables_empty_addTables mappings earlier]
    exact List.getElem?_concat_length
  obtain ⟨rest, parts⟩ := ((before.addTable entity).1.addTables_keeps later).1
  rw [addTables_append, addTables_cons, ← parts,
    List.getElem?_append_left (List.getElem?_eq_some_iff.1 added).1]
  exact added

/-- Adding fewer than `2 ^ 31` tables to a new context gives each an alias of
its own. The search for the alias of a table ends, at a number that a signed
counter of 32 bits can hold and step over. The alias is the base for the first
table with that base, and then the base with the numbers from zero in order. The
buffer of a table is numbered by the tables before, and leads to the table.
Adding tables to any context keeps its tables and columns. -/
theorem addTables_aliases
    (mappings : MappingSource)
    (entities : List EntityType)
    (few : entities.length < 2 ^ 31) :
    let select := (empty mappings).addTables entities
    (select.tables.map TableSource.tableAlias).Nodup ∧
    (∀ earlier entity later, entities = earlier ++ entity :: later →
      let before := (empty mappings).addTables earlier
      let table := (before.addTable entity).2
      let base := baseAlias entity.table
      IsBaseOf base entity.table ∧
      (∃ number, before.IsLeastFree base number ∧ number + 1 < 2 ^ 31 ∧
        table.tableAlias =
          if before.usesAlias base then numberedAlias base number
          else base) ∧
      table.tableAlias =
        aliasAfter base
          (earlier.countP fun other => baseAlias other.table == base) ∧
      table.table = entity.table ∧
      table.entityType = entity.name ∧
      table.buffer.index.toNat = earlier.length ∧
      (before.addTable entity).1.tables = before.tables ++ [table] ∧
      (before.addTable entity).1.columns = before.columns ∧
      select.tables[earlier.length]? = some table ∧
      select.tableFor? table.buffer = some table) ∧
    ∀ (context : Select) (further : List EntityType),
      context.tables <+: (context.addTables further).tables ∧
        (context.addTables further).columns = context.columns := by
  intro select
  have reachable : select.Reachable :=
    (Reachable.empty mappings).addTables entities
  refine ⟨reachable.nodup_tableAlias, ?_, addTables_keeps⟩
  intro earlier entity later split before table base
  have reachableBefore : before.Reachable :=
    (Reachable.empty mappings).addTables earlier
  have place : before.tables.length = earlier.length :=
    length_tables_empty_addTables _ earlier
  have oneEach : select.tables.length = entities.length :=
    length_tables_empty_addTables _ entities
  have inRange : earlier.length < entities.length := by simp [split]
  have stands : select.tables[earlier.length]? = some table := by
    rw [← getElem?_addTables mappings earlier entity later, ← split]
  have fewer : 2 ^ 31 < UInt32.size := by decide
  refine ⟨isBaseOf_baseAlias _, ?_, ?_, rfl, rfl, ?_, rfl, rfl, stands, ?_⟩
  · obtain ⟨number, atMost, isLeastFree⟩ := before.exists_isLeastFree base
    exact ⟨number, isLeastFree, by omega, freshAlias_eq isLeastFree⟩
  · rw [← sharing_addTables mappings]
    exact reachableBefore.isNumbered.freshAlias_eq entity.table
  · rw [reachable.buffer_eq _ _ stands]
    exact UInt32.toNat_ofNat_of_lt' (by omega)
  · exact reachable.tableFor?_eq (by omega) stands

/-- Of six tables, two have the base `c` and three the base `t`, two of these
for want of an unqualified name. The base of the other is a digit, and no
numbered alias is taken for it. -/
theorem addTables_aliases_shared :
    let entityFor := fun name : String => EntityType.mk name name []
    let earlier := ["sales.Customers", "cities", "", "c.", "1"].map entityFor
    let select :=
      (empty Dialect.ansi.mappings).addTables (earlier ++ [entityFor "t0"])
    (earlier ++ [entityFor "t0"]).length < 2 ^ 31 ∧
      select.tables.map TableSource.tableAlias =
        ["c", "c0", "t", "t0", "1", "t1"] ∧
      (select.tables.map TableSource.tableAlias).Nodup ∧
      select.tableFor? ⟨5⟩ = some ⟨"t1", "t0", "t0", ⟨5⟩⟩ := by
  intro entityFor earlier select
  have few : (earlier ++ [entityFor "t0"]).length < 2 ^ 31 := by decide
  obtain ⟨nodup, each, _⟩ := addTables_aliases Dialect.ansi.mappings _ few
  obtain ⟨_, _, _, _, _, _, _, _, _, leads⟩ :=
    each earlier (entityFor "t0") [] rfl
  have last :
      (((empty Dialect.ansi.mappings).addTables earlier).addTable
          (entityFor "t0")).2 =
        ⟨"t1", "t0", "t0", ⟨5⟩⟩ := by
    decide
  rw [last] at leads
  exact ⟨few, by decide, nodup, leads⟩

end Select
end QueryLowering
