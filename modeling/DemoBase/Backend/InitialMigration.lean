import Mathlib.Logic.Function.Basic

/-!
Owns the migration `3c42338693c7_init` and the part of a PostgreSQL schema it works
on. Tables and indexes share one namespace; a table is a type of its own name, so
tables and enum types share another. The index of a primary key and the sequence of
a serial column are named by the database and belong to their table.
-/

set_option autoImplicit false

namespace DemoBase.Backend.InitialMigration

/-! ### Schemas -/

inductive ColumnType where
  | integer
  | string
  | boolean
  | enum (values : List String) (name : String)
deriving DecidableEq, Repr

structure Column where
  name : String
  type : ColumnType
  nullable : Bool
  serverDefault : Option String
deriving DecidableEq, Repr

structure Table where
  columns : List Column
  primaryKey : List String
deriving DecidableEq, Repr

structure Index where
  tableName : String
  columns : List String
  unique : Bool
deriving DecidableEq, Repr

inductive Relation where
  | table (table : Table)
  | index (index : Index)
deriving DecidableEq, Repr

/-- Every index stands on a table. -/
@[ext] structure Schema where
  relations : String → Option Relation
  enumTypes : String → Option (List String)
  indexed : ∀ name index, relations name = some (.index index) →
    ∃ table, relations index.tableName = some (.table table)

/-- What a statement of the migration raises. -/
inductive DatabaseError where
  | typeExists (name : String)
  | relationExists (name : String)
  | noSuchTable (name : String)
  | noSuchColumn (name : String)
  | noSuchIndex (name : String)
deriving DecidableEq, Repr

namespace Schema

variable (self : Schema)

def tableNamed (name : String) : Option Table :=
  match self.relations name with
  | some (.table table) => some table
  | _ => none

def TypeExists (name : String) : Prop :=
  self.enumTypes name ≠ none ∨ self.tableNamed name ≠ none

instance decidableTypeExists (name : String) : Decidable (self.TypeExists name) :=
  inferInstanceAs (Decidable (_ ∨ _))

/-- Adds a relation under a free name. -/
def addRelation (name : String) (relation : Relation) (free : self.relations name = none)
    (based : ∀ index, relation = .index index →
      ∃ table, self.relations index.tableName = some (.table table)) : Schema where
  relations := Function.update self.relations name (some relation)
  enumTypes := self.enumTypes
  indexed := by
    have kept : ∀ index : Index,
        (∃ table, self.relations index.tableName = some (.table table)) →
          ∃ table, Function.update self.relations name (some relation) index.tableName =
            some (.table table) := by
      intro index isTable
      obtain ⟨table, present⟩ := isTable
      have distinct : index.tableName ≠ name := by
        intro same
        rw [same, free] at present
        cases present
      exact ⟨table, by rw [Function.update_of_ne distinct, present]⟩
    intro other index isIndex
    apply kept
    by_cases same : other = name
    · rw [same, Function.update_self] at isIndex
      exact based index (Option.some.inj isIndex)
    · rw [Function.update_of_ne same] at isIndex
      exact self.indexed other index isIndex

/-- The relation goes with the indexes that stand on it. -/
def remaining (name other : String) : Option Relation :=
  if other = name then none
  else
    match self.relations other with
    | some (.index index) => if index.tableName = name then none else some (.index index)
    | kept => kept

theorem remaining_table {name other : String} {table : Table} (distinct : other ≠ name)
    (present : self.relations other = some (.table table)) :
    self.remaining name other = some (.table table) := by
  simp only [remaining, if_neg distinct, present]

theorem remaining_index {name other : String} {index : Index}
    (left : self.remaining name other = some (.index index)) :
    index.tableName ≠ name ∧ self.relations other = some (.index index) := by
  unfold remaining at left
  by_cases same : other = name
  · rw [if_pos same] at left
    cases left
  · rw [if_neg same] at left
    split at left
    · rename_i present isIndex
      by_cases onDropped : present.tableName = name
      · rw [if_pos onDropped] at left
        cases left
      · rw [if_neg onDropped] at left
        cases left
        exact ⟨onDropped, isIndex⟩
    · rename_i notIndex
      exact absurd left (notIndex index)

def drop (name : String) : Schema where
  relations := self.remaining name
  enumTypes := self.enumTypes
  indexed := by
    intro other index left
    obtain ⟨distinct, isIndex⟩ := self.remaining_index left
    obtain ⟨table, present⟩ := self.indexed other index isIndex
    exact ⟨table, self.remaining_table distinct present⟩

/-! ### Statements -/

def createType (name : String) (values : List String) : Except DatabaseError Schema :=
  if self.TypeExists name then .error (.typeExists name)
  else .ok { self with enumTypes := Function.update self.enumTypes name (some values) }

/-- `CREATE TYPE` for the enum columns of a table that is about to be created. -/
def createColumnTypes (self : Schema) : List Column → Except DatabaseError Schema
  | [] => .ok self
  | column :: rest =>
      match column.type with
      | .enum values name =>
          match self.createType name values with
          | .error error => .error error
          | .ok schema => schema.createColumnTypes rest
      | _ => self.createColumnTypes rest

/-- `CREATE TABLE`. -/
def addTable (name : String) (table : Table) : Except DatabaseError Schema :=
  if free : self.relations name = none then
    if self.TypeExists name then .error (.typeExists name)
    else .ok (self.addRelation name (.table table) free fun _ impossible => nomatch impossible)
  else .error (.relationExists name)

/-- `op.create_table`. -/
def createTable (name : String) (table : Table) : Except DatabaseError Schema :=
  match self.createColumnTypes table.columns with
  | .error error => .error error
  | .ok schema => schema.addTable name table

/-- `op.create_index`. -/
def createIndex (name : String) (index : Index) : Except DatabaseError Schema :=
  match found : self.relations index.tableName with
  | some (.table table) =>
      match index.columns.find? fun column => column ∉ table.columns.map Column.name with
      | some column => .error (.noSuchColumn column)
      | none =>
          if free : self.relations name = none then
            .ok (self.addRelation name (.index index) free fun _ same =>
              ⟨table, Relation.index.inj same ▸ found⟩)
          else .error (.relationExists name)
  | _ => .error (.noSuchTable index.tableName)

/-- `op.drop_index`; the name of the table is not part of PostgreSQL's statement. -/
def dropIndex (name : String) : Except DatabaseError Schema :=
  match self.relations name with
  | some (.index _) => .ok (self.drop name)
  | _ => .error (.noSuchIndex name)

/-- `op.drop_table`; enum types stay. -/
def dropTable (name : String) : Except DatabaseError Schema :=
  match self.relations name with
  | some (.table _) => .ok (self.drop name)
  | _ => .error (.noSuchTable name)

end Schema

/-! ### The migration -/

def roleEnum : ColumnType := .enum ["admin", "user"] "userrole"

def usersTable : Table where
  columns :=
    [⟨"id", .integer, false, none⟩, ⟨"email", .string, false, none⟩,
      ⟨"hashed_password", .string, false, none⟩, ⟨"is_active", .boolean, true, none⟩,
      ⟨"user_uuid", .string, true, none⟩, ⟨"role", roleEnum, false, some "user"⟩]
  primaryKey := ["id"]

def upgrade (schema : Schema) : Except DatabaseError Schema := do
  let schema ← schema.createTable "users" usersTable
  let schema ← schema.createIndex "ix_users_email" ⟨"users", ["email"], true⟩
  let schema ← schema.createIndex "ix_users_id" ⟨"users", ["id"], false⟩
  schema.createIndex "ix_users_user_uuid" ⟨"users", ["user_uuid"], true⟩

def downgrade (schema : Schema) : Except DatabaseError Schema := do
  let schema ← schema.dropIndex "ix_users_user_uuid"
  let schema ← schema.dropIndex "ix_users_id"
  let schema ← schema.dropIndex "ix_users_email"
  schema.dropTable "users"

/-- The schema after that many steps of upgrade, downgrade, upgrade and so on. -/
def schemaAfter (schema : Schema) : Nat → Except DatabaseError Schema
  | 0 => .ok schema
  | steps + 1 =>
      match schemaAfter schema steps with
      | .error error => .error error
      | .ok reached => if steps % 2 = 0 then upgrade reached else downgrade reached

/-- What `upgrade` creates is not there yet. -/
structure Unmigrated (schema : Schema) : Prop where
  users : ∀ table, schema.relations "users" ≠ some (.table table)
  indexes : ∀ name ∈ ["ix_users_email", "ix_users_id", "ix_users_user_uuid"], ∀ index,
    schema.relations name ≠ some (.index index)
  userrole : schema.enumTypes "userrole" = none

/-- Every step succeeds, a downgrade restores the schema and the upgrades agree. -/
structure Reversible (schema : Schema) (steps : Nat) : Prop where
  succeeds : ∀ step ≤ steps, ∃ reached, schemaAfter schema step = .ok reached
  restores : ∀ round, 2 * round ≤ steps → schemaAfter schema (2 * round) = .ok schema
  agrees : ∃ upgraded, ∀ round, 2 * round + 1 ≤ steps →
    schemaAfter schema (2 * round + 1) = .ok upgraded

/-- No relation and no type has a name `upgrade` needs. -/
structure NamesFree (schema : Schema) : Prop where
  relations : ∀ name ∈ ["users", "ix_users_email", "ix_users_id", "ix_users_user_uuid"],
    schema.relations name = none
  types : ∀ name ∈ ["users", "userrole"], ¬ schema.TypeExists name

/-! ### Undoing one statement -/

section Undo

variable {schema reached : Schema} {name : String}

/-- Dropping what was added under a free name gives the schema back: no index can
have stood on that name. -/
theorem drop_addRelation {relation : Relation} (free : schema.relations name = none)
    (based : ∀ index, relation = .index index →
      ∃ table, schema.relations index.tableName = some (.table table)) :
    (schema.addRelation name relation free based).drop name = schema := by
  apply Schema.ext
  · funext other
    show Schema.remaining _ name other = schema.relations other
    by_cases same : other = name
    · rw [Schema.remaining, if_pos same, same, free]
    · have untouched : (schema.addRelation name relation free based).relations other =
          schema.relations other := Function.update_of_ne same _ _
      rw [Schema.remaining, if_neg same, untouched]
      split
      · rename_i index isIndex
        obtain ⟨table, present⟩ := schema.indexed other index isIndex
        have distinct : index.tableName ≠ name := by
          intro onName
          rw [onName, free] at present
          cases present
        rw [if_neg distinct, isIndex]
      · rfl
  · rfl

@[simp] theorem relations_addRelation {relation : Relation}
    (free : schema.relations name = none)
    (based : ∀ index, relation = .index index →
      ∃ table, schema.relations index.tableName = some (.table table)) :
    (schema.addRelation name relation free based).relations =
      Function.update schema.relations name (some relation) :=
  rfl

theorem dropIndex_addRelation {index : Index} (free : schema.relations name = none)
    (based : ∀ other, Relation.index index = .index other →
      ∃ table, schema.relations other.tableName = some (.table table)) :
    (schema.addRelation name (.index index) free based).dropIndex name = .ok schema := by
  have found : (schema.addRelation name (.index index) free based).relations name =
      some (.index index) := Function.update_self _ _ _
  simp only [Schema.dropIndex, found, drop_addRelation]

theorem dropTable_addRelation {table : Table} (free : schema.relations name = none)
    (based : ∀ index, Relation.table table = .index index →
      ∃ other, schema.relations index.tableName = some (.table other)) :
    (schema.addRelation name (.table table) free based).dropTable name = .ok schema := by
  have found : (schema.addRelation name (.table table) free based).relations name =
      some (.table table) := Function.update_self _ _ _
  simp only [Schema.dropTable, found, drop_addRelation]

/-- A created index stands under a name that was free. -/
theorem createIndex_ok {index : Index} (created : schema.createIndex name index = .ok reached) :
    ∃ free based, reached = schema.addRelation name (.index index) free based := by
  unfold Schema.createIndex at created
  split at created
  · split at created
    · cases created
    · by_cases free : schema.relations name = none
      · rw [dif_pos free] at created
        exact ⟨free, _, (Except.ok.inj created).symm⟩
      · rw [dif_neg free] at created
        cases created
  · cases created

theorem addTable_ok {table : Table} (created : schema.addTable name table = .ok reached) :
    ¬ schema.TypeExists name ∧
      ∃ free based, reached = schema.addRelation name (.table table) free based := by
  unfold Schema.addTable at created
  by_cases free : schema.relations name = none
  · rw [dif_pos free] at created
    by_cases taken : schema.TypeExists name
    · rw [if_pos taken] at created
      cases created
    · rw [if_neg taken] at created
      exact ⟨taken, free, _, (Except.ok.inj created).symm⟩
  · rw [dif_neg free] at created
    cases created

end Undo

/-! ### One round -/

private theorem bind_eq_ok {α β : Type} {first : Except DatabaseError α}
    {rest : α → Except DatabaseError β} {result : β} :
    first >>= rest = .ok result ↔ ∃ value, first = .ok value ∧ rest value = .ok result := by
  cases first with
  | error error => simp [bind, Except.bind]
  | ok value => simp [bind, Except.bind]

variable {schema upgraded : Schema}

/-- The schema with the enum type of the migration. -/
def withRoleType (schema : Schema) : Schema :=
  { schema with
    enumTypes := Function.update schema.enumTypes "userrole" (some ["admin", "user"]) }

@[simp] theorem relations_withRoleType : (withRoleType schema).relations = schema.relations :=
  rfl

@[simp] theorem enumTypes_withRoleType : (withRoleType schema).enumTypes =
    Function.update schema.enumTypes "userrole" (some ["admin", "user"]) :=
  rfl

theorem typeExists_withRoleType {name : String} (distinct : name ≠ "userrole") :
    (withRoleType schema).TypeExists name ↔ schema.TypeExists name := by
  rw [Schema.TypeExists, enumTypes_withRoleType, Function.update_of_ne distinct]
  rfl

/-- The one enum column makes `op.create_table` create its type first. -/
theorem createTable_usersTable :
    schema.createTable "users" usersTable =
      if schema.TypeExists "userrole" then .error (.typeExists "userrole")
      else (withRoleType schema).addTable "users" usersTable := by
  have types : schema.createColumnTypes usersTable.columns =
      if schema.TypeExists "userrole" then .error (.typeExists "userrole")
      else .ok (withRoleType schema) := by
    simp only [usersTable, roleEnum, Schema.createColumnTypes, Schema.createType, withRoleType]
    by_cases taken : schema.TypeExists "userrole"
    · simp only [if_pos taken]
    · simp only [if_neg taken]
  rw [Schema.createTable, types]
  by_cases taken : schema.TypeExists "userrole"
  · simp only [if_pos taken]
  · simp only [if_neg taken]

/-- An upgrade is the creation of the enum type, of the table and of its indexes. -/
theorem upgrade_eq_ok :
    upgrade schema = .ok upgraded ↔
      ¬ schema.TypeExists "userrole" ∧ ∃ withTable withEmail withId,
        (withRoleType schema).addTable "users" usersTable = .ok withTable ∧
          withTable.createIndex "ix_users_email" ⟨"users", ["email"], true⟩ = .ok withEmail ∧
            withEmail.createIndex "ix_users_id" ⟨"users", ["id"], false⟩ = .ok withId ∧
              withId.createIndex "ix_users_user_uuid" ⟨"users", ["user_uuid"], true⟩ =
                .ok upgraded := by
  unfold upgrade
  rw [createTable_usersTable]
  by_cases taken : schema.TypeExists "userrole"
  · rw [if_pos taken]
    refine iff_of_false ?_ fun succeeds => succeeds.1 taken
    intro succeeds
    cases succeeds
  · rw [if_neg taken]
    constructor
    · intro done
      obtain ⟨withTable, tableCreated, done⟩ := bind_eq_ok.mp done
      obtain ⟨withEmail, emailCreated, done⟩ := bind_eq_ok.mp done
      obtain ⟨withId, idCreated, uuidCreated⟩ := bind_eq_ok.mp done
      exact ⟨taken, withTable, withEmail, withId, tableCreated, emailCreated, idCreated,
        uuidCreated⟩
    · intro succeeds
      obtain ⟨-, withTable, withEmail, withId, tableCreated, emailCreated, idCreated,
        uuidCreated⟩ := succeeds
      apply bind_eq_ok.mpr
      refine ⟨withTable, tableCreated, ?_⟩
      apply bind_eq_ok.mpr
      refine ⟨withEmail, emailCreated, ?_⟩
      apply bind_eq_ok.mpr
      exact ⟨withId, idCreated, uuidCreated⟩

/-- A downgrade drops what the upgrade before it created, but for the enum type. -/
theorem downgrade_of_upgrade (done : upgrade schema = .ok upgraded) :
    downgrade upgraded = .ok (withRoleType schema) := by
  obtain ⟨-, withTable, withEmail, withId, tableCreated, emailCreated, idCreated,
    uuidCreated⟩ := upgrade_eq_ok.mp done
  obtain ⟨-, tableFree, tableBased, rfl⟩ := addTable_ok tableCreated
  obtain ⟨emailFree, emailBased, rfl⟩ := createIndex_ok emailCreated
  obtain ⟨idFree, idBased, rfl⟩ := createIndex_ok idCreated
  obtain ⟨uuidFree, uuidBased, rfl⟩ := createIndex_ok uuidCreated
  -- The drops come in the opposite order of the creations.
  have tableDropped := dropTable_addRelation tableFree tableBased
  have emailDropped := dropIndex_addRelation emailFree emailBased
  have idDropped := dropIndex_addRelation idFree idBased
  have uuidDropped := dropIndex_addRelation uuidFree uuidBased
  unfold downgrade
  apply bind_eq_ok.mpr
  refine ⟨_, uuidDropped, ?_⟩
  apply bind_eq_ok.mpr
  refine ⟨_, idDropped, ?_⟩
  apply bind_eq_ok.mpr
  exact ⟨_, emailDropped, tableDropped⟩

/-- The type a downgrade leaves behind stops the next upgrade. -/
theorem upgrade_withRoleType (schema : Schema) :
    upgrade (withRoleType schema) = .error (.typeExists "userrole") := by
  have taken : (withRoleType schema).TypeExists "userrole" := by
    refine Or.inl ?_
    rw [enumTypes_withRoleType, Function.update_self]
    simp
  rw [upgrade, createTable_usersTable, if_pos taken]
  rfl

theorem addTable_of_free {name : String} (table : Table) (free : schema.relations name = none)
    (untaken : ¬ schema.TypeExists name) :
    ∃ reached, schema.addTable name table = .ok reached ∧
      reached.relations name = some (.table table) ∧
        ∀ other, other ≠ name → reached.relations other = schema.relations other := by
  rw [Schema.addTable, dif_pos free, if_neg untaken]
  exact ⟨_, rfl, Function.update_self _ _ _, fun other distinct =>
    Function.update_of_ne distinct _ _⟩

theorem createIndex_of_free {name : String} (index : Index) {table : Table}
    (found : schema.relations index.tableName = some (.table table))
    (columns : ∀ column ∈ index.columns, column ∈ table.columns.map Column.name)
    (free : schema.relations name = none) :
    ∃ reached, schema.createIndex name index = .ok reached ∧
      ∀ other, other ≠ name → reached.relations other = schema.relations other := by
  have complete : (index.columns.find? fun column => column ∉ table.columns.map Column.name) =
      none := by
    apply List.find?_eq_none.mpr
    intro column member
    simpa using columns column member
  unfold Schema.createIndex
  split
  · rename_i other isTable
    rw [found] at isTable
    cases isTable
    simp only [complete, dif_pos free]
    exact ⟨_, rfl, fun other distinct => Function.update_of_ne distinct _ _⟩
  · rename_i noTable
    exact absurd found (noTable table)

/-- Each creation of a successful upgrade found its name free. -/
theorem namesFree_of_upgrade (done : upgrade schema = .ok upgraded) : NamesFree schema := by
  obtain ⟨untaken, withTable, withEmail, withId, tableCreated, emailCreated, idCreated,
    uuidCreated⟩ := upgrade_eq_ok.mp done
  obtain ⟨usersUntaken, tableFree, tableBased, rfl⟩ := addTable_ok tableCreated
  obtain ⟨emailFree, emailBased, rfl⟩ := createIndex_ok emailCreated
  obtain ⟨idFree, idBased, rfl⟩ := createIndex_ok idCreated
  obtain ⟨uuidFree, uuidBased, rfl⟩ := createIndex_ok uuidCreated
  have emailName : schema.relations "ix_users_email" = none := by
    simpa using emailFree
  have idName : schema.relations "ix_users_id" = none := by
    simpa using idFree
  have uuidName : schema.relations "ix_users_user_uuid" = none := by
    simpa using uuidFree
  have usersType : ¬ schema.TypeExists "users" := by
    rwa [typeExists_withRoleType (by decide)] at usersUntaken
  constructor
  · simpa using ⟨tableFree, emailName, idName, uuidName⟩
  · simpa using ⟨usersType, untaken⟩

/-- Each creation leaves the names of the later ones free and the table in place. -/
theorem upgrade_of_namesFree (free : NamesFree schema) :
    ∃ upgraded, upgrade schema = .ok upgraded := by
  have usersType : ¬ (withRoleType schema).TypeExists "users" := by
    rw [typeExists_withRoleType (by decide)]
    exact free.types _ (by simp)
  have usersFree : (withRoleType schema).relations "users" = none := free.relations _ (by simp)
  obtain ⟨withTable, tableCreated, users, kept⟩ :=
    addTable_of_free usersTable usersFree usersType
  have emailFree : withTable.relations "ix_users_email" = none := by
    rw [kept _ (by decide)]
    exact free.relations _ (by simp)
  obtain ⟨withEmail, emailCreated, keptByEmail⟩ :=
    createIndex_of_free ⟨"users", ["email"], true⟩ users (by decide) emailFree
  have usersThen : withEmail.relations "users" = some (.table usersTable) := by
    rw [keptByEmail _ (by decide), users]
  have idFree : withEmail.relations "ix_users_id" = none := by
    rw [keptByEmail _ (by decide), kept _ (by decide)]
    exact free.relations _ (by simp)
  obtain ⟨withId, idCreated, keptById⟩ :=
    createIndex_of_free ⟨"users", ["id"], false⟩ usersThen (by decide) idFree
  have usersLast : withId.relations "users" = some (.table usersTable) := by
    rw [keptById _ (by decide), usersThen]
  have uuidFree : withId.relations "ix_users_user_uuid" = none := by
    rw [keptById _ (by decide), keptByEmail _ (by decide), kept _ (by decide)]
    exact free.relations _ (by simp)
  obtain ⟨withUuid, uuidCreated, -⟩ :=
    createIndex_of_free ⟨"users", ["user_uuid"], true⟩ usersLast (by decide) uuidFree
  have roleType : ¬ schema.TypeExists "userrole" := free.types _ (by simp)
  refine ⟨withUuid, upgrade_eq_ok.mpr ?_⟩
  exact ⟨roleType, withTable, withEmail, withId, tableCreated, emailCreated, idCreated,
    uuidCreated⟩

/-- The first upgrade succeeds exactly when the names it needs are free. -/
theorem upgrade_ok_iff : (∃ upgraded, upgrade schema = .ok upgraded) ↔ NamesFree schema := by
  constructor
  · intro succeeds
    obtain ⟨upgraded, done⟩ := succeeds
    exact namesFree_of_upgrade done
  · exact upgrade_of_namesFree

/-! ### Runs -/

theorem schemaAfter_two (done : upgrade schema = .ok upgraded) :
    schemaAfter schema 2 = .ok (withRoleType schema) := by
  have first : schemaAfter schema 1 = .ok upgraded := done
  have second : schemaAfter schema 2 = downgrade upgraded := by
    rw [schemaAfter, first]
    rfl
  rw [second, downgrade_of_upgrade done]

/-- From the second upgrade on nothing succeeds. -/
theorem schemaAfter_later (done : upgrade schema = .ok upgraded) (steps : Nat) :
    schemaAfter schema (steps + 3) = .error (.typeExists "userrole") := by
  induction steps with
  | zero =>
      rw [schemaAfter, schemaAfter_two done]
      exact upgrade_withRoleType schema
  | succ steps inductionHypothesis =>
      show schemaAfter schema ((steps + 3) + 1) = _
      rw [schemaAfter, inductionHypothesis]

theorem Reversible.namesFree {steps : Nat} (reversible : Reversible schema steps)
    (nonempty : 1 ≤ steps) : NamesFree schema := by
  apply upgrade_ok_iff.mp
  exact reversible.succeeds 1 nonempty

theorem Reversible.steps_le_one {steps : Nat} (unmigrated : Unmigrated schema)
    (reversible : Reversible schema steps) : steps ≤ 1 := by
  by_contra more
  have names := reversible.namesFree (by omega)
  obtain ⟨upgraded, done⟩ := upgrade_ok_iff.mpr names
  have restored : schemaAfter schema 2 = .ok schema := reversible.restores 1 (by omega)
  rw [schemaAfter_two done] at restored
  have same : (withRoleType schema).enumTypes "userrole" = schema.enumTypes "userrole" := by
    rw [Except.ok.inj restored]
  rw [enumTypes_withRoleType, Function.update_self, unmigrated.userrole] at same
  cases same

/-- The migration is reversible over the runs without a downgrade and over no other:
nothing, or a first upgrade that finds its names free. -/
theorem reversible_iff {schema : Schema} (unmigrated : Unmigrated schema) (steps : Nat) :
    Reversible schema steps ↔ steps = 0 ∨ steps = 1 ∧ NamesFree schema := by
  constructor
  · intro reversible
    have few := reversible.steps_le_one unmigrated
    by_cases none : steps = 0
    · exact Or.inl none
    · exact Or.inr ⟨by omega, reversible.namesFree (by omega)⟩
  · intro short
    have restores : ∀ round, 2 * round ≤ steps → schemaAfter schema (2 * round) = .ok schema := by
      intro round within
      obtain rfl : round = 0 := by omega
      rfl
    rcases short with rfl | ⟨rfl, names⟩
    · refine ⟨?_, restores, schema, ?_⟩
      · intro step within
        obtain rfl : step = 0 := by omega
        exact ⟨schema, rfl⟩
      · intro round within
        omega
    · obtain ⟨upgraded, done⟩ := upgrade_ok_iff.mpr names
      refine ⟨?_, restores, upgraded, ?_⟩
      · intro step within
        by_cases first : step = 0
        · exact ⟨schema, by rw [first]; rfl⟩
        · obtain rfl : step = 1 := by omega
          exact ⟨upgraded, done⟩
      · intro round within
        obtain rfl : round = 0 := by omega
        exact done

def emptySchema : Schema where
  relations := fun _ => none
  enumTypes := fun _ => none
  indexed := by
    intro name index impossible
    cases impossible

theorem emptySchema_unmigrated : Unmigrated emptySchema := by
  refine ⟨?_, ?_, rfl⟩
  · intro table impossible
    cases impossible
  · intro name _ index impossible
    cases impossible

theorem emptySchema_namesFree : NamesFree emptySchema := by
  refine ⟨fun _ _ => rfl, ?_⟩
  intro name _ taken
  rcases taken with isEnum | isTable
  · exact isEnum rfl
  · exact isTable rfl

theorem reversible_first_upgrade : Reversible emptySchema 1 :=
  (reversible_iff emptySchema_unmigrated 1).mpr (Or.inr ⟨rfl, emptySchema_namesFree⟩)

/-- On an empty schema the second upgrade finds the enum type of the first. -/
theorem not_reversible_second_upgrade :
    Unmigrated emptySchema ∧
      schemaAfter emptySchema 3 = .error (.typeExists "userrole") ∧
        ¬ Reversible emptySchema 3 := by
  obtain ⟨upgraded, done⟩ := upgrade_ok_iff.mpr emptySchema_namesFree
  have raised := schemaAfter_later done 0
  refine ⟨emptySchema_unmigrated, raised, ?_⟩
  intro reversible
  obtain ⟨reached, succeeded⟩ := reversible.succeeds 3 (Nat.le_refl 3)
  rw [raised] at succeeded
  cases succeeded

end DemoBase.Backend.InitialMigration
