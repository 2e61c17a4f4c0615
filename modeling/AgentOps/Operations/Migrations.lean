import AgentOps.Lib.JsonValue
import AgentOps.Lib.SessionLocks
import AgentOps.Lib.Table
import AgentOps.Lib.Text
import AgentOps.Lib.Transition
import Mathlib.Data.List.Infix
import Mathlib.Logic.Function.Basic

namespace AgentOps.Operations
open Lib

/-! # Migrations of the database -/

structure MigrationFile (σ : Type) where
  name : String
  sql : σ → Except String σ

namespace MigrationFile

variable {σ : Type}

def isSql (file : MigrationFile σ) : Bool := endsWith file.name ".sql"

/-- `file.replace(/\.sql$/, '')` -/
def id (file : MigrationFile σ) : String :=
  if file.isSql then String.ofList (file.name.toList.take (file.name.toList.length - ".sql".toList.length)) else file.name

end MigrationFile

def migrationFiles {σ : Type} (order : KeyOrder) (listing : List (MigrationFile σ)) : List (MigrationFile σ) :=
  (listing.filter (·.isSql)).insertionSort fun file file' => order.le file.name file'.name = true

/-- What the committed transactions have left; the table is missing before the first run. -/
structure MigrationDb (σ : Type) where
  schema : σ
  schemaMigrations : Option (Table (id : String → String))

def MigrationDb.ids {σ : Type} (db : MigrationDb σ) : List String :=
  (db.schemaMigrations.elim [] Table.rows).reverse

/-- The variables of the loop: the files still to be visited, the ids that were read before it, and `ran` -/
structure MigrationLoop (σ : Type) where
  files : List (MigrationFile σ)
  applied : List String
  ran : List String

/-- Where a call of `runMigrations` is, by what it does next -/
inductive MigrationRunner (σ : Type) where
  | connecting
  | locked
  | created
  | listed (files : List (MigrationFile σ))
  | looping (loop : MigrationLoop σ)
  | reading (file : MigrationFile σ) (loop : MigrationLoop σ)
  | beginning (file : MigrationFile σ) (loop : MigrationLoop σ)
  | began (file : MigrationFile σ) (loop : MigrationLoop σ)
  | executed (file : MigrationFile σ) (loop : MigrationLoop σ) (schema : σ)
  | inserted (file : MigrationFile σ) (loop : MigrationLoop σ) (schema : σ) (rows : Table (id : String → String))
  | unlocking (outcome : Except String (List String))
  | ended (outcome : Except String (List String))

def MIGRATION_ADVISORY_LOCK_ID : Int := 7054387463183534

def migrationFailed (id message : String) : String := "migration " ++ id ++ " failed: " ++ message

def duplicateMigration : String := "duplicate key value violates unique constraint \"schema_migrations_pkey\""

structure MigrationSystem (σ : Type) where
  db : MigrationDb σ
  locks : SessionLocks Nat Int
  runners : Nat → MigrationRunner σ

structure MigrationStep (σ : Type) where
  db : MigrationDb σ
  locks : SessionLocks Nat Int
  runner : MigrationRunner σ

variable {σ : Type}

namespace MigrationRunner

/-- The next line of the call. Within a transaction the script's schema is kept aside until the commit. -/
def proceed (order : KeyOrder) (listing : List (MigrationFile σ)) (session : Nat) (db : MigrationDb σ)
    (locks : SessionLocks Nat Int) : MigrationRunner σ → Option (MigrationStep σ)
  | connecting => (locks.tryLock session MIGRATION_ADVISORY_LOCK_ID).map fun locks => ⟨db, locks, locked⟩
  | locked => some ⟨{ db with schemaMigrations := some (db.schemaMigrations.getD .empty) }, locks, created⟩
  | created => some ⟨db, locks, listed (migrationFiles order listing)⟩
  | listed files =>
    match db.schemaMigrations with
    | none => some ⟨db, locks, unlocking (.error "relation \"schema_migrations\" does not exist")⟩
    | some rows => some ⟨db, locks, looping ⟨files, rows.rows, []⟩⟩
  | looping loop =>
    match loop.files with
    | [] => some ⟨db, locks, unlocking (.ok loop.ran)⟩
    | file :: files =>
      if file.id ∈ loop.applied then some ⟨db, locks, looping { loop with files := files }⟩
      else some ⟨db, locks, reading file { loop with files := files }⟩
  | reading file loop => some ⟨db, locks, beginning file loop⟩
  | beginning file loop => some ⟨db, locks, began file loop⟩
  | began file loop =>
    match file.sql db.schema with
    | .error message => some ⟨db, locks, unlocking (.error (migrationFailed file.id message))⟩
    | .ok schema => some ⟨db, locks, executed file loop schema⟩
  | executed file loop schema =>
    match db.schemaMigrations.bind (·.insert? file.id) with
    | none => some ⟨db, locks, unlocking (.error (migrationFailed file.id duplicateMigration))⟩
    | some rows => some ⟨db, locks, inserted file loop schema rows⟩
  | inserted file loop schema rows =>
    some ⟨⟨schema, some rows⟩, locks, looping { loop with ran := loop.ran ++ [file.id] }⟩
  | unlocking outcome => some ⟨db, locks.unlock session MIGRATION_ADVISORY_LOCK_ID, ended outcome⟩
  | ended _ => none

def throws (message : String) : MigrationRunner σ → Option (MigrationRunner σ)
  | connecting => some (ended (.error message))
  | locked | created | listed _ | reading _ _ => some (unlocking (.error message))
  | beginning file _ | began file _ | executed file _ _ | inserted file _ _ _ =>
    some (unlocking (.error (migrationFailed file.id message)))
  | unlocking _ => some (ended (.error message))
  | looping _ | ended _ => none

/-- The connection is lost: every later query throws, that of the unlock too. -/
def disconnects (message : String) : MigrationRunner σ → MigrationRunner σ
  | ended outcome => ended outcome
  | _ => ended (.error message)

def committing? : MigrationRunner σ → Option (MigrationFile σ)
  | inserted file _ _ _ => some file
  | _ => none

def executing? : MigrationRunner σ → Option (MigrationFile σ)
  | executed file _ _ => some file
  | _ => none

/-- The value of `ran` as long as the call has not failed -/
def ran? : MigrationRunner σ → Option (List String)
  | connecting | locked | created | listed _ => some []
  | looping loop | reading _ loop | beginning _ loop | began _ loop | executed _ loop _ | inserted _ loop _ _ =>
    some loop.ran
  | unlocking outcome | ended outcome => outcome.toOption

def returned? : MigrationRunner σ → Option (List String)
  | ended (.ok ran) => some ran
  | _ => none

def inside : MigrationRunner σ → Bool
  | connecting | ended _ => false
  | _ => true

end MigrationRunner

inductive MigrationEvent where
  | proceeds (session : Nat)
  | throws (session : Nat) (message : String)
  | disconnects (session : Nat) (message : String)
  deriving DecidableEq

namespace MigrationSystem

def start (db : MigrationDb σ) : MigrationSystem σ := ⟨db, .empty, fun _ => .connecting⟩

def put (s : MigrationSystem σ) (session : Nat) (after : MigrationStep σ) : MigrationSystem σ :=
  ⟨after.db, after.locks, Function.update s.runners session after.runner⟩

def step (order : KeyOrder) (listings : Nat → List (MigrationFile σ)) (s : MigrationSystem σ) :
    MigrationEvent → Option (MigrationSystem σ)
  | .proceeds session =>
    ((s.runners session).proceed order (listings session) session s.db s.locks).map (s.put session)
  | .throws session message =>
    ((s.runners session).throws message).map fun runner => s.put session ⟨s.db, s.locks, runner⟩
  | .disconnects session message =>
    some (s.put session ⟨s.db, s.locks.drop session, (s.runners session).disconnects message⟩)

end MigrationSystem

def committed? (s : MigrationSystem σ) : MigrationEvent → Option (Nat × MigrationFile σ)
  | .proceeds session => (s.runners session).committing?.map fun file => (session, file)
  | _ => none

def commits (events : List (MigrationSystem σ × MigrationEvent)) : List (Nat × MigrationFile σ) :=
  events.filterMap fun e => committed? e.1 e.2

def replay (files : List (MigrationFile σ)) (schema : σ) : Except String σ :=
  files.foldlM (fun schema file => file.sql schema) schema

end AgentOps.Operations
