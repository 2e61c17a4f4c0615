import AgentOps.Operations.Migrations

namespace AgentOps.Operations
open Lib

/-! # Runs of the migrations -/

variable {σ : Type} {order : KeyOrder} {listings : Nat → List (MigrationFile σ)} {listing sorted files : List (MigrationFile σ)}
variable {db : MigrationDb σ} {locks : SessionLocks Nat Int} {runner runner' : MigrationRunner σ} {after : MigrationStep σ}
variable {s s' : MigrationSystem σ} {events : List (MigrationSystem σ × MigrationEvent)} {session : Nat} {ran : List String}

theorem MigrationDb.ids_eq {rows : Table (id : String → String)} (some : db.schemaMigrations = some rows) :
    db.ids = rows.rows.reverse := by simp [ids, some]

structure MigrationLoop.Tracks (loop : MigrationLoop σ) (sorted pending : List (MigrationFile σ)) (db : MigrationDb σ) :
    Prop where
  rows : ∃ rows, db.schemaMigrations = some rows ∧ rows.rows = loop.ran.reverse ++ loop.applied
  visited : ∃ done, sorted = done ++ pending ∧ (∀ file ∈ done, file.id ∈ loop.applied ++ loop.ran) ∧
    ∀ id ∈ loop.ran, ∃ file ∈ done, file.id = id

namespace MigrationRunner

def Tracks (sorted : List (MigrationFile σ)) (db : MigrationDb σ) : MigrationRunner σ → Prop
  | connecting | locked | unlocking (.error _) | ended (.error _) => True
  | created => ∃ rows, db.schemaMigrations = some rows
  | listed files => files = sorted ∧ ∃ rows, db.schemaMigrations = some rows
  | looping loop => loop.Tracks sorted loop.files db
  | reading file loop | beginning file loop | began file loop =>
    loop.Tracks sorted (file :: loop.files) db ∧ file.id ∉ loop.applied
  | executed file loop schema =>
    (loop.Tracks sorted (file :: loop.files) db ∧ file.id ∉ loop.applied) ∧ file.sql db.schema = .ok schema
  | inserted file loop schema rows =>
    (loop.Tracks sorted (file :: loop.files) db ∧ file.id ∉ loop.applied) ∧ file.sql db.schema = .ok schema ∧
      ∃ before, db.schemaMigrations = some before ∧ before.insert? file.id = some rows
  | unlocking (.ok _) | ended (.ok _) => ∀ file ∈ sorted, file.id ∈ db.ids

inductive Proceeds (session : Nat) (db : MigrationDb σ) (locks : SessionLocks Nat Int) :
    MigrationRunner σ → MigrationStep σ → Prop where
  | acquires {locks' : SessionLocks Nat Int} (acquired : locks.tryLock session MIGRATION_ADVISORY_LOCK_ID = some locks') :
      Proceeds session db locks connecting ⟨db, locks', locked⟩
  | creates : Proceeds session db locks locked
      ⟨{ db with schemaMigrations := some (db.schemaMigrations.getD .empty) }, locks, created⟩
  | reads {runner runner' : MigrationRunner σ} (inside : runner.inside = true) (none : runner.committing? = none)
      (ran : ∀ ran, runner'.ran? = some ran → runner.ran? = some ran) : Proceeds session db locks runner ⟨db, locks, runner'⟩
  | commits (file : MigrationFile σ) (loop : MigrationLoop σ) (schema : σ) (rows : Table (id : String → String)) :
      Proceeds session db locks (inserted file loop schema rows)
        ⟨⟨schema, some rows⟩, locks, looping { loop with ran := loop.ran ++ [file.id] }⟩
  | releases (outcome : Except String (List String)) : Proceeds session db locks (unlocking outcome)
      ⟨db, locks.unlock session MIGRATION_ADVISORY_LOCK_ID, ended outcome⟩

theorem proceeds_of (proceeds : runner.proceed order listing session db locks = some after) :
    Proceeds session db locks runner after := by
  cases runner with
  | connecting =>
    obtain ⟨locks', acquired, rfl⟩ := Option.map_eq_some_iff.mp proceeds
    exact .acquires acquired
  | locked =>
    obtain rfl := Option.some.inj proceeds
    exact .creates
  | created | reading file loop | beginning file loop =>
    obtain rfl := Option.some.inj proceeds
    exact .reads rfl rfl fun _ same => same
  | listed files | began file loop | executed file loop schema =>
    simp only [proceed] at proceeds
    split at proceeds <;> obtain rfl := Option.some.inj proceeds
    · refine .reads rfl rfl fun _ failed => ?_
      cases failed
    · exact .reads rfl rfl fun _ same => same
  | looping loop =>
    simp only [proceed] at proceeds
    split at proceeds
    · obtain rfl := Option.some.inj proceeds
      exact .reads rfl rfl fun _ same => same
    · split at proceeds <;> obtain rfl := Option.some.inj proceeds <;> exact .reads rfl rfl fun _ same => same
  | inserted file loop schema rows =>
    obtain rfl := Option.some.inj proceeds
    exact .commits file loop schema rows
  | unlocking outcome =>
    obtain rfl := Option.some.inj proceeds
    exact .releases outcome
  | ended outcome => cases proceeds

theorem Proceeds.db_eq (proceeds : Proceeds session db locks runner after) : after.db = db ∨ runner.inside = true := by
  cases proceeds with
  | acquires | releases => exact .inl rfl
  | reads inside => exact .inr inside
  | creates | commits => exact .inr rfl

theorem tracks_commit {file : MigrationFile σ} {loop : MigrationLoop σ} {schema : σ} {rows : Table (id : String → String)}
    (tracks : (inserted file loop schema rows).Tracks sorted db) :
    (looping { loop with ran := loop.ran ++ [file.id] }).Tracks sorted ⟨schema, some rows⟩ := by
  obtain ⟨⟨⟨⟨before, present, read⟩, done, rfl, seen, own⟩, -⟩, -, before', present', inserted⟩ := tracks
  obtain rfl : before = before' := Option.some.inj (present.symm.trans present')
  refine ⟨⟨rows, rfl, ?_⟩, done ++ [file], by simp, ?_, ?_⟩
  · rw [(Table.insert?_eq_some inserted).1, read]
    simp
  · intro other member
    rcases List.mem_append.mp member with earlier | last
    · have there := seen other earlier
      simp only [List.mem_append] at there ⊢
      tauto
    · obtain rfl := List.mem_singleton.mp last
      simp
  · intro id member
    rcases List.mem_append.mp member with earlier | last
    · obtain ⟨other, inDone, named⟩ := own id earlier
      exact ⟨other, List.mem_append_left _ inDone, named⟩
    · exact ⟨file, by simp, (List.mem_singleton.mp last).symm⟩

theorem tracks_proceed (proceeds : runner.proceed order listing session db locks = some after)
    (tracks : runner.Tracks (migrationFiles order listing) db) :
    after.runner.Tracks (migrationFiles order listing) after.db := by
  cases runner with
  | connecting =>
    obtain ⟨taken, -, rfl⟩ := Option.map_eq_some_iff.mp proceeds
    trivial
  | locked =>
    obtain rfl := Option.some.inj proceeds
    exact ⟨_, rfl⟩
  | created =>
    obtain rfl := Option.some.inj proceeds
    exact ⟨rfl, tracks⟩
  | listed files =>
    obtain ⟨rfl, rows, present⟩ := tracks
    simp only [proceed, present, Option.some.injEq] at proceeds
    subst proceeds
    exact ⟨⟨rows, present, by simp⟩, [], rfl, by simp, by simp⟩
  | looping loop =>
    obtain ⟨files, applied, ran⟩ := loop
    obtain ⟨⟨rows, present, read⟩, done, split, seen, own⟩ := tracks
    cases files with
    | nil =>
      obtain rfl := Option.some.inj proceeds
      intro file member
      rw [split, List.append_nil] at member
      rw [MigrationDb.ids_eq present, read]
      have there := seen file member
      simp only [List.mem_append, List.mem_reverse] at there ⊢
      tauto
    | cons file files =>
      simp only [proceed] at proceeds
      split at proceeds <;> rename_i known <;> obtain rfl := Option.some.inj proceeds
      · refine ⟨⟨rows, present, read⟩, done ++ [file], by simp [split], ?_, ?_⟩
        · intro other member
          rcases List.mem_append.mp member with earlier | last
          · exact seen other earlier
          · obtain rfl := List.mem_singleton.mp last
            exact List.mem_append_left _ known
        · intro id member
          obtain ⟨other, inDone, named⟩ := own id member
          exact ⟨other, List.mem_append_left _ inDone, named⟩
      · exact ⟨⟨⟨rows, present, read⟩, done, split, seen, own⟩, known⟩
  | reading file loop | beginning file loop =>
    obtain rfl := Option.some.inj proceeds
    exact tracks
  | began file loop =>
    simp only [proceed] at proceeds
    split at proceeds <;> obtain rfl := Option.some.inj proceeds
    · trivial
    · rename_i schema carried
      exact ⟨tracks, carried⟩
  | executed file loop schema =>
    simp only [proceed] at proceeds
    split at proceeds <;> obtain rfl := Option.some.inj proceeds
    · trivial
    · rename_i rows inserted
      exact ⟨tracks.1, tracks.2, Option.bind_eq_some_iff.mp inserted⟩
  | inserted file loop schema rows =>
    obtain rfl := Option.some.inj proceeds
    exact tracks_commit tracks
  | unlocking outcome =>
    obtain rfl := Option.some.inj proceeds
    cases outcome <;> exact tracks
  | ended outcome => cases proceeds

theorem Proceeds.ids (proceeds : Proceeds session db locks runner after) (tracks : runner.Tracks sorted db) :
    ∀ id ∈ db.ids, id ∈ after.db.ids := by
  intro id member
  cases proceeds with
  | acquires | reads | releases => exact member
  | creates =>
    cases present : db.schemaMigrations with
    | none => simp [MigrationDb.ids, present] at member
    | some rows => simpa [MigrationDb.ids, present] using member
  | commits file loop schema rows =>
    obtain ⟨-, -, before, present, inserted⟩ := tracks
    rw [MigrationDb.ids_eq present] at member
    simp only [MigrationDb.ids, Option.elim_some, (Table.insert?_eq_some inserted).1, List.reverse_cons]
    exact List.mem_append_left _ member

theorem Proceeds.holds (proceeds : Proceeds session db locks runner after)
    (held : runner.inside = true → locks.Holds session MIGRATION_ADVISORY_LOCK_ID) (inside : after.runner.inside = true) :
    after.locks.Holds session MIGRATION_ADVISORY_LOCK_ID := by
  cases proceeds with
  | acquires acquired => exact (SessionLocks.holds_tryLock acquired).mpr (.inl ⟨rfl, rfl⟩)
  | creates | commits => exact held rfl
  | reads before => exact held before
  | releases => cases inside

theorem Proceeds.others (proceeds : Proceeds session db locks runner after) {other : Nat} (different : other ≠ session)
    (holds : locks.Holds other MIGRATION_ADVISORY_LOCK_ID) : after.locks.Holds other MIGRATION_ADVISORY_LOCK_ID := by
  cases proceeds with
  | acquires acquired => exact (SessionLocks.holds_tryLock acquired).mpr (.inr holds)
  | creates | commits | reads => exact holds
  | releases => exact holds.unlock different

theorem Proceeds.ran_eq (proceeds : Proceeds session db locks runner after) (ran? : after.runner.ran? = some ran) :
    ∃ before, runner.ran? = some before ∧ ran = before ++ runner.committing?.toList.map (·.id) := by
  cases proceeds with
  | acquires | creates | releases => exact ⟨ran, ran?, by simp [committing?]⟩
  | reads inside none kept => exact ⟨ran, kept ran ran?, by simp [none]⟩
  | commits file loop schema rows =>
    obtain rfl := Option.some.inj ran?
    exact ⟨loop.ran, rfl, rfl⟩

theorem tracks_throws {message : String} (thrown : runner.throws message = some runner') : runner'.Tracks sorted db := by
  cases runner <;> first | (cases thrown; trivial) | cases thrown

theorem inside_throws {message : String} (thrown : runner.throws message = some runner') (inside : runner'.inside = true) :
    runner.inside = true := by
  cases runner <;> first | rfl | cases thrown <;> cases inside

theorem tracks_disconnects {message : String} (tracks : runner.Tracks sorted db) :
    (runner.disconnects message).Tracks sorted db := by
  cases runner <;> first | exact tracks | trivial

theorem inside_disconnects (runner : MigrationRunner σ) (message : String) : (runner.disconnects message).inside = false := by
  cases runner <;> rfl

theorem Tracks.outside {db' : MigrationDb σ} (tracks : runner.Tracks sorted db) (outside : runner.inside = false)
    (grown : ∀ id ∈ db.ids, id ∈ db'.ids) : runner.Tracks sorted db' := by
  cases runner with
  | connecting => trivial
  | ended outcome =>
    cases outcome with
    | error message => trivial
    | ok ran => exact fun file member => grown _ (tracks file member)
  | _ => cases outside

end MigrationRunner

structure MigrationSystem.Coherent (order : KeyOrder) (listings : Nat → List (MigrationFile σ)) (s : MigrationSystem σ) :
    Prop where
  held : ∀ session, (s.runners session).inside = true → s.locks.Holds session MIGRATION_ADVISORY_LOCK_ID
  tracks : ∀ session, (s.runners session).Tracks (migrationFiles order (listings session)) s.db

namespace MigrationSystem

@[simp] theorem put_db (s : MigrationSystem σ) (session : Nat) (after : MigrationStep σ) :
    (s.put session after).db = after.db := rfl

theorem Coherent.one_inside (coherent : s.Coherent order listings) {session' : Nat}
    (inside : (s.runners session).inside = true) (inside' : (s.runners session').inside = true) : session = session' :=
  (coherent.held _ inside).unique (coherent.held _ inside')

theorem Coherent.put (coherent : s.Coherent order listings)
    (own : after.runner.inside = true → after.locks.Holds session MIGRATION_ADVISORY_LOCK_ID)
    (others : ∀ other, other ≠ session → s.locks.Holds other MIGRATION_ADVISORY_LOCK_ID →
      after.locks.Holds other MIGRATION_ADVISORY_LOCK_ID)
    (unchanged : after.db = s.db ∨ (s.runners session).inside = true) (grown : ∀ id ∈ s.db.ids, id ∈ after.db.ids)
    (tracks : after.runner.Tracks (migrationFiles order (listings session)) after.db) :
    (s.put session after).Coherent order listings where
  held other inside := by
    by_cases same : other = session
    · subst same
      exact own (by simpa [MigrationSystem.put] using inside)
    · exact others other same (coherent.held other (by simpa [MigrationSystem.put, same] using inside))
  tracks other := by
    by_cases same : other = session
    · subst same
      simpa [MigrationSystem.put] using tracks
    · simp only [MigrationSystem.put, Function.update_of_ne same]
      rcases unchanged with kept | inside
      · rw [kept]
        exact coherent.tracks other
      · refine (coherent.tracks other).outside ?_ grown
        by_contra also
        exact same (coherent.one_inside (by simpa using also) inside)

theorem Coherent.proceeds (coherent : s.Coherent order listings)
    (taken : (s.runners session).proceed order (listings session) session s.db s.locks = some after) :
    (s.put session after).Coherent order listings := by
  have tracks := coherent.tracks session
  have proceeds := MigrationRunner.proceeds_of taken
  exact coherent.put (proceeds.holds (coherent.held session)) (fun _ different => proceeds.others different) proceeds.db_eq
    (proceeds.ids tracks) (MigrationRunner.tracks_proceed taken tracks)

theorem Coherent.step {event : MigrationEvent} (coherent : s.Coherent order listings)
    (taken : MigrationSystem.step order listings s event = some s') : s'.Coherent order listings := by
  cases event with
  | proceeds session =>
    obtain ⟨after, proceeds, rfl⟩ := Option.map_eq_some_iff.mp taken
    exact coherent.proceeds proceeds
  | throws session message =>
    obtain ⟨runner, thrown, rfl⟩ := Option.map_eq_some_iff.mp taken
    refine coherent.put (fun inside => ?_) (fun _ _ holds => holds) (.inl rfl) (fun _ member => member)
      (MigrationRunner.tracks_throws thrown)
    exact coherent.held session (MigrationRunner.inside_throws thrown inside)
  | disconnects session message =>
    obtain rfl := Option.some.inj taken
    refine coherent.put (fun inside => ?_) (fun other different holds => ?_) (.inl rfl) (fun _ member => member)
      (MigrationRunner.tracks_disconnects (coherent.tracks session))
    · rw [MigrationRunner.inside_disconnects] at inside
      cases inside
    · exact SessionLocks.holds_drop.mpr ⟨different, holds⟩

/-- A step leaves what is recorded and the schema alone, or commits the first file of its call that is not recorded. -/
inductive Commits (order : KeyOrder) (listings : Nat → List (MigrationFile σ)) (s s' : MigrationSystem σ) :
    Option (Nat × MigrationFile σ) → Prop where
  | none (ids : s'.db.ids = s.db.ids) (schema : s'.db.schema = s.db.schema) : Commits order listings s s' none
  | one (session : Nat) (file : MigrationFile σ) (done rest : List (MigrationFile σ))
      (ids : s'.db.ids = s.db.ids ++ [file.id]) (fresh : file.id ∉ s.db.ids) (carried : file.sql s.db.schema = .ok s'.db.schema)
      (listed : migrationFiles order (listings session) = done ++ file :: rest) (before : ∀ f ∈ done, f.id ∈ s.db.ids) :
      Commits order listings s s' (some (session, file))

theorem Coherent.commits_proceeds (coherent : s.Coherent order listings)
    (taken : (s.runners session).proceed order (listings session) session s.db s.locks = some after) :
    Commits order listings s (s.put session after) (committed? s (.proceeds session)) := by
  have tracks := coherent.tracks session
  have proceeds := MigrationRunner.proceeds_of taken
  simp only [committed?]
  generalize s.runners session = runner at proceeds tracks
  cases proceeds with
  | acquires | releases => exact .none rfl rfl
  | creates =>
    refine .none ?_ rfl
    cases present : s.db.schemaMigrations <;> simp [MigrationDb.ids, present, Table.empty]
  | reads inside none =>
    rw [none]
    exact .none rfl rfl
  | commits file loop schema rows =>
    obtain ⟨⟨⟨⟨before, present, read⟩, done, split, seen, -⟩, -⟩, carried, before', present', inserted⟩ := tracks
    obtain rfl : before = before' := Option.some.inj (present.symm.trans present')
    have ids : s.db.ids = before.rows.reverse := MigrationDb.ids_eq present
    have fresh := Table.find?_eq_none.mp (Table.insert?_eq_some inserted).2
    refine .one session file done loop.files ?_ ?_ carried split ?_
    · rw [put_db, ids, MigrationDb.ids_eq rfl, (Table.insert?_eq_some inserted).1, List.reverse_cons]
    · intro recorded
      rw [ids, List.mem_reverse] at recorded
      exact fresh _ recorded rfl
    · intro f member
      have there := seen f member
      rw [ids, read]
      simp only [List.mem_append, List.mem_reverse] at there ⊢
      tauto

theorem Coherent.commits {event : MigrationEvent} (coherent : s.Coherent order listings)
    (taken : MigrationSystem.step order listings s event = some s') : Commits order listings s s' (committed? s event) := by
  cases event with
  | proceeds session =>
    obtain ⟨after, proceeds, rfl⟩ := Option.map_eq_some_iff.mp taken
    exact coherent.commits_proceeds proceeds
  | throws session message =>
    obtain ⟨runner, thrown, rfl⟩ := Option.map_eq_some_iff.mp taken
    exact .none rfl rfl
  | disconnects session message =>
    obtain rfl := Option.some.inj taken
    exact .none rfl rfl

theorem coherent_start (db : MigrationDb σ) : (start db).Coherent order listings where
  held _ inside := by cases inside
  tracks _ := trivial

theorem coherent_of_run (run : Run (step order listings) (start db) events s) : s.Coherent order listings :=
  run.always (fun s => s.Coherent order listings) (coherent_start db) fun _ _ _ coherent taken => coherent.step taken

end MigrationSystem

theorem replay_append (files files' : List (MigrationFile σ)) (schema : σ) :
    replay (files ++ files') schema = (replay files schema).bind (replay files') := List.foldlM_append ..

theorem commits_append (events : List (MigrationSystem σ × MigrationEvent)) (s : MigrationSystem σ) (event : MigrationEvent) :
    commits (events ++ [(s, event)]) = commits events ++ (committed? s event).toList := by
  simp only [commits, List.filterMap_append]
  cases found : committed? s event <;> simp [found]

def script (name : String) : MigrationFile (List String) := ⟨name, fun schema => .ok (schema ++ [name])⟩

def untouched : MigrationDb (List String) := ⟨[], none⟩

def rivalListings : Nat → List (MigrationFile (List String))
  | 0 => [script "README.md", script "0002_b.sql", script "0001_a.sql"]
  | _ => [script "0003_c.sql", script "0001_a.sql", script "0002_b.sql"]

def rivals : List MigrationEvent :=
  List.replicate 14 (.proceeds 0) ++ [.disconnects 0 "terminated"] ++ List.replicate 19 (.proceeds 1)

theorem rivals_run : ∃ events s, Run (MigrationSystem.step .codePoints rivalListings) (.start untouched) events s ∧
    (commits events).map (fun commit => (commit.1, commit.2.id)) = [(0, "0001_a"), (1, "0002_b"), (1, "0003_c")] ∧
      (s.runners 1).returned? = some ["0002_b", "0003_c"] :=
  exists_run_with rivals (fun events s =>
    (commits events).map (fun commit => (commit.1, commit.2.id)) = [(0, "0001_a"), (1, "0002_b"), (1, "0003_c")] ∧
      (s.runners 1).returned? = some ["0002_b", "0003_c"]) (by decide +kernel)

/-- Whatever directories the calls read and wherever they fail: what is recorded is what has been committed, each once,
and the schema is what the committed scripts make of it in that order. -/
theorem migrations_replayed (run : Run (MigrationSystem.step order listings) (.start db) events s) :
    s.db.ids = db.ids ++ (commits events).map (·.2.id) ∧ s.db.ids.Nodup ∧
      replay ((commits events).map (·.2)) db.schema = .ok s.db.schema := by
  have anything : Conforms (fun _ _ => True) events := fun _ _ => trivial
  have recorded := run.history (fun events s => s.db.ids = db.ids ++ (commits events).map (·.2.id) ∧
      replay ((commits events).map (·.2)) db.schema = .ok s.db.schema) anything
    ⟨by simp [commits, MigrationSystem.start], rfl⟩ (by
    intro events s event s' before _ ih _ taken
    obtain ⟨ids, replayed⟩ := ih
    have step := (MigrationSystem.coherent_of_run before).commits taken
    rw [commits_append]
    cases found : committed? s event with
    | none =>
      rw [found] at step
      cases step with
      | none ids' schema => simpa [ids', schema] using ⟨ids, replayed⟩
    | some commit =>
      rw [found] at step
      cases step with
      | one session file done rest ids' fresh carried listed before =>
        refine ⟨by simp [ids', ids], ?_⟩
        rw [List.map_append, replay_append, replayed]
        simpa [Except.bind, replay] using carried)
  refine ⟨recorded.1, ?_, recorded.2⟩
  cases present : s.db.schemaMigrations with
  | none => simp [MigrationDb.ids, present]
  | some rows =>
    rw [MigrationDb.ids_eq present, List.nodup_reverse]
    simpa using rows.distinct

theorem migrations_replayed_rivals : ∃ events s,
    Run (MigrationSystem.step .codePoints rivalListings) (.start untouched) events s ∧
    (commits events).map (fun commit => (commit.1, commit.2.id)) = [(0, "0001_a"), (1, "0002_b"), (1, "0003_c")] ∧
    s.db.ids = untouched.ids ++ (commits events).map (·.2.id) ∧ s.db.ids.Nodup ∧
      replay ((commits events).map (·.2)) untouched.schema = .ok s.db.schema := by
  obtain ⟨events, s, run, committed, -⟩ := rivals_run
  exact ⟨events, s, run, committed, migrations_replayed run⟩

/-- The database has come as far as the last of some first files, each carried out once and recorded. -/
def Upgraded (base : σ) (files : List (MigrationFile σ)) (db : MigrationDb σ) : Prop :=
  ∃ done, done <+: files ∧ db.ids = done.map (·.id) ∧ replay done base = .ok db.schema

theorem next_of_prefix {done done' rest : List (MigrationFile σ)} {file : MigrationFile σ}
    (distinct : (files.map (·.id)).Nodup) (upTo : done <+: files) (listed : done' ++ file :: rest <+: files)
    (fresh : file.id ∉ done.map (·.id)) (before : ∀ f ∈ done', f.id ∈ done.map (·.id)) : done = done' := by
  have upTo' : done' ++ [file] <+: files := (List.prefix_append_right_inj done').mpr ⟨rest, rfl⟩ |>.trans listed
  have notPast : ¬done' ++ [file] <+: done := fun past =>
    fresh (List.mem_map_of_mem (past.subset (by simp)))
  have short : done <+: done' := by
    rcases List.prefix_or_prefix_of_prefix upTo upTo' with short | past
    · rcases List.prefix_concat_iff.mp short with same | short
      · exact absurd ⟨[], by simp [same]⟩ notPast
      · exact short
    · exact absurd past notPast
  obtain ⟨extra, rfl⟩ := short
  cases extra with
  | nil => simp
  | cons f extra =>
    obtain ⟨tail, rfl⟩ := upTo'
    have again := before f (by simp)
    rw [List.append_assoc, List.append_assoc, List.map_append, List.nodup_append] at distinct
    exact absurd rfl (distinct.2.2 _ again f.id (by simp))

theorem MigrationSystem.Commits.upgraded {base : σ} {commit : Option (Nat × MigrationFile σ)}
    (commits : MigrationSystem.Commits order listings s s' commit) (distinct : (files.map (·.id)).Nodup)
    (ordered : ∀ session, migrationFiles order (listings session) <+: files) (upgraded : Upgraded base files s.db) :
    Upgraded base files s'.db := by
  obtain ⟨done, upTo, ids, replayed⟩ := upgraded
  cases commits with
  | none ids' schema => exact ⟨done, upTo, by rw [ids', ids], by rw [schema, replayed]⟩
  | one session file done' rest ids' fresh carried listed before =>
    have listed' : done' ++ file :: rest <+: files := listed ▸ ordered session
    obtain rfl : done = done' := next_of_prefix distinct upTo listed' (ids ▸ fresh) fun f member => ids ▸ before f member
    refine ⟨done ++ [file], ?_, by simp [ids', ids], ?_⟩
    · exact ((List.prefix_append_right_inj done).mpr ⟨rest, rfl⟩).trans listed'
    · rw [replay_append, replayed]
      simpa [Except.bind, replay] using carried

/-- Where every call reads a first part of the same files, in whatever order the directory lists them, the database goes
from one file to the next. -/
theorem migrations_upgraded {base : σ} (distinct : (files.map (·.id)).Nodup)
    (ordered : ∀ session, migrationFiles order (listings session) <+: files) (upgraded : Upgraded base files db)
    (run : Run (MigrationSystem.step order listings) (.start db) events s) : Upgraded base files s.db := by
  have both := run.always (fun s => s.Coherent order listings ∧ Upgraded base files s.db)
    ⟨MigrationSystem.coherent_start db, upgraded⟩ fun _ _ _ inv taken =>
      ⟨inv.1.step taken, (inv.1.commits taken).upgraded distinct ordered inv.2⟩
  exact both.2

theorem migrations_upgraded_rivals : ∃ events s,
    Run (MigrationSystem.step .codePoints rivalListings) (.start untouched) events s ∧
    Upgraded [] [script "0001_a.sql", script "0002_b.sql", script "0003_c.sql"] s.db := by
  obtain ⟨events, s, run, -⟩ := rivals_run
  refine ⟨events, s, run, migrations_upgraded (by decide +kernel) (fun session => ?_) ⟨[], List.nil_prefix, rfl, rfl⟩ run⟩
  rcases session with _ | session
  · exact ⟨[script "0003_c.sql"], rfl⟩
  · exact ⟨[], rfl⟩

theorem MigrationRunner.ran_throws {message : String} (thrown : runner.throws message = some runner') :
    runner'.ran? = none := by
  cases runner <;> first | (cases thrown; rfl) | cases thrown

theorem MigrationRunner.ran_disconnects {message : String} (ran? : (runner.disconnects message).ran? = some ran) :
    runner.ran? = some ran := by
  cases runner <;> first | exact ran? | cases ran?

def commitsOf (session : Nat) (events : List (MigrationSystem σ × MigrationEvent)) : List String :=
  ((commits events).filter fun commit => commit.1 = session).map (·.2.id)

theorem commitsOf_append (session : Nat) (events : List (MigrationSystem σ × MigrationEvent)) (s : MigrationSystem σ)
    (event : MigrationEvent) : commitsOf session (events ++ [(s, event)]) = commitsOf session events ++
      ((committed? s event).toList.filter fun commit => commit.1 = session).map (·.2.id) := by
  simp [commitsOf, commits_append]

theorem ran_of_run (run : Run (MigrationSystem.step order listings) (.start db) events s)
    (ran? : (s.runners session).ran? = some ran) : ran = commitsOf session events := by
  induction run generalizing ran with
  | start => simpa [MigrationSystem.start, MigrationRunner.ran?, commitsOf, commits, eq_comm] using ran?
  | @next events s s' event before taken ih =>
    rw [commitsOf_append]
    cases event with
    | proceeds session' =>
      obtain ⟨after, proceeds, rfl⟩ := Option.map_eq_some_iff.mp taken
      by_cases same : session = session'
      · subst same
        obtain ⟨earlier, known, rfl⟩ := (MigrationRunner.proceeds_of proceeds).ran_eq (by simpa [MigrationSystem.put] using ran?)
        rw [ih known]
        cases committing : (s.runners session).committing? <;> simp [committed?, committing]
      · obtain rfl : ran = commitsOf session events := ih (by simpa [MigrationSystem.put, same] using ran?)
        cases committing : (s.runners session').committing? <;> simp [committed?, committing, Ne.symm same]
    | throws session' message =>
      obtain ⟨runner, thrown, rfl⟩ := Option.map_eq_some_iff.mp taken
      by_cases same : session = session'
      · subst same
        have failed := MigrationRunner.ran_throws thrown
        simp [MigrationSystem.put, failed] at ran?
      · obtain rfl : ran = commitsOf session events := ih (by simpa [MigrationSystem.put, same] using ran?)
        simp [committed?]
    | disconnects session' message =>
      obtain rfl := Option.some.inj taken
      by_cases same : session = session'
      · subst same
        obtain rfl : ran = commitsOf session events :=
          ih (MigrationRunner.ran_disconnects (by simpa [MigrationSystem.put] using ran?))
        simp [committed?]
      · obtain rfl : ran = commitsOf session events := ih (by simpa [MigrationSystem.put, same] using ran?)
        simp [committed?]

theorem mem_migrationFiles {file : MigrationFile σ} : file ∈ migrationFiles order listing ↔ file ∈ listing ∧ file.isSql := by
  simp [migrationFiles]

theorem MigrationRunner.ended_of_returned? (returned : runner.returned? = some ran) : runner = ended (.ok ran) := by
  cases runner with
  | ended outcome =>
    cases outcome with
    | error message => cases returned
    | ok ran' => rw [Option.some.inj returned]
  | _ => cases returned

/-- A call that returns leaves every file of its directory recorded, and returns what it has committed itself. -/
theorem migrations_returned (run : Run (MigrationSystem.step order listings) (.start db) events s)
    (returned : s.runners session = .ended (.ok ran)) :
    (∀ file ∈ listings session, file.isSql = true → file.id ∈ s.db.ids) ∧ ran = commitsOf session events := by
  have tracks := (MigrationSystem.coherent_of_run run).tracks session
  rw [returned] at tracks
  exact ⟨fun file member sql => tracks file (mem_migrationFiles.mpr ⟨member, sql⟩), ran_of_run run (by rw [returned]; rfl)⟩

theorem migrations_returned_rivals : ∃ events s,
    Run (MigrationSystem.step .codePoints rivalListings) (.start untouched) events s ∧
    s.runners 1 = .ended (.ok ["0002_b", "0003_c"]) ∧
      (∀ file ∈ rivalListings 1, file.isSql = true → file.id ∈ s.db.ids) ∧ ["0002_b", "0003_c"] = commitsOf 1 events := by
  obtain ⟨events, s, run, -, returned⟩ := rivals_run
  have ended := MigrationRunner.ended_of_returned? returned
  exact ⟨events, s, run, ended, migrations_returned run ended⟩

theorem MigrationFile.name_eq {file : MigrationFile σ} (sql : file.isSql = true) :
    file.name.toList = file.id.toList ++ ".sql".toList := by
  obtain ⟨stem, split⟩ := List.isSuffixOf_iff_suffix.mp sql
  rw [id, if_pos sql, ← split]
  simp

theorem nodup_ids (names : (listing.map (·.name)).Nodup) : ((migrationFiles order listing).map (·.id)).Nodup := by
  have perm : (migrationFiles order listing).Perm (listing.filter (·.isSql)) := List.perm_insertionSort _ _
  rw [(perm.map _).nodup_iff]
  have apart : ((listing.filter (·.isSql)).map (·.name)).Nodup := names.sublist (List.filter_sublist.map _)
  refine (List.nodup_map_iff_inj_on apart.of_map).mpr fun file member file' member' same => ?_
  refine List.inj_on_of_nodup_map apart member member' (String.toList_injective ?_)
  rw [MigrationFile.name_eq (List.of_mem_filter member), MigrationFile.name_eq (List.of_mem_filter member'), same]

theorem MigrationRunner.executed_of_executing? {file : MigrationFile σ} (executing : runner.executing? = some file) :
    ∃ loop schema, runner = executed file loop schema := by
  cases runner <;> first | (obtain rfl := Option.some.inj executing; exact ⟨_, _, rfl⟩) | cases executing

/-- No insert finds its id recorded: who has carried a script out is alone with the table. -/
theorem migrations_insert (names : ∀ session, ((listings session).map (·.name)).Nodup) {file : MigrationFile σ}
    (run : Run (MigrationSystem.step order listings) (.start db) events s)
    (executing : (s.runners session).executing? = some file) :
    (∀ other, (s.runners other).inside = true → other = session) ∧
      ∃ after, (s.runners session).proceed order (listings session) session s.db s.locks = some after ∧
        after.runner.committing? = some file := by
  have coherent := MigrationSystem.coherent_of_run run
  obtain ⟨loop, schema, executed⟩ := MigrationRunner.executed_of_executing? executing
  have inside : (s.runners session).inside = true := by rw [executed]; rfl
  refine ⟨fun other also => coherent.one_inside also inside, ?_⟩
  have tracks := coherent.tracks session
  rw [executed] at tracks
  obtain ⟨⟨⟨⟨rows, present, read⟩, done, split, -, own⟩, fresh⟩, -⟩ := tracks
  have distinct : ((migrationFiles order (listings session)).map (·.id)).Nodup := nodup_ids (names session)
  rw [split, List.map_append, List.nodup_append] at distinct
  have unused : rows.find? file.id = none := by
    refine Table.find?_eq_none.mpr fun id member same => ?_
    obtain rfl : id = file.id := same
    rw [Table.mem_def, read, List.mem_append, List.mem_reverse] at member
    rcases member with mine | known
    · obtain ⟨f, member, same⟩ := own _ mine
      exact distinct.2.2 f.id (List.mem_map_of_mem member) file.id (by simp) same
    · exact fresh known
  obtain ⟨rows', inserted⟩ := Option.isSome_iff_exists.mp (Table.insert?_isSome (r := file.id) unused)
  exact ⟨⟨s.db, s.locks, .inserted file loop schema rows'⟩, by simp [executed, MigrationRunner.proceed, present, inserted], rfl⟩

theorem migrations_insert_rivals : ∃ events s file,
    Run (MigrationSystem.step .codePoints rivalListings) (.start untouched) events s ∧
    (s.runners 0).executing? = some file ∧ (∀ other, (s.runners other).inside = true → other = 0) ∧
      ∃ after, (s.runners 0).proceed .codePoints (rivalListings 0) 0 s.db s.locks = some after ∧
        after.runner.committing? = some file := by
  obtain ⟨events, s, run, executing⟩ : ∃ events s, Run (MigrationSystem.step .codePoints rivalListings) (.start untouched)
      events s ∧ (s.runners 0).executing?.isSome = true :=
    exists_run (List.replicate 8 (MigrationEvent.proceeds 0))
      (fun s : MigrationSystem (List String) => (s.runners 0).executing?.isSome = true) (by decide +kernel)
  obtain ⟨file, executing⟩ := Option.isSome_iff_exists.mp executing
  refine ⟨events, s, file, run, executing, migrations_insert (fun session => ?_) run executing⟩
  rcases session with _ | session <;> simp [rivalListings, script]

end AgentOps.Operations
