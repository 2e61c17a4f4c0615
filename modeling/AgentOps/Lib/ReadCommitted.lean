import AgentOps.Lib.Table
import AgentOps.Lib.Transition

namespace AgentOps.Lib

/-! # Transactions under READ COMMITTED

A statement reads what is committed when it runs. What a transaction writes takes effect when it commits; from the
statement that writes it until then, the rows are locked against the other transactions. -/

structure Transactions (δ φ ε κ : Type) where
  opens : φ → Bool
  statement : δ → φ → ε → Option φ
  commit : δ → φ → Option (δ × φ)
  locks : φ → List κ
  opens_free : ∀ phase, opens phase = true → locks phase = []
  commit_free : ∀ db phase db' phase', commit db phase = some (db', phase') → locks phase' = []

structure Session (φ : Type) where
  id : Nat
  phase : φ

structure Sessions (δ φ : Type) where
  db : δ
  sessions : Table (Session.id (φ := φ))

inductive TransactionLabel (φ ε : Type) where
  | opened (id : Nat) (phase : φ)
  | statement (id : Nat) (event : ε)
  | commit (id : Nat)
  | rollback (id : Nat)

namespace Transactions

variable {δ φ ε κ : Type} (T : Transactions δ φ ε κ)

/-- The label commits a session in this phase, and the database becomes `db'`. -/
def Commits (s : Sessions δ φ) (label : TransactionLabel φ ε) (phase : φ) (db' : δ) : Prop :=
  ∃ id session phase', label = .commit id ∧ s.sessions.find? id = some session ∧ session.phase = phase ∧
    T.commit s.db phase = some (db', phase')

/-- What is committed meets a condition on the database and the phase before it. -/
def CommitsMeet (ok : δ → φ → Prop) (s : Sessions δ φ) (label : TransactionLabel φ ε) : Prop :=
  ∀ phase db', T.Commits s label phase db' → ok s.db phase

/-- The locks of two phases are disjoint. -/
def Apart (phase other : φ) : Prop := ∀ key ∈ T.locks phase, key ∉ T.locks other

structure Keeps (ok : δ → φ → Prop) (inv : δ → Prop) (knows : δ → φ → Prop) : Prop where
  opened : ∀ {db phase}, inv db → T.opens phase = true → knows db phase
  statement : ∀ {db phase event phase'}, inv db → knows db phase → T.statement db phase event = some phase' →
    knows db phase'
  committed : ∀ {db phase db' phase'}, inv db → knows db phase → ok db phase →
    T.commit db phase = some (db', phase') → inv db' ∧ knows db' phase'
  others : ∀ {db phase db' phase' other}, inv db → knows db phase → knows db other → ok db phase → T.Apart phase other →
    T.commit db phase = some (db', phase') → knows db' other

structure Sound (inv : δ → Prop) (knows : δ → φ → Prop) (s : Sessions δ φ) : Prop where
  inv : inv s.db
  knows : ∀ session ∈ s.sessions, knows s.db session.phase
  apart : ∀ session ∈ s.sessions, ∀ other ∈ s.sessions, session.id ≠ other.id → T.Apart session.phase other.phase

variable {T}

theorem Apart.symm {phase other : φ} (apart : T.Apart phase other) : T.Apart other phase :=
  fun key held both => apart key both held

variable [DecidableEq κ]

section

variable (T)

def free (s : Sessions δ φ) (id : Nat) (phase : φ) : Bool :=
  s.sessions.rows.all fun other => other.id = id || (T.locks phase).all fun key => key ∉ T.locks other.phase

def step (s : Sessions δ φ) : TransactionLabel φ ε → Option (Sessions δ φ)
  | .opened id phase =>
    if T.opens phase then (s.sessions.insert? ⟨id, phase⟩).map fun sessions => { s with sessions } else none
  | .statement id event =>
    (s.sessions.find? id).bind fun session => (T.statement s.db session.phase event).bind fun phase =>
      if T.free s id phase then some { s with sessions := s.sessions.put ⟨id, phase⟩ } else none
  | .commit id =>
    (s.sessions.find? id).bind fun session => (T.commit s.db session.phase).map fun (db, phase) =>
      ⟨db, s.sessions.put ⟨id, phase⟩⟩
  | .rollback id => some { s with sessions := s.sessions.remove id }

end

variable {ok : δ → φ → Prop} {inv : δ → Prop} {knows : δ → φ → Prop} {s s' : Sessions δ φ}
  {label : TransactionLabel φ ε}

theorem free_iff {id : Nat} {phase : φ} : T.free s id phase = true ↔
    ∀ other ∈ s.sessions, other.id ≠ id → T.Apart phase other.phase := by
  simp only [free, List.all_eq_true, Bool.or_eq_true, decide_eq_true_eq, Table.mem_def, Apart, or_iff_not_imp_left]

theorem step_statement {id : Nat} {event : ε} (taken : T.step s (.statement id event) = some s') :
    ∃ session phase, s.sessions.find? id = some session ∧ T.statement s.db session.phase event = some phase ∧
      T.free s id phase = true ∧ s' = { s with sessions := s.sessions.put ⟨id, phase⟩ } := by
  obtain ⟨session, found, taken⟩ := Option.bind_eq_some_iff.mp taken
  obtain ⟨phase, moved, taken⟩ := Option.bind_eq_some_iff.mp taken
  split at taken
  · rename_i free
    exact ⟨session, phase, found, moved, free, (Option.some.inj taken).symm⟩
  · cases taken

theorem step_commit {id : Nat} (taken : T.step s (.commit id) = some s') :
    ∃ session db phase, s.sessions.find? id = some session ∧ T.commit s.db session.phase = some (db, phase) ∧
      s' = ⟨db, s.sessions.put ⟨id, phase⟩⟩ := by
  obtain ⟨session, found, taken⟩ := Option.bind_eq_some_iff.mp taken
  obtain ⟨⟨db, phase⟩, committed, rfl⟩ := Option.map_eq_some_iff.mp taken
  exact ⟨session, db, phase, found, committed, rfl⟩

theorem step_db (taken : T.step s label = some s') (other : ∀ id, label ≠ .commit id) : s'.db = s.db := by
  cases label with
  | opened id phase =>
    simp only [Transactions.step, Option.ite_none_right_eq_some, Option.map_eq_some_iff] at taken
    obtain ⟨-, _, -, rfl⟩ := taken
    rfl
  | statement id event =>
    obtain ⟨_, _, -, -, -, rfl⟩ := step_statement taken
    rfl
  | commit id => exact (other id rfl).elim
  | rollback id =>
    obtain rfl := Option.some.inj taken
    rfl

theorem mem_moved {id : Nat} {phase : φ} {session other : Session φ} (found : s.sessions.find? id = some session)
    (member : other ∈ s.sessions.put ⟨id, phase⟩) : other = ⟨id, phase⟩ ∨ other ∈ s.sessions ∧ other.id ≠ session.id := by
  rw [Table.key_of_find? found]
  exact (Table.mem_put.mp member).symm.imp And.left fun apart => apart

omit [DecidableEq κ] in
theorem Sound.moved (sound : T.Sound inv knows s) {id : Nat} {session : Session φ} {phase : φ} {db : δ}
    (found : s.sessions.find? id = some session) (kept : inv db) (known : knows db phase)
    (others : ∀ other ∈ s.sessions, other.id ≠ session.id → knows db other.phase ∧ T.Apart phase other.phase) :
    T.Sound inv knows ⟨db, s.sessions.put ⟨id, phase⟩⟩ := by
  have same : session.id = id := Table.key_of_find? found
  refine ⟨kept, fun other member => ?_, fun one member other member' distinct => ?_⟩
  · rcases mem_moved found member with rfl | ⟨before, apart⟩
    · exact known
    · exact (others other before apart).1
  · rcases mem_moved found member with rfl | ⟨before, apart⟩
    · rcases mem_moved found member' with rfl | ⟨before', apart'⟩
      · exact (distinct rfl).elim
      · exact (others other before' apart').2
    · rcases mem_moved found member' with rfl | ⟨before', apart'⟩
      · exact (others one before apart).2.symm
      · exact sound.apart one before other before' distinct

theorem Sound.step (keeps : T.Keeps ok inv knows) (sound : T.Sound inv knows s) (meets : T.CommitsMeet ok s label)
    (taken : T.step s label = some s') : T.Sound inv knows s' := by
  cases label with
  | opened id phase =>
    simp only [Transactions.step, Option.ite_none_right_eq_some, Option.map_eq_some_iff] at taken
    obtain ⟨opens, sessions, inserted, rfl⟩ := taken
    refine ⟨sound.inv, fun session member => ?_, fun session member other member' distinct => ?_⟩
    · rcases (Table.mem_insert? inserted).mp member with rfl | member
      · exact keeps.opened sound.inv opens
      · exact sound.knows session member
    · have nothing := T.opens_free phase opens
      rcases (Table.mem_insert? inserted).mp member with rfl | member
      · simp [Apart, nothing]
      · rcases (Table.mem_insert? inserted).mp member' with rfl | member'
        · simp [Apart, nothing]
        · exact sound.apart session member other member' distinct
  | statement id event =>
    obtain ⟨session, phase, found, moved, free, rfl⟩ := step_statement taken
    have before := Table.mem_of_find? found
    refine sound.moved found sound.inv (keeps.statement sound.inv (sound.knows session before) moved) ?_
    intro other member distinct
    refine ⟨sound.knows other member, free_iff.mp free other member ?_⟩
    rw [← Table.key_of_find? found]
    exact distinct
  | commit id =>
    obtain ⟨session, db, phase, found, committed, rfl⟩ := step_commit taken
    have before := Table.mem_of_find? found
    have met := meets session.phase db ⟨id, session, phase, rfl, found, rfl, committed⟩
    obtain ⟨kept, known⟩ := keeps.committed sound.inv (sound.knows session before) met committed
    refine sound.moved found kept known fun other member distinct => ⟨?_, ?_⟩
    · exact keeps.others sound.inv (sound.knows session before) (sound.knows other member) met
        (sound.apart session before other member (Ne.symm distinct)) committed
    · simp [Apart, T.commit_free _ _ _ _ committed]
  | rollback id =>
    obtain rfl := Option.some.inj taken
    refine ⟨sound.inv, fun session member => sound.knows session (Table.mem_remove.mp member).1, ?_⟩
    intro session member other member' distinct
    exact sound.apart session (Table.mem_remove.mp member).1 other (Table.mem_remove.mp member').1 distinct

def committing (T : Transactions δ φ ε κ) (s : Sessions δ φ) : TransactionLabel φ ε → Option (φ × δ)
  | .commit id => (s.sessions.find? id).bind fun session => (T.commit s.db session.phase).map fun (db, _) => (session.phase, db)
  | _ => none

omit [DecidableEq κ] in
theorem commits_iff {phase : φ} {db' : δ} : T.Commits s label phase db' ↔ T.committing s label = some (phase, db') := by
  constructor
  · rintro ⟨id, session, phase', rfl, found, rfl, committed⟩
    simp [committing, found, committed]
  · intro committing
    cases label with
    | commit id =>
      obtain ⟨session, found, moved⟩ := Option.bind_eq_some_iff.mp committing
      obtain ⟨⟨_, phase'⟩, committed, same⟩ := Option.map_eq_some_iff.mp moved
      obtain ⟨rfl, rfl⟩ := Prod.mk.inj same
      exact ⟨id, session, phase', rfl, found, rfl, committed⟩
    | opened | statement | rollback => cases committing

omit [DecidableEq κ] in
theorem commitsMeet_of_check {check : δ → φ → Bool} (checked : ∀ db phase, check db phase = true → ok db phase)
    (passes : ((T.committing s label).all fun c => check s.db c.1) = true) : T.CommitsMeet ok s label := by
  intro phase db' commits
  rw [commits_iff.mp commits] at passes
  exact checked _ _ passes

variable {s₀ : Sessions δ φ} {events : List (Sessions δ φ × TransactionLabel φ ε)}

theorem Keeps.run (keeps : T.Keeps ok inv knows) (run : Run T.step s₀ events s) (idle : s₀.sessions = .empty)
    (initial : inv s₀.db) (meets : Conforms (T.CommitsMeet ok) events) : T.Sound inv knows s := by
  refine run.invariant (T.Sound inv knows) meets ⟨initial, ?_, ?_⟩ fun _ _ _ sound met taken => sound.step keeps met taken
  · simp [idle]
  · simp [idle]

theorem Keeps.commits (keeps : T.Keeps ok inv knows) (run : Run T.step s₀ events s) (idle : s₀.sessions = .empty)
    (initial : inv s₀.db) (meets : Conforms (T.CommitsMeet ok) events) {e : Sessions δ φ × TransactionLabel φ ε}
    (member : e ∈ events) {phase : φ} {db' : δ} (commits : T.Commits e.1 e.2 phase db') :
    inv e.1.db ∧ knows e.1.db phase ∧ ok e.1.db phase := by
  obtain ⟨before, after, s₁, rfl, first, -, -⟩ := run.of_mem member
  have sound := keeps.run first idle initial fun e earlier => meets e (List.mem_append_left _ earlier)
  have met := meets e member phase db' commits
  obtain ⟨id, session, phase', -, found, rfl, -⟩ := commits
  exact ⟨sound.inv, sound.knows session (Table.mem_of_find? found), met⟩

/-- Where each commit keeps a property exactly when it meets a condition, a run keeps it throughout exactly when all its
commits meet the condition. -/
theorem Keeps.throughout_iff (keeps : T.Keeps (fun _ _ => True) inv knows) (run : Run T.step s₀ events s)
    (idle : s₀.sessions = .empty) (initial : inv s₀.db) (p : δ → Prop) (starts : p s₀.db)
    (exactly : ∀ db phase db' phase', inv db → knows db phase → p db → T.commit db phase = some (db', phase') →
      (p db' ↔ ok db phase)) :
    (∀ state ∈ states events s, p state.db) ↔ Conforms (T.CommitsMeet ok) events := by
  induction run with
  | start => simpa [states] using starts
  | @next events s s' label before taken ih =>
    have sound := keeps.run before idle initial fun _ _ _ _ _ => trivial
    rw [states_append, conforms_append, conforms_singleton, ← ih]
    simp only [List.mem_append, List.mem_singleton, or_imp, forall_and, forall_eq]
    refine and_congr_right fun held => ?_
    have here : p s.db := held s (by simp [states])
    cases label with
    | commit id =>
      obtain ⟨session, db, phase, found, committed, rfl⟩ := step_commit taken
      have known := sound.knows session (Table.mem_of_find? found)
      rw [exactly _ _ _ _ sound.inv known here committed]
      constructor
      · rintro met _ _ ⟨id', session', _, same, found', rfl, -⟩
        obtain rfl := TransactionLabel.commit.inj same
        obtain rfl := Option.some.inj (found.symm.trans found')
        exact met
      · exact fun met => met _ _ ⟨id, session, phase, rfl, found, rfl, committed⟩
    | opened | statement | rollback =>
      rw [step_db taken (by simp)]
      refine iff_of_true here ?_
      rintro _ _ ⟨_, _, _, other, -⟩
      cases other

end Transactions

end AgentOps.Lib
