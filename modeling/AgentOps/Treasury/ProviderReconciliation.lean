import AgentOps.Lib.Spans
import AgentOps.Treasury.Liquidity
import Mathlib.Data.List.MinMax
import Mathlib.Data.Prod.Lex
import Mathlib.Order.Nat

namespace AgentOps.Treasury
open Lib Payments

/-! # Provider jobs that are reconciled with balances -/

abbrev ProviderJobId := Nat

inductive ProviderJobType where
  | walletRebalance
  | gatewayDeposit
  | liquidityPrepare
  | other
  deriving DecidableEq

inductive ReconcileMethod where
  | destinationWalletBalance
  | gatewayBalance
  deriving DecidableEq

structure ReconcileNote where
  method : ReconcileMethod
  observedUsdc : Nat
  deriving DecidableEq

structure ProviderMetadata where
  toChain : Option ChainText
  destinationWalletBeforeUsdc : Option AmountText
  gatewayBeforeUsdc : Option AmountText
  transferTransactionId : Option TransactionId
  depositTransactionId : Option TransactionId
  reconciled : Option ReconcileNote
  deriving DecidableEq

structure ProviderJob where
  id : ProviderJobId
  mode : PaymentMode
  jobType : ProviderJobType
  chain : Option PaymentChain
  status : LiquidityStatus
  amountUsdc : Option Nat
  providerRef : Option TransactionId
  errorCode : Option String
  metadata : ProviderMetadata
  createdAt : Nat
  updatedAt : Nat
  deriving DecidableEq

inductive Bucket where
  | wallet
  | gateway
  deriving DecidableEq

structure Destination where
  mode : PaymentMode
  bucket : Bucket
  chain : PaymentChain
  deriving DecidableEq

def AmountText.parse : AmountText → Except String Nat
  | .micros amount => .ok amount
  | .malformed => .error "invalid_usdc_amount"

def ChainText.normalize : ChainText → Except String PaymentChain
  | .known chain => .ok chain
  | .unknown => .error "unsupported_payment_chain"

def parseOptional : Option AmountText → Except String (Option Nat)
  | none => .ok none
  | some text => text.parse.map some

/-! ## The statements -/

def circleProviderJobTimeout : String := "circle_provider_job_timeout"

namespace ProviderJob

/-- `expireStaleCircleProviderJobs`: both updates set these columns. -/
def expireStale (timeout now : Nat) (job : ProviderJob) : ProviderJob :=
  if (job.jobType = .gatewayDeposit ∨ job.jobType = .walletRebalance ∨ job.jobType = .liquidityPrepare) ∧ job.status = .queued ∧
      job.updatedAt + timeout < now then
    { job with status := .failed, errorCode := some circleProviderJobTimeout, updatedAt := now }
  else job

theorem expireStale_id (timeout now : Nat) (job : ProviderJob) : (job.expireStale timeout now).id = job.id := by
  unfold expireStale
  split_ifs <;> rfl

def timedOut (errorCode : String) : Bool :=
  errorCode = "circle_cli_command_failed" || errorCode = circleProviderJobTimeout ||
    like "Command failed: circle bridge transfer%".toList errorCode.toList ||
    like "%circle_cli_process_timeout%".toList errorCode.toList || like "%provider_timeout%".toList errorCode.toList

/-- The `WHERE` of the pending jobs, which no mode is part of -/
def isPending (job : ProviderJob) : Bool :=
  (job.jobType = .walletRebalance || job.jobType = .gatewayDeposit) &&
    (job.status = .submitted || job.status = .failed && job.errorCode.any timedOut)

def createdBefore (job other : ProviderJob) : Bool := job.createdAt ≤ other.createdAt

end ProviderJob

/-- `ORDER BY created_at ASC LIMIT 25` -/
def pendingJobs (jobs : Table ProviderJob.id) : List ProviderJob :=
  (orderBy ProviderJob.createdBefore (jobs.rows.filter ProviderJob.isPending)).take 25

def gatewayDepositSatisfied (amountMicros : Nat) (beforeMicros : Option Nat) (observedMicros : Nat) : Bool :=
  let requiredMicros := match beforeMicros with
    | none => amountMicros
    | some before => before + amountMicros
  requiredMicros ≤ observedMicros

/-- The balances are those of the organization's mode: a wallet that is missing or cannot be read counts as empty. -/
structure ReconcilePass where
  pending : List ProviderJob
  mode : PaymentMode
  wallet : PaymentChain → Nat
  gateway : PaymentChain → Option AmountText

structure Completion where
  note : ReconcileNote
  providerRef : Option TransactionId
  deriving DecidableEq

def ReconcilePass.consider (pass : ReconcilePass) (job : ProviderJob) : Except String (Option Completion) :=
  match job.amountUsdc, job.chain, job.jobType with
  | some amountMicros, some chain, .walletRebalance => do
    let destinationChain ← (job.metadata.toChain.getD (.known chain)).normalize
    let observedMicros := pass.wallet destinationChain
    let before ← parseOptional job.metadata.destinationWalletBeforeUsdc
    let requiredMicros := match before with
      | none => amountMicros
      | some beforeMicros => beforeMicros + amountMicros
    if observedMicros < requiredMicros then .ok none
    else .ok (some ⟨⟨.destinationWalletBalance, observedMicros⟩, job.metadata.transferTransactionId⟩)
  | some amountMicros, some chain, .gatewayDeposit => do
    let available ← parseOptional (pass.gateway chain)
    let observedMicros := available.getD 0
    let before ← parseOptional job.metadata.gatewayBeforeUsdc
    if gatewayDepositSatisfied amountMicros before observedMicros then
      .ok (some ⟨⟨.gatewayBalance, observedMicros⟩, job.metadata.depositTransactionId⟩)
    else .ok none
  | _, _, _ => .ok none

def ProviderJob.reconcile (completion : Completion) (job : ProviderJob) : ProviderJob :=
  { job with
    status := .complete
    providerRef := job.providerRef.or completion.providerRef
    errorCode := none
    metadata := { job.metadata with reconciled := some completion.note } }

/-! ## Passes, and the money that arrives -/

namespace ProviderJob

def destination? (job : ProviderJob) : Option Destination :=
  match job.jobType, job.chain with
  | .walletRebalance, some chain =>
    match (job.metadata.toChain.getD (.known chain)).normalize with
    | .ok chain => some ⟨job.mode, .wallet, chain⟩
    | .error _ => none
  | .gatewayDeposit, some chain => some ⟨job.mode, .gateway, chain⟩
  | _, _ => none

def noted (job : ProviderJob) : Option AmountText :=
  match job.jobType with
  | .walletRebalance => job.metadata.destinationWalletBeforeUsdc
  | _ => job.metadata.gatewayBeforeUsdc

def before? (job : ProviderJob) : Option Nat :=
  match job.noted with
  | some (.micros amount) => some amount
  | _ => none

def countsFor (destination : Destination) (job : ProviderJob) : Bool :=
  job.metadata.reconciled.isSome && job.destination? = some destination

def stamp? (job : ProviderJob) : Option (Nat ×ₗ Nat) := job.before?.map fun before => toLex (job.createdAt, before)

/-- The later of two jobs has noted a balance that the earlier one's money is part of. -/
def Apart : ProviderJob → ProviderJob → Prop :=
  Consecutive (fun job => toLex (job.createdAt, job.before?.getD 0)) (fun job => job.before?.getD 0)
    fun job => job.amountUsdc.getD 0

instance (job other : ProviderJob) : Decidable (job.Apart other) := inferInstanceAs (Decidable (_ ∧ _))

end ProviderJob

namespace ReconcilePass

def balance? (pass : ReconcilePass) : Bucket → PaymentChain → Option Nat
  | .wallet, chain => some (pass.wallet chain)
  | .gateway, chain =>
    match pass.gateway chain with
    | none => some 0
    | some (.micros amount) => some amount
    | some .malformed => none

def due (pass : ReconcilePass) (job : ProviderJob) : Bool :=
  match job.destination?, job.amountUsdc with
  | some destination, some amount => job.noted ≠ some .malformed &&
      (pass.balance? destination.bucket destination.chain).any fun balance => job.before?.getD 0 + amount ≤ balance
  | _, _ => false

def Separates (pass : ReconcilePass) (jobs : Table ProviderJob.id) : Prop :=
  ∀ job ∈ pass.pending, pass.due job = true → (job.mode = pass.mode ∧ job.before?.isSome) ∧
    (∀ other ∈ pass.pending, pass.due other = true → other.id ≠ job.id → other.destination? = job.destination? → job.Apart other) ∧
    ∀ other ∈ jobs.rows, other.metadata.reconciled.isSome → other.destination? = job.destination? → job.Apart other

end ReconcilePass

inductive BalanceRead where
  | read
  | missing
  | malformed
  deriving DecidableEq

/-- The balances at the start and the highest ones observed are kept for the statements only. -/
structure ReconcileWorld where
  jobs : Table ProviderJob.id
  mode : PaymentMode
  balance : Destination → Nat
  opening : Destination → Nat
  highest : Destination → Nat
  arrived : List ProviderJobId
  pass : Option ReconcilePass

inductive ReconcileLabel where
  | arrive (id : ProviderJobId)
  | spend (destination : Destination) (amount : Nat)
  | setMode (mode : PaymentMode)
  | reconcile (now : Nat) (reads : Bucket → PaymentChain → BalanceRead)
  /-- The pass goes on to its next job; `commits` says whether the transaction that completes it does. -/
  | next (commits : Bool)

namespace ReconcileWorld

def observeWallet (s : ReconcileWorld) (reads : Bucket → PaymentChain → BalanceRead) (chain : PaymentChain) : Nat :=
  if reads .wallet chain = .read then s.balance ⟨s.mode, .wallet, chain⟩ else 0

def observeGateway (s : ReconcileWorld) (reads : Bucket → PaymentChain → BalanceRead) (chain : PaymentChain) :
    Option AmountText :=
  match reads .gateway chain with
  | .read => some (.micros (s.balance ⟨s.mode, .gateway, chain⟩))
  | .missing => none
  | .malformed => some .malformed

def observed (s : ReconcileWorld) (reads : Bucket → PaymentChain → BalanceRead) (destination : Destination) : Nat :=
  if destination.mode = s.mode ∧ reads destination.bucket destination.chain = .read then s.balance destination else 0

def expired (s : ReconcileWorld) (timeout now : Nat) : Table ProviderJob.id :=
  s.jobs.rewrite (ProviderJob.expireStale timeout now) (ProviderJob.expireStale_id timeout now)

def beginPass (s : ReconcileWorld) (timeout now : Nat) (reads : Bucket → PaymentChain → BalanceRead) : ReconcilePass :=
  ⟨pendingJobs (s.expired timeout now), s.mode, s.observeWallet reads, s.observeGateway reads⟩

end ReconcileWorld

def reconcileStep (timeout : Nat) (s : ReconcileWorld) : ReconcileLabel → Option ReconcileWorld
  | .arrive id =>
    match s.jobs.find? id with
    | none => none
    | some job =>
      match job.destination?, job.amountUsdc with
      | some destination, some amount =>
        if id ∈ s.arrived then none
        else some { s with
          balance := Function.update s.balance destination (s.balance destination + amount), arrived := id :: s.arrived }
      | _, _ => none
  | .spend destination amount =>
    if amount ≤ s.balance destination then
      some { s with balance := Function.update s.balance destination (s.balance destination - amount) }
    else none
  | .setMode mode => some { s with mode }
  | .reconcile now reads =>
    match s.pass with
    | some _ => none
    | none =>
      let jobs := s.expired timeout now
      match pendingJobs jobs with
      | [] => some { s with jobs }
      | _ => some { s with
          jobs
          highest := fun destination => max (s.highest destination) (s.observed reads destination)
          pass := some (s.beginPass timeout now reads) }
  | .next commits =>
    match s.pass with
    | none => none
    | some pass =>
      match pass.pending with
      | [] => some { s with pass := none }
      | job :: pending =>
        match pass.consider job with
        | .error _ => some { s with pass := none }
        | .ok none => some { s with pass := some { pass with pending } }
        | .ok (some completion) =>
          if commits then
            some { s with
              jobs := s.jobs.modify job.id (ProviderJob.reconcile completion)
              pass := some { pass with pending } }
          else some { s with pass := none }

/-! ## What completed jobs owe the balances -/

def earliestBefore (jobs : List ProviderJob) : Option Nat :=
  (jobs.filterMap ProviderJob.stamp?).min?.map fun stamp => (ofLex stamp).2

namespace ReconcileWorld

def countedJobs (s : ReconcileWorld) (destination : Destination) : List ProviderJob :=
  s.jobs.rows.filter (ProviderJob.countsFor destination)

def counted (s : ReconcileWorld) (destination : Destination) : Nat :=
  ((s.countedJobs destination).map fun job => job.amountUsdc.getD 0).sum

/-- What has arrived at the destination for these jobs: from the earliest balance noted to the highest one observed. Where none is
noted, the destination's balance at the start stands for it. -/
def arrivedFor (s : ReconcileWorld) (destination : Destination) (jobs : List ProviderJob) : Nat :=
  s.highest destination - (earliestBefore jobs).getD (s.opening destination)

def CountsOnce (s : ReconcileWorld) : Prop :=
  ∀ destination, s.counted destination ≤ s.arrivedFor destination (s.countedJobs destination)

end ReconcileWorld

def SnapshotsApart (timeout : Nat) (s : ReconcileWorld) : ReconcileLabel → Prop
  | .reconcile now reads => (s.beginPass timeout now reads).Separates s.jobs
  | _ => True

variable {timeout : Nat} {s s' s₀ : ReconcileWorld} {label : ReconcileLabel} {job : ProviderJob} {completion : Completion}
  {destination : Destination} {pass : ReconcilePass} {pending : List ProviderJob}

theorem expireStale_eq {now : Nat} (done : job.status = .complete) : job.expireStale timeout now = job := by
  simp [ProviderJob.expireStale, done]

/-! ## Passes keep to what they have listed -/

structure PassSound (s : ReconcileWorld) : Prop where
  complete : ∀ job ∈ s.jobs, job.metadata.reconciled.isSome → job.status = .complete
  apart : ∀ pass, s.pass = some pass → (pass.pending.map ProviderJob.id).Nodup
  listed : ∀ pass, s.pass = some pass → ∀ job ∈ pass.pending, s.jobs.find? job.id = some job ∧ job.metadata.reconciled = none

theorem pendingJobs_apart (jobs : Table ProviderJob.id) : ((pendingJobs jobs).map ProviderJob.id).Nodup := by
  have whole : ((orderBy ProviderJob.createdBefore (jobs.rows.filter ProviderJob.isPending)).map ProviderJob.id).Nodup :=
    ((List.perm_insertionSort _ _).map ProviderJob.id).nodup_iff.mpr (jobs.distinct.sublist (List.filter_sublist.map _))
  exact whole.sublist ((List.take_sublist 25 _).map _)

theorem mem_pendingJobs {jobs : Table ProviderJob.id} (listed : job ∈ pendingJobs jobs) :
    jobs.find? job.id = some job ∧ job.status ≠ .complete := by
  have member := List.mem_filter.mp (mem_orderBy.mp (List.mem_of_mem_take listed))
  refine ⟨Table.find?_of_mem member.1, fun complete => ?_⟩
  simp [ProviderJob.isPending, complete] at member

theorem PassSound.idle (sound : PassSound s) : PassSound { s with pass := none } :=
  ⟨sound.complete, nofun, nofun⟩

theorem PassSound.skip (sound : PassSound s) (running : s.pass = some pass) (first : pass.pending = job :: pending) :
    PassSound { s with pass := some { pass with pending } } := by
  have apart := sound.apart pass running
  have listed := sound.listed pass running
  rw [first] at apart listed
  refine ⟨sound.complete, fun other same => ?_, fun other same => ?_⟩
  · obtain rfl := Option.some.inj same
    exact (List.nodup_cons.mp apart).2
  · obtain rfl := Option.some.inj same
    exact fun other member => listed other (List.mem_cons_of_mem _ member)

theorem reconcile_id (completion : Completion) (job : ProviderJob) : (job.reconcile completion).id = job.id := rfl

theorem PassSound.completes (sound : PassSound s) (running : s.pass = some pass) (first : pass.pending = job :: pending) :
    PassSound { s with
      jobs := s.jobs.modify job.id (ProviderJob.reconcile completion), pass := some { pass with pending } } := by
  have skipped := sound.skip running first
  have apart := sound.apart pass running
  rw [first, List.map_cons, List.nodup_cons] at apart
  refine ⟨fun other member reconciled => ?_, skipped.apart, fun other same job' member => ?_⟩
  · obtain ⟨old, stored, -, rfl⟩ := Table.mem_modify (reconcile_id completion) member
    split_ifs at reconciled ⊢ with here
    · rfl
    · exact sound.complete old stored reconciled
  · obtain ⟨found, unreconciled⟩ := skipped.listed other same job' member
    obtain rfl := Option.some.inj same
    refine ⟨(Table.find?_modify_ne (reconcile_id completion) fun clash => apart.1 ?_).trans found, unreconciled⟩
    rw [clash]
    exact List.mem_map_of_mem member

theorem PassSound.expired {now : Nat} (sound : PassSound s) (member : job ∈ s.expired timeout now)
    (reconciled : job.metadata.reconciled.isSome) : job ∈ s.jobs := by
  obtain ⟨old, stored, rfl⟩ := Table.mem_rewrite.mp member
  have same : (old.expireStale timeout now).metadata = old.metadata := by
    unfold ProviderJob.expireStale
    split_ifs <;> rfl
  rwa [expireStale_eq (sound.complete old stored (same ▸ reconciled))]

theorem PassSound.step (sound : PassSound s) (taken : reconcileStep timeout s label = some s') : PassSound s' := by
  cases label with
  | arrive id =>
    simp only [reconcileStep] at taken
    split at taken
    · cases taken
    split at taken
    · split_ifs at taken
      obtain rfl := Option.some.inj taken
      exact ⟨sound.complete, sound.apart, sound.listed⟩
    · cases taken
  | spend destination amount =>
    simp only [reconcileStep] at taken
    split_ifs at taken
    obtain rfl := Option.some.inj taken
    exact ⟨sound.complete, sound.apart, sound.listed⟩
  | setMode mode =>
    obtain rfl := Option.some.inj taken
    exact ⟨sound.complete, sound.apart, sound.listed⟩
  | reconcile now reads =>
    simp only [reconcileStep] at taken
    split at taken
    · cases taken
    rename_i idle
    have complete (job : ProviderJob) (member : job ∈ s.expired timeout now)
        (reconciled : job.metadata.reconciled.isSome) : job.status = .complete :=
      sound.complete job (sound.expired member reconciled) reconciled
    split at taken
    · obtain rfl := Option.some.inj taken
      exact ⟨complete, fun _ same => (nomatch idle.symm.trans same), fun _ same => (nomatch idle.symm.trans same)⟩
    · obtain rfl := Option.some.inj taken
      refine ⟨complete, fun pass same => ?_, fun pass same job listed => ?_⟩
      · obtain rfl := Option.some.inj same
        exact pendingJobs_apart _
      · obtain rfl := Option.some.inj same
        obtain ⟨found, pending⟩ := mem_pendingJobs listed
        refine ⟨found, ?_⟩
        by_contra reconciled
        exact pending (complete job (Table.mem_of_find? found) (Option.isSome_iff_ne_none.mpr reconciled))
  | next commits =>
    simp only [reconcileStep] at taken
    split at taken
    · cases taken
    rename_i pass running
    split at taken
    · obtain rfl := Option.some.inj taken
      exact sound.idle
    rename_i job pending first
    split at taken
    · obtain rfl := Option.some.inj taken
      exact sound.idle
    · obtain rfl := Option.some.inj taken
      exact sound.skip running first
    · split_ifs at taken
      · obtain rfl := Option.some.inj taken
        exact sound.completes running first
      · obtain rfl := Option.some.inj taken
        exact sound.idle

/-! ## What a pass completes -/

theorem destination_mode (due : job.destination? = some destination) : destination.mode = job.mode := by
  unfold ProviderJob.destination? at due
  split at due
  · split at due
    · rw [← Option.some.inj due]
    · cases due
  · rw [← Option.some.inj due]
  · cases due

theorem parseOptional_ok {text : Option AmountText} {before : Option Nat} (parsed : parseOptional text = .ok before) :
    text = before.map .micros := by
  cases text with
  | none =>
    obtain rfl := Except.ok.inj parsed
    rfl
  | some text =>
    cases text with
    | micros amount =>
      obtain rfl := Except.ok.inj parsed
      rfl
    | malformed => cases parsed

theorem balance?_gateway {chain : PaymentChain} {available : Option Nat}
    (read : parseOptional (pass.gateway chain) = .ok available) :
    pass.balance? .gateway chain = some (available.getD 0) := by
  rw [ReconcilePass.balance?, parseOptional_ok read]
  cases available <;> rfl

theorem due_of_consider (completes : pass.consider job = .ok (some completion)) : pass.due job = true := by
  unfold ReconcilePass.consider at completes
  split at completes
  · rename_i amount chain amount_eq chain_eq type_eq
    cases normalized : (job.metadata.toChain.getD (.known chain)).normalize with
    | error => simp [normalized, bind, Except.bind] at completes
    | ok destinationChain =>
      cases parsed : parseOptional job.metadata.destinationWalletBeforeUsdc with
      | error => simp [normalized, parsed, bind, Except.bind] at completes
      | ok before =>
        simp only [normalized, parsed, bind, Except.bind] at completes
        split_ifs at completes with short
        · cases completes
        · cases before <;>
            simpa [ReconcilePass.due, ProviderJob.destination?, ProviderJob.noted, ProviderJob.before?, ReconcilePass.balance?,
              amount_eq, chain_eq, type_eq, normalized, parseOptional_ok parsed] using short
  · rename_i amount chain amount_eq chain_eq type_eq
    cases read : parseOptional (pass.gateway chain) with
    | error => simp [read, bind, Except.bind] at completes
    | ok available =>
      cases parsed : parseOptional job.metadata.gatewayBeforeUsdc with
      | error => simp [read, parsed, bind, Except.bind] at completes
      | ok before =>
        simp only [read, parsed, bind, Except.bind] at completes
        split_ifs at completes with satisfied
        · cases before <;>
            simpa [ReconcilePass.due, ProviderJob.destination?, ProviderJob.noted, ProviderJob.before?, balance?_gateway read,
              amount_eq, chain_eq, type_eq, parseOptional_ok parsed, gatewayDepositSatisfied] using satisfied
        · cases completes
  · cases completes

theorem due_balance (due : pass.due job = true) : ∃ destination balance, job.destination? = some destination ∧
    pass.balance? destination.bucket destination.chain = some balance ∧
    job.before?.getD 0 + job.amountUsdc.getD 0 ≤ balance := by
  unfold ReconcilePass.due at due
  split at due
  · rename_i destination amount located amount_eq
    rw [Bool.and_eq_true, Option.any_eq_true] at due
    obtain ⟨-, balance, read, room⟩ := due
    exact ⟨destination, balance, located, read, by simpa [amount_eq] using room⟩
  · cases due

/-! ## Jobs that are counted lie apart -/

structure Separated (s : ReconcileWorld) : Prop where
  below : ∀ job ∈ s.jobs, job.metadata.reconciled.isSome → ∀ destination, job.destination? = some destination →
    job.before?.isSome ∧ job.before?.getD 0 + job.amountUsdc.getD 0 ≤ s.highest destination
  apart : ∀ job ∈ s.jobs, job.metadata.reconciled.isSome → ∀ other ∈ s.jobs, other.metadata.reconciled.isSome →
    job.id ≠ other.id → job.destination? = other.destination? → job.Apart other
  pass : ∀ pass, s.pass = some pass → pass.Separates s.jobs ∧
    ∀ bucket chain balance, pass.balance? bucket chain = some balance → balance ≤ s.highest ⟨pass.mode, bucket, chain⟩

theorem ReconcilePass.Separates.tail {jobs : Table ProviderJob.id} (separates : pass.Separates jobs)
    (first : pass.pending = job :: pending) : ({ pass with pending } : ReconcilePass).Separates jobs := by
  intro other member due
  have listed {job' : ProviderJob} (member : job' ∈ pending) : job' ∈ pass.pending := first ▸ List.mem_cons_of_mem _ member
  obtain ⟨own, fellows, earlier⟩ := separates other (listed member) due
  exact ⟨own, fun job' member' => fellows job' (listed member'), earlier⟩

theorem Separated.idle (separated : Separated s) : Separated { s with pass := none } :=
  ⟨separated.below, separated.apart, nofun⟩

theorem Separated.skip (separated : Separated s) (running : s.pass = some pass) (first : pass.pending = job :: pending) :
    Separated { s with pass := some { pass with pending } } := by
  obtain ⟨separates, bounded⟩ := separated.pass pass running
  refine ⟨separated.below, separated.apart, fun other same => ?_⟩
  obtain rfl := Option.some.inj same
  exact ⟨separates.tail first, bounded⟩

theorem reconciled_completed {other : ProviderJob} (found : s.jobs.find? job.id = some job)
    (member : other ∈ s.jobs.modify job.id (ProviderJob.reconcile completion)) (reconciled : other.metadata.reconciled.isSome) :
    other ∈ s.jobs ∧ other.metadata.reconciled.isSome ∧ other.id ≠ job.id ∨ other = job.reconcile completion := by
  obtain ⟨old, stored, keyed, rfl⟩ := Table.mem_modify (reconcile_id completion) member
  split_ifs at reconciled ⊢ with here
  · refine .inr ?_
    rw [Table.eq_of_key (Table.mem_of_find? found) stored here]
  · exact .inl ⟨stored, reconciled, Ne.symm here⟩

theorem Separated.completes (sound : PassSound s) (separated : Separated s) (running : s.pass = some pass)
    (first : pass.pending = job :: pending) (due : pass.due job = true) :
    Separated { s with
      jobs := s.jobs.modify job.id (ProviderJob.reconcile completion), pass := some { pass with pending } } := by
  have listed : job ∈ pass.pending := first ▸ List.mem_cons_self
  have found := (sound.listed pass running job listed).1
  obtain ⟨separates, bounded⟩ := separated.pass pass running
  obtain ⟨⟨mode, noted⟩, fellows, earlier⟩ := separates job listed due
  have earlier' {other : ProviderJob} (stored : other ∈ s.jobs) (reconciled : other.metadata.reconciled.isSome)
      (same : other.destination? = job.destination?) : job.Apart other := earlier other stored reconciled same
  refine ⟨fun other member reconciled destination located => ?_, fun other member reconciled other' member' reconciled' apart same => ?_,
    fun pass' same => ?_⟩
  · obtain ⟨stored, reconciled, -⟩ | rfl := reconciled_completed found member reconciled
    · exact separated.below other stored reconciled destination located
    · obtain ⟨destination', balance, located', read, room⟩ := due_balance due
      obtain rfl := Option.some.inj (located'.symm.trans located)
      have below := bounded _ _ _ read
      rw [← mode, ← destination_mode located'] at below
      exact ⟨noted, room.trans below⟩
  · obtain ⟨stored, reconciled, -⟩ | rfl := reconciled_completed found member reconciled <;>
      obtain ⟨stored', reconciled', -⟩ | rfl := reconciled_completed found member' reconciled'
    · exact separated.apart other stored reconciled other' stored' reconciled' apart same
    · exact (earlier' stored reconciled same).symm
    · exact earlier' stored' reconciled' same.symm
    · exact (apart rfl).elim
  · obtain rfl := Option.some.inj same
    refine ⟨fun other member due' => ?_, bounded⟩
    obtain ⟨own, fellows', earlier'⟩ := separates.tail first other member due'
    refine ⟨own, fellows', fun done member' reconciled same => ?_⟩
    obtain ⟨stored, reconciled, -⟩ | rfl := reconciled_completed found member' reconciled
    · exact earlier' done stored reconciled same
    · have unlike : other.id ≠ job.id := by
        have distinct := sound.apart pass running
        rw [first, List.map_cons, List.nodup_cons] at distinct
        exact fun same => distinct.1 (same ▸ List.mem_map_of_mem member)
      exact (fellows other (first ▸ List.mem_cons_of_mem _ member) due' unlike same.symm).symm

theorem beginPass_balance {now : Nat} {reads : Bucket → PaymentChain → BalanceRead} {bucket : Bucket} {chain : PaymentChain}
    {balance : Nat} (read : (s.beginPass timeout now reads).balance? bucket chain = some balance) :
    balance = s.observed reads ⟨s.mode, bucket, chain⟩ := by
  cases bucket with
  | wallet =>
    obtain rfl := Option.some.inj read
    simp [ReconcileWorld.beginPass, ReconcileWorld.observeWallet, ReconcileWorld.observed]
  | gateway =>
    cases answer : reads .gateway chain <;>
      simp_all [ReconcilePass.balance?, ReconcileWorld.beginPass, ReconcileWorld.observeGateway, ReconcileWorld.observed]

theorem Separated.raise {jobs : Table ProviderJob.id} (separated : Separated s) (highest : Destination → Nat)
    (kept : ∀ job ∈ jobs, job.metadata.reconciled.isSome → job ∈ s.jobs)
    (higher : ∀ destination, s.highest destination ≤ highest destination)
    (idle : s.pass = none) : Separated { s with jobs, highest } where
  below job member reconciled destination located :=
    (separated.below job (kept job member reconciled) reconciled destination located).imp_right (·.trans (higher destination))
  apart job member reconciled other member' reconciled' :=
    separated.apart job (kept job member reconciled) reconciled other (kept other member' reconciled') reconciled'
  pass _ running := nomatch idle.symm.trans running

theorem Separated.step (sound : PassSound s) (separated : Separated s) (apart : SnapshotsApart timeout s label)
    (taken : reconcileStep timeout s label = some s') : Separated s' := by
  cases label with
  | arrive id =>
    simp only [reconcileStep] at taken
    split at taken
    · cases taken
    split at taken
    · split_ifs at taken
      obtain rfl := Option.some.inj taken
      exact ⟨separated.below, separated.apart, separated.pass⟩
    · cases taken
  | spend destination amount =>
    simp only [reconcileStep] at taken
    split_ifs at taken
    obtain rfl := Option.some.inj taken
    exact ⟨separated.below, separated.apart, separated.pass⟩
  | setMode mode =>
    obtain rfl := Option.some.inj taken
    exact ⟨separated.below, separated.apart, separated.pass⟩
  | reconcile now reads =>
    simp only [reconcileStep] at taken
    split at taken
    · cases taken
    rename_i idle
    have kept (job : ProviderJob) (member : job ∈ s.expired timeout now) (reconciled : job.metadata.reconciled.isSome) :
        job ∈ s.jobs := sound.expired member reconciled
    split at taken
    · obtain rfl := Option.some.inj taken
      exact separated.raise s.highest kept (fun _ => le_rfl) idle
    · obtain rfl := Option.some.inj taken
      have raised := separated.raise (fun destination => max (s.highest destination) (s.observed reads destination))
        kept (fun _ => le_max_left _ _) idle
      refine ⟨raised.below, raised.apart, fun pass same => ?_⟩
      obtain rfl := Option.some.inj same
      refine ⟨fun job listed due => ?_, fun bucket chain balance read => ?_⟩
      · obtain ⟨own, fellows, earlier⟩ := apart job listed due
        exact ⟨own, fellows, fun other member reconciled => earlier other (kept other member reconciled) reconciled⟩
      · rw [beginPass_balance read]
        exact le_max_right _ _
  | next commits =>
    simp only [reconcileStep] at taken
    split at taken
    · cases taken
    rename_i pass running
    split at taken
    · obtain rfl := Option.some.inj taken
      exact separated.idle
    rename_i job pending first
    split at taken
    · obtain rfl := Option.some.inj taken
      exact separated.idle
    · obtain rfl := Option.some.inj taken
      exact separated.skip running first
    · rename_i completion considered
      split_ifs at taken
      · obtain rfl := Option.some.inj taken
        exact separated.completes sound running first (due_of_consider considered)
      · obtain rfl := Option.some.inj taken
        exact separated.idle

/-! ## Jobs that lie apart are counted once -/

theorem Separated.countsOnce (separated : Separated s) : s.CountsOnce := by
  intro destination
  have counts {job : ProviderJob} (member : job ∈ s.countedJobs destination) :
      job ∈ s.jobs ∧ job.metadata.reconciled.isSome ∧ job.destination? = some destination := by
    simpa [ReconcileWorld.countedJobs, ProviderJob.countsFor, Table.mem_def] using member
  have below {job : ProviderJob} (member : job ∈ s.countedJobs destination) :=
    separated.below job (counts member).1 (counts member).2.1 destination (counts member).2.2
  have apart : (s.countedJobs destination).Pairwise ProviderJob.Apart := by
    have distinct : (s.countedJobs destination).Pairwise fun job other => job.id ≠ other.id :=
      List.pairwise_map.mp (s.jobs.distinct.sublist (List.filter_sublist.map _))
    refine distinct.imp_of_mem fun {job other} member member' unlike => ?_
    obtain ⟨stored, reconciled, located⟩ := counts member
    obtain ⟨stored', reconciled', located'⟩ := counts member'
    exact separated.apart job stored reconciled other stored' reconciled' unlike (located.trans located'.symm)
  unfold ReconcileWorld.arrivedFor earliestBefore
  cases earliest : ((s.countedJobs destination).filterMap ProviderJob.stamp?).min? with
  | none =>
    have none_ : s.countedJobs destination = [] := by
      refine List.eq_nil_iff_forall_not_mem.mpr fun job member => ?_
      obtain ⟨before, noted⟩ := Option.isSome_iff_exists.mp (below member).1
      have stamped := List.filterMap_eq_nil_iff.mp (List.min?_eq_none_iff.mp earliest) job member
      simp [ProviderJob.stamp?, noted] at stamped
    simp [ReconcileWorld.counted, none_]
  | some stamp =>
    obtain ⟨among, least⟩ := List.min?_eq_some_iff.mp earliest
    obtain ⟨first, member, stamped⟩ := List.mem_filterMap.mp among
    obtain ⟨before, noted, rfl⟩ := Option.map_eq_some_iff.mp stamped
    have sums := sum_consecutive apart (fun job member => (below member).2) member fun job member' => ?_
    · simp only [noted, Option.getD_some] at sums
      exact Nat.le_sub_of_add_le' sums
    · obtain ⟨before', noted'⟩ := Option.isSome_iff_exists.mp (below member').1
      rw [noted, noted']
      exact least _ (List.mem_filterMap.mpr ⟨job, member', by simp [ProviderJob.stamp?, noted']⟩)

/-! ## Whole runs -/

structure ReconcileWorld.Fresh (s : ReconcileWorld) : Prop where
  unreconciled : ∀ job ∈ s.jobs, job.metadata.reconciled = none
  idle : s.pass = none

theorem ReconcileWorld.Fresh.sound (fresh : s.Fresh) : PassSound s :=
  ⟨fun job member reconciled => by simp [fresh.unreconciled job member] at reconciled,
    fun _ same => (nomatch fresh.idle.symm.trans same), fun _ same => (nomatch fresh.idle.symm.trans same)⟩

theorem ReconcileWorld.Fresh.separated (fresh : s.Fresh) : Separated s :=
  ⟨fun job member reconciled => by simp [fresh.unreconciled job member] at reconciled,
    fun job member reconciled => by simp [fresh.unreconciled job member] at reconciled,
    fun _ same => (nomatch fresh.idle.symm.trans same)⟩

theorem reconciliation_counts_once {events : List (ReconcileWorld × ReconcileLabel)} (fresh : s₀.Fresh)
    (run : Run (reconcileStep timeout) s₀ events s) (apart : Conforms (SnapshotsApart timeout) events) :
    ∀ t ∈ states events s, t.CountsOnce := by
  have holds := run.throughout (fun s => Separated s ∧ PassSound s) apart ⟨fresh.separated, fresh.sound⟩
    fun _ _ _ holds apart taken => ⟨holds.1.step holds.2 apart taken, holds.2.step taken⟩
  exact fun t member => (holds t member).1.countsOnce

namespace ReconcileWorkspace

def deposit (id before : Nat) : ProviderJob :=
  ⟨id, .test, .gatewayDeposit, some .base, .submitted, some 500000, none, none, ⟨none, none, some (.micros before), none, none, none⟩,
    id, id⟩

def base : Destination := ⟨.test, .gateway, .base⟩

def start (before : Nat) : ReconcileWorld where
  jobs := ⟨[deposit 2 before, deposit 1 0], by simp [deposit]⟩
  mode := .test
  balance := fun _ => 0
  opening := fun _ => 0
  highest := fun _ => 0
  arrived := []
  pass := none

theorem start_fresh (before : Nat) : (start before).Fresh :=
  ⟨by simp [start, Table.mem_def, deposit], rfl⟩

def wholePass : List ReconcileLabel := [.reconcile 5 fun _ _ => .read, .next true, .next true]

instance (pass : ReconcilePass) (jobs : Table ProviderJob.id) : Decidable (pass.Separates jobs) :=
  inferInstanceAs (Decidable (∀ job ∈ pass.pending, pass.due job = true → (job.mode = pass.mode ∧ job.before?.isSome) ∧
    (∀ other ∈ pass.pending, pass.due other = true → other.id ≠ job.id → other.destination? = job.destination? → job.Apart other) ∧
    ∀ other ∈ jobs.rows, other.metadata.reconciled.isSome → other.destination? = job.destination? → job.Apart other))

instance : Decidable (SnapshotsApart timeout s label) :=
  match label with
  | .reconcile now reads => inferInstanceAs (Decidable ((s.beginPass timeout now reads).Separates s.jobs))
  | .arrive _ | .spend _ _ | .setMode _ | .next _ => .isTrue trivial

end ReconcileWorkspace

/-- Both deposits have noted an empty balance; the money of the first completes both. -/
theorem one_arrival_completes_two : ∃ events s, Run (reconcileStep 1000) (ReconcileWorkspace.start 0) events s ∧
    (ReconcileWorkspace.start 0).Fresh ∧ s.arrived = [1] ∧ s.counted ReconcileWorkspace.base = 1000000 ∧
    ¬∀ t ∈ states events s, t.CountsOnce := by
  obtain ⟨events, s, run, arrived, counted, shared⟩ : ∃ events s, Run (reconcileStep 1000) (ReconcileWorkspace.start 0) events s ∧
      s.arrived = [1] ∧ s.counted ReconcileWorkspace.base = 1000000 ∧
      s.arrivedFor ReconcileWorkspace.base (s.countedJobs ReconcileWorkspace.base) = 500000 :=
    exists_run (.arrive 1 :: ReconcileWorkspace.wholePass)
      (fun s : ReconcileWorld => s.arrived = [1] ∧ s.counted ReconcileWorkspace.base = 1000000 ∧
      s.arrivedFor ReconcileWorkspace.base (s.countedJobs ReconcileWorkspace.base) = 500000) (by decide +kernel)
  refine ⟨events, s, run, ReconcileWorkspace.start_fresh 0, arrived, counted, fun once => ?_⟩
  have law := once s (by simp [states]) ReconcileWorkspace.base
  rw [counted, shared] at law
  exact absurd law (by decide)

/-- The second deposit has noted what the first one brought, and waits for its own. -/
theorem two_arrivals_complete_two : ∃ events s, Run (reconcileStep 1000) (ReconcileWorkspace.start 500000) events s ∧
    (∀ t ∈ states events s, t.CountsOnce) ∧ s.arrived = [2, 1] ∧ s.counted ReconcileWorkspace.base = 1000000 := by
  obtain ⟨events, s, run, apart, arrived, counted⟩ : ∃ events s,
      Run (reconcileStep 1000) (ReconcileWorkspace.start 500000) events s ∧ Conforms (SnapshotsApart 1000) events ∧
        s.arrived = [2, 1] ∧ s.counted ReconcileWorkspace.base = 1000000 :=
    exists_conforming_run (.arrive 1 :: ReconcileWorkspace.wholePass ++ .next true :: .arrive 2 :: ReconcileWorkspace.wholePass)
      (fun s label => decide (SnapshotsApart 1000 s label))
      (fun s => s.arrived = [2, 1] ∧ s.counted ReconcileWorkspace.base = 1000000) (fun _ _ => of_decide_eq_true) (by decide +kernel)
  exact ⟨events, s, run, reconciliation_counts_once (ReconcileWorkspace.start_fresh 500000) run apart, arrived, counted⟩

end AgentOps.Treasury
