import AgentOps.Payments.Permit2
import AgentOps.Lib.IpText
import AgentOps.Lib.Text
import AgentOps.Lib.Transition

namespace AgentOps.Payments
open Lib Identity

/-! # Registrations of agents in the ERC-8004 identity registry -/

def IDENTITY_REGISTRY_ADDRESS : String := "0x8004A818BFB912233c491871b3d84c89A494BD9e"

structure Erc8004ReceiptLog where
  address : String
  topics : List String
  data : String
  deriving DecidableEq

/-- `decodeEventLog` with the ABI of the one event `Registered`, to its `agentId`; nothing where it throws -/
abbrev DecodeRegistered := List String → String → Option Nat

def parseRegistered (decode : DecodeRegistered) (logs : List Erc8004ReceiptLog) (registryAddress : String) : Option Nat :=
  logs.findSome? fun log => if lower log.address ≠ lower registryAddress then none else decode log.topics log.data

inductive OnchainIdentityStatus where
  | pending
  | registered
  | failed
  deriving DecidableEq

structure AgentOnchainIdentityRow where
  id : Nat
  org_id : OrgId
  agent_id : AgentId
  mode : PaymentMode
  chain : PaymentChain
  registry_address : String
  token_id : Option Nat
  agent_uri : String
  register_tx_hash : Option String
  status : OnchainIdentityStatus
  deriving DecidableEq

/-- `UNIQUE (agent_id, mode, chain)` -/
def AgentOnchainIdentityRow.key (row : AgentOnchainIdentityRow) : AgentId × Network := (row.agent_id, row.mode, row.chain)

structure RegisterAgentIdentityInput where
  orgId : OrgId
  agentId : AgentId
  mode : PaymentMode
  chain : PaymentChain
  agentUri : String
  deriving DecidableEq

def RegisterAgentIdentityInput.key (input : RegisterAgentIdentityInput) : AgentId × Network :=
  (input.agentId, input.mode, input.chain)

/-- A `register(string)` that the provider has sent for a call, with the logs of its receipt -/
structure RegisterTransaction where
  call : Nat
  txHash : String
  chain : PaymentChain
  senderAddress : Address
  agentUri : String
  logs : List Erc8004ReceiptLog
  deriving DecidableEq

/-- Where a call of `registerAgentIdentity` stands -/
inductive RegistrationPhase where
  | called
  | unregistered (existing : Option AgentOnchainIdentityRow)
  | submitting (existing : Option AgentOnchainIdentityRow) (senderAddress : Address)
  | submitted (existing : Option AgentOnchainIdentityRow) (txHash : String)
  | parsed (existing : Option AgentOnchainIdentityRow) (txHash : String) (tokenId : Nat)
  | ended (answer : Except Failure AgentOnchainIdentityRow)

def RegistrationPhase.active : RegistrationPhase → Bool
  | .called | .ended _ => false
  | _ => true

def RegistrationPhase.threw : RegistrationPhase → Bool
  | .ended (.error _) => true
  | _ => false

structure IdentityRegistrations where
  identities : Table AgentOnchainIdentityRow.key
  wallets : Table AgentChainWalletRow.key
  transactions : List RegisterTransaction
  calls : Nat → RegistrationPhase

inductive RegistrationEvent where
  | begins (call : Nat)
  | findsWallet (call : Nat)
  | submits (call : Nat) (txHash : String) (logs : List Erc8004ReceiptLog)
  /-- The provider sends the transaction, and throws: it timed out, or its answer is lost. -/
  | losesSubmission (call : Nat) (txHash : String) (logs : List Erc8004ReceiptLog) (message : String)
  | readsReceipt (call : Nat)
  /-- The upsert and the `COMMIT`; the id is drawn for a row that is new. -/
  | commits (call : Nat) (id : Nat)
  | fails (call : Nat) (message : String)
  | setWallets (wallets : Table AgentChainWalletRow.key)

namespace IdentityRegistrations

def start (identities : Table AgentOnchainIdentityRow.key) (wallets : Table AgentChainWalletRow.key) : IdentityRegistrations :=
  ⟨identities, wallets, [], fun _ => .called⟩

def put (s : IdentityRegistrations) (call : Nat) (next : RegistrationPhase) : IdentityRegistrations :=
  { s with calls := Function.update s.calls call next }

def send (s : IdentityRegistrations) (tx : RegisterTransaction) : IdentityRegistrations :=
  { s with transactions := tx :: s.transactions }

def hashFree (s : IdentityRegistrations) (chain : PaymentChain) (txHash : String) : Bool :=
  s.transactions.all fun tx => !(tx.chain = chain && tx.txHash = txHash)

def receipt? (s : IdentityRegistrations) (txHash : String) (chain : PaymentChain) : Option RegisterTransaction :=
  s.transactions.find? fun tx => tx.txHash = txHash && tx.chain = chain

def walletNotFound : Failure := conflict "erc8004_agent_wallet_not_found"
  "This agent does not have an Arc wallet yet. Enable payment access for the agent, wait until the wallet is active, then try Register on Arc again."

def findAgentWallet (s : IdentityRegistrations) (key : AgentId × Network) : Option AgentChainWalletRow :=
  (s.wallets.find? key).filter (·.active)

/-- `ON CONFLICT (agent_id, mode, chain) DO UPDATE` keeps the id, the organisation and the address of the registry. -/
def upserted (s : IdentityRegistrations) (input : RegisterAgentIdentityInput) (txHash : String) (tokenId id : Nat) :
    AgentOnchainIdentityRow :=
  match s.identities.find? input.key with
  | some old =>
    ⟨old.id, old.org_id, input.agentId, input.mode, input.chain, old.registry_address, some tokenId, input.agentUri, some txHash,
      .registered⟩
  | none =>
    ⟨id, input.orgId, input.agentId, input.mode, input.chain, IDENTITY_REGISTRY_ADDRESS, some tokenId, input.agentUri,
      some txHash, .registered⟩

def idTaken (s : IdentityRegistrations) (key : AgentId × Network) (id : Nat) : Bool :=
  (s.identities.find? key).isNone && s.identities.rows.any (·.id = id)

def step (decode : DecodeRegistered) (inputs : Nat → RegisterAgentIdentityInput) (s : IdentityRegistrations) :
    RegistrationEvent → Option IdentityRegistrations
  | .begins call =>
    match s.calls call with
    | .called =>
      match s.identities.find? (inputs call).key with
      | some row =>
        if row.status = .registered then some (s.put call (.ended (.ok row))) else some (s.put call (.unregistered (some row)))
      | none => some (s.put call (.unregistered none))
    | _ => none
  | .findsWallet call =>
    match s.calls call with
    | .unregistered existing =>
      match s.findAgentWallet (inputs call).key with
      | none => some (s.put call (.ended (.error walletNotFound)))
      | some wallet => some (s.put call (.submitting existing wallet.address))
    | _ => none
  | .submits call txHash logs =>
    match s.calls call with
    | .submitting existing sender =>
      if s.hashFree (inputs call).chain txHash then
        some ((s.send ⟨call, txHash, (inputs call).chain, sender, (inputs call).agentUri, logs⟩).put call
          (.submitted existing txHash))
      else none
    | _ => none
  | .losesSubmission call txHash logs message =>
    match s.calls call with
    | .submitting _ sender =>
      if s.hashFree (inputs call).chain txHash then
        some ((s.send ⟨call, txHash, (inputs call).chain, sender, (inputs call).agentUri, logs⟩).put call
          (.ended (.error (.thrown message))))
      else none
    | _ => none
  | .readsReceipt call =>
    match s.calls call with
    | .submitted existing txHash =>
      match s.receipt? txHash (inputs call).chain with
      | none => none
      | some tx =>
        match parseRegistered decode tx.logs IDENTITY_REGISTRY_ADDRESS with
        | none => some (s.put call (.ended (.error (.thrown ("erc8004_agent_id_not_in_receipt:" ++ txHash)))))
        | some tokenId => some (s.put call (.parsed existing txHash tokenId))
    | _ => none
  | .commits call id =>
    match s.calls call with
    | .parsed existing txHash tokenId =>
      let id := (existing.map (·.id)).getD id
      if s.idTaken (inputs call).key id then
        some (s.put call (.ended (.error (.constraint "agent_onchain_identities_pkey"))))
      else
        let row := s.upserted (inputs call) txHash tokenId id
        some ({ s with identities := s.identities.upsert row }.put call (.ended (.ok row)))
    | _ => none
  | .fails call message =>
    if (s.calls call).active then some (s.put call (.ended (.error (.thrown message)))) else none
  | .setWallets wallets => some { s with wallets }

inductive Steps (decode : DecodeRegistered) (inputs : Nat → RegisterAgentIdentityInput) (s : IdentityRegistrations) :
    RegistrationEvent → IdentityRegistrations → Prop where
  | begins {call : Nat} (before : s.calls call = .called)
      (unregistered : ∀ row, s.identities.find? (inputs call).key = some row → row.status ≠ .registered) :
      Steps decode inputs s (.begins call) (s.put call (.unregistered (s.identities.find? (inputs call).key)))
  | returns {call : Nat} {row : AgentOnchainIdentityRow} (before : s.calls call = .called)
      (found : s.identities.find? (inputs call).key = some row) (registered : row.status = .registered) :
      Steps decode inputs s (.begins call) (s.put call (.ended (.ok row)))
  | findsWallet {call : Nat} {existing : Option AgentOnchainIdentityRow} {wallet : AgentChainWalletRow}
      (before : s.calls call = .unregistered existing) (found : s.findAgentWallet (inputs call).key = some wallet) :
      Steps decode inputs s (.findsWallet call) (s.put call (.submitting existing wallet.address))
  | sends {event : RegistrationEvent} {call : Nat} {existing : Option AgentOnchainIdentityRow} {sender : Address} {txHash : String}
      {logs : List Erc8004ReceiptLog} {next : RegistrationPhase} (before : s.calls call = .submitting existing sender)
      (free : s.hashFree (inputs call).chain txHash = true)
      (after : next = .submitted existing txHash ∨ ∃ failure, next = .ended (.error failure)) :
      Steps decode inputs s event
        ((s.send ⟨call, txHash, (inputs call).chain, sender, (inputs call).agentUri, logs⟩).put call next)
  | parses {call : Nat} {existing : Option AgentOnchainIdentityRow} {txHash : String} {tx : RegisterTransaction} {tokenId : Nat}
      (before : s.calls call = .submitted existing txHash) (found : s.receipt? txHash (inputs call).chain = some tx)
      (parsed : parseRegistered decode tx.logs IDENTITY_REGISTRY_ADDRESS = some tokenId) :
      Steps decode inputs s (.readsReceipt call) (s.put call (.parsed existing txHash tokenId))
  | commits {call id id' : Nat} {existing : Option AgentOnchainIdentityRow} {txHash : String} {tokenId : Nat}
      (before : s.calls call = .parsed existing txHash tokenId) : Steps decode inputs s (.commits call id)
        ({ s with identities := s.identities.upsert (s.upserted (inputs call) txHash tokenId id') }.put call
          (.ended (.ok (s.upserted (inputs call) txHash tokenId id'))))
  | throws {event : RegistrationEvent} {call : Nat} {failure : Failure} (before : (s.calls call).active = true) :
      Steps decode inputs s event (s.put call (.ended (.error failure)))
  | setWallets (wallets : Table AgentChainWalletRow.key) : Steps decode inputs s (.setWallets wallets) { s with wallets }

variable {decode : DecodeRegistered} {inputs : Nat → RegisterAgentIdentityInput} {s s' : IdentityRegistrations}
  {event : RegistrationEvent} {events : List (IdentityRegistrations × RegistrationEvent)} {call call' : Nat}

theorem steps_of (taken : step decode inputs s event = some s') : Steps decode inputs s event s' := by
  cases event with
  | begins call =>
    simp only [step] at taken
    split at taken
    · rename_i before
      split at taken
      · rename_i row found
        split_ifs at taken with registered
        · obtain rfl := Option.some.inj taken
          exact .returns before found registered
        · obtain rfl := Option.some.inj taken
          rw [← found]
          refine .begins before fun row' found' => ?_
          rw [found] at found'
          rwa [← Option.some.inj found']
      · rename_i missing
        obtain rfl := Option.some.inj taken
        rw [← missing]
        exact .begins before fun row found => by rw [missing] at found; cases found
    · cases taken
  | findsWallet call =>
    simp only [step] at taken
    split at taken
    · rename_i existing before
      split at taken
      · obtain rfl := Option.some.inj taken
        exact .throws (by rw [before]; rfl)
      · rename_i wallet found
        obtain rfl := Option.some.inj taken
        exact .findsWallet before found
    · cases taken
  | submits call txHash logs =>
    simp only [step] at taken
    split at taken
    · rename_i existing sender before
      obtain ⟨free, taken⟩ := Option.ite_none_right_eq_some.mp taken
      obtain rfl := Option.some.inj taken
      exact .sends before free (.inl rfl)
    · cases taken
  | losesSubmission call txHash logs message =>
    simp only [step] at taken
    split at taken
    · rename_i existing sender before
      obtain ⟨free, taken⟩ := Option.ite_none_right_eq_some.mp taken
      obtain rfl := Option.some.inj taken
      exact .sends before free (.inr ⟨_, rfl⟩)
    · cases taken
  | readsReceipt call =>
    simp only [step] at taken
    split at taken
    · rename_i existing txHash before
      split at taken
      · cases taken
      · rename_i tx found
        split at taken
        · obtain rfl := Option.some.inj taken
          exact .throws (by rw [before]; rfl)
        · rename_i tokenId parsed
          obtain rfl := Option.some.inj taken
          exact .parses before found parsed
    · cases taken
  | commits call id =>
    simp only [step] at taken
    split at taken
    · rename_i existing txHash tokenId before
      split_ifs at taken
      · obtain rfl := Option.some.inj taken
        exact .throws (by rw [before]; rfl)
      · obtain rfl := Option.some.inj taken
        exact .commits before
    · cases taken
  | fails call message =>
    obtain ⟨active, taken⟩ := Option.ite_none_right_eq_some.mp taken
    obtain rfl := Option.some.inj taken
    exact .throws active
  | setWallets wallets =>
    obtain rfl := Option.some.inj taken
    exact .setWallets wallets

/-! ## What backs a registered row -/

def WalletFound (inputs : Nat → RegisterAgentIdentityInput) (events : List (IdentityRegistrations × RegistrationEvent))
    (call : Nat) (sender : Address) : Prop :=
  ∃ t wallet, (t, .findsWallet call) ∈ events ∧ t.findAgentWallet (inputs call).key = some wallet ∧ wallet.address = sender

structure Backs (decode : DecodeRegistered) (inputs : Nat → RegisterAgentIdentityInput)
    (events : List (IdentityRegistrations × RegistrationEvent)) (row : AgentOnchainIdentityRow) (tx : RegisterTransaction) :
    Prop where
  hash : row.register_tx_hash = some tx.txHash
  chain : tx.chain = row.chain
  agent : (inputs tx.call).key = row.key
  uri : tx.agentUri = row.agent_uri
  token : ∃ tokenId, row.token_id = some tokenId ∧
    parseRegistered decode tx.logs IDENTITY_REGISTRY_ADDRESS = some tokenId
  wallet : WalletFound inputs events tx.call tx.senderAddress

def Tracks (decode : DecodeRegistered) (inputs : Nat → RegisterAgentIdentityInput)
    (events : List (IdentityRegistrations × RegistrationEvent)) (txs : List RegisterTransaction) (call : Nat) :
    RegistrationPhase → Prop
  | .called | .unregistered _ => ∀ tx ∈ txs, tx.call ≠ call
  | .submitting _ sender => (∀ tx ∈ txs, tx.call ≠ call) ∧ WalletFound inputs events call sender
  | .submitted _ txHash => ∃ tx ∈ txs, tx.call = call ∧ tx.txHash = txHash
  | .parsed _ txHash tokenId => ∃ tx ∈ txs, tx.call = call ∧ tx.txHash = txHash ∧
    parseRegistered decode tx.logs IDENTITY_REGISTRY_ADDRESS = some tokenId
  | .ended _ => True

structure Faithful (decode : DecodeRegistered) (inputs : Nat → RegisterAgentIdentityInput)
    (events : List (IdentityRegistrations × RegistrationEvent)) (s : IdentityRegistrations) : Prop where
  calls : ∀ call, Tracks decode inputs events s.transactions call (s.calls call)
  made : ∀ tx ∈ s.transactions, tx.chain = (inputs tx.call).chain ∧ tx.agentUri = (inputs tx.call).agentUri ∧
    WalletFound inputs events tx.call tx.senderAddress
  once : ∀ tx ∈ s.transactions, ∀ tx' ∈ s.transactions, tx.call = tx'.call → tx = tx'
  hashes : ∀ tx ∈ s.transactions, ∀ tx' ∈ s.transactions, tx.chain = tx'.chain → tx.txHash = tx'.txHash → tx = tx'
  rows : ∀ row ∈ s.identities, row.status = .registered → ∃ tx ∈ s.transactions, Backs decode inputs events row tx

section Steps

variable {txs : List RegisterTransaction} {tx : RegisterTransaction} {phase next : RegistrationPhase} {sender : Address}
  {row : AgentOnchainIdentityRow} {e : IdentityRegistrations × RegistrationEvent}

theorem WalletFound.later (found : WalletFound inputs events call sender) : WalletFound inputs (events ++ [e]) call sender := by
  obtain ⟨t, wallet, member, active, same⟩ := found
  exact ⟨t, wallet, List.mem_append_left _ member, active, same⟩

theorem Backs.later (backs : Backs decode inputs events row tx) : Backs decode inputs (events ++ [e]) row tx :=
  { backs with wallet := backs.wallet.later }

theorem Tracks.later (tracks : Tracks decode inputs events txs call phase) :
    Tracks decode inputs (events ++ [e]) txs call phase := by
  cases phase with
  | submitting existing sender => exact ⟨tracks.1, tracks.2.later⟩
  | _ => exact tracks

theorem Tracks.cons (tracks : Tracks decode inputs events txs call phase) (other : tx.call ≠ call) :
    Tracks decode inputs events (tx :: txs) call phase := by
  have without (none : ∀ tx' ∈ txs, tx'.call ≠ call) : ∀ tx' ∈ tx :: txs, tx'.call ≠ call := by
    intro tx' member
    rcases List.mem_cons.mp member with rfl | earlier
    · exact other
    · exact none tx' earlier
  cases phase with
  | called => exact without tracks
  | unregistered existing => exact without tracks
  | submitting existing sender => exact ⟨without tracks.1, tracks.2⟩
  | submitted existing txHash =>
    obtain ⟨tx', member, own⟩ := tracks
    exact ⟨tx', List.mem_cons_of_mem _ member, own⟩
  | parsed existing txHash tokenId =>
    obtain ⟨tx', member, own⟩ := tracks
    exact ⟨tx', List.mem_cons_of_mem _ member, own⟩
  | ended answer => trivial

theorem Faithful.later (faithful : Faithful decode inputs events s) : Faithful decode inputs (events ++ [e]) s where
  calls call := (faithful.calls call).later
  made tx member := (faithful.made tx member).imp id (.imp id .later)
  once := faithful.once
  hashes := faithful.hashes
  rows row member registered := by
    obtain ⟨tx, sent, backs⟩ := faithful.rows row member registered
    exact ⟨tx, sent, backs.later⟩

theorem Faithful.put (faithful : Faithful decode inputs events s)
    (tracks : Tracks decode inputs events s.transactions call next) : Faithful decode inputs events (s.put call next) where
  calls call' := by
    simp only [IdentityRegistrations.put, Function.update_apply]
    split_ifs with own
    · rw [own]
      exact tracks
    · exact faithful.calls call'
  made := faithful.made
  once := faithful.once
  hashes := faithful.hashes
  rows := faithful.rows

theorem Faithful.send (faithful : Faithful decode inputs events s)
    (made : tx.chain = (inputs tx.call).chain ∧ tx.agentUri = (inputs tx.call).agentUri ∧
      WalletFound inputs events tx.call tx.senderAddress)
    (first : ∀ tx' ∈ s.transactions, tx'.call ≠ tx.call) (free : s.hashFree tx.chain tx.txHash = true)
    (tracks : Tracks decode inputs events (tx :: s.transactions) tx.call next) :
    Faithful decode inputs events ((s.send tx).put tx.call next) where
  calls call' := by
    simp only [IdentityRegistrations.put, Function.update_apply]
    split_ifs with own
    · rw [own]
      exact tracks
    · exact (faithful.calls call').cons (Ne.symm own)
  made tx' member := by
    rcases List.mem_cons.mp member with rfl | earlier
    · exact made
    · exact faithful.made tx' earlier
  once tx₁ member₁ tx₂ member₂ same := by
    rcases List.mem_cons.mp member₁ with rfl | earlier₁ <;> rcases List.mem_cons.mp member₂ with rfl | earlier₂
    · rfl
    · exact absurd same.symm (first tx₂ earlier₂)
    · exact absurd same (first tx₁ earlier₁)
    · exact faithful.once tx₁ earlier₁ tx₂ earlier₂ same
  hashes tx₁ member₁ tx₂ member₂ chain same := by
    have apart (tx' : RegisterTransaction) (earlier : tx' ∈ s.transactions) : tx'.chain = tx.chain → tx'.txHash ≠ tx.txHash := by
      simpa [imp_iff_not_or] using List.all_eq_true.mp free tx' earlier
    rcases List.mem_cons.mp member₁ with rfl | earlier₁ <;> rcases List.mem_cons.mp member₂ with rfl | earlier₂
    · rfl
    · exact absurd same.symm (apart tx₂ earlier₂ chain.symm)
    · exact absurd same (apart tx₁ earlier₁ chain)
    · exact faithful.hashes tx₁ earlier₁ tx₂ earlier₂ chain same
  rows row member registered := by
    obtain ⟨tx', sent, backs⟩ := faithful.rows row member registered
    exact ⟨tx', List.mem_cons_of_mem _ sent, backs⟩

theorem upserted_row (s : IdentityRegistrations) (input : RegisterAgentIdentityInput) (txHash : String) (tokenId id : Nat) :
    (s.upserted input txHash tokenId id).key = input.key ∧ (s.upserted input txHash tokenId id).status = .registered ∧
      (s.upserted input txHash tokenId id).chain = input.chain ∧
      (s.upserted input txHash tokenId id).agent_uri = input.agentUri ∧
      (s.upserted input txHash tokenId id).token_id = some tokenId ∧
      (s.upserted input txHash tokenId id).register_tx_hash = some txHash := by
  unfold upserted
  split <;> exact ⟨rfl, rfl, rfl, rfl, rfl, rfl⟩

theorem Faithful.commit {existing : Option AgentOnchainIdentityRow} {txHash : String} {tokenId : Nat} (id : Nat)
    (faithful : Faithful decode inputs events s) (before : s.calls call = .parsed existing txHash tokenId) :
    Faithful decode inputs events
      ({ s with identities := s.identities.upsert (s.upserted (inputs call) txHash tokenId id) }.put call
        (.ended (.ok (s.upserted (inputs call) txHash tokenId id)))) := by
  obtain ⟨key, -, chain, uri, token, hash⟩ := upserted_row s (inputs call) txHash tokenId id
  have tracked := faithful.calls call
  rw [before] at tracked
  obtain ⟨tx, sent, rfl, rfl, parsed⟩ := tracked
  obtain ⟨onChain, withUri, wallet⟩ := faithful.made tx sent
  refine Faithful.put (s := { s with identities := _ }) ?_ trivial
  refine { faithful with rows := fun row member registered => ?_ }
  rcases Table.mem_upsert.mp member with rfl | ⟨earlier, -⟩
  · exact ⟨tx, sent, hash, onChain.trans chain.symm, key.symm, withUri.trans uri.symm, ⟨tokenId, token, parsed⟩, wallet⟩
  · exact faithful.rows row earlier registered

theorem Faithful.step (faithful : Faithful decode inputs events s) (steps : Steps decode inputs s event s') :
    Faithful decode inputs (events ++ [(s, event)]) s' := by
  have since := faithful.later (e := (s, event))
  cases steps with
  | @begins call before unregistered =>
    have tracked := since.calls call
    rw [before] at tracked
    exact since.put tracked
  | returns before found registered => exact since.put trivial
  | @findsWallet call existing wallet before found =>
    have tracked := since.calls call
    rw [before] at tracked
    exact since.put ⟨tracked, s, wallet, by simp, found, rfl⟩
  | @sends event call existing sender txHash logs next before free after =>
    have tracked := since.calls call
    rw [before] at tracked
    refine since.send ⟨rfl, rfl, tracked.2⟩ tracked.1 free ?_
    rcases after with rfl | ⟨failure, rfl⟩
    · exact ⟨_, List.mem_cons_self .., rfl, rfl⟩
    · trivial
  | @parses call existing txHash tx tokenId before found parsed =>
    have tracked := since.calls call
    rw [before] at tracked
    obtain ⟨own, sent, mine, same⟩ := tracked
    have located : tx.txHash = txHash ∧ tx.chain = (inputs call).chain := by simpa using List.find?_some found
    -- the hash of the transaction of the call is on its chain no other's
    obtain rfl := since.hashes tx (List.mem_of_find?_eq_some found) own sent
      (by rw [located.2, (since.made own sent).1, mine]) (by rw [located.1, same])
    exact since.put ⟨tx, sent, mine, same, parsed⟩
  | @commits call id id' existing txHash tokenId before => exact since.commit id' before
  | throws before => exact since.put trivial
  | setWallets wallets => exact { since with }

end Steps

section Runs

variable {identities : Table AgentOnchainIdentityRow.key} {wallets : Table AgentChainWalletRow.key}

theorem faithful_of_run (unregistered : ∀ row ∈ identities, row.status ≠ .registered)
    (run : Run (step decode inputs) (start identities wallets) events s) : Faithful decode inputs events s := by
  induction run with
  | start =>
    exact ⟨fun call tx member => absurd member List.not_mem_nil, fun tx member => absurd member List.not_mem_nil,
      fun tx member => absurd member List.not_mem_nil, fun tx member => absurd member List.not_mem_nil,
      fun row member registered => absurd registered (unregistered row member)⟩
  | next before taken ih => exact ih.step (steps_of taken)

/-- Every registered row records a transaction that a call for its agent sent from the wallet found active, with its token,
and no two rows record the same one. -/
theorem registrations_backed (unregistered : ∀ row ∈ identities, row.status ≠ .registered)
    (run : Run (step decode inputs) (start identities wallets) events s) :
    (∀ row ∈ s.identities, row.status = .registered → ∃ tx ∈ s.transactions, Backs decode inputs events row tx) ∧
    ∀ row ∈ s.identities, ∀ row' ∈ s.identities, row.status = .registered → row'.status = .registered →
      row.chain = row'.chain → row.register_tx_hash = row'.register_tx_hash → row = row' := by
  have faithful := faithful_of_run unregistered run
  refine ⟨faithful.rows, fun row member row' member' registered registered' chain hash => ?_⟩
  obtain ⟨tx, sent, backs⟩ := faithful.rows row member registered
  obtain ⟨tx', sent', backs'⟩ := faithful.rows row' member' registered'
  have hashes : some tx.txHash = some tx'.txHash := by rw [← backs.hash, ← backs'.hash, hash]
  obtain rfl := faithful.hashes tx sent tx' sent' (by rw [backs.chain, backs'.chain, chain]) (Option.some.inj hashes)
  exact Table.eq_of_key member member' (backs.agent.symm.trans backs'.agent)

end Runs

/-- The topic of `Registered(uint256,string,address)`, then the indexed `agentId` and `owner` -/
def decodeTopics : DecodeRegistered
  | [signature, agentId, _], _ =>
    if signature = "0xca52e62c367d81bb2e328eb795f7c7ba24afb478408a26c0e201d155c449bc4a" then some (hexValue (agentId.toList.drop 2))
    else none
  | _, _ => none

def registeredLog (agentId : String) : Erc8004ReceiptLog :=
  ⟨IDENTITY_REGISTRY_ADDRESS, ["0xca52e62c367d81bb2e328eb795f7c7ba24afb478408a26c0e201d155c449bc4a", agentId, "0x05"], "0x"⟩

def arcWallets : Table AgentChainWalletRow.key := .singleton ⟨1, .test, .arc, ⟨5, 0⟩, true⟩

def arcInputs : Nat → RegisterAgentIdentityInput := fun call =>
  ⟨1, if call < 3 then 1 else 2, .test, .arc, "https://agent.example"⟩

def registers : List RegistrationEvent :=
  [.begins 0, .findsWallet 0, .losesSubmission 0 "0xaa" [registeredLog "0x06"] "timeout", .begins 1, .findsWallet 1,
    .submits 1 "0xbb" [⟨"0x01", [], "0x"⟩, registeredLog "0x07"], .readsReceipt 1, .commits 1 1, .begins 2]

theorem registrations_backed_second : ∃ events s,
    Run (step decodeTopics arcInputs) (start .empty arcWallets) events s ∧ ∃ row ∈ s.identities, row.token_id = some 7 ∧
      ∃ tx ∈ s.transactions, Backs decodeTopics arcInputs events row tx := by
  obtain ⟨events, s, run, row, member, registered, token⟩ : ∃ events s,
      Run (step decodeTopics arcInputs) (start .empty arcWallets) events s ∧
      ∃ row ∈ s.identities.rows, row.status = .registered ∧ row.token_id = some 7 :=
    exists_run registers (fun s : IdentityRegistrations =>
      ∃ row ∈ s.identities.rows, row.status = .registered ∧ row.token_id = some 7) (by decide +kernel)
  exact ⟨events, s, run, row, member, token, (registrations_backed (by simp) run).1 row member registered⟩

/-! ## Calls for one agent, one after the other -/

/-- A call begins only while no other call for its agent, mode and chain is under way. -/
def Apart (inputs : Nat → RegisterAgentIdentityInput) (s : IdentityRegistrations) : RegistrationEvent → Prop
  | .begins call => ∀ other, (s.calls other).active = true → (inputs other).key ≠ (inputs call).key
  | _ => True

def Registered (s : IdentityRegistrations) (key : AgentId × Network) : Prop :=
  ∃ row, s.identities.find? key = some row ∧ row.status = .registered

structure Single (inputs : Nat → RegisterAgentIdentityInput) (s : IdentityRegistrations) : Prop where
  alone : ∀ call call', (s.calls call).active = true → (s.calls call').active = true →
    (inputs call).key = (inputs call').key → call = call'
  idle : ∀ call, (s.calls call).active = true → ¬s.Registered (inputs call).key
  answered : ∀ call row, s.calls call = .ended (.ok row) → s.Registered (inputs call).key
  one : ∀ tx ∈ s.transactions, ∀ tx' ∈ s.transactions, (inputs tx.call).key = (inputs tx'.call).key →
    (s.calls tx.call).threw = false → (s.calls tx'.call).threw = false → tx = tx'

theorem Single.put {next : RegistrationPhase} {table : Table AgentOnchainIdentityRow.key} (single : Single inputs s)
    (later : ∀ key, s.Registered key → Registered { s with identities := table } key)
    (earlier : ∀ key, Registered { s with identities := table } key → s.Registered key ∨
      (s.calls call).active = true ∧ next.active = false ∧ key = (inputs call).key)
    (active : next.active = true → (s.calls call).active = true ∨
      ¬s.Registered (inputs call).key ∧ ∀ other, (s.calls other).active = true → (inputs other).key ≠ (inputs call).key)
    (answered : ∀ row, next = .ended (.ok row) → Registered { s with identities := table } (inputs call).key)
    (kept : (∀ tx ∈ s.transactions, tx.call ≠ call) ∨ (next.threw = false → (s.calls call).threw = false)) :
    Single inputs ({ s with identities := table }.put call next) where
  alone call₁ call₂ active₁ active₂ same := by
    simp only [IdentityRegistrations.put, Function.update_apply] at active₁ active₂
    split_ifs at active₁ active₂ with own₁ own₂ own₂
    · rw [own₁, own₂]
    · subst own₁
      rcases active active₁ with was | ⟨-, none⟩
      · exact single.alone call₁ call₂ was active₂ same
      · exact absurd same.symm (none call₂ active₂)
    · subst own₂
      rcases active active₂ with was | ⟨-, none⟩
      · exact single.alone call₁ call₂ active₁ was same
      · exact absurd same (none call₁ active₁)
    · exact single.alone call₁ call₂ active₁ active₂ same
  idle call' active' registered := by
    simp only [IdentityRegistrations.put, Function.update_apply] at active'
    rcases earlier _ registered with before | ⟨was, inactive, same⟩
    · split_ifs at active' with own
      · subst own
        rcases active active' with was | ⟨unregistered, -⟩
        · exact single.idle call' was before
        · exact unregistered before
      · exact single.idle call' active' before
    · split_ifs at active' with own
      · rw [inactive] at active'
        cases active'
      · exact own (single.alone call' call active' was same)
  answered call' row ended := by
    simp only [IdentityRegistrations.put, Function.update_apply] at ended
    split_ifs at ended with own
    · subst own
      exact answered row ended
    · exact later _ (single.answered call' row ended)
  one tx sent tx' sent' same kept₁ kept₂ := by
    have unthrown (tx : RegisterTransaction) (sent : tx ∈ s.transactions)
        (now : (({ s with identities := table }.put call next).calls tx.call).threw = false) :
        (s.calls tx.call).threw = false := by
      simp only [IdentityRegistrations.put, Function.update_apply] at now
      split_ifs at now with own
      · rcases kept with without | before
        · exact absurd own (without tx sent)
        · rw [own]
          exact before now
      · exact now
    exact single.one tx sent tx' sent' same (unthrown tx sent kept₁) (unthrown tx' sent' kept₂)

theorem Single.move {next : RegistrationPhase} (single : Single inputs s)
    (active : next.active = true → (s.calls call).active = true ∨
      ¬s.Registered (inputs call).key ∧ ∀ other, (s.calls other).active = true → (inputs other).key ≠ (inputs call).key)
    (answered : ∀ row, next = .ended (.ok row) → s.Registered (inputs call).key)
    (kept : (∀ tx ∈ s.transactions, tx.call ≠ call) ∨ (next.threw = false → (s.calls call).threw = false)) :
    Single inputs (s.put call next) := by
  have unchanged : Single inputs ({ s with identities := s.identities }.put call next) :=
    single.put (fun _ registered => registered) (fun _ registered => .inl registered) active answered kept
  exact unchanged

theorem threw_of_active {phase : RegistrationPhase} (active : phase.active = true) : phase.threw = false := by
  cases phase with
  | ended answer => cases active
  | _ => rfl

theorem Single.send {tx : RegisterTransaction} (single : Single inputs s) (active : (s.calls tx.call).active = true)
    (begun : ∀ tx' ∈ s.transactions, s.calls tx'.call ≠ .called) (first : ∀ tx' ∈ s.transactions, tx'.call ≠ tx.call) :
    Single inputs (s.send tx) where
  alone := single.alone
  idle := single.idle
  answered := single.answered
  one tx₁ sent₁ tx₂ sent₂ same kept₁ kept₂ := by
    -- a call for the agent that has sent another has thrown, or its answer would be in the table
    have thrown (tx' : RegisterTransaction) (sent' : tx' ∈ s.transactions)
        (same : (inputs tx'.call).key = (inputs tx.call).key) : (s.calls tx'.call).threw = true := by
      cases phase : s.calls tx'.call with
      | called => exact absurd phase (begun tx' sent')
      | ended answer =>
        cases answer with
        | error failure => rfl
        | ok row =>
          have registered := single.answered tx'.call row phase
          rw [same] at registered
          exact absurd registered (single.idle tx.call active)
      | _ => exact absurd (single.alone tx'.call tx.call (by rw [phase]; rfl) active same) (first tx' sent')
    rcases List.mem_cons.mp sent₁ with rfl | earlier₁ <;> rcases List.mem_cons.mp sent₂ with rfl | earlier₂
    · rfl
    · exact absurd ((thrown tx₂ earlier₂ same.symm).symm.trans kept₂) (by decide)
    · exact absurd ((thrown tx₁ earlier₁ same).symm.trans kept₁) (by decide)
    · exact single.one tx₁ earlier₁ tx₂ earlier₂ same kept₁ kept₂

theorem registered_upsert {row : AgentOnchainIdentityRow} {key : AgentId × Network} (registered : row.status = .registered) :
    Registered { s with identities := s.identities.upsert row } key ↔ key = row.key ∨ s.Registered key := by
  by_cases own : key = row.key
  · subst own
    have found : (s.identities.upsert row).find? row.key = some row := Table.find?_of_mem (Table.mem_upsert.mpr (.inl rfl))
    exact iff_of_true ⟨row, found, registered⟩ (.inl rfl)
  · simp only [Registered, Table.find?_upsert_ne (Ne.symm own), own, false_or]

theorem Single.step (single : Single inputs s) (faithful : Faithful decode inputs events s) (apart : Apart inputs s event)
    (steps : Steps decode inputs s event s') : Single inputs s' := by
  have unsent (call : Nat) (early : s.calls call = .called) : ∀ tx ∈ s.transactions, tx.call ≠ call := by
    have tracked := faithful.calls call
    rwa [early] at tracked
  cases steps with
  | @begins call before unregistered =>
    refine single.move (fun _ => .inr ⟨?_, apart⟩) (fun row ended => by cases ended) (.inl (unsent call before))
    rintro ⟨row, found, registered⟩
    exact unregistered row found registered
  | @returns call row before found registered =>
    exact single.move (fun active => by cases active) (fun _ _ => ⟨row, found, registered⟩) (.inl (unsent call before))
  | findsWallet before found =>
    exact single.move (fun _ => .inl (by rw [before]; rfl)) (fun row ended => by cases ended) (.inr fun _ => by rw [before]; rfl)
  | @sends event call existing sender txHash logs next before free after =>
    have active : (s.calls call).active = true := by rw [before]; rfl
    have tracked := faithful.calls call
    rw [before] at tracked
    have begun : ∀ tx ∈ s.transactions, s.calls tx.call ≠ .called := fun tx sent early => unsent tx.call early tx sent rfl
    refine (single.send active begun tracked.1).move (fun _ => .inl active) (fun row ended => ?_)
      (.inr fun _ => threw_of_active active)
    rcases after with rfl | ⟨failure, rfl⟩ <;> cases ended
  | parses before found parsed =>
    exact single.move (fun _ => .inl (by rw [before]; rfl)) (fun row ended => by cases ended) (.inr fun _ => by rw [before]; rfl)
  | @commits call id id' existing txHash tokenId before =>
    have active : (s.calls call).active = true := by rw [before]; rfl
    obtain ⟨key, registered, -⟩ := upserted_row s (inputs call) txHash tokenId id'
    refine single.put (fun _ was => (registered_upsert registered).mpr (.inr was)) (fun key' now => ?_)
      (fun active' => by cases active') (fun _ _ => (registered_upsert registered).mpr (.inl key.symm))
      (.inr fun _ => threw_of_active active)
    rcases (registered_upsert registered).mp now with own | was
    · exact .inr ⟨active, rfl, own.trans key⟩
    · exact .inl was
  | throws before =>
    exact single.move (fun active => by cases active) (fun row ended => by cases ended) (.inr fun thrown => by cases thrown)
  | setWallets wallets => exact { single with }

section Runs

variable {identities : Table AgentOnchainIdentityRow.key} {wallets : Table AgentChainWalletRow.key}

theorem single_start : Single inputs (start identities wallets) where
  alone call call' active := by cases active
  idle call active := by cases active
  answered call row ended := by cases ended
  one tx sent := absurd sent List.not_mem_nil

theorem single_of_run (unregistered : ∀ row ∈ identities, row.status ≠ .registered)
    (run : Run (step decode inputs) (start identities wallets) events s) (apart : Conforms (Apart inputs) events) :
    Single inputs s :=
  run.history (fun _ s => Single inputs s) apart single_start
    fun _ _ _ _ before _ single alone taken =>
      single.step (faithful_of_run unregistered before) alone (steps_of taken)

/-- Where the calls for an agent do not overlap, of the transactions sent for it all but one were sent by calls that threw. -/
theorem one_registration (unregistered : ∀ row ∈ identities, row.status ≠ .registered)
    (run : Run (step decode inputs) (start identities wallets) events s) (apart : Conforms (Apart inputs) events)
    {tx tx' : RegisterTransaction} (sent : tx ∈ s.transactions) (sent' : tx' ∈ s.transactions)
    (agent : (inputs tx.call).key = (inputs tx'.call).key) (kept : (s.calls tx.call).threw = false)
    (kept' : (s.calls tx'.call).threw = false) : tx = tx' :=
  (single_of_run unregistered run apart).one tx sent tx' sent' agent kept kept'

end Runs

def idle (s : IdentityRegistrations) : RegistrationEvent → Bool
  | .begins call => decide (call < 3) && (List.range 3).all fun other => !(s.calls other).active
  | _ => true

theorem apart_of_idle (s : IdentityRegistrations) (event : RegistrationEvent) (idles : idle s event = true) :
    Apart arcInputs s event := by
  cases event with
  | begins call =>
    intro other active same
    simp only [idle, Bool.and_eq_true, decide_eq_true_eq, List.all_eq_true, List.mem_range, Bool.not_eq_true'] at idles
    by_cases early : other < 3
    · rw [idles.2 other early] at active
      cases active
    · simp [RegisterAgentIdentityInput.key, arcInputs, early, idles.1] at same
  | _ => trivial

theorem one_registration_second : ∃ events s, Run (step decodeTopics arcInputs) (start .empty arcWallets) events s ∧
    s.transactions.length = 2 ∧ ∃ tx ∈ s.transactions, tx.call = 1 ∧
      ∀ tx' ∈ s.transactions, (s.calls tx'.call).threw = false → tx' = tx := by
  obtain ⟨events, s, run, apart, two, same, tx, sent, second, kept⟩ : ∃ events s,
      Run (step decodeTopics arcInputs) (start .empty arcWallets) events s ∧ Conforms (Apart arcInputs) events ∧
      s.transactions.length = 2 ∧ (∀ tx ∈ s.transactions, (arcInputs tx.call).key = (arcInputs 1).key) ∧
      ∃ tx ∈ s.transactions, tx.call = 1 ∧ (s.calls tx.call).threw = false :=
    exists_conforming_run registers idle (fun s : IdentityRegistrations => s.transactions.length = 2 ∧
      (∀ tx ∈ s.transactions, (arcInputs tx.call).key = (arcInputs 1).key) ∧
      ∃ tx ∈ s.transactions, tx.call = 1 ∧ (s.calls tx.call).threw = false) apart_of_idle (by decide +kernel)
  refine ⟨events, s, run, two, tx, sent, second, fun tx' sent' kept' => ?_⟩
  exact one_registration (by simp) run apart sent' sent (by rw [same tx' sent', same tx sent]) kept' kept

end IdentityRegistrations
end AgentOps.Payments
