import AgentOps.Lib.Table
import AgentOps.Lib.Transition
import AgentOps.PaidHttp.Requests

namespace AgentOps.PaidHttp
open Lib Identity

/-! # Connections of paid requests -/

structure Deployment where
  newURL : String → Option Url
  encodeBody : Json → Except PaidHttpFailure (List UInt8)
  allowHttpOrigins : List String
  paidHttpAllowOrigins : List String

/-- What `assertPaidHttpUrlAllowed` has returned in the API -/
structure Validation where
  call : Nat
  url : String
  destination : ValidatedPaidHttpDestination

inductive CallStage where
  | opened
  | validated (request : NormalizedPaidHttpRequest) (destination : ValidatedPaidHttpDestination)
  | discovering (destination : ValidatedPaidHttpDestination) (exchange : Nat)
  | discovered (destination : ValidatedPaidHttpDestination)
  | prepared (destination : ValidatedPaidHttpDestination)
  | failed (failure : PaidHttpFailure)

structure PaidCall where
  id : Nat
  request : PaidHttpRequest
  stage : CallStage

inductive JobStage where
  | received
  | settling (exchange : Nat)
  | failed (failure : PaidHttpFailure)

structure SettlementJob where
  id : Nat
  input : SettlementInput
  stage : JobStage

structure IssuedRequest where
  exchange : Nat
  href : String
  deriving DecidableEq

structure Connection where
  call : Nat
  exchange : Nat
  scheme : String
  hostname : String
  port : String
  address : String
  deriving DecidableEq

structure PaidHttpWorld where
  calls : Table PaidCall.id
  validations : List Validation
  messages : List SettlementInput
  jobs : Table SettlementJob.id
  exchanges : Table Exchange.id
  requests : List IssuedRequest
  connections : List Connection

def PaidHttpWorld.empty : PaidHttpWorld := ⟨.empty, [], [], .empty, .empty, [], []⟩

/-- A query is answered in the step that asks it, and each as the resolver then likes. -/
inductive PaidHttpLabel where
  | opened (id : Nat) (request : PaidHttpRequest)
  | validates (id : Nat) (resolveHostname : DnsResolver)
  | discovers (id : Nat) (exchange : Nat) (options : PaidHttpExecutionOptions)
  | discovered (id : Nat)
  | prepared (id : Nat)
  /-- `resumePreparedPaidHttpPayment`, of an attempt found before or after the discovery -/
  | resumes (id : Nat) (resolveHostname : DnsResolver)
  | sends (id : Nat)
  /-- The worker gets a message, as often as the network delivers it. -/
  | received (job : Nat) (index : Nat)
  | settles (job : Nat) (exchange : Nat) (proof : String)
  | connects (exchange : Nat) (options : LookupOptions) (address : String)
  | responds (exchange : Nat) (event : ResponseEvent)

namespace PaidHttpWorld

def staged (s : PaidHttpWorld) (call : PaidCall) (stage : CallStage) : PaidHttpWorld :=
  { s with calls := s.calls.put { call with stage } }

def jobStaged (s : PaidHttpWorld) (job : SettlementJob) (stage : JobStage) : PaidHttpWorld :=
  { s with jobs := s.jobs.put { job with stage } }

def issue (s : PaidHttpWorld) (exchange call : Nat) (request : ClientRequest) : Option PaidHttpWorld :=
  (s.exchanges.insert? ⟨exchange, call, request, none, 0, none⟩).map fun exchanges =>
    { s with exchanges, requests := ⟨exchange, request.url.href⟩ :: s.requests }

end PaidHttpWorld

section

variable (d : Deployment)

/-- `assertPaidHttpUrlAllowed` in the API, and the stage to which its destination leads -/
def validates (s : PaidHttpWorld) (call : PaidCall) (resolveHostname : DnsResolver)
    (next : ValidatedPaidHttpDestination → CallStage) : PaidHttpWorld :=
  match assertPaidHttpUrlAllowed d.newURL call.request.url d.allowHttpOrigins resolveHostname with
  | .error failure => s.staged call (.failed failure)
  | .ok destination =>
    { s.staged call (next destination) with validations := ⟨call.id, call.request.url, destination⟩ :: s.validations }

def callStep (s : PaidHttpWorld) (call : PaidCall) : PaidHttpLabel → Option PaidHttpWorld
  | .validates _ resolveHostname =>
    match call.stage with
    | .opened =>
      match normalizePaidHttpRequest d.newURL d.encodeBody call.request with
      | .error failure => some (s.staged call (.failed failure))
      | .ok request => some (validates d s call resolveHostname (.validated request))
    | _ => none
  | .discovers _ exchange options =>
    match call.stage with
    | .validated request destination =>
      match openRequest d.newURL request destination options with
      | .error failure => some (s.staged call (.failed failure))
      | .ok request => (s.staged call (.discovering destination exchange)).issue exchange call.id request
    | _ => none
  | .discovered _ =>
    match call.stage with
    | .discovering destination exchange =>
      match (s.exchanges.find? exchange).bind Exchange.settled with
      | none => none
      | some (.error failure) => some (s.staged call (.failed failure))
      | some (.ok _) => some (s.staged call (.discovered destination))
    | _ => none
  | .prepared _ =>
    match call.stage with
    | .discovered destination => some (s.staged call (.prepared destination))
    | _ => none
  | .resumes _ resolveHostname =>
    match call.stage with
    | .opened | .discovered _ => some (validates d s call resolveHostname .prepared)
    | _ => none
  | .sends _ =>
    match call.stage with
    | .prepared destination =>
      some { s with messages := ⟨call.id, call.request, serializePaidHttpDestination destination⟩ :: s.messages }
    | _ => none
  | _ => none

/-- `rehydrateSettlementInput` and then `executeSignedX402` -/
def settleStep (s : PaidHttpWorld) (job : SettlementJob) (exchange : Nat) (proof : String) : Option PaidHttpWorld :=
  match job.stage with
  | .received =>
    match rehydrateSettlementInput d.newURL job.input d.paidHttpAllowOrigins with
    | .error failure => some (s.jobStaged job (.failed failure))
    | .ok destination =>
      match normalizePaidHttpRequest d.newURL d.encodeBody job.input.request with
      | .error failure => some (s.jobStaged job (.failed failure))
      | .ok normalized =>
        let paidRequest := { normalized with headers := normalized.headers ++ [("PAYMENT-SIGNATURE", proof)] }
        match openRequest d.newURL paidRequest destination ⟨some paidHttpPaymentTimeoutMs, none⟩ with
        | .error failure => some (s.jobStaged job (.failed failure))
        | .ok request => (s.jobStaged job (.settling exchange)).issue exchange job.input.call request
  | _ => none

def paidHttpStep (s : PaidHttpWorld) : PaidHttpLabel → Option PaidHttpWorld
  | .opened id request => (s.calls.insert? ⟨id, request, .opened⟩).map fun calls => { s with calls }
  | .received job index =>
    (s.messages[index]?).bind fun input => (s.jobs.insert? ⟨job, input, .received⟩).map fun jobs => { s with jobs }
  | .settles job exchange proof => (s.jobs.find? job).bind fun job => settleStep d s job exchange proof
  | .connects id options address =>
    (s.exchanges.find? id).bind fun exchange =>
      if exchange.settled.isNone ∧ address ∈ exchange.request.dials options then
        some { s with connections := ⟨exchange.call, id, exchange.request.url.protocol,
          unbracket exchange.request.url.hostname, exchange.request.url.port, address⟩ :: s.connections }
      else none
  | .responds id event =>
    (s.exchanges.find? id).map fun exchange => { s with exchanges := s.exchanges.put (exchange.onEvent event) }
  | .validates id resolveHostname => (s.calls.find? id).bind fun call => callStep d s call (.validates id resolveHostname)
  | .discovers id exchange options => (s.calls.find? id).bind fun call => callStep d s call (.discovers id exchange options)
  | .discovered id => (s.calls.find? id).bind fun call => callStep d s call (.discovered id)
  | .prepared id => (s.calls.find? id).bind fun call => callStep d s call (.prepared id)
  | .resumes id resolveHostname => (s.calls.find? id).bind fun call => callStep d s call (.resumes id resolveHostname)
  | .sends id => (s.calls.find? id).bind fun call => callStep d s call (.sends id)

end

/-! ## What a connection is confined to -/

def SafeAddress (address : String) : Prop :=
  ∃ ip, Spelling address.toList ip ∧
    ∀ text ip', Spelling text ip' → ip'.unmapped = ip.unmapped → isUnsafeIpAddress text = false

structure Confines (d : Deployment) (s : PaidHttpWorld) (connection : Connection) (validation : Validation) (parsed : Url) :
    Prop where
  call : ∃ call ∈ s.calls, call.id = connection.call ∧ call.request.url = validation.url
  validated : validation ∈ s.validations ∧ validation.call = connection.call
  read : d.newURL validation.url = some parsed
  scheme : connection.scheme = parsed.protocol
  hostname : connection.hostname = unbracket parsed.hostname
  port : connection.port = parsed.port
  address : connection.address ∈ validation.destination.addresses
  safe : explicitlyAllowed d.newURL d.allowHttpOrigins parsed = false →
    ∀ address ∈ validation.destination.addresses, SafeAddress address
  issued : ⟨connection.exchange, parsed.href⟩ ∈ s.requests

/-- Every connection goes to a validated address of its URL, and an exchange makes one request, whatever the response. -/
structure Unescaped (d : Deployment) (s : PaidHttpWorld) : Prop where
  confined : ∀ connection ∈ s.connections, ∃ validation parsed, Confines d s connection validation parsed
  once : (s.requests.map IssuedRequest.exchange).Nodup
  unredirected : ∀ exchange ∈ s.exchanges, ∀ response, exchange.settled = some (.ok response) →
    isRedirect response.status response.headers = false

variable {d : Deployment} {s s' : PaidHttpWorld} {call : PaidCall} {destination : ValidatedPaidHttpDestination}

def Held (s : PaidHttpWorld) (call : PaidCall) (destination : ValidatedPaidHttpDestination) : Prop :=
  ∃ validation ∈ s.validations, validation.call = call.id ∧ validation.url = call.request.url ∧
    validation.destination = destination

def StageOk (s : PaidHttpWorld) (call : PaidCall) : Prop :=
  match call.stage with
  | .validated request destination => request.url = call.request.url ∧ Held s call destination
  | .discovering destination _ | .discovered destination | .prepared destination => Held s call destination
  | .opened | .failed _ => True

def MessageOk (s : PaidHttpWorld) (message : SettlementInput) : Prop :=
  ∃ validation ∈ s.validations, validation.call = message.call ∧ validation.url = message.request.url ∧
    message.destination = serializePaidHttpDestination validation.destination

def RequestOk (d : Deployment) (s : PaidHttpWorld) (call : Nat) (request : ClientRequest) : Prop :=
  ∃ validation ∈ s.validations, validation.call = call ∧ d.newURL validation.url = some request.url ∧
    unbracket request.url.hostname = request.destination.hostname ∧
    request.destination.hostname = validation.destination.hostname ∧
    request.destination.addresses = validation.destination.addresses

structure ExchangeOk (d : Deployment) (s : PaidHttpWorld) (exchange : Exchange) : Prop where
  request : RequestOk d s exchange.call exchange.request
  issued : ⟨exchange.id, exchange.request.url.href⟩ ∈ s.requests
  head : ∀ status headers, exchange.head = some (status, headers) → isRedirect status headers = false
  settled : ∀ response, exchange.settled = some (.ok response) → isRedirect response.status response.headers = false

structure PaidHttpSound (d : Deployment) (s : PaidHttpWorld) : Prop where
  called : ∀ validation ∈ s.validations, ∃ call ∈ s.calls, call.id = validation.call ∧ call.request.url = validation.url
  asserted : ∀ validation ∈ s.validations, ∃ parsed resolveHostname, d.newURL validation.url = some parsed ∧
    Asserted d.newURL d.allowHttpOrigins resolveHostname parsed validation.destination
  stages : ∀ call ∈ s.calls, StageOk s call
  messages : ∀ message ∈ s.messages, MessageOk s message
  jobs : ∀ job ∈ s.jobs, job.input ∈ s.messages
  exchanges : ∀ exchange ∈ s.exchanges, ExchangeOk d s exchange
  requests : ∀ request ∈ s.requests, ∃ exchange ∈ s.exchanges, exchange.id = request.exchange
  once : (s.requests.map IssuedRequest.exchange).Nodup
  confined : ∀ connection ∈ s.connections, ∃ validation parsed, Confines d s connection validation parsed

theorem normalizePaidHttpRequest_url {encodeBody : Json → Except PaidHttpFailure (List UInt8)} {request : PaidHttpRequest}
    {normalized : NormalizedPaidHttpRequest} (ok : normalizePaidHttpRequest d.newURL encodeBody request = .ok normalized) :
    normalized.url = request.url := by
  unfold normalizePaidHttpRequest at ok
  split at ok
  · cases ok
  iterate 4
    split at ok
    · cases ok
  split at ok
  · obtain rfl := Except.ok.inj ok
    rfl
  · rename_i body _
    cases bytes : encodeBody body with
    | error failure =>
      rw [bytes] at ok
      cases ok
    | ok bytes' =>
      rw [bytes] at ok
      obtain rfl := Except.ok.inj ok
      rfl

theorem ExchangeOk.onEvent {exchange : Exchange} (ok : ExchangeOk d s exchange) (event : ResponseEvent) :
    ExchangeOk d s (exchange.onEvent event) ∧ (exchange.onEvent event).id = exchange.id := by
  have fails {exchange : Exchange} {failure : PaidHttpFailure} (ok : ExchangeOk d s exchange) :
      ExchangeOk d s (exchange.fail failure) := by
    refine { ok with settled := fun response settled => ok.settled response ?_ }
    simp only [Exchange.fail, Option.some.injEq] at settled
    cases before : exchange.settled with
    | none =>
      rw [before] at settled
      cases settled
    | some outcome =>
      rw [before] at settled
      exact congrArg some settled
  cases event with
  | head status rawHeaders =>
    simp only [Exchange.onEvent]
    split
    · exact ⟨fails ok, rfl⟩
    split
    · exact ⟨fails ok, rfl⟩
    · rename_i direct
      refine ⟨{ ok with head := fun status' headers' same => ?_ }, rfl⟩
      obtain ⟨rfl, rfl⟩ := Prod.mk.inj (Option.some.inj same)
      exact Bool.eq_false_iff.mpr direct
  | data size =>
    simp only [Exchange.onEvent]
    split
    · exact ⟨ok, rfl⟩
    split
    · exact ⟨fails { ok with }, rfl⟩
    · exact ⟨{ ok with }, rfl⟩
  | finished decoded =>
    simp only [Exchange.onEvent]
    split
    · rename_i status headers _ _ head _
      refine ⟨{ ok with settled := fun response settled => ?_ }, rfl⟩
      obtain rfl := Except.ok.inj (Option.some.inj settled)
      exact ok.head status headers head
    · exact ⟨fails ok, rfl⟩
    · exact ⟨ok, rfl⟩
  | failed failure => exact ⟨fails ok, rfl⟩
  | timeout => exact ⟨fails ok, rfl⟩

/-! ## What a step leaves in place -/

structure Extends (s s' : PaidHttpWorld) : Prop where
  calls : ∀ call ∈ s.calls, ∃ call' ∈ s'.calls, call'.id = call.id ∧ call'.request = call.request
  validations : s.validations ⊆ s'.validations
  requests : s.requests ⊆ s'.requests

namespace Extends

theorem of_calls (calls : s'.calls = s.calls) (validations : s.validations ⊆ s'.validations)
    (requests : s.requests ⊆ s'.requests) :
    Extends s s' :=
  ⟨fun call member => ⟨call, calls ▸ member, rfl, rfl⟩, validations, requests⟩

theorem held (more : Extends s s') (held : Held s call destination) : Held s' call destination := by
  obtain ⟨validation, member, holds⟩ := held
  exact ⟨validation, more.validations member, holds⟩

theorem stage (more : Extends s s') (ok : StageOk s call) : StageOk s' call := by
  unfold StageOk at ok ⊢
  split at ok
  · exact ⟨ok.1, more.held ok.2⟩
  · exact more.held ok
  · exact more.held ok
  · exact more.held ok
  · trivial
  · trivial

theorem message {message : SettlementInput} (more : Extends s s') (ok : MessageOk s message) : MessageOk s' message := by
  obtain ⟨validation, member, holds⟩ := ok
  exact ⟨validation, more.validations member, holds⟩

theorem exchange {exchange : Exchange} (more : Extends s s') (ok : ExchangeOk d s exchange) : ExchangeOk d s' exchange := by
  obtain ⟨⟨validation, member, holds⟩, issued, head, settled⟩ := ok
  exact ⟨⟨validation, more.validations member, holds⟩, more.requests issued, head, settled⟩

theorem called {id : Nat} {url : String} (more : Extends s s')
    (called : ∃ call ∈ s.calls, call.id = id ∧ call.request.url = url) :
    ∃ call ∈ s'.calls, call.id = id ∧ call.request.url = url := by
  obtain ⟨call, member, id, url⟩ := called
  obtain ⟨call', member', id', request⟩ := more.calls call member
  exact ⟨call', member', id'.trans id, request ▸ url⟩

theorem confined {connection : Connection} (more : Extends s s')
    (confined : ∃ validation parsed, Confines d s connection validation parsed) :
    ∃ validation parsed, Confines d s' connection validation parsed := by
  obtain ⟨validation, parsed, confines⟩ := confined
  exact ⟨validation, parsed, { confines with
    call := more.called confines.call
    validated := ⟨more.validations confines.validated.1, confines.validated.2⟩
    issued := more.requests confines.issued }⟩

end Extends

namespace PaidHttpSound

theorem opens {id : Nat} {request : PaidHttpRequest} {calls : Table PaidCall.id} (sound : PaidHttpSound d s)
    (inserted : s.calls.insert? ⟨id, request, .opened⟩ = some calls) : PaidHttpSound d { s with calls } := by
  have member {call : PaidCall} : call ∈ calls ↔ _ := Table.mem_insert? inserted
  have more : Extends s { s with calls } :=
    ⟨fun other present => ⟨other, member.mpr (.inr present), rfl, rfl⟩, List.Subset.refl _, List.Subset.refl _⟩
  refine ⟨fun validation checked => more.called (sound.called validation checked), sound.asserted, fun call present => ?_,
    sound.messages, sound.jobs, fun exchange present => more.exchange (sound.exchanges exchange present), sound.requests,
    sound.once, fun connection made => more.confined (sound.confined connection made)⟩
  rcases member.mp present with rfl | old
  · trivial
  · exact more.stage (sound.stages call old)

theorem staged {stage : CallStage} (sound : PaidHttpSound d s) (member : call ∈ s.calls)
    (ok : StageOk s { call with stage }) : PaidHttpSound d (s.staged call stage) := by
  have more : Extends s (s.staged call stage) := by
    refine ⟨fun other present => ?_, List.Subset.refl _, List.Subset.refl _⟩
    by_cases same : other.id = call.id
    · obtain rfl := Table.eq_of_key present member same
      exact ⟨_, Table.mem_put.mpr (.inr ⟨rfl, other, present, rfl⟩), rfl, rfl⟩
    · exact ⟨other, Table.mem_put.mpr (.inl ⟨present, same⟩), rfl, rfl⟩
  refine ⟨fun validation checked => more.called (sound.called validation checked), sound.asserted, fun other present => ?_,
    sound.messages, sound.jobs, fun exchange present => more.exchange (sound.exchanges exchange present), sound.requests,
    sound.once, fun connection made => more.confined (sound.confined connection made)⟩
  rcases Table.mem_put.mp present with ⟨old, -⟩ | ⟨rfl, -⟩
  · exact more.stage (sound.stages other old)
  · exact more.stage ok

theorem validates {resolveHostname : DnsResolver} {next : ValidatedPaidHttpDestination → CallStage}
    (sound : PaidHttpSound d s) (member : call ∈ s.calls)
    (ok : ∀ s' destination, Held s' call destination → StageOk s' { call with stage := next destination }) :
    PaidHttpSound d (validates d s call resolveHostname next) := by
  unfold PaidHttp.validates
  split
  · exact sound.staged member trivial
  · rename_i destination asserted
    obtain ⟨parsed, read, asserted⟩ := assertPaidHttpUrlAllowed_ok asserted
    let validation : Validation := ⟨call.id, call.request.url, destination⟩
    let validated : PaidHttpWorld := { s with validations := validation :: s.validations }
    have more : Extends s validated :=
      .of_calls rfl (List.subset_cons_self _ _) (List.Subset.refl _)
    have held : Held validated call destination := ⟨validation, List.mem_cons_self, rfl, rfl, rfl⟩
    have grown : PaidHttpSound d validated := by
      refine ⟨fun other checked => ?_, fun other checked => ?_, fun other present => more.stage (sound.stages other present),
        fun message sent => more.message (sound.messages message sent), sound.jobs,
        fun exchange present => more.exchange (sound.exchanges exchange present), sound.requests, sound.once,
        fun connection made => more.confined (sound.confined connection made)⟩
      · rcases List.mem_cons.mp checked with rfl | checked
        · exact ⟨call, member, rfl, rfl⟩
        · exact sound.called other checked
      · rcases List.mem_cons.mp checked with rfl | checked
        · exact ⟨parsed, resolveHostname, read, asserted⟩
        · exact sound.asserted other checked
    exact grown.staged member (ok validated destination held)

theorem issue {id call : Nat} {request : ClientRequest} (sound : PaidHttpSound d s) (ok : RequestOk d s call request)
    (issued : s.issue id call request = some s') : PaidHttpSound d s' := by
  obtain ⟨exchanges, inserted, rfl⟩ := Option.map_eq_some_iff.mp issued
  have fresh := Table.find?_eq_none.mp (Table.insert?_eq_some inserted).2
  have member {exchange : Exchange} : exchange ∈ exchanges ↔ _ := Table.mem_insert? inserted
  let s' : PaidHttpWorld := { s with exchanges, requests := ⟨id, request.url.href⟩ :: s.requests }
  have more : Extends s s' := .of_calls rfl (List.Subset.refl _) (List.subset_cons_self _ _)
  refine ⟨sound.called, sound.asserted, fun other present => more.stage (sound.stages other present), sound.messages,
    sound.jobs, fun exchange present => ?_, fun issued present => ?_, ?_, fun connection made =>
    more.confined (sound.confined connection made)⟩
  · rcases member.mp present with rfl | old
    · obtain ⟨validation, checked, holds⟩ := ok
      exact ⟨⟨validation, checked, holds⟩, List.mem_cons_self, fun _ _ none => (Option.some_ne_none _ none.symm).elim,
        fun _ none => (Option.some_ne_none _ none.symm).elim⟩
    · exact more.exchange (sound.exchanges exchange old)
  · rcases List.mem_cons.mp present with rfl | old
    · exact ⟨_, member.mpr (.inl rfl), rfl⟩
    · obtain ⟨exchange, made, same⟩ := sound.requests issued old
      exact ⟨exchange, member.mpr (.inr made), same⟩
  · refine List.nodup_cons.mpr ⟨fun again => ?_, sound.once⟩
    obtain ⟨issued, old, same⟩ := List.mem_map.mp again
    obtain ⟨exchange, made, named⟩ := sound.requests issued old
    exact fresh exchange made (named.trans same)

theorem jobStaged {job : SettlementJob} {stage : JobStage} (sound : PaidHttpSound d s) (member : job ∈ s.jobs) :
    PaidHttpSound d (s.jobStaged job stage) := by
  have more : Extends s (s.jobStaged job stage) :=
    .of_calls rfl (List.Subset.refl _) (List.Subset.refl _)
  refine ⟨sound.called, sound.asserted, sound.stages, sound.messages, fun other present => ?_,
    fun exchange present => more.exchange (sound.exchanges exchange present), sound.requests, sound.once,
    fun connection made => more.confined (sound.confined connection made)⟩
  rcases Table.mem_put.mp present with ⟨old, -⟩ | ⟨rfl, -⟩
  · exact sound.jobs other old
  · exact sound.jobs job member

theorem opened {request : NormalizedPaidHttpRequest} {options : PaidHttpExecutionOptions} {client : ClientRequest}
    (held : Held s call destination) (url : request.url = call.request.url)
    (ok : openRequest d.newURL request destination options = .ok client) : RequestOk d s call.id client := by
  obtain ⟨validation, checked, id, same, rfl⟩ := held
  obtain ⟨read, hostname, pinned⟩ := openRequest_ok ok
  exact ⟨validation, checked, id, by rw [same, ← url, read], pinned ▸ hostname,
    congrArg ValidatedPaidHttpDestination.hostname pinned, congrArg ValidatedPaidHttpDestination.addresses pinned⟩

theorem settled {input : SettlementInput} {request : NormalizedPaidHttpRequest} {options : PaidHttpExecutionOptions}
    {client : ClientRequest} (sound : PaidHttpSound d s) (sent : input ∈ s.messages)
    (rehydrated : rehydrateSettlementInput d.newURL input d.paidHttpAllowOrigins = .ok destination)
    (url : request.url = input.request.url) (ok : openRequest d.newURL request destination options = .ok client) :
    RequestOk d s input.call client := by
  obtain ⟨validation, checked, id, same, json⟩ := sound.messages input sent
  obtain ⟨parsed, resolve, -, asserted⟩ := sound.asserted validation checked
  obtain ⟨read, hostname, rfl⟩ := openRequest_ok ok
  obtain ⟨captured, revalidated, rehydrated⟩ := bind_eq_ok.mp rehydrated
  rw [json] at revalidated
  split at rehydrated
  · cases rehydrated
  split at rehydrated
  · cases rehydrated
  obtain rfl := Except.ok.inj rehydrated
  obtain ⟨sameHostname, sameAddresses⟩ := revalidatePaidHttpDestination_serialized asserted revalidated
  exact ⟨validation, checked, id, by rw [same, ← url, read], hostname, sameHostname, sameAddresses⟩

theorem connected {exchange : Exchange} {options : LookupOptions} {address : String} (sound : PaidHttpSound d s)
    (present : exchange ∈ s.exchanges) (dialed : address ∈ exchange.request.dials options) :
    ∃ validation parsed, Confines d s ⟨exchange.call, exchange.id, exchange.request.url.protocol,
      unbracket exchange.request.url.hostname, exchange.request.url.port, address⟩ validation parsed := by
  obtain ⟨⟨validation, checked, id, read, hostname, sameHostname, sameAddresses⟩, issued, -, -⟩ :=
    sound.exchanges exchange present
  obtain ⟨parsed, resolve, read', asserted⟩ := sound.asserted validation checked
  obtain rfl := Option.some.inj (read.symm.trans read')
  have literal (version : addressVersion exchange.request.destination.hostname ≠ 0) :
      exchange.request.destination.addresses = [exchange.request.destination.hostname] := by
    rw [sameHostname] at version ⊢
    rw [sameAddresses, asserted.literal version]
  refine ⟨validation, exchange.request.url, ?_, ⟨checked, id⟩, read, rfl, rfl, rfl, ?_, ?_, issued⟩
  · rw [← id]
    exact sound.called validation checked
  · exact sameAddresses ▸ dials_mem hostname literal dialed
  · intro forbidden other listed
    obtain ⟨ip, spelling⟩ := spelling_of_isIP (by simpa [addressVersion, addressWithoutZone] using asserted.valid other listed)
    refine ⟨ip, spelling, fun text ip' spelling' same => ?_⟩
    rw [isUnsafeIpAddress_same spelling' spelling same]
    exact asserted.safe forbidden other listed

theorem connects {exchange : Exchange} {options : LookupOptions} {address : String} (sound : PaidHttpSound d s)
    (present : exchange ∈ s.exchanges) (dialed : address ∈ exchange.request.dials options) :
    PaidHttpSound d { s with connections := ⟨exchange.call, exchange.id, exchange.request.url.protocol,
      unbracket exchange.request.url.hostname, exchange.request.url.port, address⟩ :: s.connections } := by
  let made : Connection := ⟨exchange.call, exchange.id, exchange.request.url.protocol,
    unbracket exchange.request.url.hostname, exchange.request.url.port, address⟩
  have more : Extends s { s with connections := made :: s.connections } :=
    .of_calls rfl (List.Subset.refl _) (List.Subset.refl _)
  refine ⟨sound.called, sound.asserted, sound.stages, sound.messages, sound.jobs,
    fun other present => more.exchange (sound.exchanges other present), sound.requests, sound.once,
    fun connection made => more.confined ?_⟩
  rcases List.mem_cons.mp made with rfl | old
  · exact sound.connected present dialed
  · exact sound.confined connection old

theorem responded {exchange : Exchange} {event : ResponseEvent} (sound : PaidHttpSound d s)
    (present : exchange ∈ s.exchanges) :
    PaidHttpSound d { s with exchanges := s.exchanges.put (exchange.onEvent event) } := by
  obtain ⟨ok, named⟩ := (sound.exchanges exchange present).onEvent event
  let s' : PaidHttpWorld := { s with exchanges := s.exchanges.put (exchange.onEvent event) }
  have more : Extends s s' := .of_calls rfl (List.Subset.refl _) (List.Subset.refl _)
  refine ⟨sound.called, sound.asserted, sound.stages, sound.messages, sound.jobs, fun other made => ?_,
    fun request issued => ?_, sound.once, fun connection made => more.confined (sound.confined connection made)⟩
  · rcases Table.mem_put.mp made with ⟨old, -⟩ | ⟨rfl, -⟩
    · exact more.exchange (sound.exchanges other old)
    · exact more.exchange ok
  · obtain ⟨other, made, same⟩ := sound.requests request issued
    by_cases self : other.id = exchange.id
    · exact ⟨_, Table.mem_put.mpr (.inr ⟨rfl, exchange, present, named.symm⟩), named.trans (self.symm.trans same)⟩
    · exact ⟨other, Table.mem_put.mpr (.inl ⟨made, fun key => self (key.trans named)⟩), same⟩

theorem sent (sound : PaidHttpSound d s) (held : Held s call destination) :
    PaidHttpSound d { s with
      messages := ⟨call.id, call.request, serializePaidHttpDestination destination⟩ :: s.messages } := by
  obtain ⟨validation, checked, id, url, rfl⟩ := held
  let s' : PaidHttpWorld := { s with
    messages := ⟨call.id, call.request, serializePaidHttpDestination validation.destination⟩ :: s.messages }
  have more : Extends s s' := .of_calls rfl (List.Subset.refl _) (List.Subset.refl _)
  refine ⟨sound.called, sound.asserted, sound.stages, fun message sent => ?_,
    fun job taken => List.mem_cons_of_mem _ (sound.jobs job taken),
    fun exchange present => more.exchange (sound.exchanges exchange present), sound.requests, sound.once,
    fun connection made => more.confined (sound.confined connection made)⟩
  rcases List.mem_cons.mp sent with rfl | sent
  · exact ⟨validation, checked, id, url, rfl⟩
  · exact sound.messages message sent

theorem call_step {label : PaidHttpLabel} (sound : PaidHttpSound d s) (member : call ∈ s.calls)
    (taken : callStep d s call label = some s') : PaidHttpSound d s' := by
  have ok := sound.stages call member
  unfold StageOk at ok
  cases label with
  | validates id resolveHostname =>
    simp only [callStep] at taken
    split at taken
    · split at taken
      · obtain rfl := Option.some.inj taken
        exact sound.staged member trivial
      · rename_i request normalized
        obtain rfl := Option.some.inj taken
        exact sound.validates member fun s' destination held => ⟨normalizePaidHttpRequest_url normalized, held⟩
    · cases taken
  | discovers id exchange options =>
    simp only [callStep] at taken
    split at taken
    · rename_i request destination stage
      rw [stage] at ok
      split at taken
      · obtain rfl := Option.some.inj taken
        exact sound.staged member trivial
      · rename_i client opens
        have staged : PaidHttpSound d (s.staged call (.discovering destination exchange)) := sound.staged member ok.2
        have granted : RequestOk d s call.id client := opened ok.2 ok.1 opens
        exact staged.issue granted taken
    · cases taken
  | discovered id =>
    simp only [callStep] at taken
    split at taken
    · rename_i destination exchange stage
      rw [stage] at ok
      split at taken
      · cases taken
      · obtain rfl := Option.some.inj taken
        exact sound.staged member trivial
      · obtain rfl := Option.some.inj taken
        exact sound.staged member ok
    · cases taken
  | prepared id =>
    simp only [callStep] at taken
    split at taken
    · rename_i destination stage
      rw [stage] at ok
      obtain rfl := Option.some.inj taken
      exact sound.staged member ok
    · cases taken
  | resumes id resolveHostname =>
    simp only [callStep] at taken
    split at taken
    · obtain rfl := Option.some.inj taken
      exact sound.validates member fun s' destination held => held
    · obtain rfl := Option.some.inj taken
      exact sound.validates member fun s' destination held => held
    · cases taken
  | sends id =>
    simp only [callStep] at taken
    split at taken
    · rename_i destination stage
      rw [stage] at ok
      obtain rfl := Option.some.inj taken
      exact sound.sent ok
    · cases taken
  | opened | received | settles | connects | responds => cases taken

theorem settle_step {job : SettlementJob} {exchange : Nat} {proof : String} (sound : PaidHttpSound d s) (member : job ∈ s.jobs)
    (taken : settleStep d s job exchange proof = some s') : PaidHttpSound d s' := by
  unfold settleStep at taken
  split at taken
  · split at taken
    · obtain rfl := Option.some.inj taken
      exact sound.jobStaged member
    · rename_i destination rehydrated
      split at taken
      · obtain rfl := Option.some.inj taken
        exact sound.jobStaged member
      · rename_i normalized normalizes
        dsimp only at taken
        split at taken
        · obtain rfl := Option.some.inj taken
          exact sound.jobStaged member
        · rename_i client opens
          have url : normalized.url = job.input.request.url := normalizePaidHttpRequest_url normalizes
          let paid := { normalized with headers := normalized.headers ++ [("PAYMENT-SIGNATURE", proof)] }
          have ok := sound.settled (sound.jobs job member) rehydrated (show paid.url = job.input.request.url from url) opens
          exact (sound.jobStaged member).issue ok taken
  · cases taken

theorem step {label : PaidHttpLabel} (sound : PaidHttpSound d s) (taken : paidHttpStep d s label = some s') :
    PaidHttpSound d s' := by
  cases label with
  | opened id request =>
    obtain ⟨calls, inserted, rfl⟩ := Option.map_eq_some_iff.mp taken
    exact sound.opens inserted
  | received id index =>
    obtain ⟨input, listed, taken⟩ := Option.bind_eq_some_iff.mp taken
    obtain ⟨jobs, inserted, rfl⟩ := Option.map_eq_some_iff.mp taken
    have more : Extends s { s with jobs } :=
      .of_calls rfl (List.Subset.refl _) (List.Subset.refl _)
    refine ⟨sound.called, sound.asserted, sound.stages, sound.messages, fun job member => ?_,
      fun exchange present => more.exchange (sound.exchanges exchange present), sound.requests, sound.once,
      fun connection made => more.confined (sound.confined connection made)⟩
    rcases (Table.mem_insert? inserted).mp member with rfl | old
    · exact List.mem_of_getElem? listed
    · exact sound.jobs job old
  | settles id exchange proof =>
    obtain ⟨job, found, taken⟩ := Option.bind_eq_some_iff.mp taken
    exact sound.settle_step (Table.mem_of_find? found) taken
  | connects id options address =>
    obtain ⟨exchange, found, taken⟩ := Option.bind_eq_some_iff.mp taken
    split at taken
    · rename_i dialed
      obtain rfl := Option.some.inj taken
      obtain rfl := Table.key_of_find? found
      exact sound.connects (Table.mem_of_find? found) dialed.2
    · cases taken
  | responds id event =>
    obtain ⟨exchange, found, rfl⟩ := Option.map_eq_some_iff.mp taken
    exact sound.responded (Table.mem_of_find? found)
  | validates | discovers | discovered | prepared | resumes | sends =>
    obtain ⟨call, found, taken⟩ := Option.bind_eq_some_iff.mp taken
    exact sound.call_step (Table.mem_of_find? found) taken

end PaidHttpSound

theorem requests_confined {events : List (PaidHttpWorld × PaidHttpLabel)} (run : Run (paidHttpStep d) .empty events s) :
    Unescaped d s := by
  have all : Conforms (fun _ _ => True) events := fun _ _ => trivial
  have initial : PaidHttpSound d .empty := by
    constructor <;> simp [PaidHttpWorld.empty]
  have sound := run.invariant (PaidHttpSound d) all initial fun _ _ _ sound _ taken => sound.step taken
  exact ⟨sound.confined, sound.once, fun exchange present => (sound.exchanges exchange present).settled⟩

section Example

def quoteUrl : Url :=
  ⟨"https:", "data.test", "", "data.test", "https://data.test", "https://data.test/quote"⟩

def dataDeployment : Deployment where
  newURL text := if text = quoteUrl.href then some quoteUrl else none
  encodeBody _ := .ok []
  allowHttpOrigins := []
  paidHttpAllowOrigins := []

def answers (addresses : List String) : DnsResolver := fun _ => .ok (addresses.map .text)

def anyFamily : LookupOptions := ⟨none, true⟩

def quoteIsPaid : List PaidHttpLabel :=
  [.opened 1 ⟨quoteUrl.href, "GET", [], none⟩, .validates 1 (answers ["93.184.216.34"]), .discovers 1 1 ⟨none, none⟩,
    .connects 1 anyFamily "93.184.216.34", .responds 1 (.head 402 []), .responds 1 (.finished (.ok ("utf8", .null))),
    .discovered 1, .prepared 1, .sends 1, .received 1 0, .settles 1 2 "proof", .connects 2 anyFamily "93.184.216.34",
    .opened 2 ⟨quoteUrl.href, "GET", [], none⟩, .validates 2 (answers ["93.184.216.34", "::ffff:7f00:1"])]

theorem requests_confined_quote : ∃ events s, Run (paidHttpStep dataDeployment) .empty events s ∧
    (s.connections.map (fun connection => (connection.hostname, connection.address)) =
      [("data.test", "93.184.216.34"), ("data.test", "93.184.216.34")] ∧
    (s.calls.rows.map fun call => call.stage matches .failed _) = [true, false]) ∧ Unescaped dataDeployment s := by
  obtain ⟨events, s, run, connections, stages⟩ : ∃ events s, Run (paidHttpStep dataDeployment) .empty events s ∧
      s.connections.map (fun connection => (connection.hostname, connection.address)) =
        [("data.test", "93.184.216.34"), ("data.test", "93.184.216.34")] ∧
      (s.calls.rows.map fun call => call.stage matches .failed _) = [true, false] :=
    exists_run quoteIsPaid _ (by decide +kernel)
  exact ⟨events, s, run, ⟨connections, stages⟩, requests_confined run⟩

end Example

end AgentOps.PaidHttp
