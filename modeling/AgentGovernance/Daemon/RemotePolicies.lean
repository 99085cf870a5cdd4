import AgentGovernance.Daemon.EscalationCalls
import AgentGovernance.Daemon.Records
import AgentGovernance.McpGovernance.FilePolicyStore
import AgentGovernance.Mesh.RegistryJson

/-!
# Policies over the network

`NetworkPolicyStore` in `crates/ext/mcp-governance/src/store.rs` keeps its policies in a daemon
and talks to it over gRPC.  Its calls may be lost on the way or on the way back, and other
callers use the same daemon in between.

`networkStore_answers` compares it with one `MemoryPolicyStore` that carries out the calls that
reached the daemon and the writes of the other authenticated callers: every reply that arrives
is the reply of that store.  Listings and deletions are not sent at all.
-/

namespace AgentGovernance.Daemon

open AgentGovernance.Lib AgentGovernance.Mesh AgentGovernance.Compliance AgentGovernance.Discovery
open AgentGovernance.McpGovernance AgentGovernance.Runtime

/-! ## The client -/

structure NetworkPolicyStore where
  agentDid : String
  signingKey : ByteArr 32

/-- What becomes of a call on its way. -/
inductive Delivery where
  /-- `EscalationServiceClient::connect` fails. -/
  | noConnection (e : String)
  /-- The request gets no further than the transport. -/
  | unreached (e : String)
  /-- The daemon serves the request, and its response is lost. -/
  | lost (e : String)
  | answered

/-- The request gets to the daemon. -/
def Delivery.reaches : Delivery → Bool
  | .noConnection _ => false
  | .unreached _ => false
  | .lost _ => true
  | .answered => true

/-- The response gets to the client. -/
def Delivery.returns : Delivery → Bool
  | .answered => true
  | _ => false

inductive NetworkError where
  | text (e : String)
  | status (e : GrpcStatus)

/-- `MetadataValue::try_from` of a string: visible ASCII, spaces and tabs. -/
def metadataValue (s : String) : Except NetworkError HeaderValue :=
  if s.toList.all fun c => c = '\t' || (32 ≤ c.toNat && c.toNat < 127) then .ok (.text s)
  else .error (.text "failed to parse metadata value")

namespace NetworkPolicyStore

variable (store : NetworkPolicyStore) (C : Crypto) (E : LogEnv) (X : Extractors) (W : GrpcWire)

def sign (body : Bytes) : String :=
  C.encode64 (C.sign store.signingKey body).val

/-- A message with its metadata. -/
def request (message : GrpcMessage) : Except NetworkError GrpcRequest := do
  let signature := store.sign C (W.encodeToVec message)
  let agentDid ← metadataValue store.agentDid
  let signature ← metadataValue signature
  return { agentDid := agentDid, signature := signature, message := message }

def getClient : Delivery → Except NetworkError Unit
  | .noConnection e => .error (.text ("Failed to connect to gRPC server: " ++ e))
  | _ => .ok ()

/-- The call of the generated client. -/
def transmit (s : ServerState) (request : GrpcRequest) (reads : RequestReads) :
    Delivery → ServerState × Except NetworkError GrpcReply
  | .noConnection e => (s, .error (.text e))
  | .unreached e => (s, .error (.text e))
  | .lost e => ((s.serveGrpc W C E request reads).1, .error (.text e))
  | .answered =>
    ((s.serveGrpc W C E request reads).1, (s.serveGrpc W C E request reads).2.mapError .status)

/-- A message is sent, and its response awaited. -/
def send (s : ServerState) (message : GrpcMessage) (delivery : Delivery) (reads : RequestReads) :
    ServerState × Except NetworkError GrpcReply :=
  match getClient delivery with
  | .error e => (s, .error e)
  | .ok () =>
    match store.request C W message with
    | .error e => (s, .error e)
    | .ok request => transmit C E W s request reads delivery

/-- What `save_policy` makes of the response; the daemon sets `success` in every `PolicyResponse`. -/
def saved : GrpcReply → Except NetworkError PolicyReply
  | .policy _ _ => .ok .done
  | _ => .error (.text "Failed to save policy via gRPC")

/-- What `load_policy` makes of the response: an empty text is no policy. -/
def loaded : GrpcReply → Except NetworkError PolicyReply
  | .policy policyJson _ =>
    if policyJson = "" then .ok (.loaded none)
    else
      match W.policyFromJson policyJson with
      | .error e => .error (.text e)
      | .ok policy => .ok (.loaded (some policy))
  | _ => .ok (.loaded none)

/-- `NetworkPolicyStore` as a `dyn PolicyStore`, against a daemon. -/
def call (s : ServerState) (delivery : Delivery) (reads : RequestReads) :
    PolicyCall → ServerState × Except NetworkError PolicyReply
  | .savePolicy agentDid policy =>
    let sent := store.send C E W s (.setPolicy agentDid (W.policyToJson policy)) delivery reads
    (sent.1, sent.2.bind saved)
  | .loadPolicy agentDid =>
    let sent := store.send C E W s (.getPolicy agentDid) delivery reads
    (sent.1, sent.2.bind (loaded W))
  | .deletePolicy _ => (s, .error (.text "Delete not implemented in NetworkPolicyStore"))
  | .listPolicies => (s, .error (.text "List not implemented in NetworkPolicyStore"))

end NetworkPolicyStore

/-! ## Runs -/

/-- A call of the client, or a request of another caller. -/
inductive RemoteEvent where
  | client (call : PolicyCall) (delivery : Delivery) (reads : RequestReads)
  | other (call : DaemonRequest × RequestReads)

/-- The message of a call, if it sends one. -/
def sentMessage (W : GrpcWire) : PolicyCall → Option GrpcMessage
  | .savePolicy agentDid policy => some (.setPolicy agentDid (W.policyToJson policy))
  | .loadPolicy agentDid => some (.getPolicy agentDid)
  | _ => none

/-- The policy in what a request writes. -/
def Mutation.policyCall : Mutation → Option PolicyCall
  | .savePolicy did policy => some (.savePolicy did policy)
  | _ => none

/-- What one step is to a shared store: the call that it carries out, and whether the client hears
    the reply. -/
structure StoreNote where
  performed : Option PolicyCall
  heard : Bool

/-- The shared store. -/
def hear (store : MemoryPolicyStore) (note : StoreNote) : MemoryPolicyStore × Option PolicyReply :=
  match note.performed with
  | none => (store, none)
  | some call =>
    ((store.call call).1, if note.heard then (store.call call).2.toOption else none)

/-- What the client relies on of `serde_json`. -/
structure PolicyTexts (W : GrpcWire) : Prop where
  fromJson_toJson : ∀ policy, W.policyFromJson (W.policyToJson policy) = .ok policy
  toJson_ne_empty : ∀ policy, W.policyToJson policy ≠ ""

namespace NetworkPolicyStore

variable (store : NetworkPolicyStore) (C : Crypto) (E : LogEnv) (X : Extractors) (W : GrpcWire)

/-- The client's reply to an event, and the state of the daemon behind it. -/
def reply (s : ServerState) : RemoteEvent → ServerState × Option PolicyReply
  | .client call delivery reads =>
    ((store.call C E W s delivery reads call).1, (store.call C E W s delivery reads call).2.toOption)
  | .other call => (s.step C E X W call, none)

/-- The call has a message that the client can send and the daemon authenticates. -/
def Accepted (s : ServerState) (call : PolicyCall) (reads : RequestReads) : Prop :=
  ∃ message request did, sentMessage W call = some message ∧
    store.request C W message = .ok request ∧ s.Authenticates C W (.grpc request) reads did

open Classical in
/-- The note on a step: authenticated calls that reach the daemon are carried out, and so are the
    policy writes of authenticated callers. -/
noncomputable def note (s : ServerState) : RemoteEvent → StoreNote
  | .client call delivery reads =>
    { performed :=
        if delivery.reaches = true ∧ store.Accepted C W s call reads then some call else none
      heard := delivery.returns }
  | .other call =>
    { performed :=
        if ∃ did, s.CalledBy C W did call then
          (call.1.mutation C X W).bind Mutation.policyCall
        else none
      heard := false }

noncomputable def notes (s : ServerState) (run : List RemoteEvent) : List StoreNote :=
  answers (fun s event => ((store.reply C E X W s event).1, store.note C X W s event)) s run

variable {store C E X W}

/-! ## Other callers -/

/-- A write changes the policies by its policy call. -/
theorem apply_policyStore (m : Mutation) (st : Stores) :
    (m.apply st).policyStore = (hear st.policyStore ⟨m.policyCall, false⟩).1 := by
  cases m <;> rfl

theorem after_policyStore (m : Option Mutation) (st : Stores) :
    (st.after m).policyStore =
      (hear st.policyStore ⟨m.bind Mutation.policyCall, false⟩).1 := by
  cases m with
  | none => rfl
  | some m => exact apply_policyStore m st

/-- A request of another caller does to the policies what its note says. -/
theorem step_other (s : ServerState) (call : DaemonRequest × RequestReads) :
    (s.step C E X W call).policyStore =
      (hear s.policyStore (store.note C X W s (.other call))).1 := by
  have hpolicies (t : ServerState) : t.policyStore = t.stores.policyStore := rfl
  by_cases hcaller : ∃ did, s.CalledBy C W did call
  · obtain ⟨did, hdid⟩ := hcaller
    -- an authenticated request asks for its mutation
    have hstores := ServerState.serve_stores_of_authenticates E X hdid
    rw [hpolicies, ServerState.step, hstores, after_policyStore, note, if_pos ⟨did, hdid⟩]
    rfl
  · -- any other request writes nothing
    have hstores : (s.serve C E X W call.1 call.2).stores = s.stores := by
      apply ServerState.serve_stores_of_not_authenticates
      exact fun did hdid => hcaller ⟨did, hdid⟩
    rw [hpolicies, ServerState.step, hstores, note, if_neg hcaller]
    rfl

/-! ## Calls of the client -/

/-- Where no caller is authenticated, gRPC answers with a status. -/
theorem serveGrpc_error {s : ServerState} {request : GrpcRequest} {reads : RequestReads}
    (h : ∀ did, ¬ s.Authenticates C W (.grpc request) reads did) :
    ∃ status, (s.serveGrpc W C E request reads).2 = .error status := by
  cases hreply : (s.serveGrpc W C E request reads).2 with
  | error status => exact ⟨status, rfl⟩
  | ok reply =>
    obtain ⟨did, hdid, -⟩ := ServerState.method_of_serveGrpc_ok E hreply
    exact absurd hdid (h did)

/-- A message that is not accepted or does not reach the daemon has no effect. -/
theorem send_of_not_accepted {s : ServerState} {message : GrpcMessage} {delivery : Delivery}
    {reads : RequestReads}
    (h : ¬ (delivery.reaches = true ∧ ∃ request did, store.request C W message = .ok request ∧
      s.Authenticates C W (.grpc request) reads did)) :
    ∃ e, store.send C E W s message delivery reads = (s, .error e) := by
  unfold send
  cases hclient : getClient delivery with
  | error e =>
    -- without a connection nothing is sent
    exact ⟨e, rfl⟩
  | ok u =>
    cases hrequest : store.request C W message with
    | error e => exact ⟨e, rfl⟩
    | ok request =>
      dsimp only
      -- a request that arrives is not authenticated
      have hstrange (hreaches : delivery.reaches = true) :
          ∀ did, ¬ s.Authenticates C W (.grpc request) reads did := by
        intro did hdid
        exact h ⟨hreaches, request, did, hrequest, hdid⟩
      cases delivery with
      | noConnection e => exact ⟨_, rfl⟩
      | unreached e => exact ⟨_, rfl⟩
      | lost e =>
        -- the daemon does nothing, and its refusal is lost as well
        have hsame := ServerState.serveGrpc_of_not_authenticates E (hstrange rfl)
        exact ⟨_, by rw [transmit, hsame]⟩
      | answered =>
        have hsame := ServerState.serveGrpc_of_not_authenticates E (hstrange rfl)
        obtain ⟨status, hstatus⟩ := serveGrpc_error (E := E) (hstrange rfl)
        exact ⟨.status status, by rw [transmit, hsame, hstatus]; rfl⟩

theorem message_of_request {message : GrpcMessage} {request : GrpcRequest}
    (h : store.request C W message = .ok request) : request.message = message := by
  simp only [NetworkPolicyStore.request, bind, Except.bind, pure, Except.pure] at h
  split at h
  · cases h
  · split at h
    · cases h
    · cases h
      rfl

theorem getClient_of_reaches {delivery : Delivery} (h : delivery.reaches = true) :
    getClient delivery = .ok () := by
  cases delivery with
  | noConnection e => cases h
  | unreached | lost | answered => rfl

theorem transmit_of_reaches {s : ServerState} {request : GrpcRequest} {reads : RequestReads}
    {delivery : Delivery} (h : delivery.reaches = true) :
    (transmit C E W s request reads delivery).1 = (s.serveGrpc W C E request reads).1 ∧
      (transmit C E W s request reads delivery).2.toOption =
        if delivery.returns then (s.serveGrpc W C E request reads).2.toOption else none := by
  cases delivery with
  | noConnection e => cases h
  | unreached e => cases h
  | lost e =>
    -- the daemon has served the request, and nobody hears of it
    exact ⟨rfl, rfl⟩
  | answered =>
    refine ⟨rfl, ?_⟩
    rw [transmit]
    cases (s.serveGrpc W C E request reads).2 <;> rfl

/-- An accepted message is served by its method. -/
theorem send_of_accepted {s : ServerState} {message : GrpcMessage} {delivery : Delivery}
    {request : GrpcRequest} {did : String} {reads : RequestReads}
    (hreaches : delivery.reaches = true) (hrequest : store.request C W message = .ok request)
    (hdid : s.Authenticates C W (.grpc request) reads did)
    (hmessage : ∀ sinceTimestamp, message ≠ .watchShadows sinceTimestamp) :
    (store.send C E W s message delivery reads).1 = (s.method W C E did message reads).1 ∧
      (store.send C E W s message delivery reads).2.toOption =
        if delivery.returns then (s.method W C E did message reads).2.toOption else none := by
  obtain rfl := message_of_request hrequest
  -- an authenticated request gets to its method
  have hserve := ServerState.serveGrpc_eq_method E hdid hmessage
  have htransmit := @transmit_of_reaches C E W s request reads delivery hreaches
  rw [hserve] at htransmit
  simpa only [send, getClient_of_reaches hreaches, hrequest] using htransmit

/-- What is made of a reply is made of it when it is heard. -/
theorem toOption_bind {ε α β : Type} (x : Except ε α) (f : α → Except ε β) :
    (x.bind f).toOption = x.toOption.bind fun a => (f a).toOption := by
  cases x <;> rfl

/-- What the daemon has stored is what the client reads. -/
theorem loaded_grpcGetPolicy (htexts : PolicyTexts W) (s : ServerState) (agentDid : String) :
    ((s.grpcGetPolicy W agentDid).2.toOption.bind fun reply => (loaded W reply).toOption) =
      some (.loaded (s.policyStore.loadPolicy agentDid)) := by
  unfold ServerState.grpcGetPolicy
  cases s.policyStore.loadPolicy agentDid with
  | none => simp [Except.toOption, loaded]
  | some policy =>
    simp [Except.toOption, loaded, htexts.toJson_ne_empty, htexts.fromJson_toJson]

/-- A call that is not carried out leaves the daemon alone and gets no reply. -/
theorem call_of_not_carried {s : ServerState} {call : PolicyCall} {delivery : Delivery}
    {reads : RequestReads} (h : ¬ (delivery.reaches = true ∧ store.Accepted C W s call reads)) :
    ∃ e, store.call C E W s delivery reads call = (s, .error e) := by
  -- the one message of the call was not accepted
  have hunsent {message : GrpcMessage} (hmessage : sentMessage W call = some message) :
      ∃ e, store.send C E W s message delivery reads = (s, .error e) := by
    apply send_of_not_accepted
    rintro ⟨hreaches, request, did, hrequest, hdid⟩
    exact h ⟨hreaches, message, request, did, hmessage, hrequest, hdid⟩
  cases call with
  | savePolicy agentDid policy =>
    obtain ⟨e, he⟩ := hunsent rfl
    exact ⟨e, by simp only [NetworkPolicyStore.call, he]; rfl⟩
  | loadPolicy agentDid =>
    obtain ⟨e, he⟩ := hunsent rfl
    exact ⟨e, by simp only [NetworkPolicyStore.call, he]; rfl⟩
  | deletePolicy agentDid =>
    -- these two are refused by the client itself
    exact ⟨_, rfl⟩
  | listPolicies => exact ⟨_, rfl⟩

/-- **A call** of the client does to the policies what its note says, and the client hears what the
    shared store replies. -/
theorem reply_client (htexts : PolicyTexts W) (s : ServerState) (call : PolicyCall)
    (delivery : Delivery) (reads : RequestReads) :
    (store.reply C E X W s (.client call delivery reads)).1.policyStore =
        (hear s.policyStore (store.note C X W s (.client call delivery reads))).1 ∧
      (store.reply C E X W s (.client call delivery reads)).2 =
        (hear s.policyStore (store.note C X W s (.client call delivery reads))).2 := by
  by_cases hcarried : delivery.reaches = true ∧ store.Accepted C W s call reads
  · -- the call is carried out, and the store of the daemon answers
    rw [note, if_pos hcarried]
    obtain ⟨hreaches, message, request, did, hmessage, hrequest, hdid⟩ := hcarried
    cases call with
    | savePolicy agentDid policy =>
      obtain rfl := Option.some.inj hmessage
      obtain ⟨hstate, hheard⟩ := send_of_accepted (E := E) hreaches hrequest hdid (by simp)
      -- the daemon reads back the policy that was written
      have hmethod : s.grpcSetPolicy W agentDid (W.policyToJson policy) =
          ({ s with policyStore := s.policyStore.savePolicy agentDid policy },
            .ok (.policy (W.policyToJson policy) "")) := by
        rw [ServerState.grpcSetPolicy, htexts.fromJson_toJson]
      simp only [ServerState.method, hmethod] at hstate hheard
      simp only [reply, NetworkPolicyStore.call, toOption_bind, hstate, hheard]
      refine ⟨rfl, ?_⟩
      cases delivery.returns <;> rfl
    | loadPolicy agentDid =>
      obtain rfl := Option.some.inj hmessage
      obtain ⟨hstate, hheard⟩ := send_of_accepted (E := E) hreaches hrequest hdid (by simp)
      simp only [ServerState.method] at hstate hheard
      -- a load changes nothing
      have hquiet : (s.grpcGetPolicy W agentDid).1.policyStore = s.policyStore :=
        congrArg Stores.policyStore (s.grpcGetPolicy_quiet W agentDid).stores
      simp only [reply, NetworkPolicyStore.call, toOption_bind, hstate, hheard]
      refine ⟨hquiet, ?_⟩
      cases delivery.returns with
      | false => rfl
      | true => exact loaded_grpcGetPolicy htexts s agentDid
    | deletePolicy agentDid => cases hmessage
    | listPolicies => cases hmessage
  · -- the call is not carried out, and the client hears an error
    obtain ⟨e, he⟩ := call_of_not_carried (E := E) hcarried
    rw [note, if_neg hcarried]
    simp only [reply, he]
    exact ⟨rfl, rfl⟩

/-- **Step.** An event and the note on it. -/
theorem reply_note (htexts : PolicyTexts W) (s : ServerState) (event : RemoteEvent) :
    (store.reply C E X W s event).1.policyStore =
        (hear s.policyStore (store.note C X W s event)).1 ∧
      (store.reply C E X W s event).2 =
        (hear s.policyStore (store.note C X W s event)).2 := by
  cases event with
  | client call delivery reads => exact reply_client htexts s call delivery reads
  | other call =>
    refine ⟨step_other s call, ?_⟩
    -- nobody hears the reply to another caller
    simp only [reply, note, hear]
    split <;> rfl

/-! ## Registered clients -/

/-- A message leaves the daemon alone or is served. -/
theorem send_cases (s : ServerState) (message : GrpcMessage) (delivery : Delivery)
    (reads : RequestReads) :
    (store.send C E W s message delivery reads).1 = s ∨
      ∃ request, request.message = message ∧
        (store.send C E W s message delivery reads).1 = (s.serveGrpc W C E request reads).1 := by
  unfold send
  cases getClient delivery with
  | error e => exact .inl rfl
  | ok u =>
    -- a DID that is no header value is found before anything is sent
    cases hrequest : store.request C W message with
    | error e => exact .inl rfl
    | ok request =>
      have hmessage := message_of_request hrequest
      cases delivery with
      | noConnection e => exact .inl rfl
      | unreached e => exact .inl rfl
      | lost e => exact .inr ⟨request, hmessage, rfl⟩
      | answered => exact .inr ⟨request, hmessage, rfl⟩

/-- A message that writes policies at most leaves the registry alone. -/
theorem send_keeps {message : GrpcMessage}
    (hmessage : ∀ m, message.mutation W = some m → ∃ did policy, m = .savePolicy did policy)
    (s : ServerState) (delivery : Delivery) (reads : RequestReads) :
    (store.send C E W s message delivery reads).1.registry = s.registry ∧
      (store.send C E W s message delivery reads).1.registryPubkey = s.registryPubkey := by
  rcases store.send_cases (C := C) (E := E) (W := W) s message delivery reads with
    hsame | ⟨request, rfl, hserved⟩
  · rw [hsame]
    exact ⟨rfl, rfl⟩
  · rw [hserved]
    refine ⟨?_, ServerState.step_registryPubkey E rejectingExtractors (.grpc request, reads)⟩
    have hregistry (t : ServerState) : t.registry = t.stores.registry := rfl
    -- the method writes at most the policy store
    rcases ServerState.step_stores_cases E rejectingExtractors (C := C) (W := W) (s := s)
      (.grpc request, reads) with hstores | ⟨did, m, -, hm, hstores⟩
    · exact congrArg Stores.registry hstores
    · obtain ⟨target, policy, rfl⟩ := hmessage m hm
      exact congrArg Stores.registry hstores

/-- The client's calls leave the registry alone. -/
theorem call_keeps (s : ServerState) (delivery : Delivery) (reads : RequestReads)
    (call : PolicyCall) :
    (store.call C E W s delivery reads call).1.registry = s.registry ∧
      (store.call C E W s delivery reads call).1.registryPubkey = s.registryPubkey := by
  cases call with
  | savePolicy agentDid policy =>
    apply send_keeps
    -- a saved policy is the only mutation of such a message
    intro m hm
    obtain ⟨p, -, rfl⟩ := Option.map_eq_some_iff.mp hm
    exact ⟨agentDid, p, rfl⟩
  | loadPolicy agentDid =>
    apply send_keeps
    rintro m ⟨⟩
  | deletePolicy agentDid => exact ⟨rfl, rfl⟩
  | listPolicies => exact ⟨rfl, rfl⟩

/-- The client's DID and every signature fit into a header. -/
structure HeadersFit (store : NetworkPolicyStore) (C : Crypto) : Prop where
  agentDid : metadataValue store.agentDid = .ok (.text store.agentDid)
  signature : ∀ bs, metadataValue (C.encode64 bs) = .ok (.text (C.encode64 bs))

/-- A client that is registered with its own key, at a daemon that knows the key of its registry, is
    accepted with every call that it sends. -/
theorem accepted_iff_of_registered {s : ServerState} {call : PolicyCall} {reads : RequestReads}
    {ring : PrivilegeRing} (hfit : HeadersFit store C)
    (hentry : s.registry.entries.lookup store.agentDid = some (C.pubkeyB64 store.signingKey, ring))
    (hpubkey : s.registryPubkey = s.registry.pubkey C)
    (hlife : reads.now 2 ≤ reads.now 1 + hours 24) :
    store.Accepted C W s call reads ↔ (sentMessage W call).isSome = true := by
  constructor
  · rintro ⟨message, request, did, hmessage, -, -⟩
    simp [hmessage]
  · intro hsent
    obtain ⟨message, hmessage⟩ := Option.isSome_iff_exists.mp hsent
    -- the registered client signs its message, so it is authenticated
    have hcaller := calledBy_signedMessage (W := W) hentry hpubkey hlife message
    refine ⟨message, _, store.agentDid, hmessage, ?_, hcaller⟩
    simp only [NetworkPolicyStore.request, sign, hfit.agentDid, hfit.signature]
    rfl

/-- Such a client's calls are carried out when they are sent and reach the daemon. -/
theorem notes_of_registered {s : ServerState} {ring : PrivilegeRing} (hfit : HeadersFit store C)
    (hentry : s.registry.entries.lookup store.agentDid = some (C.pubkeyB64 store.signingKey, ring))
    (hpubkey : s.registryPubkey = s.registry.pubkey C)
    {calls : List (PolicyCall × Delivery × RequestReads)}
    (hlife : ∀ c ∈ calls, c.2.2.now 2 ≤ c.2.2.now 1 + hours 24) :
    store.notes C E X W s (calls.map fun c => .client c.1 c.2.1 c.2.2) =
      calls.map fun c =>
        { performed := if c.2.1.reaches && (sentMessage W c.1).isSome then some c.1 else none
          heard := c.2.1.returns } := by
  -- by induction on the calls
  induction calls generalizing s with
  | nil => rfl
  | cons c calls ih =>
    obtain ⟨call, delivery, reads⟩ := c
    obtain ⟨hfirst, hrest⟩ := List.forall_mem_cons.mp hlife
    have haccepted := @accepted_iff_of_registered store C W s call reads ring hfit hentry hpubkey
      hfirst
    obtain ⟨hregistry, hkey⟩ := @call_keeps store C E W s delivery reads call
    -- the client is still registered after the call
    have htail := ih (s := (store.call C E W s delivery reads call).1) (by rw [hregistry, hentry])
      (by rw [hkey, hpubkey, MemoryAgentRegistry.pubkey, MemoryAgentRegistry.pubkey, hregistry]) hrest
    simp only [notes, List.map_cons, answers, reply, note] at htail ⊢
    rw [htail]
    simp only [haccepted, Bool.and_eq_true]

end NetworkPolicyStore

open NetworkPolicyStore in
/-- **Policies over the network**: over every run of calls of the client and requests of other
    callers, with any losses on the way, the replies that the client gets are those of one store in
    memory that carries out the accepted calls and the policy writes of the other callers.  A
    registered client is accepted with every call that it sends. -/
theorem networkStore_answers (C : Crypto) (E : LogEnv) (X : Extractors) (W : GrpcWire)
    (htexts : PolicyTexts W) (store : NetworkPolicyStore) :
    (∀ (s : ServerState) (run : List RemoteEvent),
      answers (store.reply C E X W) s run =
        answers hear s.policyStore (store.notes C E X W s run)) ∧
    ∀ (s : ServerState) (call : PolicyCall) (reads : RequestReads) (ring : PrivilegeRing),
      HeadersFit store C →
      s.registry.entries.lookup store.agentDid = some (C.pubkeyB64 store.signingKey, ring) →
      s.registryPubkey = s.registry.pubkey C → reads.now 2 ≤ reads.now 1 + hours 24 →
      (store.Accepted C W s call reads ↔ (sentMessage W call).isSome = true) := by
  refine ⟨?_, ?_⟩
  · intro s run
    -- the daemon's policies are the memory store's, call after call
    apply answers_eq_answers_notes (R := fun s memory => s.policyStore = memory)
    · rintro s memory event rfl
      exact reply_note htexts s event
    · rfl
  · -- a registered client is accepted whenever it has a message to send
    intro s call reads ring hfit hentry hpubkey hlife
    exact accepted_iff_of_registered hfit hentry hpubkey hlife

/-! ## A policy in a daemon -/

theorem policyFields_injective : Function.Injective fun p : McpPolicy =>
    (p.allowedTools, p.denylist, p.allowUnknownTools, p.maxRequestsPerSecond) := by
  intro p q h
  cases p
  cases q
  simp only [Prod.mk.injEq] at h
  obtain ⟨rfl, rfl, rfl, rfl⟩ := h
  rfl

/-- `serde_json::to_string` of `McpPolicy`. -/
def policyText : PrefixCode Char McpPolicy :=
  (((jsonArray jsonString jsonString_ne_bracket).tagged (objectKey '{' "allowed_tools")).pair
    (((jsonArray jsonString jsonString_ne_bracket).tagged (objectKey ',' "denylist")).pair
    ((jsonBool.tagged (objectKey ',' "allow_unknown_tools")).pair
    (((number 0 '}' isDigit_brace).comap UInt32.toNat toNat_injective).tagged
      (objectKey ',' "max_requests_per_second"))))).comap
    (fun p => (p.allowedTools, p.denylist, p.allowUnknownTools, p.maxRequestsPerSecond))
    policyFields_injective

open Classical in
noncomputable def policyWire : GrpcWire :=
  { silentWire with
    encodeToVec := GrpcMessage.encodeToVec
    policyToJson := fun policy => String.ofList (policyText.enc policy)
    policyFromJson := fun text =>
      if h : ∃ policy, policyText.enc policy = text.toList then .ok h.choose
      else .error "expected value at line 1 column 1" }

theorem policyTexts_policyWire : PolicyTexts policyWire where
  fromJson_toJson policy := by
    -- the text has been encoded from a policy, and from one only
    have h : ∃ p, policyText.enc p = (String.ofList (policyText.enc policy)).toList :=
      ⟨policy, String.toList_ofList.symm⟩
    have hpolicy : h.choose = policy := by
      apply policyText.enc_injective
      exact h.choose_spec.trans String.toList_ofList
    simp only [policyWire, dif_pos h, hpolicy]
  toJson_ne_empty policy := by
    intro hempty
    have htext := congrArg String.toList hempty
    simp [policyWire, policyText, PrefixCode.comap, PrefixCode.pair, PrefixCode.tagged, objectKey]
      at htext

example : policyText.enc ⟨["a", "b"], [], false, 10⟩ =
    "\x7b\"allowed_tools\":[\"a\",\"b\"],\"denylist\":[],\"allow_unknown_tools\":false,\"max_requests_per_second\":10\x7d".toList := by
  decide

def readLogsPolicy : McpPolicy where
  allowedTools := ["read_logs"]
  denylist := []
  allowUnknownTools := false
  maxRequestsPerSecond := 10

/-- The policy with another tool denied. -/
def restrictedPolicy : McpPolicy :=
  { readLogsPolicy with denylist := ["delete_database"] }

/-- Ed25519 of the registry and of the client on three messages. -/
def remoteKeys : Crypto :=
  .ofKeyPairs ((Equiv.swap registrySeed registryKey).trans (Equiv.swap agentOneSeed agentOneKey))
    [((registrySeed, (MemoryAgentRegistry.claimFor "did:mesh:agent-1"
        (Base64.encodeText agentOneKey.val) 0 0).canonicalBytes),
      signatureOf 0x76f288a2f4675f9e5513855befc5704f1c7d323b95e3323f7adb1c8c61645aaf
        0x81c7c9b3ca62e0b2700ef4426407d3679387bc241e4a78e19fc2cc144670f806),
     ((agentOneSeed, (GrpcMessage.setPolicy "did:mesh:agent-2"
        (String.ofList (policyText.enc readLogsPolicy))).encodeToVec),
      signatureOf 0xd056f653e9c22e7d42cd4d26fdee8058d660a79ff525c53e7b6f8339d0f22eeb
        0x9c406d79a337ab730dff5cdf9637260a6b890c70a2a7810691e85f1fd03b5602),
     ((agentOneSeed, (GrpcMessage.setPolicy "did:mesh:agent-2"
        (String.ofList (policyText.enc restrictedPolicy))).encodeToVec),
      signatureOf 0x3382a4700320a5eb271d7f855db42da3a923ad05f8fab830fc4571f4566d636e
        0x6f6bff8249fea1c5578ccbf686fcffc593b0726a7cf63d28abb4c05e9c63220f),
     ((agentOneSeed, (GrpcMessage.getPolicy "did:mesh:agent-2").encodeToVec),
      signatureOf 0x947f1b7996c4a765fe54bff61f8001abef2757f67b955d387fa7b8e4fa95ac44
        0xb6a64390d985e324204088bb2fb8e2fcba6042d4d5d77e5edc2204f477264701)]

def remoteStore : NetworkPolicyStore where
  agentDid := "did:mesh:agent-1"
  signingKey := agentOneSeed

/-- A daemon with the client in its registry file. -/
noncomputable def remoteStart : ServerState :=
  .start sampleEnv registrySeed "did:mesh:registry"
    [({ identityStub (remoteKeys.pubkeyB64 agentOneSeed) with
        did := { method := "mesh", uniqueId := "agent-1" } }, .standard)]
    none .blank false (remoteKeys.pubkeyB64 registrySeed)

/-- Base64 fits into a header. -/
theorem encodeText_fits (bs : Bytes) :
    ((Base64.encodeText bs).toList.all fun c =>
      c = '\t' || (32 ≤ c.toNat && c.toNat < 127)) = true := by
  rw [Base64.encodeText, String.toList_ofList, List.all_eq_true]
  intro c hc
  have hc := Base64.isVisible_of_mem_encode hc
  simp [hc.1, hc.2]

theorem headersFit_remoteStore : NetworkPolicyStore.HeadersFit remoteStore remoteKeys where
  agentDid := if_pos (by decide)
  signature bs := if_pos (encodeText_fits bs)

/-- The client saves a policy, and the response is lost. -/
def lostSave : RemoteEvent :=
  .client (.savePolicy "did:mesh:agent-2" readLogsPolicy) (.lost "connection reset")
    epochRequestReads

def laterLoad : RemoteEvent :=
  .client (.loadPolicy "did:mesh:agent-2") .answered epochRequestReads

/-- The policy of a call whose response was lost is read back. -/
theorem networkStore_answers_lost :
    answers (remoteStore.reply remoteKeys sampleEnv rejectingExtractors policyWire) remoteStart
        [lostSave, laterLoad] = [none, some (.loaded (some readLogsPolicy))] := by
  have hentry : remoteStart.registry.entries.lookup remoteStore.agentDid =
      some (remoteKeys.pubkeyB64 remoteStore.signingKey, .standard) :=
    MemoryAgentRegistry.lookup_register_self _ _ _
  -- both calls are carried out, and the first reply is lost
  have hnotes := @NetworkPolicyStore.notes_of_registered remoteStore remoteKeys sampleEnv
    rejectingExtractors policyWire remoteStart .standard headersFit_remoteStore hentry rfl
    [(.savePolicy "did:mesh:agent-2" readLogsPolicy, .lost "connection reset", epochRequestReads),
      (.loadPolicy "did:mesh:agent-2", .answered, epochRequestReads)]
    (by simp [epochRequestReads, hours])
  rw [(networkStore_answers remoteKeys sampleEnv rejectingExtractors policyWire
    policyTexts_policyWire remoteStore).1, lostSave, laterLoad]
  simp only [List.map_cons, List.map_nil] at hnotes
  rw [hnotes]
  -- the memory store gives back the policy that was saved
  simp only [answers, hear, Delivery.reaches, Delivery.returns, sentMessage, Option.isSome_some,
    Bool.and_self, if_true, MemoryPolicyStore.call, MemoryPolicyStore.loadPolicy_savePolicy_self]
  rfl

end AgentGovernance.Daemon
