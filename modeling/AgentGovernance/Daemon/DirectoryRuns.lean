import AgentGovernance.Daemon.DirectoryAnswers
import AgentGovernance.Mesh.RegistryJson

/-!
# Runs of a directory client

`HttpAgentRegistry`, `HttpKeyStore` and `HttpPolicyStore` at a daemon that others use in between,
while requests and responses are lost.

With the locked version of the router the client is told that nothing is there, and nothing that it
sends but a registration gets to a store (`directory_blind`).  In no version is one of its policies
stored (`policies_unsaved`).
-/

namespace AgentGovernance.Daemon

open AgentGovernance.Lib AgentGovernance.Mesh AgentGovernance.Compliance AgentGovernance.Discovery
open AgentGovernance.McpGovernance AgentGovernance.Runtime

/-- A daemon and a client of its directory. -/
structure RemoteDirectory where
  server : ServerState
  client : DirectoryClient

/-- A call of the client, or a request of another caller. -/
inductive DirectoryEvent where
  | client (call : DirectoryCall) (delivery : Delivery) (reads : RequestReads) (own : ClientReads)
  | other (call : DaemonRequest × RequestReads)

namespace RemoteDirectory

variable (C : Crypto) (E : LogEnv) (X : Extractors) (W : GrpcWire) (B : RequestBodies) (ax : Axum)

/-- An event, with the reply that the client gets. -/
def call (d : RemoteDirectory) :
    DirectoryEvent → RemoteDirectory × Option (Except String DirectoryReply)
  | .client call delivery reads own =>
    let result := d.client.call C B E X ax d.server delivery reads own call
    ({ server := result.1.1, client := result.1.2 }, some result.2)
  | .other call => ({ d with server := ServerState.step C E X W d.server call }, none)

/-- The state after an event. -/
def step (d : RemoteDirectory) (event : DirectoryEvent) : RemoteDirectory :=
  (d.call C E X W B ax event).1

/-- A call whose response arrives in time is replied to, exactly when it is repliable. -/
def Replies (d : RemoteDirectory) (event : DirectoryEvent) : Prop :=
  ∀ asked reads own, event = .client asked .answered reads own → Prompt reads →
    ((∃ reply, (d.call C E X W B ax event).2 = some (.ok reply)) ↔ Repliable reads asked)

/-- The client finds nothing. -/
def TellsNothing (d : RemoteDirectory) (event : DirectoryEvent) : Prop :=
  ∀ asked delivery reads own reply, event = .client asked delivery reads own →
    (d.call C E X W B ax event).2 = some (.ok reply) → FindsNothing asked reply

/-- A call other than `register` writes nothing, whether its request or its response is lost or
    not. -/
def OnlyRegisters (d : RemoteDirectory) (event : DirectoryEvent) : Prop :=
  ∀ asked delivery reads own, event = .client asked delivery reads own →
    (∀ identity ring, asked ≠ .register identity ring) →
    (d.step C E X W B ax event).server.stores = d.server.stores

/-- The client stores no policy, and a policy that it saves is refused. -/
def SavesNoPolicy (d : RemoteDirectory) (event : DirectoryEvent) : Prop :=
  ∀ asked delivery reads own, event = .client asked delivery reads own →
    (d.step C E X W B ax event).server.policyStore = d.server.policyStore ∧
      ∀ did policy, asked = .savePolicy did policy →
        ∃ e, (d.call C E X W B ax event).2 = some (.error e)

end RemoteDirectory

/-! ## Clients that stay registered -/

def DirectoryEvent.registration (C : Crypto) (X : Extractors) (W : GrpcWire) :
    DirectoryEvent → Option AgentIdentity
  | .client (.register identity _) _ _ _ => some identity
  | .client _ _ _ _ => none
  | .other call =>
    match call.1.mutation C X W with
    | some (.register identity _) => some identity
    | _ => none

/-- An event gives no other key to a DID of the client. -/
def DirectoryClient.SparedBy (C : Crypto) (X : Extractors) (W : GrpcWire) (c : DirectoryClient)
    (event : DirectoryEvent) : Prop :=
  ∀ identity, event.registration C X W = some identity → ∀ signer ∈ c.signers,
    identity.did.toText = signer.1 → identity.publicKey = C.pubkeyB64 signer.2

section
variable {C : Crypto} {E : LogEnv} {X : Extractors} {W : GrpcWire} {B : RequestBodies}
  {ax : Axum} {s : ServerState} {c : DirectoryClient} {delivery : Delivery} {reads : RequestReads}
  {own : ClientReads} {p : Posting}

/-- **Step**: a key stays registered unless another one is registered for its DID. -/
theorem lookup_step {did pubkeyB64 : String} (call : DaemonRequest × RequestReads)
    (hentry : ∃ ring, s.registry.entries.lookup did = some (pubkeyB64, ring))
    (hspared : ∀ identity ring, call.1.mutation C X W = some (.register identity ring) →
      identity.did.toText = did → identity.publicKey = pubkeyB64) :
    ∃ ring, (ServerState.step C E X W s call).registry.entries.lookup did =
      some (pubkeyB64, ring) := by
  have hregistry (t : ServerState) : t.registry = t.stores.registry := rfl
  rw [hregistry]
  rcases ServerState.step_stores_cases E X (C := C) (W := W) (s := s) call with
    hsame | ⟨caller, m, -, hasked, hwritten⟩
  · -- the request wrote nothing
    rw [hsame]
    exact hentry
  · rw [hwritten]
    cases m with
    | register identity ring =>
      simp only [Mutation.apply]
      by_cases hdid : identity.did.toText = did
      · -- the entry is overwritten, by one with the same key
        refine ⟨ring, ?_⟩
        rw [← hspared identity ring hasked hdid, ← hdid]
        exact MemoryAgentRegistry.lookup_register_self _ _ _
      · -- another DID is registered
        obtain ⟨old, hold⟩ := hentry
        refine ⟨old, ?_⟩
        rw [MemoryAgentRegistry.lookup_register_of_ne _ _ _ (Ne.symm hdid)]
        exact hold
    | savePolicy target policy => exact hentry
    | saveKey target key => exact hentry

/-- **Step**: the client stays registered while its DIDs are spared. -/
theorem Enrolled.step (h : Enrolled C s c) (call : DaemonRequest × RequestReads)
    (hspared : c.SparedBy C X W (.other call)) :
    Enrolled C (ServerState.step C E X W s call) c := by
  have hpubkey : (ServerState.step C E X W s call).registry.pubkey C = s.registry.pubkey C := by
    rw [MemoryAgentRegistry.pubkey, ServerState.step_registryIdentity]
    rfl
  constructor
  · intro signer hsigner
    apply lookup_step call (h.signers signer hsigner)
    intro identity ring hmutation
    apply hspared identity _ signer hsigner
    simp only [DirectoryEvent.registration, hmutation]
  · -- neither the configured key nor the key of the registry ever changes
    rw [ServerState.step_registryPubkey, hpubkey]
    exact h.pubkey

/-- An event that asks for no registration. -/
theorem sparedBy_of_none {event : DirectoryEvent} (h : event.registration C X W = none) :
    c.SparedBy C X W event := by
  intro identity hasked
  rw [h] at hasked
  cases hasked

/-- The request of a call registers whom the call registers. -/
theorem sparedBy_request {call : DirectoryCall} (hax : ax.V07) (htexts : BodyTexts B X)
    (hp : c.request C B own call = some p) {route : HttpRoute}
    (hroute : dispatch ax p.method p.path = .ok route ∨ route = .listPending)
    (hspared : c.SparedBy C X W (.client call delivery reads own)) :
    c.SparedBy C X W (.other (.http (p.arrival.request route), reads)) := by
  rcases hroute with hroute | rfl
  · by_cases hregister : ∃ identity ring, call = .register identity ring
    · obtain ⟨identity, ring, rfl⟩ := hregister
      obtain rfl := Option.some.inj hp
      obtain rfl := Except.ok.inj ((dispatch_register hax).symm.trans hroute)
      -- the body is read as what the client has written
      intro identity' hasked
      simp only [DirectoryEvent.registration, DaemonRequest.mutation, HttpRequest.mutation,
        HttpArrival.request, Posting.arrival, DirectoryClient.registryPosting, htexts.register,
        Except.toOption, Option.bind_some, Option.map_some, Option.some.injEq] at hasked
      subst hasked
      exact hspared identity rfl
    · -- any other request goes to the path of an agent, which is not found
      obtain ⟨did, last, hpath⟩ := path_of_request hp fun identity ring hcall =>
        hregister ⟨identity, ring, hcall⟩
      obtain ⟨reply, hreply, -⟩ := dispatch_agent hax p.method did last
      rw [hpath, hreply] at hroute
      cases hroute
  · exact sparedBy_of_none rfl

/-- **Step** of the client. -/
theorem Enrolled.call (E : LogEnv) (hax : ax.V07) (h : Enrolled C s c) (htexts : BodyTexts B X)
    (call : DirectoryCall) (delivery : Delivery) (reads : RequestReads) (own : ClientReads)
    (hspared : c.SparedBy C X W (.client call delivery reads own)) :
    Enrolled C (c.call C B E X ax s delivery reads own call).1.1 c := by
  rcases @call_server C E X B ax s c delivery reads own call with hsame | ⟨p, hp, hreceived⟩
  · -- the request did not reach the server
    rw [hsame]
    exact h
  · rw [hreceived]
    rcases @receive_state C E X ax s p.arrival reads W with hsame | ⟨route, hroute, hstep⟩
    · -- it arrived and was not let through to a handler
      rw [hsame]
      exact h
    · -- it was served as any other request
      rw [hstep]
      exact h.step _ (sparedBy_request hax htexts hp hroute hspared)

/-- The client with other attestations in its cache. -/
def DirectoryClient.withCache (c : DirectoryClient)
    (cache : Finmap (fun _ : String => SignedAttestation)) : DirectoryClient :=
  { c with registry := { c.registry with cache := cache } }

/-- The cache is no part of what the client is registered with. -/
theorem enrolled_withCache_iff (cache : Finmap (fun _ : String => SignedAttestation)) :
    Enrolled C s (c.withCache cache) ↔ Enrolled C s c :=
  ⟨fun h => ⟨h.signers, h.pubkey⟩, fun h => ⟨h.signers, h.pubkey⟩⟩

/-- A call leaves the client with another cache. -/
theorem call_client (call : DirectoryCall) :
    ∃ cache, (c.call C B E X ax s delivery reads own call).1.2 = c.withCache cache := by
  cases hp : c.request C B own call with
  | none =>
    rw [DirectoryClient.call, hp]
    exact hear_client _
  | some p =>
    rw [call_of_request hp]
    exact hear_client _

end

/-- **Run**: a client that is registered at first is replied to while nobody registers another key
    for it. -/
theorem replies_of_enrolled {C : Crypto} {E : LogEnv} {X : Extractors} {W : GrpcWire}
    {B : RequestBodies} {ax : Axum} (hax : ax.V07) (htexts : BodyTexts B X) {d : RemoteDirectory}
    (hempty : d.client.registry.cache = ∅) (henrolled : Enrolled C d.server d.client)
    (hfit : d.client.HeadersFit C) {run : List DirectoryEvent}
    (hspared : ∀ event ∈ run, d.client.SparedBy C X W event) :
    AllSteps (RemoteDirectory.step C E X W B ax) (RemoteDirectory.Replies C E X W B ax) d run := by
  obtain ⟨server, client⟩ := d
  -- the client changes only in its cache, so what is kept is said of the client of the start
  apply AllSteps.of_keeps (G := fun _ event => client.SparedBy C X W event)
    (I := fun d : RemoteDirectory =>
      Enrolled C d.server client ∧ ∃ cache, d.client = client.withCache cache ∧ cache = ∅)
  · rintro ⟨s, -⟩ event hspared ⟨h, cache, rfl, hcache⟩
    cases event with
    | client call delivery reads own =>
      -- a call keeps the client enrolled and its cache empty
      have hcall := ((enrolled_withCache_iff cache).mpr h).call E hax htexts call delivery reads own
        hspared
      obtain ⟨cache', hclient⟩ := @call_client C E X B ax s (client.withCache cache) delivery reads
        own call
      have hkept : (((client.withCache cache).call C B E X ax s delivery reads own
          call).1.2).registry.cache = ∅ := (found_nothing hax hcache).2
      rw [hclient] at hkept
      exact ⟨(enrolled_withCache_iff cache).mp hcall, cache', hclient, hkept⟩
    | other call => exact ⟨h.step call hspared, cache, rfl, hcache⟩
  · rintro ⟨s, -⟩ event - ⟨h, cache, rfl, hcache⟩ asked reads own rfl hprompt
    -- so every call meets a connected client
    have hconnected : Connected C s (client.withCache cache) reads :=
      ⟨(enrolled_withCache_iff cache).mpr h, ⟨hfit.did, hfit.signature⟩, hprompt⟩
    have hreplied : (∃ reply, ((client.withCache cache).call C B E X ax s .answered reads own
        asked).2 = .ok reply) ↔ Repliable reads asked :=
      replied_iff_repliable hax hconnected htexts hcache asked
    rw [← hreplied]
    exact exists_congr fun reply => Option.some_inj
  · exact ⟨henrolled, client.registry.cache, rfl, hempty⟩
  · exact allSteps_of_forall_mem fun event hevent _ => hspared event hevent

/-! ## The locked version of the router -/

/-- **Nothing is found.**  Where axum takes the braces of the patterns literally, over every run of
    calls of a client that begins with an empty cache and requests of other callers, every reply
    says that there is nothing, whatever the daemon holds; no call but a registration changes what
    the daemon stores; and a registered client gets such a reply to every query whose response
    arrives in time. -/
theorem directory_blind (C : Crypto) (E : LogEnv) (X : Extractors) (W : GrpcWire)
    (B : RequestBodies) (ax : Axum) (hax : ax.V07) (htexts : BodyTexts B X) (d : RemoteDirectory)
    (hempty : d.client.registry.cache = ∅) (run : List DirectoryEvent) :
    AllSteps (RemoteDirectory.step C E X W B ax) (RemoteDirectory.TellsNothing C E X W B ax) d run ∧
      AllSteps (RemoteDirectory.step C E X W B ax) (RemoteDirectory.OnlyRegisters C E X W B ax) d
        run ∧
      (Enrolled C d.server d.client → d.client.HeadersFit C →
        (∀ event ∈ run, d.client.SparedBy C X W event) →
        AllSteps (RemoteDirectory.step C E X W B ax) (RemoteDirectory.Replies C E X W B ax) d
          run) := by
  refine ⟨?_, ?_, ?_⟩
  · -- an empty cache stays empty, since no reply ever brings an attestation
    apply AllSteps.of_keeps (I := fun d : RemoteDirectory => d.client.registry.cache = ∅)
      (G := fun _ _ => True) ?_ ?_ hempty (allSteps_of_forall fun _ _ => trivial)
    · intro d event _ hcache
      cases event with
      | client call delivery reads own => exact (found_nothing hax hcache).2
      | other call => exact hcache
    · rintro d _ _ hcache asked delivery reads own reply rfl hreply
      exact (found_nothing hax hcache).1 reply (Option.some.inj hreply)
  · -- this holds in any state, also where the cache is not empty
    apply allSteps_of_forall
    rintro d _ asked delivery reads own rfl hasked
    exact stores_call hax hasked
  · exact fun henrolled hfit hspared =>
      replies_of_enrolled hax htexts hempty henrolled hfit hspared

/-! ## Policies, with any version -/

section
variable {C : Crypto} {E : LogEnv} {X : Extractors} {W : GrpcWire} {B : RequestBodies} {ax : Axum}
  {s : ServerState} {c : DirectoryClient} {delivery : Delivery} {reads : RequestReads}
  {own : ClientReads} {p : Posting} {did : Segment}

/-- Only one route writes policies. -/
theorem mutation_ne_savePolicy {req : HttpRequest} (h : ∀ did, req.route ≠ .savePolicy did)
    (body : Bytes) (did : String) (policy : McpPolicy) :
    req.mutation C X body ≠ some (.savePolicy did policy) := by
  unfold HttpRequest.mutation
  cases hroute : req.route with
  | registerAgent =>
    -- a registration and a key are mutations of another kind
    cases X.registerRequest body <;> simp [Except.toOption]
  | savePolicy target => exact absurd hroute (h target)
  | saveKey target =>
    cases X.keyB64 body with
    | error e => simp [Except.toOption]
    | ok keyB64 =>
      cases hdecode : C.decode64 keyB64 with
      | error e => simp [Except.toOption, hdecode]
      | ok bytes => cases hkey : tryInto 32 bytes <;> simp [Except.toOption, hdecode, hkey]
  | _ => simp

/-- A request that no handler saves a policy for leaves the policies alone. -/
theorem policyStore_receive {a : HttpArrival}
    (h : ∀ did, dispatch ax a.method a.path = .ok (.savePolicy did) → a.json = false) :
    (s.receive C E X ax a reads).1.policyStore = s.policyStore := by
  have hpolicies (t : ServerState) : t.policyStore = t.stores.policyStore := rfl
  rcases receive_cases C E X ax s a reads with
    ⟨refused, hmiddleware, hreceived⟩ | ⟨reply, hreceived, -⟩ |
      ⟨route, body, -, hroute, hjson, hreceived⟩
  · -- the request was refused before any handler
    rw [hreceived, hpolicies, (refused_cases hmiddleware).1]
    rfl
  · rw [hreceived]
  · have hother : ∀ did, (a.request route).route ≠ .savePolicy did := by
      rintro did hsave
      obtain rfl : route = .savePolicy did := hsave
      -- without a content type, `Json` would have answered
      rcases hjson with hjson | hnone
      · rw [h did hroute] at hjson
        cases hjson
      · cases hnone
    rw [hreceived, hpolicies, ServerState.route_stores]
    -- the handler that runs is another one
    cases hmutation : (a.request route).mutation C X body with
    | none => rfl
    | some m =>
      cases m with
      | register identity ring => rfl
      | saveKey target key => rfl
      | savePolicy target policy => exact absurd hmutation (mutation_ne_savePolicy hother _ _ _)

/-- The request of a call that could save a policy has no content type. -/
theorem untyped_of_savePolicy {call : DirectoryCall} (hax : ax.Sound)
    (hp : c.request C B own call = some p) {target : String}
    (hroute : dispatch ax p.method p.path = .ok (.savePolicy target)) : p.json = false := by
  obtain ⟨hmethod, x, hpath⟩ := path_of_dispatch_savePolicy hax hroute
  cases call with
  | savePolicy did policy =>
    obtain rfl := Option.some.inj hp
    rfl
  | register identity ring | saveKey did key =>
    -- a POST to another path
    obtain rfl := Option.some.inj hp
    simp [DirectoryClient.registryPosting, DirectoryClient.keyPosting] at hpath
  | getRing did | loadKey did | loadPolicy did =>
    -- a GET
    obtain rfl := Option.some.inj hp
    cases hmethod
  | isRegistered did =>
    simp only [DirectoryClient.request] at hp
    split at hp
    · cases hp
    · obtain rfl := Option.some.inj hp
      cases hmethod
  | deleteKey did | deletePolicy did | listPolicies => cases hp

/-- **Step** of the client. -/
theorem policyStore_call (hax : ax.Sound) (call : DirectoryCall) :
    (c.call C B E X ax s delivery reads own call).1.1.policyStore = s.policyStore := by
  rcases @call_server C E X B ax s c delivery reads own call with hsame | ⟨p, hp, hreceived⟩
  · rw [hsame]
  · rw [hreceived]
    exact policyStore_receive fun target hroute => untyped_of_savePolicy hax hp hroute

/-- The response to a request without a content type, at the policy of an agent, is no success. -/
theorem isSuccess_receive_untyped (hax : ax.Sound) {a : HttpArrival} {x : String}
    (hmethod : a.method = .post) (hpath : a.path = ["v1", "agents", x, "policy"])
    (hjson : a.json = false) : (s.receive C E X ax a reads).2.isSuccess = false := by
  -- whatever answers without a handler answers with a failure
  have hunrouted {reply : HttpReply HttpBody} (hreply : dispatch ax a.method a.path = .error reply) :
      reply.isSuccess = false := by
    rcases dispatch_eq_error hreply with hrefused | ⟨handler, captures, -, hrejected⟩
    · exact hax.refused _ _ _ _ hrefused
    · exact hax.pathParam _ _ hrejected
  rcases receive_cases C E X ax s a reads with
    ⟨refused, hmiddleware, hreceived⟩ | ⟨reply, hreceived, hreply | ⟨route, hroute, -, hreply⟩⟩ |
      ⟨route, body, -, hroute, htyped, -⟩
  · rw [hreceived]
    exact (refused_cases hmiddleware).2.1
  · rw [hreceived]
    exact hunrouted hreply
  · rw [hmethod, hpath] at hroute
    -- the path can only be that of a policy
    obtain ⟨target, rfl⟩ := savePolicy_of_dispatch hax hroute
    obtain rfl := Option.some.inj hreply
    rw [hreceived]
    exact hax.untyped
  · -- such a request gets to no handler
    rw [hmethod, hpath] at hroute
    obtain ⟨target, rfl⟩ := savePolicy_of_dispatch hax hroute
    rcases htyped with htyped | hnone
    · rw [hjson] at htyped
      cases htyped
    · cases hnone

/-- A policy is never acknowledged. -/
theorem savePolicy_ne_ok (hax : ax.Sound) {policy : McpPolicy} {reply : DirectoryReply} :
    (c.call C B E X ax s delivery reads own (.savePolicy did policy)).2 ≠ .ok reply := by
  intro h
  rw [call_of_request rfl] at h
  obtain ⟨u, hdone, -⟩ := ok_of_map h
  refine absurd hdone (not_acknowledged ?_)
  intro response hresponse
  obtain rfl := exchange_eq_ok hresponse
  exact isSuccess_receive_untyped hax rfl rfl rfl

end

/-- **No policy is stored.**  With any version of axum, over every run of calls of a client and
    requests of other callers, no call of the client changes the stored policies, and every policy
    that it saves is answered with an error. -/
theorem policies_unsaved (C : Crypto) (E : LogEnv) (X : Extractors) (W : GrpcWire)
    (B : RequestBodies) (ax : Axum) (hax : ax.Sound) (d : RemoteDirectory)
    (run : List DirectoryEvent) :
    AllSteps (RemoteDirectory.step C E X W B ax) (RemoteDirectory.SavesNoPolicy C E X W B ax) d
      run := by
  apply allSteps_of_forall
  rintro d _ asked delivery reads own rfl
  -- the client sends no content type, so nothing is written
  refine ⟨policyStore_call hax asked, ?_⟩
  rintro did policy rfl
  cases hresult : (d.client.call C B E X ax d.server delivery reads own
      (.savePolicy did policy)).2 with
  | error e =>
    -- and the client hears of it
    exact ⟨e, congrArg some hresult⟩
  | ok reply => exact absurd hresult (savePolicy_ne_ok hax)

/-! ## A registered client -/

def jsonBodies : RequestBodies where
  register identity ring :=
    (utf8.spell registryJson).enc (RegistryRecord.stored { identity := identity, ring := ring })
  keyB64 := (utf8.spell jsonString).enc
  policy := (utf8.spell policyText).enc

open Classical in
/-- Extractors that read registrations. -/
noncomputable def jsonExtractors : Extractors :=
  { rejectingExtractors with
    registerRequest := fun body =>
      if h : ∃ record, (utf8.spell registryJson).enc record = body then
        .ok { identity := h.choose.val.identity, ring := h.choose.val.ring }
      else .error (.badRequest, "Failed to parse the request body as JSON") }

theorem bodyTexts_json : BodyTexts jsonBodies jsonExtractors where
  register identity ring := by
    have h : ∃ record, (utf8.spell registryJson).enc record = jsonBodies.register identity ring :=
      ⟨_, rfl⟩
    have hrecord : h.choose = RegistryRecord.stored { identity := identity, ring := ring } :=
      (utf8.spell registryJson).enc_injective h.choose_spec
    simp only [jsonExtractors, dif_pos h, hrecord]
    rfl

/-- Ed25519 of the registry and of the client, on the requests below. -/
def directoryKeys : Crypto :=
  .ofKeyPairs ((Equiv.swap registrySeed registryKey).trans (Equiv.swap agentOneSeed agentOneKey))
    [((registrySeed, (MemoryAgentRegistry.claimFor "did:mesh:agent-1"
        (Base64.encodeText agentOneKey.val) 0 0).canonicalBytes),
      signatureOf 0x76f288a2f4675f9e5513855befc5704f1c7d323b95e3323f7adb1c8c61645aaf
        0x81c7c9b3ca62e0b2700ef4426407d3679387bc241e4a78e19fc2cc144670f806),
     ((agentOneSeed, []),
      signatureOf 0xf733b84ed65012c7ff25c052595e703e98d143cc1ff749d51b43ba31b656a4d8
        0x37a67cb951d8952ff679aba876953421b61deb50eed9758120137d8c58f9a609)]

def directoryClient : DirectoryClient where
  registry := .new "http://127.0.0.1:8080" (directoryKeys.pubkeyB64 registrySeed)
    "did:mesh:agent-1" agentOneSeed
  keyStore :=
    { baseUrl := "http://127.0.0.1:8080"
      registryPubkey := directoryKeys.pubkeyB64 registrySeed
      agentDid := "did:mesh:agent-1"
      signingKey := agentOneSeed }
  policyStore :=
    { baseUrl := "http://127.0.0.1:8080"
      agentDid := "did:mesh:agent-1"
      signingKey := agentOneSeed }
  peerAddr := "127.0.0.1"

/-- The client and a daemon that has it in its registry file. -/
noncomputable def directoryStart : RemoteDirectory where
  server := .start sampleEnv registrySeed "did:mesh:registry"
    [({ identityStub (directoryKeys.pubkeyB64 agentOneSeed) with
        did := { method := "mesh", uniqueId := "agent-1" } }, .standard)]
    none .blank false (directoryKeys.pubkeyB64 registrySeed)
  client := directoryClient

theorem leastJitter : (3600 : Int) ≤ 3600 ∧ (3600 : Int) < 7200 := by decide

/-- The clock of the client stands at the epoch. -/
def epochClientReads : ClientReads where
  now := 0
  jitter := ⟨3600, leastJitter⟩
  verifiedAt := 0

def registrationAsked : DirectoryEvent :=
  .client (.isRegistered ⟨"did:mesh:agent-1", by decide⟩) .answered epochRequestReads
    epochClientReads

def policySaved : DirectoryEvent :=
  .client (.savePolicy ⟨"did:mesh:agent-1", by decide⟩ .default) .answered epochRequestReads
    epochClientReads

theorem prompt_epoch : Prompt epochRequestReads := by
  simp [Prompt, epochRequestReads, hours]

theorem headersFit_directoryClient : directoryClient.HeadersFit directoryKeys where
  did signer hsigner := by
    have hdid : signer.1 = "did:mesh:agent-1" := by
      simp only [DirectoryClient.signers, List.mem_cons, List.not_mem_nil, or_false] at hsigner
      rcases hsigner with rfl | rfl | rfl <;> rfl
    rw [hdid]
    exact if_pos (by decide)
  signature bs := if_pos (encodeText_fits bs)

theorem enrolled_directoryStart : Enrolled directoryKeys directoryStart.server directoryClient where
  signers signer hsigner := by
    have hsame : signer = ("did:mesh:agent-1", agentOneSeed) := by
      simp only [DirectoryClient.signers, List.mem_cons, List.not_mem_nil, or_false] at hsigner
      rcases hsigner with rfl | rfl | rfl <;> rfl
    rw [hsame]
    exact ⟨.standard, MemoryAgentRegistry.lookup_register_self _ _ _⟩
  pubkey := rfl

/-- With the locked version the client is told that it is not registered, but it is; and the policy
    that it saves then leaves the stores alone. -/
theorem directory_blind_registered :
    let step := RemoteDirectory.step directoryKeys sampleEnv jsonExtractors silentWire jsonBodies
      PathSyntax.colon.axum
    directoryStart.server.registry.isRegistered "did:mesh:agent-1" = true ∧
      (RemoteDirectory.call directoryKeys sampleEnv jsonExtractors silentWire jsonBodies
        PathSyntax.colon.axum directoryStart registrationAsked).2 = some (.ok (.registered false)) ∧
      (step (step directoryStart registrationAsked) policySaved).server.stores =
        (step directoryStart registrationAsked).server.stores := by
  intro step
  obtain ⟨⟨hnothing, -⟩, ⟨-, hwritten, -⟩, hreplies⟩ := directory_blind directoryKeys sampleEnv
    jsonExtractors silentWire jsonBodies PathSyntax.colon.axum PathSyntax.v07_colon bodyTexts_json
    directoryStart rfl [registrationAsked, policySaved]
  -- neither request touches an enrolled agent
  have hspared : ∀ event ∈ [registrationAsked, policySaved],
      directoryStart.client.SparedBy directoryKeys jsonExtractors silentWire event := by
    rintro event hevent
    rcases List.mem_pair.mp hevent with rfl | rfl
    · exact sparedBy_of_none rfl
    · exact sparedBy_of_none rfl
  obtain ⟨hreplied, -⟩ := hreplies enrolled_directoryStart headersFit_directoryClient hspared
  refine ⟨?_, ?_, ?_⟩
  · -- the agent is registered
    obtain ⟨ring, hentry⟩ := enrolled_directoryStart.signers _ List.mem_cons_self
    exact congrArg Option.isSome hentry
  · obtain ⟨reply, hreply⟩ := (hreplied _ _ _ rfl prompt_epoch).mpr trivial
    have hempty := hnothing _ _ _ _ reply rfl hreply
    rw [hreply]
    -- no other reply says that nothing is there
    cases reply with
    | registered answer =>
      cases answer with
      | false => rfl
      | true => exact hempty.elim
    | done => exact hempty.elim
    | ring answer => exact hempty.elim
    | key answer => exact hempty.elim
    | policy answer => exact hempty.elim
  · -- saving a policy left the stores alone
    exact hwritten _ _ _ _ rfl (fun identity ring => DirectoryCall.noConfusion)

/-- And that policy is answered with an error. -/
theorem policies_unsaved_default :
    ∃ e, (RemoteDirectory.call directoryKeys sampleEnv jsonExtractors silentWire jsonBodies
      PathSyntax.colon.axum directoryStart policySaved).2 = some (.error e) := by
  obtain ⟨hsaved, -⟩ := policies_unsaved directoryKeys sampleEnv jsonExtractors silentWire
    jsonBodies PathSyntax.colon.axum (PathSyntax.sound_axum .colon) directoryStart [policySaved]
  exact (hsaved _ _ _ _ rfl).2 _ _ rfl

end AgentGovernance.Daemon
