import AgentGovernance.Daemon.Writes
import AgentGovernance.Lib.Unwinding

/-!
# Who is behind what is stored

What a daemon holds of its agents is what it started with and what authenticated requests have
written since.  An agent gets registered when another one asks for it, so every registered agent
has a chain of sponsors that ends at one the daemon started with.

`stores_vouched` is both for all runs: the stores are the first ones with the authenticated writes
applied in order, and the registered agents are exactly those that are vouched for.
-/

namespace AgentGovernance.Daemon

open AgentGovernance.Lib AgentGovernance.Mesh AgentGovernance.Compliance AgentGovernance.Discovery
open AgentGovernance.McpGovernance AgentGovernance.Runtime
open ServerState (CalledBy step serve_stores_of_authenticates serve_stores_of_not_authenticates)

/-- Somebody is authenticated by the request. -/
def Authenticated (C : Crypto) (W : GrpcWire) (s : ServerState)
    (call : DaemonRequest × RequestReads) : Prop :=
  ∃ did, CalledBy C W did s call

/-- The agent was registered at the start, or a request that is authenticated as an agent vouched
    for before asks for its registration. -/
inductive Vouched (C : Crypto) (E : LogEnv) (X : Extractors) (W : GrpcWire) (s : ServerState) :
    List (DaemonRequest × RequestReads) → String → Prop
  | start {run : List (DaemonRequest × RequestReads)} {did : String}
      (h : s.registry.isRegistered did = true) : Vouched C E X W s run did
  | sponsored {past later : List (DaemonRequest × RequestReads)}
      {call : DaemonRequest × RequestReads} {sponsor : String} {identity : AgentIdentity}
      {ring : PrivilegeRing} (hsponsor : Vouched C E X W s past sponsor)
      (hcaller : CalledBy C W sponsor (runFrom (step C E X W) s past) call)
      (hasked : call.1.mutation C X W = some (.register identity ring)) :
      Vouched C E X W s (past ++ call :: later) identity.did.toText

variable {C : Crypto} {E : LogEnv} {X : Extractors} {W : GrpcWire} {s : ServerState}
  {run : List (DaemonRequest × RequestReads)} {did : String}

/-- What comes later takes no sponsor away. -/
theorem Vouched.append (h : Vouched C E X W s run did)
    (more : List (DaemonRequest × RequestReads)) : Vouched C E X W s (run ++ more) did := by
  cases h with
  | start hstart => exact .start hstart
  | @sponsored past later call sponsor identity ring hsponsor hcaller hasked =>
    rw [List.append_assoc, List.cons_append]
    exact .sponsored hsponsor hcaller hasked

/-- A caller is registered. -/
theorem isRegistered_of_calledBy {call : DaemonRequest × RequestReads}
    (h : CalledBy C W did s call) : s.registry.isRegistered did = true := by
  obtain ⟨ring, hring⟩ := h.registered
  obtain ⟨entry, hentry, -⟩ := Option.map_eq_some_iff.mp hring
  rw [MemoryAgentRegistry.isRegistered, hentry]
  rfl

/-- Who is registered after a write. -/
theorem isRegistered_apply_iff (st : Stores) (m : Mutation) :
    (m.apply st).registry.isRegistered did = true ↔
      st.registry.isRegistered did = true ∨
        ∃ identity ring, m = .register identity ring ∧ did = identity.did.toText := by
  cases m with
  | register identity ring =>
    simp [Mutation.apply, MemoryAgentRegistry.isRegistered_register, or_comm]
  | savePolicy target policy => simp [Mutation.apply]
  | saveKey target key => simp [Mutation.apply]

/-- **Step**: a request registers the agent that its caller asks for, and nobody's registration
    ends. -/
theorem isRegistered_step_iff (call : DaemonRequest × RequestReads) :
    (step C E X W s call).registry.isRegistered did = true ↔
      s.registry.isRegistered did = true ∨
        ∃ sponsor identity ring, CalledBy C W sponsor s call ∧
          call.1.mutation C X W = some (.register identity ring) ∧ did = identity.did.toText := by
  have hregistry (t : ServerState) : t.registry = t.stores.registry := rfl
  rw [hregistry]
  by_cases hcaller : Authenticated C W s call
  · obtain ⟨sponsor, hsponsor⟩ := hcaller
    rw [step, serve_stores_of_authenticates E X hsponsor]
    cases hasked : call.1.mutation C X W with
    | none =>
      -- the request asks for no write
      simp only [Stores.after, reduceCtorEq, false_and, and_false, exists_false, or_false]
      rfl
    | some m =>
      -- a registration adds the DID that it names
      rw [Stores.after, isRegistered_apply_iff]
      refine or_congr Iff.rfl ⟨?_, ?_⟩
      · rintro ⟨identity, ring, rfl, hdid⟩
        exact ⟨sponsor, identity, ring, hsponsor, rfl, hdid⟩
      · rintro ⟨-, identity, ring, -, hm, hdid⟩
        exact ⟨identity, ring, Option.some.inj hm, hdid⟩
  · rw [step, serve_stores_of_not_authenticates E X (not_exists.mp hcaller)]
    -- a stranger sponsors nobody
    refine (or_iff_left ?_).symm
    rintro ⟨sponsor, -, -, hsponsor, -⟩
    exact hcaller ⟨sponsor, hsponsor⟩

/-- A registered agent stays so. -/
theorem isRegistered_run (h : s.registry.isRegistered did = true)
    (run : List (DaemonRequest × RequestReads)) :
    (runFrom (step C E X W) s run).registry.isRegistered did = true := by
  apply runFrom_keeps (I := fun s : ServerState => s.registry.isRegistered did = true) _ h
  intro s call hs
  exact (isRegistered_step_iff call).mpr (.inl hs)

/-- Who is vouched for is registered. -/
theorem Vouched.isRegistered (h : Vouched C E X W s run did) :
    (runFrom (step C E X W) s run).registry.isRegistered did = true := by
  cases h with
  | start hstart => exact isRegistered_run hstart run
  | sponsored hsponsor hcaller hasked =>
    rw [runFrom_append, runFrom_cons]
    apply isRegistered_run
    exact (isRegistered_step_iff _).mpr (.inr ⟨_, _, _, hcaller, hasked, rfl⟩)

/-- **Run**: who is registered is vouched for.  The induction is on the run, since a sponsor is
    registered before the request that it signs. -/
theorem vouched_of_isRegistered
    (h : (runFrom (step C E X W) s run).registry.isRegistered did = true) :
    Vouched C E X W s run did := by
  induction run using List.reverseRecOn generalizing did with
  | nil => exact .start h
  | append_singleton past call ih =>
    rw [runFrom_append] at h
    rcases (isRegistered_step_iff call).mp h with hbefore | ⟨sponsor, identity, ring, hcaller, hasked, rfl⟩
    · exact (ih hbefore).append [call]
    · have hsponsor : Vouched C E X W s past sponsor := ih (isRegistered_of_calledBy hcaller)
      exact .sponsored hsponsor hcaller hasked

/-- **Provenance.** After every run of requests, the registry, the keys and the policies are those
    of the start with the writes of the authenticated requests applied in order; and an agent is
    registered exactly when it was at the start or has a chain of sponsors that begins there. -/
theorem stores_vouched (C : Crypto) (E : LogEnv) (X : Extractors) (W : GrpcWire) (s : ServerState)
    (run : List (DaemonRequest × RequestReads)) :
    (runFrom (step C E X W) s run).stores =
        runFrom (fun st (call : DaemonRequest × RequestReads) => st.after (call.1.mutation C X W))
          s.stores
          (purge (step C E X W) (Authenticated C W) s run) ∧
      ∀ did, (runFrom (step C E X W) s run).registry.isRegistered did = true ↔
        Vouched C E X W s run did := by
  refine ⟨?_, fun did => ⟨vouched_of_isRegistered, Vouched.isRegistered⟩⟩
  refine (unwinding (step C E X W) (fun _ _ => ())
    (fun st (call : DaemonRequest × RequestReads) => st.after (call.1.mutation C X W))
    (fun _ _ => ()) (R := fun (s : ServerState) st => s.stores = st) (G := fun _ => True)
    (W := fun _ _ => True) ?_ ?_ rfl fun _ _ => trivial).1
  · -- strangers leave the stores as they are
    rintro s _ call - rfl hstranger
    exact serve_stores_of_not_authenticates E X (not_exists.mp hstranger)
  · -- and every other request writes what it asks for
    rintro s _ call - rfl ⟨did, hcaller⟩
    exact ⟨serve_stores_of_authenticates E X hcaller, trivial, rfl⟩

end AgentGovernance.Daemon
