import AgentGovernance.Lib.Runs

/-!
# The WebSocket transport

`crates/core/mesh/src/transport/websocket.rs`, with the trait in `transport/base.rs`.  The
transport keeps a state beside the stream that it may hold, and `connect` and `disconnect` change
the two on different sides of an operation of the network that may fail.

`connected_iff_run` says after which runs of calls, and after which outcomes of the network, the
state tells whether there is a stream.
-/

namespace AgentGovernance.Mesh

open AgentGovernance.Lib

/-! ## The transport -/

inductive TransportState where
  | disconnected
  | connecting
  | connected
  | reconnecting
  deriving DecidableEq, Repr

/-- `TransportConfig`, as far as it is read. -/
structure TransportConfig where
  host : String
  port : UInt16

/-- `Message`; only a text is looked at. -/
inductive Message where
  | text (text : String)
  | other

/-- `WebSocketTransport`, whose streams are opaque. -/
structure WebSocketTransport (σ : Type) where
  config : TransportConfig
  state : TransportState
  stream : Option σ

namespace WebSocketTransport

variable {σ ν : Type}

def new (config : TransportConfig) : WebSocketTransport σ where
  config := config
  state := .disconnected
  stream := none

def isConnected (t : WebSocketTransport σ) : Bool :=
  t.state = .connected

/-- `format!("ws://{}:{}", ..)`. -/
def url (config : TransportConfig) : String :=
  "ws://" ++ config.host ++ ":" ++ toString config.port.toNat

/-- `connect`, with the answer of `connect_async` to the URL. -/
def connect (t : WebSocketTransport σ) (connectAsync : String → Except String σ) :
    WebSocketTransport σ × Except String Unit :=
  let t := { t with state := .connecting }
  match connectAsync (url t.config) with
  -- a stream from before stays
  | .error e => (t, .error e)
  | .ok stream => ({ t with stream := some stream, state := .connected }, .ok ())

/-- `disconnect`, with the answer of `close`. -/
def disconnect (t : WebSocketTransport σ) (close : σ → Except String Unit) :
    WebSocketTransport σ × Except String Unit :=
  match t.stream with
  | none => ({ t with state := .disconnected }, .ok ())
  | some stream =>
    -- `take` comes before the close, and the new state after it
    let t := { t with stream := none }
    match close stream with
    | .error e => (t, .error e)
    | .ok () => ({ t with state := .disconnected }, .ok ())

/-- `send`, with what the stream makes of a message. -/
def send (t : WebSocketTransport σ) (payloadToString : ν → String) (payload : ν)
    (sendMessage : σ → Message → σ × Except String Unit) :
    WebSocketTransport σ × Except String Unit :=
  match t.stream with
  | none => (t, .error "Not connected")
  | some stream =>
    let (stream, result) := sendMessage stream (.text (payloadToString payload))
    ({ t with stream := some stream }, result)

/-- The loop of `receive` over what `next` delivers until the stream ends. -/
def firstText (fromStr : String → Except String ν) : List (Except String Message) → Except String ν
  | [] => .error "Not connected or closed"
  | .error e :: _ => .error e
  | .ok (.text text) :: _ => fromStr text
  | .ok .other :: frames => firstText fromStr frames

/-- `receive`, with what the stream delivers and what it is afterwards. -/
def receive (t : WebSocketTransport σ) (fromStr : String → Except String ν)
    (frames : σ → List (Except String Message) × σ) : WebSocketTransport σ × Except String ν :=
  match t.stream with
  | none => (t, .error "Not connected or closed")
  | some stream =>
    ({ t with stream := some (frames stream).2 }, firstText fromStr (frames stream).1)

end WebSocketTransport

/-! ## Runs -/

/-- A call of the transport with what the network answers. -/
inductive TransportCall (σ ν : Type) where
  | connect (connectAsync : String → Except String σ)
  | disconnect (close : σ → Except String Unit)
  | send (topic : String) (payload : ν) (sendMessage : σ → Message → σ × Except String Unit)
  | receive (timeout : Option Nat) (frames : σ → List (Except String Message) × σ)

/-- `serde_json`, between values and texts. -/
structure ValueText (ν : Type) where
  toText : ν → String
  fromStr : String → Except String ν

namespace WebSocketTransport

variable {σ ν : Type} (J : ValueText ν)

/-- The transport after a call. -/
def step (t : WebSocketTransport σ) : TransportCall σ ν → WebSocketTransport σ
  | .connect connectAsync => (t.connect connectAsync).1
  | .disconnect close => (t.disconnect close).1
  | .send _ payload sendMessage => (t.send J.toText payload sendMessage).1
  | .receive _ frames => (t.receive J.fromStr frames).1

/-- The state tells whether there is a stream. -/
def Tells (t : WebSocketTransport σ) : Prop :=
  t.isConnected = true ↔ t.stream.isSome = true

/-- While a stream is held, neither a new connection nor its close fails. -/
def Clean (t : WebSocketTransport σ) : TransportCall σ ν → Prop
  | .connect connectAsync =>
    t.stream.isSome = true → ∃ stream, connectAsync (url t.config) = .ok stream
  | .disconnect close => ∀ stream, t.stream = some stream → close stream = .ok ()
  | _ => True

variable {t : WebSocketTransport σ}

/-- A connection that fails leaves the transport connecting, with the stream it had. -/
theorem tells_connect_iff (connectAsync : String → Except String σ) :
    Tells (t.connect connectAsync).1 ↔
      (t.stream.isSome = true → ∃ stream, connectAsync (url t.config) = .ok stream) := by
  unfold connect
  dsimp only
  cases connectAsync (url t.config) with
  | ok stream => simp [Tells, isConnected]
  | error e => simp [Tells, isConnected]

/-- A close that fails leaves the transport connected, without a stream. -/
theorem tells_disconnect_iff (h : t.Tells) (close : σ → Except String Unit) :
    Tells (t.disconnect close).1 ↔ ∀ stream, t.stream = some stream → close stream = .ok () := by
  unfold disconnect
  cases hstream : t.stream with
  | none => simp [Tells, isConnected]
  | some stream =>
    -- with a stream at hand the state says so
    have hconnected : t.state = .connected := by
      simpa [Tells, isConnected, hstream] using h
    dsimp only
    cases hclose : close stream with
    | ok done => simp [Tells, isConnected, hclose]
    | error e =>
      -- the stream is gone, and the state is still `Connected`
      simp [Tells, isConnected, hclose, hconnected]

theorem tells_send (h : t.Tells) (payloadToString : ν → String) (payload : ν)
    (sendMessage : σ → Message → σ × Except String Unit) :
    Tells (t.send payloadToString payload sendMessage).1 := by
  unfold send
  cases hstream : t.stream with
  | none => exact h
  | some stream => simpa [Tells, isConnected, hstream] using h

theorem tells_receive (h : t.Tells) (fromStr : String → Except String ν)
    (frames : σ → List (Except String Message) × σ) : Tells (t.receive fromStr frames).1 := by
  unfold receive
  cases hstream : t.stream with
  | none => exact h
  | some stream => simpa [Tells, isConnected, hstream] using h

/-- **Step.** -/
theorem tells_step_iff (h : t.Tells) (call : TransportCall σ ν) :
    Tells (t.step J call) ↔ t.Clean call := by
  cases call with
  | connect connectAsync => exact tells_connect_iff connectAsync
  | disconnect close => exact tells_disconnect_iff h close
  | send topic payload sendMessage => exact iff_of_true (tells_send h _ _ _) trivial
  | receive timeout frames => exact iff_of_true (tells_receive h _ _) trivial

/-- **State and stream**: in a run of calls the transport is connected exactly while it holds a
    stream, after each of them, exactly when no connection fails while a stream is held and no
    close of the stream fails. -/
theorem connected_iff_run (config : TransportConfig) (run : List (TransportCall σ ν)) :
    (∀ pre, pre <+: run → Tells (runFrom (step J) (new config) pre)) ↔
      AllSteps (step J) Clean (new config) run := by
  apply forall_prefix_iff_allSteps (I := fun _ => True)
  · exact fun _ _ _ => trivial
  · exact fun t call _ h => tells_step_iff J h call
  · trivial
  · simp [Tells, isConnected, new]

/-- After a connection to stream 1, a close that fails leaves a connected transport without a
    stream, and a second connection that fails leaves a stream without a connected transport. -/
theorem connected_not_tells :
    let J : ValueText Unit := { toText := fun _ => "null", fromStr := fun _ => .ok () }
    let connected : WebSocketTransport Nat :=
      step J (new { host := "localhost", port := 8080 }) (.connect fun _ => .ok 1)
    let closed := step J connected (.disconnect fun _ => .error "broken pipe")
    let retried := step J connected (.connect fun _ => .error "connection refused")
    connected.Tells ∧
      (closed.isConnected = true ∧ closed.stream = none ∧ ¬ closed.Tells) ∧
      (retried.isConnected = false ∧ retried.stream = some 1 ∧ ¬ retried.Tells) := by
  intro J connected closed retried
  -- both flags are computed; the closed one has no stream and the retried one has one
  refine ⟨iff_of_true rfl rfl, ⟨rfl, rfl, ?_⟩, ⟨rfl, rfl, ?_⟩⟩
  · intro h
    exact Bool.false_ne_true (h.mp rfl)
  · intro h
    exact Bool.false_ne_true (h.mpr rfl)

end WebSocketTransport

end AgentGovernance.Mesh
