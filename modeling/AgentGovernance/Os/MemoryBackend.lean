import AgentGovernance.Lib.LastMatch
import AgentGovernance.Lib.Runs
import Mathlib.Data.Finmap

/-!
# The memory backend

`MemoryBackend` in `crates/core/os/src/lib.rs`: a map of values with an optional time to
live, where a read removes an entry that it finds expired.

What a read returns is a matter of the calls so far and not of the map: the latest write of
the key decides, `get_eq_some_iff`.  `set` adds the time to live to the clock while it holds the
lock, so that an instant that does not exist makes this and every later call panic,
`set_completes_iff`.
-/

namespace AgentGovernance.Os

open AgentGovernance.Lib

/-- `std::time::Instant`, in nanoseconds. -/
abbrev Instant := Nat

/-- `Instant + Duration::from_secs(..)`, which panics beyond the last instant. -/
def addSecs (limit now : Instant) (secs : UInt64) : Option Instant :=
  if now + secs.toNat * 1000000000 ≤ limit then some (now + secs.toNat * 1000000000) else none

/-- `MemoryBackend`, whose values are opaque.  A panic under the lock poisons it. -/
structure MemoryBackend (ν : Type) where
  store : Finmap (fun _ : String => ν × Option Instant)
  poisoned : Bool

/-- The calls of `StateBackend`. -/
inductive BackendCall (ν : Type) where
  | get (key : String)
  | set (key : String) (value : ν) (ttl : Option UInt64)
  | delete (key : String)

/-- How a call ends. -/
inductive BackendReply (ν : Type) where
  | got (value : Option ν)
  | done
  | panicked

namespace MemoryBackend

variable {ν : Type} (limit : Instant)

def new : MemoryBackend ν where
  store := ∅
  poisoned := false

/-- `get`, with the reading of the clock. -/
def get (b : MemoryBackend ν) (key : String) (now : Instant) : MemoryBackend ν × Option ν :=
  match b.store.lookup key with
  | some (value, some expiry) =>
    if now ≥ expiry then ({ b with store := b.store.erase key }, none) else (b, some value)
  | some (value, none) => (b, some value)
  | none => (b, none)

/-- The expiry of a value; the outer `none` is the panic of the addition. -/
def expiryOf (now : Instant) (ttl : Option UInt64) : Option (Option Instant) :=
  match ttl with
  | none => some none
  | some secs => (addSecs limit now secs).map some

def set (b : MemoryBackend ν) (key : String) (value : ν) (ttl : Option UInt64) (now : Instant) :
    MemoryBackend ν × BackendReply ν :=
  match expiryOf limit now ttl with
  | none => ({ b with poisoned := true }, .panicked)
  | some expiry => ({ b with store := b.store.insert key (value, expiry) }, .done)

def delete (b : MemoryBackend ν) (key : String) : MemoryBackend ν :=
  { b with store := b.store.erase key }

/-- A call; on a poisoned lock it panics. -/
def call (b : MemoryBackend ν) (now : Instant) (c : BackendCall ν) :
    MemoryBackend ν × BackendReply ν :=
  if b.poisoned then (b, .panicked)
  else
    match c with
    | .get key => ((b.get key now).1, .got (b.get key now).2)
    | .set key value ttl => b.set limit key value ttl now
    | .delete key => (b.delete key, .done)

/-- A call at a time, as a step of a run. -/
def step (b : MemoryBackend ν) (c : Instant × BackendCall ν) : MemoryBackend ν :=
  (b.call limit c.1 c.2).1

/-! ## The history of a key -/

/-- The value has not expired. -/
def live (t : Instant) (entry : ν × Option Instant) : Bool :=
  match entry.2 with
  | none => true
  | some expiry => t < expiry

/-- The call writes the key. -/
def writes (key : String) : BackendCall ν → Bool
  | .get _ => false
  | .set k _ _ => k = key
  | .delete k => k = key

/-- The latest write of the key in a history. -/
def lastWrite (history : List (Instant × BackendCall ν)) (key : String) :
    Option (Instant × BackendCall ν) :=
  history.reverse.find? fun c => writes key c.2

/-- What a write leaves under its key. -/
def entryOf : Instant × BackendCall ν → Option (ν × Option Instant)
  | (now, .set _ value ttl) => some (value, ttl.map (now + ·.toNat * 1000000000))
  | _ => none

/-- What the latest write of the key left. -/
def lastEntry (history : List (Instant × BackendCall ν)) (key : String) :
    Option (ν × Option Instant) :=
  (lastWrite history key).bind entryOf

theorem lastWrite_eq_lastMatch (history : List (Instant × BackendCall ν)) (key : String) :
    lastWrite history key = lastMatch (fun c => writes key c.2) history :=
  lastMatch_eq_find?.symm

theorem lastEntry_concat (history : List (Instant × BackendCall ν)) (c : Instant × BackendCall ν)
    (key : String) :
    lastEntry (history ++ [c]) key =
      if writes key c.2 then entryOf c else lastEntry history key := by
  rw [lastEntry, lastEntry, lastWrite_eq_lastMatch, lastWrite_eq_lastMatch, lastMatch_concat]
  cases writes key c.2 with
  | true => rfl
  | false => rfl

/-- A key has a latest write when a write of it is followed by none. -/
theorem lastWrite_eq_some_iff (history : List (Instant × BackendCall ν)) (key : String)
    (c : Instant × BackendCall ν) :
    lastWrite history key = some c ↔ writes key c.2 = true ∧
      ∃ pre post, history = pre ++ c :: post ∧ ∀ d ∈ post, writes key d.2 = false := by
  rw [lastWrite_eq_lastMatch, lastMatch_eq_some_iff]

/-- **The latest write** decides: the key was set to an entry and not written since. -/
theorem lastEntry_eq_some_iff (history : List (Instant × BackendCall ν)) (key : String)
    (entry : ν × Option Instant) :
    lastEntry history key = some entry ↔
      ∃ pre now value ttl post, history = pre ++ (now, .set key value ttl) :: post ∧
        (∀ c ∈ post, writes key c.2 = false) ∧
        entry = (value, ttl.map (now + ·.toNat * 1000000000)) := by
  simp only [lastEntry, Option.bind_eq_some_iff, lastWrite_eq_some_iff]
  constructor
  · rintro ⟨⟨now, c⟩, ⟨hkey, pre, post, hsplit, hpost⟩, hentry⟩
    -- the latest write under the key is a `set`, for a `delete` leaves nothing
    cases c with
    | set k value ttl =>
      obtain rfl : k = key := of_decide_eq_true hkey
      exact ⟨pre, now, value, ttl, post, hsplit, hpost, (Option.some.inj hentry).symm⟩
    | get k => cases hkey
    | delete k => cases hentry
  · rintro ⟨pre, now, value, ttl, post, hsplit, hpost, rfl⟩
    exact ⟨_, ⟨by simp [writes], pre, post, hsplit, hpost⟩, rfl⟩

/-! ## The map and the history -/

/-- No addition of a `set` panics. -/
def Representable (c : Instant × BackendCall ν) : Prop :=
  ∀ key value ttl, c.2 = .set key value ttl → expiryOf limit c.1 ttl ≠ none

/-- From the last reading of the clock on, the map and the history agree about the entries that
    have not expired. -/
structure Tracks (history : List (Instant × BackendCall ν)) (b : MemoryBackend ν) : Prop where
  poisoned : b.poisoned = false
  entries : ∀ key t, (∀ c ∈ history, c.1 ≤ t) →
    (b.store.lookup key).filter (live t) = (lastEntry history key).filter (live t)

theorem expiryOf_eq_some {now : Instant} {ttl : Option UInt64} {expiry : Option Instant}
    (h : expiryOf limit now ttl = some expiry) :
    expiry = ttl.map (now + ·.toNat * 1000000000) := by
  cases ttl with
  | none => exact (Option.some.inj h).symm
  | some secs =>
    simp only [expiryOf, addSecs] at h
    split at h
    · exact (Option.some.inj h).symm
    · cases h

/-- A read returns the entry, unless it has expired. -/
theorem get_snd (b : MemoryBackend ν) (key : String) (now : Instant) :
    (b.get key now).2 = ((b.store.lookup key).filter (live now)).map Prod.fst := by
  unfold get
  rcases b.store.lookup key with _ | ⟨value, _ | expiry⟩
  · rfl
  · rfl
  · by_cases hexpired : now ≥ expiry
    · simp [hexpired, live, Option.filter]
    · simp [hexpired, live, Option.filter]

/-- A read removes no entry that is live now or later. -/
theorem get_lookup (b : MemoryBackend ν) (key k : String) {now t : Instant} (h : now ≤ t) :
    ((b.get key now).1.store.lookup k).filter (live t) = (b.store.lookup k).filter (live t) := by
  unfold get
  rcases hentry : b.store.lookup key with _ | ⟨value, _ | expiry⟩
  · rfl
  · rfl
  · by_cases hexpired : now ≥ expiry
    · simp only [hexpired, if_true]
      by_cases hk : k = key
      · -- the entry that goes has expired by then
        subst hk
        have hover : ¬ t < expiry := not_lt.mpr (le_trans hexpired h)
        rw [Finmap.lookup_erase, hentry]
        simp [Option.filter, live, hover]
      · rw [Finmap.lookup_erase_ne hk]
    · simp [hexpired]

/-- **Step.** A call keeps map and history in agreement. -/
theorem Tracks.step {history : List (Instant × BackendCall ν)} {b : MemoryBackend ν}
    (h : Tracks history b) {c : Instant × BackendCall ν} (hlast : ∀ d ∈ history, d.1 ≤ c.1)
    (hrep : Representable limit c) : Tracks (history ++ [c]) (b.step limit c) := by
  obtain ⟨now, c⟩ := c
  have hpast : ∀ {t}, (∀ d ∈ history ++ [(now, c)], d.1 ≤ t) →
      now ≤ t ∧ ∀ d ∈ history, d.1 ≤ t := by
    intro t ht
    exact ⟨ht (now, c) (by simp), fun d hd => ht d (by simp [hd])⟩
  -- the lock is not poisoned, so the call goes through
  simp only [MemoryBackend.step, call, h.poisoned, Bool.false_eq_true, if_false]
  cases c with
  | get key =>
    refine ⟨?_, ?_⟩
    · show (b.get key now).1.poisoned = false
      unfold get
      split
      · split <;> exact h.poisoned
      · exact h.poisoned
      · exact h.poisoned
    · intro k t ht
      obtain ⟨hnow, hold⟩ := hpast ht
      -- what a `get` removes is no longer live at any later time
      show ((b.get key now).1.store.lookup k).filter (live t) = _
      rw [get_lookup b key k hnow, h.entries k t hold, lastEntry_concat]
      rfl
  | set key value ttl =>
    obtain ⟨expiry, hexpiry⟩ := Option.ne_none_iff_exists'.mp (hrep key value ttl rfl)
    simp only [set, hexpiry]
    refine ⟨h.poisoned, ?_⟩
    -- the entry under the key is the new one, and the others stay
    intro k t ht
    rw [lastEntry_concat]
    by_cases hk : key = k
    · subst hk
      rw [Finmap.lookup_insert, expiryOf_eq_some limit hexpiry]
      simp [writes, entryOf]
    · rw [Finmap.lookup_insert_of_ne _ (Ne.symm hk), h.entries k t (hpast ht).2]
      simp [writes, hk]
  | delete key =>
    refine ⟨h.poisoned, ?_⟩
    intro k t ht
    rw [lastEntry_concat]
    show ((b.store.erase key).lookup k).filter (live t) = _
    by_cases hk : key = k
    · subst hk
      rw [Finmap.lookup_erase]
      simp [writes, entryOf]
    · rw [Finmap.lookup_erase_ne (Ne.symm hk), h.entries k t (hpast ht).2]
      simp [writes, hk]

/-- **Run.** So does every sequence of calls at nondecreasing times. -/
theorem tracks_run {history : List (Instant × BackendCall ν)}
    (hclock : (history.map Prod.fst).Pairwise (· ≤ ·)) (hrep : ∀ c ∈ history, Representable limit c) :
    Tracks history (runFrom (step limit) new history) := by
  induction history using List.reverseRecOn with
  | nil => exact ⟨rfl, fun _ _ _ => rfl⟩
  | append_singleton history c ih =>
    rw [List.map_append, List.pairwise_append] at hclock
    obtain ⟨hold, -, hlast⟩ := hclock
    rw [runFrom_append]
    -- the clock does not go back, so the earlier calls are in the past of the last one
    apply Tracks.step limit (ih hold fun d hd => hrep d (by simp [hd]))
    · intro d hd
      exact hlast d.1 (List.mem_map_of_mem hd) c.1 (by simp)
    · exact hrep c (by simp)

/-- **What a read returns.** After any calls at nondecreasing times, reading a key returns a value
    exactly when the latest write of the key set this value and its time to live is not over. -/
theorem get_eq_some_iff (history : List (Instant × BackendCall ν)) (key : String) (t : Instant)
    (hclock : (history.map Prod.fst ++ [t]).Pairwise (· ≤ ·))
    (hrep : ∀ c ∈ history, Representable limit c) (v : ν) :
    ((runFrom (step limit) new history).call limit t (.get key)).2 = .got (some v) ↔
      ∃ pre now ttl post, history = pre ++ (now, .set key v ttl) :: post ∧
        (∀ c ∈ post, writes key c.2 = false) ∧
        (∀ secs, ttl = some secs → t < now + secs.toNat * 1000000000) := by
  rw [List.pairwise_append] at hclock
  obtain ⟨hclock, -, hlast⟩ := hclock
  have htracks := tracks_run limit hclock hrep
  have hentries := htracks.entries key t fun c hc => hlast c.1 (List.mem_map_of_mem hc) t (by simp)
  simp only [call, htracks.poisoned, Bool.false_eq_true, if_false, BackendReply.got.injEq, get_snd,
    hentries, Option.map_eq_some_iff, Option.filter_eq_some_iff, lastEntry_eq_some_iff]
  -- the entry that is found is the one that the latest write has made
  constructor
  · rintro ⟨_, ⟨⟨pre, now, value, ttl, post, hsplit, hpost, rfl⟩, hlive⟩, rfl⟩
    refine ⟨pre, now, ttl, post, hsplit, hpost, ?_⟩
    rintro secs rfl
    simpa [live] using hlive
  · rintro ⟨pre, now, ttl, post, hsplit, hpost, hlive⟩
    refine ⟨_, ⟨⟨pre, now, v, ttl, post, hsplit, hpost, rfl⟩, ?_⟩, rfl⟩
    cases ttl with
    | none => rfl
    | some secs => simpa [live] using hlive secs rfl

/-- A value with a time to live of one second, overwritten without one, is still there later. -/
theorem get_overwritten :
    ((runFrom (step 10000000000) new
      [(0, .set "session" "old" (some 1)), (500000000, .get "session"),
        (900000000, .set "session" "new" none)]).call 10000000000 2000000000
          (.get "session")).2 = .got (some "new") := by
  apply (get_eq_some_iff 10000000000 _ "session" 2000000000 (by decide) ?_ "new").mpr
  · exact ⟨[(0, .set "session" "old" (some 1)), (500000000, .get "session")], 900000000, none, [],
      rfl, by simp, by simp⟩
  · -- the two `set` calls fit into the clock
    intro c hc key value ttl hset
    simp only [List.mem_cons, List.not_mem_nil, or_false] at hc
    rcases hc with rfl | rfl | rfl
    · cases hset
      decide
    · cases hset
    · cases hset
      decide

/-! ## Panics -/

/-- The call returns. -/
def Completes (b : MemoryBackend ν) (c : Instant × BackendCall ν) : Prop :=
  (b.call limit c.1 c.2).2 ≠ .panicked

/-- A value that is set expires at an instant that there is. -/
def Fits (c : Instant × BackendCall ν) : Prop :=
  ∀ key value secs, c.2 = .set key value (some secs) → c.1 + secs.toNat * 1000000000 ≤ limit

/-- All calls complete from here on, unless one of them sets a value that does not fit itself. -/
def Usable (b : MemoryBackend ν) : Prop :=
  ∀ later, (∀ c ∈ later, Fits limit c) → AllSteps (step limit) (Completes limit) b later

theorem representable_iff_fits (c : Instant × BackendCall ν) :
    Representable limit c ↔ Fits limit c := by
  have hadd : ∀ now secs, addSecs limit now secs ≠ none ↔ now + secs.toNat * 1000000000 ≤ limit := by
    intro now secs
    simp [addSecs]
  constructor
  · intro h key value secs hset
    apply (hadd c.1 secs).mp
    simpa [expiryOf] using h key value (some secs) hset
  · -- a value without a time to live always fits
    intro h key value ttl hset
    cases ttl with
    | none => simp [expiryOf]
    | some secs =>
      have hfits := (hadd c.1 secs).mpr (h key value secs hset)
      simpa [expiryOf] using hfits

/-- A call completes when nothing has panicked before and its own value fits. -/
theorem completes_iff (b : MemoryBackend ν) (c : Instant × BackendCall ν) :
    Completes limit b c ↔ b.poisoned = false ∧ Fits limit c := by
  rw [← representable_iff_fits]
  obtain ⟨now, c⟩ := c
  unfold Completes call Representable
  cases b.poisoned with
  | true => simp
  | false =>
    cases c with
    | get key => simp
    | delete key => simp
    | set key value ttl =>
      -- only a `set` with a time to live can leave the clock's range
      simp only [Bool.false_eq_true, if_false, true_and, set]
      cases hexpiry : expiryOf limit now ttl with
      | none =>
        refine iff_of_false (fun h => h rfl) ?_
        intro h
        exact h key value ttl rfl hexpiry
      | some expiry =>
        refine iff_of_true (fun h => by cases h) ?_
        rintro k v t ⟨⟩
        rw [hexpiry]
        exact Option.some_ne_none _

/-- **Step.** A call poisons the lock exactly when it does not complete. -/
theorem step_poisoned (b : MemoryBackend ν) (c : Instant × BackendCall ν) :
    (b.step limit c).poisoned = false ↔ Completes limit b c := by
  obtain ⟨now, c⟩ := c
  unfold Completes step call
  by_cases hpoisoned : b.poisoned = true
  · simp [hpoisoned]
  · rw [if_neg hpoisoned]
    cases c with
    | get key =>
      simp only [get]
      split
      · split <;> simp [hpoisoned]
      · simp [hpoisoned]
      · simp [hpoisoned]
    | delete key => simp [delete, hpoisoned]
    | set key value ttl =>
      simp only [set]
      -- the sum panics while the lock is held
      cases expiryOf limit now ttl with
      | none => simp
      | some expiry => simp [hpoisoned]

/-- After a run nothing has panicked when nothing had before and every value fits. -/
theorem runFrom_poisoned (b : MemoryBackend ν) (run : List (Instant × BackendCall ν)) :
    (runFrom (step limit) b run).poisoned = false ↔
      b.poisoned = false ∧ ∀ c ∈ run, Fits limit c := by
  induction run generalizing b with
  | nil => simp
  | cons c run ih =>
    rw [runFrom_cons, ih, step_poisoned, completes_iff, List.forall_mem_cons, and_assoc]

/-- **Run.** All calls complete when nothing has panicked before and every value fits. -/
theorem allSteps_completes_iff (b : MemoryBackend ν) (run : List (Instant × BackendCall ν)) :
    AllSteps (step limit) (Completes limit) b run ↔
      (run = [] ∨ b.poisoned = false) ∧ ∀ c ∈ run, Fits limit c := by
  induction run generalizing b with
  | nil => simp [AllSteps]
  | cons c run ih =>
    rw [AllSteps, ih, step_poisoned, List.forall_mem_cons]
    constructor
    · rintro ⟨hfirst, -, hrest⟩
      obtain ⟨hclean, hfits⟩ := (completes_iff limit b c).mp hfirst
      exact ⟨.inr hclean, hfits, hrest⟩
    · -- a first call that completes leaves the lock as it was
      rintro ⟨hclean, hfits, hrest⟩
      have hfirst := (completes_iff limit b c).mpr ⟨hclean.resolve_left (List.cons_ne_nil _ _), hfits⟩
      exact ⟨hfirst, .inr hfirst, hrest⟩

theorem usable_iff (b : MemoryBackend ν) : Usable limit b ↔ b.poisoned = false := by
  constructor
  · intro h
    -- already a read tells
    have hread := h [(0, .get "")] (by simp [Fits])
    exact ((completes_iff limit b _).mp hread.1).1
  · intro h later hfits
    exact (allSteps_completes_iff limit b later).mpr ⟨.inr h, hfits⟩

/-- **Completion**: in any state, `set` completes and leaves the backend usable exactly when nothing
    has panicked before and its value expires at an instant that there is; and the calls of a run
    all complete exactly when this is so of every `set` among them. -/
theorem set_completes_iff (b : MemoryBackend ν) :
    (∀ now key value ttl,
      (Completes limit b (now, .set key value ttl) ∧
          Usable limit (b.step limit (now, .set key value ttl))) ↔
        b.poisoned = false ∧ Fits limit (now, .set key value ttl)) ∧
    ∀ run, AllSteps (step limit) (Completes limit) b run ↔
      (run = [] ∨ b.poisoned = false) ∧ ∀ c ∈ run, Fits limit c := by
  refine ⟨?_, allSteps_completes_iff limit b⟩
  intro now key value ttl
  rw [usable_iff, step_poisoned, and_self, completes_iff]

/-- The last instant where seconds are an `i64`. -/
def unixLimit : Instant :=
  9223372036854775807 * 1000000000 + 999999999

/-- A `set` with the largest time to live panics, and every read after it does so too. -/
theorem set_not_completed :
    let call : Instant × BackendCall String :=
      (0, .set "session" "token" (some 18446744073709551615))
    ¬ Completes unixLimit new call ∧
      ∀ later key, ¬ Completes unixLimit (new.step unixLimit call) (later, .get key) := by
  intro call
  have hpanic : ¬ Completes unixLimit new call := by
    intro h
    have hfits := ((completes_iff unixLimit new call).mp h).2 "session" "token" _ rfl
    exact absurd hfits (by decide)
  refine ⟨hpanic, ?_⟩
  -- the first call has panicked with the lock
  intro later key h
  have hclean := ((completes_iff unixLimit _ _).mp h).1
  exact hpanic ((step_poisoned unixLimit new call).mp hclean)

end MemoryBackend

end AgentGovernance.Os
