import FwRouter.Library.Run
import FwRouter.LiveProbe.Store

/-!
# Concurrent calls of the live probe cache

`get_live_probe_cache`, `peek_live_probe_cache` and the two clearing functions, step by step.  A
call of `get_live_probe_cache` passes through up to four sections under `_CACHE_LOCK`; between
them it loads, waits for another call's load, or sizes a value.  A label lets one call execute its
next section or its next piece of unlocked work, so that a run is any interleaving.

The pair of event and holder that a call registers in `_INFLIGHT` is a `Flight`.  Its number is its
identity: flights are numbered in the order of registration and never reused.

`epoch key` counts the clears that have hit `key`.  It is a history variable, and so are the epochs
that calls, flights and loader runs remember.
-/

namespace FwRouter.LiveProbe

/-- An `(event, holder)` pair: its key, `owner_thread_id`, and the epoch of its registration. -/
structure Flight (K : Type) where
  key : K
  owner : ℕ
  epoch : ℕ

/-- What the holder contains and whether the event is set. -/
structure Holder (V E : Type) where
  value : Option V
  error : Option E
  isSet : Bool
  /-- The epoch in which the loader was called. -/
  began : Option ℕ

inductive Op (K : Type)
  | get (key : K) (ttlSeconds : ℚ) (forceRefresh : Bool)
  | peek (key : K)
  | clear
  | clearMatching (predicate : K → Bool)

/-- What a call returns or raises.  A value or an error comes with the flight whose loader produced
it. -/
inductive Result (V E : Type)
  | value (v : V) (run : ℕ)
  | error (e : E) (run : ℕ)
  /-- `holder.get("value")` of a holder that is still empty. -/
  | emptyHolder
  /-- `peek_live_probe_cache` returns `None`. -/
  | absent
  /-- `LIVE_PROBE_CACHE_REENTRANT_LOAD`. -/
  | reentrantLoad
  | cleared
  deriving DecidableEq

/-- Where a call stands. -/
inductive Phase (V E : Type)
  /-- Before its only section, or before the lookup of `get_live_probe_cache`. -/
  | ready
  /-- Before the section that joins or registers a flight. -/
  | registering
  /-- A leader that has not called its loader yet. -/
  | leading (flight : ℕ)
  /-- The loader runs. -/
  | loading (flight : ℕ)
  /-- Before the section that decides about sizing. -/
  | loaded (flight : ℕ) (v : V) (finishedAt expiresAt : ℚ)
  /-- Before the section that admits the value. -/
  | sizing (flight : ℕ) (v : V) (expiresAt : ℚ)
  /-- Before the section of the `finally` clause. -/
  | leaving (flight : ℕ) (r : Result V E)
  /-- Before `event.set()`. -/
  | signalling (flight : ℕ) (r : Result V E)
  | waiting (flight : ℕ)
  | done (r : Result V E)
  deriving DecidableEq

/-- A call: what it does, on which thread, what it read from the clock at first, and the epochs at
its start. -/
structure Call (K : Type) where
  op : Op K
  thread : ℕ
  now : ℚ
  epoch : K → ℕ

structure World (K V E : Type) where
  store : Store K V
  /-- `_INFLIGHT`. -/
  inflight : K → Option ℕ
  flights : List (Flight K)
  holder : ℕ → Holder V E
  calls : List (Call K)
  phase : ℕ → Phase V E
  epoch : K → ℕ

/-- What the outside contributes to a step: a reading of the clock, the outcome of the loader, and
the size of the value with its key and overhead. -/
structure Input (V E : Type) where
  now : ℚ
  load : Except E V
  size : ℕ

inductive Label (K V E : Type)
  | begin (op : Op K) (thread : ℕ) (now : ℚ)
  | step (call : ℕ) (input : Input V E)

variable {K V E : Type} [DecidableEq K]

def World.initial : World K V E where
  store := Store.empty
  inflight _ := none
  flights := []
  holder _ := ⟨none, none, false, none⟩
  calls := []
  phase _ := .ready
  epoch _ := 0

def World.goto (w : World K V E) (call : ℕ) (phase : Phase V E) : World K V E :=
  { w with phase := Function.update w.phase call phase }

/-- `_INFLIGHT.get(key)` is this flight, by identity of event and holder. -/
def World.isCurrent (w : World K V E) (key : K) (flight : ℕ) : Bool :=
  decide (w.inflight key = some flight)

/-- `clear_live_probe_cache`. -/
def World.clear (w : World K V E) : World K V E :=
  { w with store := w.store.clear, inflight := fun _ => none, epoch := fun key => w.epoch key + 1 }

/-- `clear_live_probe_cache_matching`. -/
def World.clearMatching (predicate : K → Bool) (w : World K V E) : World K V E :=
  { w with
    store := w.store.clearMatching predicate
    inflight := fun key => if predicate key then none else w.inflight key
    epoch := fun key => if predicate key then w.epoch key + 1 else w.epoch key }

/-- The first section of `get_live_probe_cache`. -/
def World.lookup (call : ℕ) (c : Call K) (key : K) (w : World K V E) : World K V E :=
  let store := w.store.sweepExpired c.now (some key)
  match store.find key with
  | some cached =>
      if c.now < cached.expiresAt then
        { w with store := store.moveToEnd cached }.goto call (.done (.value cached.value cached.run))
      else { w with store := store.remove key }.goto call .registering
  | none => { w with store }.goto call .registering

/-- The second section: become the leader of a new flight, or follow the registered one. -/
def World.register (call : ℕ) (c : Call K) (key : K) (w : World K V E) : World K V E :=
  let w := { w with store := w.store.sweepExpired c.now (some key) }
  match w.inflight key with
  | none =>
      { w with
        inflight := Function.update w.inflight key (some w.flights.length)
        flights := w.flights ++ [Flight.mk key c.thread (w.epoch key)] }.goto call (.leading w.flights.length)
  | some flight =>
      if (w.flights[flight]?).any fun f => decide (f.owner = c.thread) then
        w.goto call (.done .reentrantLoad)
      else w.goto call (.waiting flight)

/-- `loader()` is called. -/
def World.beginLoad (call : ℕ) (key : K) (flight : ℕ) (w : World K V E) : World K V E :=
  { w with
    holder := Function.update w.holder flight { w.holder flight with began := some (w.epoch key) }
  }.goto call (.loading flight)

/-- `loader()` returns or raises. -/
def World.endLoad (call : ℕ) (ttlSeconds : ℚ) (flight : ℕ) (input : Input V E) (w : World K V E) :
    World K V E :=
  match input.load with
  | .ok v =>
      { w with holder := Function.update w.holder flight { w.holder flight with value := some v } }.goto
        call (.loaded flight v input.now (input.now + max ttlSeconds 0))
  | .error e =>
      { w with holder := Function.update w.holder flight { w.holder flight with error := some e } }.goto
        call (.leaving flight (.error e flight))

/-- The section that computes `should_size`. -/
def World.decideSizing (call : ℕ) (key : K) (flight : ℕ) (v : V) (finishedAt expiresAt : ℚ)
    (w : World K V E) : World K V E :=
  if w.isCurrent key flight && decide (finishedAt < expiresAt) then
    w.goto call (.sizing flight v expiresAt)
  else w.goto call (.leaving flight (.value v flight))

/-- The section that admits the value. -/
def World.admitLoaded (call : ℕ) (key : K) (flight : ℕ) (v : V) (expiresAt : ℚ) (input : Input V E)
    (w : World K V E) : World K V E :=
  let store :=
    if w.isCurrent key flight && decide (input.now < expiresAt) then
      (w.store.sweepExpired input.now none).admitEntry ⟨key, expiresAt, v, input.size, flight⟩
    else w.store
  { w with store }.goto call (.leaving flight (.value v flight))

/-- The section of the `finally` clause. -/
def World.leave (call : ℕ) (key : K) (flight : ℕ) (r : Result V E) (w : World K V E) : World K V E :=
  let inflight :=
    if w.isCurrent key flight then Function.update w.inflight key none else w.inflight
  { w with inflight }.goto call (.signalling flight r)

/-- `event.set()`. -/
def World.signal (call : ℕ) (flight : ℕ) (r : Result V E) (w : World K V E) : World K V E :=
  { w with holder := Function.update w.holder flight { w.holder flight with isSet := true } }.goto
    call (.done r)

/-- `event.wait()` and the reading of the holder. -/
def World.await (call : ℕ) (flight : ℕ) (w : World K V E) : World K V E :=
  let h := w.holder flight
  if h.isSet then
    match h.error, h.value with
    | some e, _ => w.goto call (.done (.error e flight))
    | none, some v => w.goto call (.done (.value v flight))
    | none, none => w.goto call (.done .emptyHolder)
  else w

/-- `get_live_probe_cache`, one step. -/
def World.stepGet (call : ℕ) (c : Call K) (key : K) (ttlSeconds : ℚ) (input : Input V E)
    (w : World K V E) : World K V E :=
  match w.phase call with
  | .ready => w.lookup call c key
  | .registering => w.register call c key
  | .leading flight => w.beginLoad call key flight
  | .loading flight => w.endLoad call ttlSeconds flight input
  | .loaded flight v finishedAt expiresAt => w.decideSizing call key flight v finishedAt expiresAt
  | .sizing flight v expiresAt => w.admitLoaded call key flight v expiresAt input
  | .leaving flight r => w.leave call key flight r
  | .signalling flight r => w.signal call flight r
  | .waiting flight => w.await call flight
  | .done _ => w

/-- `peek_live_probe_cache`. -/
def World.peek (call : ℕ) (c : Call K) (key : K) (w : World K V E) : World K V E :=
  let store := w.store.sweepExpired c.now (some key)
  match store.find key with
  | none => { w with store }.goto call (.done .absent)
  | some cached =>
      if cached.expiresAt ≤ c.now then { w with store := store.remove key }.goto call (.done .absent)
      else { w with store := store.moveToEnd cached }.goto call
        (.done (.value cached.value cached.run))

/-- One step of a call; a call with a single section is done after it. -/
def World.stepCall (call : ℕ) (c : Call K) (input : Input V E) (w : World K V E) : World K V E :=
  match c.op, w.phase call with
  | .get key ttlSeconds _, _ => w.stepGet call c key ttlSeconds input
  | .peek key, .ready => w.peek call c key
  | .clear, .ready => w.clear.goto call (.done .cleared)
  | .clearMatching predicate, .ready => (w.clearMatching predicate).goto call (.done .cleared)
  | _, _ => w

/-- Where a call starts: a forced refresh goes past the lookup. -/
def Op.start : Op K → Phase V E
  | .get _ _ true => .registering
  | _ => .ready

def step (w : World K V E) : Label K V E → World K V E
  | .begin op thread now =>
      { w with calls := w.calls ++ [Call.mk op thread now w.epoch] }.goto w.calls.length op.start
  | .step call input => (w.calls[call]?).elim w fun c => w.stepCall call c input

/-- The state after an interleaving. -/
def run (labels : List (Label K V E)) : World K V E := labels.foldl step World.initial

/-! ## Accounting -/

/-- Every section leaves the store accounted. -/
lemma accounted_stepGet {call : ℕ} {c : Call K} {key : K} {ttlSeconds : ℚ} {input : Input V E}
    {w : World K V E} (hw : Accounted w.store) :
    Accounted (w.stepGet call c key ttlSeconds input).store := by
  have hswept := hw.sweepExpired c.now (some key)
  unfold World.stepGet
  cases w.phase call with
  | ready =>
      dsimp only [World.lookup]
      cases hfind : (w.store.sweepExpired c.now (some key)).find key with
      | none => exact hswept
      | some cached =>
          dsimp only
          split_ifs
          · exact hswept.moveToEnd hfind
          · exact hswept.remove key
  | registering =>
      dsimp only [World.register]
      cases w.inflight key with
      | none => exact hswept
      | some flight =>
          dsimp only
          split_ifs <;> exact hswept
  | leading flight => exact hw
  | loading flight =>
      dsimp only [World.endLoad]
      cases input.load <;> exact hw
  | loaded flight v finishedAt expiresAt =>
      dsimp only [World.decideSizing]
      split_ifs <;> exact hw
  | sizing flight v expiresAt =>
      show Accounted (if _ then _ else w.store)
      split_ifs
      · exact (hw.sweepExpired input.now none).admitEntry _
      · exact hw
  | leaving flight r => exact hw
  | signalling flight r => exact hw
  | waiting flight =>
      dsimp only [World.await]
      split_ifs
      · cases (w.holder flight).error <;> cases (w.holder flight).value <;> exact hw
      · exact hw
  | done r => exact hw

lemma accounted_peek {call : ℕ} {c : Call K} {key : K} {w : World K V E} (hw : Accounted w.store) :
    Accounted (w.peek call c key).store := by
  have hswept := hw.sweepExpired c.now (some key)
  unfold World.peek
  dsimp only
  cases hfind : (w.store.sweepExpired c.now (some key)).find key with
  | none => exact hswept
  | some cached =>
      dsimp only
      split_ifs
      · exact hswept.remove key
      · exact hswept.moveToEnd hfind

lemma accounted_step {w : World K V E} (hw : Accounted w.store) (label : Label K V E) :
    Accounted (step w label).store := by
  cases label with
  | begin op thread now => exact hw
  | step call input =>
      show Accounted ((w.calls[call]?).elim w fun c => w.stepCall call c input).store
      cases w.calls[call]? with
      | none => exact hw
      | some c =>
          show Accounted (w.stepCall call c input).store
          unfold World.stepCall
          split
          · exact accounted_stepGet hw
          · exact accounted_peek hw
          · exact accounted_empty
          · exact hw.clearMatching _
          · exact hw

/-- **Accounting is exact and bounded** in every state of every interleaving, and the eviction loop of
an admission ends with room for the value, whatever is admitted. -/
theorem accounted_run (labels : List (Label K V E)) :
    Accounted (run labels).store ∧ ∀ (now : ℚ) (key : K) (size : ℕ), size ≤ maxEntryBytes →
      let c := ((run labels).store.sweepExpired now none).remove key
      RoomFor size (makeRoom size c.entries c.retainedBytes).1
        (makeRoom size c.entries c.retainedBytes).2 := by
  have haccounted : Accounted (run labels).store :=
    List.foldlRecOn labels step (motive := fun w => Accounted w.store)
      (accounted_empty (K := K) (V := V)) fun w hw label _ => accounted_step hw label
  refine ⟨haccounted, fun now key size hsize => ?_⟩
  have hbytes : size ≤ maxCacheBytes := hsize.trans (by decide)
  exact (makeRoom_spec hbytes ((haccounted.sweepExpired now none).remove key).exact_sum).1

/-- One call that loads the value `42`, whose size is `100`. -/
def exampleLoad : List (Label ℕ ℕ ℕ) :=
  .begin (.get 7 5 false) 0 0 :: List.replicate 8 (.step 0 ⟨1, .ok 42, 100⟩)

/-- The example retains its value, and leaves room for another one. -/
theorem accounted_exampleLoad :
    (run exampleLoad).store.retainedBytes = 100 ∧ Accounted (run exampleLoad).store ∧
      RoomFor 200 (makeRoom 200
          (((run exampleLoad).store.sweepExpired 2 none).remove 8).entries
          (((run exampleLoad).store.sweepExpired 2 none).remove 8).retainedBytes).1
        (makeRoom 200 (((run exampleLoad).store.sweepExpired 2 none).remove 8).entries
          (((run exampleLoad).store.sweepExpired 2 none).remove 8).retainedBytes).2 :=
  ⟨by decide +kernel, (accounted_run exampleLoad).1,
    (accounted_run exampleLoad).2 2 8 200 (by decide)⟩

end FwRouter.LiveProbe
