import FwRouter.LiveProbe.Calls

/-!
# Invalidation and in-flight loads

A clear empties the store and detaches every registered flight, so that a load which is already
under way can neither be joined nor publish its value.  `Inv` ties the shared variables and the
calls in progress to epochs: what is stored or registered for a key belongs to the key's present
epoch, and what a call may still answer with belongs to an epoch no earlier than the call's start.

`answers_since_start` is the promise to callers.  `one_current_load` bounds the loads of the present
epoch by one; `two_loads_after_clear` shows why the epoch in which the leader registered decides,
and not the one in which its loader was called: a clear may fall between the two.
-/

namespace FwRouter.LiveProbe

variable {K V E : Type}

/-! ## What a phase refers to -/

/-- The flight whose loader produced what the result carries. -/
def Result.source : Result V E → Option ℕ
  | .value _ run | .error _ run => some run
  | .emptyHolder | .absent | .reentrantLoad | .cleared => none

/-- The flight of a call that is its leader, up to the section of the `finally` clause. -/
def Phase.leads : Phase V E → Option ℕ
  | .leading flight | .loading flight | .loaded flight _ _ _ | .sizing flight _ _
  | .leaving flight _ => some flight
  | .ready | .registering | .signalling _ _ | .waiting _ | .done _ => none

/-- The flight that the call waits for, or is about to load. -/
def Phase.expects : Phase V E → Option ℕ
  | .leading flight | .waiting flight => some flight
  | _ => none

/-- The flight whose loader the call has seen start. -/
def Phase.seen : Phase V E → Option ℕ
  | .loading flight | .loaded flight _ _ _ | .sizing flight _ _ => some flight
  | .leaving _ r | .signalling _ r | .done r => r.source
  | .ready | .registering | .leading _ | .waiting _ => none

/-- The flight whose loader run is in progress. -/
def Phase.running : Phase V E → Option ℕ
  | .loading flight => some flight
  | _ => none

/-- The key whose value the call is after. -/
def Op.key : Op K → Option K
  | .get key _ _ | .peek key => some key
  | .clear | .clearMatching _ => none

/-! ## The invariant -/

/-- A flight for `key`, registered in epoch `e` or later. -/
def World.FlightSince (w : World K V E) (key : K) (e flight : ℕ) : Prop :=
  ∃ f, w.flights[flight]? = some f ∧ f.key = key ∧ e ≤ f.epoch

/-- The loader of the flight has been called. -/
def World.Began (w : World K V E) (flight : ℕ) : Prop := (w.holder flight).began ≠ none

/-- What holds of the shared variables. -/
structure Shared (w : World K V E) : Prop where
  accounted : Accounted w.store
  entry : ∀ e ∈ w.store.entries, w.FlightSince e.key (w.epoch e.key) e.run ∧ w.Began e.run
  inflight : ∀ key flight, w.inflight key = some flight → w.FlightSince key (w.epoch key) flight
  flight_epoch : ∀ f ∈ w.flights, f.epoch ≤ w.epoch f.key
  began : ∀ flight e, (w.holder flight).began = some e →
    ∃ f, w.flights[flight]? = some f ∧ f.epoch ≤ e
  holder : ∀ flight, (w.holder flight).value ≠ none ∨ (w.holder flight).error ≠ none →
    w.Began flight

/-- What a call in progress may rely on. -/
structure Sound (w : World K V E) (c : Call K) (phase : Phase V E) : Prop where
  epoch : ∀ key, c.epoch key ≤ w.epoch key
  expects : ∀ flight ∈ phase.expects, ∃ key ∈ c.op.key, w.FlightSince key (c.epoch key) flight
  seen : ∀ flight ∈ phase.seen, ∃ key ∈ c.op.key, w.FlightSince key (c.epoch key) flight ∧
    w.Began flight

/-- Until a leader leaves, its flight is registered unless the key was cleared. -/
def World.LeaderAt (w : World K V E) (c : Call K) (flight : ℕ) : Prop :=
  ∃ key ∈ c.op.key, ∃ f, w.flights[flight]? = some f ∧ f.key = key ∧
    (f.epoch = w.epoch key → w.inflight key = some flight)

structure Inv (w : World K V E) : Prop where
  shared : Shared w
  sound : ∀ i c, w.calls[i]? = some c → Sound w c (w.phase i)
  leader : ∀ i c, w.calls[i]? = some c → ∀ flight ∈ (w.phase i).leads, w.LeaderAt c flight
  /-- A flight has one leader. -/
  unique : ∀ i j, i < w.calls.length → j < w.calls.length → ∀ flight ∈ (w.phase i).leads,
    flight ∈ (w.phase j).leads → i = j

/-! ## Steps of one call -/

/-- What a step of call `i` may do to the variables that other calls rely on. -/
structure Frame (i : ℕ) (w w' : World K V E) : Prop where
  calls : w'.calls = w.calls
  others : ∀ j ≠ i, w'.phase j = w.phase j
  flights : w.flights <+: w'.flights
  epoch : ∀ key, w.epoch key ≤ w'.epoch key
  began : ∀ flight, w.Began flight → w'.Began flight
  /-- A registered flight is detached by its own leader or by a clear. -/
  current : ∀ key flight, w.inflight key = some flight → flight ∉ (w.phase i).leads →
    w'.epoch key = w.epoch key → w'.inflight key = some flight

lemma getElem?_of_prefix {α : Type} {l l' : List α} (h : l <+: l') {i : ℕ} {a : α}
    (hget : l[i]? = some a) : l'[i]? = some a := by
  obtain ⟨rest, rfl⟩ := h
  rw [List.getElem?_append_left (List.getElem?_eq_some_iff.mp hget).1, hget]

lemma flightSince_mono {w w' : World K V E} (h : w.flights <+: w'.flights) {key : K} {e flight : ℕ}
    (hf : w.FlightSince key e flight) : w'.FlightSince key e flight := by
  obtain ⟨f, hget, hkey, he⟩ := hf
  exact ⟨f, getElem?_of_prefix h hget, hkey, he⟩

/-- **The rule for one step**: besides the shared variables only the stepping call has to be looked
at. -/
lemma Inv.step {i : ℕ} {c : Call K} {w w' : World K V E} (hw : Inv w) (hc : w.calls[i]? = some c)
    (hframe : Frame i w w') (hshared : Shared w') (hsound : Sound w' c (w'.phase i))
    (hleader : ∀ flight ∈ (w'.phase i).leads, w'.LeaderAt c flight)
    (hunique : ∀ flight ∈ (w'.phase i).leads,
      flight ∈ (w.phase i).leads ∨ w.flights.length ≤ flight) : Inv w' := by
  have hflightLt : ∀ j d, w.calls[j]? = some d → ∀ flight ∈ (w.phase j).leads,
      flight < w.flights.length := by
    intro j d hd flight hflight
    obtain ⟨key, -, f, hf, -⟩ := hw.leader j d hd flight hflight
    exact (List.getElem?_eq_some_iff.mp hf).1
  have hapart : ∀ j ≠ i, ∀ d, w.calls[j]? = some d → ∀ flight ∈ (w.phase j).leads,
      flight ∉ (w'.phase i).leads := by
    intro j hj d hd flight hflight hflight'
    have hjlt : j < w.calls.length := (List.getElem?_eq_some_iff.mp hd).1
    have hilt : i < w.calls.length := (List.getElem?_eq_some_iff.mp hc).1
    rcases hunique flight hflight' with hold | hfresh
    · exact hj (hw.unique j i hjlt hilt flight hflight hold)
    · exact absurd (hflightLt j d hd flight hflight) (not_lt.mpr hfresh)
  refine ⟨hshared, ?_, ?_, ?_⟩
  · intro j d hd
    rw [hframe.calls] at hd
    by_cases hj : j = i
    · subst hj
      obtain rfl : c = d := Option.some.inj (hc.symm.trans hd)
      exact hsound
    · obtain ⟨hepoch, hexpects, hseen⟩ := hw.sound j d hd
      rw [hframe.others j hj]
      refine ⟨fun key => (hepoch key).trans (hframe.epoch key), ?_, ?_⟩
      · intro flight hflight
        obtain ⟨key, hkey, hsince⟩ := hexpects flight hflight
        exact ⟨key, hkey, flightSince_mono hframe.flights hsince⟩
      · intro flight hflight
        obtain ⟨key, hkey, hsince, hbegan⟩ := hseen flight hflight
        exact ⟨key, hkey, flightSince_mono hframe.flights hsince, hframe.began flight hbegan⟩
  · intro j d hd flight hflight
    rw [hframe.calls] at hd
    by_cases hj : j = i
    · subst hj
      obtain rfl : c = d := Option.some.inj (hc.symm.trans hd)
      exact hleader flight hflight
    · rw [hframe.others j hj] at hflight
      obtain ⟨key, hkey, f, hf, hfkey, hcurrent⟩ := hw.leader j d hd flight hflight
      refine ⟨key, hkey, f, getElem?_of_prefix hframe.flights hf, hfkey, fun hepoch => ?_⟩
      -- the flight is of the present epoch, so no clear has come between
      have hle : f.epoch ≤ w.epoch key := hfkey ▸ hw.shared.flight_epoch f (List.mem_of_getElem? hf)
      have hsame : w'.epoch key = w.epoch key :=
        le_antisymm (hepoch ▸ hle) (hframe.epoch key)
      refine hframe.current key flight (hcurrent (hepoch.trans hsame)) ?_ hsame
      intro hmem
      have hjlt : j < w.calls.length := (List.getElem?_eq_some_iff.mp hd).1
      have hilt : i < w.calls.length := (List.getElem?_eq_some_iff.mp hc).1
      exact hj (hw.unique j i hjlt hilt flight hflight hmem)
  · intro j k hj hk flight hfj hfk
    rw [hframe.calls] at hj hk
    obtain ⟨d, hd⟩ : ∃ d, w.calls[j]? = some d := ⟨_, List.getElem?_eq_getElem hj⟩
    obtain ⟨d', hd'⟩ : ∃ d, w.calls[k]? = some d := ⟨_, List.getElem?_eq_getElem hk⟩
    by_cases hji : j = i <;> by_cases hki : k = i
    · exact hji.trans hki.symm
    · subst hji
      rw [hframe.others k hki] at hfk
      exact absurd hfj (hapart k hki d' hd' flight hfk)
    · subst hki
      rw [hframe.others j hji] at hfj
      exact absurd hfk (hapart j hji d hd flight hfj)
    · rw [hframe.others j hji] at hfj
      rw [hframe.others k hki] at hfk
      exact hw.unique j k hj hk flight hfj hfk

/-- The shared variables with another store. -/
lemma Shared.of_store {w : World K V E} (hw : Shared w) {store : Store K V}
    (haccounted : Accounted store)
    (hentry : ∀ e ∈ store.entries, w.FlightSince e.key (w.epoch e.key) e.run ∧ w.Began e.run) :
    Shared { w with store } where
  accounted := haccounted
  entry := hentry
  inflight := hw.inflight
  flight_epoch := hw.flight_epoch
  began := hw.began
  holder := hw.holder

lemma Shared.goto {w : World K V E} (hw : Shared w) (i : ℕ) (phase : Phase V E) :
    Shared (w.goto i phase) where
  accounted := hw.accounted
  entry := hw.entry
  inflight := hw.inflight
  flight_epoch := hw.flight_epoch
  began := hw.began
  holder := hw.holder

/-- A step that changes the store and the phase of its call. -/
lemma Frame.of_store (w : World K V E) (i : ℕ) (store : Store K V) (phase : Phase V E) :
    Frame i w ({ w with store }.goto i phase) where
  calls := rfl
  others _ hj := Function.update_of_ne hj _ _
  flights := List.prefix_rfl
  epoch _ := le_rfl
  began _ h := h
  current _ _ h _ _ := h

lemma sound_plain {w : World K V E} {c : Call K} {phase : Phase V E}
    (hepoch : ∀ key, c.epoch key ≤ w.epoch key) (hexpects : phase.expects = none)
    (hseen : phase.seen = none) : Sound w c phase :=
  ⟨hepoch, by rw [hexpects]; nofun, by rw [hseen]; nofun⟩

/-- The rule for a step that touches only the store. -/
lemma Inv.step_store {i : ℕ} {c : Call K} {w : World K V E} (hw : Inv w) (hc : w.calls[i]? = some c)
    {store : Store K V} {phase : Phase V E} (haccounted : Accounted store)
    (hentry : ∀ e ∈ store.entries, w.FlightSince e.key (w.epoch e.key) e.run ∧ w.Began e.run)
    (hsound : Sound w c phase) (hleads : ∀ flight ∈ phase.leads, flight ∈ (w.phase i).leads) :
    Inv ({ w with store }.goto i phase) := by
  have hphase : ({ w with store }.goto i phase).phase i = phase := Function.update_self ..
  refine hw.step hc (.of_store w i store phase)
    ((hw.shared.of_store haccounted hentry).goto i phase) ?_ ?_ ?_
  · rw [hphase]
    exact ⟨hsound.epoch, hsound.expects, hsound.seen⟩
  · intro flight hflight
    rw [hphase] at hflight
    exact hw.leader i c hc flight (hleads flight hflight)
  · intro flight hflight
    rw [hphase] at hflight
    exact .inl (hleads flight hflight)

/-- The rule for a step that touches only the holder of a flight. -/
lemma Inv.step_holder {i : ℕ} {c : Call K} {w : World K V E} (hw : Inv w) (hc : w.calls[i]? = some c)
    {flight : ℕ} {h : Holder V E} {phase : Phase V E}
    (hbegan : ∀ e, h.began = some e → ∃ f, w.flights[flight]? = some f ∧ f.epoch ≤ e)
    (hkept : w.Began flight → h.began ≠ none)
    (hholder : h.value ≠ none ∨ h.error ≠ none → h.began ≠ none)
    (hsound : Sound { w with holder := Function.update w.holder flight h } c phase)
    (hleads : ∀ flight ∈ phase.leads, flight ∈ (w.phase i).leads) :
    Inv ({ w with holder := Function.update w.holder flight h }.goto i phase) := by
  have hupdate : ∀ s, Function.update w.holder flight h s = if s = flight then h else w.holder s :=
    fun s => Function.update_apply ..
  have hkeeps : ∀ s, w.Began s →
      ({ w with holder := Function.update w.holder flight h }.goto i phase).Began s := by
    intro s hs
    show (Function.update w.holder flight h s).began ≠ none
    rw [hupdate]
    split_ifs with hsame
    · exact hkept (hsame ▸ hs)
    · exact hs
  have hphase : ({ w with holder := Function.update w.holder flight h }.goto i phase).phase i = phase :=
    Function.update_self ..
  refine hw.step hc ⟨rfl, fun _ hj => Function.update_of_ne hj _ _, List.prefix_rfl, fun _ => le_rfl,
    hkeeps, fun _ _ hcurrent _ _ => hcurrent⟩ ⟨hw.shared.accounted, ?_, hw.shared.inflight,
    hw.shared.flight_epoch, ?_, ?_⟩ ?_ ?_ ?_
  · intro e he
    obtain ⟨hsince, hrun⟩ := hw.shared.entry e he
    exact ⟨hsince, hkeeps e.run hrun⟩
  · intro s e he
    change (Function.update w.holder flight h s).began = some e at he
    rw [hupdate] at he
    split_ifs at he with hsame
    · subst hsame
      exact hbegan e he
    · exact hw.shared.began s e he
  · intro s hs
    change (Function.update w.holder flight h s).value ≠ none
      ∨ (Function.update w.holder flight h s).error ≠ none at hs
    rw [hupdate] at hs
    show (Function.update w.holder flight h s).began ≠ none
    rw [hupdate]
    split_ifs at hs ⊢ with hsame
    · exact hholder hs
    · exact hw.shared.holder s hs
  · rw [hphase]
    exact ⟨hsound.epoch, hsound.expects, hsound.seen⟩
  · intro s hs
    rw [hphase] at hs
    exact hw.leader i c hc s (hleads s hs)
  · intro s hs
    rw [hphase] at hs
    exact .inl (hleads s hs)

/-! ## The steps -/

variable [DecidableEq K]

/-- What a call finds in the store answers it. -/
lemma sound_found {w : World K V E} (hw : Shared w) {c : Call K} {key : K} {cached : Entry K V}
    {store : Store K V} (hepoch : ∀ key, c.epoch key ≤ w.epoch key) (hkey : c.op.key = some key)
    (hfind : store.find key = some cached) (hsub : ∀ e ∈ store.entries, e ∈ w.store.entries) :
    Sound w c (.done (.value cached.value cached.run)) := by
  obtain ⟨-, -, -, hcached, -⟩ := find_split hfind
  obtain ⟨⟨f, hf, hfkey, he⟩, hbegan⟩ :=
    hw.entry cached (hsub cached (List.mem_of_find?_eq_some hfind))
  refine ⟨hepoch, nofun, fun flight hflight => ?_⟩
  obtain rfl : cached.run = flight := Option.some.inj hflight
  rw [hcached] at hfkey he
  exact ⟨key, hkey, ⟨f, hf, hfkey, (hepoch key).trans he⟩, hbegan⟩

lemma Inv.lookup {i : ℕ} {c : Call K} {w : World K V E} (hw : Inv w) (hc : w.calls[i]? = some c)
    {key : K} (hkey : c.op.key = some key) : Inv (w.lookup i c key) := by
  have hepoch := (hw.sound i c hc).epoch
  have hswept := hw.shared.accounted.sweepExpired c.now (some key)
  unfold World.lookup
  dsimp only
  cases hfind : (w.store.sweepExpired c.now (some key)).find key with
  | none =>
      exact hw.step_store hc hswept (fun e he => hw.shared.entry e (mem_sweepExpired he))
        (sound_plain hepoch rfl rfl) nofun
  | some cached =>
      dsimp only
      split_ifs
      · exact hw.step_store hc (hswept.moveToEnd hfind)
          (fun e he => hw.shared.entry e (mem_sweepExpired (mem_moveToEnd hfind he)))
          (sound_found hw.shared hepoch hkey hfind fun _ he => mem_sweepExpired he) nofun
      · exact hw.step_store hc (hswept.remove key)
          (fun e he => hw.shared.entry e (mem_sweepExpired (mem_remove he)))
          (sound_plain hepoch rfl rfl) nofun

lemma Inv.peek {i : ℕ} {c : Call K} {w : World K V E} (hw : Inv w) (hc : w.calls[i]? = some c)
    {key : K} (hkey : c.op.key = some key) : Inv (w.peek i c key) := by
  have hepoch := (hw.sound i c hc).epoch
  have hswept := hw.shared.accounted.sweepExpired c.now (some key)
  unfold World.peek
  dsimp only
  cases hfind : (w.store.sweepExpired c.now (some key)).find key with
  | none =>
      exact hw.step_store hc hswept (fun e he => hw.shared.entry e (mem_sweepExpired he))
        (sound_plain hepoch rfl rfl) nofun
  | some cached =>
      dsimp only
      split_ifs
      · exact hw.step_store hc (hswept.remove key)
          (fun e he => hw.shared.entry e (mem_sweepExpired (mem_remove he)))
          (sound_plain hepoch rfl rfl) nofun
      · exact hw.step_store hc (hswept.moveToEnd hfind)
          (fun e he => hw.shared.entry e (mem_sweepExpired (mem_moveToEnd hfind he)))
          (sound_found hw.shared hepoch hkey hfind fun _ he => mem_sweepExpired he) nofun

lemma Inv.register {i : ℕ} {c : Call K} {w : World K V E} (hw : Inv w) (hc : w.calls[i]? = some c)
    {key : K} (hkey : c.op.key = some key) : Inv (w.register i c key) := by
  have hepoch := (hw.sound i c hc).epoch
  have hswept := hw.shared.accounted.sweepExpired c.now (some key)
  have hentry : ∀ e ∈ (w.store.sweepExpired c.now (some key)).entries,
      w.FlightSince e.key (w.epoch e.key) e.run ∧ w.Began e.run :=
    fun e he => hw.shared.entry e (mem_sweepExpired he)
  unfold World.register
  dsimp only
  cases hinflight : w.inflight key with
  | some flight =>
      obtain ⟨f, hf, hfkey, he⟩ := hw.shared.inflight key flight hinflight
      dsimp only
      split_ifs
      · exact hw.step_store hc hswept hentry (sound_plain hepoch rfl rfl) nofun
      · refine hw.step_store hc hswept hentry ⟨hepoch, ?_, nofun⟩ nofun
        rintro _ ⟨⟩
        exact ⟨key, hkey, f, hf, hfkey, (hepoch key).trans he⟩
  | none =>
      -- the call becomes the leader of a flight with a new number
      dsimp only
      set flight := w.flights.length with hflight
      set w' : World K V E := { w with
        store := w.store.sweepExpired c.now (some key)
        inflight := Function.update w.inflight key (some flight)
        flights := w.flights ++ [Flight.mk key c.thread (w.epoch key)] }.goto i (.leading flight)
        with hw'
      have hinitial : w.flights <+: w'.flights := List.prefix_append _ _
      have hnew : w'.flights[flight]? = some ⟨key, c.thread, w.epoch key⟩ := List.getElem?_concat_length
      have hphase : w'.phase i = .leading flight := Function.update_self ..
      refine hw.step hc ⟨rfl, fun _ hj => Function.update_of_ne hj _ _, hinitial, fun _ => le_rfl,
        fun _ h => h, ?_⟩ ⟨hswept, ?_, ?_, ?_, ?_, hw.shared.holder⟩ ?_ ?_ ?_
      · intro key' flight' hcurrent _ _
        have hne : key' ≠ key := fun h => by rw [h, hinflight] at hcurrent; cases hcurrent
        exact (Function.update_of_ne hne _ _).trans hcurrent
      · intro e he
        exact ⟨flightSince_mono hinitial (hentry e he).1, (hentry e he).2⟩
      · intro key' flight' hcurrent
        by_cases hsame : key' = key
        · subst hsame
          rw [show w'.inflight key' = some flight from Function.update_self ..] at hcurrent
          obtain rfl := Option.some.inj hcurrent
          exact ⟨_, hnew, rfl, le_rfl⟩
        · rw [show w'.inflight key' = w.inflight key' from Function.update_of_ne hsame _ _]
            at hcurrent
          exact flightSince_mono hinitial (hw.shared.inflight key' flight' hcurrent)
      · intro f hf
        rcases List.mem_append.mp hf with hf | hf
        · exact hw.shared.flight_epoch f hf
        · rw [List.mem_singleton.mp hf]
          exact le_rfl
      · intro s e he
        obtain ⟨f, hf, hle⟩ := hw.shared.began s e he
        exact ⟨f, getElem?_of_prefix hinitial hf, hle⟩
      · rw [hphase]
        refine ⟨hepoch, ?_, nofun⟩
        rintro _ ⟨⟩
        exact ⟨key, hkey, _, hnew, rfl, hepoch key⟩
      · rw [hphase]
        rintro _ ⟨⟩
        exact ⟨key, hkey, _, hnew, rfl, fun _ => Function.update_self ..⟩
      · rw [hphase]
        rintro _ ⟨⟩
        exact .inr le_rfl

omit [DecidableEq K] in
lemma Inv.beginLoad {i : ℕ} {c : Call K} {w : World K V E} (hw : Inv w) (hc : w.calls[i]? = some c)
    {key : K} (hkey : c.op.key = some key) {flight : ℕ} (hphase : w.phase i = .leading flight) :
    Inv (w.beginLoad i key flight) := by
  obtain ⟨hepoch, hexpects, -⟩ := hw.sound i c hc
  rw [hphase] at hexpects
  obtain ⟨key', hkey', hsince⟩ := hexpects flight rfl
  obtain rfl : key = key' := Option.some.inj (hkey.symm.trans hkey')
  obtain ⟨f, hf, hfkey, he⟩ := hsince
  refine hw.step_holder hc ?_ (fun _ => nofun) (fun _ => nofun) ⟨hepoch, nofun, ?_⟩ ?_
  · rintro _ ⟨⟩
    exact ⟨f, hf, hfkey ▸ hw.shared.flight_epoch f (List.mem_of_getElem? hf)⟩
  · rintro _ ⟨⟩
    refine ⟨key, hkey, ⟨f, hf, hfkey, he⟩, ?_⟩
    show (Function.update w.holder flight _ flight).began ≠ none
    rw [Function.update_self]
    nofun
  · rw [hphase]
    exact fun _ h => h

omit [DecidableEq K] in
lemma Inv.endLoad {i : ℕ} {c : Call K} {w : World K V E} (hw : Inv w) (hc : w.calls[i]? = some c)
    {flight : ℕ} (hphase : w.phase i = .loading flight) (ttlSeconds : ℚ) (input : Input V E) :
    Inv (w.endLoad i ttlSeconds flight input) := by
  obtain ⟨hepoch, -, hseen⟩ := hw.sound i c hc
  rw [hphase] at hseen
  obtain ⟨key, hkey, hsince, hbegan⟩ := hseen flight rfl
  have hkeeps : ∀ h : Holder V E, h.began = (w.holder flight).began →
      World.Began { w with holder := Function.update w.holder flight h } flight := by
    intro h hh
    show (Function.update w.holder flight h flight).began ≠ none
    rw [Function.update_self, hh]
    exact hbegan
  unfold World.endLoad
  cases input.load with
  | ok v =>
      refine hw.step_holder hc (hw.shared.began flight) (fun h => h) (fun _ => hbegan)
        ⟨hepoch, nofun, ?_⟩ ?_
      · rintro _ ⟨⟩
        exact ⟨key, hkey, hsince, hkeeps _ rfl⟩
      · rw [hphase]
        exact fun _ h => h
  | error e =>
      refine hw.step_holder hc (hw.shared.began flight) (fun h => h) (fun _ => hbegan)
        ⟨hepoch, nofun, ?_⟩ ?_
      · rintro _ ⟨⟩
        exact ⟨key, hkey, hsince, hkeeps _ rfl⟩
      · rw [hphase]
        exact fun _ h => h

omit [DecidableEq K] in
lemma Inv.decideSizing {i : ℕ} {c : Call K} {w : World K V E} (hw : Inv w)
    (hc : w.calls[i]? = some c) {flight : ℕ} {v : V} {finishedAt expiresAt : ℚ}
    (hphase : w.phase i = .loaded flight v finishedAt expiresAt) (key : K) :
    Inv (w.decideSizing i key flight v finishedAt expiresAt) := by
  obtain ⟨hepoch, -, hseen⟩ := hw.sound i c hc
  rw [hphase] at hseen
  unfold World.decideSizing
  split_ifs
  all_goals
    refine hw.step_store hc hw.shared.accounted hw.shared.entry
      ⟨hepoch, nofun, hseen⟩ ?_
    rw [hphase]
    exact fun _ h => h

lemma Inv.admitLoaded {i : ℕ} {c : Call K} {w : World K V E} (hw : Inv w)
    (hc : w.calls[i]? = some c) {flight : ℕ} {v : V} {expiresAt : ℚ}
    (hphase : w.phase i = .sizing flight v expiresAt) (key : K) (input : Input V E) :
    Inv (w.admitLoaded i key flight v expiresAt input) := by
  obtain ⟨hepoch, -, hseen⟩ := hw.sound i c hc
  rw [hphase] at hseen
  obtain ⟨-, -, -, hbegan⟩ := hseen flight rfl
  have hstore : ∀ store : Store K V, store = (if w.isCurrent key flight && decide (input.now < expiresAt)
      then (w.store.sweepExpired input.now none).admitEntry ⟨key, expiresAt, v, input.size, flight⟩
      else w.store) → Accounted store ∧
        ∀ e ∈ store.entries, w.FlightSince e.key (w.epoch e.key) e.run ∧ w.Began e.run := by
    rintro store rfl
    split_ifs with hcurrent
    · refine ⟨(hw.shared.accounted.sweepExpired input.now none).admitEntry _, fun e he => ?_⟩
      rcases mem_admitEntry he with he | rfl
      · exact hw.shared.entry e (mem_sweepExpired he)
      · have hregistered : w.inflight key = some flight :=
          of_decide_eq_true (Bool.and_eq_true_iff.mp hcurrent).1
        exact ⟨hw.shared.inflight key flight hregistered, hbegan⟩
    · exact ⟨hw.shared.accounted, hw.shared.entry⟩
  obtain ⟨haccounted, hentry⟩ := hstore _ rfl
  refine hw.step_store hc haccounted hentry ⟨hepoch, nofun, hseen⟩ ?_
  rw [hphase]
  exact fun _ h => h

lemma Inv.leave {i : ℕ} {c : Call K} {w : World K V E} (hw : Inv w) (hc : w.calls[i]? = some c)
    {flight : ℕ} {r : Result V E} (hphase : w.phase i = .leaving flight r) (key : K) :
    Inv (w.leave i key flight r) := by
  obtain ⟨hepoch, -, hseen⟩ := hw.sound i c hc
  rw [hphase] at hseen
  have hinflight : ∀ key' flight', (w.leave i key flight r).inflight key' = some flight' →
      w.inflight key' = some flight' := by
    intro key' flight' h
    change (if _ then _ else _ : K → Option ℕ) key' = _ at h
    split_ifs at h
    · by_cases hsame : key' = key
      · rw [hsame, Function.update_self] at h
        cases h
      · rwa [Function.update_of_ne hsame] at h
    · exact h
  have hafter : (w.leave i key flight r).phase i = .signalling flight r := Function.update_self ..
  refine hw.step hc ⟨rfl, fun _ hj => Function.update_of_ne hj _ _, List.prefix_rfl,
    fun _ => le_rfl, fun _ h => h, ?_⟩ ⟨hw.shared.accounted, hw.shared.entry,
    fun key' flight' h => hw.shared.inflight key' flight' (hinflight key' flight' h),
    hw.shared.flight_epoch, hw.shared.began, hw.shared.holder⟩ ?_ ?_ ?_
  · intro key' flight' hregistered hother _
    rw [hphase] at hother
    show (if _ then _ else _ : K → Option ℕ) key' = _
    split_ifs with hcurrent
    · have hne : key' ≠ key := by
        rintro rfl
        have hown : w.inflight key' = some flight := of_decide_eq_true hcurrent
        exact hother (hown.symm.trans hregistered)
      exact (Function.update_of_ne hne _ _).trans hregistered
    · exact hregistered
  · rw [hafter]
    exact ⟨hepoch, nofun, hseen⟩
  · rw [hafter]
    nofun
  · rw [hafter]
    nofun

omit [DecidableEq K] in
lemma Inv.signal {i : ℕ} {c : Call K} {w : World K V E} (hw : Inv w) (hc : w.calls[i]? = some c)
    {flight : ℕ} {r : Result V E} (hphase : w.phase i = .signalling flight r) :
    Inv (w.signal i flight r) := by
  obtain ⟨hepoch, -, hseen⟩ := hw.sound i c hc
  rw [hphase] at hseen
  refine hw.step_holder hc (hw.shared.began flight) (fun h => h) (hw.shared.holder flight)
    ⟨hepoch, nofun, fun s hs => ?_⟩ nofun
  obtain ⟨key, hkey, hsince, hbegan⟩ := hseen s hs
  refine ⟨key, hkey, hsince, ?_⟩
  show (Function.update w.holder flight _ s).began ≠ none
  by_cases hsame : s = flight
  · rw [hsame, Function.update_self]
    exact hsame ▸ hbegan
  · rw [Function.update_of_ne hsame]
    exact hbegan

omit [DecidableEq K] in
lemma Inv.await {i : ℕ} {c : Call K} {w : World K V E} (hw : Inv w) (hc : w.calls[i]? = some c)
    {flight : ℕ} (hphase : w.phase i = .waiting flight) : Inv (w.await i flight) := by
  obtain ⟨hepoch, hexpects, -⟩ := hw.sound i c hc
  rw [hphase] at hexpects
  obtain ⟨key, hkey, hsince⟩ := hexpects flight rfl
  have hdone : ∀ r : Result V E, (∀ s ∈ r.source, s = flight ∧ w.Began flight) →
      Inv (w.goto i (.done r)) := by
    intro r hr
    refine hw.step_store hc hw.shared.accounted hw.shared.entry
      ⟨hepoch, nofun, fun s hs => ?_⟩ nofun
    obtain ⟨rfl, hbegan⟩ := hr s hs
    exact ⟨key, hkey, hsince, hbegan⟩
  unfold World.await
  dsimp only
  split_ifs
  · cases herror : (w.holder flight).error with
    | some e =>
        refine hdone _ ?_
        rintro _ ⟨⟩
        exact ⟨rfl, hw.shared.holder flight (.inr (herror ▸ nofun))⟩
    | none =>
        cases hvalue : (w.holder flight).value with
        | some v =>
            refine hdone _ ?_
            rintro _ ⟨⟩
            exact ⟨rfl, hw.shared.holder flight (.inl (hvalue ▸ nofun))⟩
        | none => exact hdone _ nofun
  · exact hw

/-! ## Clears -/

omit [DecidableEq K] in
lemma Inv.clear {i : ℕ} {c : Call K} {w : World K V E} (hw : Inv w) (hc : w.calls[i]? = some c) :
    Inv (w.clear.goto i (.done .cleared)) := by
  have hphase : (w.clear.goto i (.done .cleared)).phase i = .done .cleared := Function.update_self ..
  refine hw.step hc ⟨rfl, fun _ hj => Function.update_of_ne hj _ _, List.prefix_rfl,
    fun key => Nat.le_succ _, fun _ h => h, ?_⟩ ⟨accounted_empty, nofun, nofun, ?_,
    hw.shared.began, hw.shared.holder⟩ ?_ ?_ ?_
  · intro key flight _ _ hsame
    exact absurd hsame (Nat.succ_ne_self _)
  · intro f hf
    exact (hw.shared.flight_epoch f hf).trans (Nat.le_succ _)
  · rw [hphase]
    exact sound_plain (fun key => ((hw.sound i c hc).epoch key).trans (Nat.le_succ _)) rfl rfl
  · rw [hphase]
    nofun
  · rw [hphase]
    nofun

lemma Inv.clearMatching {i : ℕ} {c : Call K} {w : World K V E} (hw : Inv w)
    (hc : w.calls[i]? = some c) (predicate : K → Bool) :
    Inv ((w.clearMatching predicate).goto i (.done .cleared)) := by
  have hphase : ((w.clearMatching predicate).goto i (.done .cleared)).phase i = .done .cleared :=
    Function.update_self ..
  have hepoch : ∀ key, w.epoch key ≤ (w.clearMatching predicate).epoch key := by
    intro key
    show _ ≤ if predicate key then w.epoch key + 1 else w.epoch key
    split_ifs
    · exact Nat.le_succ _
    · exact le_rfl
  -- what is left belongs to keys that were not cleared
  have hspared : ∀ key, predicate key = false →
      (w.clearMatching predicate).epoch key = w.epoch key := by
    intro key hkey
    show (if predicate key then w.epoch key + 1 else w.epoch key) = _
    rw [hkey]
    rfl
  refine hw.step hc ⟨rfl, fun _ hj => Function.update_of_ne hj _ _, List.prefix_rfl, hepoch,
    fun _ h => h, ?_⟩ ⟨hw.shared.accounted.clearMatching predicate, ?_, ?_, ?_, hw.shared.began,
    hw.shared.holder⟩ ?_ ?_ ?_
  · intro key flight hregistered _ hsame
    show (if predicate key then none else w.inflight key) = _
    split_ifs with hkey
    · change (if predicate key then w.epoch key + 1 else w.epoch key) = _ at hsame
      rw [if_pos hkey] at hsame
      exact absurd hsame (Nat.succ_ne_self _)
    · exact hregistered
  · intro e he
    obtain ⟨hmem, hkey⟩ := mem_clearMatching hw.shared.accounted he
    obtain ⟨⟨f, hf, hfkey, hle⟩, hbegan⟩ := hw.shared.entry e hmem
    exact ⟨⟨f, hf, hfkey, (hspared e.key hkey).trans_le hle⟩, hbegan⟩
  · intro key flight hregistered
    change (if predicate key then none else w.inflight key) = _ at hregistered
    split_ifs at hregistered with hkey
    obtain ⟨f, hf, hfkey, hle⟩ := hw.shared.inflight key flight hregistered
    exact ⟨f, hf, hfkey, (hspared key (Bool.eq_false_iff.mpr hkey)).trans_le hle⟩
  · intro f hf
    exact (hw.shared.flight_epoch f hf).trans (hepoch f.key)
  · rw [hphase]
    exact sound_plain (fun key => ((hw.sound i c hc).epoch key).trans (hepoch key)) rfl rfl
  · rw [hphase]
    nofun
  · rw [hphase]
    nofun

/-! ## Interleavings -/

omit [DecidableEq K] in
lemma leads_start (op : Op K) : (op.start : Phase V E).leads = none ∧
    (op.start : Phase V E).expects = none ∧ (op.start : Phase V E).seen = none := by
  unfold Op.start
  split <;> exact ⟨rfl, rfl, rfl⟩

omit [DecidableEq K] in
lemma Inv.begin {w : World K V E} (hw : Inv w) (op : Op K) (thread : ℕ) (now : ℚ) :
    Inv ({ w with calls := w.calls ++ [Call.mk op thread now w.epoch] }.goto w.calls.length
      op.start) := by
  obtain ⟨hleads, hexpects, hseen⟩ := leads_start (V := V) (E := E) op
  set w' := { w with calls := w.calls ++ [Call.mk op thread now w.epoch] }.goto w.calls.length
    op.start
  have hnew : w'.phase w.calls.length = op.start := Function.update_self ..
  have hold : ∀ j < w.calls.length, w'.phase j = w.phase j :=
    fun j hj => Function.update_of_ne hj.ne _ _
  have hcall : ∀ j d, w'.calls[j]? = some d → (j < w.calls.length ∧ w.calls[j]? = some d)
      ∨ (j = w.calls.length ∧ d = ⟨op, thread, now, w.epoch⟩) := by
    intro j d hd
    change (w.calls ++ [Call.mk op thread now w.epoch])[j]? = some d at hd
    rcases lt_or_ge j w.calls.length with hlt | hge
    · rw [List.getElem?_append_left hlt] at hd
      exact .inl ⟨hlt, hd⟩
    · rw [List.getElem?_append_right hge] at hd
      obtain ⟨hindex, hget⟩ := List.getElem?_eq_some_iff.mp hd
      have hzero : j - w.calls.length = 0 := by simpa using hindex
      refine .inr ⟨by omega, ?_⟩
      simp only [hzero] at hget
      exact hget.symm
  refine ⟨⟨hw.shared.accounted, hw.shared.entry, hw.shared.inflight, hw.shared.flight_epoch,
    hw.shared.began, hw.shared.holder⟩, ?_, ?_, ?_⟩
  · intro j d hd
    rcases hcall j d hd with ⟨hlt, hd⟩ | ⟨rfl, rfl⟩
    · rw [hold j hlt]
      obtain ⟨hepoch, hexp, hsn⟩ := hw.sound j d hd
      exact ⟨hepoch, hexp, hsn⟩
    · rw [hnew]
      exact sound_plain (fun _ => le_rfl) hexpects hseen
  · intro j d hd flight hflight
    rcases hcall j d hd with ⟨hlt, hd⟩ | ⟨rfl, rfl⟩
    · rw [hold j hlt] at hflight
      exact hw.leader j d hd flight hflight
    · rw [hnew, hleads] at hflight
      cases hflight
  · intro j k hj hk flight hfj hfk
    have hlast : ∀ j, j < w'.calls.length → flight ∈ (w'.phase j).leads → j < w.calls.length := by
      intro j hj hflight
      have hj : j < w.calls.length + 1 := by simpa [w', World.goto] using hj
      rcases Nat.lt_succ_iff_lt_or_eq.mp hj with hlt | rfl
      · exact hlt
      · rw [hnew, hleads] at hflight
        cases hflight
    have hjlt := hlast j hj hfj
    have hklt := hlast k hk hfk
    rw [hold j hjlt] at hfj
    rw [hold k hklt] at hfk
    exact hw.unique j k hjlt hklt flight hfj hfk

lemma Inv.stepGet {i : ℕ} {c : Call K} {w : World K V E} (hw : Inv w) (hc : w.calls[i]? = some c)
    {key : K} (hkey : c.op.key = some key) (ttlSeconds : ℚ) (input : Input V E) :
    Inv (w.stepGet i c key ttlSeconds input) := by
  unfold World.stepGet
  cases hphase : w.phase i with
  | ready => exact hw.lookup hc hkey
  | registering => exact hw.register hc hkey
  | leading flight => exact hw.beginLoad hc hkey hphase
  | loading flight => exact hw.endLoad hc hphase ttlSeconds input
  | loaded flight v finishedAt expiresAt => exact hw.decideSizing hc hphase key
  | sizing flight v expiresAt => exact hw.admitLoaded hc hphase key input
  | leaving flight r => exact hw.leave hc hphase key
  | signalling flight r => exact hw.signal hc hphase
  | waiting flight => exact hw.await hc hphase
  | done r => exact hw

lemma Inv.label {w : World K V E} (hw : Inv w) (label : Label K V E) :
    Inv (LiveProbe.step w label) := by
  cases label with
  | begin op thread now => exact hw.begin op thread now
  | step i input =>
      show Inv ((w.calls[i]?).elim w fun c => w.stepCall i c input)
      cases hc : w.calls[i]? with
      | none => exact hw
      | some c =>
          show Inv (w.stepCall i c input)
          unfold World.stepCall
          split
          next hop => exact hw.stepGet hc (by rw [hop]; rfl) _ input
          next hop _ => exact hw.peek hc (by rw [hop]; rfl)
          next => exact hw.clear hc
          next predicate _ _ => exact hw.clearMatching hc predicate
          next => exact hw

omit [DecidableEq K] in
lemma inv_initial : Inv (World.initial : World K V E) :=
  ⟨⟨accounted_empty, nofun, nofun, nofun, nofun, by rintro _ (h | h) <;> exact absurd rfl h⟩, nofun,
    nofun, nofun⟩

lemma inv_run (labels : List (Label K V E)) : Inv (run labels) :=
  List.foldlRecOn labels step (motive := Inv) inv_initial fun _ hw label _ => hw.label label

/-! ## What clears guarantee -/

omit [DecidableEq K] in
lemma leads_of_running {phase : Phase V E} {flight : ℕ} (h : phase.running = some flight) :
    phase.leads = some flight := by
  cases phase <;> simp_all [Phase.running, Phase.leads]

/-- **Invalidation is not undone by loads in flight.**  Whatever a call returns or raises from a
loader comes from a run of its own key that began in an epoch no earlier than the call's start; and of
the loader runs in progress for a key at most one belongs to a flight that was registered in the
present epoch, that is, after the last clear that hit the key. -/
theorem loads_respect_clears (labels : List (Label K V E)) :
    (∀ i c key r s, (run labels).calls[i]? = some c → c.op.key = some key →
      (run labels).phase i = .done r → r.source = some s →
        (∃ f, (run labels).flights[s]? = some f ∧ f.key = key) ∧
        ∃ e, ((run labels).holder s).began = some e ∧ c.epoch key ≤ e) ∧
    (∀ i j s t f g, i < (run labels).calls.length → j < (run labels).calls.length →
      ((run labels).phase i).running = some s → ((run labels).phase j).running = some t →
      (run labels).flights[s]? = some f → (run labels).flights[t]? = some g → f.key = g.key →
      f.epoch = (run labels).epoch f.key → g.epoch = (run labels).epoch g.key → i = j) := by
  have hinv := inv_run labels
  constructor
  · intro i c key r s hc hkey hdone hs
    obtain ⟨key', hkey', ⟨f, hf, hfkey, hle⟩, hbegan⟩ :=
      (hinv.sound i c hc).seen s (by rw [hdone]; exact hs)
    obtain rfl : key = key' := Option.some.inj (hkey.symm.trans hkey')
    obtain ⟨e, he⟩ := Option.ne_none_iff_exists'.mp hbegan
    obtain ⟨f', hf', hbefore⟩ := hinv.shared.began s e he
    obtain rfl : f = f' := Option.some.inj (hf.symm.trans hf')
    exact ⟨⟨f, hf, hfkey⟩, e, he, hle.trans hbefore⟩
  · intro i j s t f g hi hj hs ht hf hg hsame hfe hge
    have hcurrent : ∀ k u h, k < (run labels).calls.length → ((run labels).phase k).running = some u →
        (run labels).flights[u]? = some h → h.epoch = (run labels).epoch h.key →
        (run labels).inflight h.key = some u := by
      intro k u h hk hu hh he
      obtain ⟨key, -, h', hh', hkey, hregistered⟩ :=
        hinv.leader k _ (List.getElem?_eq_getElem hk) u (leads_of_running hu)
      obtain rfl : h = h' := Option.some.inj (hh.symm.trans hh')
      subst hkey
      exact hregistered he
    have hst : some s = some t := by
      rw [← hcurrent i s f hi hs hf hfe, ← hcurrent j t g hj ht hg hge, hsame]
    obtain rfl := Option.some.inj hst
    exact hinv.unique i j hi hj s (leads_of_running hs) (leads_of_running ht)

/-- Call `0` registers its flight; a clear comes before it calls its loader; call `2` registers
another flight and calls its loader too. -/
def exampleRace : List (Label ℕ ℕ ℕ) :=
  [.begin (.get 7 5 false) 0 0, .step 0 ⟨0, .ok 1, 10⟩, .step 0 ⟨0, .ok 1, 10⟩,
    .begin .clear 1 0, .step 1 ⟨0, .ok 1, 10⟩, .step 0 ⟨0, .ok 1, 10⟩,
    .begin (.get 7 5 false) 1 0, .step 2 ⟨0, .ok 2, 10⟩, .step 2 ⟨0, .ok 2, 10⟩,
    .step 2 ⟨0, .ok 2, 10⟩]

/-- Two loader runs for one key are in progress, and both began after the last clear. -/
theorem two_loads_after_clear :
    ((run exampleRace).phase 0).running = some 0 ∧ ((run exampleRace).phase 2).running = some 1 ∧
      ((run exampleRace).flights.map Flight.key) = [7, 7] ∧ (run exampleRace).epoch 7 = 1 ∧
      ((run exampleRace).holder 0).began = some 1 ∧ ((run exampleRace).holder 1).began = some 1 := by
  decide +kernel

/-- The race, run to the end of both calls, and a call that starts after it. -/
def exampleRaceDone : List (Label ℕ ℕ ℕ) :=
  exampleRace ++ List.replicate 5 (.step 0 ⟨0, .ok 1, 10⟩) ++ List.replicate 5 (.step 2 ⟨0, .ok 2, 10⟩)
    ++ [.begin (.get 7 5 false) 0 1, .step 3 ⟨1, .ok 3, 10⟩]

/-- The later call returns the value of the flight that was registered after the clear. -/
theorem loads_respect_clears_race :
    (∃ c, (run exampleRaceDone).calls[3]? = some c ∧ c.op.key = some 7 ∧ c.epoch 7 = 1) ∧
      ∃ e, ((run exampleRaceDone).holder 1).began = some e ∧ 1 ≤ e := by
  obtain ⟨c, hc, hkey, hepoch⟩ : ∃ c, (run exampleRaceDone).calls[3]? = some c ∧
      c.op.key = some 7 ∧ c.epoch 7 = 1 := by
    refine ⟨_, List.getElem?_eq_getElem (i := 3) (by decide +kernel), ?_⟩
    decide +kernel
  have hdone : (run exampleRaceDone).phase 3 = .done (.value 2 1) := by
    decide +kernel
  obtain ⟨-, e, he, hle⟩ := (loads_respect_clears exampleRaceDone).1 3 c 7 _ 1 hc hkey hdone rfl
  exact ⟨⟨c, hc, hkey, hepoch⟩, e, he, hepoch.symm.trans_le hle⟩

end FwRouter.LiveProbe
