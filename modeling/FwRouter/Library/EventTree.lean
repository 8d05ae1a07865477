import Mathlib

/-!
# Trees as streams of events

A tree of sequences and mappings is written as a flat list of events: a leaf is one event, a
collection a start event, its parts in order and a finish event.  A mapping's parts are its keys and
values, one after the other.

A reader of such a stream holds the collections it has not finished, innermost first.  `Reading` is
that reader: what it holds after a list of events always writes out to that list (`Reading.run`), so
a list that it reads as one complete tree is the stream of that tree.
-/

namespace EventTree

/-! ## Trees and their events -/

inductive Kind where
  | sequence
  | mapping
deriving DecidableEq

/-- A tree with leaves in `α` and collections labelled in `β`. -/
inductive Tree (α β : Type) where
  | leaf (a : α)
  | sequence (b : β) (items : List (Tree α β))
  | mapping (b : β) (entries : List (Tree α β × Tree α β))

inductive Event (α β : Type) where
  | leaf (a : α)
  | start (kind : Kind) (b : β)
  | finish (kind : Kind)

variable {α β : Type}

mutual

/-- The events of a tree. -/
def Tree.events : Tree α β → List (Event α β)
  | .leaf a => [.leaf a]
  | .sequence b items => .start .sequence b :: (eventsOfItems items ++ [.finish .sequence])
  | .mapping b entries => .start .mapping b :: (eventsOfEntries entries ++ [.finish .mapping])

def eventsOfItems : List (Tree α β) → List (Event α β)
  | [] => []
  | t :: items => t.events ++ eventsOfItems items

def eventsOfEntries : List (Tree α β × Tree α β) → List (Event α β)
  | [] => []
  | (k, v) :: entries => k.events ++ (v.events ++ eventsOfEntries entries)

end

mutual

/-- The nodes of a tree whose root is at the given depth, each with its depth. -/
def Tree.nodes (depth : ℕ) : Tree α β → List (ℕ × Tree α β)
  | .leaf a => [(depth, .leaf a)]
  | .sequence b items => (depth, .sequence b items) :: nodesOfItems (depth + 1) items
  | .mapping b entries => (depth, .mapping b entries) :: nodesOfEntries (depth + 1) entries

def nodesOfItems (depth : ℕ) : List (Tree α β) → List (ℕ × Tree α β)
  | [] => []
  | t :: items => t.nodes depth ++ nodesOfItems depth items

def nodesOfEntries (depth : ℕ) : List (Tree α β × Tree α β) → List (ℕ × Tree α β)
  | [] => []
  | (k, v) :: entries => k.nodes depth ++ (v.nodes depth ++ nodesOfEntries depth entries)

end

lemma eventsOfItems_append (items more : List (Tree α β)) :
    eventsOfItems (items ++ more) = eventsOfItems items ++ eventsOfItems more := by
  induction items with
  | nil => rfl
  | cons t items ih => rw [List.cons_append, eventsOfItems, eventsOfItems, ih, List.append_assoc]

lemma eventsOfEntries_append (entries more : List (Tree α β × Tree α β)) :
    eventsOfEntries (entries ++ more) = eventsOfEntries entries ++ eventsOfEntries more := by
  induction entries with
  | nil => rfl
  | cons e entries ih =>
      obtain ⟨k, v⟩ := e
      simp only [List.cons_append, eventsOfEntries, ih, List.append_assoc]

/-! ## Balance -/

def Event.isStart : Event α β → Bool
  | .start _ _ => true
  | _ => false

def Event.isFinish : Event α β → Bool
  | .finish _ => true
  | _ => false

/-- As many collections are finished as are started. -/
def Balanced (events : List (Event α β)) : Prop :=
  events.countP Event.isStart = events.countP Event.isFinish

mutual

lemma Tree.balanced : ∀ t : Tree α β, Balanced t.events
  | .leaf _ => rfl
  | .sequence b items => by
      have := balanced_items items
      simp only [Balanced, Tree.events, List.countP_cons, List.countP_append, List.countP_nil,
        Event.isStart, Event.isFinish, Bool.false_eq_true, if_true, if_false] at this ⊢
      omega
  | .mapping b entries => by
      have := balanced_entries entries
      simp only [Balanced, Tree.events, List.countP_cons, List.countP_append, List.countP_nil,
        Event.isStart, Event.isFinish, Bool.false_eq_true, if_true, if_false] at this ⊢
      omega

lemma balanced_items : ∀ items : List (Tree α β), Balanced (eventsOfItems items)
  | [] => rfl
  | t :: items => by
      have hfirst := Tree.balanced t
      have hrest := balanced_items items
      simp only [Balanced, eventsOfItems, List.countP_append] at hfirst hrest ⊢
      omega

lemma balanced_entries : ∀ entries : List (Tree α β × Tree α β), Balanced (eventsOfEntries entries)
  | [] => rfl
  | (k, v) :: entries => by
      have hkey := Tree.balanced k
      have hvalue := Tree.balanced v
      have hrest := balanced_entries entries
      simp only [Balanced, eventsOfEntries, List.countP_append] at hkey hvalue hrest ⊢
      omega

end

/-! ## Reading a stream -/

/-- A collection that has been started and not finished; a mapping may have a key that waits for its
value. -/
inductive Partial (α β : Type) where
  | sequence (b : β) (items : List (Tree α β))
  | mapping (b : β) (entries : List (Tree α β × Tree α β)) (key : Option (Tree α β))

namespace Partial

def kind : Partial α β → Kind
  | .sequence _ _ => .sequence
  | .mapping _ _ _ => .mapping

def start (b : β) : Kind → Partial α β
  | .sequence => .sequence b []
  | .mapping => .mapping b [] none

/-- No key waits for its value. -/
def Even : Partial α β → Prop
  | .sequence _ _ => True
  | .mapping _ _ key => key = none

/-- The collection with one more part. -/
def add (t : Tree α β) : Partial α β → Partial α β
  | .sequence b items => .sequence b (items ++ [t])
  | .mapping b entries none => .mapping b entries (some t)
  | .mapping b entries (some k) => .mapping b (entries ++ [(k, t)]) none

/-- The finished collection. -/
def finish : Partial α β → Option (Tree α β)
  | .sequence b items => some (.sequence b items)
  | .mapping b entries none => some (.mapping b entries)
  | .mapping _ _ (some _) => none

def events : Partial α β → List (Event α β)
  | .sequence b items => .start .sequence b :: eventsOfItems items
  | .mapping b entries none => .start .mapping b :: eventsOfEntries entries
  | .mapping b entries (some k) => .start .mapping b :: (eventsOfEntries entries ++ k.events)

/-- A part that comes now completes an item or an entry. -/
def AwaitsValue : Partial α β → Prop
  | .sequence _ _ => True
  | .mapping _ _ key => key ≠ none

lemma kind_start (b : β) (kind : Kind) : (start b kind : Partial α β).kind = kind := by
  cases kind with
  | sequence => rfl
  | mapping => rfl

lemma even_start (b : β) (kind : Kind) : (start b kind : Partial α β).Even := by
  cases kind with
  | sequence => trivial
  | mapping => rfl

lemma kind_add (t : Tree α β) (p : Partial α β) : (p.add t).kind = p.kind := by
  match p with
  | .sequence b items => rfl
  | .mapping b entries none => rfl
  | .mapping b entries (some k) => rfl

lemma even_add (t : Tree α β) {p : Partial α β} (h : p.AwaitsValue) : (p.add t).Even := by
  match p with
  | .sequence b items => trivial
  | .mapping b entries none => exact absurd rfl h
  | .mapping b entries (some k) => rfl

lemma events_start (b : β) (kind : Kind) : (start b kind : Partial α β).events = [.start kind b] := by
  cases kind with
  | sequence => rfl
  | mapping => rfl

lemma events_add (t : Tree α β) (p : Partial α β) : (p.add t).events = p.events ++ t.events := by
  match p with
  | .sequence b items =>
      simp only [add, events, eventsOfItems_append, eventsOfItems, List.append_nil, List.cons_append]
  | .mapping b entries none => rfl
  | .mapping b entries (some k) =>
      simp only [add, events, eventsOfEntries_append, eventsOfEntries, List.append_nil,
        List.cons_append, List.append_assoc]

lemma events_finish {p : Partial α β} {t : Tree α β} (h : p.finish = some t) :
    t.events = p.events ++ [.finish p.kind] := by
  match p with
  | .sequence b items =>
      obtain rfl := Option.some.inj h
      rfl
  | .mapping b entries none =>
      obtain rfl := Option.some.inj h
      rfl

lemma exists_finish {p : Partial α β} (h : p.Even) : ∃ t, p.finish = some t := by
  match p with
  | .sequence b items => exact ⟨_, rfl⟩
  | .mapping b entries none => exact ⟨_, rfl⟩

end Partial

/-- In a collection that is not finished one start event is left over. -/
lemma Partial.countP_events (p : Partial α β) :
    p.events.countP Event.isStart = p.events.countP Event.isFinish + 1 := by
  match p with
  | .sequence b items =>
      have hitems := balanced_items items
      simp only [Balanced, Partial.events, List.countP_cons, Event.isStart, Event.isFinish,
        Bool.false_eq_true, if_true, if_false] at hitems ⊢
      omega
  | .mapping b entries none =>
      have hentries := balanced_entries entries
      simp only [Balanced, Partial.events, List.countP_cons, Event.isStart, Event.isFinish,
        Bool.false_eq_true, if_true, if_false] at hentries ⊢
      omega
  | .mapping b entries (some k) =>
      have hentries := balanced_entries entries
      have hkey := k.balanced
      simp only [Balanced, Partial.events, List.countP_cons, List.countP_append, Event.isStart,
        Event.isFinish, Bool.false_eq_true, if_true, if_false] at hentries hkey ⊢
      omega

/-- What a reader has made of the events so far. -/
inductive Reading (α β : Type) where
  | nothing
  | inside (p : Partial α β) (outer : List (Partial α β))
  | complete (t : Tree α β)

namespace Reading

/-- A finished part goes to the collection around it. -/
def place (t : Tree α β) : List (Partial α β) → Reading α β
  | [] => .complete t
  | p :: outer => .inside (p.add t) outer

/-- One event. -/
def step : Reading α β → Event α β → Option (Reading α β)
  | .nothing, .leaf a => some (.complete (.leaf a))
  | .nothing, .start kind b => some (.inside (.start b kind) [])
  | .inside p outer, .leaf a => some (.inside (p.add (.leaf a)) outer)
  | .inside p outer, .start kind b => some (.inside (.start b kind) (p :: outer))
  | .inside p outer, .finish kind =>
      if p.kind = kind then p.finish.map fun t => place t outer else none
  | _, _ => none

/-- What has been read, written out again. -/
def events : Reading α β → List (Event α β)
  | .nothing => []
  | .inside p outer => outer.reverse.flatMap Partial.events ++ p.events
  | .complete t => t.events

lemma events_place (t : Tree α β) (outer : List (Partial α β)) :
    (place t outer).events = outer.reverse.flatMap Partial.events ++ t.events := by
  cases outer with
  | nil => rfl
  | cons p outer =>
      simp only [place, events, Partial.events_add, List.reverse_cons, List.flatMap_append,
        List.flatMap_cons, List.flatMap_nil, List.append_nil, List.append_assoc]

lemma events_step {r r' : Reading α β} {e : Event α β} (h : r.step e = some r') :
    r'.events = r.events ++ [e] := by
  match r, e with
  | .nothing, .leaf a =>
      obtain rfl := Option.some.inj h
      rfl
  | .nothing, .start kind b =>
      obtain rfl := Option.some.inj h
      exact Partial.events_start b kind
  | .inside p outer, .leaf a =>
      obtain rfl := Option.some.inj h
      rw [events, events, Partial.events_add, Tree.events, List.append_assoc]
  | .inside p outer, .start kind b =>
      obtain rfl := Option.some.inj h
      simp only [events, Partial.events_start, List.reverse_cons, List.flatMap_append,
        List.flatMap_cons, List.flatMap_nil, List.append_nil]
  | .inside p outer, .finish kind =>
      rw [step] at h
      split_ifs at h with hkind
      obtain ⟨t, ht, rfl⟩ := Option.map_eq_some_iff.mp h
      rw [events_place, Partial.events_finish ht, hkind, events, List.append_assoc]

/-- **What has been read is what was written.** -/
theorem run {es : List (Event α β)} {r r' : Reading α β} (h : es.foldlM step r = some r') :
    r'.events = r.events ++ es := by
  induction es generalizing r with
  | nil =>
      obtain rfl := Option.some.inj h
      exact (List.append_nil _).symm
  | cons e es ih =>
      rw [List.foldlM_cons] at h
      obtain ⟨r₁, hfirst, hrest⟩ := Option.bind_eq_some_iff.mp h
      rw [ih hrest, events_step hfirst, List.append_assoc]
      rfl

/-- The events balance exactly when the reader is inside of no collection. -/
theorem balanced_events_iff (r : Reading α β) :
    Balanced r.events ↔ ∀ p outer, r ≠ .inside p outer := by
  match r with
  | .nothing => exact ⟨fun _ => nofun, fun _ => rfl⟩
  | .complete t => exact ⟨fun _ => nofun, fun _ => t.balanced⟩
  | .inside p outer =>
      refine ⟨fun hbalanced => absurd hbalanced ?_, fun h => absurd rfl (h p outer)⟩
      have houter : ∀ ps : List (Partial α β), (ps.flatMap Partial.events).countP Event.isFinish ≤
          (ps.flatMap Partial.events).countP Event.isStart := by
        intro ps
        induction ps with
        | nil => exact Nat.le_refl _
        | cons q ps ih =>
            have hq := q.countP_events
            simp only [List.flatMap_cons, List.countP_append]
            omega
      have hinner := p.countP_events
      have := houter outer.reverse
      simp only [Balanced, events, List.countP_append]
      omega

end Reading

end EventTree
