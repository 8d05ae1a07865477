import FwRouter.Library.EventTree
import FwRouter.Library.Run
import FwRouter.Python.Text

/-!
# The bounded YAML event pass

`_parse_bounded_yaml_mapping` goes over the parser's events before anything is constructed.  Its loop
keeps one frame for each open collection; the flag of a mapping's frame says whether a key or a value
comes next.

* **Documents.**  For a tree in one document the loop ends without raising exactly if the tree is an
  acceptable configuration (`Acceptable`).
* **Other sequences.**  The loop leaves it to the parser where a document starts and ends, and ignores
  the events of the stream: it asks for one document start anywhere, and for no document end inside a
  collection.  Apart from that it accepts only the events of an acceptable tree
  (`boundedYamlPass_accepts_iff`).

The parser itself is not modelled.  The resolver is a parameter: it gives the tag of a node that has
none of its own.
-/

namespace FwRouter.Mihomo

open Py EventTree

/-! ## The event pass -/

/-- `MihomoYamlLimitError` and `MihomoYamlInvalidError`. -/
inductive MihomoYamlError where
  | limit (code : String)
  | invalid (code : String)
deriving DecidableEq

/-- An `AliasEvent` or a `ScalarEvent`. -/
inductive YamlLeaf where
  | alias
  | scalar (tag : Option Text) (implicit : Bool × Bool) (value : Text)

/-- What the start event of a collection carries. -/
structure YamlLabel where
  tag : Option Text
  implicit : Bool

abbrev YamlTree := Tree YamlLeaf YamlLabel

inductive YamlEvent where
  | streamStart
  | streamEnd
  | documentStart
  | documentEnd
  | node (event : Event YamlLeaf YamlLabel)

/-- `Resolver.resolve`, for a scalar with its value and for a collection. -/
structure Resolver where
  scalar : Text → Bool × Bool → Text
  collection : Kind → Bool → Text

/-- `event.tag or resolver.resolve(…)`. -/
def orResolved (tag : Option Text) (resolved : Text) : Text :=
  match tag with
  | some tag => if tag ≠ [] then tag else resolved
  | none => resolved

def maxMihomoYamlNodes : ℕ := 1000000

def maxMihomoYamlDepth : ℕ := 100

/-- `tag:yaml.org,2002:map` and `tag:yaml.org,2002:seq`. -/
def expectedTag : Kind → Text
  | .mapping => "tag:yaml.org,2002:map".toList
  | .sequence => "tag:yaml.org,2002:seq".toList

def stringTag : Text := "tag:yaml.org,2002:str".toList

/-- An open collection. -/
structure Frame where
  kind : Kind
  depth : ℕ
  expectKey : Bool := true
  keys : List Text := []
deriving DecidableEq

/-- What the node events have built up; the innermost frame comes first. -/
structure Walk where
  frames : List Frame := []
  nodes : ℕ := 0
  rootSeen : Bool := false
deriving DecidableEq

/-- `frames[-1]["depth"] + 1 if frames else 0`. -/
def Walk.depth (w : Walk) : ℕ :=
  match w.frames with
  | frame :: _ => frame.depth + 1
  | [] => 0

/-- `count_node`, without the depth it returns. -/
def Walk.countNode (w : Walk) : Except MihomoYamlError Walk :=
  if maxMihomoYamlNodes < w.nodes + 1 ∨ maxMihomoYamlDepth < w.depth then
    .error (.limit "node_or_depth_limit")
  else if w.frames = [] then
    if w.rootSeen then .error (.invalid "multiple_root_nodes")
    else .ok { w with nodes := w.nodes + 1, rootSeen := true }
  else .ok { w with nodes := w.nodes + 1 }

section Loop

variable (R : Resolver)

/-- The branch of a `MappingStartEvent` or `SequenceStartEvent`. -/
def Walk.collectionStart (w : Walk) (kind : Kind) (label : YamlLabel) :
    Except MihomoYamlError Walk :=
  if w.frames = [] ∧ kind = .sequence then .error (.invalid "root_mapping_required")
  else w.countNode >>= fun counted =>
    if orResolved label.tag (R.collection kind label.implicit) ≠ expectedTag kind then
      .error (.invalid "unsupported_collection_tag")
    else
      let frame : Frame := { kind, depth := w.depth }
      match counted.frames with
      | [] => .ok { counted with frames := [frame] }
      | parent :: outer =>
          if parent.kind = .mapping then
            if parent.expectKey then .error (.invalid "non_scalar_mapping_key")
            else
              .ok { counted with frames := frame :: { parent with expectKey := true } :: outer }
          else .ok { counted with frames := frame :: parent :: outer }

/-- The branch of a `MappingEndEvent` or `SequenceEndEvent`. -/
def Walk.collectionEnd (w : Walk) (kind : Kind) : Except MihomoYamlError Walk :=
  match w.frames with
  | [] => .error (.invalid "unexpected_collection_end")
  | frame :: outer =>
      if frame.kind ≠ kind ∨ frame.expectKey = false then
        .error (.invalid "invalid_collection_shape")
      else .ok { w with frames := outer }

/-- The branch of a `ScalarEvent`. -/
def Walk.scalar (w : Walk) (tag : Option Text) (implicit : Bool × Bool) (value : Text) :
    Except MihomoYamlError Walk :=
  w.countNode >>= fun counted =>
    match counted.frames with
    | [] => .error (.invalid "root_mapping_required")
    | frame :: outer =>
        if frame.kind = .mapping ∧ frame.expectKey = true then
          if orResolved tag (R.scalar value implicit) ≠ stringTag then
            .error (.invalid "non_string_mapping_key")
          else if value ∈ frame.keys then .error (.invalid "duplicate_mapping_key")
          else
            .ok { counted with frames :=
              { frame with keys := value :: frame.keys, expectKey := false } :: outer }
        else if frame.kind = .mapping then
          .ok { counted with frames := { frame with expectKey := true } :: outer }
        else .ok counted

def Walk.node (w : Walk) : Event YamlLeaf YamlLabel → Except MihomoYamlError Walk
  | .leaf .alias => .error (.invalid "aliases_unsupported")
  | .leaf (.scalar tag implicit value) => w.scalar R tag implicit value
  | .start kind label => w.collectionStart R kind label
  | .finish kind => w.collectionEnd kind

/-- The variables of the loop. -/
structure Pass where
  walk : Walk := {}
  documents : ℕ := 0

/-- The loop body. -/
def Pass.step (s : Pass) : YamlEvent → Except MihomoYamlError Pass
  | .streamStart => .ok s
  | .streamEnd => .ok s
  | .documentStart =>
      if 1 < s.documents + 1 then .error (.invalid "multiple_documents")
      else .ok { s with documents := s.documents + 1 }
  | .documentEnd =>
      if s.walk.frames ≠ [] then .error (.invalid "unclosed_collection") else .ok s
  | .node event => s.walk.node R event >>= fun walk => .ok { s with walk }

/-- The event loop of `_parse_bounded_yaml_mapping` with the check after it. -/
def boundedYamlPass (events : List YamlEvent) : Except MihomoYamlError Unit :=
  events.foldlM (Pass.step R) {} >>= fun s =>
    if s.documents ≠ 1 ∨ s.walk.rootSeen = false ∨ s.walk.frames ≠ [] then
      .error (.invalid "root_mapping_required")
    else .ok ()

end Loop

/-! ## Acceptable trees -/

/-- The text of a scalar. -/
def scalarText : YamlTree → Option Text
  | .leaf (.scalar _ _ value) => some value
  | _ => none

section Acceptance

variable (R : Resolver)

/-- A scalar that resolves to a string. -/
def IsStringKey : YamlTree → Prop
  | .leaf (.scalar tag implicit value) => orResolved tag (R.scalar value implicit) = stringTag
  | _ => False

/-- What is asked of a single node. -/
def ProperNode : YamlTree → Prop
  | .leaf .alias => False
  | .leaf (.scalar ..) => True
  | .sequence label _ =>
      orResolved label.tag (R.collection .sequence label.implicit) = expectedTag .sequence
  | .mapping label entries =>
      orResolved label.tag (R.collection .mapping label.implicit) = expectedTag .mapping ∧
        (∀ e ∈ entries, IsStringKey R e.1) ∧ (entries.map fun e => scalarText e.1).Nodup

/-- **The intended documents.**  A mapping without aliases whose collections have their default tags
and whose mappings have distinct strings for keys, not too deep and not too large. -/
structure Acceptable (t : YamlTree) : Prop where
  root : ∃ label entries, t = .mapping label entries
  proper : ∀ n ∈ t.nodes 0, ProperNode R n.2
  depth : ∀ n ∈ t.nodes 0, n.1 ≤ maxMihomoYamlDepth
  nodes : (t.nodes 0).length ≤ maxMihomoYamlNodes

/-- A node that passes at its depth. -/
def PassingNode (n : ℕ × YamlTree) : Prop := ProperNode R n.2 ∧ n.1 ≤ maxMihomoYamlDepth

end Acceptance

/-! ## One event -/

/-- The frame takes a value or an item next. -/
def Frame.AwaitsValue (f : Frame) : Prop :=
  f.kind = .sequence ∧ f.expectKey = true ∨ f.kind = .mapping ∧ f.expectKey = false

/-- The frame takes a key next. -/
def Frame.AwaitsKey (f : Frame) : Prop := f.kind = .mapping ∧ f.expectKey = true

section Events

variable {R : Resolver} {f : Frame} {fs : List Frame} {n : ℕ} {seen : Bool} {w' : Walk}
  {tag : Option Text} {implicit : Bool × Bool} {value : Text} {kind : Kind} {label : YamlLabel}

lemma countNode_inside {rest : Walk → Except MihomoYamlError Walk} :
    (⟨f :: fs, n, seen⟩ : Walk).countNode >>= rest = .ok w' ↔
      n + 1 ≤ maxMihomoYamlNodes ∧ f.depth + 1 ≤ maxMihomoYamlDepth ∧
        rest ⟨f :: fs, n + 1, seen⟩ = .ok w' := by
  have hcount : ∀ w, (⟨f :: fs, n, seen⟩ : Walk).countNode = .ok w ↔ n + 1 ≤ maxMihomoYamlNodes ∧
      f.depth + 1 ≤ maxMihomoYamlDepth ∧ ⟨f :: fs, n + 1, seen⟩ = w := by
    intro w
    rw [Walk.countNode, Run.guard_eq_ok, not_or, not_lt, not_lt, if_neg (List.cons_ne_nil _ _),
      and_assoc, Except.ok.injEq]
    rfl
  rw [Run.bind_eq_ok]
  simp only [hcount]
  constructor
  · rintro ⟨_, ⟨hnodes, hdepth, rfl⟩, hrest⟩
    exact ⟨hnodes, hdepth, hrest⟩
  · rintro ⟨hnodes, hdepth, hrest⟩
    exact ⟨_, ⟨hnodes, hdepth, rfl⟩, hrest⟩

lemma countNode_root {rest : Walk → Except MihomoYamlError Walk} :
    (⟨[], n, seen⟩ : Walk).countNode >>= rest = .ok w' ↔
      n + 1 ≤ maxMihomoYamlNodes ∧ seen = false ∧ rest ⟨[], n + 1, true⟩ = .ok w' := by
  have hcount : ∀ w, (⟨[], n, seen⟩ : Walk).countNode = .ok w ↔
      n + 1 ≤ maxMihomoYamlNodes ∧ seen = false ∧ ⟨[], n + 1, true⟩ = w := by
    intro w
    rw [Walk.countNode, Run.guard_eq_ok, not_or, not_lt, not_lt, if_pos rfl, Run.guard_eq_ok,
      Bool.not_eq_true, Except.ok.injEq]
    simp only [Walk.depth, Nat.zero_le, and_true]
  rw [Run.bind_eq_ok]
  simp only [hcount]
  constructor
  · rintro ⟨_, ⟨hnodes, hseen, rfl⟩, hrest⟩
    exact ⟨hnodes, hseen, hrest⟩
  · rintro ⟨hnodes, hseen, hrest⟩
    exact ⟨_, ⟨hnodes, hseen, rfl⟩, hrest⟩

lemma scalar_value (hf : f.AwaitsValue) :
    (⟨f :: fs, n, seen⟩ : Walk).node R (.leaf (.scalar tag implicit value)) = .ok w' ↔
      n + 1 ≤ maxMihomoYamlNodes ∧ f.depth + 1 ≤ maxMihomoYamlDepth ∧
        ⟨{ f with expectKey := true } :: fs, n + 1, seen⟩ = w' := by
  rw [Walk.node, Walk.scalar, countNode_inside]
  obtain ⟨kind, depth, expectKey, keys⟩ := f
  rcases hf with ⟨rfl, rfl⟩ | ⟨rfl, rfl⟩
  · simp
  · simp

lemma scalar_key (hf : f.AwaitsKey) :
    (⟨f :: fs, n, seen⟩ : Walk).node R (.leaf (.scalar tag implicit value)) = .ok w' ↔
      n + 1 ≤ maxMihomoYamlNodes ∧ f.depth + 1 ≤ maxMihomoYamlDepth ∧
        orResolved tag (R.scalar value implicit) = stringTag ∧ value ∉ f.keys ∧
        ⟨{ f with keys := value :: f.keys, expectKey := false } :: fs, n + 1, seen⟩ = w' := by
  rw [Walk.node, Walk.scalar, countNode_inside]
  dsimp only
  rw [if_pos ⟨hf.1, hf.2⟩, Run.guard_eq_ok, Run.guard_eq_ok, not_not, Except.ok.injEq]

lemma start_value (hf : f.AwaitsValue) :
    (⟨f :: fs, n, seen⟩ : Walk).node R (.start kind label) = .ok w' ↔
      n + 1 ≤ maxMihomoYamlNodes ∧ f.depth + 1 ≤ maxMihomoYamlDepth ∧
        orResolved label.tag (R.collection kind label.implicit) = expectedTag kind ∧
        ⟨{ kind, depth := f.depth + 1 } :: { f with expectKey := true } :: fs, n + 1, seen⟩ = w' := by
  rw [Walk.node, Walk.collectionStart, if_neg (by simp), countNode_inside, Run.guard_eq_ok, not_not]
  obtain ⟨fkind, depth, expectKey, keys⟩ := f
  rcases hf with ⟨rfl, rfl⟩ | ⟨rfl, rfl⟩
  · simp [Walk.depth]
  · simp [Walk.depth]

lemma start_key (hf : f.AwaitsKey) :
    (⟨f :: fs, n, seen⟩ : Walk).node R (.start kind label) ≠ .ok w' := by
  rw [Walk.node, Walk.collectionStart, if_neg (by simp), Ne, countNode_inside, Run.guard_eq_ok]
  obtain ⟨fkind, depth, expectKey, keys⟩ := f
  obtain ⟨rfl, rfl⟩ := hf
  rintro ⟨-, -, -, ⟨⟩⟩

lemma start_root :
    (⟨[], n, seen⟩ : Walk).node R (.start kind label) = .ok w' ↔
      kind = .mapping ∧ n + 1 ≤ maxMihomoYamlNodes ∧ seen = false ∧
        orResolved label.tag (R.collection kind label.implicit) = expectedTag kind ∧
        ⟨[{ kind, depth := 0 }], n + 1, true⟩ = w' := by
  have hkind : ¬(([] : List Frame) = [] ∧ kind = .sequence) ↔ kind = .mapping := by
    cases kind with
    | sequence => simp
    | mapping => simp
  rw [Walk.node, Walk.collectionStart, Run.guard_eq_ok, hkind, countNode_root, Run.guard_eq_ok,
    not_not, Except.ok.injEq]
  rfl

lemma finish_inside :
    (⟨f :: fs, n, seen⟩ : Walk).node R (.finish kind) = .ok w' ↔
      f.kind = kind ∧ f.expectKey = true ∧ ⟨fs, n, seen⟩ = w' := by
  rw [Walk.node, Walk.collectionEnd]
  dsimp only
  rw [Run.guard_eq_ok, not_or, not_not, Bool.not_eq_false, Except.ok.injEq, and_assoc]

/-- Outside of a collection there is no place for a scalar. -/
lemma scalar_root :
    (⟨[], n, seen⟩ : Walk).node R (.leaf (.scalar tag implicit value)) ≠ .ok w' := by
  rw [Walk.node, Walk.scalar, Ne, countNode_root]
  rintro ⟨-, -, ⟨⟩⟩

/-! ## The events of a tree -/

/-- The keys of the entries are strings, none of them twice and none among the keys before. -/
def DistinctKeys (R : Resolver) (keys : List Text) (entries : List (YamlTree × YamlTree)) : Prop :=
  (∀ e ∈ entries, IsStringKey R e.1) ∧ (entries.map fun e => scalarText e.1).Nodup ∧
    ∀ k ∈ keys, some k ∉ entries.map fun e => scalarText e.1

lemma distinctKeys_cons {keys : List Text} {v : YamlTree} {entries : List (YamlTree × YamlTree)} :
    DistinctKeys R keys ((.leaf (.scalar tag implicit value), v) :: entries) ↔
      orResolved tag (R.scalar value implicit) = stringTag ∧ value ∉ keys ∧
        DistinctKeys R (value :: keys) entries := by
  rw [DistinctKeys, DistinctKeys, List.forall_mem_cons, List.forall_mem_cons, List.map_cons,
    List.nodup_cons]
  simp only [List.mem_cons, not_or]
  constructor
  · rintro ⟨⟨htag, hkeys⟩, ⟨hnew, hnodup⟩, hother⟩
    exact ⟨htag, fun hmem => (hother value hmem).1 rfl, hkeys, hnodup, hnew,
      fun k hk => (hother k hk).2⟩
  · rintro ⟨htag, hold, hkeys, hnodup, hnew, hother⟩
    refine ⟨⟨htag, hkeys⟩, ⟨hnew, hnodup⟩, fun k hk => ⟨?_, hother k hk⟩⟩
    intro hsame
    exact hold (Option.some.inj hsame ▸ hk)

variable (R)

mutual

/-- The events of a node where a value is due: the node passes with all below it, and leaves the
frames as it found them but for the flag. -/
lemma value_events : ∀ (t : YamlTree) {f : Frame} {fs : List Frame} {n : ℕ} {seen : Bool}
    {w' : Walk}, f.AwaitsValue →
      (t.events.foldlM (Walk.node R) ⟨f :: fs, n, seen⟩ = .ok w' ↔
        (∀ x ∈ t.nodes (f.depth + 1), PassingNode R x) ∧
          n + (t.nodes (f.depth + 1)).length ≤ maxMihomoYamlNodes ∧
          ⟨{ f with expectKey := true } :: fs, n + (t.nodes (f.depth + 1)).length, seen⟩ = w')
  | .leaf .alias, f, fs, n, seen, w', hf => by
      rw [Tree.events, Run.foldlM_cons_eq_ok, Tree.nodes, List.forall_mem_singleton]
      constructor
      · rintro ⟨m, ⟨⟩, -⟩
      · rintro ⟨⟨⟨⟩, -⟩, -⟩
  | .leaf (.scalar tag implicit value), f, fs, n, seen, w', hf => by
      rw [Tree.events, Run.foldlM_cons_eq_ok, Tree.nodes, List.forall_mem_singleton]
      simp only [scalar_value hf, List.length_singleton]
      constructor
      · rintro ⟨m, ⟨hn, hd, rfl⟩, hrest⟩
        exact ⟨⟨trivial, hd⟩, hn, Except.ok.inj hrest⟩
      · rintro ⟨⟨-, hd⟩, hn, rfl⟩
        exact ⟨_, ⟨hn, hd, rfl⟩, rfl⟩
  | .sequence label items, f, fs, n, seen, w', hf => by
      rw [Tree.events, Run.foldlM_cons_eq_ok, Tree.nodes, List.forall_mem_cons, List.length_cons]
      simp only [start_value hf]
      constructor
      · rintro ⟨_, ⟨hn, hd, htag, rfl⟩, hrest⟩
        obtain ⟨hitems, hlength, rfl⟩ := (items_events items hn).mp hrest
        refine ⟨⟨⟨htag, hd⟩, hitems⟩, by omega, ?_⟩
        congr 1
        omega
      · rintro ⟨⟨⟨htag, hd⟩, hitems⟩, hlength, rfl⟩
        refine ⟨_, ⟨by omega, hd, htag, rfl⟩, ?_⟩
        rw [items_events items (by omega)]
        refine ⟨hitems, by omega, ?_⟩
        congr 1
        omega
  | .mapping label entries, f, fs, n, seen, w', hf => by
      rw [Tree.events, Run.foldlM_cons_eq_ok, Tree.nodes, List.forall_mem_cons, List.length_cons]
      simp only [start_value hf]
      constructor
      · rintro ⟨_, ⟨hn, hd, htag, rfl⟩, hrest⟩
        obtain ⟨⟨hkeys, hnodup, -⟩, hentries, hlength, rfl⟩ :=
          (entries_events entries hn).mp hrest
        refine ⟨⟨⟨⟨htag, hkeys, hnodup⟩, hd⟩, hentries⟩, by omega, ?_⟩
        congr 1
        omega
      · rintro ⟨⟨⟨⟨htag, hkeys, hnodup⟩, hd⟩, hentries⟩, hlength, rfl⟩
        refine ⟨_, ⟨by omega, hd, htag, rfl⟩, ?_⟩
        rw [entries_events entries (by omega)]
        refine ⟨⟨hkeys, hnodup, by rintro k ⟨⟩⟩, hentries, by omega, ?_⟩
        congr 1
        omega

/-- The items of a sequence with the event that finishes it. -/
lemma items_events : ∀ (items : List YamlTree) {depth : ℕ} {keys : List Text} {fs : List Frame}
    {n : ℕ} {seen : Bool} {w' : Walk}, n ≤ maxMihomoYamlNodes →
      ((eventsOfItems items ++ [Event.finish .sequence]).foldlM (Walk.node R)
          ⟨⟨.sequence, depth, true, keys⟩ :: fs, n, seen⟩ = .ok w' ↔
        (∀ x ∈ nodesOfItems (depth + 1) items, PassingNode R x) ∧
          n + (nodesOfItems (depth + 1) items).length ≤ maxMihomoYamlNodes ∧
          ⟨fs, n + (nodesOfItems (depth + 1) items).length, seen⟩ = w')
  | [], depth, keys, fs, n, seen, w', hn => by
      rw [eventsOfItems, List.nil_append, Run.foldlM_cons_eq_ok]
      simp only [finish_inside]
      constructor
      · rintro ⟨m, ⟨-, -, rfl⟩, hrest⟩
        exact ⟨by rintro x ⟨⟩, hn, Except.ok.inj hrest⟩
      · rintro ⟨-, -, rfl⟩
        exact ⟨_, ⟨trivial, trivial, rfl⟩, rfl⟩
  | t :: items, depth, keys, fs, n, seen, w', hn => by
      have hdue : (⟨.sequence, depth, true, keys⟩ : Frame).AwaitsValue := Or.inl ⟨rfl, rfl⟩
      rw [eventsOfItems, List.append_assoc, Run.foldlM_append_eq_ok, nodesOfItems, List.forall_mem_append,
        List.length_append]
      simp only [value_events t hdue]
      constructor
      · rintro ⟨_, ⟨hfirst, hn₁, rfl⟩, hrest⟩
        obtain ⟨hitems, hlength, rfl⟩ := (items_events items hn₁).mp hrest
        refine ⟨⟨hfirst, hitems⟩, by omega, ?_⟩
        congr 1
        omega
      · rintro ⟨⟨hfirst, hitems⟩, hlength, rfl⟩
        refine ⟨_, ⟨hfirst, by omega, rfl⟩, ?_⟩
        rw [items_events items (by omega)]
        refine ⟨hitems, by omega, ?_⟩
        congr 1
        omega

/-- The entries of a mapping with the event that finishes it: the keys are strings and differ from
each other and from the keys before. -/
lemma entries_events : ∀ (entries : List (YamlTree × YamlTree)) {depth : ℕ} {keys : List Text}
    {fs : List Frame} {n : ℕ} {seen : Bool} {w' : Walk}, n ≤ maxMihomoYamlNodes →
      ((eventsOfEntries entries ++ [Event.finish .mapping]).foldlM (Walk.node R)
          ⟨⟨.mapping, depth, true, keys⟩ :: fs, n, seen⟩ = .ok w' ↔
        DistinctKeys R keys entries ∧ (∀ x ∈ nodesOfEntries (depth + 1) entries, PassingNode R x) ∧
          n + (nodesOfEntries (depth + 1) entries).length ≤ maxMihomoYamlNodes ∧
          ⟨fs, n + (nodesOfEntries (depth + 1) entries).length, seen⟩ = w')
  | [], depth, keys, fs, n, seen, w', hn => by
      rw [eventsOfEntries, List.nil_append, Run.foldlM_cons_eq_ok]
      simp only [finish_inside]
      constructor
      · rintro ⟨m, ⟨-, -, rfl⟩, hrest⟩
        exact ⟨⟨by rintro x ⟨⟩, List.nodup_nil, by rintro k - ⟨⟩⟩, by rintro x ⟨⟩, hn,
          Except.ok.inj hrest⟩
      · rintro ⟨-, -, -, rfl⟩
        exact ⟨_, ⟨trivial, trivial, rfl⟩, rfl⟩
  | (.leaf (.scalar tag implicit value), v) :: entries, depth, keys, fs, n, seen, w', hn => by
      have hkey : (⟨.mapping, depth, true, keys⟩ : Frame).AwaitsKey := ⟨rfl, rfl⟩
      have hdue : (⟨.mapping, depth, false, value :: keys⟩ : Frame).AwaitsValue := Or.inr ⟨rfl, rfl⟩
      -- the key clears the flag, and the value sets it again
      rw [eventsOfEntries, Tree.events, List.append_assoc, List.append_assoc, List.singleton_append,
        Run.foldlM_cons_eq_ok, nodesOfEntries, Tree.nodes, List.singleton_append, List.forall_mem_cons,
        List.forall_mem_append, List.length_cons, List.length_append, distinctKeys_cons]
      simp only [scalar_key hkey]
      constructor
      · rintro ⟨_, ⟨hn₁, hd, htag, hnew, rfl⟩, hrest⟩
        obtain ⟨_, hvalue, hrest⟩ := Run.foldlM_append_eq_ok.mp hrest
        simp only [value_events v hdue] at hvalue
        obtain ⟨hv, hn₂, rfl⟩ := hvalue
        obtain ⟨hkeys, hentries, hlength, rfl⟩ := (entries_events entries hn₂).mp hrest
        refine ⟨⟨htag, hnew, hkeys⟩, ⟨⟨trivial, hd⟩, hv, hentries⟩, by omega, ?_⟩
        congr 1
        omega
      · rintro ⟨⟨htag, hnew, hkeys⟩, ⟨⟨-, hd⟩, hv, hentries⟩, hlength, rfl⟩
        refine ⟨_, ⟨by omega, hd, htag, hnew, rfl⟩, Run.foldlM_append_eq_ok.mpr
          ⟨_, (value_events v hdue).mpr ⟨hv, ?_, rfl⟩, ?_⟩⟩
        · dsimp only
          omega
        dsimp only
        rw [entries_events entries (by omega)]
        refine ⟨hkeys, hentries, by omega, ?_⟩
        congr 1
        omega
  | (.leaf .alias, v) :: entries, depth, keys, fs, n, seen, w', hn => by
      rw [eventsOfEntries, Tree.events, List.append_assoc, List.singleton_append, Run.foldlM_cons_eq_ok]
      constructor
      · rintro ⟨m, ⟨⟩, -⟩
      · rintro ⟨⟨hkeys, -⟩, -⟩
        exact (hkeys _ List.mem_cons_self).elim
  | (.sequence label items, v) :: entries, depth, keys, fs, n, seen, w', hn => by
      rw [eventsOfEntries, Tree.events, List.append_assoc, List.cons_append, Run.foldlM_cons_eq_ok]
      constructor
      · rintro ⟨m, hstart, -⟩
        exact absurd hstart (start_key ⟨rfl, rfl⟩)
      · rintro ⟨⟨hkeys, -⟩, -⟩
        exact (hkeys _ List.mem_cons_self).elim
  | (.mapping label inner, v) :: entries, depth, keys, fs, n, seen, w', hn => by
      rw [eventsOfEntries, Tree.events, List.append_assoc, List.cons_append, Run.foldlM_cons_eq_ok]
      constructor
      · rintro ⟨m, hstart, -⟩
        exact absurd hstart (start_key ⟨rfl, rfl⟩)
      · rintro ⟨⟨hkeys, -⟩, -⟩
        exact (hkeys _ List.mem_cons_self).elim

end

/-- **The events of a tree.**  The loop goes through them exactly if the tree is acceptable. -/
lemma tree_events (t : YamlTree) {w' : Walk} :
    t.events.foldlM (Walk.node R) {} = .ok w' ↔
      Acceptable R t ∧ ⟨[], (t.nodes 0).length, true⟩ = w' := by
  match t with
  | .leaf .alias =>
      rw [Tree.events, Run.foldlM_cons_eq_ok]
      constructor
      · rintro ⟨m, ⟨⟩, -⟩
      · rintro ⟨⟨⟨label, entries, ⟨⟩⟩, -, -, -⟩, -⟩
  | .leaf (.scalar tag implicit value) =>
      rw [Tree.events, Run.foldlM_cons_eq_ok]
      constructor
      · rintro ⟨m, hscalar, -⟩
        exact absurd hscalar scalar_root
      · rintro ⟨⟨⟨label, entries, ⟨⟩⟩, -, -, -⟩, -⟩
  | .sequence label items =>
      rw [Tree.events, Run.foldlM_cons_eq_ok]
      constructor
      · rintro ⟨m, hstart, -⟩
        cases (start_root.mp hstart).1
      · rintro ⟨⟨⟨label, entries, ⟨⟩⟩, -, -, -⟩, -⟩
  | .mapping label entries =>
      have hacceptable : Acceptable R (.mapping label entries) ↔
          PassingNode R (0, .mapping label entries) ∧
            (∀ x ∈ nodesOfEntries (0 + 1) entries, PassingNode R x) ∧
            (nodesOfEntries (0 + 1) entries).length + 1 ≤ maxMihomoYamlNodes := by
        constructor
        · rintro ⟨-, hproper, hdepth, hnodes⟩
          rw [Tree.nodes] at hproper hdepth hnodes
          exact ⟨⟨hproper _ List.mem_cons_self, hdepth _ List.mem_cons_self⟩,
            fun x hx => ⟨hproper x (List.mem_cons_of_mem _ hx), hdepth x (List.mem_cons_of_mem _ hx)⟩,
            hnodes⟩
        · rintro ⟨hroot, hbelow, hnodes⟩
          refine ⟨⟨label, entries, rfl⟩, ?_, ?_, hnodes⟩
          · rw [Tree.nodes, List.forall_mem_cons]
            exact ⟨hroot.1, fun x hx => (hbelow x hx).1⟩
          · rw [Tree.nodes, List.forall_mem_cons]
            exact ⟨hroot.2, fun x hx => (hbelow x hx).2⟩
      rw [Tree.events, Run.foldlM_cons_eq_ok, hacceptable, Tree.nodes, List.length_cons]
      simp only [start_root]
      constructor
      · rintro ⟨_, ⟨-, hn, -, htag, rfl⟩, hrest⟩
        obtain ⟨⟨hkeys, hnodup, -⟩, hentries, hlength, rfl⟩ := (entries_events R entries hn).mp hrest
        refine ⟨⟨⟨⟨htag, hkeys, hnodup⟩, Nat.zero_le _⟩, hentries, by omega⟩, ?_⟩
        congr 1
        omega
      · rintro ⟨⟨⟨⟨htag, hkeys, hnodup⟩, -⟩, hentries, hlength⟩, rfl⟩
        refine ⟨_, ⟨trivial, by omega, trivial, htag, rfl⟩, ?_⟩
        rw [entries_events R entries (by omega)]
        refine ⟨⟨hkeys, hnodup, by rintro k ⟨⟩⟩, hentries, by omega, ?_⟩
        congr 1
        omega

/-! ## Any node events -/

/-- The innermost frame has the kind of the innermost open collection and knows whether a key waits
for its value. -/
def Frame.Follows (f : Frame) (p : Partial YamlLeaf YamlLabel) : Prop :=
  f.kind = p.kind ∧ (f.expectKey = true ↔ p.Even)

/-- An outer frame has already been told of the collection inside of it. -/
def Frame.FollowsOuter (f : Frame) (p : Partial YamlLeaf YamlLabel) : Prop :=
  f.kind = p.kind ∧ f.expectKey = true ∧ p.AwaitsValue

/-- **The stack invariant.**  The frames stand for the collections that are open. -/
def Walk.Follows (w : Walk) : Reading YamlLeaf YamlLabel → Prop
  | .nothing => w.frames = [] ∧ w.rootSeen = false
  | .inside p outer => ∃ f fs, w.frames = f :: fs ∧ f.Follows p ∧
      List.Forall₂ Frame.FollowsOuter fs outer ∧ w.rootSeen = true
  | .complete _ => w.frames = [] ∧ w.rootSeen = true

variable {R}

lemma Frame.Follows.awaits {f : Frame} {p : Partial YamlLeaf YamlLabel} (h : f.Follows p) :
    f.AwaitsKey ∨ f.AwaitsValue ∧ p.AwaitsValue := by
  obtain ⟨hkind, hflag⟩ := h
  match p with
  | .sequence b items => exact Or.inr ⟨Or.inl ⟨hkind, hflag.mpr trivial⟩, trivial⟩
  | .mapping b entries none => exact Or.inl ⟨hkind, hflag.mpr rfl⟩
  | .mapping b entries (some k) =>
      have hfalse : f.expectKey = false := by
        cases hkey : f.expectKey with
        | false => rfl
        | true => cases hflag.mp hkey
      exact Or.inr ⟨Or.inr ⟨hkind, hfalse⟩, nofun⟩

/-- A scalar where a key is due leaves the key waiting. -/
lemma not_even_add {f : Frame} {p : Partial YamlLeaf YamlLabel} (h : f.Follows p)
    (hkey : f.AwaitsKey) (t : YamlTree) : ¬(p.add t).Even := by
  obtain ⟨hkind, hflag⟩ := h
  match p with
  | .sequence b items => cases hkey.1.symm.trans hkind
  | .mapping b entries none => nofun
  | .mapping b entries (some k) => cases hflag.mp hkey.2

lemma follows_start (kind : Kind) (label : YamlLabel) (depth : ℕ) :
    Frame.Follows { kind, depth } (.start label kind) :=
  ⟨(Partial.kind_start label kind).symm, iff_of_true rfl (Partial.even_start label kind)⟩

/-- **One event.**  What the loop lets through, the reader of trees reads, and the frames still stand
for what is open. -/
lemma Walk.Follows.node {w w' : Walk} {r : Reading YamlLeaf YamlLabel}
    {e : Event YamlLeaf YamlLabel} (h : w.Follows r) (hnode : w.node R e = .ok w') :
    ∃ r', r.step e = some r' ∧ w'.Follows r' := by
  obtain ⟨frames, n, seen⟩ := w
  match r, e with
  | _, .leaf .alias => cases hnode
  | .nothing, .leaf (.scalar tag implicit value) =>
      obtain ⟨rfl, rfl⟩ := h
      exact absurd hnode scalar_root
  | .nothing, .start kind label =>
      obtain ⟨rfl, rfl⟩ := h
      obtain ⟨-, -, -, -, rfl⟩ := start_root.mp hnode
      exact ⟨_, rfl, _, _, rfl, follows_start kind label _, .nil, rfl⟩
  | .nothing, .finish kind =>
      obtain ⟨rfl, rfl⟩ := h
      cases hnode
  | .complete t, .leaf (.scalar tag implicit value) =>
      obtain ⟨rfl, rfl⟩ := h
      exact absurd hnode scalar_root
  | .complete t, .start kind label =>
      obtain ⟨rfl, rfl⟩ := h
      cases (start_root.mp hnode).2.2.1
  | .complete t, .finish kind =>
      obtain ⟨rfl, rfl⟩ := h
      cases hnode
  | .inside p outer, .leaf (.scalar tag implicit value) =>
      obtain ⟨f, fs, rfl, hf, houter, rfl⟩ := h
      refine ⟨_, rfl, ?_⟩
      have hkind := hf.1.trans (Partial.kind_add (.leaf (.scalar tag implicit value)) p).symm
      rcases hf.awaits with hkey | ⟨hdue, hp⟩
      · obtain ⟨-, -, -, -, rfl⟩ := (scalar_key hkey).mp hnode
        exact ⟨_, _, rfl, ⟨hkind, iff_of_false nofun (not_even_add hf hkey _)⟩, houter, rfl⟩
      · obtain ⟨-, -, rfl⟩ := (scalar_value hdue).mp hnode
        exact ⟨_, _, rfl, ⟨hkind, iff_of_true rfl (Partial.even_add _ hp)⟩, houter, rfl⟩
  | .inside p outer, .start kind label =>
      obtain ⟨f, fs, rfl, hf, houter, rfl⟩ := h
      rcases hf.awaits with hkey | ⟨hdue, hp⟩
      · exact absurd hnode (start_key hkey)
      · obtain ⟨-, -, -, rfl⟩ := (start_value hdue).mp hnode
        exact ⟨_, rfl, _, _, rfl, follows_start kind label _, .cons ⟨hf.1, rfl, hp⟩ houter, rfl⟩
  | .inside p outer, .finish kind =>
      obtain ⟨f, fs, rfl, hf, houter, rfl⟩ := h
      obtain ⟨hkind, hflag, rfl⟩ := finish_inside.mp hnode
      obtain ⟨t, ht⟩ := Partial.exists_finish (hf.2.mp hflag)
      refine ⟨Reading.place t outer, ?_, ?_⟩
      · rw [Reading.step, if_pos (hf.1.symm.trans hkind), ht]
        rfl
      · cases houter with
        | nil => exact ⟨rfl, rfl⟩
        | @cons g q gs qs hg houter =>
            obtain ⟨hgkind, hgflag, hq⟩ := hg
            exact ⟨g, gs, rfl, ⟨hgkind.trans (Partial.kind_add t q).symm,
              iff_of_true hgflag (Partial.even_add t hq)⟩, houter, rfl⟩

/-- **The node events of a run.** -/
lemma Walk.Follows.run {es : List (Event YamlLeaf YamlLabel)} {w w' : Walk}
    {r : Reading YamlLeaf YamlLabel} (h : w.Follows r) (hrun : es.foldlM (Walk.node R) w = .ok w') :
    ∃ r', es.foldlM Reading.step r = some r' ∧ w'.Follows r' := by
  induction es generalizing w r with
  | nil =>
      obtain rfl := Except.ok.inj hrun
      exact ⟨r, rfl, h⟩
  | cons e es ih =>
      obtain ⟨w₁, hfirst, hrest⟩ := Run.foldlM_cons_eq_ok.mp hrun
      obtain ⟨r₁, hstep, h₁⟩ := h.node hfirst
      obtain ⟨r', hr', hend⟩ := ih h₁ hrest
      refine ⟨r', ?_, hend⟩
      rw [List.foldlM_cons, hstep]
      exact hr'

/-- From the start, what is open is what the events so far have opened. -/
lemma exists_reading {es : List (Event YamlLeaf YamlLabel)} {w : Walk}
    (hrun : es.foldlM (Walk.node R) {} = .ok w) :
    ∃ r : Reading YamlLeaf YamlLabel, r.events = es ∧ w.Follows r := by
  have hstart : Walk.Follows {} .nothing := ⟨rfl, rfl⟩
  obtain ⟨r, hread, hw⟩ := hstart.run hrun
  exact ⟨r, Reading.run hread, hw⟩

/-- The loop is outside of every collection exactly when the events so far balance. -/
lemma frames_eq_nil_iff {es : List (Event YamlLeaf YamlLabel)} {w : Walk}
    (hrun : es.foldlM (Walk.node R) {} = .ok w) : w.frames = [] ↔ Balanced es := by
  obtain ⟨r, rfl, hw⟩ := exists_reading hrun
  rw [Reading.balanced_events_iff]
  match r with
  | .nothing => exact iff_of_true hw.1 nofun
  | .complete t => exact iff_of_true hw.1 nofun
  | .inside p outer =>
      obtain ⟨f, fs, hframes, -⟩ := hw
      rw [hframes]
      exact iff_of_false nofun fun h => h p outer rfl

/-- Node events after which the root is complete are those of an acceptable tree. -/
lemma exists_acceptable {es : List (Event YamlLeaf YamlLabel)} :
    (∃ w, es.foldlM (Walk.node R) {} = .ok w ∧ w.rootSeen = true ∧ w.frames = []) ↔
      ∃ t : YamlTree, es = t.events ∧ Acceptable R t := by
  constructor
  · rintro ⟨w, hrun, hseen, hframes⟩
    obtain ⟨r, rfl, hw⟩ := exists_reading hrun
    match r with
    | .nothing => cases hw.2.symm.trans hseen
    | .inside p outer =>
        obtain ⟨f, fs, hopen, -⟩ := hw
        cases hopen.symm.trans hframes
    | .complete t =>
        exact ⟨t, rfl, ((tree_events R t).mp hrun).1⟩
  · rintro ⟨t, rfl, ht⟩
    exact ⟨_, (tree_events R t).mpr ⟨ht, rfl⟩, rfl, rfl⟩

/-! ## Documents -/

end Events

def nodeEvents : List YamlEvent → List (Event YamlLeaf YamlLabel) :=
  List.filterMap fun
    | .node e => some e
    | _ => none

def YamlEvent.isDocumentStart : YamlEvent → Bool
  | .documentStart => true
  | _ => false

/-- Every document end stands where no collection is open. -/
def DocumentEndsOutside (events : List YamlEvent) : Prop :=
  ∀ done rest, events = done ++ .documentEnd :: rest → Balanced (nodeEvents done)

/-- The events of a tree in one document. -/
def inDocument (t : YamlTree) : List YamlEvent :=
  .documentStart :: (t.events.map .node ++ [.documentEnd])

/-- The events of a tree in the one document of a stream. -/
def inStream (t : YamlTree) : List YamlEvent := .streamStart :: (inDocument t ++ [.streamEnd])

section Documents

variable {R : Resolver}

/-- At every document end the loop from `w` is outside of every collection. -/
def EndsOutside (R : Resolver) (w : Walk) (events : List YamlEvent) : Prop :=
  ∀ done rest, events = done ++ .documentEnd :: rest →
    ∃ w', (nodeEvents done).foldlM (Walk.node R) w = .ok w' ∧ w'.frames = []

lemma endsOutside_documentEnd {w : Walk} {events : List YamlEvent} :
    EndsOutside R w (.documentEnd :: events) ↔ w.frames = [] ∧ EndsOutside R w events := by
  constructor
  · intro h
    obtain ⟨w', hrun, hframes⟩ := h [] events rfl
    obtain rfl := Except.ok.inj hrun
    refine ⟨hframes, ?_⟩
    rintro done rest rfl
    exact h (.documentEnd :: done) rest rfl
  · rintro ⟨hframes, h⟩ done rest hsplit
    cases done with
    | nil => exact ⟨w, rfl, hframes⟩
    | cons e done =>
        obtain ⟨rfl, htail⟩ := List.cons.inj hsplit
        exact h done rest htail

lemma endsOutside_node {w w₁ : Walk} {e : Event YamlLeaf YamlLabel} {events : List YamlEvent}
    (he : w.node R e = .ok w₁) :
    EndsOutside R w (.node e :: events) ↔ EndsOutside R w₁ events := by
  constructor
  · rintro h done rest rfl
    obtain ⟨w', hrun, hframes⟩ := h (.node e :: done) rest rfl
    obtain ⟨m, hm, hrest⟩ := Run.foldlM_cons_eq_ok.mp hrun
    obtain rfl := Except.ok.inj (he.symm.trans hm)
    exact ⟨w', hrest, hframes⟩
  · intro h done rest hsplit
    cases done with
    | nil => cases hsplit
    | cons e' done =>
        obtain ⟨rfl, htail⟩ := List.cons.inj hsplit
        obtain ⟨w', hrun, hframes⟩ := h done rest htail
        exact ⟨w', Run.foldlM_cons_eq_ok.mpr ⟨w₁, he, hrun⟩, hframes⟩

lemma endsOutside_other {w : Walk} {e : YamlEvent} {events : List YamlEvent}
    (hend : e ≠ .documentEnd) (hnode : ∀ done, nodeEvents (e :: done) = nodeEvents done) :
    EndsOutside R w (e :: events) ↔ EndsOutside R w events := by
  constructor
  · rintro h done rest rfl
    rw [← hnode]
    exact h (e :: done) rest rfl
  · intro h done rest hsplit
    cases done with
    | nil => exact absurd (List.cons.inj hsplit).1 hend
    | cons e' done =>
        obtain ⟨rfl, htail⟩ := List.cons.inj hsplit
        rw [hnode]
        exact h done rest htail

lemma foldlM_step_skip {s s' : Pass} {events : List YamlEvent} {P : Prop}
    (h : events.foldlM (Pass.step R) s = .ok s' ↔ P) :
    (∃ m, (.ok s : Except MihomoYamlError Pass) = .ok m ∧
      events.foldlM (Pass.step R) m = .ok s') ↔ P := by
  rw [← h]
  constructor
  · rintro ⟨m, hm, hrest⟩
    obtain rfl := Except.ok.inj hm
    exact hrest
  · intro hrest
    exact ⟨s, rfl, hrest⟩

/-- **The whole loop.**  It is the loop over the node events, with at most one document start and no
document end inside of a collection. -/
lemma foldlM_step {events : List YamlEvent} {s s' : Pass} (hs : s.documents ≤ 1) :
    events.foldlM (Pass.step R) s = .ok s' ↔
      (nodeEvents events).foldlM (Walk.node R) s.walk = .ok s'.walk ∧
        s.documents + events.countP YamlEvent.isDocumentStart = s'.documents ∧ s'.documents ≤ 1 ∧
        EndsOutside R s.walk events := by
  induction events generalizing s with
  | nil =>
      constructor
      · intro h
        obtain rfl := Except.ok.inj h
        exact ⟨rfl, rfl, hs, fun done rest hsplit => by simp at hsplit⟩
      · rintro ⟨hwalk, hdocuments, -, -⟩
        obtain ⟨walk, documents⟩ := s
        obtain ⟨walk', documents'⟩ := s'
        obtain rfl := Except.ok.inj hwalk
        obtain rfl : documents = documents' := hdocuments
        rfl
  | cons e events ih =>
      rw [Run.foldlM_cons_eq_ok]
      cases e with
      | streamStart =>
          rw [endsOutside_other (by nofun) fun _ => rfl]
          exact foldlM_step_skip (ih hs)
      | streamEnd =>
          rw [endsOutside_other (by nofun) fun _ => rfl]
          exact foldlM_step_skip (ih hs)
      | documentStart =>
          rw [endsOutside_other (by nofun) fun _ => rfl, List.countP_cons_of_pos rfl]
          simp only [Pass.step, Run.guard_eq_ok, Except.ok.injEq]
          constructor
          · rintro ⟨_, ⟨hfirst, rfl⟩, hrest⟩
            obtain ⟨hwalk, hdocuments, hend⟩ := (ih (not_lt.mp hfirst)).mp hrest
            dsimp only at hdocuments
            exact ⟨hwalk, by omega, hend⟩
          · rintro ⟨hwalk, hdocuments, hone, hends⟩
            refine ⟨_, ⟨by omega, rfl⟩, ?_⟩
            rw [ih (by dsimp only; omega)]
            exact ⟨hwalk, by dsimp only; omega, hone, hends⟩
      | documentEnd =>
          rw [endsOutside_documentEnd]
          simp only [Pass.step, Run.guard_eq_ok, not_not, Except.ok.injEq]
          constructor
          · rintro ⟨_, ⟨hframes, rfl⟩, hrest⟩
            obtain ⟨hwalk, hdocuments, hone, hends⟩ := (ih hs).mp hrest
            exact ⟨hwalk, hdocuments, hone, hframes, hends⟩
          · rintro ⟨hwalk, hdocuments, hone, hframes, hends⟩
            exact ⟨s, ⟨hframes, rfl⟩, (ih hs).mpr ⟨hwalk, hdocuments, hone, hends⟩⟩
      | node event =>
          simp only [Pass.step, Run.bind_eq_ok, Except.ok.injEq]
          constructor
          · rintro ⟨_, ⟨w, hw, rfl⟩, hrest⟩
            obtain ⟨hwalk, hdocuments, hone, hends⟩ := (ih (s := ⟨w, s.documents⟩) hs).mp hrest
            exact ⟨Run.foldlM_cons_eq_ok.mpr ⟨w, hw, hwalk⟩, hdocuments, hone,
              (endsOutside_node hw).mpr hends⟩
          · rintro ⟨hwalk, hdocuments, hone, hends⟩
            obtain ⟨w, hw, hwalk⟩ := Run.foldlM_cons_eq_ok.mp hwalk
            exact ⟨_, ⟨w, hw, rfl⟩, (ih (s := ⟨w, s.documents⟩) hs).mpr
              ⟨hwalk, hdocuments, hone, (endsOutside_node hw).mp hends⟩⟩

lemma boundedYamlPass_eq_ok {events : List YamlEvent} :
    boundedYamlPass R events = .ok () ↔
      events.countP YamlEvent.isDocumentStart = 1 ∧ DocumentEndsOutside events ∧
        ∃ t : YamlTree, nodeEvents events = t.events ∧ Acceptable R t := by
  have hloop : ∀ s, events.foldlM (Pass.step R) {} = .ok s ↔ _ := fun s => foldlM_step (Nat.zero_le 1)
  rw [boundedYamlPass, Run.bind_eq_ok, ← exists_acceptable]
  simp only [Run.guard_eq_ok, hloop, not_or, not_not, Bool.not_eq_false]
  constructor
  · rintro ⟨s, ⟨hwalk, hdocuments, -, hends⟩, ⟨hone, hseen, hframes⟩, -⟩
    refine ⟨by omega, ?_, s.walk, hwalk, hseen, hframes⟩
    intro done rest hsplit
    obtain ⟨w, hrun, hw⟩ := hends done rest hsplit
    exact (frames_eq_nil_iff hrun).mp hw
  · rintro ⟨hdocuments, hends, w, hwalk, hseen, hframes⟩
    refine ⟨⟨w, 1⟩, ⟨hwalk, by dsimp only; omega, le_rfl, ?_⟩, ⟨rfl, hseen, hframes⟩, trivial⟩
    rintro done rest rfl
    -- the loop got through the events before the document end
    rw [nodeEvents, List.filterMap_append] at hwalk
    obtain ⟨m, hm, -⟩ := Run.foldlM_append_eq_ok.mp hwalk
    exact ⟨m, hm, (frames_eq_nil_iff hm).mpr (hends done rest rfl)⟩

lemma nodeEvents_inStream (t : YamlTree) : nodeEvents (inStream t) = t.events := by
  have hnodes : nodeEvents (t.events.map YamlEvent.node) = t.events := by
    rw [nodeEvents, List.filterMap_map]
    exact List.filterMap_some
  change nodeEvents ((t.events.map YamlEvent.node ++ [.documentEnd]) ++ [.streamEnd]) = t.events
  rw [nodeEvents, List.filterMap_append, List.filterMap_append]
  change nodeEvents (t.events.map YamlEvent.node) ++ [] ++ [] = t.events
  rw [hnodes, List.append_nil, List.append_nil]

/-- In the stream of a tree the document starts once and ends after the tree. -/
lemma inStream_documents (t : YamlTree) :
    (inStream t).countP YamlEvent.isDocumentStart = 1 ∧ DocumentEndsOutside (inStream t) := by
  have hplain : ∀ e ∈ t.events.map YamlEvent.node, ∃ event, e = .node event := by
    intro e he
    obtain ⟨event, -, rfl⟩ := List.mem_map.mp he
    exact ⟨event, rfl⟩
  constructor
  · have hnone : (t.events.map YamlEvent.node).countP YamlEvent.isDocumentStart = 0 := by
      rw [List.countP_eq_zero]
      intro e he
      obtain ⟨event, rfl⟩ := hplain e he
      exact Bool.false_ne_true
    change (YamlEvent.documentStart :: (t.events.map YamlEvent.node ++ [YamlEvent.documentEnd]) ++
      [YamlEvent.streamEnd]).countP YamlEvent.isDocumentStart = 1
    rw [List.cons_append, List.countP_cons_of_pos rfl, List.countP_append, List.countP_append, hnone]
    rfl
  · intro done rest hsplit
    have hbefore : YamlEvent.documentEnd ∉
        YamlEvent.streamStart :: .documentStart :: t.events.map YamlEvent.node := by
      rintro (_ | ⟨_, _ | ⟨_, hmem⟩⟩)
      obtain ⟨event, hevent⟩ := hplain _ hmem
      cases hevent
    have hparts : inStream t = (.streamStart :: .documentStart :: t.events.map YamlEvent.node) ++
        .documentEnd :: [.streamEnd] := by
      simp only [inStream, inDocument, List.cons_append, List.append_assoc, List.nil_append]
    rw [hparts, List.append_cons_inj_of_notMem hbefore (by nofun)] at hsplit
    obtain ⟨rfl, -, -⟩ := hsplit
    have hnodes := nodeEvents_inStream t
    rw [hparts, nodeEvents, List.filterMap_append] at hnodes
    change nodeEvents _ ++ [] = t.events at hnodes
    rw [List.append_nil] at hnodes
    rw [hnodes]
    exact t.balanced

end Documents

/-- **The bounded event pass.**  The loop accepts a tree in one document exactly if the tree is an
acceptable configuration.  It accepts any sequence of events exactly if there is one document start,
every document end stands where no collection is open, and the node events, wherever the others
stand, are those of an acceptable tree. -/
theorem boundedYamlPass_accepts_iff (R : Resolver) :
    (∀ t : YamlTree, boundedYamlPass R (inStream t) = .ok () ↔ Acceptable R t) ∧
      ∀ events : List YamlEvent, boundedYamlPass R events = .ok () ↔
        events.countP YamlEvent.isDocumentStart = 1 ∧ DocumentEndsOutside events ∧
          ∃ t : YamlTree, nodeEvents events = t.events ∧ Acceptable R t := by
  refine ⟨fun t => ?_, fun events => boundedYamlPass_eq_ok⟩
  obtain ⟨hcount, hends⟩ := inStream_documents t
  rw [boundedYamlPass_eq_ok, nodeEvents_inStream]
  constructor
  · rintro ⟨-, -, ht⟩
    obtain ⟨w, hrun, -⟩ := exists_acceptable.mpr ht
    exact ((tree_events R t).mp hrun).1
  · intro ht
    exact ⟨hcount, hends, t, rfl, ht⟩

/-! ## A document start inside of a collection -/

/-- A resolver that knows only the default tags. -/
def defaultResolver : Resolver where
  scalar _ _ := stringTag
  collection kind _ := expectedTag kind

/-- An empty mapping whose document starts inside of it. -/
def lateDocument : List YamlEvent :=
  [.node (.start .mapping ⟨none, true⟩), .documentStart, .node (.finish .mapping), .documentEnd]

/-- The loop lets a sequence through that is no tree in a document. -/
theorem lateDocument_accepted :
    boundedYamlPass defaultResolver lateDocument = .ok () ∧
      boundedYamlPass defaultResolver (.streamStart :: (lateDocument ++ [.streamEnd])) = .ok () ∧
      ∀ t : YamlTree, lateDocument ≠ inDocument t ∧
        .streamStart :: (lateDocument ++ [.streamEnd]) ≠ inStream t := by
  refine ⟨rfl, rfl, fun t => ⟨?_, ?_⟩⟩
  · intro h
    cases (List.cons.inj h).1
  · intro h
    cases (List.cons.inj (List.cons.inj h).2).1

end FwRouter.Mihomo
