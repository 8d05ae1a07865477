import FwRouter.Rules.Model

/-!
# Mihomo rule lines

The rule lines that the configuration builder writes, as syntax trees, with the text of each tree,
a reader for the texts, and what Mihomo does with a list of them.

A line is `MATCH,target`, `TYPE,payload,target` with optional parameters after the target, or
`AND,((condition),(condition)),target`, where a nested condition is written without its target.
Fields that come from outside carry their well-formedness: a payload has no commas, parentheses
or white space, a network has no scope id.  `readRule_text` is the round trip, so a list of lines
can be evaluated as the list of trees it was printed from.

Mihomo takes the first rule that matches, but passes over a rule whose target cannot carry the
connection's network.
-/

namespace FwRouter.Mihomo

open Py Ipaddress

/-! ## Syntax -/

/-- A domain name as it may stand in a rule line. -/
structure Payload where
  text : Text
  ok : DomainOk text
deriving DecidableEq

/-- A network without a scope id; Mihomo reads no other. -/
structure PlainNetwork where
  network : IpNetwork
  unscoped : network.networkAddress.scopeId = none
deriving DecidableEq

/-- The conditions that look at one property of a connection. -/
inductive Atom where
  | domain (d : Payload)
  | domainSuffix (d : Payload)
  | ipCidr (n : PlainNetwork) (src noResolve : Bool)
  | ipCidr6 (n : PlainNetwork) (src noResolve : Bool)
  | srcIpCidr (n : PlainNetwork)
  | networkUdp
deriving DecidableEq

inductive Cond where
  | atom (a : Atom)
  | and (c d : Cond)
deriving DecidableEq

def isHexDigest (t : Text) : Bool :=
  t.length == 12 && t.all fun c => "0123456789abcdef".toList.contains c

/-- The first twelve hexadecimal digits of a SHA-1 digest. -/
structure Digest where
  text : Text
  ok : isHexDigest text = true
deriving DecidableEq

inductive Target where
  | direct
  | reject
  | vpnGlobal
  | subject (digest : Digest)
deriving DecidableEq

/-- `vpn-global` or one of the subject selectors. -/
def Target.isVpn : Target → Bool
  | .vpnGlobal | .subject _ => true
  | .direct | .reject => false

/-- A rule line; `none` is the condition of `MATCH`. -/
structure Rule where
  cond : Option Cond
  target : Target
deriving DecidableEq

/-! ## Text -/

def Target.text : Target → Text
  | .direct => "DIRECT".toList
  | .reject => "REJECT".toList
  | .vpnGlobal => "vpn-global".toList
  | .subject digest => "fwrouter-subject-".toList ++ digest.text

def Atom.typeText : Atom → Text
  | .domain _ => "DOMAIN".toList
  | .domainSuffix _ => "DOMAIN-SUFFIX".toList
  | .ipCidr .. => "IP-CIDR".toList
  | .ipCidr6 .. => "IP-CIDR6".toList
  | .srcIpCidr _ => "SRC-IP-CIDR".toList
  | .networkUdp => "NETWORK".toList

def Atom.payloadText : Atom → Text
  | .domain d | .domainSuffix d => d.text
  | .ipCidr n _ _ | .ipCidr6 n _ _ | .srcIpCidr n => n.network.str
  | .networkUdp => "udp".toList

/-- The parameters in the order in which the builder writes them. -/
def paramTexts (src noResolve : Bool) : List Text :=
  (if src then ["src".toList] else []) ++ if noResolve then ["no-resolve".toList] else []

def Atom.params : Atom → List Text
  | .ipCidr _ src noResolve | .ipCidr6 _ src noResolve => paramTexts src noResolve
  | _ => []

/-- `",".join(fields)`. -/
def joinFields (fields : List Text) : Text := [','].intercalate fields

/-- A condition as it stands inside an `AND`. -/
def Cond.text : Cond → Text
  | .atom a => joinFields (a.typeText :: a.payloadText :: a.params)
  | .and c d => "AND,((".toList ++ c.text ++ "),(".toList ++ d.text ++ "))".toList

def Rule.text (r : Rule) : Text :=
  match r.cond with
  | none => joinFields ["MATCH".toList, r.target.text]
  | some (.atom a) => joinFields (a.typeText :: a.payloadText :: r.target.text :: a.params)
  | some (.and c d) => (Cond.and c d).text ++ ',' :: r.target.text

/-! ## Reading -/

def readTarget (t : Text) : Option Target :=
  if t = "DIRECT".toList then some .direct
  else if t = "REJECT".toList then some .reject
  else if t = "vpn-global".toList then some .vpnGlobal
  else if "fwrouter-subject-".toList.isPrefixOf t then
    let digest := t.drop 17
    if h : isHexDigest digest = true then some (.subject ⟨digest, h⟩) else none
  else none

def readPayload (t : Text) : Option Payload := if h : DomainOk t then some ⟨t, h⟩ else none

def readNetwork (t : Text) : Option PlainNetwork :=
  if '%' ∈ t then none
  else (ipNetwork t).bind fun n =>
    if h : n.networkAddress.scopeId = none then some ⟨n, h⟩ else none

/-- `(src, no-resolve)`. -/
def readParams (params : List Text) : Option (Bool × Bool) :=
  if params = paramTexts false false then some (false, false)
  else if params = paramTexts false true then some (false, true)
  else if params = paramTexts true false then some (true, false)
  else if params = paramTexts true true then some (true, true)
  else none

def readAtom (type payload : Text) (params : List Text) : Option Atom :=
  if type = "DOMAIN".toList then
    if params = [] then (readPayload payload).map .domain else none
  else if type = "DOMAIN-SUFFIX".toList then
    if params = [] then (readPayload payload).map .domainSuffix else none
  else if type = "IP-CIDR".toList then
    (readNetwork payload).bind fun n => (readParams params).map fun p => .ipCidr n p.1 p.2
  else if type = "IP-CIDR6".toList then
    (readNetwork payload).bind fun n => (readParams params).map fun p => .ipCidr6 n p.1 p.2
  else if type = "SRC-IP-CIDR".toList then
    if params = [] then (readNetwork payload).map .srcIpCidr else none
  else if type = "NETWORK".toList then
    if params = [] ∧ payload = "udp".toList then some .networkUdp else none
  else none

/-- The text up to the parenthesis that closes the group, and what follows it. -/
def scanGroup (depth : Nat) : Text → Option (Text × Text)
  | [] => none
  | c :: t =>
      if c = '(' then (scanGroup (depth + 1) t).map fun p => (c :: p.1, p.2)
      else if c = ')' then
        match depth with
        | 0 => some ([], t)
        | depth + 1 => (scanGroup depth t).map fun p => (c :: p.1, p.2)
      else (scanGroup depth t).map fun p => (c :: p.1, p.2)

/-- A text behind a fixed beginning. -/
def dropStart (start t : Text) : Option Text :=
  if start.isPrefixOf t then some (t.drop start.length) else none

/-- The condition inside an `AND`; the fuel bounds the nesting. -/
def readCond : Nat → Text → Option Cond
  | 0, _ => none
  | fuel + 1, t =>
      match dropStart "AND,((".toList t with
      | some rest =>
          (scanGroup 0 rest).bind fun (c, rest) =>
            (dropStart ",(".toList rest).bind fun rest =>
              (scanGroup 0 rest).bind fun (d, rest) =>
                if rest = ")".toList then
                  (readCond fuel c).bind fun c => (readCond fuel d).map fun d => .and c d
                else none
      | none =>
          match t.splitOn ',' with
          | type :: payload :: params => (readAtom type payload params).map .atom
          | _ => none

/-- A rule line; `none` when Mihomo refuses it. -/
def readRule (t : Text) : Option Rule :=
  match t.splitOn ',' with
  | [] => none
  | type :: fields =>
      if type = "MATCH".toList then
        match fields with
        | [target] => (readTarget target).map fun target => ⟨none, target⟩
        | _ => none
      else if type = "AND".toList then
        -- the nested conditions keep their commas, the target follows the last one
        (readCond t.length (joinFields (type :: fields).dropLast)).bind fun c =>
          ((type :: fields).getLast?.bind readTarget).map fun target => ⟨some c, target⟩
      else match fields with
        | payload :: target :: params =>
            (readAtom type payload params).bind fun a =>
              (readTarget target).map fun target => ⟨some (.atom a), target⟩
        | _ => none

/-! ## Meaning -/

inductive Network where
  | tcp
  | udp
deriving DecidableEq

/-- A connection as the rules see it: its network, and which of the other conditions it meets. -/
structure Conn where
  network : Network
  test : Atom → Bool

def Conn.meets (conn : Conn) : Atom → Bool
  | .networkUdp => conn.network = .udp
  | a => conn.test a

def Cond.holds (conn : Conn) : Cond → Bool
  | .atom a => conn.meets a
  | .and c d => c.holds conn && d.holds conn

def Rule.matches (conn : Conn) (r : Rule) : Bool := r.cond.all fun c => c.holds conn

/-- The first rule that matches. -/
def firstMatch (conn : Conn) (rules : List Rule) : Option Rule := rules.find? (Rule.matches conn)

/-- The target carries the connection, unless it is a VPN target that cannot carry UDP and the
connection is UDP. -/
def carries (noUdp : Target → Bool) (conn : Conn) (t : Target) : Bool :=
  !(t.isVpn && noUdp t && conn.network = .udp)

/-- The target Mihomo hands the connection to: the first match that can carry it. -/
def route (noUdp : Target → Bool) (conn : Conn) (rules : List Rule) : Option Target :=
  (rules.find? fun r => r.matches conn && carries noUdp conn r.target).map Rule.target

/-- The same for a list of lines; `none` when a line is refused. -/
def routeLines (noUdp : Target → Bool) (conn : Conn) (lines : List Text) : Option Target :=
  (lines.mapM readRule).bind (route noUdp conn)

/-! ## Fields

No field of a line holds a comma, a parenthesis or white space.
-/

/-- A character that may stand in a field and starts no scope id. -/
def FieldChar (c : Char) : Prop := isSpace c = false ∧ c ∉ [',', '(', ')', '%']

instance (c : Char) : Decidable (FieldChar c) := inferInstanceAs (Decidable (_ ∧ _))

def FieldText (t : Text) : Prop := ∀ c ∈ t, FieldChar c

instance (t : Text) : Decidable (FieldText t) := List.decidableBAll FieldChar t

lemma fieldChar_digit {c : Char} (h : c.isDigit) : FieldChar c := by
  have hc : 48 ≤ c.toNat ∧ c.toNat ≤ 57 := by
    simpa [Char.isDigit, UInt32.le_iff_toNat_le] using h
  refine ⟨(digit_not_sep h).2, fun hm => ?_⟩
  simp only [List.mem_cons, List.not_mem_nil, or_false] at hm
  rcases hm with rfl | rfl | rfl | rfl <;> simp at hc

lemma fieldChar_hexDigit : ∀ d < 16, FieldChar (Nat.digitChar d) := by decide

lemma fieldText_network (n : PlainNetwork) : FieldText n.network.str := by
  obtain ⟨⟨⟨⟨v, ip, hlt⟩, scope, hv6, hok⟩, p, hp, hal⟩, h⟩ := n
  simp only at h
  subst h
  intro c hc
  rcases List.mem_append.mp hc with hc | hc
  · cases v with
    | v4 =>
        rcases mem_ipv4ToString hc with hc | rfl
        · exact fieldChar_digit hc
        · decide
    | v6 =>
        rcases mem_ipv6ToString hc with rfl | ⟨d, hd, rfl⟩
        · decide
        · exact fieldChar_hexDigit d hd
  · rcases List.mem_cons.mp hc with rfl | hc
    · decide
    · exact fieldChar_digit (isDigit_of_mem_dec hc)

lemma FieldText.domainOk {t : Text} (h : FieldText t) : DomainOk t := by
  refine ⟨fun c hc => (h c hc).1, fun c hc hm => (h c hc).2 ?_⟩
  simp only [List.mem_cons, List.not_mem_nil, or_false] at hm ⊢
  tauto

lemma domainOk_typeText (a : Atom) : DomainOk a.typeText := by
  cases a <;> dsimp only [Atom.typeText] <;> decide

lemma domainOk_payloadText (a : Atom) : DomainOk a.payloadText := by
  cases a with
  | domain d | domainSuffix d => exact d.ok
  | ipCidr n _ _ | ipCidr6 n _ _ | srcIpCidr n => exact (fieldText_network n).domainOk
  | networkUdp => dsimp only [Atom.payloadText]; decide

lemma domainOk_paramTexts (src noResolve : Bool) : ∀ t ∈ paramTexts src noResolve, DomainOk t := by
  cases src <;> cases noResolve <;> decide

lemma domainOk_params (a : Atom) : ∀ t ∈ a.params, DomainOk t := by
  cases a with
  | ipCidr n src noResolve | ipCidr6 n src noResolve => exact domainOk_paramTexts src noResolve
  | _ => simp [Atom.params]

lemma fieldText_digest (d : Digest) : FieldText d.text := by
  intro c hc
  have h := d.ok
  simp only [isHexDigest, Bool.and_eq_true, List.all_eq_true] at h
  have hall : FieldText "0123456789abcdef".toList := by decide
  exact hall c (by simpa using h.2 c hc)

lemma fieldText_target (t : Target) : FieldText t.text := by
  cases t with
  | subject d =>
      intro c hc
      rcases List.mem_append.mp hc with hc | hc
      · exact (by decide : FieldText "fwrouter-subject-".toList) c hc
      · exact fieldText_digest d c hc
  | _ => dsimp only [Target.text]; decide

lemma domainOk_target (t : Target) : DomainOk t.text := (fieldText_target t).domainOk

lemma comma_not_mem {t : Text} (h : DomainOk t) : ',' ∉ t := fun hc => h.2 _ hc (by simp)

/-- The fields of an atomic condition, without its target. -/
def Atom.fields (a : Atom) : List Text := a.typeText :: a.payloadText :: a.params

lemma domainOk_fields (a : Atom) : ∀ t ∈ a.fields, DomainOk t := by
  intro t ht
  rcases List.mem_cons.mp ht with rfl | ht
  · exact domainOk_typeText a
  · rcases List.mem_cons.mp ht with rfl | ht
    · exact domainOk_payloadText a
    · exact domainOk_params a t ht

/-- Cutting joined fields at the commas gives the fields back. -/
lemma splitOn_joinFields {fields : List Text} (h : ∀ t ∈ fields, DomainOk t) (hne : fields ≠ []) :
    (joinFields fields).splitOn ',' = fields :=
  List.splitOn_intercalate ',' (fun t ht => comma_not_mem (h t ht)) hne

/-! ## Round trip -/

lemma subject_text_ne (d : Digest) {t : Text} (h : t.head? ≠ some 'f') :
    "fwrouter-subject-".toList ++ d.text ≠ t := by
  rintro rfl
  exact h (by simp)

lemma readTarget_subject (d : Digest) :
    readTarget ("fwrouter-subject-".toList ++ d.text) = some (.subject d) := by
  have h1 := subject_text_ne d (t := "DIRECT".toList) (by decide)
  have h2 := subject_text_ne d (t := "REJECT".toList) (by decide)
  have h3 := subject_text_ne d (t := "vpn-global".toList) (by decide)
  have hp : "fwrouter-subject-".toList.isPrefixOf ("fwrouter-subject-".toList ++ d.text) = true := by
    simp
  have hdrop : ("fwrouter-subject-".toList ++ d.text).drop 17 = d.text := by simp
  unfold readTarget
  rw [if_neg h1, if_neg h2, if_neg h3, if_pos hp]
  simp only [hdrop]
  rw [dif_pos d.ok]

lemma readTarget_text (t : Target) : readTarget t.text = some t := by
  cases t with
  | subject d => exact readTarget_subject d
  | direct | reject | vpnGlobal => decide

lemma readPayload_text (d : Payload) : readPayload d.text = some d := by
  rw [readPayload, dif_pos d.ok]

lemma readNetwork_str (n : PlainNetwork) : readNetwork n.network.str = some n := by
  have hscope : '%' ∉ n.network.str := fun h => (fieldText_network n '%' h).2 (by simp)
  rw [readNetwork, if_neg hscope, ipNetwork_str, Option.bind_some, dif_pos n.unscoped]

lemma readParams_paramTexts (src noResolve : Bool) :
    readParams (paramTexts src noResolve) = some (src, noResolve) := by
  cases src <;> cases noResolve <;> decide

lemma readAtom_fields (a : Atom) : readAtom a.typeText a.payloadText a.params = some a := by
  cases a with
  | domain d =>
      show readAtom "DOMAIN".toList d.text [] = _
      rw [readAtom, if_pos rfl, if_pos rfl, readPayload_text]
      rfl
  | domainSuffix d =>
      show readAtom "DOMAIN-SUFFIX".toList d.text [] = _
      rw [readAtom, if_neg (by decide), if_pos rfl, if_pos rfl, readPayload_text]
      rfl
  | ipCidr n src noResolve =>
      show readAtom "IP-CIDR".toList n.network.str (paramTexts src noResolve) = _
      rw [readAtom, if_neg (by decide), if_neg (by decide), if_pos rfl, readNetwork_str,
        readParams_paramTexts]
      rfl
  | ipCidr6 n src noResolve =>
      show readAtom "IP-CIDR6".toList n.network.str (paramTexts src noResolve) = _
      rw [readAtom, if_neg (by decide), if_neg (by decide), if_neg (by decide), if_pos rfl,
        readNetwork_str, readParams_paramTexts]
      rfl
  | srcIpCidr n =>
      show readAtom "SRC-IP-CIDR".toList n.network.str [] = _
      rw [readAtom, if_neg (by decide), if_neg (by decide), if_neg (by decide),
        if_neg (by decide), if_pos rfl, if_pos rfl, readNetwork_str]
      rfl
  | networkUdp => decide

/-! ### Nested conditions -/

lemma scanGroup_open (depth : Nat) (t : Text) :
    scanGroup depth ('(' :: t) = (scanGroup (depth + 1) t).map fun p => ('(' :: p.1, p.2) := by
  cases depth <;> simp [scanGroup]

lemma scanGroup_close (t : Text) : scanGroup 0 (')' :: t) = some ([], t) := by simp [scanGroup]

lemma scanGroup_close_succ (depth : Nat) (t : Text) :
    scanGroup (depth + 1) (')' :: t) = (scanGroup depth t).map fun p => (')' :: p.1, p.2) := by
  simp [scanGroup]

lemma scanGroup_other {c : Char} (ho : c ≠ '(') (hc : c ≠ ')') (depth : Nat) (t : Text) :
    scanGroup depth (c :: t) = (scanGroup depth t).map fun p => (c :: p.1, p.2) := by
  cases depth <;> simp [scanGroup, ho, hc]

/-- A text whose parentheses are balanced is passed over as a whole. -/
def Balanced (t : Text) : Prop :=
  ∀ (depth : Nat) (rest : Text),
    scanGroup depth (t ++ rest) = (scanGroup depth rest).map fun p => (t ++ p.1, p.2)

lemma Balanced.append {s t : Text} (hs : Balanced s) (ht : Balanced t) : Balanced (s ++ t) := by
  intro depth rest
  rw [List.append_assoc, hs, ht, Option.map_map]
  simp [Function.comp_def]

lemma balanced_of_no_parens : ∀ {t : Text}, '(' ∉ t → ')' ∉ t → Balanced t
  | [], _, _ => fun depth rest => by simp
  | c :: t, ho, hc => fun depth rest => by
      have ih := balanced_of_no_parens (t := t) (fun h => ho (List.mem_cons_of_mem _ h))
        (fun h => hc (List.mem_cons_of_mem _ h))
      have h1 : c ≠ '(' := fun h => ho (by simp [h])
      have h2 : c ≠ ')' := fun h => hc (by simp [h])
      rw [List.cons_append, scanGroup_other h1 h2, ih, Option.map_map]
      rfl

lemma Balanced.group {t : Text} (h : Balanced t) : Balanced ('(' :: (t ++ [')'])) := by
  intro depth rest
  rw [List.cons_append, List.append_assoc, scanGroup_open, h, List.singleton_append,
    scanGroup_close_succ, Option.map_map, Option.map_map]
  simp [Function.comp_def]

/-- The closing parenthesis after a balanced text ends the group. -/
lemma scanGroup_balanced {t : Text} (h : Balanced t) (rest : Text) :
    scanGroup 0 (t ++ ')' :: rest) = some (t, rest) := by
  rw [h, scanGroup_close]
  simp

lemma balanced_joinFields {fields : List Text} (h : ∀ t ∈ fields, DomainOk t) :
    Balanced (joinFields fields) := by
  refine balanced_of_no_parens (fun hc => ?_) fun hc => ?_ <;>
  · rcases mem_intercalate hc with hc | ⟨t, ht, hc⟩
    · simp at hc
    · exact (h t ht).2 _ hc (by simp)

lemma Cond.text_and (c d : Cond) :
    (Cond.and c d).text = ['A', 'N', 'D', ','] ++
      ('(' :: ((('(' :: (c.text ++ [')'])) ++ ([','] ++ ('(' :: (d.text ++ [')'])))) ++ [')'])) := by
  have h1 : "AND,((".toList = ['A', 'N', 'D', ',', '(', '('] := rfl
  have h2 : "),(".toList = [')', ',', '('] := rfl
  have h3 : "))".toList = [')', ')'] := rfl
  show "AND,((".toList ++ c.text ++ "),(".toList ++ d.text ++ "))".toList = _
  rw [h1, h2, h3]
  simp

lemma balanced_cond : ∀ c : Cond, Balanced c.text
  | .atom a => balanced_joinFields (domainOk_fields a)
  | .and c d => by
      have hc := (balanced_cond c).group
      have hd := (balanced_cond d).group
      have hcomma : Balanced [','] := balanced_of_no_parens (by simp) (by simp)
      have hand : Balanced ['A', 'N', 'D', ','] := balanced_of_no_parens (by simp) (by simp)
      rw [Cond.text_and]
      exact hand.append (hc.append (hcomma.append hd)).group

def Cond.depth : Cond → Nat
  | .atom _ => 0
  | .and c d => max c.depth d.depth + 1

lemma joinFields_cons_cons (s t : Text) (fields : List Text) :
    joinFields (s :: t :: fields) = s ++ ',' :: joinFields (t :: fields) := by
  simp [joinFields, List.intercalate_cons_cons]

lemma Cond.text_atom (a : Atom) :
    (Cond.atom a).text = a.typeText ++ ',' :: joinFields (a.payloadText :: a.params) :=
  joinFields_cons_cons _ _ _

lemma Cond.depth_lt_length : ∀ c : Cond, c.depth < c.text.length
  | .atom a => by
      rw [Cond.text_atom]
      simp only [Cond.depth, List.length_append, List.length_cons]
      omega
  | .and c d => by
      have := c.depth_lt_length
      have := d.depth_lt_length
      rw [Cond.text_and]
      simp only [Cond.depth, List.length_append, List.length_cons, List.length_nil]
      omega

lemma typeText_cons (a : Atom) : ∃ c t, a.typeText = c :: t ∧ c ≠ 'A' := by
  cases a <;> exact ⟨_, _, rfl, by decide⟩

lemma dropStart_append (start t : Text) : dropStart start (start ++ t) = some t := by
  simp [dropStart]

/-- No atomic condition starts like an `AND`. -/
lemma dropStart_atom (a : Atom) : dropStart "AND,((".toList (Cond.atom a).text = none := by
  obtain ⟨c, t, hct, hc⟩ := typeText_cons a
  rw [Cond.text_atom, hct, show "AND,((".toList = 'A' :: ['N', 'D', ',', '(', '('] from rfl]
  simp [dropStart, hc.symm]

/-- **A nested condition is read back as it was written.** -/
lemma readCond_text : ∀ (c : Cond) {fuel : Nat}, c.depth < fuel → readCond fuel c.text = some c
  | .atom a, fuel + 1, _ => by
      rw [readCond, dropStart_atom]
      show (match (joinFields a.fields).splitOn ',' with
        | type :: payload :: params => (readAtom type payload params).map Cond.atom
        | _ => none) = _
      rw [splitOn_joinFields (domainOk_fields a) (by simp [Atom.fields])]
      show (readAtom a.typeText a.payloadText a.params).map Cond.atom = _
      rw [readAtom_fields]
      rfl
  | .and c d, fuel + 1, h => by
      simp only [Cond.depth] at h
      have htext : (Cond.and c d).text = "AND,((".toList ++
          (c.text ++ ')' :: (",(".toList ++ (d.text ++ ')' :: ")".toList))) := by
        rw [Cond.text_and, show "AND,((".toList = ['A', 'N', 'D', ',', '(', '('] from rfl,
          show ",(".toList = [',', '('] from rfl, show ")".toList = [')'] from rfl]
        simp
      rw [readCond, htext, dropStart_append]
      dsimp only
      rw [scanGroup_balanced (balanced_cond c), Option.bind_some]
      dsimp only
      rw [dropStart_append, Option.bind_some, scanGroup_balanced (balanced_cond d),
        Option.bind_some]
      dsimp only
      rw [if_pos rfl, readCond_text c (by omega), Option.bind_some, readCond_text d (by omega)]
      rfl

/-! ### Lines -/

/-- The first field of an `AND` and the beginning of the second. -/
lemma splitOn_cond_and (c d : Cond) :
    ∃ second rest, (Cond.and c d).text.splitOn ',' = "AND".toList :: second :: rest := by
  rw [Cond.text_and, show ['A', 'N', 'D', ','] = "AND".toList ++ [','] from rfl, List.append_assoc,
    List.singleton_append, List.splitOn_append_cons_self_of_not_mem (by decide)]
  obtain ⟨second, rest, h⟩ := List.exists_cons_of_ne_nil (List.splitOn_ne_nil ',' _)
  exact ⟨second, rest, congrArg _ h⟩

/-- The fields of an `AND` line: those of its condition, then the target. -/
lemma splitOn_and (c d : Cond) (t : Target) :
    ((Cond.and c d).text ++ ',' :: t.text).splitOn ','
      = (Cond.and c d).text.splitOn ',' ++ [t.text] := by
  rw [List.splitOn_append_cons_self, List.splitOn_eq_singleton (comma_not_mem (domainOk_target t))]

/-- The fields of the line of an atomic condition. -/
lemma splitOn_atom (a : Atom) (t : Target) :
    (joinFields (a.typeText :: a.payloadText :: t.text :: a.params)).splitOn ','
      = a.typeText :: a.payloadText :: t.text :: a.params := by
  refine splitOn_joinFields (fun s hs => ?_) (by simp)
  simp only [List.mem_cons] at hs
  rcases hs with rfl | rfl | rfl | hs
  · exact domainOk_typeText a
  · exact domainOk_payloadText a
  · exact domainOk_target t
  · exact domainOk_params a s hs

lemma splitOn_match (t : Target) :
    (joinFields ["MATCH".toList, t.text]).splitOn ',' = ["MATCH".toList, t.text] := by
  refine splitOn_joinFields (fun s hs => ?_) (by simp)
  rcases List.mem_cons.mp hs with rfl | hs
  · decide
  · obtain rfl := List.mem_singleton.mp hs
    exact domainOk_target t

lemma typeText_ne (a : Atom) : a.typeText ≠ "MATCH".toList ∧ a.typeText ≠ "AND".toList := by
  cases a <;> dsimp only [Atom.typeText] <;> decide

/-- **A rule line is read back as it was written.** -/
theorem readRule_text (r : Rule) : readRule r.text = some r := by
  obtain ⟨cond, target⟩ := r
  rcases cond with _ | (a | ⟨c, d⟩)
  · show readRule (joinFields ["MATCH".toList, target.text]) = _
    rw [readRule, splitOn_match]
    dsimp only
    rw [if_pos rfl, readTarget_text]
    rfl
  · show readRule (joinFields (a.typeText :: a.payloadText :: target.text :: a.params)) = _
    rw [readRule, splitOn_atom]
    dsimp only
    rw [if_neg (typeText_ne a).1, if_neg (typeText_ne a).2, readAtom_fields, Option.bind_some,
      readTarget_text]
    rfl
  · show readRule ((Cond.and c d).text ++ ',' :: target.text) = _
    obtain ⟨second, rest, hfields⟩ := splitOn_cond_and c d
    have hjoin : joinFields ("AND".toList :: second :: rest) = (Cond.and c d).text := by
      rw [← hfields]
      exact List.intercalate_splitOn ','
    have hfuel : (Cond.and c d).depth < ((Cond.and c d).text ++ ',' :: target.text).length :=
      (Cond.depth_lt_length _).trans_le (by simp)
    rw [readRule, splitOn_and, hfields, List.cons_append]
    dsimp only
    rw [if_neg (by decide), if_pos rfl, ← List.cons_append, List.dropLast_concat, hjoin,
      readCond_text _ hfuel, Option.bind_some, List.getLast?_concat, Option.bind_some,
      readTarget_text]
    rfl

/-- A list of printed lines is read back as the list of rules. -/
lemma mapM_readRule_text (rules : List Rule) : (rules.map Rule.text).mapM readRule = some rules := by
  induction rules with
  | nil => rfl
  | cons r rules ih => simp [readRule_text, ih]

/-- **Evaluating printed lines is evaluating the rules.** -/
lemma routeLines_text (noUdp : Target → Bool) (conn : Conn) (rules : List Rule) :
    routeLines noUdp conn (rules.map Rule.text) = route noUdp conn rules := by
  rw [routeLines, mapM_readRule_text, Option.bind_some]

end FwRouter.Mihomo
