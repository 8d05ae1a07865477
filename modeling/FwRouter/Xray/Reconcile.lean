import FwRouter.Xray.Egress

/-!
# Two reconciliations of the clients

`reconcile_clients` and `stage_subscription_generation` of `adapters/xray_real.py` each merge the
desired clients into those of the managed inbound.  They keep and drop the same clients
(`keeps`), and add the same ones.  They differ in when an alias is written: the staged merge writes
it into every client that stays, the direct one afterwards, through a map by email that knows the
last client of an email only.  So they agree as long as no desired client is there twice
(`directClients_eq`).
-/

namespace Xray

open Py

/-- What is read of a desired client, each field as `str(value or "")`. -/
structure DesiredClient where
  email : Text
  clientUuid : Text
  clientId : Text
  clientAlias : Text
deriving DecidableEq

/-- `str(item.get("client_uuid") or item.get("client_id") or "").strip()`. -/
def DesiredClient.uuid (d : DesiredClient) : Text := strip (textOrDefault d.clientUuid d.clientId)

/-- `str(item.get("alias") or "").strip()`. -/
def DesiredClient.aliasText (d : DesiredClient) : Text := strip d.clientAlias

section Merge

variable (U : Unicode) (reprText : Text → Text)

/-- `str(item.get("email") or "").strip().lower()`. -/
def DesiredClient.key (d : DesiredClient) : Text := U.lower (strip d.email)

/-- `desired_by_email`: of several entries with an email the last one counts. -/
def desiredByEmail (desired : List DesiredClient) : List (Text × DesiredClient) :=
  desired.foldl (fun known d =>
    if strip d.email = [] then known else KeyedTable.assign (d.key U) d known) []

/-- `prefixes`. -/
def managedPrefixes (managedEmailPrefixes : List Text) : List Text :=
  (managedEmailPrefixes.filter fun p => decide (strip p ≠ [])).map fun p => U.lower (strip p)

/-- `email and any(email.startswith(prefix) for prefix in prefixes)`. -/
def isManagedEmail (prefixes : List Text) (email : Text) : Bool :=
  decide (email ≠ []) && prefixes.any fun p => p.isPrefixOf email

/-- `str(raw_client.get("email") or "").strip().lower()`. -/
def emailOf (client : Dict) : Text := U.lower (strip (tagOf reprText "email" client))

/-- `str(raw_client.get("id") or "").strip()`. -/
def uuidOf (client : Dict) : Text := strip (tagOf reprText "id" client)

/-- The clients of the inbound that are dicts. -/
def rawClients (clients : List Value) : List Dict := clients.filterMap Value.asDict

/-- A client stays unless it is managed and not desired, or desired with another UUID. -/
def keeps (prefixes : List Text) (desired : List (Text × DesiredClient)) (client : Dict) : Bool :=
  match desired.lookup (emailOf U reprText client) with
  | none => !isManagedEmail prefixes (emailOf U reprText client)
  | some d => decide (d.uuid = [] ∨ uuidOf reprText client = d.uuid)

/-- `if alias: raw_client["fwrouterAlias"] = alias`. -/
def DesiredClient.setAlias (d : DesiredClient) (client : Dict) : Dict :=
  if d.aliasText = [] then client else client.set "fwrouterAlias" (.str d.aliasText)

/-- The new entry of a desired client. -/
def DesiredClient.entry (d : DesiredClient) (email uuid : Text) : Dict :=
  d.setAlias [field "id" (.str uuid), field "email" (.str (textOrDefault d.email email))]

/-! ## The direct merge -/

/-- The last client for which the test holds is changed. -/
def updateLast (p : Dict → Bool) (f : Dict → Dict) : List Dict → List Dict
  | [] => []
  | c :: clients => if p c && !clients.any p then f c :: clients else c :: updateLast p f clients

/-- The keys of `next_by_email`. -/
def nextEmails (clients : List Dict) : List Text :=
  (clients.filter fun c => decide (strip (tagOf reprText "email" c) ≠ [])).map (emailOf U reprText)

/-- The aliases of the desired clients that are there; `next_by_email` has the last client of an
email, and none of the new ones. -/
def writeAliases (desired : List (Text × DesiredClient)) (kept : List Dict) : List Dict :=
  desired.foldl (fun clients r =>
    if r.1 ∈ nextEmails U reprText kept then
      updateLast (fun c => decide (strip (tagOf reprText "email" c) ≠ [] ∧
        emailOf U reprText c = r.1)) r.2.setAlias clients
    else clients) kept

/-- The client list of `reconcile_clients`; `uuid4` gives an id to a client without one. -/
def reconcileClients (uuid4 : Text → Text) (clients : List Value) (desiredClients : List DesiredClient)
    (managedEmailPrefixes : List Text) : List Dict :=
  let desired := desiredByEmail U desiredClients
  let kept := (rawClients clients).filter
    (keeps U reprText (managedPrefixes U managedEmailPrefixes) desired)
  writeAliases U reprText desired kept ++
    (desired.filter fun r => decide (r.1 ∉ nextEmails U reprText kept)).map fun r =>
      r.2.entry r.1 (strip (textOrDefault (textOrDefault r.2.clientUuid r.2.clientId) (uuid4 r.1)))

/-! ## The staged merge -/

/-- A client that stays gets the alias of the desired client at once. -/
def stagedClient (desired : List (Text × DesiredClient)) (client : Dict) : Dict :=
  match desired.lookup (emailOf U reprText client) with
  | none => client
  | some d => d.setAlias client

/-- The client list of `stage_subscription_generation`; `none` is its answer that a client has no
UUID. -/
def stageClients (clients : List Value) (desiredClients : List DesiredClient)
    (managedEmailPrefixes : List Text) : Option (List Dict) :=
  let desired := desiredByEmail U desiredClients
  let next := ((rawClients clients).filter
    (keeps U reprText (managedPrefixes U managedEmailPrefixes) desired)).map
      (stagedClient U reprText desired)
  let missing := desired.filter fun r => decide (r.1 ∉ next.map (emailOf U reprText))
  if missing.any fun r => decide (r.2.uuid = []) then none
  else some (next ++ missing.map fun r => r.2.entry r.1 r.2.uuid)

/-! ## What a reconciliation is to do -/

/-- The id, the email and the alias of a client. -/
def clientEntry (client : Dict) : Value × Value × Value :=
  (client.get "id", client.get "email", client.get "fwrouterAlias")

/-- The email is neither managed nor desired. -/
def isForeign (prefixes : List Text) (desired : List (Text × DesiredClient)) (client : Dict) : Bool :=
  !isManagedEmail prefixes (emailOf U reprText client) &&
    (desired.lookup (emailOf U reprText client)).isNone

/-- The clients after a reconciliation: foreign ones as they were and in their order, each desired
email once and with its UUID, and no other managed email. -/
structure Reconciled (prefixes : List Text) (desired : List (Text × DesiredClient))
    (before after : List Dict) : Prop where
  foreign : after.filter (isForeign U reprText prefixes desired) =
    before.filter (isForeign U reprText prefixes desired)
  once : ∀ r ∈ desired, ∃ c, after.filter (fun c => decide (emailOf U reprText c = r.1)) = [c] ∧
    uuidOf reprText c = r.2.uuid
  managed : ∀ c ∈ after, isManagedEmail prefixes (emailOf U reprText c) = true →
    (desired.lookup (emailOf U reprText c)).isSome

/-- **The two merges agree**: they give the same entries in the same order, each result is
reconciled, and each merge leaves its own result alone. -/
def MergesAgree (uuid4 : Text → Text) (clients : List Value) (desiredClients : List DesiredClient)
    (managedEmailPrefixes : List Text) : Prop :=
  let direct := reconcileClients U reprText uuid4 clients desiredClients managedEmailPrefixes
  let reconciled := Reconciled U reprText (managedPrefixes U managedEmailPrefixes)
    (desiredByEmail U desiredClients) (rawClients clients)
  ∃ staged, stageClients U reprText clients desiredClients managedEmailPrefixes = some staged ∧
    direct.map clientEntry = staged.map clientEntry ∧ reconciled direct ∧ reconciled staged ∧
    reconcileClients U reprText uuid4 (direct.map .dict) desiredClients managedEmailPrefixes =
      direct ∧
    stageClients U reprText (staged.map .dict) desiredClients managedEmailPrefixes = some staged

/-- No desired client is there twice: at most one client of the inbound has the email and the UUID
of a desired one. -/
def NoDesiredTwice (clients : List Value) (desiredClients : List DesiredClient) : Prop :=
  ∀ r ∈ desiredByEmail U desiredClients, ((rawClients clients).filter fun c =>
    decide (emailOf U reprText c = r.1 ∧ uuidOf reprText c = r.2.uuid)).length ≤ 1

instance (clients : List Value) (desiredClients : List DesiredClient) :
    Decidable (NoDesiredTwice U reprText clients desiredClients) :=
  inferInstanceAs (Decidable (∀ r ∈ desiredByEmail U desiredClients, ((rawClients clients).filter
    fun c => decide (emailOf U reprText c = r.1 ∧ uuidOf reprText c = r.2.uuid)).length ≤ 1))

end Merge

/-! ## The desired clients by email -/

section Desired

variable {U : Unicode} {reprText : Text → Text} {desiredClients : List DesiredClient}

/-- The keys differ, and each entry stands under the key of its email. -/
lemma desiredByEmail_spec (desiredClients : List DesiredClient) :
    ((desiredByEmail U desiredClients).map Prod.fst).Nodup ∧
      ∀ r ∈ desiredByEmail U desiredClients, r.1 = r.2.key U ∧ strip r.2.email ≠ [] ∧
        r.2 ∈ desiredClients := by
  induction desiredClients using List.reverseRecOn with
  | nil => simp [desiredByEmail]
  | append_singleton known d ih =>
      obtain ⟨hnodup, hrows⟩ := ih
      have hrows' : ∀ r ∈ desiredByEmail U known, r.1 = r.2.key U ∧ strip r.2.email ≠ [] ∧
          r.2 ∈ known ++ [d] := fun r hr =>
        ⟨(hrows r hr).1, (hrows r hr).2.1, List.mem_append_left _ (hrows r hr).2.2⟩
      rw [desiredByEmail, List.foldl_append, List.foldl_cons, List.foldl_nil]
      change (List.map Prod.fst (if strip d.email = [] then desiredByEmail U known else
        KeyedTable.assign (d.key U) d (desiredByEmail U known))).Nodup ∧ ∀ r ∈ (if strip d.email = []
          then desiredByEmail U known else KeyedTable.assign (d.key U) d (desiredByEmail U known)), _
      by_cases hemail : strip d.email = []
      · rw [if_pos hemail]
        exact ⟨hnodup, hrows'⟩
      · rw [if_neg hemail]
        refine ⟨KeyedTable.nodup_keys_upsert hnodup, ?_⟩
        have hnew : d.key U = d.key U ∧ strip d.email ≠ [] ∧ d ∈ known ++ [d] :=
          ⟨rfl, hemail, List.mem_append_right _ (List.mem_singleton_self d)⟩
        exact KeyedTable.forall_row_upsert (P := fun k v => k = v.key U ∧ strip v.email ≠ [] ∧
          v ∈ known ++ [d]) hnew (fun _ _ => hnew) hrows'

lemma lookup_desired {r : Text × DesiredClient} (hr : r ∈ desiredByEmail U desiredClients) :
    (desiredByEmail U desiredClients).lookup r.1 = some r.2 :=
  (KeyedTable.mem_iff_lookup (desiredByEmail_spec desiredClients).1).mp hr

lemma mem_of_lookup_desired {email : Text} {d : DesiredClient}
    (h : (desiredByEmail U desiredClients).lookup email = some d) :
    (email, d) ∈ desiredByEmail U desiredClients :=
  (KeyedTable.mem_iff_lookup (desiredByEmail_spec desiredClients).1).mpr h

end Desired

/-! ## Clients under an alias -/

section Clients

variable {U : Unicode} {reprText : Text → Text}

lemma get_setAlias (d : DesiredClient) (c : Dict) {k : String} (hk : k ≠ "fwrouterAlias") :
    (d.setAlias c).get k = c.get k := by
  rw [DesiredClient.setAlias]
  split_ifs
  · rfl
  · exact Dict.get_set_of_ne hk

@[simp] lemma tagOf_email_setAlias (d : DesiredClient) (c : Dict) :
    tagOf reprText "email" (d.setAlias c) = tagOf reprText "email" c := by
  rw [tagOf, tagOf, get_setAlias d c (by decide)]

@[simp] lemma emailOf_setAlias (d : DesiredClient) (c : Dict) :
    emailOf U reprText (d.setAlias c) = emailOf U reprText c := by
  rw [emailOf, emailOf, tagOf_email_setAlias]

@[simp] lemma uuidOf_setAlias (d : DesiredClient) (c : Dict) :
    uuidOf reprText (d.setAlias c) = uuidOf reprText c := by
  rw [uuidOf, uuidOf, tagOf, tagOf, get_setAlias d c (by decide)]

/-- Writing an alias twice is writing it once. -/
@[simp] lemma setAlias_setAlias (d : DesiredClient) (c : Dict) :
    d.setAlias (d.setAlias c) = d.setAlias c := by
  rw [DesiredClient.setAlias, DesiredClient.setAlias]
  split_ifs
  · rfl
  · exact Dict.set_eq_self Dict.has_set_self Dict.get_set_self

lemma emailOf_entry (d : DesiredClient) (uuid : Text) (h : strip d.email ≠ []) :
    emailOf U reprText (d.entry (d.key U) uuid) = d.key U := by
  have hne : d.email ≠ [] := by
    rintro he
    exact h (by rw [he]; rfl)
  rw [DesiredClient.entry, emailOf_setAlias]
  show U.lower (strip ((Value.str (textOrDefault d.email (d.key U))).textOr reprText)) = _
  rw [Value.textOr_str, textOrDefault, if_neg hne]
  rfl

lemma uuidOf_entry (d : DesiredClient) (email uuid : Text) :
    uuidOf reprText (d.entry email uuid) = strip uuid := by
  rw [DesiredClient.entry, uuidOf_setAlias]
  show strip ((Value.str uuid).textOr reprText) = _
  rw [Value.textOr_str]

lemma emailOf_stagedClient (desired : List (Text × DesiredClient)) (c : Dict) :
    emailOf U reprText (stagedClient U reprText desired c) = emailOf U reprText c := by
  rw [stagedClient]
  cases desired.lookup (emailOf U reprText c) with
  | none => rfl
  | some d => exact emailOf_setAlias d c

end Clients

/-! ## The two merges as one -/

section Agree

variable {U : Unicode} {reprText : Text → Text} {uuid4 : Text → Text} {clients : List Value}
  {desiredClients : List DesiredClient} {managedEmailPrefixes : List Text}

/-- The clients that stay. -/
def keptClients (U : Unicode) (reprText : Text → Text) (clients : List Value)
    (desiredClients : List DesiredClient) (managedEmailPrefixes : List Text) : List Dict :=
  (rawClients clients).filter (keeps U reprText (managedPrefixes U managedEmailPrefixes)
    (desiredByEmail U desiredClients))

/-- The desired clients that are not there. -/
def missingClients (U : Unicode) (reprText : Text → Text) (clients : List Value)
    (desiredClients : List DesiredClient) (managedEmailPrefixes : List Text) :
    List (Text × DesiredClient) :=
  (desiredByEmail U desiredClients).filter fun r => decide (r.1 ∉
    (keptClients U reprText clients desiredClients managedEmailPrefixes).map (emailOf U reprText))

/-- What the staged merge gives when every desired client has a UUID. -/
def mergedClients (U : Unicode) (reprText : Text → Text) (clients : List Value)
    (desiredClients : List DesiredClient) (managedEmailPrefixes : List Text) : List Dict :=
  (keptClients U reprText clients desiredClients managedEmailPrefixes).map
      (stagedClient U reprText (desiredByEmail U desiredClients)) ++
    (missingClients U reprText clients desiredClients managedEmailPrefixes).map fun r =>
      r.2.entry r.1 r.2.uuid

lemma stageClients_eq (huuid : ∀ d ∈ desiredClients, d.uuid ≠ []) :
    stageClients U reprText clients desiredClients managedEmailPrefixes =
      some (mergedClients U reprText clients desiredClients managedEmailPrefixes) := by
  have hemails : ∀ l : List Dict, (l.map (stagedClient U reprText
      (desiredByEmail U desiredClients))).map (emailOf U reprText) = l.map (emailOf U reprText) := by
    intro l
    rw [List.map_map]
    exact List.map_congr_left fun c _ => emailOf_stagedClient _ c
  have hmissing : ∀ l : List (Text × DesiredClient), (∀ r ∈ l, r ∈ desiredByEmail U desiredClients) →
      ¬(l.any fun r => decide (r.2.uuid = [])) = true := by
    intro l hl hany
    obtain ⟨r, hr, hempty⟩ := List.any_eq_true.mp hany
    exact huuid r.2 ((desiredByEmail_spec desiredClients).2 r (hl r hr)).2.2
      (of_decide_eq_true hempty)
  rw [stageClients]
  simp only [hemails]
  exact if_neg (hmissing _ fun r hr => List.mem_of_mem_filter hr)

lemma lower_nil (U : Unicode) : U.lower [] = [] := U.lower_ascii [] (by simp [IsAscii])

/-- A client whose email has a key has an email. -/
lemma strip_ne_nil_of_emailOf {c : Dict} (h : emailOf U reprText c ≠ []) :
    strip (tagOf reprText "email" c) ≠ [] := by
  intro hempty
  rw [emailOf, hempty] at h
  exact h (lower_nil U)

/-- With one candidate the last one is all there are. -/
lemma updateLast_eq_map {p : Dict → Bool} {f : Dict → Dict} {l : List Dict}
    (h : (l.filter p).length ≤ 1) : updateLast p f l = l.map fun c => if p c then f c else c := by
  induction l with
  | nil => rfl
  | cons c l ih =>
      rw [updateLast]
      by_cases hc : p c = true
      · rw [List.filter_cons_of_pos hc, List.length_cons] at h
        have hnone : l.filter p = [] := List.length_eq_zero_iff.mp (by omega)
        have hany : l.any p = false := by
          rw [List.any_eq_false]
          exact List.filter_eq_nil_iff.mp hnone
        have hrest : (l.map fun c => if p c then f c else c) = l := by
          rw [List.map_congr_left (g := id), List.map_id]
          intro c hc
          exact if_neg (List.filter_eq_nil_iff.mp hnone c hc)
        rw [hc, hany, List.map_cons, hrest, if_pos hc]
        rfl
      · rw [List.filter_cons_of_neg hc] at h
        rw [List.map_cons, if_neg hc, ih h]
        simp [hc]

/-- The aliases, written one desired client after the other, are those of the staged merge. -/
lemma foldl_aliases (known : List Text) : ∀ (desired : List (Text × DesiredClient)) (l : List Dict),
    (desired.map Prod.fst).Nodup → (∀ r ∈ desired, r.1 ≠ []) →
    (∀ r ∈ desired, (l.filter fun c => decide (emailOf U reprText c = r.1)).length ≤ 1) →
    (∀ r ∈ desired, r.1 ∉ known → ∀ c ∈ l, emailOf U reprText c ≠ r.1) →
    desired.foldl (fun clients r =>
        if r.1 ∈ known then
          updateLast (fun c => decide (strip (tagOf reprText "email" c) ≠ [] ∧
            emailOf U reprText c = r.1)) r.2.setAlias clients
        else clients) l =
      l.map (stagedClient U reprText desired) := by
  intro desired
  induction desired with
  | nil =>
      intro l _ _ _ _
      exact (List.map_id l).symm
  | cons r desired ih =>
      intro l hnodup hne honce hknown
      obtain ⟨hr, hnodup⟩ := List.nodup_cons.mp hnodup
      set g : Dict → Dict := fun c => if emailOf U reprText c = r.1 then r.2.setAlias c else c with hg
      have hemail : ∀ c, emailOf U reprText (g c) = emailOf U reprText c := by
        intro c
        rw [hg]
        dsimp only
        split_ifs
        · exact emailOf_setAlias r.2 c
        · rfl
      have hstep : (if r.1 ∈ known then
          updateLast (fun c => decide (strip (tagOf reprText "email" c) ≠ [] ∧
            emailOf U reprText c = r.1)) r.2.setAlias l else l) = l.map g := by
        have hp : (fun c => decide (strip (tagOf reprText "email" c) ≠ [] ∧
            emailOf U reprText c = r.1)) = fun c => decide (emailOf U reprText c = r.1) := by
          funext c
          rw [decide_eq_decide, and_iff_right_iff_imp]
          intro hc
          exact strip_ne_nil_of_emailOf (hc ▸ hne r List.mem_cons_self)
        split_ifs with hmem
        · rw [hp, updateLast_eq_map (honce r List.mem_cons_self)]
          simp only [decide_eq_true_eq, hg]
        · rw [List.map_congr_left (g := id), List.map_id]
          intro c hc
          exact if_neg (hknown r List.mem_cons_self hmem c hc)
      rw [List.foldl_cons, hstep, ih (l.map g) hnodup fun x hx => hne x (List.mem_cons_of_mem _ hx)]
      · rw [List.map_map]
        refine List.map_congr_left fun c _ => ?_
        rw [Function.comp_apply, stagedClient, stagedClient, hemail, KeyedTable.lookup_cons_if]
        by_cases hc : emailOf U reprText c = r.1
        · have hnone : desired.lookup r.1 = none := by
            rw [List.lookup_eq_none_iff]
            rintro x hx
            rw [bne_iff_ne]
            intro hkey
            exact hr (hkey ▸ List.mem_map_of_mem hx)
          simp [hc, hnone, hg]
        · simp [hc, hg]
      · intro x hx
        rw [List.filter_map, List.length_map]
        simp only [Function.comp_def, hemail]
        exact honce x (List.mem_cons_of_mem _ hx)
      · intro x hx hmem c hc
        obtain ⟨before, hbefore, rfl⟩ := List.mem_map.mp hc
        rw [hemail]
        exact hknown x (List.mem_cons_of_mem _ hx) hmem before hbefore

/-- A desired client stays if it has its UUID. -/
lemma keeps_iff_of_lookup {prefixes : List Text} {desired : List (Text × DesiredClient)} {c : Dict}
    {d : DesiredClient} (h : desired.lookup (emailOf U reprText c) = some d) (hd : d.uuid ≠ []) :
    keeps U reprText prefixes desired c = true ↔ uuidOf reprText c = d.uuid := by
  rw [keeps, h]
  simp [hd]

/-- The clients that stay under a desired email are those with its UUID. -/
lemma filter_kept (huuid : ∀ d ∈ desiredClients, d.uuid ≠ []) {r : Text × DesiredClient}
    (hr : r ∈ desiredByEmail U desiredClients) :
    (keptClients U reprText clients desiredClients managedEmailPrefixes).filter
        (fun c => decide (emailOf U reprText c = r.1)) =
      (rawClients clients).filter fun c =>
        decide (emailOf U reprText c = r.1 ∧ uuidOf reprText c = r.2.uuid) := by
  have hd := huuid r.2 ((desiredByEmail_spec desiredClients).2 r hr).2.2
  rw [keptClients, List.filter_filter]
  refine List.filter_congr fun c _ => ?_
  by_cases hc : emailOf U reprText c = r.1
  · have hlookup : (desiredByEmail U desiredClients).lookup (emailOf U reprText c) = some r.2 := by
      rw [hc]
      exact lookup_desired hr
    rw [Bool.eq_iff_iff]
    simp [hc, keeps_iff_of_lookup hlookup hd]
  · simp [hc]

lemma key_ne_nil (hlower : ∀ t, U.lower t = [] → t = []) {r : Text × DesiredClient}
    (hr : r ∈ desiredByEmail U desiredClients) : r.1 ≠ [] := by
  obtain ⟨hkey, hemail, -⟩ := (desiredByEmail_spec desiredClients).2 r hr
  rw [hkey]
  exact fun h => hemail (hlower _ h)

/-- A desired email is there if a client that stays has it. -/
lemma mem_nextEmails {l : List Dict} {email : Text} (hemail : email ≠ []) :
    email ∈ nextEmails U reprText l ↔ email ∈ l.map (emailOf U reprText) := by
  rw [nextEmails, List.mem_map, List.mem_map]
  constructor
  · rintro ⟨c, hc, rfl⟩
    exact ⟨c, List.mem_of_mem_filter hc, rfl⟩
  · rintro ⟨c, hc, rfl⟩
    exact ⟨c, List.mem_filter.mpr ⟨hc, decide_eq_true (strip_ne_nil_of_emailOf hemail)⟩, rfl⟩

/-- **Without desired clients that are there twice, the direct merge is the staged one.** -/
lemma directClients_eq (hlower : ∀ t, U.lower t = [] → t = [])
    (huuid : ∀ d ∈ desiredClients, d.uuid ≠ [])
    (honce : NoDesiredTwice U reprText clients desiredClients) :
    reconcileClients U reprText uuid4 clients desiredClients managedEmailPrefixes =
      mergedClients U reprText clients desiredClients managedEmailPrefixes := by
  obtain ⟨hnodup, hrows⟩ := desiredByEmail_spec (U := U) desiredClients
  set kept := keptClients U reprText clients desiredClients managedEmailPrefixes with hkept
  have haliases : writeAliases U reprText (desiredByEmail U desiredClients) kept =
      kept.map (stagedClient U reprText (desiredByEmail U desiredClients)) := by
    refine foldl_aliases (nextEmails U reprText kept) _ kept hnodup
      (fun r hr => key_ne_nil hlower hr) ?_ ?_
    · intro r hr
      rw [hkept, filter_kept huuid hr]
      exact honce r hr
    · intro r hr hmem c hc hemail
      rw [mem_nextEmails (key_ne_nil hlower hr)] at hmem
      exact hmem (List.mem_map.mpr ⟨c, hc, hemail⟩)
  have hmissing : (desiredByEmail U desiredClients).filter
        (fun r => decide (r.1 ∉ nextEmails U reprText kept)) =
      missingClients U reprText clients desiredClients managedEmailPrefixes := by
    refine List.filter_congr fun r hr => ?_
    rw [decide_eq_decide, mem_nextEmails (key_ne_nil hlower hr)]
  change writeAliases U reprText (desiredByEmail U desiredClients) kept ++
    ((desiredByEmail U desiredClients).filter
      fun r => decide (r.1 ∉ nextEmails U reprText kept)).map _ = _
  rw [haliases, hmissing, mergedClients]
  congr 1
  refine List.map_congr_left fun r hr => ?_
  have hd := huuid r.2 (hrows r (List.mem_of_mem_filter hr)).2.2
  have hgiven : textOrDefault r.2.clientUuid r.2.clientId ≠ [] := by
    intro hempty
    exact hd (by rw [DesiredClient.uuid, hempty]; rfl)
  conv_lhs => rw [textOrDefault, if_neg hgiven]
  rfl

/-! ## What the merge gives -/

lemma emailOf_missing {r : Text × DesiredClient} (hr : r ∈ desiredByEmail U desiredClients) :
    emailOf U reprText (r.2.entry r.1 r.2.uuid) = r.1 := by
  obtain ⟨hkey, hemail, -⟩ := (desiredByEmail_spec desiredClients).2 r hr
  rw [hkey]
  exact emailOf_entry r.2 r.2.uuid hemail

/-- The clients of the merge under a desired email. -/
lemma filter_merged (huuid : ∀ d ∈ desiredClients, d.uuid ≠ []) {r : Text × DesiredClient}
    (hr : r ∈ desiredByEmail U desiredClients) :
    (mergedClients U reprText clients desiredClients managedEmailPrefixes).filter
        (fun c => decide (emailOf U reprText c = r.1)) =
      ((rawClients clients).filter fun c => decide (emailOf U reprText c = r.1 ∧
        uuidOf reprText c = r.2.uuid)).map r.2.setAlias ++
      if r.1 ∈ (keptClients U reprText clients desiredClients managedEmailPrefixes).map
        (emailOf U reprText) then [] else [r.2.entry r.1 r.2.uuid] := by
  obtain ⟨hnodup, hrows⟩ := desiredByEmail_spec (U := U) desiredClients
  rw [mergedClients, List.filter_append, List.filter_map, List.filter_map]
  congr 1
  · simp only [Function.comp_def, emailOf_stagedClient]
    rw [filter_kept huuid hr]
    refine List.map_congr_left fun c hc => ?_
    have hemail : emailOf U reprText c = r.1 := (of_decide_eq_true (List.mem_filter.mp hc).2).1
    rw [stagedClient, hemail, lookup_desired hr]
  · have hfilter : (missingClients U reprText clients desiredClients managedEmailPrefixes).filter
        ((fun c => decide (emailOf U reprText c = r.1)) ∘ fun r => r.2.entry r.1 r.2.uuid) =
        ((desiredByEmail U desiredClients).filter fun x => decide (x.1 = r.1)).filter
          fun x => decide (x.1 ∉ (keptClients U reprText clients desiredClients
            managedEmailPrefixes).map (emailOf U reprText)) := by
      rw [missingClients, List.filter_filter, List.filter_filter]
      refine List.filter_congr fun x hx => ?_
      rw [Function.comp_apply, emailOf_missing hx, Bool.and_comm]
    rw [hfilter, KeyedTable.filter_key_eq hnodup hr]
    split_ifs with hmem
    · rw [List.filter_cons_of_neg (by simpa using hmem)]
      rfl
    · rw [List.filter_cons_of_pos (by simpa using hmem)]
      rfl

lemma mem_merged {c : Dict}
    (hc : c ∈ mergedClients U reprText clients desiredClients managedEmailPrefixes) :
    (∃ raw ∈ keptClients U reprText clients desiredClients managedEmailPrefixes,
        c = stagedClient U reprText (desiredByEmail U desiredClients) raw) ∨
      ∃ r ∈ desiredByEmail U desiredClients, c = r.2.entry r.1 r.2.uuid := by
  rcases List.mem_append.mp hc with hc | hc
  · obtain ⟨raw, hraw, rfl⟩ := List.mem_map.mp hc
    exact Or.inl ⟨raw, hraw, rfl⟩
  · obtain ⟨r, hr, rfl⟩ := List.mem_map.mp hc
    exact Or.inr ⟨r, List.mem_of_mem_filter hr, rfl⟩

/-- Foreign clients stay, as they are and where they are. -/
lemma foreign_merged :
    (mergedClients U reprText clients desiredClients managedEmailPrefixes).filter
        (isForeign U reprText (managedPrefixes U managedEmailPrefixes)
          (desiredByEmail U desiredClients)) =
      (rawClients clients).filter (isForeign U reprText (managedPrefixes U managedEmailPrefixes)
        (desiredByEmail U desiredClients)) := by
  set desired := desiredByEmail U desiredClients with hdesired
  set foreign := isForeign U reprText (managedPrefixes U managedEmailPrefixes) desired with hforeign
  have hsame : (foreign ∘ stagedClient U reprText desired) = foreign := by
    funext c
    rw [Function.comp_apply, hforeign, isForeign, isForeign, emailOf_stagedClient]
  have hlookup : ∀ c, foreign c = true → desired.lookup (emailOf U reprText c) = none := by
    intro c hc
    rw [hforeign, isForeign, Bool.and_eq_true, Option.isNone_iff_eq_none] at hc
    exact hc.2
  have hnew : ((missingClients U reprText clients desiredClients managedEmailPrefixes).map fun r =>
      r.2.entry r.1 r.2.uuid).filter foreign = [] := by
    rw [List.filter_eq_nil_iff]
    intro c hc hf
    obtain ⟨r, hr, rfl⟩ := List.mem_map.mp hc
    have hr : r ∈ desiredByEmail U desiredClients := List.mem_of_mem_filter hr
    have hnone := hlookup _ hf
    rw [emailOf_missing hr, hdesired, lookup_desired hr] at hnone
    cases hnone
  rw [mergedClients, List.filter_append, hnew, List.append_nil, List.filter_map, hsame]
  have hid : ((keptClients U reprText clients desiredClients managedEmailPrefixes).filter
      foreign).map (stagedClient U reprText desired) =
      (keptClients U reprText clients desiredClients managedEmailPrefixes).filter foreign := by
    rw [List.map_congr_left (g := id), List.map_id]
    intro c hc
    rw [stagedClient, hlookup c (List.mem_filter.mp hc).2]
    rfl
  rw [← hdesired, hid, keptClients, List.filter_filter]
  refine List.filter_congr fun c _ => ?_
  by_cases hc : foreign c = true
  · have hkeeps : keeps U reprText (managedPrefixes U managedEmailPrefixes) desired c = true := by
      have hmanaged := hc
      rw [hforeign, isForeign, Bool.and_eq_true] at hmanaged
      rw [keeps, hlookup c hc]
      exact hmanaged.1
    rw [hc, hkeeps]
    rfl
  · simp [hc]

/-- No managed email stays that is not desired. -/
lemma managed_merged {c : Dict}
    (hc : c ∈ mergedClients U reprText clients desiredClients managedEmailPrefixes)
    (hmanaged : isManagedEmail (managedPrefixes U managedEmailPrefixes) (emailOf U reprText c) =
      true) : ((desiredByEmail U desiredClients).lookup (emailOf U reprText c)).isSome := by
  rcases mem_merged hc with ⟨raw, hraw, rfl⟩ | ⟨r, hr, rfl⟩
  · rw [emailOf_stagedClient] at hmanaged ⊢
    have hkeeps := (List.mem_filter.mp hraw).2
    cases hlookup : (desiredByEmail U desiredClients).lookup (emailOf U reprText raw) with
    | none =>
        rw [keeps, hlookup] at hkeeps
        simp [hmanaged] at hkeeps
    | some d => rfl
  · rw [emailOf_missing hr, lookup_desired hr]
    rfl

/-- **A merge without desired clients that are there twice is a reconciliation.** -/
lemma reconciled_merged (huuid : ∀ d ∈ desiredClients, d.uuid ≠ [])
    (honce : NoDesiredTwice U reprText clients desiredClients) :
    Reconciled U reprText (managedPrefixes U managedEmailPrefixes) (desiredByEmail U desiredClients)
      (rawClients clients)
      (mergedClients U reprText clients desiredClients managedEmailPrefixes) where
  foreign := foreign_merged
  managed := fun _ hc hmanaged => managed_merged hc hmanaged
  once := by
    intro r hr
    rw [filter_merged huuid hr]
    have hkept := @filter_kept U reprText clients desiredClients managedEmailPrefixes huuid r hr
    cases hfound : (rawClients clients).filter fun c => decide (emailOf U reprText c = r.1 ∧
        uuidOf reprText c = r.2.uuid) with
    | nil =>
        have hmem : r.1 ∉ (keptClients U reprText clients desiredClients managedEmailPrefixes).map
            (emailOf U reprText) := by
          intro hmem
          obtain ⟨c, hc, hemail⟩ := List.mem_map.mp hmem
          rw [hfound, List.filter_eq_nil_iff] at hkept
          exact hkept c hc (decide_eq_true hemail)
        rw [if_neg hmem]
        refine ⟨_, rfl, ?_⟩
        rw [uuidOf_entry, DesiredClient.uuid, strip_strip]
    | cons c rest =>
        have hlength := honce r hr
        rw [hfound, List.length_cons] at hlength
        obtain rfl : rest = [] := List.length_eq_zero_iff.mp (by omega)
        have hc : c ∈ (keptClients U reprText clients desiredClients managedEmailPrefixes).filter
            (fun c => decide (emailOf U reprText c = r.1)) := by
          rw [hkept, hfound]
          exact List.mem_singleton_self c
        have hmem : r.1 ∈ (keptClients U reprText clients desiredClients managedEmailPrefixes).map
            (emailOf U reprText) :=
          List.mem_map.mpr ⟨c, List.mem_of_mem_filter hc, of_decide_eq_true (List.mem_filter.mp hc).2⟩
        have hraw : c ∈ (rawClients clients).filter fun c => decide (emailOf U reprText c = r.1 ∧
            uuidOf reprText c = r.2.uuid) := by
          rw [hfound]
          exact List.mem_singleton_self c
        rw [if_pos hmem]
        refine ⟨_, rfl, ?_⟩
        rw [uuidOf_setAlias]
        exact (of_decide_eq_true (List.mem_filter.mp hraw).2).2

lemma rawClients_map (l : List Dict) : rawClients (l.map .dict) = l := by
  rw [rawClients, List.filterMap_map]
  exact List.filterMap_some

/-- **The merge leaves its own result alone.** -/
lemma merged_again (huuid : ∀ d ∈ desiredClients, d.uuid ≠ [])
    (honce : NoDesiredTwice U reprText clients desiredClients) :
    mergedClients U reprText
        ((mergedClients U reprText clients desiredClients managedEmailPrefixes).map .dict)
        desiredClients managedEmailPrefixes =
      mergedClients U reprText clients desiredClients managedEmailPrefixes := by
  set merged := mergedClients U reprText clients desiredClients managedEmailPrefixes with hmerged
  have hreconciled : Reconciled U reprText (managedPrefixes U managedEmailPrefixes)
      (desiredByEmail U desiredClients) (rawClients clients) merged := reconciled_merged huuid honce
  have hkept : keptClients U reprText (merged.map .dict) desiredClients managedEmailPrefixes =
      merged := by
    rw [keptClients, rawClients_map, List.filter_eq_self]
    intro c hc
    cases hlookup : (desiredByEmail U desiredClients).lookup (emailOf U reprText c) with
    | none =>
        rw [keeps, hlookup]
        cases hmanaged : isManagedEmail (managedPrefixes U managedEmailPrefixes)
            (emailOf U reprText c) with
        | false => rfl
        | true =>
            have := hreconciled.managed c hc hmanaged
            rw [hlookup] at this
            cases this
    | some d =>
        have hr := mem_of_lookup_desired hlookup
        obtain ⟨only, honly, hid⟩ := hreconciled.once _ hr
        have hmem : c ∈ merged.filter fun x => decide (emailOf U reprText x =
            emailOf U reprText c) := List.mem_filter.mpr ⟨hc, decide_eq_true rfl⟩
        rw [honly, List.mem_singleton] at hmem
        rw [keeps_iff_of_lookup hlookup (huuid d ((desiredByEmail_spec desiredClients).2 _ hr).2.2),
          hmem]
        exact hid
  have hmissing : missingClients U reprText (merged.map .dict) desiredClients
      managedEmailPrefixes = [] := by
    rw [missingClients, hkept, List.filter_eq_nil_iff]
    intro r hr
    obtain ⟨c, hc, -⟩ := hreconciled.once r hr
    have hmem : c ∈ merged.filter fun c => decide (emailOf U reprText c = r.1) := by
      rw [hc]
      exact List.mem_singleton_self c
    simp only [decide_not, Bool.not_eq_true', decide_eq_false_iff_not, not_not]
    exact List.mem_map.mpr ⟨c, List.mem_of_mem_filter hmem, of_decide_eq_true (List.mem_filter.mp hmem).2⟩
  rw [mergedClients, hkept, hmissing, List.map_nil, List.append_nil, List.map_congr_left (g := id),
    List.map_id]
  intro c hc
  rw [hmerged] at hc
  rcases mem_merged hc with ⟨raw, -, rfl⟩ | ⟨r, hr, rfl⟩
  · rw [stagedClient, emailOf_stagedClient, stagedClient]
    cases (desiredByEmail U desiredClients).lookup (emailOf U reprText raw) with
    | none => rfl
    | some d => exact setAlias_setAlias d raw
  · rw [stagedClient, emailOf_missing hr, lookup_desired hr]
    exact setAlias_setAlias r.2 _

end Agree

/-- **The two merges agree exactly if no desired client is there twice.** -/
theorem merges_agree_iff (U : Unicode) (reprText uuid4 : Text → Text) (clients : List Value)
    (desiredClients : List DesiredClient) (managedEmailPrefixes : List Text)
    (hlower : ∀ t, U.lower t = [] → t = []) (huuid : ∀ d ∈ desiredClients, d.uuid ≠ []) :
    MergesAgree U reprText uuid4 clients desiredClients managedEmailPrefixes ↔
      NoDesiredTwice U reprText clients desiredClients := by
  constructor
  · rintro ⟨staged, hstaged, -, -, hreconciled, -, -⟩ r hr
    rw [stageClients_eq huuid, Option.some.injEq] at hstaged
    obtain ⟨c, hc, -⟩ := hreconciled.once r hr
    rw [← hstaged, filter_merged huuid hr] at hc
    have hlength := congrArg List.length hc
    rw [List.length_append, List.length_map, List.length_singleton] at hlength
    omega
  · intro honce
    set merged := mergedClients U reprText clients desiredClients managedEmailPrefixes with hmerged
    have hagain : mergedClients U reprText (merged.map .dict) desiredClients managedEmailPrefixes =
        merged := merged_again huuid honce
    have hreconciled : Reconciled U reprText (managedPrefixes U managedEmailPrefixes)
        (desiredByEmail U desiredClients) (rawClients clients) merged :=
      reconciled_merged huuid honce
    have honceMerged : NoDesiredTwice U reprText (merged.map .dict) desiredClients := by
      intro r hr
      obtain ⟨c, hc, -⟩ := hreconciled.once r hr
      have hsub : (merged.filter fun c => decide (emailOf U reprText c = r.1 ∧
          uuidOf reprText c = r.2.uuid)).Sublist
          (merged.filter fun c => decide (emailOf U reprText c = r.1)) := by
        refine List.monotone_filter_right merged fun c h => ?_
        exact decide_eq_true (of_decide_eq_true h).1
      rw [rawClients_map]
      have hlength := hsub.length_le
      rwa [hc] at hlength
    have hdirect : reconcileClients U reprText uuid4 clients desiredClients managedEmailPrefixes =
        merged := directClients_eq hlower huuid honce
    have hdirectAgain : reconcileClients U reprText uuid4 (merged.map .dict) desiredClients
        managedEmailPrefixes = merged := (directClients_eq hlower huuid honceMerged).trans hagain
    refine ⟨merged, stageClients_eq huuid, ?_⟩
    rw [hdirect, hdirectAgain, stageClients_eq huuid, hagain]
    exact ⟨rfl, hreconciled, hreconciled, rfl, rfl⟩

/-- A client of the inbound. -/
def inboundClient (email uuid : String) : Value :=
  .dict [field "id" (literal uuid), field "email" (literal email)]

/-- A client that is to be there, under an alias. -/
def wantedClient (email uuid clientAlias : String) : DesiredClient where
  email := email.toList
  clientUuid := uuid.toList
  clientId := []
  clientAlias := clientAlias.toList

lemma lower_ascii_eq_nil (t : Text) (h : Unicode.ascii.lower t = []) : t = [] :=
  List.map_eq_nil_iff.mp h

/-- A foreign client, one that is desired and one that is not desired any more. -/
theorem merges_agree_on_distinct_clients :
    (∀ d ∈ [wantedClient "sub-ann@fw" "u1" "Ann"], d.uuid ≠ []) ∧
      MergesAgree Unicode.ascii id id
        [inboundClient "guest" "u0", inboundClient "Sub-Ann@fw" "u1", inboundClient "sub-bob@fw" "u2"]
        [wantedClient "sub-ann@fw" "u1" "Ann"] ["sub-".toList] := by
  have huuid : ∀ d ∈ [wantedClient "sub-ann@fw" "u1" "Ann"], d.uuid ≠ [] := by decide
  refine ⟨huuid, (merges_agree_iff _ _ _ _ _ _ lower_ascii_eq_nil huuid).mpr ?_⟩
  decide +kernel

def doubleClients : List Value := [inboundClient "sub-ann@fw" "u1", inboundClient "sub-ann@fw" "u1"]

/-- The same client twice: the staged merge writes the alias into both, the direct one into the
last. -/
theorem merges_differ_on_a_client_twice :
    (∀ d ∈ [wantedClient "sub-ann@fw" "u1" "Ann"], d.uuid ≠ []) ∧
      ¬MergesAgree Unicode.ascii id id doubleClients [wantedClient "sub-ann@fw" "u1" "Ann"]
        ["sub-".toList] := by
  refine ⟨by decide, ?_⟩
  rintro ⟨staged, hstaged, hentries, -⟩
  have hdirect : (reconcileClients Unicode.ascii id id doubleClients
      [wantedClient "sub-ann@fw" "u1" "Ann"] ["sub-".toList]).map
        (fun c => (clientEntry c).2.2.asText) = [none, some "Ann".toList] := by
    decide +kernel
  have halias : (stageClients Unicode.ascii id doubleClients
      [wantedClient "sub-ann@fw" "u1" "Ann"] ["sub-".toList]).map
        (List.map fun c => (clientEntry c).2.2.asText) =
      some [some "Ann".toList, some "Ann".toList] := by
    decide +kernel
  have hsame := congrArg (List.map fun e : Value × Value × Value => e.2.2.asText) hentries
  rw [List.map_map, List.map_map] at hsame
  rw [hstaged, Option.map_some, Option.some.injEq] at halias
  have hcontra := hdirect.symm.trans (hsame.trans halias)
  exact absurd hcontra (by decide)

end Xray
