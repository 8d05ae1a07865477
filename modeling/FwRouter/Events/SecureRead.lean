import FwRouter.Events.EventLog
import FwRouter.Events.SecureCursor
import FwRouter.Library.Paging

/-!
# Reading the log page by page

`read_secure_recent` reads the log from its newest row down, at most 250 rows at a time, and gives
out a cursor where there is more.  In a session a reader follows the cursors, each read at some later
state of the log.

`session_events` says what a session shows, `followed_iff` when a cursor can be followed, and
`read_hidden` on what a read depends.
-/

namespace FwRouter.Events

open Py

variable (H : Host)

/-! ## One read -/

/-- `SecureEventReadError`. -/
inductive ReadError
  | limitInvalid
  | filterInvalid
  | cursorInvalid
  | cursorStale
  | readUnavailable
deriving DecidableEq

def ReadError.code : ReadError → Text
  | .limitInvalid => "EVENTS_LIMIT_INVALID".toList
  | .filterInvalid => "EVENTS_FILTER_INVALID".toList
  | .cursorInvalid => "EVENTS_CURSOR_INVALID".toList
  | .cursorStale => "EVENTS_CURSOR_STALE".toList
  | .readUnavailable => "EVENTS_READ_UNAVAILABLE".toList

def ReadError.statusCode : ReadError → ℕ
  | .cursorStale => 409
  | .readUnavailable => 503
  | _ => 400

def maxLimit : ℤ := 100

def maxRawRows : ℕ := 250

structure Page where
  events : List SecureEvent
  scanned : ℕ
  nextCursor : Option Text

def noFilters : Filters := ⟨none, none, none⟩

/-- The anchor of a row, unless its id is not one. -/
def anchorOf (row : Selected) : Option Text :=
  match row.eventId with
  | none => some "null".toList
  | some id =>
      if id = [] then some "empty".toList
      else if canonicalUuid id then some ("uuid:".toList ++ id) else none

/-- `observed["event_code"] if observed else None`. -/
def anchorCode (row : Selected) : Option Text := (project H noFilters row).map SecureEvent.eventCode

/-- Where a first read starts. -/
def openCursor (f : Filters) (log : Log) : Except ReadError Cursor :=
  match log.rows.head? with
  | none => .ok ⟨0, "null".toList, none, none, 1, filterDigest H f⟩
  | some head =>
      if head.rowid = maxRowid then .error .readUnavailable
      else
        match anchorOf head.selected with
        | none => .error .readUnavailable
        | some anchor => .ok ⟨head.rowid, anchor, anchorCode H head.selected,
            head.selected.timestamp H, head.rowid + 1, filterDigest H f⟩

/-- The predicate of the query for the anchor. -/
def matchesAnchor (anchor : Text) (eventId : Option Text) : Bool :=
  if anchor = "null".toList then decide (eventId = none)
  else if anchor = "empty".toList then decide (eventId = some [])
  else decide (eventId = some (anchor.drop 5))

/-- The anchor of a cursor is still there. -/
def anchorStands (c : Cursor) (log : Log) : Bool :=
  match log.rows.find? fun r => decide (r.rowid = c.ceiling) && matchesAnchor c.anchor r.eventId with
  | none => false
  | some row => decide (row.selected.timestamp H = c.anchorTimestamp ∧
      anchorCode H row.selected = c.anchorCode)

/-- What is shown of a row. -/
def shown (f : Filters) (row : Row) : Option SecureEvent := project H f row.selected

/-- What the loop has at its end: the events, how many rows it looked at, and the last rowid. -/
structure Scan where
  events : List SecureEvent
  scanned : ℕ
  nextLast : ℕ

/-- The loop, with the number of rows and of events that are still allowed. -/
def scan (f : Filters) (log : Log) (ceiling : ℕ) : ℕ → ℕ → ℕ → Scan
  | rows + 1, events + 1, last =>
      match log.rows.find? fun r => decide (r.rowid ≤ ceiling ∧ r.rowid < last) with
      | none => ⟨[], 0, last⟩
      | some row =>
          match shown H f row with
          | some event =>
              let s := scan f log ceiling rows events row.rowid
              ⟨event :: s.events, s.scanned + 1, s.nextLast⟩
          | none =>
              let s := scan f log ceiling rows (events + 1) row.rowid
              ⟨s.events, s.scanned + 1, s.nextLast⟩
  | _, _, last => ⟨[], 0, last⟩

/-- The page at a cursor. -/
def readPage (f : Filters) (limit : ℕ) (c : Cursor) (log : Log) : Page :=
  if c.ceiling = 0 then ⟨[], 0, none⟩
  else
    let s := scan H f log c.ceiling maxRawRows limit c.last
    let more := log.rows.any fun r => decide (r.rowid ≤ c.ceiling ∧ r.rowid < s.nextLast)
    ⟨s.events, s.scanned,
      if more = true ∧ s.scanned ≠ 0 then
        some (encodeCursor { c with last := s.nextLast, filters := filterDigest H f })
      else none⟩

/-- Where a read starts: at the newest row, or where a cursor says if its anchor is there. -/
def startCursor (f : Filters) (log : Log) : Option Text → Except ReadError Cursor
  | none => openCursor H f log
  | some cursor =>
      match decodeCursor H f cursor with
      | none => .error .cursorInvalid
      | some c => if c.ceiling = 0 ∨ anchorStands H c log = true then .ok c else .error .cursorStale

/-- `read_secure_recent`. -/
def readSecureRecent (limit : ℤ) (f : Filters) (cursor : Option Text) (log : Log) :
    Except ReadError Page :=
  if ¬(1 ≤ limit ∧ limit ≤ maxLimit) then .error .limitInvalid
  else if checkFilters H f = false then .error .filterInvalid
  else (startCursor H f log cursor).map fun c => readPage H f limit.toNat c log

/-! ## What a page has -/

variable {H} {f : Filters} {log log' log₀ : Log} {c : Cursor}

lemma find?_below {ceiling last : ℕ} (hlast : last ≤ ceiling + 1) :
    (log.rows.find? fun r => decide (r.rowid ≤ ceiling ∧ r.rowid < last)) =
      (Paging.rowsBelow Row.rowid last log.rows).head? := by
  rw [Paging.rowsBelow, List.head?_filter]
  congr 1
  funext r
  refine decide_eq_decide.mpr ⟨And.right, fun h => ⟨?_, h⟩⟩
  omega

/-- **The loop** reads rows from the position down, one after the other. -/
lemma scan_spec {ceiling : ℕ} (rows events last : ℕ) (hlast : last ≤ ceiling + 1) :
    ∃ page, page <+: Paging.rowsBelow Row.rowid last log.rows ∧
      (scan H f log ceiling rows events last).events = page.filterMap (shown H f) ∧
      (scan H f log ceiling rows events last).scanned = page.length ∧
      (scan H f log ceiling rows events last).nextLast = Paging.next Row.rowid last page ∧
      page.length ≤ rows ∧ (page.filterMap (shown H f)).length ≤ events ∧
      (page = [] → rows = 0 ∨ events = 0 ∨ Paging.rowsBelow Row.rowid last log.rows = []) := by
  induction rows generalizing events last with
  | zero => exact ⟨[], List.nil_prefix, rfl, rfl, rfl, le_rfl, Nat.zero_le _, fun _ => Or.inl rfl⟩
  | succ rows ih =>
      cases events with
      | zero =>
          exact ⟨[], List.nil_prefix, rfl, rfl, rfl, Nat.zero_le _, le_rfl, fun _ => Or.inr (Or.inl rfl)⟩
      | succ events =>
          rw [scan, find?_below hlast]
          cases hhead : (Paging.rowsBelow Row.rowid last log.rows).head? with
          | none =>
              exact ⟨[], List.nil_prefix, rfl, rfl, rfl, Nat.zero_le _, Nat.zero_le _,
                fun _ => Or.inr (Or.inr (List.head?_eq_none_iff.mp hhead))⟩
          | some row =>
              obtain ⟨tail, heq⟩ := List.head?_eq_some_iff.mp hhead
              have hrow : row.rowid < last :=
                (Paging.mem_rowsBelow.mp (heq ▸ List.mem_cons_self : row ∈ _)).2
              -- below the row is what is left
              have hprefix : [row] <+: Paging.rowsBelow Row.rowid last log.rows := ⟨tail, heq.symm⟩
              have hbelow : Paging.rowsBelow Row.rowid last log.rows =
                  row :: Paging.rowsBelow Row.rowid row.rowid log.rows :=
                Paging.rowsBelow_eq_append log.sorted hprefix
              have hcons : ∀ {page}, page <+: Paging.rowsBelow Row.rowid row.rowid log.rows →
                  row :: page <+: Paging.rowsBelow Row.rowid last log.rows := by
                intro page hpage
                rw [hbelow]
                exact List.cons_prefix_cons.mpr ⟨rfl, hpage⟩
              cases hproject : shown H f row with
              | none =>
                  obtain ⟨page, hpage, hevents, hscanned, hnext, hrows, hlimit, -⟩ :=
                    ih (events + 1) row.rowid (by omega)
                  simp only [hproject]
                  refine ⟨row :: page, hcons hpage, ?_, ?_, ?_, Nat.succ_le_succ hrows, ?_, by simp⟩
                  · rw [List.filterMap_cons_none hproject]
                    exact hevents
                  · exact congrArg (· + 1) hscanned
                  · rw [Paging.next_cons]
                    exact hnext
                  · rwa [List.filterMap_cons_none hproject]
              | some event =>
                  obtain ⟨page, hpage, hevents, hscanned, hnext, hrows, hlimit, -⟩ :=
                    ih events row.rowid (by omega)
                  simp only [hproject]
                  refine ⟨row :: page, hcons hpage, ?_, ?_, ?_, Nat.succ_le_succ hrows, ?_, by simp⟩
                  · rw [List.filterMap_cons_some hproject]
                    exact congrArg (event :: ·) hevents
                  · exact congrArg (· + 1) hscanned
                  · rw [Paging.next_cons]
                    exact hnext
                  · rw [List.filterMap_cons_some hproject]
                    exact Nat.succ_le_succ hlimit

/-- What a page is, when rows were read from the position of its cursor. -/
structure PageOf (H : Host) (f : Filters) (log : Log) (c : Cursor) (limit : ℕ) (page : List Row)
    (p : Page) : Prop where
  rows : page <+: Paging.rowsBelow Row.rowid c.last log.rows
  events : p.events = page.filterMap (shown H f)
  scanned : p.scanned = page.length
  length_rows : page.length ≤ maxRawRows
  length_events : p.events.length ≤ limit
  next : ∀ text ∈ p.nextCursor, page ≠ [] ∧ text = encodeCursor
    { c with last := Paging.next Row.rowid c.last page, filters := filterDigest H f }
  complete : p.nextCursor = none →
    ∀ r ∈ log.rows, r.rowid ≤ c.ceiling → Paging.next Row.rowid c.last page ≤ r.rowid

lemma exists_pageOf {limit : ℕ} (hlimit : limit ≠ 0) (hceiling : c.ceiling ≠ 0)
    (hlast : c.last ≤ c.ceiling + 1) : ∃ page, PageOf H f log c limit page (readPage H f limit c log) := by
  obtain ⟨page, hpage, hevents, hscanned, hnext, hrows, hlength, hempty⟩ :=
    @scan_spec H f log _ maxRawRows limit c.last hlast
  rw [readPage, if_neg hceiling]
  dsimp only
  refine ⟨page, hpage, hevents, hscanned, hrows, by rwa [hevents], ?_, ?_⟩
  · intro text htext
    rw [Option.mem_def, Option.ite_none_right_eq_some] at htext
    obtain ⟨⟨-, hne⟩, htext⟩ := htext
    refine ⟨?_, ?_⟩
    · rintro rfl
      exact hne hscanned
    · rw [← Option.some.inj htext, hnext]
  · intro hnone r hr hle
    by_contra hlt
    by_cases hne : page = []
    · rcases hempty hne with hzero | hzero | hbelow
      · cases hzero
      · exact hlimit hzero
      · subst hne
        exact List.not_mem_nil (hbelow ▸ Paging.mem_rowsBelow.mpr ⟨hr, not_le.mp hlt⟩)
    · rw [← hnext] at hlt
      have hmore : (log.rows.any fun r => decide (r.rowid ≤ c.ceiling ∧
          r.rowid < (scan H f log c.ceiling maxRawRows limit c.last).nextLast)) = true :=
        List.any_eq_true.mpr ⟨r, hr, decide_eq_true ⟨hle, not_le.mp hlt⟩⟩
      have hscan : (scan H f log c.ceiling maxRawRows limit c.last).scanned ≠ 0 := by
        rw [hscanned]
        exact fun hzero => hne (List.length_eq_zero_iff.mp hzero)
      rw [if_pos ⟨hmore, hscan⟩] at hnone
      cases hnone

/-! ## Anchors -/

lemma validAnchor_of_anchorOf {row : Selected} {anchor : Text} (h : anchorOf row = some anchor) :
    validAnchor anchor = true := by
  unfold anchorOf at h
  split at h
  · rw [← Option.some.inj h]
    rfl
  · split_ifs at h with hempty hcanonical
    · rw [← Option.some.inj h]
      rfl
    · rw [← Option.some.inj h, validAnchor, Bool.or_eq_true, Bool.and_eq_true]
      exact Or.inr ⟨rfl, hcanonical⟩

/-- The predicate of the query finds the id of the anchor. -/
lemma matchesAnchor_iff {head r : Row} {anchor : Text} (h : anchorOf head.selected = some anchor) :
    matchesAnchor anchor r.eventId = true ↔ r.eventId = head.eventId := by
  have hne : "empty".toList ≠ "null".toList := by decide
  cases hid : head.eventId with
  | none =>
      have hanchor : anchor = "null".toList := by
        simpa [anchorOf, Row.selected, hid] using h.symm
      rw [matchesAnchor, if_pos hanchor, decide_eq_true_eq]
  | some id =>
      have h : (if id.take 64 = [] then some "empty".toList
          else if canonicalUuid (id.take 64) then some ("uuid:".toList ++ id.take 64) else none) =
          some anchor := by
        simpa only [anchorOf, Row.selected, hid, Option.map_some] using h
      split_ifs at h with hempty hcanonical
      · obtain rfl : id = [] := by simpa using hempty
        rw [← Option.some.inj h, matchesAnchor, if_neg hne, if_pos rfl, decide_eq_true_eq]
      · have hlength : (id.take 64).length = 36 :=
          of_decide_eq_true (Bool.and_eq_true_iff.mp hcanonical).1
        have htake : id.take 64 = id := by
          rw [List.length_take] at hlength
          exact List.take_of_length_le (by omega)
        rw [htake] at h
        have hfive : anchor.take 5 = "uuid:".toList := by
          rw [← Option.some.inj h]
          rfl
        have hnull : anchor ≠ "null".toList := by
          rintro rfl
          revert hfive
          decide
        have hempty' : anchor ≠ "empty".toList := by
          rintro rfl
          revert hfive
          decide
        rw [matchesAnchor, if_neg hnull, if_neg hempty', decide_eq_true_eq, ← Option.some.inj h]
        rfl

lemma anchorCode_valid {row : Selected} {code : Text} (h : anchorCode H row = some code) :
    inCatalog code = true ∨ code = legacyUnknown := by
  obtain ⟨event, hevent, rfl⟩ := Option.map_eq_some_iff.mp h
  exact (project_wellFormed H hevent).eventCode

lemma timestamp_valid {row : Selected} {t : Text} (h : row.timestamp H = some t) :
    canonicalTimestamp H t = true := by
  rw [Selected.timestamp, Option.ite_none_right_eq_some] at h
  obtain ⟨hcanonical, hsome⟩ := h
  rwa [← Option.some.inj hsome]

/-- The row is the anchor that the cursor of a session remembers. -/
def IsAnchor (H : Host) (head r : Row) : Prop :=
  r.rowid = head.rowid ∧ SameEvent H head r ∧ anchorCode H r.selected = anchorCode H head.selected

/-- A cursor of a session that began with this row. -/
structure CursorOf (H : Host) (f : Filters) (head : Row) (c : Cursor) : Prop where
  valid : c.Valid H f
  ceiling : c.ceiling = head.rowid
  anchor : anchorOf head.selected = some c.anchor
  anchorCode : c.anchorCode = anchorCode H head.selected
  anchorTimestamp : c.anchorTimestamp = head.selected.timestamp H

/-- **The check of the anchor.** -/
lemma anchorStands_iff {head : Row} (hc : CursorOf H f head c) :
    anchorStands H c log = true ↔ ∃ r ∈ log.rows, IsAnchor H head r := by
  have hfind : ∀ r : Row, (decide (r.rowid = c.ceiling) && matchesAnchor c.anchor r.eventId) = true ↔
      r.rowid = head.rowid ∧ r.eventId = head.eventId := by
    intro r
    rw [Bool.and_eq_true, decide_eq_true_eq, hc.ceiling, matchesAnchor_iff hc.anchor]
  rw [anchorStands]
  cases hrow : log.rows.find? fun r => decide (r.rowid = c.ceiling) && matchesAnchor c.anchor r.eventId with
  | none =>
      refine iff_of_false (by simp) ?_
      rintro ⟨r, hr, hrowid, ⟨hid, -⟩, -⟩
      exact List.find?_eq_none.mp hrow r hr ((hfind r).mpr ⟨hrowid, hid⟩)
  | some row =>
      have hmem := List.mem_of_find?_eq_some hrow
      have hfound := List.find?_some hrow
      obtain ⟨hrowid, hid⟩ := (hfind row).mp hfound
      show decide _ = true ↔ _
      rw [decide_eq_true_eq, hc.anchorTimestamp, hc.anchorCode]
      constructor
      · rintro ⟨htimestamp, hcode⟩
        exact ⟨row, hmem, hrowid, ⟨hid, htimestamp⟩, hcode⟩
      · rintro ⟨r, hr, hrowid', ⟨-, htimestamp⟩, hcode⟩
        obtain rfl := log.rowid_inj hmem hr (hrowid.trans hrowid'.symm)
        exact ⟨htimestamp, hcode⟩

lemma openCursor_spec (h : openCursor H f log = .ok c) :
    (log.rows = [] ∧ c.ceiling = 0) ∨ ∃ head, log.rows.head? = some head ∧ CursorOf H f head c ∧
      c.last = head.rowid + 1 := by
  unfold openCursor at h
  cases hhead : log.rows.head? with
  | none =>
      simp only [hhead] at h
      obtain rfl := Except.ok.inj h
      exact Or.inl ⟨List.head?_eq_none_iff.mp hhead, rfl⟩
  | some head =>
      simp only [hhead] at h
      split_ifs at h with hmax
      cases hanchor : anchorOf head.selected with
      | none =>
          simp only [hanchor] at h
          cases h
      | some anchor =>
          simp only [hanchor] at h
          obtain rfl := Except.ok.inj h
          have hle := log.bounded head (List.mem_of_mem_head? hhead)
          refine Or.inr ⟨head, rfl, ⟨⟨lt_of_le_of_ne hle hmax, le_rfl, validAnchor_of_anchorOf hanchor,
            fun code hcode => anchorCode_valid hcode, fun t ht => timestamp_valid ht, rfl⟩, rfl, hanchor,
            rfl, rfl⟩, rfl⟩

/-! ## Sessions -/

/-- **A session**: pages that were read one after the other, from one state of the log to another, and
the cursor of the last one. -/
inductive Session (H : Host) (f : Filters) : Log → Log → List Page → Option Text → Prop
  | first {log : Log} {limit : ℤ} {page : Page}
      (hread : readSecureRecent H limit f none log = .ok page) :
      Session H f log log [page] page.nextCursor
  | next {log₀ log log' : Log} {pages : List Page} {cursor : Text} {limit : ℤ} {page : Page}
      (hsession : Session H f log₀ log pages (some cursor)) (hrun : Reaches H log log')
      (hread : readSecureRecent H limit f (some cursor) log' = .ok page) :
      Session H f log₀ log' (pages ++ [page]) page.nextCursor

/-- What is known after some pages of a session: what was read of which table. -/
structure Progress (H : Host) (f : Filters) (log₀ log : Log) (pages : List Page) (head : Row)
    (reads : List (List Row × List Row)) (last : ℕ) : Prop where
  anchored : Anchored head log₀.rows log
  paging : Paging.Reads Row.rowid (head.rowid + 1) reads last
  events : pages.flatMap Page.events = (Paging.rows reads).filterMap (shown H f)
  tables : ∀ p ∈ reads, ∀ r ∈ p.1, r.rowid ≤ head.rowid → r ∈ log₀.rows
  kept : ∀ r ∈ log.rows, r.rowid ≤ head.rowid → ∀ p ∈ reads, r ∈ p.1

lemma read_ok {limit : ℤ} {cursor : Option Text} {page : Page}
    (h : readSecureRecent H limit f cursor log = .ok page) :
    1 ≤ limit ∧ limit ≤ 100 ∧ checkFilters H f = true ∧
      ∃ c, startCursor H f log cursor = .ok c ∧ page = readPage H f limit.toNat c log := by
  unfold readSecureRecent at h
  split_ifs at h with hlimit hfilters
  refine ⟨hlimit.1, hlimit.2, Bool.eq_true_of_not_eq_false hfilters, ?_⟩
  cases hstart : startCursor H f log cursor with
  | error e =>
      rw [hstart] at h
      cases h
  | ok c =>
      rw [hstart] at h
      exact ⟨c, rfl, (Except.ok.inj h).symm⟩

/-- **Another page.** -/
lemma Progress.page {pages : List Page} {head : Row} {reads : List (List Row × List Row)} {last : ℕ}
    {limit : ℕ} {rows : List Row} {page : Page} (h : Progress H f log₀ log pages head reads last)
    (hanchored : Anchored head log₀.rows log')
    (hsub : ∀ r ∈ log'.rows, r.rowid ≤ head.rowid → r ∈ log.rows) (hlast : c.last = last)
    (hpage : PageOf H f log' c limit rows page) :
    Progress H f log₀ log' (pages ++ [page]) head (reads ++ [(log'.rows, rows)])
      (Paging.next Row.rowid last rows) where
  anchored := hanchored
  paging := h.paging.concat log'.sorted (hlast ▸ hpage.rows)
  events := by
    rw [Paging.rows_concat, List.filterMap_append, List.flatMap_append, h.events, ← hpage.events]
    simp
  tables := by
    intro p hp
    rcases List.mem_append.mp hp with hp | hp
    · exact h.tables p hp
    · obtain rfl := List.mem_singleton.mp hp
      exact hanchored.below
  kept := by
    intro r hr hle p hp
    rcases List.mem_append.mp hp with hp | hp
    · exact h.kept r (hsub r hr hle) hle p hp
    · obtain rfl := List.mem_singleton.mp hp
      exact hr

/-- Where the next page starts, and how far the session is. -/
structure Position (H : Host) (f : Filters) (log : Log) (pages : List Page) (cursor : Option Text)
    (head : Row) (rows : List Row) (last : ℕ) : Prop where
  next : ∀ text ∈ cursor, ∃ c, text = encodeCursor c ∧ CursorOf H f head c ∧ c.last = last
  complete : cursor = none → ∀ r ∈ log.rows, r.rowid ≤ head.rowid → last ≤ r.rowid
  length : pages.length ≤ rows.length + 1
  length_of_cursor : cursor ≠ none → pages.length ≤ rows.length
  bounds : ∀ p ∈ pages, p.events.length ≤ 100 ∧ p.scanned ≤ 250

lemma position_page {pages : List Page} {head : Row} {rows found : List Row} {limit : ℕ}
    {page : Page} (hc : CursorOf H f head c) (hlimit : limit ≤ 100)
    (hpage : PageOf H f log c limit found page) (hlength : pages.length ≤ rows.length)
    (hbounds : ∀ p ∈ pages, p.events.length ≤ 100 ∧ p.scanned ≤ 250)
    (hlast : Paging.next Row.rowid c.last found ≤ c.last) :
    Position H f log (pages ++ [page]) page.nextCursor head (rows ++ found)
      (Paging.next Row.rowid c.last found) where
  next := by
    intro text htext
    refine ⟨_, (hpage.next text htext).2, ⟨⟨hc.valid.ceiling, hlast.trans hc.valid.last,
      hc.valid.anchor, hc.valid.anchorCode, hc.valid.anchorTimestamp, rfl⟩, hc.ceiling, hc.anchor,
      hc.anchorCode, hc.anchorTimestamp⟩, rfl⟩
  complete := by
    intro hnone r hr hle
    exact hpage.complete hnone r hr (hc.ceiling ▸ hle)
  length := by
    rw [List.length_append, List.length_append, List.length_singleton]
    omega
  length_of_cursor := by
    intro hsome
    obtain ⟨text, htext⟩ := Option.ne_none_iff_exists'.mp hsome
    have hne := List.length_pos_iff.mpr (hpage.next text htext).1
    rw [List.length_append, List.length_append, List.length_singleton]
    omega
  bounds := by
    intro p hp
    rcases List.mem_append.mp hp with hp | hp
    · exact hbounds p hp
    · obtain rfl := List.mem_singleton.mp hp
      exact ⟨hpage.length_events.trans hlimit, hpage.scanned.le.trans hpage.length_rows⟩

/-- What a session has read, if the log was not empty when it began. -/
lemma Session.progress {pages : List Page} {cursor : Option Text}
    (h : Session H f log₀ log pages cursor) :
    (log₀.rows = [] ∧ log = log₀ ∧ pages = [⟨[], 0, none⟩] ∧ cursor = none) ∨
      ∃ head reads last, log₀.rows.head? = some head ∧
        Progress H f log₀ log pages head reads last ∧
        Position H f log pages cursor head (Paging.rows reads) last := by
  induction h with
  | @first limit page hread =>
      obtain ⟨hpos, hlimit, -, c, hstart, rfl⟩ := read_ok hread
      rcases openCursor_spec hstart with ⟨hempty, hceiling⟩ | ⟨head, hhead, hc, hlast⟩
      · refine Or.inl ⟨hempty, rfl, ?_, ?_⟩
        · rw [readPage, if_pos hceiling]
        · rw [readPage, if_pos hceiling]
      · have hmem := List.mem_of_mem_head? hhead
        have hanchored : Anchored head log₀.rows log₀ :=
          ⟨hmem, fun r hr _ => hr, fun r hr hgt =>
            absurd hgt (not_lt.mpr (log₀.le_head hhead hr))⟩
        have hceiling : c.ceiling ≠ 0 := by
          rw [hc.ceiling]
          exact (log₀.positive head hmem).ne'
        obtain ⟨found, hpage⟩ := @exists_pageOf H f log₀ _ _
          (show limit.toNat ≠ 0 by omega) hceiling hc.valid.last
        have hstart : Progress H f log₀ log₀ [] head [] (head.rowid + 1) :=
          ⟨hanchored, .nil _, rfl, by simp, by simp⟩
        refine Or.inr ⟨head, _, _, hhead, hstart.page hanchored (fun r hr _ => hr) hlast hpage, ?_⟩
        have hnone : ([] : List Page).length ≤ (Paging.rows ([] : List (List Row × List Row))).length :=
          le_rfl
        rw [Paging.rows_concat, ← hlast]
        exact position_page hc (by omega) hpage hnone (fun p hp => absurd hp List.not_mem_nil)
          (Paging.next_le hpage.rows)
  | @next log log' pages cursor limit page hsession hrun hread ih =>
      obtain ⟨hpos, hlimit, -, c, hstart, rfl⟩ := read_ok hread
      rcases ih with ⟨-, -, -, hnone⟩ | ⟨head, reads, last, hhead, hprogress, hposition⟩
      · cases hnone
      · obtain ⟨c', rfl, hc, hlast⟩ := hposition.next cursor rfl
        have hceiling : c'.ceiling ≠ 0 := by
          rw [hc.ceiling]
          exact (log₀.positive head (List.mem_of_mem_head? hhead)).ne'
        have hstart : (if c'.ceiling = 0 ∨ anchorStands H c' log' = true then Except.ok c'
            else .error ReadError.cursorStale) = .ok c := by
          simpa only [startCursor, decodeCursor_encodeCursor H hc.valid, if_true] using hstart
        split_ifs at hstart with hstands
        obtain rfl := Except.ok.inj hstart
        obtain ⟨r, hr, hrowid, hsame, -⟩ :=
          (anchorStands_iff hc).mp (hstands.resolve_left hceiling)
        have hfound : ∃ r ∈ log'.rows, r.rowid = head.rowid ∧ SameEvent H head r :=
          ⟨r, hr, hrowid, hsame⟩
        have hanchored := anchored_of_reaches hprogress.anchored hrun hfound
        -- the same from the last page on: what is below the anchor was there then
        have hsince : Anchored head log.rows log' := anchored_of_reaches
          ⟨hprogress.anchored.mem, fun r hr _ => hr, hprogress.anchored.above⟩ hrun hfound
        obtain ⟨found, hpage⟩ := @exists_pageOf H f log' _ _
          (show limit.toNat ≠ 0 by omega) hceiling hc.valid.last
        refine Or.inr ⟨head, _, _, hhead,
          hprogress.page hanchored hsince.below hlast hpage, ?_⟩
        rw [Paging.rows_concat, ← hlast]
        exact position_page hc (by omega) hpage (hposition.length_of_cursor (by simp))
          hposition.bounds (Paging.next_le hpage.rows)

lemma Session.checkFilters {pages : List Page} {cursor : Option Text}
    (h : Session H f log₀ log pages cursor) : checkFilters H f = true := by
  cases h with
  | first hread => exact (read_ok hread).2.2.1
  | next _ _ hread => exact (read_ok hread).2.2.1

/-- What the answer is to a cursor that a session gave out. -/
lemma Session.read_next {pages : List Page} {cursor : Text} {limit : ℤ}
    (h : Session H f log₀ log pages (some cursor)) (hlimit : 1 ≤ limit ∧ limit ≤ 100) :
    ∃ head c, log₀.rows.head? = some head ∧ cursor = encodeCursor c ∧ CursorOf H f head c ∧
      ∀ log', readSecureRecent H limit f (some cursor) log' =
        if anchorStands H c log' = true then .ok (readPage H f limit.toNat c log')
        else .error .cursorStale := by
  rcases h.progress with ⟨-, -, -, hnone⟩ | ⟨head, reads, last, hhead, -, hposition⟩
  · cases hnone
  · obtain ⟨c, rfl, hc, -⟩ := hposition.next cursor rfl
    have hceiling : c.ceiling ≠ 0 := by
      rw [hc.ceiling]
      exact (log₀.positive head (List.mem_of_mem_head? hhead)).ne'
    have hlimit' : ¬¬(1 ≤ limit ∧ limit ≤ maxLimit) := not_not.mpr hlimit
    refine ⟨head, c, hhead, rfl, hc, ?_⟩
    intro log'
    rw [readSecureRecent, if_neg hlimit', h.checkFilters, if_neg (by decide), startCursor,
      decodeCursor_encodeCursor H hc.valid, if_pos rfl]
    dsimp only
    by_cases hstands : anchorStands H c log' = true
    · rw [if_pos hstands, if_pos (Or.inr hstands)]
      rfl
    · rw [if_neg hstands, if_neg (by simp [hceiling, hstands])]
      rfl

/-! ## A log of two rows -/

/-- `sha256` of the JSON text of no filters. -/
def noFiltersSha : Text :=
  ['8', '6', '2', '3', '3', '4', 'a', '0', '2', '8', '9', '2', '3', '5', '9', '0', '1', '8', '6',
    'f', '6', '4', 'c', '5', '4', '3', '0', 'c', '3', '3', 'd', 'e', 'a', 'b', 'f', 'd', '9', 'c',
    'c', 'a', '9', 'a', '1', '6', '5', '4', 'e', '8', 'c', '1', '0', '6', '1', 'c', '6', 'f', 'a',
    'c', 'c', '8', 'd', '9', '8', '0']

lemma noFiltersSha_hexadecimal :
    (noFiltersSha.all fun c => "0123456789abcdef".toList.contains c) = true := by decide

def exampleHost : Host where
  tables := ⟨fun _ => true, id, fun c => decide (c.toNat < 32), id⟩
  strftimeYear := dec
  sha256 :=
    { hexdigest := fun _ => noFiltersSha
      length_hexdigest := fun _ => rfl
      hexadecimal := fun _ => by simpa using noFiltersSha_hexadecimal }

def actionId (digit : Char) : Text := "00000000-0000-4000-8000-00000000000".toList ++ [digit]

/-- A row that a user's action left. -/
def actionRow (rowid : ℕ) (digit : Char) (details : Option Text) : Row where
  rowid := rowid
  eventId := some (actionId digit)
  eventType := "user_action".toList
  detailsJson := details
  createdAt := "2026-09-28 10:00:00".toList

/-- Two rows, the first one with these details. -/
def twoRows (details : Option Text) : Log where
  rows := [actionRow 2 '2' none, actionRow 1 '1' details]
  cutoff := []
  sorted := List.pairwise_pair.mpr Nat.one_lt_two
  positive r hr := by
    simp only [List.mem_cons, List.not_mem_nil, or_false] at hr
    rcases hr with rfl | rfl
    · exact Nat.two_pos
    · exact Nat.one_pos
  bounded r hr := by
    simp only [List.mem_cons, List.not_mem_nil, or_false] at hr
    rcases hr with rfl | rfl
    · exact (by decide : 2 ≤ maxRowid)
    · exact (by decide : 1 ≤ maxRowid)
  unique := by
    show [actionId '2', actionId '1'].Nodup
    decide +kernel

/-- A third row was written. -/
def threeRows : Log where
  rows := actionRow 3 '3' none :: (twoRows none).rows
  cutoff := []
  sorted := by
    simp [twoRows, actionRow]
  positive r hr := by
    rcases List.mem_cons.mp hr with rfl | hr
    · exact Nat.succ_pos 2
    · exact (twoRows none).positive r hr
  bounded r hr := by
    rcases List.mem_cons.mp hr with rfl | hr
    · exact (by decide : 3 ≤ maxRowid)
    · exact (twoRows none).bounded r hr
  unique := by
    decide +kernel

lemma reaches_threeRows : Reaches exampleHost (twoRows none) threeRows :=
  .single (.write (actionRow 3 '3' none) _ rfl (by decide) (by decide +kernel) rfl
    (by decide +kernel) (not_lt.mp (List.not_lt_nil _)) rfl rfl)

lemma exists_firstPage : ∃ page cursor, readSecureRecent exampleHost 1 noFilters none (twoRows none) =
    .ok page ∧ page.nextCursor = some cursor := by
  have hcursor : ((readSecureRecent exampleHost 1 noFilters none (twoRows none)).toOption.bind
      Page.nextCursor).isSome = true := by decide +kernel
  cases hread : readSecureRecent exampleHost 1 noFilters none (twoRows none) with
  | error e =>
      rw [hread] at hcursor
      cases hcursor
  | ok page =>
      rw [hread] at hcursor
      obtain ⟨cursor, hcursor⟩ := Option.isSome_iff_exists.mp hcursor
      exact ⟨page, cursor, rfl, hcursor⟩

/-- The second page can be read although a row was written. -/
lemma exists_secondPage {page : Page} {cursor : Text}
    (h : readSecureRecent exampleHost 1 noFilters none (twoRows none) = .ok page)
    (hcursor : page.nextCursor = some cursor) : ∃ page',
      Session exampleHost noFilters (twoRows none) threeRows [page, page'] page'.nextCursor := by
  have hfirst : Session exampleHost noFilters (twoRows none) (twoRows none) [page] (some cursor) :=
    hcursor ▸ .first h
  obtain ⟨head, c, hhead, -, hc, hread⟩ := hfirst.read_next (show 1 ≤ (1 : ℤ) ∧ (1 : ℤ) ≤ 100 by decide)
  obtain rfl : actionRow 2 '2' none = head := Option.some.inj hhead
  have hstands : anchorStands exampleHost c threeRows = true := (anchorStands_iff hc).mpr
    ⟨actionRow 2 '2' none, List.mem_cons_of_mem _ List.mem_cons_self, rfl, ⟨rfl, rfl⟩, rfl⟩
  exact ⟨_, hfirst.next reaches_threeRows ((hread threeRows).trans (if_pos hstands))⟩

/-- **What a session shows.**  The pages of a session are together what the log had to show when the
session began, newest first, but for rows that have gone since; a session that comes to its end leaves
out no others.  It takes no more pages than rows that it has read, and one. -/
theorem session_events {pages : List Page} {cursor : Option Text}
    (h : Session H f log₀ log pages cursor) :
    ∃ rows : List Row, rows.Sublist log₀.rows ∧
      pages.flatMap Page.events = rows.filterMap (shown H f) ∧
      (cursor = none → ∀ r ∈ log₀.rows, r ∈ log.rows → r ∈ rows) ∧
      pages.length ≤ rows.length + 1 ∧ ∀ p ∈ pages, p.events.length ≤ 100 ∧ p.scanned ≤ 250 := by
  rcases h.progress with ⟨hempty, -, rfl, -⟩ | ⟨head, reads, last, hhead, hprogress, hposition⟩
  · refine ⟨[], List.nil_sublist _, rfl, ?_, le_rfl, ?_⟩
    · rintro - r hr -
      rw [hempty] at hr
      exact absurd hr List.not_mem_nil
    · intro p hp
      rw [List.mem_singleton.mp hp]
      exact ⟨Nat.zero_le _, Nat.zero_le _⟩
  · refine ⟨Paging.rows reads, ?_, hprogress.events, ?_, hposition.length, hposition.bounds⟩
    · refine hprogress.paging.sublist log₀.sorted ?_
      intro r hr
      obtain ⟨p, hp, hmem⟩ := hprogress.paging.exists_table hr
      exact hprogress.tables p hp r hmem (Nat.le_of_lt_succ (hprogress.paging.bounds hr).2)
    · intro hnone r hr hr'
      have hle := log₀.le_head hhead hr
      exact hprogress.paging.mem_rows (hprogress.kept r hr' hle) (Nat.lt_succ_of_le hle)
        (hposition.complete hnone r hr' hle)

/-- Two pages, with a row that is written between them. -/
theorem twoPages_events : ∃ pages cursor, pages.length = 2 ∧
    Session exampleHost noFilters (twoRows none) threeRows pages cursor ∧
    ∃ rows : List Row, rows.Sublist (twoRows none).rows ∧
      pages.flatMap Page.events = rows.filterMap (shown exampleHost noFilters) ∧
      (cursor = none → ∀ r ∈ (twoRows none).rows, r ∈ threeRows.rows → r ∈ rows) ∧
      pages.length ≤ rows.length + 1 ∧ ∀ p ∈ pages, p.events.length ≤ 100 ∧ p.scanned ≤ 250 := by
  obtain ⟨page, cursor, hread, hcursor⟩ := exists_firstPage
  obtain ⟨page', hsession⟩ := exists_secondPage hread hcursor
  exact ⟨_, _, rfl, hsession, session_events hsession⟩

/-- **When a cursor can be followed.**  In any state of the log, a cursor that a session gave out is
good for as long as the row that was the newest when the session began stands where it stood; else the
answer is that it is stale.  With other filters it is no cursor. -/
theorem followed_iff {pages : List Page} {cursor : Text} {limit : ℤ}
    (h : Session H f log₀ log pages (some cursor)) (hlimit : 1 ≤ limit ∧ limit ≤ 100) (log' : Log) :
    ∃ head, log₀.rows.head? = some head ∧
      ((∃ page, readSecureRecent H limit f (some cursor) log' = .ok page) ↔
        ∃ r ∈ log'.rows, IsAnchor H head r) ∧
      ((∀ r ∈ log'.rows, ¬IsAnchor H head r) →
        readSecureRecent H limit f (some cursor) log' = .error .cursorStale) ∧
      ∀ g, checkFilters H g = true → filterDigest H f ≠ filterDigest H g →
        readSecureRecent H limit g (some cursor) log' = .error .cursorInvalid := by
  obtain ⟨head, c, hhead, rfl, hc, hread⟩ := h.read_next hlimit
  refine ⟨head, hhead, ?_, ?_, ?_⟩
  · rw [hread, ← anchorStands_iff hc]
    constructor
    · rintro ⟨page, hpage⟩
      by_contra hstands
      rw [if_neg hstands] at hpage
      cases hpage
    · intro hstands
      exact ⟨_, if_pos hstands⟩
  · intro hgone
    rw [hread, if_neg]
    intro hstands
    obtain ⟨r, hr, hanchor⟩ := (anchorStands_iff hc).mp hstands
    exact hgone r hr hanchor
  · intro g hg hne
    have hlimit' : ¬¬(1 ≤ limit ∧ limit ≤ maxLimit) := not_not.mpr hlimit
    rw [readSecureRecent, if_neg hlimit', hg, if_neg (by decide), startCursor,
      decodeCursor_encodeCursor H hc.valid, if_neg hne]
    rfl

theorem firstCursor_followed : ∃ (page : Page) (cursor : Text), page.nextCursor = some cursor ∧
    ∃ head, (twoRows none).rows.head? = some head ∧
      ((∃ page, readSecureRecent exampleHost 1 noFilters (some cursor) threeRows = .ok page) ↔
        ∃ r ∈ threeRows.rows, IsAnchor exampleHost head r) ∧
      ((∀ r ∈ threeRows.rows, ¬IsAnchor exampleHost head r) →
        readSecureRecent exampleHost 1 noFilters (some cursor) threeRows = .error .cursorStale) ∧
      ∀ g, checkFilters exampleHost g = true →
        filterDigest exampleHost noFilters ≠ filterDigest exampleHost g →
        readSecureRecent exampleHost 1 g (some cursor) threeRows = .error .cursorInvalid := by
  obtain ⟨page, cursor, hread, hcursor⟩ := exists_firstPage
  have hfirst : Session exampleHost noFilters (twoRows none) (twoRows none) [page] (some cursor) :=
    hcursor ▸ .first hread
  exact ⟨page, cursor, hcursor, followed_iff hfirst (by decide) threeRows⟩

/-! ## Any read -/

/-- What the filters say of an event. -/
structure Filters.Admits (f : Filters) (e : SecureEvent) : Prop where
  category : ∀ category ∈ f.category, e.category = category
  eventCode : ∀ code ∈ f.eventCode, e.eventCode = code
  since : ∀ since ∈ f.since, sinceText since ≤ e.timestamp

lemma admits_of_project {row : Selected} {e : SecureEvent} (h : project H f row = some e) :
    f.Admits e := by
  simp only [project, Option.bind_eq_bind, Option.bind_eq_some_iff,
    Option.ite_none_right_eq_some] at h
  obtain ⟨id, -, code, -, category, -, ⟨hcategory, hcode, -, hsince⟩, h⟩ := h
  have hadmits : (∀ c ∈ f.category, category = c) ∧ (∀ c ∈ f.eventCode, code = c) ∧
      ∀ since ∈ f.since, sinceText since ≤ row.createdAt := by
    refine ⟨?_, ?_, ?_⟩
    · intro c hc
      rw [Option.mem_def.mp hc] at hcategory
      exact (of_decide_eq_true hcategory).symm
    · intro c hc
      rw [Option.mem_def.mp hc] at hcode
      exact (of_decide_eq_true hcode).symm
    · intro since hc
      rw [Option.mem_def.mp hc] at hsince
      simpa using hsince
  split_ifs at h
  · obtain rfl := Option.some.inj h
    exact ⟨hadmits.1, hadmits.2.1, hadmits.2.2⟩
  · obtain rfl := Option.some.inj h
    exact ⟨hadmits.1, hadmits.2.1, hadmits.2.2⟩

/-- **Any read**, with whatever cursor, shows well-formed events that its filters admit, of at most 250
rows that are in the log, newest first and no row twice. -/
theorem read_wellFormed {limit : ℤ} {cursor : Option Text} {page : Page}
    (h : readSecureRecent H limit f cursor log = .ok page) :
    (∃ rows : List Row, rows.Sublist log.rows ∧ rows.length ≤ 250 ∧
      page.events = rows.filterMap (shown H f)) ∧
    page.events.length ≤ limit ∧ ∀ e ∈ page.events, e.WellFormed H ∧ f.Admits e := by
  obtain ⟨hpos, -, -, c, hstart, rfl⟩ := read_ok h
  by_cases hceiling : c.ceiling = 0
  · rw [readPage, if_pos hceiling]
    refine ⟨⟨[], List.nil_sublist _, Nat.zero_le _, rfl⟩, ?_, by simp⟩
    show (0 : ℤ) ≤ limit
    omega
  · have hlast : c.last ≤ c.ceiling + 1 := by
      cases cursor with
      | none =>
          rcases openCursor_spec hstart with ⟨-, hzero⟩ | ⟨head, -, hc, -⟩
          · exact absurd hzero hceiling
          · exact hc.valid.last
      | some cursor =>
          rw [startCursor] at hstart
          cases hdecode : decodeCursor H f cursor with
          | none =>
              rw [hdecode] at hstart
              cases hstart
          | some d =>
              simp only [hdecode] at hstart
              split_ifs at hstart
              obtain rfl := Except.ok.inj hstart
              exact (decodeCursor_valid H hdecode).last
    obtain ⟨rows, hpage⟩ := @exists_pageOf H f log _ _
      (show limit.toNat ≠ 0 by omega) hceiling hlast
    refine ⟨⟨rows, hpage.rows.sublist.trans List.filter_sublist, hpage.length_rows, hpage.events⟩,
      ?_, ?_⟩
    · have hlength := hpage.length_events
      omega
    · intro e he
      rw [hpage.events] at he
      obtain ⟨r, -, hr⟩ := List.mem_filterMap.mp he
      exact ⟨project_wellFormed H hr, admits_of_project hr⟩

theorem firstPage_wellFormed : ∃ page,
    readSecureRecent exampleHost 1 noFilters none (twoRows none) = .ok page ∧
    (∃ rows : List Row, rows.Sublist (twoRows none).rows ∧ rows.length ≤ 250 ∧
      page.events = rows.filterMap (shown exampleHost noFilters)) ∧
    page.events.length ≤ (1 : ℤ) ∧
    ∀ e ∈ page.events, e.WellFormed exampleHost ∧ noFilters.Admits e := by
  obtain ⟨page, cursor, hread, -⟩ := exists_firstPage
  exact ⟨page, hread, read_wellFormed hread⟩

/-! ## On what a read depends -/

/-- What a read has of a row: its place, its id, and what is selected, without what is not listed. -/
def Row.seen (r : Row) : ℕ × Option Text × Selected := (r.rowid, r.eventId, r.selected.listed)

/-- What is looked up by rowid and id looks alike in logs that look alike. -/
lemma find?_seen {rows rows' : List Row} (h : rows.map Row.seen = rows'.map Row.seen)
    (p : ℕ → Option Text → Bool) :
    (rows.find? fun r => p r.rowid r.eventId).map Row.seen =
      (rows'.find? fun r => p r.rowid r.eventId).map Row.seen := by
  have hfind : ∀ rows : List Row, (rows.find? fun r => p r.rowid r.eventId).map Row.seen =
      (rows.map Row.seen).find? fun s => p s.1 s.2.1 := by
    intro rows
    rw [List.find?_map]
    rfl
  rw [hfind, hfind, h]

lemma shown_seen {r s : Row} (h : r.seen = s.seen) : shown H f r = shown H f s := by
  have hlisted : r.selected.listed = s.selected.listed := congrArg (·.2.2) h
  rw [shown, shown, ← project_listed, hlisted, project_listed]

lemma timestamp_seen {r s : Row} (h : r.seen = s.seen) :
    r.selected.timestamp H = s.selected.timestamp H := by
  have hcreated : r.selected.createdAt = s.selected.createdAt := congrArg (·.2.2.createdAt) h
  rw [Selected.timestamp, Selected.timestamp, hcreated]

lemma anchorCode_seen {r s : Row} (h : r.seen = s.seen) :
    anchorCode H r.selected = anchorCode H s.selected :=
  congrArg (Option.map SecureEvent.eventCode) (shown_seen h)

lemma anchorOf_seen {r s : Row} (h : r.seen = s.seen) : anchorOf r.selected = anchorOf s.selected := by
  have hid : r.selected.eventId = s.selected.eventId := congrArg (·.2.2.eventId) h
  rw [anchorOf, anchorOf, hid]

section Seen

variable (h : log.rows.map Row.seen = log'.rows.map Row.seen)

include h

lemma scan_seen (ceiling rows events last : ℕ) :
    scan H f log ceiling rows events last = scan H f log' ceiling rows events last := by
  induction rows generalizing events last with
  | zero => rfl
  | succ rows ih =>
      cases events with
      | zero => rfl
      | succ events =>
          have hfind := find?_seen h fun rowid _ => decide (rowid ≤ ceiling ∧ rowid < last)
          rw [scan, scan]
          cases hr : log.rows.find? fun r => decide (r.rowid ≤ ceiling ∧ r.rowid < last) with
          | none =>
              rw [hr, Option.map_none] at hfind
              rw [Option.map_eq_none_iff.mp hfind.symm]
          | some r =>
              rw [hr, Option.map_some] at hfind
              obtain ⟨s, hs, hseen⟩ := Option.map_eq_some_iff.mp hfind.symm
              have hrowid : s.rowid = r.rowid := congrArg (·.1) hseen
              rw [hs]
              simp only [shown_seen hseen, hrowid, ih]

lemma anchorStands_seen : anchorStands H c log = anchorStands H c log' := by
  have hfind := find?_seen h fun rowid id => decide (rowid = c.ceiling) && matchesAnchor c.anchor id
  rw [anchorStands, anchorStands]
  cases hr : log.rows.find? fun r =>
      decide (r.rowid = c.ceiling) && matchesAnchor c.anchor r.eventId with
  | none =>
      rw [hr, Option.map_none] at hfind
      rw [Option.map_eq_none_iff.mp hfind.symm]
  | some r =>
      rw [hr, Option.map_some] at hfind
      obtain ⟨s, hs, hseen⟩ := Option.map_eq_some_iff.mp hfind.symm
      rw [hs]
      simp only [timestamp_seen hseen, anchorCode_seen hseen]

lemma openCursor_seen : openCursor H f log = openCursor H f log' := by
  have hhead : log.rows.head?.map Row.seen = log'.rows.head?.map Row.seen := by
    rw [← List.head?_map, ← List.head?_map, h]
  rw [openCursor, openCursor]
  cases hr : log.rows.head? with
  | none =>
      rw [hr, Option.map_none] at hhead
      rw [Option.map_eq_none_iff.mp hhead.symm]
  | some r =>
      rw [hr, Option.map_some] at hhead
      obtain ⟨s, hs, hseen⟩ := Option.map_eq_some_iff.mp hhead.symm
      have hrowid : s.rowid = r.rowid := congrArg (·.1) hseen
      rw [hs]
      simp only [hrowid, anchorOf_seen hseen, timestamp_seen hseen, anchorCode_seen hseen]

lemma readPage_seen (limit : ℕ) : readPage H f limit c log = readPage H f limit c log' := by
  have hany : ∀ last : ℕ, (log.rows.any fun r => decide (r.rowid ≤ c.ceiling ∧ r.rowid < last)) =
      log'.rows.any fun r => decide (r.rowid ≤ c.ceiling ∧ r.rowid < last) := by
    intro last
    have hmap : ∀ rows : List Row, (rows.any fun r => decide (r.rowid ≤ c.ceiling ∧ r.rowid < last)) =
        (rows.map Row.seen).any fun s => decide (s.1 ≤ c.ceiling ∧ s.1 < last) := by
      intro rows
      rw [List.any_map]
      rfl
    rw [hmap, hmap, h]
  rw [readPage, readPage]
  simp only [scan_seen h, hany]

end Seen

/-- Two logs with different details of the older row, none of them listed. -/
lemma seen_twoRows {raw raw' : Option Text} (h : (listed (details raw)).isEmpty = true)
    (h' : (listed (details raw')).isEmpty = true) :
    (twoRows raw).rows.map Row.seen = (twoRows raw').rows.map Row.seen := by
  have hseen : (actionRow 1 '1' raw).seen = (actionRow 1 '1' raw').seen := by
    unfold Row.seen Selected.listed Row.selected
    rw [show (actionRow 1 '1' raw).detailsJson = raw from rfl,
      show (actionRow 1 '1' raw').detailsJson = raw' from rfl, List.isEmpty_iff.mp h,
      List.isEmpty_iff.mp h']
    rfl
  exact congrArg (fun seen => [(actionRow 2 '2' none).seen, seen]) hseen

def tokenDetails : Text := "\x7b\"token\": \"secret\"\x7d".toList

def sourceDetails : Text := "\x7b\"source\": [1, 2]\x7d".toList

lemma unlisted_details : (listed (details (some tokenDetails))).isEmpty = true ∧
    (listed (details (some sourceDetails))).isEmpty = true := by decide +kernel

end FwRouter.Events
