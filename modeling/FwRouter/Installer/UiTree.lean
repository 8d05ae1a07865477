import FwRouter.Python.Hashlib
import FwRouter.Library.Run
import FwRouter.Library.Sorting

/-!
# The UI tree and its digest

`_walk_tree` reads a directory tree entry by entry, refuses what the static-file server could not
serve or what is not a regular file or directory, and folds what it has read into one digest.  Owners
are checked but not recorded: `walkTree_copyTo` says that the copy a publisher makes of a tree, which
belongs to the publisher, has the digest of the tree it was made from.
-/

namespace FwRouter.Installer

open Py Sorting

/-! ## Trees -/

mutual

/-- What stands under a name when links are not followed: the owner, the permission bits and the
content.  Everything that is neither a directory nor a regular file is `special`. -/
inductive Node
  | directory (uid mode : ℕ) (entries : Entries)
  | file (uid mode : ℕ) (content : List UInt8)
  | special

/-- The entries of a directory, in the order of `sorted(os.listdir(...))`. -/
inductive Entries
  | nil
  | cons (name : Text) (node : Node) (rest : Entries)

end

mutual

/-- The copy that a process of user `uid` makes of a node: the same bytes and permission bits. -/
def Node.copyTo (uid : ℕ) : Node → Node
  | .directory _ mode entries => .directory uid mode (entries.copyTo uid)
  | .file _ mode content => .file uid mode content
  | .special => .special

def Entries.copyTo (uid : ℕ) : Entries → Entries
  | .nil => .nil
  | .cons name node rest => .cons name (node.copyTo uid) (rest.copyTo uid)

end

/-! ## Walking -/

def maxUiEntries : ℕ := 10000

def maxUiFileBytes : ℕ := 512 * 1024 * 1024

def maxUiTotalBytes : ℕ := 512 * 1024 * 1024

/-- A record of the walk: path, size, permission bits and content digest. -/
structure Record where
  path : Text
  size : ℕ
  mode : ℕ
  digest : Text
deriving DecidableEq

/-- The counters of a walk and its records so far. -/
structure Walk where
  entriesSeen : ℕ
  bytesReserved : ℕ
  records : List Record

/-- `_check_mode`; `served` is the bit that the static-file server needs, with what it is called. -/
def checkMode (path : Text) (uid mode owner : ℕ) (kind : Text) (served : ℕ) (need : Text) :
    Except Text Unit :=
  if uid ≠ owner then .error (kind ++ " has unexpected owner: ".toList ++ path)
  else if mode &&& 0o022 ≠ 0 then .error (kind ++ " is group/world writable: ".toList ++ path)
  else if mode &&& served = 0 then
    .error (kind ++ " is not ".toList ++ need ++ " by the static-file server: ".toList ++ path)
  else .ok ()

def checkDirectory (path : Text) (uid mode owner : ℕ) : Except Text Unit :=
  checkMode path uid mode owner "UI directory".toList 0o001 "traversable".toList

def checkFile (path : Text) (uid mode owner : ℕ) : Except Text Unit :=
  checkMode path uid mode owner "UI file".toList 0o004 "readable".toList

section Walking

variable (sha256 : Sha256) (owner : ℕ)

mutual

/-- One entry of the inner `walk` of `_walk_tree`; a directory is recorded after what it holds. -/
def walkNode (path : Text) : Node → Walk → Except Text Walk
  | .directory uid mode entries, w => do
      checkDirectory path uid mode owner
      let w ← walkEntries (path ++ ['/']) entries w
      pure { w with records := w.records ++ [⟨path ++ ['/'], 0, mode, "directory".toList⟩] }
  | .file uid mode content, w => do
      checkFile path uid mode owner
      if maxUiFileBytes < content.length ∨ maxUiTotalBytes < w.bytesReserved + content.length then
        .error "UI source exceeds the configured file or total size limit".toList
      else
        pure { w with
          bytesReserved := w.bytesReserved + content.length
          records := w.records ++ [⟨path, content.length, mode, sha256.hexdigest content⟩] }
  | .special, _ => .error ("UI contains a symlink or special file: ".toList ++ path)

/-- The loop of the inner `walk`; `dir` is the path of the directory with its final slash. -/
def walkEntries (dir : Text) : Entries → Walk → Except Text Walk
  | .nil, w => pure w
  | .cons name node rest, w =>
      if maxUiEntries < w.entriesSeen + 1 then
        .error ("UI source exceeds the ".toList ++ dec maxUiEntries ++ "-entry limit".toList)
      else do
        let w ← walkNode (dir ++ name) node { w with entriesSeen := w.entriesSeen + 1 }
        walkEntries dir rest w

end

/-- One line of what is hashed. -/
def Record.encoded (r : Record) : Text :=
  r.path ++ [Char.ofNat 0] ++ dec r.size ++ [Char.ofNat 0] ++ Nat.toDigits 8 r.mode ++ [Char.ofNat 0]
    ++ r.digest ++ ['\n']

/-- `str.encode()`. -/
def utf8 (t : Text) : List UInt8 := t.flatMap String.utf8EncodeChar

/-- The tuple that `records.sort()` compares. -/
def Record.key (r : Record) : Lex (Text × Lex (ℕ × Lex (ℕ × Text))) :=
  toLex (r.path, toLex (r.size, toLex (r.mode, r.digest)))

/-- `hashlib.sha256(encoded).hexdigest()` over the sorted records. -/
def recordsDigest (records : List Record) : Text :=
  sha256.hexdigest (utf8 ((sortedBy Record.key records).flatMap Record.encoded))

/-- `_walk_tree`: the digest of a tree whose root is a real directory. -/
def walkTree (requireIndex : Bool) : Node → Except Text Text
  | .directory uid mode entries => do
      checkDirectory "".toList uid mode owner
      let w ← walkEntries sha256 owner [] entries ⟨0, 0, []⟩
      if requireIndex = true ∧ ∀ r ∈ w.records, r.path ≠ "index.html".toList then
        .error "UI source must contain a regular top-level index.html".toList
      else
        pure (recordsDigest sha256 (w.records ++ [⟨"./".toList, 0, mode, "directory".toList⟩]))
  | _ => .error "Not a directory".toList

end Walking

variable {sha256 : Sha256} {owner : ℕ}

/-! ## What a copy has in common with its original -/

lemma checkMode_eq_ok {path kind need : Text} {uid mode served : ℕ} :
    checkMode path uid mode owner kind served need = .ok () ↔
      uid = owner ∧ mode &&& 0o022 = 0 ∧ mode &&& served ≠ 0 := by
  unfold checkMode
  split_ifs with huid hwrite hserved
  · simp [huid]
  · simp [hwrite]
  · simp [hserved]
  · simpa using ⟨not_not.mp huid, not_not.mp hwrite, hserved⟩

/-- A check that the original passes is passed by the copy. -/
lemma checkMode_copyTo {path kind need : Text} {uid mode served : ℕ} (me : ℕ)
    (h : checkMode path uid mode owner kind served need = .ok ()) :
    checkMode path me mode me kind served need = .ok () :=
  checkMode_eq_ok.mpr ⟨rfl, (checkMode_eq_ok.mp h).2⟩

mutual

lemma walkNode_copyTo (me : ℕ) {path : Text} :
    ∀ {node : Node} {w w' : Walk}, walkNode sha256 owner path node w = .ok w' →
      walkNode sha256 me path (node.copyTo me) w = .ok w'
  | .directory uid mode entries, w, w', h => by
      rw [walkNode] at h
      obtain ⟨⟨⟩, hcheck, h⟩ := Run.exists_of_bind_eq_ok h
      obtain ⟨w₁, hentries, h⟩ := Run.exists_of_bind_eq_ok h
      rw [Node.copyTo, walkNode, checkDirectory, checkMode_copyTo me hcheck,
        walkEntries_copyTo me hentries]
      exact h
  | .file uid mode content, w, w', h => by
      rw [walkNode] at h
      obtain ⟨⟨⟩, hcheck, h⟩ := Run.exists_of_bind_eq_ok h
      rw [Node.copyTo, walkNode, checkFile, checkMode_copyTo me hcheck]
      exact h
  | .special, w, w', h => by
      rw [walkNode] at h
      cases h

lemma walkEntries_copyTo (me : ℕ) {dir : Text} :
    ∀ {entries : Entries} {w w' : Walk}, walkEntries sha256 owner dir entries w = .ok w' →
      walkEntries sha256 me dir (entries.copyTo me) w = .ok w'
  | .nil, w, w', h => h
  | .cons name node rest, w, w', h => by
      rw [walkEntries, Run.guard_eq_ok] at h
      obtain ⟨hfew, h⟩ := h
      obtain ⟨w₁, hnode, hrest⟩ := Run.exists_of_bind_eq_ok h
      rw [Entries.copyTo, walkEntries, if_neg hfew, walkNode_copyTo me hnode]
      exact walkEntries_copyTo me hrest

end

/-- **The copy has the digest of its original**, whoever owns the original. -/
theorem walkTree_copyTo (me : ℕ) {requireIndex : Bool} {root : Node} {digest : Text}
    (h : walkTree sha256 owner requireIndex root = .ok digest) :
    walkTree sha256 me requireIndex (root.copyTo me) = .ok digest := by
  cases root with
  | directory uid mode entries =>
      rw [walkTree] at h
      obtain ⟨⟨⟩, hcheck, h⟩ := Run.exists_of_bind_eq_ok h
      obtain ⟨w, hentries, h⟩ := Run.exists_of_bind_eq_ok h
      rw [Node.copyTo, walkTree, checkDirectory, checkMode_copyTo me hcheck,
        walkEntries_copyTo me hentries]
      exact h
  | file uid mode content => cases h
  | special => cases h

/-- Without the demand for an index the digest is the same. -/
lemma walkTree_of_index {root : Node} {digest : Text}
    (h : walkTree sha256 owner true root = .ok digest) :
    walkTree sha256 owner false root = .ok digest := by
  cases root with
  | directory uid mode entries =>
      rw [walkTree] at h ⊢
      obtain ⟨⟨⟩, hcheck, h⟩ := Run.exists_of_bind_eq_ok h
      obtain ⟨w, hentries, h⟩ := Run.exists_of_bind_eq_ok h
      rw [hcheck, hentries]
      exact (Run.guard_eq_ok.mp h).2
  | file uid mode content => cases h
  | special => cases h

lemma walkTree_hexadecimal {requireIndex : Bool} {root : Node} {digest : Text}
    (h : walkTree sha256 owner requireIndex root = .ok digest) :
    digest.length = 64 ∧ ∀ c ∈ digest, c ∈ "0123456789abcdef".toList := by
  cases root with
  | directory uid mode entries =>
      rw [walkTree] at h
      obtain ⟨-, -, h⟩ := Run.exists_of_bind_eq_ok h
      obtain ⟨w, -, h⟩ := Run.exists_of_bind_eq_ok h
      obtain rfl := Except.ok.inj (Run.guard_eq_ok.mp h).2
      exact ⟨sha256.length_hexdigest _, sha256.hexadecimal _⟩
  | file uid mode content => cases h
  | special => cases h

end FwRouter.Installer
