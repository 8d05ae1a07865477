import FwRouter.Installer.UiTree
import FwRouter.Library.Interruptible

/-!
# Publishing the UI

`ui_publication.py` serves the UI through one name, the target.  A publication copies the source tree
to a release that is named after its digest, makes a link to it beside the target and exchanges the
two, so that what was served before stands under the name of the link.  The next publication archives
it from there if this one does not come so far.

A publication runs under a lock, and may be killed after any change it makes.  `Continues` is what one
step after another keeps of the state before: releases are never changed, no tree that was held is
lost, and the target is the old one or a link to the complete new release.
-/

namespace FwRouter.Installer

open Py Sorting Interruptible Interruptible.Prog

/-! ## The directory of the target -/

/-- What stands under a name beside the target; of a link, the path it gives. -/
inductive Slot
  | tree (root : Node)
  | link (absolute : Bool) (parts : List Text)
  | other

/-- The part of the file system that a publication changes. -/
structure Fs where
  target : Option Slot
  /-- The managed release directory, by name; it also holds the staging trees. -/
  releases : Text → Option Node
  /-- The entries `.fwrouter-ui-next-*`, by what follows the hyphen. -/
  nexts : List (Text × Slot)

namespace Fs

def unlinkNext (name : Text) (fs : Fs) : Fs :=
  { fs with nexts := fs.nexts.filter fun p => decide (p.1 ≠ name) }

def putRelease (name : Text) (root : Node) (fs : Fs) : Fs :=
  { fs with releases := Function.update fs.releases name (some root) }

/-- `shutil.rmtree(staging)`. -/
def removeRelease (name : Text) (fs : Fs) : Fs :=
  { fs with releases := Function.update fs.releases name none }

/-- `os.rename(orphan, destination)`. -/
def archiveNext (name destination : Text) (root : Node) (fs : Fs) : Fs :=
  (fs.putRelease destination root).unlinkNext name

/-- `os.rename(staging, release)`. -/
def renameStaging (staging release : Text) (root : Node) (fs : Fs) : Fs :=
  (fs.removeRelease staging).putRelease release root

/-- `os.symlink(..., pointer)`. -/
def linkNext (name : Text) (slot : Slot) (fs : Fs) : Fs := { fs with nexts := (name, slot) :: fs.nexts }

/-- `_exchange(target, pointer)`, or `os.rename(pointer, target)` where there is no target. -/
def swapIn (name : Text) (slot : Slot) (fs : Fs) : Fs :=
  { fs with
    target := some slot
    nexts := (fs.target.map (Prod.mk name)).toList ++ fs.nexts.filter fun p => decide (p.1 ≠ name) }

end Fs

/-- `releases.name`. -/
def releasesName : Text := ".fwrouter-ui-releases".toList

def releaseName (digest : Text) : Text := "release-".toList ++ digest

def stagingName (id : Text) : Text := ".staging-".toList ++ id

/-- The link to a release. -/
def pointer (release : Text) : Slot := .link false [releasesName, release]

def isHex (length : ℕ) (t : Text) : Bool :=
  t.length == length && t.all fun c => "0123456789abcdef".toList.contains c

def isReleaseName (name : Text) : Bool :=
  name.length == 72 && name.take 8 == "release-".toList
    && (name.drop 8).all fun c => "0123456789abcdef".toList.contains c

/-- What a publication is given.  The source is walked three times, and each time as it is then; so is
the backend compared twice. -/
structure Attempt where
  sourceUid : ℕ
  source : Node
  /-- What the staging directory holds while it is being filled. -/
  partials : List Node
  sourceCopied : Node
  sourceAfter : Node
  restore : Option Text
  backendMatches : Bool
  backendMatchesAgain : Bool
  /-- The `uuid4().hex` of the staging directory and of the pointer. -/
  stagingId : Text
  pointerId : Text
  pointerId_isHex : isHex 32 pointerId = true

/-! ## The program -/

section Program

variable (sha256 : Sha256) (me : ℕ)

/-- `_walk_tree`, of a tree that belongs to the publisher. -/
def walked (requireIndex : Bool) (root : Node) : Prog Fs Text :=
  ofOption (walkTree sha256 me requireIndex root).toOption

/-- A real directory whose mode `_check_mode` accepts. -/
def servedDirectory : Node → Bool
  | .directory uid mode _ =>
      (checkMode "".toList uid mode me "UI release".toList 0o001 "traversable".toList).isOk
  | _ => false

/-- `_managed_release`: the name of the release that a link points to. -/
def managedRelease : Slot → Prog Fs (Option Text)
  | .link absolute parts => do
      require (absolute = false ∧ parts.length = 2 ∧ parts.head? = some releasesName)
      let name ← ofOption parts.getLast?
      require (isReleaseName name = true)
      let fs ← get
      let root ← ofOption (fs.releases name)
      require (servedDirectory me root = true)
      pure (some name)
  | _ => pure none

/-- `_release_digest`. -/
def releaseDigest (name : Text) : Prog Fs Text := do
  let fs ← get
  let root ← ofOption (fs.releases name)
  require (servedDirectory me root = true)
  let digest ← walked sha256 me true root
  require (name = releaseName digest)
  pure digest

/-- The round of `_recover_interrupted_exchanges` for a whole tree. -/
def recoverTree (name : Text) (root : Node) : Prog Fs Unit := do
  let digest ← walked sha256 me true root
  let fs ← get
  match fs.releases (releaseName digest) with
  | none => effect (Fs.archiveNext name (releaseName digest) root)
  | some existing => do
      require (servedDirectory me existing = true)
      let existingDigest ← releaseDigest sha256 me (releaseName digest)
      require (existingDigest = digest)

/-- One round of `_recover_interrupted_exchanges`. -/
def recoverOrphan (orphan : Text × Slot) : Prog Fs Unit := do
  require (isHex 32 orphan.1 = true)
  match orphan.2 with
  | .link absolute parts => do
      let release ← managedRelease me (.link absolute parts)
      let name ← ofOption release
      let _ ← releaseDigest sha256 me name
      effect (Fs.unlinkNext orphan.1)
  | .tree root => recoverTree sha256 me orphan.1 root
  | .other => require False

/-- `_recover_interrupted_exchanges`. -/
def recoverInterruptedExchanges : Prog Fs Unit := do
  let fs ← get
  forEach (recoverOrphan sha256 me) (sortedBy Prod.fst fs.nexts)

/-- `current`, verified. -/
def currentRelease : Prog Fs (Option Text) := do
  let fs ← get
  match fs.target with
  | none => pure none
  | some slot => do
      let current ← managedRelease me slot
      match current with
      | none => pure none
      | some name => do
          let _ ← releaseDigest sha256 me name
          pure (some name)

/-- `initial_digest`: the digest of a target that is not yet managed. -/
def initialDigest (current : Option Text) : Prog Fs (Option Text) := do
  let fs ← get
  match current, fs.target with
  | none, some (.tree root) => do
      let digest ← walked sha256 me true root
      match fs.releases (releaseName digest) with
      | none => pure (some digest)
      | some _ => do
          let archivedDigest ← releaseDigest sha256 me (releaseName digest)
          require (archivedDigest = digest)
          pure (some digest)
  | none, some _ => do
      require False
      pure none
  | _, _ => pure none

/-- The cleanup of a release that could not be built. -/
def abandon (staging : Text) : Prog Fs Unit := do
  effect (Fs.removeRelease staging)
  require False

/-- The new release: the copy is made under a private name, compared with the source before and after,
and renamed. -/
def buildRelease (a : Attempt) (sourceDigest : Text) : Prog Fs Unit := do
  let fs ← get
  if (fs.releases (stagingName a.stagingId)).isSome then abandon (stagingName a.stagingId)
  else do
    forEach (fun root => effect (Fs.putRelease (stagingName a.stagingId) root)) a.partials
    effect (Fs.putRelease (stagingName a.stagingId) (a.sourceCopied.copyTo me))
    if walkTree sha256 a.sourceUid true a.sourceCopied = .ok sourceDigest
        ∧ walkTree sha256 me true (a.sourceCopied.copyTo me) = .ok sourceDigest
        ∧ walkTree sha256 a.sourceUid true a.sourceAfter = .ok sourceDigest then
      effect (Fs.renameStaging (stagingName a.stagingId) (releaseName sourceDigest)
        (a.sourceCopied.copyTo me))
    else abandon (stagingName a.stagingId)

/-- The release of the source, which may exist already. -/
def prepareRelease (a : Attempt) (sourceDigest : Text) : Prog Fs Unit := do
  let fs ← get
  match fs.releases (releaseName sourceDigest) with
  | none => buildRelease sha256 me a sourceDigest
  | some existing => do
      require (servedDirectory me existing = true)
      let digest ← releaseDigest sha256 me (releaseName sourceDigest)
      require (digest = sourceDigest)

/-- What becomes of the tree that was exchanged for the pointer. -/
def archiveOld (name : Text) (initial : Option Text) (root : Node) : Prog Fs Unit := do
  let oldDigest ← walked sha256 me true root
  require (∀ digest ∈ initial, oldDigest = digest)
  let fs ← get
  match fs.releases (releaseName oldDigest) with
  | none => effect (Fs.archiveNext name (releaseName oldDigest) root)
  | some _ => do
      let archivedDigest ← releaseDigest sha256 me (releaseName oldDigest)
      require (archivedDigest = oldDigest)

/-- The pointer is made and takes the place of the target. -/
def activate (a : Attempt) (initial : Option Text) (release : Text) : Prog Fs Unit := do
  require (a.backendMatchesAgain = true)
  let fs ← get
  require (a.pointerId ∉ fs.nexts.map Prod.fst)
  effect (Fs.linkNext a.pointerId (pointer release))
  effect (Fs.swapIn a.pointerId (pointer release))
  match fs.target with
  | none => pure ()
  | some (.tree root) => archiveOld sha256 me a.pointerId initial root
  | some _ => effect (Fs.unlinkNext a.pointerId)

/-- The checks after the exchange. -/
def postflight (release sourceDigest : Text) : Prog Fs Unit := do
  let fs ← get
  let slot ← ofOption fs.target
  let active ← managedRelease me slot
  require (active = some release)
  let root ← ofOption (fs.releases release)
  let activeDigest ← walked sha256 me true root
  require (activeDigest = sourceDigest)

/-- The digest of the release that is active. -/
def activeDigest (current : Option Text) : Prog Fs (Option Text) := do
  let fs ← get
  match current with
  | none => pure none
  | some name => do
      let root ← ofOption (fs.releases name)
      let digest ← walked sha256 me false root
      pure (some digest)

/-- `_publish_under_component_lock` for a retained release. -/
def restoreRelease (a : Attempt) (sourceDigest digest : Text) (current initial : Option Text) :
    Prog Fs Text := do
  let retained ← releaseDigest sha256 me (releaseName digest)
  require (retained = digest)
  if current = some (releaseName digest) then
    pure ("UI release already active: ".toList ++ digest)
  else do
    let _ ← activeDigest sha256 me current
    activate sha256 me a initial (releaseName digest)
    postflight sha256 me (releaseName digest) sourceDigest
    pure ("Restored UI release ".toList ++ digest)

/-- `_publish_under_component_lock` for the source itself. -/
def publishRelease (a : Attempt) (sourceDigest : Text) (current initial : Option Text) :
    Prog Fs Text := do
  let active ← activeDigest sha256 me current
  if active = some sourceDigest then pure ("UI already current: ".toList ++ sourceDigest)
  else do
    prepareRelease sha256 me a sourceDigest
    activate sha256 me a initial (releaseName sourceDigest)
    postflight sha256 me (releaseName sourceDigest) sourceDigest
    pure ("Published UI release ".toList ++ sourceDigest)

/-- `_publish_under_component_lock`. -/
def publish (a : Attempt) : Prog Fs Text := do
  let sourceDigest ← ofOption (walkTree sha256 a.sourceUid true a.source).toOption
  require (∀ digest ∈ a.restore, isHex 64 digest = true ∧ sourceDigest = digest)
  require (a.backendMatches = true)
  recoverInterruptedExchanges sha256 me
  let current ← currentRelease sha256 me
  let initial ← initialDigest sha256 me current
  match a.restore with
  | some digest => restoreRelease sha256 me a sourceDigest digest current initial
  | none => publishRelease sha256 me a sourceDigest current initial

end Program

end FwRouter.Installer
