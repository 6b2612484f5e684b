import InodeVolume.Device.Disk
import InodeVolume.Mount

/-!
# Several users of one device

A `Host` holds devices and the mounts that use them: an engine, which works on a device with a
cache and a free map that is not stored, and volumes. Two mounts may use one device; each has a
cache of its own and sees the other's writes only once they are written back.

Open files are held by handles. A handle outlives the mount it came from: the cache of a mount
lives as long as the mount is in use or a handle leads to it, and writes its dirty slots back
when the last of these goes (`settle`). A handle may be closed through another mount, whose list
of open inodes then loses the entry on that sector.
-/

namespace InodeVolume

/-- One use of a device. A mount without a free map of its own takes sectors from the host's. -/
structure Session where
  device : Nat
  mount : Mount (Option FreeMap)

/-- Where the files of a mount take sectors from: its own free map, or else the host's. -/
structure Supply where
  own : Option FreeMap
  shared : Option (Rationed FreeMap)

/-- An open file: the mount it came from and its inode there. -/
structure Handle where
  session : Nat
  ref : InodeRef
deriving DecidableEq, Inhabited

namespace Supply

variable {α : Type}

/-- Does the one or the other, by where sectors come from; nothing is given for want of both. -/
def bySource (onOwn : Action FreeMap α) (onShared : Action (Rationed FreeMap) α) (otherwise : α) :
    Action Supply α
  | ⟨⟨some map, shared⟩, log⟩ =>
    onOwn.within (fun ⟨own, shared⟩ => (own.getD map, fun map => ⟨some map, shared⟩))
      ⟨⟨some map, shared⟩, log⟩
  | ⟨⟨none, some ration⟩, log⟩ =>
    onShared.within (fun ⟨own, shared⟩ => (shared.getD ration, fun ration => ⟨own, some ration⟩))
      ⟨⟨none, some ration⟩, log⟩
  | world => .ok otherwise world

instance : Allocator Supply where
  allocate count := bySource (Allocator.allocate count) (Allocator.allocate count) none
  release sector count := bySource (Allocator.release sector count) (Allocator.release sector count) ()

end Supply

/-- Devices, mounts and handles. Sessions keep their number for good. -/
structure Host where
  devices : Array Disk
  current : Option Nat
  space : Option (Rationed FreeMap)
  sessions : Array Session
  engine : Option Nat
  volumes : List (Nat × Nat)
  handles : List (Nat × Handle)

namespace Host

variable {α : Type}

/-- A host with at most one device and no mounts. -/
def start (device : Option Disk) (space : Option (Rationed FreeMap)) : Host where
  devices := device.toArray
  current := device.map fun _ => 0
  space := space
  sessions := #[]
  engine := none
  volumes := []
  handles := []

/-! ## Parts of a host -/

/-- An action on a device. -/
def onDevice (device : Nat) (act : Action Disk α) : Action Host α :=
  act.within fun host =>
    let disk := host.devices.getD device default
    let rest := { host with devices := host.devices.setIfInBounds device default }
    (disk, fun disk => { rest with devices := rest.devices.setIfInBounds device disk })

/-- An action on a mount, the device it uses and the free map that it takes sectors from. -/
def onSession (session : Nat) (act : Action (Disk × Mount Supply) α) : Action Host α := do
  match (← get).sessions[session]? with
  | none => Action.fault .outOfBounds
  | some ⟨device, ⟨cache, ⟨table, own⟩⟩⟩ =>
    act.within fun host =>
      let disk := host.devices.getD device default
      let supply := ⟨own, host.space⟩
      let rest := { host with
        devices := host.devices.setIfInBounds device default
        space := none }
      ((disk, ⟨cache, ⟨table, supply⟩⟩), fun ((disk : Disk), (mount : Mount Supply)) =>
        let ⟨cache, ⟨table, supply⟩⟩ := mount
        { rest with
          devices := rest.devices.setIfInBounds device disk
          space := supply.shared
          sessions := rest.sessions.setIfInBounds session ⟨device, ⟨cache, ⟨table, supply.own⟩⟩⟩ })

/-- A computation on the files of a mount. -/
def onFiles (session : Nat) (computation : SectorM (Files Supply) α) : Action Host α :=
  onSession session (Mount.run computation)

/-- A computation on a draft of an inode, over the cache of a mount and the free map that it takes
sectors from. The inode is given as the computation leaves it, also where it fails. -/
def onDraft (session : Nat) (inode : DiskInode) (computation : SectorM (Draft Supply) α) :
    Action Host (Except Failure α × DiskInode) :=
  let drafted : Mount Supply → Mount (Draft Supply)
    | ⟨cache, ⟨table, supply⟩⟩ => ⟨cache, ⟨table, ⟨inode, supply⟩⟩⟩
  let settled : Mount (Draft Supply) → DiskInode × Mount Supply
    | ⟨cache, ⟨table, ⟨inode, supply⟩⟩⟩ => (inode, ⟨cache, ⟨table, supply⟩⟩)
  onSession session fun ⟨(device, mount), log⟩ =>
    match Mount.run (Files.inSpace computation) ⟨(device, drafted mount), log⟩ with
    | .ok a ⟨(device, mount), log⟩ =>
      .ok (.ok a, (settled mount).1) ⟨(device, (settled mount).2), log⟩
    | .error failure ⟨(device, mount), log⟩ =>
      .ok (.error failure, (settled mount).1) ⟨(device, (settled mount).2), log⟩

/-- A computation on a volume, which is a mount with a free map of its own. -/
def onVolume (session : Nat) (computation : SectorM Volume α) : Action Host α :=
  onFiles session (computation.hoist fun act => act.within fun ⟨table, ⟨own, shared⟩⟩ =>
    (⟨table, own.getD (FreeMap.clear 0)⟩, fun ⟨table, map⟩ => ⟨table, ⟨some map, shared⟩⟩))

/-- An action on the cache of a mount and its device. -/
def onCache (session : Nat) (act : {n : Nat} → Action (CachedDisk Disk n) α) : Action Host α :=
  onSession session fun ⟨(device, ⟨cache, files⟩), log⟩ =>
    match act ⟨(⟨device, cache⟩ : CachedDisk Disk _), log⟩ with
    | .ok a ⟨disk, log⟩ => .ok a ⟨(disk.device, ⟨disk.cache, files⟩), log⟩
    | .error failure ⟨disk, log⟩ => .error failure ⟨(disk.device, ⟨disk.cache, files⟩), log⟩

/-- An action on the open inodes of a mount. -/
def onTable (session : Nat) (act : Action InodeTable α) : Action Host α :=
  onFiles session (SectorM.perform (Files.onTable act))

/-- An action on the host's free map, past its ration. -/
def onMap (act : Action FreeMap α) : Action Host α := do
  match (← get).space with
  | none => Action.fault .outOfBounds
  | some ⟨map, quota⟩ =>
    act.within fun host =>
      let rest := { host with space := none }
      (map, fun map => { rest with space := some ⟨map, quota⟩ })

/-- Bounds how many more requests for sectors the host's free map answers to mounts. -/
def setQuota (quota : Option Nat) : Action Host Unit :=
  modify fun host => { host with space := host.space.map fun ration => { ration with quota } }

/-- Puts another device in the place of the current one. Mounts keep the device they use. -/
def replaceDevice (disk : Disk) : Action Host Unit :=
  modify fun host =>
    { host with devices := host.devices.push disk, current := some host.devices.size }

/-! ## What can be seen of a mount -/

/-- The open inodes of a mount. -/
def tableOf (host : Host) (session : Nat) : InodeTable :=
  match host.sessions[session]? with
  | some ⟨_, ⟨_, files⟩⟩ => files.table
  | none => .empty

/-- Free sectors of a volume. -/
def freeSectorsOf (host : Host) (session : Nat) : Nat :=
  match host.sessions[session]? with
  | some ⟨_, ⟨_, ⟨_, some map⟩⟩⟩ => map.freeCount
  | _ => 0

/-- Whether a sector is in the cache of a mount. -/
def isResident (host : Host) (session : Nat) (sector : SectorId) : Bool :=
  match host.sessions[session]? with
  | some ⟨_, ⟨cache, _⟩⟩ => cache.isResident sector
  | none => false

/-! ## Lifetimes -/

/-- Whether a mount is in use or a handle leads to it. -/
def isAlive (host : Host) (session : Nat) : Bool :=
  host.engine == some session || host.volumes.any (·.2 == session) ||
    host.handles.any (·.2.session == session)

/-- Writes back what the cache of a mount holds, once nothing leads to it any more. -/
def settle (session : Nat) : Action Host Unit := do
  unless (← get).isAlive session do onSession session Mount.flush

/-- Does something after an action, however the action ends. -/
def followedBy (act : Action Host α) (last : Action Host Unit) : Action Host α := do
  let result ← act.outcome
  last
  Action.ofExcept result

/-- Adds a session and gives its number. -/
def addSession (device : Nat) (mount : Mount (Option FreeMap)) : Action Host Nat :=
  modifyGet fun host =>
    (host.sessions.size, { host with sessions := host.sessions.push ⟨device, mount⟩ })

/-! ## The engine -/

/-- Makes an engine over a device. -/
def makeEngine (device capacity : Nat) : Action Host Unit := do
  let mount ← onDevice device (Mount.start capacity (Files.start none) (pure ()))
  let session ← addSession device mount
  modify fun host => { host with engine := some session }

/-- Gives the engine up. -/
def dropEngine : Action Host Unit := do
  if let some session := (← get).engine then
    modify fun host => { host with engine := none }
    settle session

/-! ## Volumes -/

/-- The session of the volume in a slot. -/
def volume? (host : Host) (slot : Nat) : Option Nat := host.volumes.lookup slot

/-- Puts the volume that an action makes on a device into a slot. -/
def makeVolume (slot device : Nat) (make : Action Disk (Mount FreeMap)) : Action Host Unit := do
  let ⟨cache, files⟩ ← onDevice device make
  let session ← addSession device ⟨cache, ⟨files.table, some files.space⟩⟩
  modify fun host => { host with volumes := (slot, session) :: host.volumes }

/-- Gives the volume in a slot up. -/
def dropVolume (slot : Nat) : Action Host Unit := do
  if let some session := (← get).volume? slot then
    modify fun host => { host with volumes := host.volumes.filter (·.1 != slot) }
    settle session

/-- Shuts the volume in a slot down; the slot is empty afterwards, whatever came of it. -/
def shutdownVolume (slot : Nat) : Action Host Unit := do
  if let some session := (← get).volume? slot then
    followedBy (onVolume session Volume.shutdown) (dropVolume slot)

/-! ## Handles -/

/-- The open file of a handle. -/
def handle? (host : Host) (handle : Nat) : Option Handle := host.handles.lookup handle

/-- Keeps an open file under a handle. -/
def bindHandle (handle : Nat) (file : Handle) : Action Host Unit :=
  modify fun host => { host with handles := (handle, file) :: host.handles }

/-- Forgets a handle; the cache behind it is settled later. -/
def unbindHandle (handle : Nat) : Action Host Unit :=
  modify fun host => { host with handles := host.handles.filter (·.1 != handle) }

/-- Opens the file on a sector of a mount. -/
def openFile (session : Nat) (sector : SectorId) (handle : Nat) : Action Host Unit := do
  let ref ← onFiles session (Files.openAt sector)
  bindHandle handle ⟨session, ref⟩

/-- Opens the file of a handle once more, under another handle. -/
def reopenFile (file : Handle) (handle : Nat) : Action Host Unit := do
  onTable file.session (InodeTable.reopen file.ref)
  bindHandle handle file

/-- Closes a file through a mount that need not be its own. -/
def closeFile (through : Nat) (file : Handle) : Action Host Unit := do
  if let some inode ← onTable file.session (InodeTable.leave file.ref) then
    onTable through (InodeTable.withdraw inode.sector)
    if inode.removed then
      onFiles file.session (Files.inSpace (DiskInode.reclaim inode.sector))

/-- Closes the file of a handle and gives the handle up, whatever comes of it. -/
def closeHandle (through handle : Nat) (file : Handle) : Action Host Unit := do
  unbindHandle handle
  followedBy (closeFile through file) (settle file.session)

/-- Gives a handle up without closing its file. -/
def dropHandle (handle : Nat) (file : Handle) : Action Host Unit := do
  unbindHandle handle
  settle file.session

end Host

end InodeVolume
