import InodeVolume.Host
import InodeVolume.Main
import InodeVolume.Proofs.Cache.Transparency
import InodeVolume.Proofs.BlockMap.Free
import InodeVolume.Proofs.Contents
import InodeVolume.Proofs.Files.InUse
import InodeVolume.Proofs.Files.Intact
import InodeVolume.Proofs.Files.Table
import InodeVolume.Proofs.Files.Whole
import InodeVolume.Proofs.Space.Lawful
import InodeVolume.Proofs.Volume.Calls
import InodeVolume.Proofs.Volume.Healthy
import InodeVolume.Proofs.Volume.Beginning
import InodeVolume.Proofs.Volume.Devices
import InodeVolume.Proofs.Volume.Ownership
import InodeVolume.Proofs.Volume.Reachable
import InodeVolume.Proofs.Volume.Persistence
import InodeVolume.Proofs.Volume.ReadWrite
import InodeVolume.Proofs.Volume.Lifecycle
import InodeVolume.Proofs.Volume.Transparency
import InodeVolume.Proofs.Volume.Noninterference
import InodeVolume.Proofs.Volume.SmallMap
import InodeVolume.Proofs.Volume.Forgotten
import InodeVolume.Proofs.Cache.Refusal
import InodeVolume.Proofs.Files.AnyContents
import InodeVolume.Proofs.Volume.AnyContents
import InodeVolume.Proofs.BlockMap.AnyMap
import InodeVolume.Proofs.Volume.Upkeep
import InodeVolume.Proofs.Volume.Fenced
import InodeVolume.Proofs.Volume.Formatting
import InodeVolume.Proofs.Volume.Vacated
import InodeVolume.Proofs.Device.Image
import InodeVolume.Proofs.FreeMap.FirstFit
import InodeVolume.Proofs.BlockMap.Raised
import InodeVolume.Proofs.BlockMap.Covered
import InodeVolume.Proofs.BlockMap.Exact
import InodeVolume.Proofs.Volume.Anchored
import InodeVolume.Proofs.Packer.Jobs
import InodeVolume.Proofs.Packer.Untouched
import InodeVolume.Proofs.Volume.Stock
import InodeVolume.Proofs.Packer.Service
import InodeVolume.Proofs.Packer.Looking
import InodeVolume.Proofs.Packer.Session
import InodeVolume.Proofs.Cache.Idle
import InodeVolume.Proofs.BlockMap.PointUpdate
import InodeVolume.Proofs.BlockMap.InSteps
import InodeVolume.Proofs.Cache.Consistent
import InodeVolume.Proofs.Cache.Economy
import InodeVolume.Proofs.BlockMap.Exhausted
import InodeVolume.Proofs.Volume.FailedCreate
import InodeVolume.Proofs.Volume.Redenied
import InodeVolume.Proofs.Volume.Denial
import InodeVolume.Proofs.Contents.AnyInode
import InodeVolume.Proofs.Device.Histories
import InodeVolume.Proofs.FreeMap.Stored
import InodeVolume.Proofs.Layout.Fields
import InodeVolume.Proofs.BlockMap.Places
