import InodeVolume.Failure
import InodeVolume.Location

/-!
# The log

Every record of the log is an `Event`: what happened, with the numbers that tell which. Level
and text are functions of the event.
-/

namespace InodeVolume

/-- How much detail a record is, the gravest first. -/
inductive Level where
  | error
  | warn
  | info
  | debug
  | trace
deriving DecidableEq, Inhabited

namespace Level

/-- Detail as a number, the gravest lowest. -/
def detail : Level → Nat
  | error => 1
  | warn => 2
  | info => 3
  | debug => 4
  | trace => 5

/-- How a level is written. -/
def text : Level → String
  | error => "ERROR"
  | warn => "WARN"
  | info => "INFO"
  | debug => "DEBUG"
  | trace => "TRACE"

end Level

/-- What the log tells of. -/
inductive Event where
  | cacheHit (sector : SectorId) (slot : Nat)
  | cacheMiss (sector : SectorId)
  | cacheEvict (victim : Option SectorId) (dirty : Bool) (newcomer : SectorId)
  | spaceAllocated (count start : Nat)
  | spaceReleased (count : Nat) (sector : SectorId)
  | growthUnaddressable (length : Nat)
  | growthOutOfSectors (old new : Nat)
  | growthUnregistered (sector : SectorId) (place : Location) (error : Error)
  | grew (old new : Nat)
  | created (sector : SectorId) (length : Nat) (isDir : Bool) (failed : Option Error)
  | opened (sector : SectorId)
  | notAnInode (sector : SectorId)
  | closed (sector : SectorId)
  | reclaimed (sector : SectorId) (length : Nat)
  | offsetOverflow (offset : Nat)
  | writeNotGrown (sector : SectorId) (length : Nat) (error : Error)
  | formatting (sectors : Nat)
  | deviceTooSmall
  | formatted (free : Nat)
  | freeMapTooShort (held needed : Nat)
  | mounted (free : Nat)
  | shutDownWhileOpen (inodes : Nat)
  | shutDown
deriving DecidableEq, Inhabited

namespace Event

/-- The detail of a record. -/
def level : Event → Level
  | cacheHit .. | cacheMiss .. | cacheEvict .. | spaceAllocated .. | spaceReleased .. => .trace
  | grew .. | created .. | opened .. | closed .. | reclaimed .. | shutDownWhileOpen .. => .debug
  | growthUnaddressable .. | growthOutOfSectors .. | growthUnregistered .. | notAnInode .. => .warn
  | offsetOverflow .. | writeNotGrown .. | deviceTooSmall | freeMapTooShort .. => .warn
  | formatting .. | formatted .. | mounted .. | shutDown => .info

/-- How an optional sector is written in messages. -/
def optionalSector : Option SectorId → String
  | some sector => s!"Some({sector.text})"
  | none => "None"

/-- How the result of making an inode is written in messages. -/
def creationResult : Option Error → String
  | some error => s!"Err({error.text})"
  | none => "Ok(())"

/-- The text of a record. -/
def text : Event → String
  | cacheHit sector slot => s!"cache: hit {sector.text} in slot {slot}"
  | cacheMiss sector => s!"cache: miss {sector.text}"
  | cacheEvict victim dirty newcomer =>
    s!"cache: evict {optionalSector victim} (dirty={dirty}) for {newcomer.text}"
  | spaceAllocated count start => s!"free map: allocate {count} at {start}"
  | spaceReleased count sector => s!"free map: release {count} at {sector.text}"
  | growthUnaddressable length =>
    s!"inode: cannot grow to {length} bytes, addressing exhausted"
  | growthOutOfSectors old new =>
    s!"inode: out of sectors while growing {old} -> {new} bytes"
  | growthUnregistered sector place error =>
    s!"inode: failed to register {sector.text} at {place.text}: {error.text}"
  | grew old new => s!"inode: grew {old} -> {new} bytes"
  | created sector length isDir failed =>
    s!"inode: create {sector.text} length={length} dir={isDir} -> {creationResult failed}"
  | opened sector => s!"inode: open {sector.text}"
  | notAnInode sector => s!"inode: {sector.text} does not hold an inode"
  | closed sector => s!"inode: close {sector.text}"
  | reclaimed sector length => s!"inode: reclaim {sector.text} ({length} bytes)"
  | offsetOverflow offset => s!"inode: write at {offset} overflows the file offset"
  | writeNotGrown sector length error =>
    s!"inode: {sector.text} failed to grow to {length} bytes: {error.text}"
  | formatting sectors => s!"formatting file system ({sectors} sectors)"
  | deviceTooSmall => "device is too small to hold a file system"
  | formatted free => s!"format done, {free} sectors free"
  | freeMapTooShort held needed => s!"free map holds {held} bytes, device needs {needed}"
  | mounted free => s!"mounted file system, {free} sectors free"
  | shutDownWhileOpen inodes => s!"shutting down with {inodes} inodes open"
  | shutDown => "file system shut down"

/-- A record as it is written: level, then text. -/
def line (event : Event) : String := event.level.text ++ " " ++ event.text

end Event

end InodeVolume
