import Boundary.Buffer.Error
import Boundary.Wire.Region

/-!
# The ledger

The core records every allocation that it hands out, with its address and capacity, and checks the
record out again when the allocation is released.  An address is handed out once: a new allocation
always gets one that was never used before.

Memory that the core did not hand out can be presented to it all the same.  The ledger knows what
lies there, so that it can be read, but has no record of it.
-/

namespace Boundary

/-- An address in memory. -/
abbrev Address := Nat

/-- A recorded allocation: its capacity and what its memory holds. -/
structure Block where
  capacity : Nat
  contents : Region
  deriving DecidableEq, Repr

/-- The records of the core. -/
structure Ledger where
  /-- The allocations handed out and not released, by address. -/
  blocks : List (Address × Block)
  /-- Live memory that the core never handed out, by address. -/
  unrecorded : List (Address × Region)
  /-- The address that the next allocation gets. -/
  nextAddress : Address
  deriving DecidableEq, Repr

namespace Ledger

/-- Nothing has been handed out. -/
def empty : Ledger := ⟨[], [], 1⟩

instance : Inhabited Ledger := ⟨empty⟩

/-- The number of allocations handed out and not released. -/
def outstanding (ledger : Ledger) : Nat := ledger.blocks.length

/-- The record of the allocation at an address. -/
def find? (ledger : Ledger) (address : Address) : Option Block :=
  ledger.blocks.lookup address

/-- Whether the allocation at an address is handed out with the given capacity. -/
def isLive (ledger : Ledger) (address : Address) (capacity : Nat) : Bool :=
  (ledger.find? address).any fun block => block.capacity == capacity

/-- What memory holds at an address, recorded or not. -/
def memory? (ledger : Ledger) (address : Address) : Option Region :=
  ((ledger.find? address).map Block.contents).or (ledger.unrecorded.lookup address)

/-- Hands out an allocation at a new address. -/
def register (ledger : Ledger) (block : Block) : Address × Ledger :=
  (ledger.nextAddress,
    { ledger with
      blocks := (ledger.nextAddress, block) :: ledger.blocks
      nextAddress := ledger.nextAddress + 1 })

/-- Hands out an allocation at an address that was checked out just before. -/
def registerAgain (ledger : Ledger) (address : Address) (block : Block) : Ledger :=
  { ledger with blocks := (address, block) :: ledger.blocks }

/-- The records without those of an address. -/
def erase (ledger : Ledger) (address : Address) : Ledger :=
  { ledger with blocks := ledger.blocks.filter fun entry => entry.1 != address }

/-- Checks an allocation out.  Refused, without effect, unless it is recorded with the capacity. -/
def release (ledger : Ledger) (address : Address) (capacity : Nat) :
    Except BufferError (Block × Ledger) :=
  match ledger.find? address with
  | none => .error (.notOwned address)
  | some block =>
    if block.capacity = capacity then .ok (block, ledger.erase address)
    else .error (.capacityMismatch block.capacity capacity)

/-- Overwrites what the allocation at an address holds. -/
def store (ledger : Ledger) (address : Address) (contents : Region) : Ledger :=
  { ledger with
    blocks := ledger.blocks.map fun entry =>
      if entry.1 = address then (address, { entry.2 with contents := contents }) else entry }

/-- Memory appears that the core did not hand out. -/
def reveal (ledger : Ledger) (contents : Region) : Address × Ledger :=
  (ledger.nextAddress,
    { ledger with
      unrecorded := (ledger.nextAddress, contents) :: ledger.unrecorded
      nextAddress := ledger.nextAddress + 1 })

end Ledger

end Boundary
