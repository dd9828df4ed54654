/-!
# Memory that is set aside

A buffer whose size is known in advance takes its memory in one block before it holds anything. A
block that no address can span is refused without asking; otherwise the system decides.
-/

namespace SensorLog

/-- Why a block of memory is not there. -/
inductive MemoryFault
  /-- No block can be that long. -/
  | overflow
  /-- The system does not give that much. -/
  | exhausted (bytes : Nat)
deriving DecidableEq, Repr

/-- The wording of a fault. -/
def MemoryFault.message : MemoryFault → String
  | overflow => "capacity overflow"
  | exhausted bytes => s!"memory allocation of {bytes} bytes failed"

/-- The memory of the system. -/
structure Memory where
  /-- Whether a block of so many bytes is given. -/
  grants : Nat → Bool
  /-- No bytes need no block. -/
  nothing : grants 0 = true

namespace Memory

/-- The length of the longest block. -/
def maxBlock : Nat := Nat.pow 2 63 - 1

/-- The memory of a system that gives every block which fits into its address space. -/
def addressable : Memory where
  grants bytes := bytes < Nat.pow 2 47
  nothing := by decide

/-- Sets a block aside. -/
def reserve (m : Memory) (bytes : Nat) : Except MemoryFault Unit :=
  if maxBlock < bytes then .error .overflow
  else if m.grants bytes then .ok ()
  else .error (.exhausted bytes)

end Memory

end SensorLog
