import Mathlib.Logic.Function.Basic
import Mathlib.Data.List.Basic

/-! # Advisory locks of a lock file

Every `open` of a path makes a descriptor of its own; an exclusive `flock` belongs to a descriptor and to the file
behind it, and goes away when the descriptor is closed. A file outlives the name of its path as long as it is open.
-/

namespace FileLocks

structure Descriptor where
  id : ℕ
  inode : ℕ
deriving DecidableEq, Repr

/-- The file that the path names, the lock of every file, and the next unused number. -/
structure Kernel where
  path : Option ℕ
  holder : ℕ → Option ℕ
  next : ℕ

namespace Kernel

def initial : Kernel := ⟨none, fun _ => none, 0⟩

/-- `open(path, O_CREAT | O_RDWR)` -/
def openLock (kernel : Kernel) : Kernel × Descriptor :=
  let inode := kernel.path.getD kernel.next
  ({ kernel with path := some inode, next := kernel.next + 1 }, ⟨kernel.next, inode⟩)

/-- `flock(fd, LOCK_EX | LOCK_NB)` -/
def flock (kernel : Kernel) (fd : Descriptor) : Option Kernel :=
  if (kernel.holder fd.inode).all (· == fd.id) then
    some { kernel with holder := Function.update kernel.holder fd.inode (some fd.id) }
  else none

/-- The locks of closed descriptors go away. -/
def close (kernel : Kernel) (closed : List Descriptor) : Kernel :=
  { kernel with holder := fun inode => (kernel.holder inode).filter fun id => !(closed.map (·.id)).contains id }

/-- `unlink(path)` -/
def unlink (kernel : Kernel) : Kernel := { kernel with path := none }

@[simp] theorem close_path (kernel : Kernel) (closed : List Descriptor) : (kernel.close closed).path = kernel.path := rfl

@[simp] theorem close_next (kernel : Kernel) (closed : List Descriptor) : (kernel.close closed).next = kernel.next := rfl

theorem close_holder_eq_some {kernel : Kernel} {closed : List Descriptor} {inode id : ℕ} :
    (kernel.close closed).holder inode = some id ↔ kernel.holder inode = some id ∧ ∀ fd ∈ closed, fd.id ≠ id := by
  rw [close, Option.filter_eq_some_iff]
  simp

/-- A lock is granted to a descriptor of a file without another holder. -/
theorem flock_eq_some {kernel after : Kernel} {fd : Descriptor} (granted : kernel.flock fd = some after) :
    (∀ id, kernel.holder fd.inode = some id → id = fd.id) ∧
      after = { kernel with holder := Function.update kernel.holder fd.inode (some fd.id) } := by
  rw [flock] at granted
  split_ifs at granted with free
  · refine ⟨?_, (Option.some.inj granted).symm⟩
    intro id held
    rw [held, Option.all_some, beq_iff_eq] at free
    exact free

end Kernel

end FileLocks
