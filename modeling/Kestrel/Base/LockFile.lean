import Mathlib.Data.Nat.Notation
import Mathlib.Logic.Function.Basic

/-!
# Advisory lock files

A lock belongs to the file that was opened, not to the path that led to it: a path can be unlinked
and created again while the old file is still locked.
-/

structure LockFile (Holder : Type) where
  /-- The file that the path names now. -/
  linked : Option ℕ
  holder : ℕ → Option Holder
  next : ℕ

namespace LockFile

variable {Holder : Type}

def absent : LockFile Holder := ⟨none, fun _ => none, 0⟩

variable (file : LockFile Holder)

def openOrCreate : ℕ × LockFile Holder :=
  match file.linked with
  | some inode => (inode, file)
  | none => (file.next, { file with linked := some file.next, next := file.next + 1 })

/-- Claim the lock of an opened file, unless somebody holds it. -/
def tryLock (inode : ℕ) (holder : Holder) : Option (LockFile Holder) :=
  if (file.holder inode).isSome then none
  else some { file with holder := Function.update file.holder inode (some holder) }

def unlock (inode : ℕ) : LockFile Holder :=
  { file with holder := Function.update file.holder inode none }

def unlink : LockFile Holder := { file with linked := none }

variable {file} {inode : ℕ} {holder : Holder} {after : LockFile Holder}

@[simp] theorem linked_unlock : (file.unlock inode).linked = file.linked := rfl

@[simp] theorem holder_unlink : file.unlink.holder = file.holder := rfl

@[simp] theorem linked_openOrCreate : file.openOrCreate.2.linked = some file.openOrCreate.1 := by
  unfold openOrCreate
  cases linked : file.linked with
  | some inode => exact linked
  | none => rfl

theorem openOrCreate_of_linked (linked : file.linked = some inode) :
    file.openOrCreate = (inode, file) := by
  rw [openOrCreate, linked]

theorem tryLock_eq_some : file.tryLock inode holder = some after ↔ file.holder inode = none ∧
      after = { file with holder := Function.update file.holder inode (some holder) } := by
  unfold tryLock
  cases file.holder inode with
  | none => simp [eq_comm]
  | some other => simp

end LockFile
