import BlockExtent.Proofs.File.Changes
import BlockExtent.Proofs.Result

/-!
# Disks

A store of files need not do what it is asked to.  A disk is a store that holds a file system
and may fail at any call: for want of a right, or of room, or because something breaks.  What
is asked for is then not done, or only in part.  The file system itself is the disk on which
nothing fails but what cannot be done.

## Main definitions

* `Disk` — a store that holds a file system.
* `FileSystem.disk` — a file system as a disk.
* `Disk.Confined` — an effect that changes nothing but what is at some paths.

## Main results

* `Disk.changesOnly_create`, `Disk.changesOnly_append` — files that are made and written.
* `Disk.confined_makeDirectoriesFrom` — directories that are made.
-/

namespace BlockExtent

open FileSystem (ChangesOnly)

/-- A store that holds a file system.  A call that fails changes nothing, but that some of the
bytes to be added to a file may have got there. -/
structure Disk (σ : Type) where
  /-- The operations. -/
  store : FileStore (StateM σ)
  /-- The file system it holds. -/
  files : σ → FileSystem
  /-- Where an open file is. -/
  location : store.Handle → Location
  files_read : ∀ path s, files (store.read path s).2 = files s
  find_of_read : ∀ {path s content s'}, store.read path s = (.ok (.bytes content), s') →
    (files s).find path = .ok (.file content)
  create_ok : ∀ {path s handle s'}, store.create path s = (.ok handle, s') →
    (files s).createFile path = .ok (location handle, files s')
  create_error : ∀ {path s cause s'}, store.create path s = (.error cause, s') →
    files s' = files s
  append_spec : ∀ handle bytes s, ∃ length,
    files (store.append handle bytes s).2
        = (files s).append (location handle) (bytes.extract 0 length)
      ∧ ((store.append handle bytes s).1 = .ok () → bytes.size ≤ length)
  files_sync : ∀ handle s, files (store.sync handle s).2 = files s
  makeDirectory_ok : ∀ {path s s'}, store.makeDirectory path s = (.ok (), s') →
    (files s).makeDirectory path = .ok (files s')
  makeDirectory_error : ∀ {path s cause s'}, store.makeDirectory path s = (.error cause, s') →
    files s' = files s
  files_isDirectory : ∀ path s, files (store.isDirectory path s).2 = files s

/-- A file system is a disk. -/
def FileSystem.disk : Disk FileSystem where
  store := FileSystem.store
  files fs := fs
  location location := location
  files_read path fs := by
    rw [FileSystem.store_read]
  find_of_read {path fs content fs'} h := by
    rw [FileSystem.store_read] at h
    rcases hfind : fs.find path with cause | _ | _
    · rw [hfind] at h
      cases h
    · rw [hfind] at h
      cases h
    · rw [hfind] at h
      cases h
      rfl
  create_ok h := FileSystem.store_create_eq_ok h
  create_error {path fs cause fs'} h := by
    rw [FileSystem.store_create] at h
    split at h <;> cases h
    rfl
  append_spec location bytes fs := by
    refine ⟨bytes.size, ?_, fun _ => Nat.le_refl _⟩
    rw [ByteArray.extract_zero_size]
    rfl
  makeDirectory_ok {path fs fs'} h := by
    rw [FileSystem.store_makeDirectory] at h
    split at h <;> cases h
    assumption
  makeDirectory_error {path fs cause fs'} h := by
    rw [FileSystem.store_makeDirectory] at h
    split at h <;> cases h
    rfl
  files_sync handle fs := rfl
  files_isDirectory path fs := rfl

namespace Disk

variable {σ α β : Type} {disk : Disk σ} {files directories : String → Prop} {path : String}

/-! ### Files -/

/-- A file that is made is the only change, and there is none if it cannot be made. -/
theorem changesOnly_create (hpath : files path) (s : σ) :
    ChangesOnly files directories (disk.files s) (disk.files (disk.store.create path s).2) := by
  rcases hcreate : disk.store.create path s with ⟨cause | handle, s'⟩
  · rw [disk.create_error hcreate]
    exact .refl files directories _
  · exact FileSystem.changesOnly_createFile hpath (disk.create_ok hcreate)

/-- A path leads to the file that has been made at it. -/
theorem locate_of_create {handle : disk.store.Handle} {s s' : σ}
    (h : disk.store.create path s = (.ok handle, s')) :
    (disk.files s').locate path = .ok (disk.location handle) :=
  (FileSystem.createFile_eq_ok (disk.create_ok h)).1.locate_eq

/-- Bytes that are added to a file are the only change, however many of them are added. -/
theorem changesOnly_append {handle : disk.store.Handle} {s : σ} (hpath : files path)
    (hlocate : (disk.files s).locate path = .ok (disk.location handle)) (bytes : ByteArray) :
    ChangesOnly files directories (disk.files s)
      (disk.files (disk.store.append handle bytes s).2) := by
  obtain ⟨length, happend, -⟩ := disk.append_spec handle bytes s
  rw [happend]
  exact FileSystem.changesOnly_append hpath hlocate _

/-! ### Effects one after the other -/

/-- An effect makes and writes files at some paths and directories at some paths, and touches
nothing else. -/
def Confined (disk : Disk σ) (files directories : String → Prop) (effect : StateM σ α) : Prop :=
  ∀ s, ChangesOnly files directories (disk.files s) (disk.files (effect s).2)

theorem confined_pure (a : α) : disk.Confined files directories (pure a) :=
  fun _ => .refl files directories _

theorem confined_of_eq {effect : StateM σ α} (h : ∀ s, disk.files (effect s).2 = disk.files s) :
    disk.Confined files directories effect := by
  intro s
  rw [h]
  exact .refl files directories _

theorem Confined.bind {effect : StateM σ α} {next : α → StateM σ β}
    (h : disk.Confined files directories effect)
    (hnext : ∀ a, disk.Confined files directories (next a)) :
    disk.Confined files directories (effect >>= next) := by
  intro s
  rw [stateM_bind_apply]
  exact (h s).trans (hnext _ _)

/-! ### Directories -/

theorem confined_makeDirectory (hpath : directories path) :
    disk.Confined files directories (disk.store.makeDirectory path) := by
  intro s
  rcases hmake : disk.store.makeDirectory path s with ⟨cause | ⟨⟩, s'⟩
  · rw [disk.makeDirectory_error hmake]
    exact .refl files directories _
  · exact FileSystem.changesOnly_makeDirectory hpath (disk.makeDirectory_ok hmake)

theorem confined_acceptDirectory (cause : FileError) :
    disk.Confined files directories
      (FileStore.makeDirectoriesFrom.acceptDirectory disk.store path cause) := by
  unfold FileStore.makeDirectoriesFrom.acceptDirectory
  refine (confined_of_eq (disk.files_isDirectory path)).bind fun there => ?_
  split <;> exact confined_pure _

/-- **Paths each of which is above the one in front of it are where directories are made**,
whether or not all of them are. -/
theorem confined_makeDirectoriesFrom {paths : List String}
    (hpaths : ∀ path ∈ paths, directories path) :
    disk.Confined files directories (disk.store.makeDirectoriesFrom paths) := by
  induction paths with
  | nil => exact confined_pure _
  | cons path above ih =>
    obtain ⟨hpath, habove⟩ := List.forall_mem_cons.mp hpaths
    have hmake : disk.Confined files directories (disk.store.makeDirectory path) :=
      confined_makeDirectory hpath
    unfold FileStore.makeDirectoriesFrom
    split
    · exact confined_pure _
    -- the directories above are made where the first attempt does not find them
    refine hmake.bind fun first => ?_
    split
    · exact confined_pure _
    · refine (ih habove).bind fun made => ?_
      split
      · exact confined_pure _
      · refine hmake.bind fun second => ?_
        split
        · exact confined_pure _
        · exact confined_acceptDirectory _
    · exact confined_acceptDirectory _

end Disk

end BlockExtent
