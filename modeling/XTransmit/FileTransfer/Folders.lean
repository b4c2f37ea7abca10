import XTransmit.Shared.StdString

set_option autoImplicit false

namespace XTransmit.FileTransfer

open StdString

abbrev Path := List UInt8

inductive CreateResult where
  | created
  | existing
  | failed
deriving DecidableEq

structure Host (Folders : Type) where
  createDirectory : Path → Folders → CreateResult × Folders
  openable : Path → Folders → Bool
  -- An opened file can be where a later folder is asked for.
  opened : Path → Folders → Folders := fun _ folders => folders

variable {Folders : Type} (host : Host Folders)

def createFolder (path : Path) (folders : Folders) : Bool × Folders :=
  match host.createDirectory path folders with
  | (.created, folders) => (true, folders)
  | (.failed, folders) => (false, folders)
  | (.existing, folders) => (true, folders)

def slash : UInt8 := 0x2f

def backslash : UInt8 := 0x5c

def dot : UInt8 := 0x2e

-- `substr(0, npos)` is the whole path, and `npos` ends the loop. No path holds a NUL byte, so `c_str()`
-- hands over all of it.
def createFoldersFrom (path : Path) (lastDelim pos : Nat) (folders : Folders) : Bool × Folders :=
  if pos = lastDelim then (true, folders)
  else
    match _found : findFirstOf [backslash, slash] path (pos + 1) with
    | none => createFolder host path folders
    | some next =>
        let made := createFolder host (path.take next) folders
        if made.1 then createFoldersFrom path lastDelim next made.2 else made
termination_by path.length - pos
decreasing_by
  have bounds := findFirstOf_bounds _found
  omega

def createSubfolders (path : Path) (folders : Folders) : Bool × Folders :=
  let found := (find [dot, slash] path).or (find [dot, backslash] path)
  let pos := found.elim 0 (· + 2)
  match findLastOf [slash, backslash] path with
  | none => (true, folders)
  | some lastDelim =>
      if lastDelim < pos then (true, folders) else createFoldersFrom host path lastDelim pos folders

structure Host.Succeeds : Prop where
  creates : ∀ path folders, (host.createDirectory path folders).1 ≠ .failed
  opens : ∀ path folders, host.openable path folders = true

variable {host}

theorem createFolder_succeeds (succeeds : host.Succeeds) (path : Path) (folders : Folders) :
    (createFolder host path folders).1 = true := by
  have created := succeeds.creates path folders
  unfold createFolder
  split <;> simp_all

theorem createFoldersFrom_succeeds (succeeds : host.Succeeds) (path : Path) (lastDelim pos : Nat)
    (folders : Folders) : (createFoldersFrom host path lastDelim pos folders).1 = true := by
  fun_induction createFoldersFrom host path lastDelim pos folders with
  | case1 => rfl
  | case2 => exact createFolder_succeeds succeeds _ _
  | case3 pos folders unfinished next found made created ih => exact ih
  | case4 pos folders unfinished next found made failed => exact createFolder_succeeds succeeds _ _

theorem createSubfolders_succeeds (succeeds : host.Succeeds) (path : Path) (folders : Folders) :
    (createSubfolders host path folders).1 = true := by
  unfold createSubfolders
  simp only
  split
  next => rfl
  next =>
    split
    next => rfl
    next => exact createFoldersFrom_succeeds succeeds _ _ _ _

end XTransmit.FileTransfer
