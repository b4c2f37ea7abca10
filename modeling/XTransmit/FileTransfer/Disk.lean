import Mathlib.Data.List.Infix
import XTransmit.FileTransfer.Destination
import XTransmit.FileTransfer.Subfolders

set_option autoImplicit false

namespace XTransmit.FileTransfer

open StdString PathNames

namespace Directories

variable {dirs : Directories} {path : Path}

def target (dirs : Directories) (path : Path) : Option Location :=
  (dirs.walk (dirs.start path) (names slash path).dropLast).bind fun parent =>
    (names slash path).getLast?.map (· :: parent)

theorem target_some {place : Location} (found : dirs.target path = some place) :
    ∃ parent name, dirs.walk (dirs.start path) (names slash path).dropLast = some parent ∧
      (names slash path).getLast? = some name ∧ place = name :: parent := by
  obtain ⟨parent, walked, named⟩ := Option.bind_eq_some_iff.mp found
  obtain ⟨name, last, rfl⟩ := Option.map_eq_some_iff.mp named
  exact ⟨parent, name, walked, last, rfl⟩

theorem target_inside {name : Path} {place : Location} (found : dirs.target path = some (name :: place)) :
    dirs.known place = true := by
  obtain ⟨parent, _, walked, -, same⟩ := target_some found
  cases same
  exact walk_known (start_known path) walked

theorem createDirectory_current : (dirs.createDirectory path).2.current = dirs.current := by
  unfold createDirectory
  split
  next => rfl
  next =>
    split
    next => rfl
    next => split <;> rfl

theorem createDirectory_grows {place : Location} (known : dirs.known place = true) :
    (dirs.createDirectory path).2.known place = true := by
  unfold createDirectory
  split
  next => exact known
  next =>
    split
    next => exact known
    next =>
      split
      next => exact known
      next => simp [add, known]

theorem createDirectory_known {place : Location} (known : (dirs.createDirectory path).2.known place = true) :
    dirs.known place = true ∨ dirs.target path = some place := by
  unfold createDirectory at known
  split at known
  next => exact .inl known
  next parent walked =>
    split at known
    next => exact .inl known
    next name last =>
      split at known
      next => exact .inl known
      next =>
        rcases Bool.or_eq_true_iff.mp known with same | known
        · exact .inr (by simp [target, walked, last, of_decide_eq_true same])
        · exact .inl known

end Directories

structure Disk where
  dirs : Directories
  regular : Location → Bool
  apart : ∀ place, regular place = true → dirs.known place = false
  inside : ∀ name place, regular (name :: place) = true → dirs.known place = true

namespace Disk

variable (disk : Disk)

-- `mkdir` fails over a regular file, while an existing directory is no error.
def createDirectory (path : Path) : CreateResult × Disk :=
  if file : (disk.dirs.target path).any disk.regular then (.failed, disk)
  else ((disk.dirs.createDirectory path).1, {
    dirs := (disk.dirs.createDirectory path).2
    regular := disk.regular
    apart := by
      intro place here
      refine Bool.eq_false_iff.mpr fun known => ?_
      rcases Directories.createDirectory_known known with before | new
      · exact absurd before (by simp [disk.apart place here])
      · exact file (by simp [new, here])
    inside := fun name place here => Directories.createDirectory_grows (disk.inside name place here) })

-- A directory is not opened for writing.
def openable (path : Path) : Bool :=
  disk.dirs.ParentExists path ∧ ¬disk.dirs.Exists path ∧ path.getLast? ≠ some slash

def opened (path : Path) : Disk :=
  match found : disk.dirs.target path with
  | none => disk
  | some place =>
      if folder : disk.dirs.known place then disk
      else {
        dirs := disk.dirs
        regular := fun other => other = place || disk.regular other
        apart := by
          intro other here
          rcases Bool.or_eq_true_iff.mp here with same | before
          · exact of_decide_eq_true same ▸ Bool.eq_false_iff.mpr folder
          · exact disk.apart other before
        inside := by
          intro name outer here
          rcases Bool.or_eq_true_iff.mp here with same | before
          · exact Directories.target_inside (of_decide_eq_true same ▸ found)
          · exact disk.inside name outer before }

end Disk

def diskHost : Host Disk where
  createDirectory path disk := disk.createDirectory path
  openable path disk := disk.openable path
  opened path disk := disk.opened path

section Names

variable {path : Path} {index : Nat}

theorem piece_before_separator (path : Path) :
    ∀ piece ∈ (path.splitOn slash).dropLast, piece ++ [slash] <:+: path := by
  by_cases separated : slash ∈ path
  next =>
    obtain ⟨front, back, whole, plain⟩ := List.eq_append_cons_of_mem separated
    rw [whole, List.splitOn_append_cons_self_of_not_mem plain, List.dropLast_cons_of_ne_nil (List.splitOn_ne_nil _ _)]
    intro piece member
    rcases List.mem_cons.mp member with rfl | later
    · exact ⟨[], back, by simp⟩
    · obtain ⟨before, after, same⟩ := piece_before_separator back piece later
      exact ⟨front ++ slash :: before, after, by simp [← same]⟩
  next => simp [List.splitOn_eq_singleton separated]
termination_by path.length
decreasing_by
  rw [whole, List.length_append, List.length_cons]
  omega

theorem mem_dropLast_names {name : Path} (member : name ∈ (names slash path).dropLast) :
    name ∈ (path.splitOn slash).dropLast := by
  obtain ⟨before, last, split⟩ := (List.eq_nil_or_concat' (path.splitOn slash)).resolve_left (List.splitOn_ne_nil _ _)
  rw [names, split, List.filter_append] at member
  rw [split, List.dropLast_concat]
  by_cases empty : last = []
  next =>
    have inside := List.mem_of_mem_dropLast member
    simp [empty] at inside
    exact inside.1
  next =>
    simp [empty] at member
    exact member.1

theorem folder_plain (noSlash : find [dot, slash] path = none) :
    ∀ name ∈ (names slash path).dropLast, name ≠ [dot] ∧ name ≠ [dot, dot] := by
  intro name member
  have followed := piece_before_separator path name (mem_dropLast_names member)
  have undotted : ¬[dot, slash] <:+: name ++ [slash] := fun inside => find_eq_none_iff.mp noSlash (inside.trans followed)
  constructor
  · rintro rfl
    exact undotted ⟨[], [], rfl⟩
  · rintro rfl
    exact undotted ⟨[dot], [], rfl⟩

theorem names_ne_nil (nonempty : path ≠ []) (unended : path.getLast? ≠ some slash) : names slash path ≠ [] := by
  obtain ⟨before, last, split, filled⟩ := splitOn_unended nonempty unended
  simp [names, split, filled]

theorem names_take (separator : path[index]? = some slash) (unended : path.getLast? ≠ some slash) :
    names slash (path.take index) <+: (names slash path).dropLast := by
  obtain ⟨inside, cut⟩ := List.getElem?_eq_some_iff.mp separator
  have whole : path.take index ++ slash :: path.drop (index + 1) = path := by
    rw [← cut, ← List.drop_eq_getElem_cons inside, List.take_append_drop]
  rw [← whole] at unended
  have behind : path.drop (index + 1) ≠ [] := by
    intro empty
    simp [empty] at unended
  rw [List.getLast?_append_of_ne_nil _ (by simp), List.getLast?_cons_of_ne_nil behind] at unended
  have split : names slash (path.take index ++ slash :: path.drop (index + 1)) =
      names slash (path.take index) ++ names slash (path.drop (index + 1)) := names_append_sep _ _
  rw [whole] at split
  rw [split, List.dropLast_append_of_ne_nil (names_ne_nil behind unended)]
  exact List.prefix_append _ _

-- Without a backslash folders are cut at separators only.
theorem separator_of_found {pos next : Nat} (noBackslash : backslash ∉ path)
    (found : findFirstOf [backslash, slash] path pos = some next) : path[next]? = some slash := by
  obtain ⟨char, delimiter, read⟩ := (findFirstOf_hit found).1
  rcases List.mem_pair.mp delimiter with rfl | rfl
  · exact absurd (List.mem_of_getElem? read) noBackslash
  · exact read

end Names

def Directories.place (dirs : Directories) (path : Path) (front : List Path) : Location := front.reverse ++ dirs.start path

theorem Directories.walk_plain {dirs : Directories} {place last : Location} {path : List Path}
    (plain : ∀ name ∈ path, name ≠ [dot] ∧ name ≠ [dot, dot]) (walked : dirs.walk place path = some last) :
    last = path.reverse ++ place := by
  induction path generalizing place with
  | nil => exact (Option.some.inj walked).symm
  | cons name rest ih =>
      obtain ⟨next, entered, later⟩ := Option.bind_eq_some_iff.mp walked
      obtain ⟨⟨notHere, notParent⟩, others⟩ := List.forall_mem_cons.mp plain
      rw [enter, if_neg notHere, if_neg notParent] at entered
      split_ifs at entered
      cases entered
      simpa using ih others later

theorem Directories.target_plain {dirs : Directories} {path : Path} {place : Location}
    (plain : ∀ name ∈ (names slash path).dropLast, name ≠ [dot] ∧ name ≠ [dot, dot])
    (found : dirs.target path = some place) : place = dirs.place path (names slash path) := by
  obtain ⟨parent, name, walked, last, rfl⟩ := target_some found
  rw [walk_plain plain walked, Directories.place, ← List.dropLast_append_getLast? name last]
  simp

theorem parentExists_of_separators {dirs : Directories} {path : Path}
    (present : ∀ index, path[index]? = some slash → dirs.Exists (path.take (index + 1)))
    (nonempty : path ≠ []) (unended : path.getLast? ≠ some slash) : dirs.ParentExists path := by
  by_cases separated : slash ∈ path
  next =>
    obtain ⟨tail, front, split, plain⟩ := List.eq_append_cons_of_mem (List.mem_reverse.mpr separated)
    have whole : path = front.reverse ++ [slash] ++ tail.reverse := by
      simpa using congrArg List.reverse split
    have inside := present front.reverse.length (by simp [whole])
    rw [whole, List.take_left' (by simp)] at inside
    cases last : tail.reverse with
    | nil => simp [whole, last] at unended
    | cons byte rest =>
        rw [whole, last]
        refine parentExists_of_exists (by simp) (fun member => plain ?_) inside
        rw [← List.mem_reverse, last]
        exact List.mem_cons_of_mem _ member
  next =>
    cases path with
    | nil => exact absurd rfl nonempty
    | cons byte rest => exact parentExists_first_name fun member => separated (List.mem_cons_of_mem _ member)

namespace Disk

def FoldersFree (disk : Disk) (path : Path) : Prop :=
  ∀ front, front <+: (names slash path).dropLast → disk.regular (disk.dirs.place path front) = false

instance (disk : Disk) (path : Path) : Decidable (disk.FoldersFree path) :=
  decidable_of_iff (∀ front ∈ (names slash path).dropLast.inits, disk.regular (disk.dirs.place path front) = false)
    (by simp [FoldersFree, List.mem_inits])

/-- No regular file stands where a folder of the path goes, and no directory where the file goes. -/
structure Free (disk : Disk) (path : Path) : Prop where
  file : disk.dirs.known (disk.dirs.place path (names slash path)) = false
  folders : disk.FoldersFree path

structure Made (path : Path) (disk after : Disk) : Prop where
  regular : after.regular = disk.regular
  current : after.dirs.current = disk.dirs.current
  known : ∀ place, after.dirs.known place = true →
    disk.dirs.known place = true ∨ ∃ front, front <+: (names slash path).dropLast ∧ place = disk.dirs.place path front

variable {disk after last : Disk} {path : Path}

theorem Made.refl (path : Path) (disk : Disk) : Made path disk disk := ⟨rfl, rfl, fun _ known => .inl known⟩

theorem Made.start (made : Made path disk after) (other : Path) : after.dirs.start other = disk.dirs.start other := by
  simp only [Directories.start, made.current]

theorem Made.place (made : Made path disk after) (other : Path) (front : List Path) :
    after.dirs.place other front = disk.dirs.place other front := by
  simp only [Directories.place, made.start]

theorem Made.trans (earlier : Made path disk after) (later : Made path after last) : Made path disk last := by
  refine ⟨later.regular.trans earlier.regular, later.current.trans earlier.current, fun place known => ?_⟩
  rcases later.known place known with before | ⟨front, within, same⟩
  · exact earlier.known place before
  · exact .inr ⟨front, within, by rw [same, earlier.place]⟩

structure Mirrors (path : Path) (disk : Disk) (answer : Bool × Disk) (made : Bool × Directories) : Prop where
  result : answer.1 = made.1
  dirs : answer.2.dirs = made.2
  made : Made path disk answer.2

theorem createFolder_eq {Folders : Type} (host : Host Folders) (path : Path) (folders : Folders) :
    createFolder host path folders =
      (decide ((host.createDirectory path folders).1 ≠ .failed), (host.createDirectory path folders).2) := by
  unfold createFolder
  split <;> simp_all

theorem createFolder_free {index : Nat} (folders : disk.FoldersFree path) (noSlash : find [dot, slash] path = none)
    (unended : path.getLast? ≠ some slash) (positive : 0 < index) (separator : path[index]? = some slash) :
    Mirrors path disk (createFolder diskHost (path.take index) disk)
      (createFolder directoryHost (path.take index) disk.dirs) := by
  have within := names_take separator unended
  have reached : ∀ place, disk.dirs.target (path.take index) = some place →
      place = disk.dirs.place path (names slash (path.take index)) := by
    intro place found
    have plain := fun other member => folder_plain noSlash other (within.subset (List.mem_of_mem_dropLast member))
    rw [Directories.target_plain plain found, Directories.place, start_take positive, Directories.place]
  have free : ¬(disk.dirs.target (path.take index)).any disk.regular = true := by
    cases found : disk.dirs.target (path.take index) with
    | none => simp
    | some place => simp [reached place found, folders _ within]
  have made : Made path disk (disk.createDirectory (path.take index)).2 := by
    rw [createDirectory, dif_neg free]
    refine ⟨rfl, Directories.createDirectory_current, fun place known => ?_⟩
    exact (Directories.createDirectory_known known).imp_right fun found => ⟨_, within, reached place found⟩
  have answer : (disk.createDirectory (path.take index)).1 = (disk.dirs.createDirectory (path.take index)).1 ∧
      (disk.createDirectory (path.take index)).2.dirs = (disk.dirs.createDirectory (path.take index)).2 := by
    rw [createDirectory, dif_neg free]
    exact ⟨rfl, rfl⟩
  rw [createFolder_eq, createFolder_eq]
  exact ⟨congrArg (fun result : CreateResult => decide (result ≠ .failed)) answer.1, answer.2, made⟩

theorem Made.foldersFree (made : Made path disk after) {other : Path} (folders : disk.FoldersFree other) :
    after.FoldersFree other := by
  intro front within
  rw [made.regular, made.place]
  exact folders front within

theorem Mirrors.refl (path : Path) (disk : Disk) (result : Bool) : Mirrors path disk (result, disk) (result, disk.dirs) :=
  ⟨rfl, rfl, .refl path disk⟩

theorem Mirrors.behind {answer : Bool × Disk} {made : Bool × Directories} (mirrors : Mirrors path after answer made)
    (earlier : Made path disk after) : Mirrors path disk answer made :=
  ⟨mirrors.result, mirrors.dirs, earlier.trans mirrors.made⟩

theorem createFoldersFrom_next {Folders : Type} {host : Host Folders} {folders : Folders} {lastDelim pos next : Nat}
    (unfinished : pos ≠ lastDelim) (found : findFirstOf [backslash, slash] path (pos + 1) = some next) :
    createFoldersFrom host path lastDelim pos folders =
      if (createFolder host (path.take next) folders).1 then
        createFoldersFrom host path lastDelim next (createFolder host (path.take next) folders).2
      else createFolder host (path.take next) folders := by
  rw [createFoldersFrom, if_neg unfinished]
  split
  next missing => cases missing.symm.trans found
  next other same =>
    cases found.symm.trans same
    rfl

theorem createFoldersFrom_free {lastDelim pos : Nat} (folders : disk.FoldersFree path)
    (noSlash : find [dot, slash] path = none) (noBackslash : backslash ∉ path) (unended : path.getLast? ≠ some slash)
    (last : findLastOf [slash, backslash] path = some lastDelim) (within : pos ≤ lastDelim) :
    Mirrors path disk (createFoldersFrom diskHost path lastDelim pos disk)
      (createFoldersFrom directoryHost path lastDelim pos disk.dirs) := by
  fun_induction createFoldersFrom diskHost path lastDelim pos disk with
  | case1 disk =>
      rw [createFoldersFrom, if_pos rfl]
      exact .refl path disk true
  | case2 pos disk unfinished missing =>
      obtain ⟨next, found, -⟩ := next_delimiter last (Nat.lt_of_le_of_ne within unfinished)
      cases missing.symm.trans found
  | case3 pos disk unfinished next found answer success ih =>
      obtain ⟨_, again, later, notBeyond, -⟩ := next_delimiter last (Nat.lt_of_le_of_ne within unfinished)
      cases found.symm.trans again
      have mirrors := createFolder_free folders noSlash unended (by omega) (separator_of_found noBackslash found)
      rw [createFoldersFrom_next unfinished found, if_pos (mirrors.result ▸ success), ← mirrors.dirs]
      exact (ih (mirrors.made.foldersFree folders) notBeyond).behind mirrors.made
  | case4 pos disk unfinished next found answer failed =>
      obtain ⟨_, again, later, notBeyond, -⟩ := next_delimiter last (Nat.lt_of_le_of_ne within unfinished)
      cases found.symm.trans again
      have mirrors := createFolder_free folders noSlash unended (by omega) (separator_of_found noBackslash found)
      rw [createFoldersFrom_next unfinished found, if_neg (mirrors.result ▸ failed)]
      exact mirrors

theorem createSubfolders_free (folders : disk.FoldersFree path) (noSlash : find [dot, slash] path = none)
    (noBackslash : backslash ∉ path) (unended : path.getLast? ≠ some slash) :
    Mirrors path disk (createSubfolders diskHost path disk) (createSubfolders directoryHost path disk.dirs) := by
  cases last : findLastOf [slash, backslash] path with
  | none =>
      simp only [createSubfolders, last]
      exact .refl path disk true
  | some lastDelim =>
      rw [createSubfolders_last last, createSubfolders_last last]
      split_ifs with early
      · exact .refl path disk true
      · exact createFoldersFrom_free folders noSlash noBackslash unended last (Nat.le_of_not_lt early)

theorem opened_dirs : (disk.opened path).dirs = disk.dirs := by
  unfold opened
  split
  next => rfl
  next => split <;> rfl

theorem opened_regular {place : Location} (here : (disk.opened path).regular place = true) :
    disk.regular place = true ∨ disk.dirs.target path = some place := by
  unfold opened at here
  split at here
  next => exact .inl here
  next target found =>
    split at here
    next => exact .inl here
    next =>
      rcases Bool.or_eq_true_iff.mp here with same | before
      · exact .inr (of_decide_eq_true same ▸ found)
      · exact .inl before

structure Plain (path : Path) : Prop where
  noSlash : find [dot, slash] path = none
  noBackslash : backslash ∉ path
  nonempty : path ≠ []
  unended : path.getLast? ≠ some slash
  named : ∀ name ∈ names slash path, name ≠ [dot] ∧ name ≠ [dot, dot]

theorem Plain.mirrors (plain : Plain path) (free : disk.Free path) :
    Mirrors path disk (createSubfolders diskHost path disk) (createSubfolders directoryHost path disk.dirs) :=
  createSubfolders_free free.folders plain.noSlash plain.noBackslash plain.unended

theorem place_injective {dirs : Directories} {other : Path} (same : dirs.start path = dirs.start other)
    {front back : List Path} (here : dirs.place path front = dirs.place other back) : front = back := by
  rw [Directories.place, Directories.place, same] at here
  exact List.reverse_injective (List.append_cancel_right here)

theorem ne_of_dropLast {front path : List Path} (nonempty : path ≠ []) (within : front <+: path.dropLast) :
    path ≠ front := by
  rintro rfl
  have shorter := within.length_le
  have filled := List.length_pos_iff.mpr nonempty
  rw [List.length_dropLast] at shorter
  omega

theorem Plain.admits (plain : Plain path) (free : disk.Free path) :
    (createSubfolders diskHost path disk).1 = true ∧
      (createSubfolders diskHost path disk).2.openable path = true := by
  have mirrors := plain.mirrors free
  obtain ⟨made, present⟩ := @createsParents_of_no_dot disk.dirs path plain.noSlash
    (find_eq_none_iff.mpr fun inside => plain.noBackslash (inside.subset (by simp)))
  have parent := parentExists_of_separators present plain.nonempty plain.unended
  rw [← mirrors.dirs] at parent
  have missing : ¬(createSubfolders diskHost path disk).2.dirs.Exists path := by
    intro found
    obtain ⟨last, walked⟩ := Option.isSome_iff_exists.mp found
    have known := Directories.walk_known (Directories.start_known path) walked
    rw [Directories.walk_plain plain.named walked, mirrors.made.start] at known
    rcases mirrors.made.known _ known with before | ⟨front, within, here⟩
    · exact Bool.eq_false_iff.mp free.file before
    · exact ne_of_dropLast (names_ne_nil plain.nonempty plain.unended) within (place_injective rfl here)
  exact ⟨mirrors.result.trans made, by simp [openable, parent, missing, plain.unended]⟩

structure Apart (paths : Path → Prop) : Prop where
  plain : ∀ path, paths path → Plain path
  rooted : ∀ path other, paths path → paths other → (path.head? = some slash ↔ other.head? = some slash)
  beside : ∀ path other, paths path → paths other → names slash path <+: names slash other →
    names slash path = names slash other

variable {paths : Path → Prop} {other : Path}

theorem Apart.not_folder (apart : Apart paths) (here : paths path) (there : paths other) {front : List Path}
    (within : front <+: (names slash other).dropLast) {dirs : Directories} :
    dirs.place path (names slash path) ≠ dirs.place other front := by
  intro same
  have start : dirs.start path = dirs.start other := by
    simp only [Directories.start, apart.rooted path other here there]
  have equal := place_injective start same
  have whole := apart.beside path other here there (equal ▸ within.trans (List.dropLast_prefix _))
  have plain := apart.plain other there
  exact ne_of_dropLast (names_ne_nil plain.nonempty plain.unended) within (whole ▸ equal)

theorem Apart.keeps_free (apart : Apart paths) (free : ∀ path, paths path → disk.Free path) (here : paths path)
    (there : paths other) : ((createSubfolders diskHost path disk).2.opened path).Free other := by
  have plain := apart.plain path here
  have made := (plain.mirrors (free path here)).made
  constructor
  case file =>
    rw [opened_dirs, made.place, Bool.eq_false_iff]
    intro known
    rcases made.known _ known with before | ⟨front, within, same⟩
    · exact Bool.eq_false_iff.mp (free other there).file before
    · exact apart.not_folder there here within same
  case folders =>
    intro front within
    rw [opened_dirs, Bool.eq_false_iff]
    intro file
    rcases opened_regular file with before | found
    · exact Bool.eq_false_iff.mp (made.foldersFree (free other there).folders front within) before
    · have target := Directories.target_plain
        (fun name member => plain.named name (List.mem_of_mem_dropLast member)) found
      exact apart.not_folder here there within target.symm

end Disk

end XTransmit.FileTransfer
