import XTransmit.FileTransfer.Folders
import XTransmit.Shared.PathNames

set_option autoImplicit false

namespace XTransmit.FileTransfer

open StdString PathNames

abbrev Location := List Path

structure Directories where
  known : Location → Bool
  current : Location
  root : known [] = true
  closed : ∀ name place, known (name :: place) = true → known place = true
  here : known current = true

namespace Directories

variable (dirs : Directories)

def enter (place : Location) (name : Path) : Option Location :=
  if name = [dot] then some place
  else if name = [dot, dot] then some place.tail
  else if dirs.known (name :: place) then some (name :: place)
  else none

def walk : Location → List Path → Option Location
  | place, [] => some place
  | place, name :: rest => (dirs.enter place name).bind fun next => walk next rest

def start (path : Path) : Location := if path.head? = some slash then [] else dirs.current

def Exists (path : Path) : Prop := (dirs.walk (dirs.start path) (names slash path)).isSome = true

def ParentExists (path : Path) : Prop := (dirs.walk (dirs.start path) (names slash path).dropLast).isSome = true

instance (path : Path) : Decidable (dirs.Exists path) := inferInstanceAs (Decidable (_ = true))

instance (path : Path) : Decidable (dirs.ParentExists path) := inferInstanceAs (Decidable (_ = true))

variable {dirs}

theorem enter_known {place next : Location} {name : Path} (inside : dirs.known place = true)
    (entered : dirs.enter place name = some next) : dirs.known next = true := by
  unfold enter at entered
  split_ifs at entered with stay up new
  · exact Option.some.inj entered ▸ inside
  · cases place with
    | nil => exact Option.some.inj entered ▸ dirs.root
    | cons name place => exact Option.some.inj entered ▸ dirs.closed name place inside
  · exact Option.some.inj entered ▸ new

theorem walk_known {place last : Location} {path : List Path} (inside : dirs.known place = true)
    (walked : dirs.walk place path = some last) : dirs.known last = true := by
  induction path generalizing place with
  | nil => exact Option.some.inj walked ▸ inside
  | cons name rest ih =>
      obtain ⟨next, entered, later⟩ := Option.bind_eq_some_iff.mp walked
      exact ih (enter_known inside entered) later

theorem start_known (path : Path) : dirs.known (dirs.start path) = true := by
  unfold start
  split
  next => exact dirs.root
  next => exact dirs.here

variable (dirs)

def add (name : Path) (place : Location) (inside : dirs.known place = true) : Directories where
  known location := location = name :: place || dirs.known location
  current := dirs.current
  root := by simp [dirs.root]
  closed := by
    intro inner outer known
    rcases Bool.or_eq_true_iff.mp known with same | known
    · cases of_decide_eq_true same
      simp [inside]
    · simp [dirs.closed inner outer known]
  here := by simp [dirs.here]

def createDirectory (path : Path) : CreateResult × Directories :=
  match walked : dirs.walk (dirs.start path) (names slash path).dropLast with
  | none => (.failed, dirs)
  | some place =>
      match (names slash path).getLast? with
      | none => (.existing, dirs)
      | some name =>
          if (dirs.enter place name).isSome then (.existing, dirs)
          else (.created, dirs.add name place (walk_known (start_known path) walked))

variable {dirs}

structure Grows (dirs after : Directories) : Prop where
  known : ∀ location, dirs.known location = true → after.known location = true
  current : after.current = dirs.current

theorem add_grows (name : Path) (place : Location) (inside : dirs.known place = true) :
    Grows dirs (dirs.add name place inside) where
  known location known := by simp [add, known]
  current := rfl

theorem Grows.start {after : Directories} (grows : Grows dirs after) (path : Path) :
    after.start path = dirs.start path := by
  simp only [Directories.start, grows.current]

theorem Grows.enter {after : Directories} (grows : Grows dirs after) {place next : Location} {name : Path}
    (entered : dirs.enter place name = some next) : after.enter place name = some next := by
  unfold Directories.enter at entered ⊢
  split_ifs at entered with stay up new
  · simpa [stay] using entered
  · simpa [stay, up] using entered
  · simpa [stay, up, grows.known _ new] using entered

theorem Grows.walk {after : Directories} (grows : Grows dirs after) {place last : Location} {path : List Path}
    (walked : dirs.walk place path = some last) : after.walk place path = some last := by
  induction path generalizing place with
  | nil => exact walked
  | cons name rest ih =>
      obtain ⟨next, entered, later⟩ := Option.bind_eq_some_iff.mp walked
      exact Option.bind_eq_some_iff.mpr ⟨next, grows.enter entered, ih later⟩

theorem walk_append (place : Location) (front back : List Path) :
    dirs.walk place (front ++ back) = (dirs.walk place front).bind fun next => dirs.walk next back := by
  induction front generalizing place with
  | nil => rfl
  | cons name rest ih =>
      rw [List.cons_append, walk, walk, Option.bind_assoc]
      exact congrArg _ (funext fun next => ih next)

theorem walk_isSome_of_prefix {place : Location} {front path : List Path} (within : front <+: path)
    (walked : (dirs.walk place path).isSome = true) : (dirs.walk place front).isSome = true := by
  obtain ⟨back, rfl⟩ := within
  rw [walk_append] at walked
  cases reached : dirs.walk place front with
  | none => simp [reached] at walked
  | some next => rfl

theorem enter_add (name : Path) (place : Location) (inside : dirs.known place = true) :
    ((dirs.add name place inside).enter place name).isSome = true := by
  unfold enter
  split_ifs with stay up absent
  · rfl
  · rfl
  · rfl
  · simp [add] at absent

theorem exists_of_enter {path : Path} {place : Location} {name : Path}
    (walked : dirs.walk (dirs.start path) (names slash path).dropLast = some place)
    (last : (names slash path).getLast? = some name) (entered : (dirs.enter place name).isSome = true) :
    dirs.Exists path := by
  have whole : (names slash path).dropLast ++ [name] = names slash path := List.dropLast_append_getLast? name last
  obtain ⟨next, entered⟩ := Option.isSome_iff_exists.mp entered
  rw [Exists, ← whole, walk_append, walked, Option.bind_some, walk, entered]
  rfl

-- `mkdir` needs the parent and nothing else.
theorem createDirectory_creates {path : Path} (parent : dirs.ParentExists path) :
    (dirs.createDirectory path).1 ≠ .failed ∧ (dirs.createDirectory path).2.Exists path := by
  obtain ⟨place, walked⟩ := Option.isSome_iff_exists.mp parent
  have inside := walk_known (start_known path) walked
  unfold createDirectory
  split
  next missing => cases missing.symm.trans walked
  next found reached =>
    cases walked.symm.trans reached
    split
    next empty =>
      have none := List.getLast?_eq_none_iff.mp empty
      exact ⟨by simp, by simp [Exists, none, walk]⟩
    next name last =>
      split
      next present => exact ⟨by simp, exists_of_enter walked last present⟩
      next absent =>
        have grows := add_grows name place inside
        refine ⟨by simp, exists_of_enter ?_ last (enter_add name place inside)⟩
        rw [grows.start]
        exact grows.walk walked

theorem createDirectory_fails {path : Path} (missing : ¬dirs.ParentExists path) :
    dirs.createDirectory path = (.failed, dirs) := by
  have none : dirs.walk (dirs.start path) (names slash path).dropLast = none := by
    simpa [ParentExists] using missing
  unfold createDirectory
  split
  next => rfl
  next place walked => cases none.symm.trans walked

end Directories

-- There are no regular files for a directory to be made over.
def directoryHost : Host Directories where
  createDirectory path dirs := dirs.createDirectory path
  openable path dirs := dirs.ParentExists path ∧ ¬dirs.Exists path

section Loop

variable {dirs : Directories} {path : Path}

theorem createFolder_creates (parent : dirs.ParentExists path) :
    (createFolder directoryHost path dirs).1 = true ∧ (createFolder directoryHost path dirs).2.Exists path := by
  obtain ⟨made, present⟩ := Directories.createDirectory_creates parent
  unfold createFolder directoryHost
  dsimp only
  split <;> simp_all

theorem createFolder_fails (missing : ¬dirs.ParentExists path) :
    (createFolder directoryHost path dirs).1 = false := by
  simp [createFolder, directoryHost, Directories.createDirectory_fails missing]

theorem parentExists_of_exists {byte : UInt8} {tail : List UInt8} (nonempty : path ≠ []) (plain : slash ∉ tail)
    (present : dirs.Exists path) : dirs.ParentExists (path ++ byte :: tail) := by
  have within : (names slash (path ++ byte :: tail)).dropLast <+: names slash path := by
    by_cases separated : byte = slash
    · rw [separated, names_append_sep, names_plain plain]
      split_ifs
      · simpa using List.dropLast_prefix _
      · simp
    · exact dropLast_names_append path (by simp [plain, Ne.symm separated])
  have same : dirs.start (path ++ byte :: tail) = dirs.start path := by
    simp [Directories.start, List.head?_append_of_ne_nil _ nonempty]
  rw [Directories.ParentExists, same]
  exact Directories.walk_isSome_of_prefix within present

theorem start_take {length : Nat} (positive : 0 < length) : dirs.start (path.take length) = dirs.start path := by
  simp [Directories.start, List.head?_take, Nat.ne_of_gt positive]

theorem exists_separator {index last : Nat} (positive : 0 < last) (within : index ≤ last)
    (separator : path[index]? = some slash) (present : dirs.Exists (path.take last)) :
    dirs.Exists (path.take (index + 1)) := by
  obtain ⟨inside, cut⟩ := List.getElem?_eq_some_iff.mp separator
  have above : names slash (path.take (index + 1)) <+: names slash (path.take last) := by
    rw [List.take_succ_eq_append_getElem inside, cut, names_trailing]
    rcases Nat.eq_or_lt_of_le within with rfl | before
    · exact List.prefix_rfl
    · obtain ⟨gap, rfl⟩ := Nat.exists_eq_add_of_lt before
      rw [Nat.add_assoc, List.take_add, List.drop_eq_getElem_cons inside, cut, List.take_succ_cons, names_append_sep]
      exact List.prefix_append _ _
  rw [Directories.Exists, start_take index.succ_pos]
  rw [Directories.Exists, start_take positive] at present
  exact Directories.walk_isSome_of_prefix above present

theorem take_next {pos next : Nat} (later : pos < next) (inside : next ≤ path.length)
    (between : ∀ index byte, pos + 1 ≤ index → index < next → path[index]? = some byte → byte ∉ [backslash, slash]) :
    ∃ byte tail, path.take next = path.take pos ++ byte :: tail ∧ slash ∉ tail := by
  obtain ⟨gap, rfl⟩ := Nat.exists_eq_add_of_lt later
  have read : pos < path.length := by omega
  refine ⟨path[pos], (path.drop (pos + 1)).take gap, ?_, fun member => ?_⟩
  · rw [Nat.add_assoc, List.take_add, List.drop_eq_getElem_cons read, List.take_succ_cons]
  · obtain ⟨offset, found⟩ := List.mem_iff_getElem?.mp member
    rw [List.getElem?_take] at found
    split_ifs at found with below
    rw [List.getElem?_drop] at found
    exact between (pos + 1 + offset) slash (by omega) (by omega) found (by simp)

theorem next_delimiter {lastDelim pos : Nat} (last : findLastOf [slash, backslash] path = some lastDelim)
    (before : pos < lastDelim) :
    ∃ next, findFirstOf [backslash, slash] path (pos + 1) = some next ∧ pos < next ∧ next ≤ lastDelim ∧
      ∃ byte tail, path.take next = path.take pos ++ byte :: tail ∧ slash ∉ tail := by
  obtain ⟨⟨char, delimiter, read⟩, -⟩ := findLastOf_hit last
  have delimiter : char ∈ [backslash, slash] := by simpa [or_comm] using delimiter
  cases search : findFirstOf [backslash, slash] path (pos + 1) with
  | none => exact absurd delimiter (findFirstOf_miss search before read)
  | some next =>
      obtain ⟨low, inside⟩ := findFirstOf_bounds search
      have between := (findFirstOf_hit search).2
      have notBeyond : next ≤ lastDelim :=
        Nat.le_of_not_lt fun beyond => between lastDelim char before beyond read delimiter
      exact ⟨next, rfl, low, notBeyond, take_next low (Nat.le_of_lt inside) between⟩

theorem next_parentExists {lastDelim pos : Nat} (last : findLastOf [slash, backslash] path = some lastDelim)
    (positive : 0 < pos) (before : pos < lastDelim) (present : dirs.Exists (path.take pos)) :
    ∃ next, findFirstOf [backslash, slash] path (pos + 1) = some next ∧ pos < next ∧ next ≤ lastDelim ∧
      dirs.ParentExists (path.take next) := by
  obtain ⟨next, found, later, notBeyond, byte, tail, cut, plain⟩ := next_delimiter last before
  have nonempty : path.take pos ≠ [] := by
    obtain ⟨⟨char, -, read⟩, -⟩ := findLastOf_hit last
    obtain ⟨inside, -⟩ := List.getElem?_eq_some_iff.mp read
    rw [← List.length_pos_iff, List.length_take]
    omega
  exact ⟨next, found, later, notBeyond, cut ▸ parentExists_of_exists nonempty plain present⟩

theorem createFoldersFrom_creates {lastDelim pos : Nat} (last : findLastOf [slash, backslash] path = some lastDelim)
    (positive : 0 < pos) (within : pos ≤ lastDelim) (present : dirs.Exists (path.take pos)) :
    (createFoldersFrom directoryHost path lastDelim pos dirs).1 = true ∧
      (createFoldersFrom directoryHost path lastDelim pos dirs).2.Exists (path.take lastDelim) := by
  fun_induction createFoldersFrom directoryHost path lastDelim pos dirs with
  | case1 dirs => exact ⟨rfl, present⟩
  | case2 pos dirs unfinished none =>
      obtain ⟨next, found, -⟩ := next_parentExists last positive (Nat.lt_of_le_of_ne within unfinished) present
      cases none.symm.trans found
  | case3 pos dirs unfinished next found made created ih =>
      obtain ⟨_, same, later, notBeyond, parent⟩ :=
        next_parentExists last positive (Nat.lt_of_le_of_ne within unfinished) present
      cases found.symm.trans same
      exact ih (by omega) notBeyond (createFolder_creates parent).2
  | case4 pos dirs unfinished next found made failed =>
      obtain ⟨_, same, later, notBeyond, parent⟩ :=
        next_parentExists last positive (Nat.lt_of_le_of_ne within unfinished) present
      cases found.symm.trans same
      exact absurd (createFolder_creates parent).1 failed

end Loop

def CreatesParents (path : Path) (dirs : Directories) : Prop :=
  (createSubfolders directoryHost path dirs).1 = true ∧
    ∀ index, path[index]? = some slash → (createSubfolders directoryHost path dirs).2.Exists (path.take (index + 1))

def startPos (path : Path) : Nat := ((find [dot, slash] path).or (find [dot, backslash] path)).elim 0 (· + 2)

def firstFolder (path : Path) : Option Path :=
  match findLastOf [slash, backslash] path with
  | none => none
  | some lastDelim =>
      if lastDelim ≤ startPos path then none
      else (findFirstOf [backslash, slash] path (startPos path + 1)).map path.take

section Whole

variable {dirs : Directories} {path : Path}

theorem createSubfolders_last {Folders : Type} {host : Host Folders} {folders : Folders} {lastDelim : Nat}
    (last : findLastOf [slash, backslash] path = some lastDelim) :
    createSubfolders host path folders =
      if lastDelim < startPos path then (true, folders)
      else createFoldersFrom host path lastDelim (startPos path) folders := by
  unfold createSubfolders
  simp only [last]
  rfl

theorem createSubfolders_none (nothing : firstFolder path = none) :
    createSubfolders directoryHost path dirs = (true, dirs) := by
  unfold firstFolder at nothing
  split at nothing
  next missing => simp only [createSubfolders, missing]
  next lastDelim last =>
    split_ifs at nothing with early
    · rw [createSubfolders_last last]
      split_ifs with before
      · rfl
      · have here : startPos path = lastDelim := by omega
        rw [createFoldersFrom, if_pos here]
    · obtain ⟨next, found, -⟩ := next_delimiter last (Nat.lt_of_not_le early)
      simp [found] at nothing

theorem createSubfolders_some {folder : Path} (asked : firstFolder path = some folder) :
    ∃ lastDelim next, findLastOf [slash, backslash] path = some lastDelim ∧ folder = path.take next ∧
      0 < next ∧ next ≤ lastDelim ∧ createSubfolders directoryHost path dirs =
        if (createFolder directoryHost folder dirs).1 then
          createFoldersFrom directoryHost path lastDelim next (createFolder directoryHost folder dirs).2
        else createFolder directoryHost folder dirs := by
  unfold firstFolder at asked
  split at asked
  next => cases asked
  next lastDelim last =>
    split_ifs at asked with early
    obtain ⟨next, found, later, notBeyond, -⟩ := next_delimiter last (Nat.lt_of_not_le early)
    rw [found] at asked
    cases asked
    refine ⟨lastDelim, next, last, rfl, by omega, notBeyond, ?_⟩
    rw [createSubfolders_last last, if_neg (by omega), createFoldersFrom, if_neg (by omega)]
    split
    next missing => cases missing.symm.trans found
    next other again =>
      cases again.symm.trans found
      rfl

theorem createsParents_of_first {folder : Path} (asked : firstFolder path = some folder)
    (parent : dirs.ParentExists folder) : CreatesParents path dirs := by
  obtain ⟨lastDelim, next, last, rfl, positive, notBeyond, made⟩ := @createSubfolders_some dirs path _ asked
  obtain ⟨created, present⟩ := createFolder_creates parent
  rw [if_pos created] at made
  obtain ⟨returned, reached⟩ := createFoldersFrom_creates last positive notBeyond present
  rw [CreatesParents, made]
  refine ⟨returned, fun index separator => exists_separator (by omega) ?_ separator reached⟩
  exact Nat.le_of_not_lt fun beyond => (findLastOf_hit last).2 index slash beyond separator (by simp)

theorem not_createsParents_of_first {folder : Path} (asked : firstFolder path = some folder)
    (missing : ¬dirs.ParentExists folder) : ¬CreatesParents path dirs := by
  obtain ⟨lastDelim, next, -, -, -, -, made⟩ := @createSubfolders_some dirs path _ asked
  have failed := createFolder_fails missing
  rw [if_neg (by simp [failed])] at made
  intro creates
  rw [CreatesParents, made, failed] at creates
  cases creates.1

theorem parentExists_first_name {byte : UInt8} {tail : List UInt8} (plain : slash ∉ tail) :
    dirs.ParentExists (byte :: tail) := by
  have alone : (names slash (byte :: tail)).dropLast = [] := by
    by_cases separated : byte = slash
    · have split : names slash ([] ++ slash :: tail) = _ := names_append_sep [] tail
      rw [names_nil, names_plain plain, List.nil_append, List.nil_append] at split
      rw [separated, split]
      split_ifs <;> rfl
    · simpa using dropLast_names_append [] (show slash ∉ byte :: tail by simp [plain, Ne.symm separated])
  rw [Directories.ParentExists, alone]
  rfl

theorem parentExists_firstFolder (fromStart : startPos path = 0) {folder : Path} (asked : firstFolder path = some folder) :
    dirs.ParentExists folder := by
  unfold firstFolder at asked
  split at asked
  next => cases asked
  next lastDelim last =>
    rw [fromStart] at asked
    split_ifs at asked with early
    obtain ⟨next, found, -, -, byte, tail, cut, plain⟩ := next_delimiter last (Nat.lt_of_not_le early)
    rw [found, Option.map_some, Option.some.injEq, cut] at asked
    exact asked ▸ parentExists_first_name plain

theorem separator_at_start (fromStart : startPos path = 0) (nothing : firstFolder path = none) {index : Nat}
    (separator : path[index]? = some slash) : index = 0 := by
  unfold firstFolder at nothing
  split at nothing
  next missing => exact absurd (by simp) (findLastOf_miss missing (List.mem_of_getElem? separator))
  next lastDelim last =>
    rw [fromStart] at nothing
    split_ifs at nothing with early
    · by_contra positive
      exact (findLastOf_hit last).2 index slash (by omega) separator (by simp)
    · obtain ⟨next, found, -⟩ := next_delimiter last (Nat.lt_of_not_le early)
      simp [found] at nothing

theorem exists_root (separator : path[0]? = some slash) : dirs.Exists (path.take 1) := by
  have root : names slash [slash] = [] := names_trailing []
  cases path with
  | nil => cases separator
  | cons byte rest =>
      cases separator
      simp [Directories.Exists, root, Directories.walk]

theorem createsParents_of_no_dot (noSlash : find [dot, slash] path = none)
    (noBackslash : find [dot, backslash] path = none) : CreatesParents path dirs := by
  have fromStart : startPos path = 0 := by simp [startPos, noSlash, noBackslash]
  cases asked : firstFolder path with
  | some folder => exact createsParents_of_first asked (parentExists_firstFolder fromStart asked)
  | none =>
      rw [CreatesParents, createSubfolders_none asked]
      refine ⟨rfl, fun index separator => ?_⟩
      cases separator_at_start fromStart asked separator
      exact exists_root separator

end Whole

theorem create_subfolders_creates_parents_iff (path : Path) (dirs : Directories) :
    CreatesParents path dirs ↔
      match firstFolder path with
      | some folder => dirs.ParentExists folder
      | none => ∀ index, path[index]? = some slash → dirs.Exists (path.take (index + 1)) := by
  split
  next folder asked =>
    exact ⟨fun creates => by_contra fun missing => not_createsParents_of_first asked missing creates,
      createsParents_of_first asked⟩
  next nothing => simp [CreatesParents, createSubfolders_none nothing]

def bareRoot : Directories where
  known location := location = []
  current := []
  root := rfl
  closed := by simp
  here := rfl

-- "x./f": the folder is taken for the end of a leading "./" and never created, and the result is true.
theorem folder_ending_with_dot_is_missed :
    createSubfolders directoryHost [120, 46, 47, 102] bareRoot = (true, bareRoot) ∧
      ¬CreatesParents [120, 46, 47, 102] bareRoot := by
  have nothing : createSubfolders directoryHost [120, 46, 47, 102] bareRoot = (true, bareRoot) :=
    createSubfolders_none (by decide)
  refine ⟨nothing, fun creates => ?_⟩
  have present := creates.2 2 rfl
  rw [nothing] at present
  revert present
  decide

end XTransmit.FileTransfer
