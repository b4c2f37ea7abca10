import XTransmit.FileTransfer.Subfolders
import Mathlib.Data.List.Sort

set_option autoImplicit false

namespace XTransmit.FileTransfer

open StdString

def isDelimiter (path : Path) (index : Nat) : Bool := path[index]?.any (· ∈ [backslash, slash])

def delimitersBetween (path : Path) (pos lastDelim : Nat) : List Nat :=
  (List.range (lastDelim + 1)).filter fun index => pos < index && isDelimiter path index

def subfolderDelimiters (path : Path) : List Nat :=
  match findLastOf [slash, backslash] path with
  | none => []
  | some lastDelim => delimitersBetween path (startPos path) lastDelim

-- What `find_first_of` gives to `pos` in the loop as long as every folder is created.
def scanFrom (path : Path) (lastDelim pos : Nat) : List (Option Nat) :=
  if pos = lastDelim then []
  else
    match _found : findFirstOf [backslash, slash] path (pos + 1) with
    | none => [none]
    | some next => some next :: scanFrom path lastDelim next
termination_by path.length - pos
decreasing_by
  have bounds := findFirstOf_bounds _found
  omega

def scan (path : Path) : List (Option Nat) :=
  match findLastOf [slash, backslash] path with
  | none => []
  | some lastDelim => if lastDelim < startPos path then [] else scanFrom path lastDelim (startPos path)

variable {Folders : Type} (host : Host Folders)

def createInOrder : List Path → Folders → Bool × Folders
  | [], folders => (true, folders)
  | path :: rest, folders =>
      let made := createFolder host path folders
      if made.1 then createInOrder rest made.2 else made

def cutAt (path : Path) (pos : Option Nat) : Path := pos.elim path path.take

theorem scanFrom_missing {path : Path} {lastDelim pos : Nat} (unfinished : pos ≠ lastDelim)
    (missing : findFirstOf [backslash, slash] path (pos + 1) = none) : scanFrom path lastDelim pos = [none] := by
  rw [scanFrom, if_neg unfinished]
  split
  next => rfl
  next next found => cases missing.symm.trans found

theorem scanFrom_next {path : Path} {lastDelim pos next : Nat} (unfinished : pos ≠ lastDelim)
    (found : findFirstOf [backslash, slash] path (pos + 1) = some next) :
    scanFrom path lastDelim pos = some next :: scanFrom path lastDelim next := by
  rw [scanFrom, if_neg unfinished]
  split
  next missing => cases missing.symm.trans found
  next other again =>
    cases again.symm.trans found
    rfl

theorem createFoldersFrom_eq_scan (path : Path) (lastDelim pos : Nat) (folders : Folders) :
    createFoldersFrom host path lastDelim pos folders =
      createInOrder host ((scanFrom path lastDelim pos).map (cutAt path)) folders := by
  fun_induction createFoldersFrom host path lastDelim pos folders with
  | case1 folders => simp [scanFrom, createInOrder]
  | case2 pos folders unfinished missing =>
      rw [scanFrom_missing unfinished missing]
      simp only [List.map_cons, List.map_nil, createInOrder, cutAt, Option.elim]
      split
      next created => exact Prod.ext created rfl
      next => rfl
  | case3 pos folders unfinished next found made created ih =>
      rw [scanFrom_next unfinished found, List.map_cons, createInOrder]
      exact ih.trans (if_pos created).symm
  | case4 pos folders unfinished next found made failed =>
      rw [scanFrom_next unfinished found, List.map_cons, createInOrder]
      exact (if_neg failed).symm

theorem createSubfolders_eq_scan (path : Path) (folders : Folders) :
    createSubfolders host path folders = createInOrder host ((scan path).map (cutAt path)) folders := by
  cases last : findLastOf [slash, backslash] path with
  | none => simp only [createSubfolders, scan, last, List.map_nil, createInOrder]
  | some lastDelim =>
      rw [createSubfolders_last last]
      simp only [scan, last]
      split
      next early => rfl
      next late => exact createFoldersFrom_eq_scan host path lastDelim (startPos path) folders

section Delimiters

variable {path : Path} {pos next lastDelim index : Nat}

theorem mem_delimitersBetween :
    index ∈ delimitersBetween path pos lastDelim ↔ pos < index ∧ index ≤ lastDelim ∧ isDelimiter path index := by
  simp only [delimitersBetween, List.mem_filter, List.mem_range, Bool.and_eq_true, decide_eq_true_eq, Nat.lt_succ_iff]
  exact and_left_comm

theorem delimitersBetween_pairwise (path : Path) (pos lastDelim : Nat) :
    (delimitersBetween path pos lastDelim).Pairwise (· < ·) :=
  List.pairwise_lt_range.filter _

theorem delimitersBetween_empty (beyond : lastDelim ≤ pos) : delimitersBetween path pos lastDelim = [] := by
  refine List.eq_nil_iff_forall_not_mem.mpr fun index member => ?_
  have bounds := mem_delimitersBetween.mp member
  omega

theorem delimitersBetween_next (found : findFirstOf [backslash, slash] path (pos + 1) = some next)
    (within : next ≤ lastDelim) :
    delimitersBetween path pos lastDelim = next :: delimitersBetween path next lastDelim := by
  obtain ⟨low, -⟩ := findFirstOf_bounds found
  obtain ⟨⟨char, delimiter, read⟩, between⟩ := findFirstOf_hit found
  have here : isDelimiter path next := by simpa [isDelimiter, read] using delimiter
  have ordered : (next :: delimitersBetween path next lastDelim).Pairwise (· < ·) :=
    List.pairwise_cons.mpr ⟨fun index member => (mem_delimitersBetween.mp member).1,
      delimitersBetween_pairwise path next lastDelim⟩
  refine (delimitersBetween_pairwise path pos lastDelim).eq_of_mem_iff ordered fun index => ?_
  rw [List.mem_cons, mem_delimitersBetween, mem_delimitersBetween]
  constructor
  · rintro ⟨later, below, stop⟩
    rcases Nat.lt_trichotomy index next with early | same | late
    · obtain ⟨byte, there, member⟩ := (Option.any_eq_true _ _).mp stop
      exact absurd (of_decide_eq_true member) (between index byte later early there)
    · exact .inl same
    · exact .inr ⟨late, below, stop⟩
  · rintro (rfl | ⟨late, below, stop⟩)
    · exact ⟨low, within, here⟩
    · exact ⟨by omega, below, stop⟩

theorem scanFrom_eq_delimiters (last : findLastOf [slash, backslash] path = some lastDelim) (within : pos ≤ lastDelim) :
    scanFrom path lastDelim pos = (delimitersBetween path pos lastDelim).map some := by
  fun_induction scanFrom path lastDelim pos with
  | case1 => simp [delimitersBetween_empty (Nat.le_refl _)]
  | case2 pos unfinished missing =>
      obtain ⟨next, found, -⟩ := next_delimiter last (Nat.lt_of_le_of_ne within unfinished)
      cases missing.symm.trans found
  | case3 pos unfinished next found ih =>
      obtain ⟨_, same, -, notBeyond, -⟩ := next_delimiter last (Nat.lt_of_le_of_ne within unfinished)
      cases found.symm.trans same
      rw [ih notBeyond, delimitersBetween_next found notBeyond, List.map_cons]

theorem scan_eq_delimiters (path : Path) : scan path = (subfolderDelimiters path).map some := by
  unfold scan subfolderDelimiters
  split
  next => rfl
  next lastDelim last =>
    split
    next early => simp [delimitersBetween_empty (Nat.le_of_lt early)]
    next late => exact scanFrom_eq_delimiters last (Nat.le_of_not_lt late)

theorem mem_subfolderDelimiters (last : findLastOf [slash, backslash] path = some lastDelim) :
    index ∈ subfolderDelimiters path ↔ startPos path < index ∧ index ≤ lastDelim ∧ isDelimiter path index := by
  simp only [subfolderDelimiters, last, mem_delimitersBetween]

end Delimiters

theorem create_subfolders_scans_parents_first (path : Path) :
    scan path = (subfolderDelimiters path).map some ∧ (subfolderDelimiters path).Pairwise (· < ·) ∧
      (∀ index, index ∈ subfolderDelimiters path ↔ startPos path < index ∧ isDelimiter path index ∧
        ∃ lastDelim, findLastOf [slash, backslash] path = some lastDelim ∧ index ≤ lastDelim) ∧
      ∀ {Folders : Type} (host : Host Folders) (folders : Folders), createSubfolders host path folders =
        createInOrder host ((subfolderDelimiters path).map path.take) folders := by
  refine ⟨scan_eq_delimiters path, ?_, ?_, ?_⟩
  · unfold subfolderDelimiters
    split
    next => exact .nil
    next lastDelim last => exact delimitersBetween_pairwise path _ lastDelim
  · intro index
    cases last : findLastOf [slash, backslash] path with
    | none => simp [subfolderDelimiters, last]
    | some lastDelim => simp [mem_subfolderDelimiters last, and_comm]
  · intro Folders host folders
    rw [createSubfolders_eq_scan, scan_eq_delimiters, List.map_map]
    rfl

end XTransmit.FileTransfer
