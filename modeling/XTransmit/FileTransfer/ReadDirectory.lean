import Mathlib.Data.List.Nodup
import XTransmit.FileTransfer.Folders
import XTransmit.Shared.PathNames

set_option autoImplicit false

namespace XTransmit.FileTransfer

open StdString PathNames

-- `operator/` puts no separator behind a path that is empty or ends in one.
def link (path : Path) : Path := if path = [] ∨ path.getLast? = some slash then [] else [slash]

def join (path name : Path) : Path := path ++ link path ++ name

structure FileSystem where
  isDirectory : Path → Bool
  entries : Path → List (Path × Bool)

def listEntries (p : Path) : List (Path × Bool) → List Path → List Path → List Path × List Path
  | [], subdirs, filenames => (subdirs, filenames)
  | (name, true) :: rest, subdirs, filenames => listEntries p rest (subdirs ++ [join p name]) filenames
  | (name, false) :: rest, subdirs, filenames => listEntries p rest subdirs (filenames ++ [join p name])

-- `none` when the fuel ends before the queue does.
def readSubdirs (fs : FileSystem) : Nat → List Path → List Path → Option (List Path)
  | _, [], filenames => some filenames
  | 0, _ :: _, _ => none
  | fuel + 1, p :: subdirs, filenames =>
      if !fs.isDirectory p then readSubdirs fs fuel subdirs (filenames ++ [p])
      else
        let lists := listEntries p (fs.entries p) subdirs filenames
        readSubdirs fs fuel lists.1 lists.2

def readDirectory (fs : FileSystem) (fuel : Nat) (path : Path) : Option (List Path) :=
  readSubdirs fs fuel [path] []

-- What `fs::path` compares: the root directory, then the names. A trailing separator is an empty last name.
def elements (path : Path) : Bool × List Path :=
  (path.head? = some slash,
    names slash path ++ if names slash path ≠ [] ∧ path.getLast? = some slash then [[]] else [])

def filename (path : Path) : Path := (path.splitOn slash).getLastD []

def mergeSlashes : Path → Path
  | first :: second :: rest =>
      if first = slash ∧ second = slash then mergeSlashes (second :: rest) else first :: mergeSlashes (second :: rest)
  | path => path

-- Some libraries write repeated separators once, others leave them.
def genericString (merges : Bool) (path : Path) : Path := if merges then mergeSlashes path else path

def findRelativePath (merges : Bool) (filepath dirpath : Path) : Option Path :=
  if elements dirpath = elements filepath then some (filename filepath)
  else if find dirpath filepath ≠ some 0 then none
  else some ((genericString merges filepath).drop (genericString merges dirpath).length)

def relativePath (merges : Bool) (filepath dirpath : Path) : Path :=
  (findRelativePath merges filepath dirpath).getD []

theorem readSubdirs_mono {fs : FileSystem} {fuel more : Nat} {subdirs filenames result : List Path}
    (enough : fuel ≤ more) (read : readSubdirs fs fuel subdirs filenames = some result) :
    readSubdirs fs more subdirs filenames = some result := by
  induction fuel generalizing more subdirs filenames with
  | zero =>
      cases subdirs with
      | nil => simpa [readSubdirs] using read
      | cons => cases read
  | succ fuel ih =>
      obtain ⟨more, rfl⟩ := Nat.exists_eq_add_of_le' (Nat.le_trans (Nat.le_add_left 1 fuel) enough)
      cases subdirs with
      | nil => simpa [readSubdirs] using read
      | cons p subdirs =>
          simp only [readSubdirs] at read ⊢
          split at read
          next plain => rw [if_pos plain, ih (Nat.le_of_succ_le_succ enough) read]
          next directory => rw [if_neg directory, ih (Nat.le_of_succ_le_succ enough) read]

theorem readDirectory_unique {fs : FileSystem} {fuel more : Nat} {path : Path} {left right : List Path}
    (read : readDirectory fs fuel path = some left) (again : readDirectory fs more path = some right) : left = right :=
  Option.some.inj ((readSubdirs_mono (Nat.le_max_left fuel more) read).symm.trans
    (readSubdirs_mono (Nat.le_max_right fuel more) again))

section Trees

structure ValidName (name : Path) : Prop where
  nonempty : name ≠ []
  plain : slash ∉ name
  notHere : name ≠ [dot]
  notParent : name ≠ [dot, dot]

inductive Forest where
  | nil
  | file (name : Path) (rest : Forest)
  | dir (name : Path) (sub rest : Forest)

namespace Forest

def entries : Forest → List (Path × Bool)
  | nil => []
  | file name rest => (name, false) :: rest.entries
  | dir name _ rest => (name, true) :: rest.entries

def WellFormed : Forest → Prop
  | nil => True
  | file name rest => ValidName name ∧ name ∉ rest.entries.map (·.1) ∧ rest.WellFormed
  | dir name sub rest => ValidName name ∧ name ∉ rest.entries.map (·.1) ∧ sub.WellFormed ∧ rest.WellFormed

def relatives : Forest → List Path
  | nil => []
  | file name rest => name :: rest.relatives
  | dir name sub rest => sub.relatives.map (fun relative => name ++ slash :: relative) ++ rest.relatives

def plainFiles (path : Path) : Forest → List Path
  | nil => []
  | file name rest => join path name :: rest.plainFiles path
  | dir _ _ rest => rest.plainFiles path

def subdirs (path : Path) : Forest → List (Path × Forest)
  | nil => []
  | file _ rest => rest.subdirs path
  | dir name sub rest => (join path name, sub) :: rest.subdirs path

def dirs : Forest → Nat
  | nil => 0
  | file _ rest => rest.dirs
  | dir _ sub rest => sub.dirs + 1 + rest.dirs

end Forest

def FileSystem.Below (fs : FileSystem) : Path → Forest → Prop
  | _, .nil => True
  | path, .file _ rest => fs.Below path rest
  | path, .dir name sub rest =>
      (fs.isDirectory (join path name) = true ∧ fs.entries (join path name) = sub.entries ∧
        fs.Below (join path name) sub) ∧ fs.Below path rest

structure FileSystem.Holds (fs : FileSystem) (path : Path) (tree : Forest) : Prop where
  wellFormed : tree.WellFormed
  isDirectory : fs.isDirectory path = true
  entries : fs.entries path = tree.entries
  below : fs.Below path tree

variable {fs : FileSystem} {path : Path}

theorem listEntries_eq (path : Path) (tree : Forest) (subdirs filenames : List Path) :
    listEntries path tree.entries subdirs filenames =
      (subdirs ++ (tree.subdirs path).map (·.1), filenames ++ tree.plainFiles path) := by
  induction tree generalizing subdirs filenames with
  | nil => simp [Forest.entries, listEntries, Forest.subdirs, Forest.plainFiles]
  | file name rest ih => simp [Forest.entries, listEntries, Forest.subdirs, Forest.plainFiles, ih]
  | dir name sub rest _ ih => simp [Forest.entries, listEntries, Forest.subdirs, Forest.plainFiles, ih]

theorem FileSystem.Below.subdirs {tree : Forest} (wellFormed : tree.WellFormed) (below : fs.Below path tree) :
    ∀ entry ∈ tree.subdirs path, fs.Holds entry.1 entry.2 := by
  induction tree with
  | nil => simp [Forest.subdirs]
  | file name rest ih => exact ih wellFormed.2.2 below
  | dir name sub rest _ ih =>
      obtain ⟨-, -, inside, outside⟩ := wellFormed
      obtain ⟨⟨isDirectory, entries, inner⟩, others⟩ := below
      intro entry member
      rcases List.mem_cons.mp member with rfl | later
      · exact ⟨inside, isDirectory, entries, inner⟩
      · exact ih outside others entry later

theorem link_append (path : Path) {name : Path} (valid : ValidName name) : link (path ++ name) = [slash] := by
  have last : name.getLast? ≠ some slash := fun ends => valid.plain (List.mem_of_getLast? ends)
  simp [link, valid.nonempty, last]

theorem join_join (path relative : Path) {name : Path} (valid : ValidName name) :
    join (join path name) relative = join path (name ++ slash :: relative) := by
  rw [join, join, link_append (path ++ link path) valid]
  simp [join]

theorem files_perm (path : Path) {tree : Forest} (wellFormed : tree.WellFormed) :
    (tree.plainFiles path ++ (tree.subdirs path).flatMap fun entry => entry.2.relatives.map (join entry.1)).Perm
      (tree.relatives.map (join path)) := by
  induction tree with
  | nil => exact List.Perm.refl _
  | file name rest ih => exact (ih wellFormed.2.2).cons (join path name)
  | dir name sub rest _ ih =>
      obtain ⟨valid, -, -, outside⟩ := wellFormed
      have inner : (sub.relatives.map fun relative => name ++ slash :: relative).map (join path) =
          sub.relatives.map (join (join path name)) := by
        simp [join_join path _ valid]
      simp only [Forest.plainFiles, Forest.subdirs, Forest.relatives, List.flatMap_cons, List.map_append, inner]
      calc rest.plainFiles path ++ (sub.relatives.map (join (join path name)) ++ _)
          |>.Perm (sub.relatives.map (join (join path name)) ++ (rest.plainFiles path ++ _)) := by
            rw [← List.append_assoc, ← List.append_assoc]
            exact List.perm_append_comm.append_right _
        _ |>.Perm _ := (ih outside).append_left _

def remaining : List (Path × Forest) → Nat
  | [] => 0
  | (_, tree) :: rest => tree.dirs + 1 + remaining rest

theorem remaining_append (front back : List (Path × Forest)) :
    remaining (front ++ back) = remaining front + remaining back := by
  induction front with
  | nil => simp [remaining]
  | cons entry rest ih => simp [remaining, ih, Nat.add_assoc]

theorem remaining_subdirs (path : Path) (tree : Forest) : remaining (tree.subdirs path) = tree.dirs := by
  induction tree with
  | nil => rfl
  | file name rest ih => exact ih
  | dir name sub rest _ ih => simp [Forest.subdirs, Forest.dirs, remaining, ih]

theorem readSubdirs_perm (fuel : Nat) (pending : List (Path × Forest)) (filenames : List Path)
    (holds : ∀ entry ∈ pending, fs.Holds entry.1 entry.2)
    (enough : remaining pending ≤ fuel) :
    ∃ result, readSubdirs fs fuel (pending.map (·.1)) filenames = some result ∧
      result.Perm (filenames ++ pending.flatMap fun entry => entry.2.relatives.map (join entry.1)) := by
  induction fuel generalizing pending filenames with
  | zero =>
      cases pending with
      | nil => exact ⟨filenames, rfl, by simp⟩
      | cons entry rest => simp [remaining] at enough
  | succ fuel ih =>
      cases pending with
      | nil => exact ⟨filenames, rfl, by simp⟩
      | cons entry rest =>
          obtain ⟨path, tree⟩ := entry
          obtain ⟨first, later⟩ := List.forall_mem_cons.mp holds
          obtain ⟨result, read, perm⟩ := ih (rest ++ tree.subdirs path) (filenames ++ tree.plainFiles path)
            (List.forall_mem_append.mpr ⟨later, first.below.subdirs first.wellFormed⟩)
            (by rw [remaining_append, remaining_subdirs]; simp only [remaining] at enough; omega)
          refine ⟨result, ?_, perm.trans ?_⟩
          · simpa [readSubdirs, first.isDirectory, first.entries, listEntries_eq] using read
          · simp only [List.flatMap_append, List.flatMap_cons, List.append_assoc]
            refine List.Perm.append_left filenames ?_
            exact ((List.perm_append_comm.append_left _).trans (by rw [← List.append_assoc])).trans
              ((files_perm path first.wellFormed).append_right _)

end Trees

section Relative

inductive IsRelative : Path → Prop
  | name {name : Path} (valid : ValidName name) : IsRelative name
  | under {name relative : Path} (valid : ValidName name) (inner : IsRelative relative) :
      IsRelative (name ++ slash :: relative)

theorem relatives_isRelative {tree : Forest} (wellFormed : tree.WellFormed) :
    ∀ relative ∈ tree.relatives, IsRelative relative := by
  induction tree with
  | nil => simp [Forest.relatives]
  | file name rest ih =>
      obtain ⟨valid, -, others⟩ := wellFormed
      exact List.forall_mem_cons.mpr ⟨.name valid, ih others⟩
  | dir name sub rest inside ih =>
      obtain ⟨valid, -, inner, others⟩ := wellFormed
      refine List.forall_mem_append.mpr ⟨fun relative member => ?_, ih others⟩
      obtain ⟨below, found, rfl⟩ := List.mem_map.mp member
      exact .under valid (inside inner below found)

variable {relative : Path}

theorem IsRelative.split (isRelative : IsRelative relative) :
    ∃ name after, ValidName name ∧ relative.splitOn slash = name :: after := by
  cases isRelative with
  | name valid => exact ⟨relative, [], valid, List.splitOn_eq_singleton valid.plain⟩
  | under valid inner => exact ⟨_, _, valid, List.splitOn_append_cons_self_of_not_mem valid.plain _⟩

theorem IsRelative.first (isRelative : IsRelative relative) : ∃ byte rest, relative = byte :: rest ∧ byte ≠ slash := by
  have begins : ∀ {name : Path}, ValidName name → ∃ byte rest, name = byte :: rest ∧ byte ≠ slash := by
    intro name valid
    obtain ⟨byte, rest, rfl⟩ := List.exists_cons_of_ne_nil valid.nonempty
    exact ⟨byte, rest, rfl, fun same => valid.plain (by simp [same])⟩
  cases isRelative with
  | name valid => exact begins valid
  | under valid inner =>
      obtain ⟨byte, rest, rfl, differs⟩ := begins valid
      exact ⟨byte, _, rfl, differs⟩

theorem IsRelative.last (isRelative : IsRelative relative) : relative.getLast? ≠ some slash := by
  induction isRelative with
  | name valid => exact fun ends => valid.plain (List.mem_of_getLast? ends)
  | under valid inner ih =>
      obtain ⟨byte, rest, rfl, -⟩ := inner.first
      simpa using ih

theorem mergeSlashes_cons {byte : UInt8} {path : Path} (apart : byte = slash → path.head? ≠ some slash) :
    mergeSlashes (byte :: path) = byte :: mergeSlashes path := by
  cases path with
  | nil => rfl
  | cons second rest =>
      rw [mergeSlashes, if_neg]
      rintro ⟨rfl, rfl⟩
      exact apart rfl rfl

theorem mergeSlashes_append (path : Path) {tail : Path} (single : mergeSlashes tail = tail)
    (apart : path.getLast? = some slash → tail.head? ≠ some slash) :
    mergeSlashes (path ++ tail) = mergeSlashes path ++ tail := by
  fun_induction mergeSlashes path with
  | case1 first second rest both ih =>
      rw [List.cons_append, List.cons_append, mergeSlashes, if_pos both]
      exact ih (by simpa using apart)
  | case2 first second rest differs ih =>
      rw [List.cons_append, List.cons_append, mergeSlashes, if_neg differs]
      exact congrArg (first :: ·) (ih (by simpa using apart))
  | case3 path short =>
      match path, short with
      | [], _ => exact single
      | [byte], _ =>
          rw [List.cons_append, List.nil_append, mergeSlashes_cons (by simpa using apart), single]
      | first :: second :: rest, short => exact absurd rfl (short first second rest)

theorem mergeSlashes_plain {name : Path} (plain : slash ∉ name) : mergeSlashes name = name := by
  induction name with
  | nil => rfl
  | cons byte rest ih =>
      rw [List.mem_cons, not_or] at plain
      rw [mergeSlashes_cons (fun same => absurd same.symm plain.1), ih plain.2]

theorem IsRelative.merge_link (isRelative : IsRelative relative) (single : mergeSlashes relative = relative) :
    mergeSlashes (slash :: relative) = slash :: relative := by
  obtain ⟨byte, rest, rfl, differs⟩ := isRelative.first
  rw [mergeSlashes_cons (by simpa using differs), single]

theorem IsRelative.merge (isRelative : IsRelative relative) : mergeSlashes relative = relative := by
  induction isRelative with
  | name valid => exact mergeSlashes_plain valid.plain
  | under valid inner ih =>
      rw [mergeSlashes_append _ (inner.merge_link ih), mergeSlashes_plain valid.plain]
      exact fun ends => absurd (List.mem_of_getLast? ends) valid.plain

theorem genericString_join (merges : Bool) (path : Path) (isRelative : IsRelative relative) :
    genericString merges (join path relative) = genericString merges path ++ (link path ++ relative) := by
  cases merges with
  | false => simp [genericString, join]
  | true =>
      have whole : mergeSlashes (link path ++ relative) = link path ++ relative := by
        unfold link
        split_ifs
        · exact isRelative.merge
        · exact isRelative.merge_link isRelative.merge
      simp only [genericString, if_true, join, List.append_assoc]
      refine mergeSlashes_append path whole fun ends => ?_
      obtain ⟨byte, rest, rfl, differs⟩ := isRelative.first
      simpa [link, ends] using differs

theorem find_append (path tail : Path) : find path (path ++ tail) = some 0 := by
  rw [find, List.range_succ_eq_map, List.find?_cons_of_pos]
  simp

theorem names_join (path relative : Path) : names slash (join path relative) = names slash path ++ names slash relative := by
  unfold join link
  split_ifs with unlinked
  · rcases unlinked with rfl | ends
    · simp
    · obtain ⟨front, rfl⟩ := List.getLast?_eq_some_iff.mp ends
      simpa using names_append_sep front relative
  · simpa using names_append_sep path relative

theorem IsRelative.names (isRelative : IsRelative relative) :
    ∃ name after, ValidName name ∧ names slash relative = name :: after := by
  obtain ⟨name, after, valid, split⟩ := isRelative.split
  exact ⟨name, after.filter (· ≠ []), valid, by simp [PathNames.names, split, valid.nonempty]⟩

theorem elements_join_ne (path : Path) (isRelative : IsRelative relative) :
    elements path ≠ elements (join path relative) := by
  intro same
  obtain ⟨name, after, valid, first⟩ := isRelative.names
  have last : (join path relative).getLast? ≠ some slash := by
    obtain ⟨byte, rest, rfl, -⟩ := isRelative.first
    simpa [join] using isRelative.last
  have tails := congrArg Prod.snd same
  simp only [elements, names_join, first, last, and_false, if_false, List.append_nil] at tails
  have behind := List.append_cancel_left tails
  split_ifs at behind
  exact valid.nonempty (List.cons.inj behind).1.symm

theorem findRelativePath_join (merges : Bool) (path : Path) (isRelative : IsRelative relative) :
    findRelativePath merges (join path relative) path = some (link path ++ relative) := by
  have found : find path (join path relative) = some 0 := by
    rw [join, List.append_assoc]
    exact find_append path _
  rw [findRelativePath, if_neg (elements_join_ne path isRelative), if_neg (not_not.mpr found),
    genericString_join merges path isRelative, List.drop_left]

theorem relatives_head {tree : Forest} (wellFormed : tree.WellFormed) :
    ∀ relative ∈ tree.relatives, ∃ name ∈ tree.entries.map (·.1), ∃ after, relative.splitOn slash = name :: after := by
  induction tree with
  | nil => simp [Forest.relatives]
  | file name rest ih =>
      obtain ⟨valid, -, others⟩ := wellFormed
      intro relative member
      rcases List.mem_cons.mp member with rfl | later
      · exact ⟨relative, by simp [Forest.entries], [], List.splitOn_eq_singleton valid.plain⟩
      · obtain ⟨head, listed, split⟩ := ih others relative later
        exact ⟨head, List.mem_cons_of_mem _ listed, split⟩
  | dir name sub rest _ ih =>
      obtain ⟨valid, -, -, others⟩ := wellFormed
      intro relative member
      rcases List.mem_append.mp member with below | later
      · obtain ⟨inner, -, rfl⟩ := List.mem_map.mp below
        exact ⟨name, by simp [Forest.entries], _, List.splitOn_append_cons_self_of_not_mem valid.plain inner⟩
      · obtain ⟨head, listed, split⟩ := ih others relative later
        exact ⟨head, List.mem_cons_of_mem _ listed, split⟩

theorem relatives_nodup {tree : Forest} (wellFormed : tree.WellFormed) : tree.relatives.Nodup := by
  induction tree with
  | nil => exact List.nodup_nil
  | file name rest ih =>
      obtain ⟨valid, fresh, others⟩ := wellFormed
      refine List.nodup_cons.mpr ⟨fun member => ?_, ih others⟩
      obtain ⟨head, listed, after, split⟩ := relatives_head others name member
      rw [List.splitOn_eq_singleton valid.plain] at split
      cases split
      exact fresh listed
  | dir name sub rest inside ih =>
      obtain ⟨valid, fresh, inner, others⟩ := wellFormed
      refine List.Nodup.append ((inside inner).map fun left right same => ?_) (ih others) fun relative below later => ?_
      · exact (List.cons.inj (List.append_cancel_left same)).2
      · obtain ⟨suffix, -, rfl⟩ := List.mem_map.mp below
        obtain ⟨head, listed, after, split⟩ := relatives_head others _ later
        rw [List.splitOn_append_cons_self_of_not_mem valid.plain] at split
        cases split
        exact fresh listed

theorem relatives_names {tree : Forest} (wellFormed : tree.WellFormed) {relative : Path}
    (member : relative ∈ tree.relatives) :
    ∃ name ∈ tree.entries.map (·.1), ∃ after, names slash relative = name :: after := by
  obtain ⟨name, listed, after, split⟩ := relatives_head wellFormed relative member
  obtain ⟨first, _, valid, again⟩ := (relatives_isRelative wellFormed relative member).split
  cases split.symm.trans again
  exact ⟨name, listed, after.filter (· ≠ []), by simp [names, again, valid.nonempty]⟩

theorem names_apart {tree : Forest} (wellFormed : tree.WellFormed) {name relative : Path}
    (fresh : name ∉ tree.entries.map (·.1)) (member : relative ∈ tree.relatives) (after : List Path) :
    ¬name :: after <+: names slash relative ∧ ¬names slash relative <+: name :: after := by
  obtain ⟨head, listed, behind, split⟩ := relatives_names wellFormed member
  rw [split, List.cons_prefix_cons, List.cons_prefix_cons]
  exact ⟨fun same => fresh (same.1 ▸ listed), fun same => fresh (same.1 ▸ listed)⟩

theorem relatives_beside {tree : Forest} (wellFormed : tree.WellFormed) {left right : Path}
    (here : left ∈ tree.relatives) (there : right ∈ tree.relatives) (below : names slash left <+: names slash right) :
    left = right := by
  induction tree generalizing left right with
  | nil => cases here
  | file name rest ih =>
      obtain ⟨valid, fresh, others⟩ := wellFormed
      have alone : names slash name = [name] := by simp [names_plain valid.plain, valid.nonempty]
      rcases List.mem_cons.mp here with first | later
      · rcases List.mem_cons.mp there with second | behind
        · rw [first, second]
        · exact absurd (alone ▸ first ▸ below) (names_apart others fresh behind []).1
      · rcases List.mem_cons.mp there with second | behind
        · exact absurd (alone ▸ second ▸ below) (names_apart others fresh later []).2
        · exact ih others later behind below
  | dir name sub rest inside ih =>
      obtain ⟨valid, fresh, inner, others⟩ := wellFormed
      have led (relative : Path) : names slash (name ++ slash :: relative) = name :: names slash relative := by
        simp [names_append_sep, names_plain valid.plain, valid.nonempty]
      rcases List.mem_append.mp here with first | later
      · obtain ⟨upper, member, rfl⟩ := List.mem_map.mp first
        rw [led] at below
        rcases List.mem_append.mp there with second | behind
        · obtain ⟨lower, listed, rfl⟩ := List.mem_map.mp second
          rw [led, List.cons_prefix_cons] at below
          rw [inside inner member listed below.2]
        · exact absurd below (names_apart others fresh behind _).1
      · rcases List.mem_append.mp there with second | behind
        · obtain ⟨lower, -, rfl⟩ := List.mem_map.mp second
          rw [led] at below
          exact absurd below (names_apart others fresh later _).2
        · exact ih others later behind below

theorem IsRelative.valid (isRelative : IsRelative relative) :
    ∀ name ∈ PathNames.names slash relative, ValidName name := by
  induction isRelative with
  | name valid => simpa [names_plain valid.plain, valid.nonempty] using valid
  | under valid inner ih => simpa [names_append_sep, names_plain valid.plain, valid.nonempty] using ⟨valid, ih⟩

end Relative

section Sources

inductive Source where
  | file
  | directory (tree : Forest)

def FileSystem.IsSource (fs : FileSystem) (path : Path) : Source → Prop
  | .file => fs.isDirectory path = false ∧ ValidName (filename path)
  | .directory tree => fs.Holds path tree

def Source.located (path : Path) : Source → List (Path × Path)
  | .file => [(path, filename path)]
  | .directory tree => tree.relatives.map fun relative => (join path relative, relative)

def Source.link (path : Path) : Source → Path
  | .file => []
  | .directory _ => FileTransfer.link path

variable {fs : FileSystem} {path : Path} {source : Source}

theorem readDirectory_perm (isSource : fs.IsSource path source) :
    ∃ fuel filenames, readDirectory fs fuel path = some filenames ∧
      filenames.Perm ((source.located path).map (·.1)) := by
  cases source with
  | file => exact ⟨1, [path], by simp [readDirectory, readSubdirs, isSource.1], List.Perm.refl _⟩
  | directory tree =>
      obtain ⟨filenames, read, perm⟩ := readSubdirs_perm (tree.dirs + 1) [(path, tree)] []
        (List.forall_mem_singleton.mpr isSource) (by simp [remaining])
      exact ⟨tree.dirs + 1, filenames, read, by simpa [Source.located, Function.comp_def] using perm⟩

theorem findRelativePath_located (merges : Bool) (isSource : fs.IsSource path source) {filepath relative : Path}
    (located : (filepath, relative) ∈ source.located path) :
    findRelativePath merges filepath path = some (source.link path ++ relative) := by
  cases source with
  | file =>
      cases List.mem_singleton.mp located
      simp [findRelativePath, Source.link]
  | directory tree =>
      obtain ⟨inner, member, same⟩ := List.mem_map.mp located
      cases same
      exact findRelativePath_join merges path (relatives_isRelative isSource.wellFormed relative member)

theorem located_nodup (isSource : fs.IsSource path source) : ((source.located path).map (·.2)).Nodup := by
  cases source with
  | file => simp [Source.located]
  | directory tree => simpa [Source.located, Function.comp_def] using relatives_nodup isSource.wellFormed

theorem located_beside (isSource : fs.IsSource path source) {filepath relative otherpath other : Path}
    (here : (filepath, relative) ∈ source.located path) (there : (otherpath, other) ∈ source.located path)
    (below : names slash relative <+: names slash other) : relative = other := by
  cases source with
  | file =>
      cases List.mem_singleton.mp here
      cases List.mem_singleton.mp there
      rfl
  | directory tree =>
      obtain ⟨upper, member, same⟩ := List.mem_map.mp here
      obtain ⟨lower, listed, again⟩ := List.mem_map.mp there
      cases same
      cases again
      exact relatives_beside isSource.wellFormed member listed below

theorem located_isRelative (isSource : fs.IsSource path source) {filepath relative : Path}
    (located : (filepath, relative) ∈ source.located path) : IsRelative relative := by
  cases source with
  | file =>
      cases List.mem_singleton.mp located
      exact .name isSource.2
  | directory tree =>
      obtain ⟨inner, member, same⟩ := List.mem_map.mp located
      cases same
      exact relatives_isRelative isSource.wellFormed relative member

theorem uploads_nodup (merges : Bool) (isSource : fs.IsSource path source) :
    (((source.located path).map (·.1)).map fun filepath => relativePath merges filepath path).Nodup := by
  have uploads : ((source.located path).map (·.1)).map (fun filepath => relativePath merges filepath path) =
      ((source.located path).map (·.2)).map (source.link path ++ ·) := by
    rw [List.map_map, List.map_map]
    refine List.map_congr_left fun entry member => ?_
    simp [relativePath, findRelativePath_located merges isSource member]
  rw [uploads]
  exact (located_nodup isSource).map fun left right same => List.append_cancel_left same

theorem read_directory_complete (merges : Bool) (isSource : fs.IsSource path source) :
    ∃ fuel filenames, readDirectory fs fuel path = some filenames ∧
      filenames.Perm ((source.located path).map (·.1)) ∧ filenames.Nodup ∧
      (∀ filepath ∈ filenames, ∃ upload, findRelativePath merges filepath path = some upload ∧ upload ≠ []) ∧
      (filenames.map fun filepath => relativePath merges filepath path).Nodup := by
  obtain ⟨fuel, filenames, read, perm⟩ := readDirectory_perm isSource
  have distinct := (perm.map fun filepath => relativePath merges filepath path).nodup_iff.mpr
    (uploads_nodup merges isSource)
  refine ⟨fuel, filenames, read, perm, List.Nodup.of_map _ distinct, fun filepath member => ?_, distinct⟩
  obtain ⟨⟨_, relative⟩, located, rfl⟩ := List.mem_map.mp (perm.mem_iff.mp member)
  refine ⟨_, findRelativePath_located merges isSource located, ?_⟩
  obtain ⟨byte, rest, rfl, -⟩ := (located_isRelative isSource located).first
  simp

theorem read_directory_complete_folder :
    let fs : FileSystem :=
      { isDirectory := fun path => path = [100] || path = [100, 47, 115]
        entries := fun path => if path = [100] then [([97], false), ([115], true)] else [([97], false)] }
    ∃ fuel filenames, readDirectory fs fuel [100] = some filenames ∧
      filenames.Perm [[100, 47, 97], [100, 47, 115, 47, 97]] ∧ filenames.Nodup ∧
      (∀ filepath ∈ filenames, ∃ upload, findRelativePath true filepath [100] = some upload ∧ upload ≠ []) ∧
      (filenames.map fun filepath => relativePath true filepath [100]).Nodup := by
  intro fs
  have plain : ∀ byte : UInt8, byte ≠ slash → byte ≠ dot → ValidName [byte] := fun byte notSlash notDot =>
    ⟨by simp, by simpa using notSlash.symm, by simpa using notDot, by simp⟩
  have holds : fs.Holds [100] (.file [97] (.dir [115] (.file [97] .nil) .nil)) :=
    ⟨⟨plain 97 (by decide) (by decide), by decide, plain 115 (by decide) (by decide), by decide,
      ⟨plain 97 (by decide) (by decide), by decide, trivial⟩, trivial⟩, by decide, by decide,
      ⟨by decide, by decide, trivial⟩, trivial⟩
  exact read_directory_complete true (show fs.IsSource [100] (.directory _) from holds)

end Sources

end XTransmit.FileTransfer
