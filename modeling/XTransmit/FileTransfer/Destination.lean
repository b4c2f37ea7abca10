import XTransmit.FileTransfer.ReadDirectory

set_option autoImplicit false

namespace XTransmit.FileTransfer

open PathNames

def denotes (path : Path) : Bool × List Path :=
  (path.head? = some slash, (names slash path).filter (· ≠ [dot]))

def denotesBelow (folder relative : Path) : Bool × List Path :=
  (folder.head? = some slash, (names slash folder ++ names slash relative).filter (· ≠ [dot]))

def PreservesStructure (merges : Bool) (fs : FileSystem) (path : Path) (source : Source) (dstpath : Path) : Prop :=
  ∃ fuel filenames, readDirectory fs fuel path = some filenames ∧
    ∀ filepath ∈ filenames, ∃ relative, (filepath, relative) ∈ source.located path ∧
      denotes (dstpath ++ relativePath merges filepath path) = denotesBelow dstpath relative

def Separated (source : Source) (path dstpath : Path) : Prop :=
  if source.link path = [] then dstpath = [] ∨ dstpath.getLast? = some slash else dstpath ≠ []

section Joining

variable {folder relative : Path}

theorem denotes_linked (nonempty : folder ≠ []) : denotes (folder ++ slash :: relative) = denotesBelow folder relative := by
  rw [denotes, denotesBelow, names_append_sep, List.head?_append_of_ne_nil _ nonempty]

theorem denotes_trailing (front relative : Path) :
    denotes (front ++ [slash] ++ relative) = denotesBelow (front ++ [slash]) relative := by
  have whole : front ++ [slash] ++ relative = front ++ slash :: relative := by simp
  rw [denotes, denotesBelow, List.head?_append_of_ne_nil _ (by simp), whole, names_append_sep, names_trailing]

theorem denotes_relative (isRelative : IsRelative relative) : denotes relative = denotesBelow [] relative := by
  obtain ⟨byte, rest, rfl, differs⟩ := isRelative.first
  simp [denotes, denotesBelow, differs]

theorem denotes_root_ne (relative : Path) : denotes (slash :: relative) ≠ denotesBelow [] relative := by
  simp [denotes, denotesBelow]

theorem splitOn_unended (nonempty : folder ≠ []) (unended : folder.getLast? ≠ some slash) :
    ∃ before last, folder.splitOn slash = before ++ [last] ∧ last ≠ [] := by
  obtain ⟨front, byte, rfl⟩ := (List.eq_nil_or_concat' folder).resolve_left nonempty
  obtain ⟨before, last, _, _, -, alone, split⟩ := @splitOn_append _ _ slash front [byte]
  rw [List.splitOn_eq_singleton (by simpa [eq_comm] using unended)] at alone
  cases alone
  exact ⟨before, last ++ [byte], split, by simp⟩

-- With no separator on either side the last name of the folder and the first of the file become one.
theorem denotes_glued_ne (nonempty : folder ≠ []) (unended : folder.getLast? ≠ some slash)
    (isRelative : IsRelative relative) : denotes (folder ++ relative) ≠ denotesBelow folder relative := by
  obtain ⟨before, last, front, filled⟩ := splitOn_unended nonempty unended
  obtain ⟨name, after, valid, back⟩ := isRelative.split
  obtain ⟨_, _, _, _, again, same, whole⟩ := @splitOn_append _ _ slash folder relative
  cases back.symm.trans same
  obtain ⟨rfl, ends⟩ := List.append_inj' (front.symm.trans again) rfl
  cases ends
  have long : last ++ name ≠ [dot] := by
    intro short
    have lengths := congrArg List.length short
    have := List.length_pos_iff.mpr filled
    have := List.length_pos_iff.mpr valid.nonempty
    simp only [List.length_append, List.length_singleton] at lengths
    omega
  intro equal
  have behind := congrArg Prod.snd equal
  simp only [denotes, denotesBelow, names, whole, front, back, List.filter_append, List.append_assoc] at behind
  have behind := List.append_cancel_left behind
  by_cases here : last = [dot]
  · simp [here, valid.nonempty, valid.notHere] at behind
  · have lengths := congrArg List.length behind
    simp [here, valid.nonempty, valid.notHere, filled, long] at lengths

theorem link_cases (source : Source) (path : Path) : source.link path = [] ∨ source.link path = [slash] := by
  cases source with
  | file => exact .inl rfl
  | directory tree =>
      unfold Source.link link
      split_ifs <;> simp

theorem denotes_upload_iff (source : Source) (path dstpath : Path) (isRelative : IsRelative relative) :
    denotes (dstpath ++ (source.link path ++ relative)) = denotesBelow dstpath relative ↔
      Separated source path dstpath := by
  rcases link_cases source path with unlinked | linked
  · rw [Separated, if_pos unlinked, unlinked, List.nil_append]
    constructor
    · intro equal
      by_contra unseparated
      rw [not_or] at unseparated
      exact denotes_glued_ne unseparated.1 unseparated.2 isRelative equal
    · rintro (rfl | ends)
      · exact denotes_relative isRelative
      · obtain ⟨front, rfl⟩ := List.getLast?_eq_some_iff.mp ends
        exact denotes_trailing front relative
  · rw [Separated, if_neg (by simp [linked]), linked, List.singleton_append]
    refine ⟨fun equal => ?_, denotes_linked⟩
    rintro rfl
    exact denotes_root_ne relative equal

end Joining

variable {fs : FileSystem} {path : Path} {source : Source}

theorem structure_preserved_iff (merges : Bool) (isSource : fs.IsSource path source) (dstpath : Path) :
    PreservesStructure merges fs path source dstpath ↔ source.located path = [] ∨ Separated source path dstpath := by
  have opened : ∀ {filepath relative}, (filepath, relative) ∈ source.located path →
      (denotes (dstpath ++ relativePath merges filepath path) = denotesBelow dstpath relative ↔
        Separated source path dstpath) := by
    intro filepath relative located
    rw [relativePath, findRelativePath_located merges isSource located, Option.getD_some]
    exact denotes_upload_iff source path dstpath (located_isRelative isSource located)
  obtain ⟨fuel, filenames, read, perm⟩ := readDirectory_perm isSource
  constructor
  · rintro ⟨other, _, again, preserved⟩
    cases readDirectory_unique read again
    cases found : source.located path with
    | nil => exact .inl rfl
    | cons entry rest =>
        have first : entry.1 ∈ filenames := perm.mem_iff.mpr (by simp [found])
        obtain ⟨relative, located, equal⟩ := preserved entry.1 first
        exact .inr ((opened located).mp equal)
  · intro condition
    refine ⟨fuel, filenames, read, fun filepath member => ?_⟩
    obtain ⟨⟨_, relative⟩, located, rfl⟩ := List.mem_map.mp (perm.mem_iff.mp member)
    have separated := condition.resolve_left (List.ne_nil_of_mem located)
    exact ⟨relative, located, (opened located).mpr separated⟩

def oneFile : FileSystem where
  isDirectory _ := false
  entries _ := []

theorem oneFile_isSource : oneFile.IsSource [97] .file :=
  ⟨rfl, ⟨by decide, by decide, by decide, by decide⟩⟩

theorem structure_preserved_iff_slash : PreservesStructure true oneFile [97] .file [116, 47] :=
  (structure_preserved_iff true oneFile_isSource [116, 47]).mpr (.inr (.inr rfl))

-- The file "a" sent to the folder "t" is opened as "ta".
theorem no_separator_on_either_side :
    relativePath true [97] [97] = [97] ∧ ¬PreservesStructure true oneFile [97] .file [116] := by
  refine ⟨by decide, ?_⟩
  rintro ⟨fuel, filenames, read, preserved⟩
  have only : readDirectory oneFile 1 [97] = some [[97]] := rfl
  cases readDirectory_unique only read
  obtain ⟨relative, located, equal⟩ := preserved [97] (by simp)
  cases List.mem_singleton.mp located
  revert equal
  decide

end XTransmit.FileTransfer
