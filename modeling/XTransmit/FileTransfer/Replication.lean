import XTransmit.FileTransfer.Disk
import XTransmit.FileTransfer.RoundTrip

set_option autoImplicit false

namespace XTransmit.FileTransfer

open FileStream StdString PathNames

variable {Folders : Type} {host : Host Folders}

section Lenient

/-- The host without its failures. Where it would not have failed, a receiver sees no difference. -/
def Host.lenient (host : Host Folders) : Host Folders where
  createDirectory path folders :=
    match host.createDirectory path folders with
    | (.created, after) => (.created, after)
    | (.failed, after) | (.existing, after) => (.existing, after)
  openable _ _ := true
  opened := host.opened

theorem lenient_succeeds : host.lenient.Succeeds where
  creates path folders := by
    unfold Host.lenient
    dsimp only
    split <;> simp
  opens _ _ := rfl

theorem createFolder_lenient {path : Path} {folders : Folders} (made : (createFolder host path folders).1 = true) :
    createFolder host.lenient path folders = createFolder host path folders := by
  unfold createFolder Host.lenient at *
  dsimp only
  split at made <;> simp_all

theorem createFoldersFrom_lenient {path : Path} {lastDelim pos : Nat} {folders : Folders}
    (made : (createFoldersFrom host path lastDelim pos folders).1 = true) :
    createFoldersFrom host.lenient path lastDelim pos folders = createFoldersFrom host path lastDelim pos folders := by
  fun_induction createFoldersFrom host path lastDelim pos folders with
  | case1 => rw [createFoldersFrom, if_pos rfl]
  | case2 pos folders unfinished missing =>
      rw [createFoldersFrom, if_neg unfinished]
      split
      next => exact createFolder_lenient made
      next next found => cases missing.symm.trans found
  | case3 pos folders unfinished next found created success ih =>
      rw [createFoldersFrom, if_neg unfinished]
      split
      next missing => cases missing.symm.trans found
      next _ again =>
        cases found.symm.trans again
        simp only [createFolder_lenient success]
        rw [if_pos success, ih made]
  | case4 pos folders unfinished next found created failed => exact absurd made failed

theorem createSubfolders_lenient {path : Path} {folders : Folders} (made : (createSubfolders host path folders).1 = true) :
    createSubfolders host.lenient path folders = createSubfolders host path folders := by
  unfold createSubfolders at *
  dsimp only at *
  split
  next => rfl
  next lastDelim last =>
    simp only [last] at made
    split
    next => rfl
    next later =>
      rw [if_neg later] at made
      exact createFoldersFrom_lenient made

def Host.Admits (host : Host Folders) (holds : Folders → Prop) (path : Path) : Prop :=
  ∀ folders, holds folders → (createSubfolders host path folders).1 = true ∧
    host.openable path (createSubfolders host path folders).2 = true ∧
    holds (host.opened path (createSubfolders host path folders).2)

variable {dstpath : ArgString} {holds : Folders → Prop}

theorem receiveFirst_lenient (state : ReceiveState Folders) {filename : Path}
    (named : Bytes.cString (state.buf.drop 1) = some filename) (admits : host.Admits holds (dstpath ++ filename))
    (held : holds state.folders) (bytes : Nat) (eof : Bool) :
    receiveFirst host.lenient dstpath bytes eof state = receiveFirst host dstpath bytes eof state := by
  obtain ⟨made, opened, -⟩ := admits state.folders held
  unfold receiveFirst
  simp only [named, createSubfolders_lenient made, opened]
  rfl

theorem receivePayload_folders {state next : ReceiveState Folders} {bytes hdrSize : Nat} {eof : Bool}
    (running : receivePayload bytes hdrSize eof state = .running next) : next.folders = state.folders := by
  unfold receivePayload at running
  split at running
  next =>
    cases running
    rfl
  next =>
    split at running <;> cases running
    rfl

theorem receiveFirst_holds {state next : ReceiveState Folders} {filename : Path} {bytes : Nat} {eof : Bool}
    (running : receiveFirst host dstpath bytes eof state = .running next)
    (named : Bytes.cString (state.buf.drop 1) = some filename) (admits : host.Admits holds (dstpath ++ filename))
    (held : holds state.folders) : holds next.folders := by
  obtain ⟨made, opened, kept⟩ := admits state.folders held
  unfold receiveFirst at running
  simp only [named, made, opened, OFStream.openTrunc_closed (OFStream.close_path state.ofile)] at running
  rw [if_neg (by simp), if_neg (by decide)] at running
  rw [receivePayload_folders running]
  exact kept

theorem receiveMessage_lenient {state : ReceiveState Folders} {message : Message}
    (fits : message.length ≤ state.buf.length) (wellFormed : message.WellFormed)
    (admits : message.first = true → host.Admits holds (dstpath ++ message.fileName)) (held : holds state.folders) :
    receiveMessage host.lenient dstpath state message = receiveMessage host dstpath state message ∧
      ∀ next, receiveMessage host dstpath state message = .running next → holds next.folders := by
  by_cases received : message = []
  next =>
    rw [received, receiveMessage_empty, receiveMessage_empty]
    refine ⟨rfl, fun next same => ?_⟩
    cases same
    exact held
  next =>
    cases first : message.first with
    | true =>
        have named : Bytes.cString ((state.received message).drop 1) = some message.fileName := by
          rw [received_drop state received]
          exact Bytes.cString_terminated _ _ (wellFormed first)
        rw [receiveMessage_first dstpath state received fits first, receiveMessage_first dstpath state received fits first]
        exact ⟨receiveFirst_lenient { state with buf := state.received message } named (admits first) held _ _,
          fun next running => receiveFirst_holds running named (admits first) held⟩
    | false =>
        rw [receiveMessage_later dstpath state received fits first, receiveMessage_later dstpath state received fits first]
        refine ⟨rfl, fun next running => ?_⟩
        rw [receivePayload_folders running]
        exact held

theorem receiveFiles_lenient {state : ReceiveState Folders} (ready : state.ofile.Ready) {messages : List Message}
    (fits : ∀ message ∈ messages, message.length ≤ state.buf.length)
    (wellFormed : ∀ message ∈ messages, message.WellFormed)
    (admits : ∀ message ∈ messages, message.first = true → host.Admits holds (dstpath ++ message.fileName))
    (held : holds state.folders) :
    receiveFiles host dstpath state messages = receiveFiles host.lenient dstpath state messages := by
  induction messages generalizing state with
  | nil => rfl
  | cons message rest ih =>
      obtain ⟨same, kept⟩ := receiveMessage_lenient (fits message (by simp)) (wellFormed message (by simp))
        (admits message (by simp)) held
      obtain ⟨next, running, opened, length, -⟩ := receiveMessage_assembles dstpath lenient_succeeds ready
        (fits message (by simp)) (wellFormed message (by simp))
      rw [receiveFiles, receiveFiles, ← same, running]
      exact ih opened (fun later member => length ▸ fits later (List.mem_cons_of_mem _ member))
        (fun later member => wellFormed later (List.mem_cons_of_mem _ member))
        (fun later member => admits later (List.mem_cons_of_mem _ member)) (kept next (same ▸ running))

end Lenient

def openedAs (merges : Bool) (disk : Path → Option (List UInt8)) (path : Path) (filename : Path) : SourceFile where
  uploadName := relativePath merges filename path
  ifile := (disk filename).map fun contents => { rest := contents }

-- Without any file the sender does not even connect.
def sendTree (merges : Bool) (env : SendEnv) (fs : FileSystem) (disk : Path → Option (List UInt8)) (readFuel sendFuel : Nat)
    (path : Path) (segmentBuf : List UInt8) : Option (SendOutcome × SendState) :=
  (readDirectory fs readFuel path).bind fun filenames =>
    startFilesender env sendFuel (filenames.map (openedAs merges disk path)) { buf := segmentBuf }

structure Sendable (size : Nat) (dstpath upload : Path) : Prop where
  nulFree : 0 ∉ upload
  room : upload.length + 2 < size
  noSlash : find [dot, slash] (dstpath ++ upload) = none
  noBackslash : backslash ∉ dstpath ++ upload

structure Replicated (source : Source) (path dstpath : Path) (disk before after : Path → Option (List UInt8)) : Prop where
  files : ∀ filepath relative, (filepath, relative) ∈ source.located path → disk filepath ≠ some [] →
    ∃ opened, denotes opened = denotesBelow dstpath relative ∧ after opened = disk filepath
  others : ∀ target, (∀ filepath relative, (filepath, relative) ∈ source.located path →
    denotes target ≠ denotesBelow dstpath relative) → after target = before target

section Names

theorem fileSegments_fileName {size : Nat} {name : List UInt8} (nulFree : 0 ∉ name) (room : name.length + 2 < size)
    {contents : List UInt8} {message : Message} (member : message ∈ fileSegments size name contents)
    (first : message.first = true) : message.fileName = name := by
  by_cases filled : contents = []
  next =>
    rw [filled, fileSegments_empty room] at member
    cases member
  next =>
    obtain ⟨payload, eof, rest, cut, later⟩ := segments_cons size (nameHeader name) contents filled
    rw [fileSegments, cut] at member
    rcases List.mem_cons.mp member with rfl | inside
    · exact segment_fileName name payload eof nulFree
    · rw [later message inside] at first
      cases first

theorem exists_uploads (merges : Bool) {fs : FileSystem} {path : Path} {source : Source}
    (isSource : fs.IsSource path source) {disk : Path → Option (List UInt8)}
    (readable : ∀ filepath relative, (filepath, relative) ∈ source.located path → (disk filepath).isSome) :
    ∃ (fuel : Nat) (filenames : List Path) (sources : List NamedFile), readDirectory fs fuel path = some filenames ∧
      filenames.map (openedAs merges disk path) = sources.map NamedFile.source ∧ (sources.map NamedFile.name).Nodup ∧
      sources.length = (source.located path).length ∧
      ∀ file, file ∈ sources ↔ ∃ filepath relative, (filepath, relative) ∈ source.located path ∧
        file.name = source.link path ++ relative ∧ disk filepath = some file.contents := by
  obtain ⟨fuel, filenames, read, perm⟩ := readDirectory_perm isSource
  have listed : ∀ filepath, filepath ∈ filenames ↔ ∃ relative, (filepath, relative) ∈ source.located path := by
    intro filepath
    simp [perm.mem_iff]
  have upload : ∀ filepath relative, (filepath, relative) ∈ source.located path →
      relativePath merges filepath path = source.link path ++ relative := by
    intro filepath relative located
    rw [relativePath, findRelativePath_located merges isSource located, Option.getD_some]
  have contents : ∀ filepath ∈ filenames, disk filepath = some ((disk filepath).getD []) := by
    intro filepath member
    obtain ⟨relative, located⟩ := (listed filepath).mp member
    obtain ⟨bytes, found⟩ := Option.isSome_iff_exists.mp (readable filepath relative located)
    rw [found, Option.getD_some]
  refine ⟨fuel, filenames, filenames.map fun filepath =>
    ⟨relativePath merges filepath path, (disk filepath).getD []⟩, read, ?_, ?_, by simpa using perm.length_eq, ?_⟩
  · rw [List.map_map]
    refine List.map_congr_left fun filepath member => ?_
    rw [openedAs, contents filepath member]
    rfl
  · rw [List.map_map]
    exact (perm.map _).nodup_iff.mpr (uploads_nodup merges isSource)
  · intro file
    rw [List.mem_map]
    constructor
    · rintro ⟨filepath, member, rfl⟩
      obtain ⟨relative, located⟩ := (listed filepath).mp member
      exact ⟨filepath, relative, located, upload filepath relative located, contents filepath member⟩
    · rintro ⟨filepath, relative, located, name, found⟩
      refine ⟨filepath, (listed filepath).mpr ⟨relative, located⟩, ?_⟩
      rw [upload filepath relative located, found, Option.getD_some, ← name]

def Source.OpenedAt (source : Source) (path dstpath target : Path) : Prop :=
  ∃ filepath relative, (filepath, relative) ∈ source.located path ∧ target = dstpath ++ (source.link path ++ relative)

section Opened

variable {source : Source} {path dstpath relative : Path}

theorem names_opened (separated : Separated source path dstpath) (relative : Path) :
    names slash (dstpath ++ (source.link path ++ relative)) = names slash dstpath ++ names slash relative := by
  unfold Separated at separated
  rcases link_cases source path with unlinked | linked
  · rw [if_pos unlinked] at separated
    rw [unlinked, List.nil_append]
    rcases separated with rfl | ends
    · simp
    · obtain ⟨front, rfl⟩ := List.getLast?_eq_some_iff.mp ends
      rw [List.append_assoc, List.singleton_append, names_append_sep, names_trailing]
  · rw [linked, List.singleton_append, names_append_sep]

theorem head_opened (separated : Separated source path dstpath) (isRelative : IsRelative relative) :
    (dstpath ++ (source.link path ++ relative)).head? = some slash ↔ dstpath.head? = some slash := by
  cases dstpath with
  | cons byte rest => simp
  | nil =>
      have unlinked : source.link path = [] := by
        by_contra linked
        simp [Separated, linked] at separated
      obtain ⟨byte, rest, rfl, differs⟩ := isRelative.first
      simpa [unlinked] using differs

end Opened

theorem openedAt_apart {fs : FileSystem} {path : Path} {source : Source} (isSource : fs.IsSource path source)
    {dstpath : Path} (separated : Separated source path dstpath) {size : Nat}
    (sendable : ∀ filepath relative, (filepath, relative) ∈ source.located path →
      Sendable size dstpath (source.link path ++ relative)) : Disk.Apart (source.OpenedAt path dstpath) := by
  constructor
  case plain =>
    rintro _ ⟨filepath, relative, located, rfl⟩
    have isRelative := located_isRelative isSource located
    have allowed := sendable filepath relative located
    obtain ⟨byte, rest, filled, -⟩ := isRelative.first
    refine ⟨allowed.noSlash, allowed.noBackslash, by simp [filled], ?_, ?_⟩
    · rw [← List.append_assoc, List.getLast?_append_of_ne_nil _ (by simp [filled])]
      exact isRelative.last
    · intro name member
      have folders := folder_plain allowed.noSlash
      obtain ⟨first, after, -, split⟩ := isRelative.names
      rw [names_opened separated, List.dropLast_append_of_ne_nil (by simp [split])] at folders
      rw [names_opened separated] at member
      rcases List.mem_append.mp member with above | below
      · exact folders name (List.mem_append_left _ above)
      · have valid := isRelative.valid name below
        exact ⟨valid.notHere, valid.notParent⟩
  case rooted =>
    rintro _ _ ⟨_, _, here, rfl⟩ ⟨_, _, there, rfl⟩
    rw [head_opened separated (located_isRelative isSource here), head_opened separated (located_isRelative isSource there)]
  case beside =>
    rintro _ _ ⟨_, _, here, rfl⟩ ⟨_, _, there, rfl⟩ below
    rw [names_opened separated, names_opened separated, List.prefix_append_right_inj] at below
    rw [located_beside isSource here there below]

theorem transmitted_all {env : SendEnv} {clock : Nat} {sources : List NamedFile}
    (delayed : ∀ index, index + 1 < sources.length → deltaUs env (clock + 2 * index) (clock + 2 * index + 1) ≠ 0) :
    transmitted env clock sources = sources := by
  induction sources generalizing clock with
  | nil => rfl
  | cons file rest ih =>
      cases rest with
      | nil => simp [transmitted]
      | cons next others =>
          have here : deltaUs env clock (clock + 1) ≠ 0 := by simpa using delayed 0 (by simp)
          rw [transmitted, if_neg here, ih]
          intro index before
          have shifted := delayed (index + 1) (by simpa using before)
          rwa [show clock + 2 * (index + 1) = clock + 2 + 2 * index by omega] at shifted

end Names

section Receiver

variable {dstpath : ArgString} {size : Nat} {sources : List NamedFile}

theorem receive_admitted {holds : Folders → Prop} (nulFree : ∀ file ∈ sources, 0 ∉ file.name)
    (room : ∀ file ∈ sources, file.name.length + 2 < size) (distinct : (sources.map NamedFile.name).Nodup)
    (admits : ∀ file ∈ sources, host.Admits holds (dstpath ++ file.name)) {folders : Folders} (held : holds folders)
    {buf : List UInt8} (files : Files Path) {reads : List Message} (large : size ≤ buf.length)
    (delivered : reads.filter (· ≠ []) = allSegments size sources) :
    ∃ receiver, receiveFiles host dstpath (startReceiver buf files folders) reads = .running receiver ∧
      Transferred dstpath sources files receiver.files := by
  have named : ∀ message ∈ reads, message.first = true → host.Admits holds (dstpath ++ message.fileName) := by
    intro message member first
    rcases mem_delivered delivered member with rfl | ⟨file, inside, cut⟩
    · cases first
    · rw [fileSegments_fileName (nulFree file inside) (room file inside) cut first]
      exact admits file inside
  obtain ⟨receiver, running, all⟩ := receive_delivered room delivered lenient_succeeds folders nulFree distinct large files
  refine ⟨receiver, ?_, all⟩
  rw [receiveFiles_lenient (startReceiver_ready buf files folders)
    (fun message member => Nat.le_trans (delivered_fits room delivered member) large)
    (fun message member => delivered_wellFormed room delivered member) named held]
  exact running

end Receiver

def smallFolder : FileSystem where
  isDirectory path := path = [100] || path = [100, 47, 115]
  entries path := if path = [100] then [([97], false), ([115], true)] else [([97], false)]

def smallTree : Forest := .file [97] (.dir [115] (.file [97] .nil) .nil)

theorem smallFolder_isSource : smallFolder.IsSource [100] (.directory smallTree) := by
  have plain : ∀ byte : UInt8, byte ≠ slash → byte ≠ dot → ValidName [byte] := fun byte notSlash notDot =>
    ⟨by simp, by simpa using notSlash.symm, by simpa using notDot, by simp⟩
  exact ⟨⟨plain 97 (by decide) (by decide), by decide, plain 115 (by decide) (by decide), by decide,
    ⟨plain 97 (by decide) (by decide), by decide, trivial⟩, trivial⟩, by decide, by decide,
    ⟨by decide, by decide, trivial⟩, trivial⟩

def smallDisk (path : Path) : Option (List UInt8) := if path = [100, 47, 97] then some [1, 2, 3] else some [4]

theorem smallTree_sendable : ∀ filepath relative, (filepath, relative) ∈ (Source.directory smallTree).located [100] →
    Sendable 16 [116] ((Source.directory smallTree).link [100] ++ relative) := by
  have listed : ∀ entry ∈ (Source.directory smallTree).located [100],
      Sendable 16 [116] ((Source.directory smallTree).link [100] ++ entry.2) := by
    simp only [Source.located, smallTree, Forest.relatives, List.map_cons, List.map_nil, List.append_nil,
      List.cons_append, List.nil_append, List.forall_mem_cons]
    exact ⟨⟨by decide, by decide, by decide, by decide⟩, ⟨by decide, by decide, by decide, by decide⟩, by simp⟩
  exact fun filepath relative located => listed (filepath, relative) located

def receivingDisk : Disk where
  dirs :=
    { known := fun place => place = [] || place = [[116]]
      current := []
      root := rfl
      closed := by simp
      here := rfl }
  regular place := place = [[97], [116]]
  apart := by simp
  inside := by simp

theorem receivingDisk_free : ∀ target, (Source.directory smallTree).OpenedAt [100] [116] target →
    receivingDisk.Free target := by
  have listed : ∀ entry ∈ (Source.directory smallTree).located [100],
      receivingDisk.Free ([116] ++ ((Source.directory smallTree).link [100] ++ entry.2)) := by
    simp only [Source.located, smallTree, Forest.relatives, List.map_cons, List.map_nil, List.append_nil,
      List.cons_append, List.nil_append, List.forall_mem_cons]
    exact ⟨⟨by decide, by decide⟩, ⟨by decide, by decide⟩, by simp⟩
  rintro _ ⟨filepath, relative, located, rfl⟩
  exact listed (filepath, relative) located

end XTransmit.FileTransfer
