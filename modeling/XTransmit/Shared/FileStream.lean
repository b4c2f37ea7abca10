import Mathlib.Logic.Function.Basic

set_option autoImplicit false

namespace FileStream

structure IoState where
  eof : Bool := false
  fail : Bool := false
  bad : Bool := false
deriving DecidableEq

def IoState.good (state : IoState) : Bool := !state.eof && !state.fail && !state.bad

def IoState.failed (state : IoState) : Bool := state.fail || state.bad

theorem not_good_of_failed {state : IoState} (failed : state.failed = true) : state.good = false := by
  cases fail : state.fail <;> simp_all [IoState.failed, IoState.good]

/-- The unread bytes of an open input file. After them comes the end of the file or, with `readError`, an
error of the device. -/
structure IFStream where
  rest : List UInt8
  readError : Bool := false
  state : IoState := {}

def IFStream.read (stream : IFStream) (count : Nat) : List UInt8 × IFStream :=
  if !stream.state.good then
    ([], { stream with state := { stream.state with fail := true } })
  else if count ≤ stream.rest.length then
    (stream.rest.take count, { stream with rest := stream.rest.drop count })
  else if stream.readError then
    ([], { stream with state := { stream.state with bad := true } })
  else
    (stream.rest, { stream with rest := [], state := { eof := true, fail := true } })

-- `std::getline`. Reading up to the end of the file sets `eofbit`, and `failbit` when nothing was extracted.
def IFStream.getline (stream : IFStream) (delim : UInt8) : List UInt8 × IFStream :=
  if !stream.state.good then
    ([], { stream with state := { stream.state with fail := true } })
  else
    let line := stream.rest.takeWhile (· != delim)
    match stream.rest.drop line.length with
    | _ :: later => (line, { stream with rest := later })
    | [] =>
        if stream.readError then (line, { stream with rest := [], state := { stream.state with bad := true } })
        else (line, { stream with rest := [], state := { eof := true, fail := line.isEmpty } })

def IFStream.clear (stream : IFStream) : IFStream := { stream with state := {} }

def IFStream.seekBegin (stream : IFStream) (contents : List UInt8) : IFStream :=
  if stream.state.failed then { stream with state := { stream.state with eof := false, fail := true } }
  else { stream with rest := contents, state := { stream.state with eof := false } }

theorem takeWhile_delim {line : List UInt8} {delim : UInt8} (plain : delim ∉ line) (later : List UInt8) :
    (line ++ later).takeWhile (· != delim) = line ++ later.takeWhile (· != delim) :=
  List.takeWhile_append_of_pos fun _ member => bne_iff_ne.mpr (ne_of_mem_of_not_mem member plain)

theorem getline_delimited {line : List UInt8} {delim : UInt8} (plain : delim ∉ line) (later : List UInt8) :
    IFStream.getline { rest := line ++ delim :: later } delim = (line, { rest := later }) := by
  simp [IFStream.getline, IoState.good, takeWhile_delim plain]

theorem getline_last {line : List UInt8} {delim : UInt8} (plain : delim ∉ line) (nonempty : line ≠ []) :
    IFStream.getline { rest := line } delim = (line, { rest := [], state := { eof := true } }) := by
  have upTo : line.takeWhile (· != delim) = line := by simpa using takeWhile_delim plain []
  simp [IFStream.getline, IoState.good, upTo, nonempty]

abbrev Files (Path : Type) := Path → Option (List UInt8)

structure OFStream (Path : Type) where
  path : Option Path := none
  state : IoState := {}

namespace OFStream

variable {Path : Type}

-- Closing a closed stream fails.
def close (stream : OFStream Path) : OFStream Path :=
  match stream.path with
  | some _ => { stream with path := none }
  | none => { stream with state := { stream.state with fail := true } }

-- Opening an open stream fails; a successful `open` clears the state.
def openTrunc [DecidableEq Path] (stream : OFStream Path) (path : Path) (openable : Bool)
    (files : Files Path) : OFStream Path × Files Path :=
  if stream.path.isNone && openable then
    ({ path := some path }, Function.update files path (some []))
  else
    ({ stream with state := { stream.state with fail := true } }, files)

-- A closed stream takes no byte, which sets `badbit`.
def write [DecidableEq Path] (stream : OFStream Path) (bytes : List UInt8) (files : Files Path) :
    OFStream Path × Files Path :=
  if !stream.state.good then (stream, files)
  else
    match stream.path with
    | some path => (stream, Function.update files path ((files path).map (· ++ bytes)))
    | none =>
        if bytes = [] then (stream, files)
        else ({ stream with state := { stream.state with bad := true } }, files)

def Ready (stream : OFStream Path) : Prop := ∀ path, stream.path = some path → stream.state = {}

theorem openTrunc_closed [DecidableEq Path] {stream : OFStream Path} (closed : stream.path = none) (path : Path)
    (files : Files Path) :
    stream.openTrunc path true files = ({ path := some path }, Function.update files path (some [])) := by
  simp [openTrunc, closed]

@[simp] theorem close_path (stream : OFStream Path) : stream.close.path = none := by
  unfold close
  split <;> simp_all

theorem close_ready (stream : OFStream Path) : stream.close.Ready := by
  simp [Ready]

theorem write_ready [DecidableEq Path] {stream : OFStream Path} (ready : stream.Ready)
    (bytes : List UInt8) (files : Files Path) : (stream.write bytes files).1.Ready := by
  unfold write
  split
  next => exact ready
  next =>
    split
    next => exact ready
    next closed =>
      split
      next => exact ready
      next => simp [Ready, closed]

@[simp] theorem write_path [DecidableEq Path] (stream : OFStream Path) (bytes : List UInt8)
    (files : Files Path) : (stream.write bytes files).1.path = stream.path := by
  unfold write
  split
  next => rfl
  next =>
    split
    next => rfl
    next => split <;> simp_all

theorem write_closed [DecidableEq Path] {stream : OFStream Path} (closed : stream.path = none)
    (bytes : List UInt8) (files : Files Path) : (stream.write bytes files).2 = files := by
  simp only [write, closed]
  split
  next => rfl
  next => split <;> rfl

theorem write_open [DecidableEq Path] {stream : OFStream Path} {path : Path} (ready : stream.Ready)
    (opened : stream.path = some path) (bytes : List UInt8) (files : Files Path) :
    (stream.write bytes files).2 = Function.update files path ((files path).map (· ++ bytes)) := by
  simp [write, opened, ready path opened, IoState.good]

end OFStream

end FileStream
