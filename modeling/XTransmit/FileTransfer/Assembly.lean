import XTransmit.FileTransfer.Folders
import XTransmit.FileTransfer.Segment
import XTransmit.Shared.FileStream

set_option autoImplicit false

namespace XTransmit.FileTransfer

open FileStream

structure Assembly where
  current : Option Path
  files : Files Path

namespace Assembly

variable (dstpath : Path)

def receive (assembly : Assembly) (message : Message) : Assembly :=
  if message.first then
    let path := dstpath ++ message.fileName
    { current := if message.eof then none else some path
      files := Function.update assembly.files path (some message.payload) }
  else
    match assembly.current with
    | none => assembly
    | some path =>
        { current := if message.eof then none else some path
          files := Function.update assembly.files path ((assembly.files path).map (· ++ message.payload)) }

def receiveAll (assembly : Assembly) (messages : List Message) : Assembly :=
  messages.foldl (receive dstpath) assembly

end Assembly

/-- The messages after a first segment that belong to its file: up to the first one with E (included) or the
next one with F (excluded). -/
def fileRange : List Message → List Message
  | [] => []
  | message :: rest =>
      if message.first then [] else if message.eof then [message] else message :: fileRange rest

def OutsideRange (before : List Message) : Prop :=
  (∀ message ∈ before, message.first = false) ∨
    ∃ earlier last later, before = earlier ++ last :: later ∧ last.eof = true ∧
      ∀ message ∈ later, message.first = false

variable {dstpath : Path}

def Names (dstpath : Path) (message : Message) (path : Path) : Prop :=
  message.first = true ∧ dstpath ++ message.fileName = path

instance (dstpath : Path) (message : Message) (path : Path) : Decidable (Names dstpath message path) :=
  inferInstanceAs (Decidable (message.first = true ∧ dstpath ++ message.fileName = path))

namespace Assembly

theorem receive_first {assembly : Assembly} {message : Message} (first : message.first = true) :
    assembly.receive dstpath message =
      { current := if message.eof then none else some (dstpath ++ message.fileName)
        files := Function.update assembly.files (dstpath ++ message.fileName) (some message.payload) } := by
  simp [receive, first]

theorem receive_later {assembly : Assembly} {message : Message} {path : Path} (later : message.first = false)
    (opened : assembly.current = some path) :
    assembly.receive dstpath message =
      { current := if message.eof then none else some path
        files := Function.update assembly.files path ((assembly.files path).map (· ++ message.payload)) } := by
  simp [receive, later, opened]

theorem receive_outside {assembly : Assembly} {message : Message} (later : message.first = false)
    (closed : assembly.current = none) : assembly.receive dstpath message = assembly := by
  simp [receive, later, closed]

theorem receive_empty (assembly : Assembly) : assembly.receive dstpath [] = assembly := by
  have later : Message.first [] = false := by decide
  have payload : Message.payload [] = [] := by decide
  cases opened : assembly.current with
  | none => exact receive_outside later opened
  | some path =>
      rw [receive_later later opened, payload]
      have kept : (assembly.files path).map (· ++ []) = assembly.files path := by simp
      rw [kept, Function.update_eq_self, ← opened]
      rfl

theorem receive_eof {assembly : Assembly} {message : Message} (eof : message.eof = true) :
    (assembly.receive dstpath message).current = none := by
  cases first : message.first with
  | true => simp [receive_first first, eof]
  | false =>
      cases opened : assembly.current with
      | none => rw [receive_outside first opened, opened]
      | some path => simp [receive_later first opened, eof]

theorem receiveAll_cons (assembly : Assembly) (message : Message) (rest : List Message) :
    assembly.receiveAll dstpath (message :: rest) =
      (assembly.receive dstpath message).receiveAll dstpath rest := rfl

theorem receiveAll_append (assembly : Assembly) (left right : List Message) :
    assembly.receiveAll dstpath (left ++ right) =
      (assembly.receiveAll dstpath left).receiveAll dstpath right := by
  simp [receiveAll]

theorem receiveAll_filter (assembly : Assembly) (messages : List Message) :
    assembly.receiveAll dstpath messages = assembly.receiveAll dstpath (messages.filter (· ≠ [])) := by
  induction messages generalizing assembly with
  | nil => rfl
  | cons message rest ih =>
      by_cases empty : message = []
      · rw [empty]
        simpa [receiveAll, receive_empty] using ih assembly
      · simpa [receiveAll, empty] using ih (assembly.receive dstpath message)

theorem receiveAll_keeps {path : Path} (assembly : Assembly) (elsewhere : assembly.current ≠ some path)
    (messages : List Message) (unnamed : ∀ message ∈ messages, ¬ Names dstpath message path) :
    (assembly.receiveAll dstpath messages).files path = assembly.files path := by
  induction messages generalizing assembly with
  | nil => rfl
  | cons message rest ih =>
      have others : ∀ later ∈ rest, ¬ Names dstpath later path :=
        fun later member => unnamed later (List.mem_cons_of_mem _ member)
      have here := unnamed message (by simp)
      rw [receiveAll_cons]
      cases first : message.first with
      | true =>
          have other : dstpath ++ message.fileName ≠ path := fun same => here ⟨first, same⟩
          rw [receive_first first, ih _ (by simp only; split <;> simp [other]) others]
          exact Function.update_of_ne (Ne.symm other) _ _
      | false =>
          cases opened : assembly.current with
          | none =>
              rw [receive_outside first opened]
              exact ih assembly elsewhere others
          | some open_ =>
              have other : open_ ≠ path := fun same => elsewhere (opened.trans (congrArg some same))
              rw [receive_later first opened, ih _ (by simp only; split <;> simp [other]) others]
              exact Function.update_of_ne (Ne.symm other) _ _

theorem receiveAll_extends {path : Path} (contents : List UInt8) (assembly : Assembly)
    (opened : assembly.current = some path) (found : assembly.files path = some contents)
    (messages : List Message) (unnamed : ∀ message ∈ messages, ¬ Names dstpath message path) :
    (assembly.receiveAll dstpath messages).files path =
      some (contents ++ (fileRange messages).flatMap Message.payload) := by
  induction messages generalizing assembly contents with
  | nil => simpa [receiveAll, fileRange] using found
  | cons message rest ih =>
      have others : ∀ later ∈ rest, ¬ Names dstpath later path :=
        fun later member => unnamed later (List.mem_cons_of_mem _ member)
      have here := unnamed message (by simp)
      rw [receiveAll_cons]
      cases first : message.first with
      | true =>
          have other : dstpath ++ message.fileName ≠ path := fun same => here ⟨first, same⟩
          rw [receive_first first, receiveAll_keeps _ (by simp only; split <;> simp [other]) _ others]
          simpa [fileRange, first, Function.update_of_ne (Ne.symm other)] using found
      | false =>
          rw [receive_later first opened]
          cases eof : message.eof with
          | true =>
              rw [receiveAll_keeps _ (by simp) _ others]
              simp [fileRange, first, eof, found]
          | false =>
              rw [ih (contents ++ message.payload) _ (by simp) (by simp [found]) others]
              simp [fileRange, first, eof]

theorem current_outside {assembly : Assembly} (closed : assembly.current = none) (messages : List Message)
    (later : ∀ message ∈ messages, message.first = false) :
    assembly.receiveAll dstpath messages = assembly := by
  induction messages with
  | nil => rfl
  | cons message rest ih =>
      rw [receiveAll_cons, receive_outside (later message (by simp)) closed]
      exact ih fun next member => later next (List.mem_cons_of_mem _ member)

theorem closed_outside {assembly : Assembly} (closed : assembly.current = none) {before : List Message}
    (outside : OutsideRange before) : (assembly.receiveAll dstpath before).current = none := by
  rcases outside with unopened | ⟨earlier, last, later, rfl, eof, unopened⟩
  · rw [current_outside closed before unopened]
    exact closed
  · have ended : ((assembly.receiveAll dstpath earlier).receive dstpath last).current = none := receive_eof eof
    rw [receiveAll_append, receiveAll_cons, current_outside ended later unopened]
    exact ended

end Assembly

end XTransmit.FileTransfer
