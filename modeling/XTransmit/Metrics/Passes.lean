import XTransmit.Metrics.MetricsWriter

set_option autoImplicit false

namespace XTransmit.Metrics

def PipePosition.registered : PipePosition → Bool
  | .launching | .reading | .removing => true
  | .adding | .done => false

-- A pipe holds its socket to the end, so the library gives its number to no other socket before.
def FreshConnId (state : Reception) : ReceptionEvent → Prop
  | .connect connId => ∀ pipe ∈ state.pipes, pipe.connId = connId → pipe.position = .done
  | _ => True

instance decidableFreshConnId (state : Reception) : (event : ReceptionEvent) → Decidable (FreshConnId state event)
  | .connect _ => inferInstanceAs (Decidable (∀ _ ∈ _, _))
  | .addValidator _ | .launch _ | .read _ _ _ | .leave _ | .removeValidator _ | .stop | .checkStop | .beginPass
  | .printNext _ | .endPass => .isTrue trivial

def Reception.slots (state : Reception) : List (Int32 × PipePosition) :=
  state.pipes.map fun pipe => (pipe.connId, pipe.position)

section Slots

variable {md5 : Md5} {config : ReceiveConfig} {state next : Reception} {event : ReceptionEvent} {index : Nat}

theorem slots_getElem? {pipe : ReceivePipe} (found : state.pipes[index]? = some pipe) :
    state.slots[index]? = some (pipe.connId, pipe.position) := by
  simp [Reception.slots, found]

theorem slots_of_getElem? {connId : Int32} {position : PipePosition}
    (found : state.slots[index]? = some (connId, position)) :
    ∃ pipe, state.pipes[index]? = some pipe ∧ pipe.connId = connId ∧ pipe.position = position := by
  rw [Reception.slots, List.getElem?_map] at found
  obtain ⟨pipe, there, same⟩ := Option.map_eq_some_iff.mp found
  cases same
  exact ⟨pipe, there, rfl, rfl⟩

inductive SlotMove (state : Reception) (event : ReceptionEvent) (next : Reception) : Prop
  | same (slots : next.slots = state.slots) (validators : next.validators = state.validators)
  | connected (connId : Int32) (event : event = .connect connId)
      (slots : next.slots = state.slots ++ [(connId, .adding)]) (validators : next.validators = state.validators)
  | advanced (index : Nat) (connId : Int32) (earlier later : PipePosition)
      (found : state.slots[index]? = some (connId, earlier)) (before : earlier.registered) (after : later.registered)
      (slots : next.slots = state.slots.set index (connId, later)) (validators : next.validators = state.validators)
  | added (index : Nat) (connId : Int32) (found : state.slots[index]? = some (connId, .adding))
      (slots : next.slots = state.slots.set index (connId, .launching))
      (validators : next.validators = state.emplaceValidator connId index)
  | removed (index : Nat) (connId : Int32) (found : state.slots[index]? = some (connId, .removing))
      (slots : next.slots = state.slots.set index (connId, .done))
      (validators : next.validators = state.validators.filter (·.1 ≠ connId))

theorem slots_set_same {pipe after : ReceivePipe} (found : state.pipes[index]? = some pipe)
    (identifier : after.connId = pipe.connId) (position : after.position = pipe.position) :
    (state.pipes.set index after).map (fun pipe => (pipe.connId, pipe.position)) = state.slots := by
  obtain ⟨inside, same⟩ := List.getElem?_eq_some_iff.mp (slots_getElem? found)
  rw [List.map_set, identifier, position, ← same]
  exact List.set_getElem_self inside

theorem read_position {pipe after : ReceivePipe} {now : ClockReadings} {data : List UInt8}
    (taken : pipe.read md5 now data = some after) : after.connId = pipe.connId ∧ after.position = pipe.position := by
  unfold ReceivePipe.read at taken
  split at taken
  next => cases taken
  next =>
    simp only at taken
    split at taken
    next =>
      cases taken
      exact ⟨rfl, rfl⟩
    next =>
      obtain ⟨validator, -, rfl⟩ := Option.map_eq_some_iff.mp taken
      exact ⟨rfl, rfl⟩

theorem receptionStep_slots (taken : receptionStep md5 config state event = some next) :
    SlotMove state event next := by
  cases event with
  | connect connId =>
      cases taken
      exact .connected connId rfl (by simp [Reception.slots]) rfl
  | addValidator index =>
      simp only [receptionStep] at taken
      split at taken
      next => cases taken
      next =>
        obtain ⟨known, there, moved⟩ := Option.bind_eq_some_iff.mp taken
        obtain ⟨pipe, after, found, here, changed, rfl⟩ := atPosition_spec moved
        cases there.symm.trans found
        cases changed
        exact .added index known.connId (here ▸ slots_getElem? found) (by simp [Reception.slots, List.map_set]) rfl
  | launch index =>
      obtain ⟨pipe, after, found, here, changed, rfl⟩ := atPosition_spec taken
      cases changed
      have same : ∀ writer token, (if state.writer = .absent then
          { state with stopToken := token, writer := writer } else state).pipes = state.pipes := by
        intro writer token
        split <;> rfl
      rw [same] at found
      exact .advanced index pipe.connId .launching .reading (here ▸ slots_getElem? found) rfl rfl
        (by simp [Reception.slots, List.map_set, same]) (by dsimp only; split <;> rfl)
  | read index now data =>
      obtain ⟨pipe, after, found, -, read, rfl⟩ := atPosition_spec taken
      obtain ⟨identifier, position⟩ := read_position read
      exact .same (slots_set_same found identifier position) rfl
  | leave index =>
      obtain ⟨pipe, after, found, here, changed, rfl⟩ := atPosition_spec taken
      cases changed
      exact .advanced index pipe.connId .reading .removing (here ▸ slots_getElem? found) rfl rfl
        (by simp [Reception.slots, List.map_set]) rfl
  | removeValidator index =>
      simp only [receptionStep] at taken
      split at taken
      next => cases taken
      next =>
        obtain ⟨known, there, moved⟩ := Option.bind_eq_some_iff.mp taken
        obtain ⟨pipe, after, found, here, changed, rfl⟩ := atPosition_spec moved
        cases there.symm.trans found
        cases changed
        exact .removed index known.connId (here ▸ slots_getElem? found) (by simp [Reception.slots, List.map_set]) rfl
  | stop =>
      cases taken
      exact .same rfl rfl
  | checkStop | beginPass | endPass =>
      simp only [receptionStep] at taken
      split at taken <;> cases taken
      exact .same rfl rfl
  | printNext timepoint =>
      simp only [receptionStep] at taken
      split at taken
      next index todo here =>
        obtain ⟨pipe, found, moved⟩ := Option.bind_eq_some_iff.mp taken
        obtain ⟨printed, applied, rfl⟩ := Option.map_eq_some_iff.mp moved
        obtain ⟨validator, -, rfl⟩ := Option.map_eq_some_iff.mp applied
        exact .same (slots_set_same found rfl rfl) rfl
      next => cases taken

end Slots

section Registration

variable {md5 : Md5} {config : ReceiveConfig} {state next : Reception} {event : ReceptionEvent}

structure Registered (state : Reception) : Prop where
  distinct : ∀ (i j : Nat) (connId : Int32) (left right : PipePosition), state.slots[i]? = some (connId, left) →
    state.slots[j]? = some (connId, right) → left ≠ .done → right ≠ .done → i = j
  entries : ∀ (connId : Int32) (index : Nat), (connId, index) ∈ state.validators ↔
    ∃ position, state.slots[index]? = some (connId, position) ∧ position.registered
  sorted : (state.validators.map Prod.fst).Pairwise (· < ·)

theorem PipePosition.live_of_registered {position : PipePosition} (registered : position.registered) :
    position ≠ .done := by
  rintro rfl
  cases registered

theorem getElem?_slot_set {slots : List (Int32 × PipePosition)} {moving index : Nat}
    {before after slot : Int32 × PipePosition} (found : slots[moving]? = some before) :
    (slots.set moving after)[index]? = some slot ↔
      (moving = index ∧ after = slot) ∨ (moving ≠ index ∧ slots[index]? = some slot) := by
  obtain ⟨inside, -⟩ := List.getElem?_eq_some_iff.mp found
  rw [List.getElem?_set, if_pos inside]
  split
  next same => simp [same]
  next different => simp [different]

theorem getElem?_slot_concat {slots : List (Int32 × PipePosition)} {index : Nat} {new slot : Int32 × PipePosition} :
    (slots ++ [new])[index]? = some slot ↔ slots[index]? = some slot ∨ (index = slots.length ∧ new = slot) := by
  rw [List.getElem?_append]
  split
  next inside => simp [Nat.ne_of_lt inside]
  next outside =>
    rw [List.getElem?_eq_none (Nat.le_of_not_lt outside), List.getElem?_singleton]
    grind

theorem Registered.distinct_set {moving : Nat} {moved : Int32} {before after : PipePosition}
    (registered : Registered state) (found : state.slots[moving]? = some (moved, before)) (live : before ≠ .done)
    (slots : next.slots = state.slots.set moving (moved, after)) :
    ∀ (i j : Nat) (connId : Int32) (left right : PipePosition), next.slots[i]? = some (connId, left) →
      next.slots[j]? = some (connId, right) → left ≠ .done → right ≠ .done → i = j := by
  intro i j connId left right first second leftLive rightLive
  rw [slots, getElem?_slot_set found] at first second
  rcases first with ⟨rfl, same⟩ | ⟨-, first⟩ <;> rcases second with ⟨rfl, other⟩ | ⟨-, second⟩
  · rfl
  · cases same
    exact registered.distinct _ _ _ _ _ found second live rightLive
  · cases other
    exact registered.distinct _ _ _ _ _ first found leftLive live
  · exact registered.distinct _ _ _ _ _ first second leftLive rightLive

theorem Registered.entries_advanced {moving : Nat} {moved : Int32} {before after : PipePosition}
    (registered : Registered state) (found : state.slots[moving]? = some (moved, before))
    (same : before.registered = after.registered) (connId : Int32) (index : Nat) :
    (connId, index) ∈ state.validators ↔
      ∃ position, (state.slots.set moving (moved, after))[index]? = some (connId, position) ∧ position.registered := by
  rw [registered.entries]
  simp only [getElem?_slot_set found]
  constructor
  · rintro ⟨position, there, inMap⟩
    by_cases here : moving = index
    next =>
      subst here
      cases found.symm.trans there
      exact ⟨after, .inl ⟨rfl, rfl⟩, same ▸ inMap⟩
    next => exact ⟨position, .inr ⟨here, there⟩, inMap⟩
  · rintro ⟨position, ⟨rfl, equal⟩ | ⟨-, there⟩, inMap⟩
    · cases equal
      exact ⟨before, found, same ▸ inMap⟩
    · exact ⟨position, there, inMap⟩

theorem emplaceValidator_absent {connId : Int32} {index : Nat} (absent : connId ∉ state.validators.map Prod.fst) :
    state.emplaceValidator connId index =
      state.validators.orderedInsert (fun left right => left.1 ≤ right.1) (connId, index) := by
  rw [Reception.emplaceValidator, if_neg absent]

theorem orderedInsert_sorted {validators : List (Int32 × Nat)} {connId : Int32} {index : Nat}
    (sorted : (validators.map Prod.fst).Pairwise (· < ·)) (absent : connId ∉ validators.map Prod.fst) :
    ((validators.orderedInsert (fun left right => left.1 ≤ right.1) (connId, index)).map Prod.fst).Pairwise
      (· < ·) := by
  induction validators with
  | nil => simp
  | cons entry rest ih =>
      rw [List.map_cons, List.mem_cons, not_or] at absent
      rw [List.map_cons, List.pairwise_cons] at sorted
      rw [List.orderedInsert_cons]
      split
      next first =>
        have below : connId < entry.1 := Int32.lt_of_le_of_ne first absent.1
        simp only [List.map_cons, List.pairwise_cons, List.mem_cons]
        refine ⟨?_, sorted⟩
        rintro key (rfl | member)
        · exact below
        · exact Int32.lt_trans below (sorted.1 key member)
      next later =>
        have above : entry.1 < connId := Int32.not_le.mp later
        rw [List.map_cons, List.pairwise_cons]
        refine ⟨?_, ih sorted.2 absent.2⟩
        intro key member
        obtain ⟨other, found, rfl⟩ := List.mem_map.mp member
        rcases (List.mem_orderedInsert _).mp found with rfl | inside
        · exact above
        · exact sorted.1 _ (List.mem_map_of_mem inside)

theorem Registered.move (registered : Registered state) (permitted : FreshConnId state event)
    (move : SlotMove state event next) : Registered next := by
  cases move with
  | same slots validators =>
      obtain ⟨distinct, entries, sorted⟩ := registered
      exact ⟨by rwa [slots], by rwa [slots, validators], by rwa [validators]⟩
  | connected fresh taken slots validators =>
      subst taken
      have live : ∀ (index : Nat) (position : PipePosition), state.slots[index]? = some (fresh, position) →
          position = .done := by
        intro index position found
        obtain ⟨pipe, there, identifier, rfl⟩ := slots_of_getElem? found
        exact permitted pipe (List.mem_of_getElem? there) identifier
      refine ⟨?_, ?_, by rw [validators]; exact registered.sorted⟩
      · intro i j connId left right first second leftLive rightLive
        rw [slots, getElem?_slot_concat] at first second
        rcases first with first | ⟨rfl, same⟩ <;> rcases second with second | ⟨rfl, other⟩
        · exact registered.distinct i j connId left right first second leftLive rightLive
        · cases other
          exact absurd (live i left first) leftLive
        · cases same
          exact absurd (live j right second) rightLive
        · rfl
      · intro connId index
        rw [validators, slots, registered.entries]
        simp only [getElem?_slot_concat]
        constructor
        · rintro ⟨position, found, inMap⟩
          exact ⟨position, .inl found, inMap⟩
        · rintro ⟨position, found | ⟨-, new⟩, inMap⟩
          · exact ⟨position, found, inMap⟩
          · cases new
            cases inMap
  | advanced index connId earlier later found before after slots validators =>
      refine ⟨registered.distinct_set found (PipePosition.live_of_registered before) slots, ?_, ?_⟩
      · intro other position
        rw [validators, slots]
        exact registered.entries_advanced found (before.trans after.symm) other position
      · rw [validators]
        exact registered.sorted
  | added index connId found slots validators =>
      have absent : connId ∉ state.validators.map Prod.fst := by
        intro member
        obtain ⟨⟨_, other⟩, entry, rfl⟩ := List.mem_map.mp member
        obtain ⟨position, there, inMap⟩ := (registered.entries _ _).mp entry
        have same := registered.distinct _ _ _ _ _ there found (PipePosition.live_of_registered inMap) (by decide)
        subst same
        cases there.symm.trans found
        cases inMap
      rw [emplaceValidator_absent absent] at validators
      refine ⟨registered.distinct_set found (by decide) slots, ?_, ?_⟩
      · intro other position
        rw [validators, slots, List.mem_orderedInsert, registered.entries]
        simp only [getElem?_slot_set found]
        constructor
        · rintro (equal | ⟨place, there, inMap⟩)
          · cases equal
            exact ⟨.launching, .inl ⟨rfl, rfl⟩, rfl⟩
          · refine ⟨place, .inr ⟨?_, there⟩, inMap⟩
            rintro rfl
            cases found.symm.trans there
            cases inMap
        · rintro ⟨place, ⟨rfl, equal⟩ | ⟨-, there⟩, inMap⟩
          · cases equal
            exact .inl rfl
          · exact .inr ⟨place, there, inMap⟩
      · rw [validators]
        exact orderedInsert_sorted registered.sorted absent
  | removed index connId found slots validators =>
      refine ⟨registered.distinct_set found (by decide) slots, ?_, ?_⟩
      · intro other position
        rw [validators, slots, List.mem_filter, registered.entries]
        simp only [getElem?_slot_set found, decide_eq_true_eq]
        constructor
        · rintro ⟨⟨place, there, inMap⟩, different⟩
          refine ⟨place, .inr ⟨?_, there⟩, inMap⟩
          rintro rfl
          cases found.symm.trans there
          exact different rfl
        · rintro ⟨place, ⟨rfl, equal⟩ | ⟨elsewhere, there⟩, inMap⟩
          · cases equal
            cases inMap
          · refine ⟨⟨place, there, inMap⟩, ?_⟩
            rintro rfl
            exact elsewhere (registered.distinct _ _ _ _ _ found there (by decide)
              (PipePosition.live_of_registered inMap))
      · rw [validators]
        exact registered.sorted.sublist (List.filter_sublist.map _)

theorem registered_of_reachable
    (reached : Transition.Reachable (receptionStep md5 config) FreshConnId {} state) : Registered state := by
  refine reached.invariant Registered ?_ ?_
  · exact ⟨by simp [Reception.slots], by simp [Reception.slots], by simp⟩
  · intro state event next registered permitted taken
    exact registered.move permitted (receptionStep_slots taken)

end Registration

section Pass

variable {md5 : Md5} {config : ReceiveConfig} {state next final : Reception}

theorem receptionStep_printing {event : ReceptionEvent} {todo : List Nat} (printing : state.writer = .printing todo)
    (inside : event ≠ .endPass) (taken : receptionStep md5 config state event = some next) :
    ∃ rows rest, next.out = state.out ++ rows ∧ next.writer = .printing rest ∧ rows.map (·.pipe) ++ rest = todo := by
  have quiet : ∀ {after : Reception}, after.out = state.out → after.writer = state.writer →
      ∃ rows rest, after.out = state.out ++ rows ∧ after.writer = .printing rest ∧ rows.map (·.pipe) ++ rest = todo :=
    fun out writer => ⟨[], todo, by rw [out, List.append_nil], writer.trans printing, rfl⟩
  have locked : state.locked = true := by rw [Reception.locked, printing]
  cases event with
  | connect connId | stop =>
      cases taken
      exact quiet rfl rfl
  | addValidator index | removeValidator index =>
      rw [receptionStep, if_pos locked] at taken
      cases taken
  | launch index =>
      obtain ⟨pipe, after, -, -, -, rfl⟩ := atPosition_spec taken
      rw [if_neg (by simp [printing])]
      exact quiet rfl rfl
  | read index | leave index =>
      obtain ⟨pipe, after, -, -, -, rfl⟩ := atPosition_spec taken
      exact quiet rfl rfl
  | checkStop | beginPass =>
      rw [receptionStep, if_neg (by simp [printing])] at taken
      cases taken
  | printNext timepoint =>
      simp only [receptionStep, printing] at taken
      split at taken
      next index later here =>
        cases here
        obtain ⟨pipe, -, moved⟩ := Option.bind_eq_some_iff.mp taken
        obtain ⟨printed, -, rfl⟩ := Option.map_eq_some_iff.mp moved
        exact ⟨[_], later, rfl, rfl, rfl⟩
      next => cases taken
  | endPass => exact absurd rfl inside

theorem run_printing {events : List ReceptionEvent} {todo : List Nat} (printing : state.writer = .printing todo)
    (inside : ∀ event ∈ events, event ≠ .endPass)
    (ran : Transition.run (receptionStep md5 config) state events = some final) :
    ∃ rows rest, final.out = state.out ++ rows ∧ final.writer = .printing rest ∧ rows.map (·.pipe) ++ rest = todo := by
  induction events generalizing state todo with
  | nil =>
      cases ran
      exact ⟨[], todo, by simp, printing, rfl⟩
  | cons event rest ih =>
      obtain ⟨next, taken, continued⟩ := Option.bind_eq_some_iff.mp ran
      obtain ⟨first, remaining, out, writer, listed⟩ := receptionStep_printing printing (inside event (by simp)) taken
      obtain ⟨later, left, finalOut, finalWriter, others⟩ :=
        ih writer (fun event member => inside event (List.mem_cons_of_mem _ member)) continued
      refine ⟨first ++ later, left, ?_, finalWriter, ?_⟩
      · rw [finalOut, out, List.append_assoc]
      · rw [List.map_append, List.append_assoc, others, listed]

theorem pass_rows {middle : List ReceptionEvent} (inside : ∀ event ∈ middle, event ≠ .endPass)
    (ran : Transition.run (receptionStep md5 config) state (.beginPass :: (middle ++ [.endPass])) = some final) :
    ∃ rows, final.out = state.out ++ rows ∧ rows.map (·.pipe) = state.validators.map Prod.snd := by
  obtain ⟨begun, first, continued⟩ := Option.bind_eq_some_iff.mp ran
  rw [Transition.run_append] at continued
  obtain ⟨last, printed, ended⟩ := Option.bind_eq_some_iff.mp continued
  have start : begun.out = state.out ∧ begun.writer = .printing (state.validators.map Prod.snd) := by
    simp only [receptionStep] at first
    split at first <;> cases first
    exact ⟨rfl, rfl⟩
  obtain ⟨rows, rest, out, writer, listed⟩ := run_printing start.2 inside printed
  simp only [Transition.run, receptionStep, writer] at ended
  split at ended
  next nothing =>
    cases nothing
    cases ended
    exact ⟨rows, by rw [out, start.1], by rw [← listed, List.append_nil]⟩
  next => cases ended

end Pass

theorem a_pass_prints_each_registered_connection_once (md5 : Md5) (config : ReceiveConfig) (state final : Reception)
    (reached : Transition.Reachable (receptionStep md5 config) FreshConnId {} state) (middle : List ReceptionEvent)
    (inside : ∀ event ∈ middle, event ≠ .endPass)
    (ran : Transition.run (receptionStep md5 config) state (.beginPass :: (middle ++ [.endPass])) = some final) :
    ∃ rows : List MetricsRow, final.out = state.out ++ rows ∧ (rows.map (·.pipe)).Nodup ∧
      (∀ index, index ∈ rows.map (·.pipe) ↔ ∃ pipe, state.pipes[index]? = some pipe ∧ pipe.position.registered) ∧
      (rows.map (·.pipe)).Pairwise fun earlier later => ∀ left right, state.pipes[earlier]? = some left →
        state.pipes[later]? = some right → left.connId < right.connId := by
  have registered := registered_of_reachable reached
  obtain ⟨rows, out, printed⟩ := pass_rows inside ran
  have placed : ∀ entry ∈ state.validators, ∃ pipe, state.pipes[entry.2]? = some pipe ∧ pipe.connId = entry.1 ∧
      pipe.position.registered := by
    intro entry member
    obtain ⟨position, found, inMap⟩ := (registered.entries entry.1 entry.2).mp member
    obtain ⟨pipe, there, identifier, rfl⟩ := slots_of_getElem? found
    exact ⟨pipe, there, identifier, inMap⟩
  have ordered : (rows.map (·.pipe)).Pairwise fun earlier later => ∀ left right, state.pipes[earlier]? = some left →
      state.pipes[later]? = some right → left.connId < right.connId := by
    rw [printed, List.pairwise_map]
    refine (List.pairwise_map.mp registered.sorted).imp_of_mem ?_
    intro first second firstMember secondMember below left right leftFound rightFound
    obtain ⟨leftPipe, leftThere, leftId, -⟩ := placed first firstMember
    obtain ⟨rightPipe, rightThere, rightId, -⟩ := placed second secondMember
    cases leftThere.symm.trans leftFound
    cases rightThere.symm.trans rightFound
    rw [leftId, rightId]
    exact below
  have member : ∀ index, index ∈ rows.map (·.pipe) ↔
      ∃ pipe, state.pipes[index]? = some pipe ∧ pipe.position.registered := by
    intro index
    rw [printed]
    constructor
    · intro member
      obtain ⟨entry, found, rfl⟩ := List.mem_map.mp member
      obtain ⟨pipe, there, -, inMap⟩ := placed entry found
      exact ⟨pipe, there, inMap⟩
    · rintro ⟨pipe, found, inMap⟩
      exact List.mem_map_of_mem ((registered.entries pipe.connId index).mpr ⟨_, slots_getElem? found, inMap⟩)
  refine ⟨rows, out, ?_, member, ordered⟩
  refine ordered.imp_of_mem ?_
  rintro earlier later earlierMember - below rfl
  obtain ⟨pipe, found, -⟩ := (member earlier).mp earlierMember
  exact Int32.lt_irrefl (below pipe pipe found found)

def twoConnections : List ReceptionEvent :=
  [.connect 7, .connect 5, .addValidator 0, .launch 0, .addValidator 1, .launch 1, .checkStop]

def passWithLeave : List ReceptionEvent := [.printNext none, .leave 0, .printNext none]

theorem a_pass_prints_each_registered_connection_once_leaving :
    ∃ state final rows, Transition.Reachable (receptionStep zeroRunMd5 {}) FreshConnId {} state ∧
      Transition.run (receptionStep zeroRunMd5 {}) state (.beginPass :: (passWithLeave ++ [.endPass])) = some final ∧
      final.out.map (·.pipe) = [1, 0] ∧ final.out = state.out ++ rows ∧ (rows.map (·.pipe)).Nodup := by
  have printed : (Transition.run (receptionStep zeroRunMd5 {}) {}
      (twoConnections ++ .beginPass :: (passWithLeave ++ [.endPass]))).map (·.out.map (·.pipe)) = some [1, 0] := by
    decide
  obtain ⟨final, ran, order⟩ := Option.map_eq_some_iff.mp printed
  rw [Transition.run_append] at ran
  obtain ⟨state, begun, passed⟩ := Option.bind_eq_some_iff.mp ran
  have reached : Transition.Reachable (receptionStep zeroRunMd5 {}) FreshConnId {} state :=
    Transition.Reachable.initial.run twoConnections (by decide) begun
  obtain ⟨rows, out, once, -⟩ := a_pass_prints_each_registered_connection_once zeroRunMd5 {} state final reached
    passWithLeave (by simp [passWithLeave]) passed
  exact ⟨state, final, rows, reached, passed, order, out, once⟩

end XTransmit.Metrics
