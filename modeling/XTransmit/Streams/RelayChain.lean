import XTransmit.Streams.RouteRun
import XTransmit.Streams.Source

set_option autoImplicit false

namespace XTransmit.Streams

open Transition Metrics Pacing

inductive Carried (sent : List Chunk) : List Chunk → Prop
  | direct : Carried sent sent
  | relayed {handed : List Chunk} (config : RouteConfig) (route : RouteRun) (link : Link)
      (earlier : Carried sent handed) (reached : Reachable (RouteRun.step config) Unrestricted {} route)
      (direction : link = route.forward ∨ link = route.backward)
      (arrived : (link.chunks.filter fun chunk => chunk.length ≠ 0).Sublist handed) :
      Carried sent (link.writes.map Prod.fst)

theorem Carried.sublist {sent handed : List Chunk} (carried : Carried sent handed) : handed.Sublist sent := by
  induction carried with
  | direct => exact List.Sublist.refl _
  | relayed config route link earlier reached direction arrived ih =>
      have ordered := ordered_of_reachable reached
      have relayed : link.Relayed := by
        rcases direction with rfl | rfl
        · exact ordered.forward
        · exact ordered.backward
      have written : (link.writes.map Prod.fst).Sublist (link.chunks.filter fun chunk => chunk.length ≠ 0) := by
        rw [← relayed]
        exact List.sublist_append_left _ _
      exact (written.trans arrived).trans ih

theorem inOrder_mono {handed sent : Nat → List Chunk} (sublist : ∀ index, (handed index).Sublist (sent index))
    (state : Reception) (event : ReceptionEvent) (permitted : InOrder handed state event) : InOrder sent state event := by
  cases event with
  | read index now data =>
      refine permitted.imp_right fun ordered pipe found => ?_
      exact (ordered pipe found).trans (sublist index)
  | connect | addValidator | launch | leave | removeValidator | stop | checkStop | beginPass | printNext | endPass =>
      trivial

theorem relayed_streams_are_counted (md5 : Md5) (stod : Stod) (sender : SourceConfig) (receiver : ReceiveConfig)
    (metrics : sender.enableMetrics = true) (sources : Nat → Source)
    (runs : ∀ index, RunOf md5 stod sender (sources index)) (handed : Nat → List Chunk)
    (carried : ∀ index, Carried (sources index).sent (handed index)) (state : Reception)
    (reached : Reachable (receptionStep md5 receiver) (InOrder handed) {} state) :
    ∀ row ∈ state.out, ∃ (pipe : ReceivePipe) (operation : Operation) (validator : Validator),
      RowCounts (sources row.pipe).sent state row pipe operation validator ∧
      validator.reorder.pktsProcessed.toNat ≤ (handed row.pipe).length := by
  intro row member
  have direct := reached.weaken (inOrder_mono fun index => (carried index).sublist)
  obtain ⟨pipe, operation, validator, counted⟩ :=
    rowCounts_of_reachable metrics (fun index => (runs index).numbered) direct row member
  refine ⟨pipe, operation, validator, counted, ?_⟩
  -- The last relay has handed over whatever the row has counted.
  have received := (fed_of_reachable reached row.pipe pipe counted.found).received
  have seen : (row.packets pipe).Sublist (handed row.pipe) := ((List.take_sublist _ _).filterMap _).trans received
  rw [counted.counts.processed]
  exact seen.length_le

def oneRelay (first second : Chunk) : List RouteLabel :=
  [.forward .test, .forward (.read (some first)), .forward (.write (some first.length)), .forward .test,
    .forward (.read (some second))]

theorem relayed_streams_are_counted_one_relay :
    ∃ handed state, Carried twoMessagesSource.sent handed ∧ handed.length = 1 ∧
      Reachable (receptionStep firstPacketsMd5 {}) (InOrder fun _ => handed) {} state ∧ state.out.length = 1 ∧
      ∀ row ∈ state.out, ∃ (operation : Operation) (validator : Validator), operation.text validator = some row.text ∧
        validator.reorder.pktsProcessed.toNat ≤ 1 := by
  let first := twoMessagesSource.sent.getD 0 []
  let second := twoMessagesSource.sent.getD 1 []
  let route : RouteRun :=
    { forward := { position := .writing second, chunks := [first, second], writes := [(first, some first.length)] } }
  have relay : Reachable (RouteRun.step {}) Unrestricted {} route :=
    Reachable.initial.run (oneRelay first second) (allowedRun_of_forall (fun _ _ _ => trivial) _) (by decide +kernel)
  have carried : Carried twoMessagesSource.sent [first] :=
    .relayed {} route route.forward .direct relay (.inl rfl) (by decide +kernel)
  have printed : (run (receptionStep firstPacketsMd5 {}) {} (oneReception first [])).map (·.out.length) = some 1 := by
    decide +kernel
  obtain ⟨state, ran, single⟩ := Option.map_eq_some_iff.mp printed
  have reached : Reachable (receptionStep firstPacketsMd5 {}) (InOrder fun _ => [first]) {} state :=
    Reachable.initial.run (oneReception first []) (by decide +kernel) ran
  refine ⟨[first], state, carried, rfl, reached, single, fun row member => ?_⟩
  obtain ⟨pipe, operation, validator, counted, few⟩ := relayed_streams_are_counted firstPacketsMd5 digitSeconds twoMessages
    {} rfl (fun _ => twoMessagesSource) (fun _ => twoMessagesSource_run) (fun _ => [first]) (fun _ => carried) state reached
    row member
  exact ⟨operation, validator, counted.text, few⟩

end XTransmit.Streams
