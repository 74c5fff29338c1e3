/- Module: MiniCam/V4L2/Preflight
   source: hal/v4l2_driver_adapter.cpp, hal/driver_adapter.h
   digest: Outputs that pass the preflight are all queued, each in a slot of its own endpoint. -/

import MiniCam.V4L2.Attribution
import MiniCam.V4L2.SlotBacking

set_option autoImplicit false
set_option relaxedAutoImplicit false

namespace MiniCam.V4L2.Preflight

open MiniCam.Foundation.Runs
open MiniCam.Hal.Interface
open MiniCam.V4L2.VideoNodes
open MiniCam.V4L2.DriverAdapter
open MiniCam.V4L2.DriverAdapter.V4L2Adapter
open MiniCam.V4L2.MultiStream
open MiniCam.V4L2.SlotMirror
open MiniCam.V4L2.SlotBacking
open MiniCam.V4L2.Attribution

section Calls

/-- One call of the driver; the preflight itself changes nothing. -/
inductive Call
  | configureStream
  | startStreaming
  | startContinuousStream (stream : StreamConfig) (buffers : List OutputBufferTarget)
  | stopStreaming
  | close
  | submitCapture (output : OutputBufferTarget)
  | dequeueCompletion (readyFd : Int)
  | returnStreamBuffer (lease : StreamBufferLease)

def Call.run (m : MultiDriver) : Call → MultiDriver
  | .configureStream => m.configureStream.2
  | .startStreaming => m.startStreaming.2
  | .startContinuousStream stream buffers => (m.startContinuousStream stream buffers).2
  | .stopStreaming => m.stopStreaming
  | .close => m.close
  | .submitCapture output => (m.submitCapture output).2
  | .dequeueCompletion readyFd => (m.dequeueCompletion readyFd).2
  | .returnStreamBuffer lease => (m.returnStreamBuffer lease).2

def step (m : MultiDriver) (call : Call) : Option MultiDriver := some (call.run m)

def submitAll : List OutputBufferTarget → MultiDriver → List (Option DriverToken) × MultiDriver
  | [], m => ([], m)
  | output :: rest, m =>
    match m.submitCapture output with
    | (answer, m') =>
      match submitAll rest m' with
      | (answers, m'') => (answer :: answers, m'')

/-- Every fence wait and every ioctl on the way succeeds. -/
def CallsSucceed : List OutputBufferTarget → MultiDriver → Prop
  | [], _ => True
  | output :: rest, m =>
    (∀ i ∈ m.endpointFor output.streamType, ∀ e ∈ m.endpoints[i]?,
      Takes output e.adapter m.world) ∧ CallsSucceed rest (m.submitCapture output).2

instance callsSucceedDecidable :
    (outputs : List OutputBufferTarget) → (m : MultiDriver) → Decidable (CallsSucceed outputs m)
  | [], _ => .isTrue trivial
  | output :: rest, m =>
    have := callsSucceedDecidable rest (m.submitCapture output).2
    inferInstanceAs (Decidable ((∀ i ∈ m.endpointFor output.streamType, ∀ e ∈ m.endpoints[i]?,
      Takes output e.adapter m.world) ∧ CallsSucceed rest (m.submitCapture output).2))

def slotAt (m : MultiDriver) (i j : Nat) : Option V4L2QueuedRequest :=
  m.endpoints[i]?.bind fun e => e.adapter.queuedRequests[j]?

structure Placement where
  output : OutputBufferTarget
  token : DriverToken
  endpoint : Nat
  slot : Nat

/-- The places were free slots of the endpoints of their outputs and now hold them, and no
other slot is touched. -/
structure Placed (placements : List Placement) (m m' : MultiDriver) : Prop where
  chosen : ∀ p ∈ placements, m.endpointFor p.output.streamType = some p.endpoint
  free : ∀ p ∈ placements, ∃ slot, slotAt m p.endpoint p.slot = some slot ∧ slot.queued = false
  taken : ∀ p ∈ placements, slotAt m' p.endpoint p.slot =
    some (boundSlot p.token p.output.bufferFd p.output.bufferSize)
  apart : (placements.map fun p => (p.endpoint, p.slot)).Nodup
  others : ∀ i j, (∀ p ∈ placements, (p.endpoint, p.slot) ≠ (i, j)) → slotAt m' i j = slotAt m i j

end Calls

section Submissions

variable {m m' : MultiDriver} {types : List StreamType}

def Room (outputs : List OutputBufferTarget) (m : MultiDriver) : Prop :=
  ∀ output ∈ outputs, ∃ i e, m.endpointFor output.streamType = some i ∧
    m.endpoints[i]? = some e ∧ Submittable e.adapter output.bufferFd output.bufferSize ∧
    (outputs.countP fun o => m.endpointFor o.streamType = some i) ≤
      e.adapter.freeQueuedRequestCount

theorem Room.reorder {outputs order : List OutputBufferTarget} (R : Room outputs m)
    (same : order.Perm outputs) : Room order m := by
  intro output member
  obtain ⟨i, e, index, found, able, fits⟩ := R output (same.subset member)
  refine ⟨i, e, index, found, able, ?_⟩
  rw [same.countP_eq]
  exact fits

theorem room_of_preflight {outputs : List OutputBufferTarget}
    (accepted : m.canSubmitCaptureOutputs outputs = true) : Room outputs m := by
  intro output member
  have checked := List.all_eq_true.mp accepted output member
  split at checked
  · cases checked
  · rename_i e found
    obtain ⟨i, index, at_i⟩ := Option.bind_eq_some_iff.mp found
    obtain ⟨fits, streaming, opened, buffers⟩ := canSubmitCaptureOutputs_iff.mp checked
    have own : output ∈ outputs.filter fun o =>
        m.endpointFor o.streamType = m.endpointFor output.streamType := by
      simp [member]
    obtain ⟨valid, large⟩ := buffers output own
    refine ⟨i, e, index, at_i, ⟨streaming, opened, valid, large⟩, ?_⟩
    rw [index, ← List.countP_eq_length_filter] at fits
    exact fits

theorem submitCapture_placed {output : OutputBufferTarget} {i : Nat} {e : Endpoint}
    (F : Fleet types m.endpoints m.world) (index : m.endpointFor output.streamType = some i)
    (found : m.endpoints[i]? = some e)
    (able : Submittable e.adapter output.bufferFd output.bufferSize)
    (room : 0 < e.adapter.freeQueuedRequestCount) (takes : Takes output e.adapter m.world) :
    ∃ m' a' j slot, m.submitCapture output = (some m.world.generator, m') ∧
      Fleet types m'.endpoints m'.world ∧ m'.world.generator = m.world.generator + 1 ∧
      m'.endpoints = m.endpoints.set i { e with adapter := a' } ∧
      e.adapter.queuedRequests[j]? = some slot ∧ slot.queued = false ∧
      a'.queuedRequests = e.adapter.queuedRequests.set j
        (boundSlot m.world.generator output.bufferFd output.bufferSize) ∧
      a'.freeQueuedRequestCount + 1 = e.adapter.freeQueuedRequestCount ∧
      ∀ fd size, Submittable e.adapter fd size → Submittable a' fd size := by
  have member := List.mem_of_getElem? found
  rcases queued : queueCaptureBuffer output.bufferFd output.acquireFenceFd output.bufferSize
    e.adapter m.world with ⟨answer, a', w'⟩
  have token := queueCaptureBuffer_takes able room takes
  rw [queued, F.counter_eq member] at token
  simp only at token
  subst token
  obtain ⟨-, grows, j, slot, at_j, vacant, shape⟩ := queueCaptureBuffer_queued queued
  have attempted := queueCaptureBuffer_attempted queued
  have generator : w'.generator = m.world.generator + 1 := by
    rw [grows, issuedWorld]
    simp [F.generator e member]
  have advance := (queueCaptureBuffer_advance (F.sound member) queued).1
  obtain ⟨fleet, -⟩ := F.call found advance
  rcases submitted : m.submitCapture output with ⟨answer, m'⟩
  rcases forward_cases m (m.endpointFor output.streamType)
    "no V4L2 endpoint for requested stream type" (fun a w => a.submitCapture output w) with
    missing | ⟨i', e', index', found', first, endpoints, world⟩
  · have forwarded : (m.forward (m.endpointFor output.streamType)
        "no V4L2 endpoint for requested stream type" fun a w => a.submitCapture output w).1 =
        (e.adapter.submitCapture output m.world).1 := by
      simp only [MultiDriver.forward, index, found, Option.bind_some, Option.map_some,
        V4L2Adapter.submitCapture, queued, MultiDriver.callEndpoint]
    rw [missing] at forwarded
    simp only [V4L2Adapter.submitCapture, queued] at forwarded
    cases forwarded
  · obtain rfl := Option.some.inj (index.symm.trans index')
    obtain rfl := Option.some.inj (found.symm.trans found')
    have called : e.adapter.submitCapture output m.world =
        (some m.world.generator, a', w') := queued
    have same : m.submitCapture output = m.forward (m.endpointFor output.streamType)
        "no V4L2 endpoint for requested stream type" fun a w => a.submitCapture output w := rfl
    rw [called] at first endpoints world
    rw [← same, submitted] at first endpoints world
    simp only at first endpoints world
    refine ⟨m', a', j, slot, by rw [first], ?_, by rw [world, generator], endpoints, at_j, vacant,
      by rw [shape], queueCaptureBuffer_room queued, ?_⟩
    · rw [endpoints, world]
      exact fleet
    · rintro fd size ⟨streaming, opened, valid, fits⟩
      refine ⟨attempted.streaming.trans streaming, ?_, valid, ?_⟩
      · rw [attempted.fd]
        exact opened
      · rw [attempted.bufferSize]
        exact fits

theorem slotAt_set {i j : Nat} {e : Endpoint} {a' : V4L2Adapter} {slot written : V4L2QueuedRequest}
    (found : m.endpoints[i]? = some e) (at_j : e.adapter.queuedRequests[j]? = some slot)
    (endpoints : m'.endpoints = m.endpoints.set i { e with adapter := a' })
    (slots : a'.queuedRequests = e.adapter.queuedRequests.set j written) :
    slotAt m' i j = some written ∧
      ∀ i' j', (i, j) ≠ (i', j') → slotAt m' i' j' = slotAt m i' j' := by
  obtain ⟨inside, -⟩ := List.getElem?_eq_some_iff.mp found
  obtain ⟨within, -⟩ := List.getElem?_eq_some_iff.mp at_j
  have here : m'.endpoints[i]? = some { e with adapter := a' } := by
    rw [endpoints]
    exact List.getElem?_set_self inside
  constructor
  · rw [slotAt, here]
    simp only [Option.bind_some, slots]
    exact List.getElem?_set_self within
  · intro i' j' other
    by_cases same : i' = i
    · subst same
      have apart : j ≠ j' := by
        intro equal
        exact other (by rw [equal])
      rw [slotAt, slotAt, here, found]
      simp only [Option.bind_some, slots]
      exact List.getElem?_set_ne apart
    · rw [slotAt, slotAt, endpoints, List.getElem?_set_ne (Ne.symm same)]

theorem Room.rest {output : OutputBufferTarget} {rest : List OutputBufferTarget} {i : Nat}
    {e : Endpoint} {a' : V4L2Adapter} (R : Room (output :: rest) m)
    (index : m.endpointFor output.streamType = some i) (found : m.endpoints[i]? = some e)
    (endpoints : m'.endpoints = m.endpoints.set i { e with adapter := a' })
    (routes : ∀ streamType, m'.endpointFor streamType = m.endpointFor streamType)
    (one_less : a'.freeQueuedRequestCount + 1 = e.adapter.freeQueuedRequestCount)
    (still : ∀ fd size, Submittable e.adapter fd size → Submittable a' fd size) : Room rest m' := by
  obtain ⟨inside, -⟩ := List.getElem?_eq_some_iff.mp found
  intro o member
  obtain ⟨i', e', index', found', able, fits⟩ := R o (List.mem_cons_of_mem output member)
  simp only [routes]
  by_cases same : i' = i
  · subst same
    obtain rfl := Option.some.inj (found.symm.trans found')
    refine ⟨i', { e with adapter := a' }, index', ?_, still _ _ able, ?_⟩
    · rw [endpoints]
      exact List.getElem?_set_self inside
    · rw [List.countP_cons_of_pos (by simp [index])] at fits
      simp only
      omega
  · refine ⟨i', e', index', ?_, able, ?_⟩
    · rw [endpoints, List.getElem?_set_ne (Ne.symm same)]
      exact found'
    · apply Nat.le_trans _ fits
      exact List.Sublist.countP_le (List.sublist_cons_self output rest)

theorem submitAll_placed {order : List OutputBufferTarget} :
    ∀ m : MultiDriver, Fleet types m.endpoints m.world → Room order m → CallsSucceed order m →
      ∃ placements : List Placement, placements.map Placement.output = order ∧
        (submitAll order m).1 = placements.map (fun p => some p.token) ∧
        placements.map Placement.token = List.range' m.world.generator order.length ∧
        Placed placements m (submitAll order m).2 := by
  induction order with
  | nil =>
    intro m F R succeed
    refine ⟨[], rfl, rfl, rfl, ?_⟩
    constructor <;> simp [submitAll]
  | cons output rest ih =>
    intro m F R succeed
    obtain ⟨i, e, index, found, able, fits⟩ := R output List.mem_cons_self
    have room : 0 < e.adapter.freeQueuedRequestCount := by
      rw [List.countP_cons_of_pos (by simp [index])] at fits
      omega
    obtain ⟨m', a', j, slot, submitted, fleet, generator, endpoints, at_j, vacant, slots, one_less,
      still⟩ := submitCapture_placed F index found able room (succeed.1 i index e found)
    have routes : ∀ streamType, m'.endpointFor streamType = m.endpointFor streamType := by
      intro streamType
      rw [fleet.endpointFor_eq, F.endpointFor_eq]
    have later : CallsSucceed rest m' := by
      have next := succeed.2
      rw [submitted] at next
      exact next
    obtain ⟨placements, outputs, answers, tokens, P⟩ :=
      ih m' fleet (R.rest index found endpoints routes one_less still) later
    obtain ⟨written, others⟩ := slotAt_set found at_j endpoints slots
    -- The first place holds a buffer from now on, so no later output takes it.
    have apart : ∀ p ∈ placements, (i, j) ≠ (p.endpoint, p.slot) := by
      intro p member same
      obtain ⟨i_eq, j_eq⟩ := Prod.mk.inj same
      obtain ⟨before, at_p, free⟩ := P.free p member
      rw [← i_eq, ← j_eq, written] at at_p
      obtain rfl := Option.some.inj at_p
      cases free
    have result : submitAll (output :: rest) m =
        (some m.world.generator :: (submitAll rest m').1, (submitAll rest m').2) := by
      simp only [submitAll, submitted]
    refine ⟨⟨output, m.world.generator, i, j⟩ :: placements, ?_, ?_, ?_, ?_⟩
    · rw [List.map_cons, outputs]
    · rw [result, answers, List.map_cons]
    · rw [List.map_cons, tokens, generator, List.length_cons, List.range'_succ]
    · rw [result]
      constructor
      · intro p member
        rcases List.mem_cons.mp member with rfl | old
        · exact index
        · rw [← routes]
          exact P.chosen p old
      · intro p member
        rcases List.mem_cons.mp member with rfl | old
        · refine ⟨slot, ?_, vacant⟩
          rw [slotAt, found]
          exact at_j
        · obtain ⟨before, at_p, free⟩ := P.free p old
          rw [others _ _ (apart p old)] at at_p
          exact ⟨before, at_p, free⟩
      · intro p member
        rcases List.mem_cons.mp member with rfl | old
        · have kept := P.others i j (fun p member same => apart p member same.symm)
          exact kept.trans written
        · exact P.taken p old
      · rw [List.map_cons, List.nodup_cons]
        refine ⟨?_, P.apart⟩
        intro listed
        obtain ⟨p, member, same⟩ := List.mem_map.mp listed
        exact apart p member same.symm
      · intro i' j' elsewhere
        have kept := P.others i' j' (fun p member => elsewhere p (List.mem_cons_of_mem _ member))
        exact kept.trans (others i' j' (elsewhere _ List.mem_cons_self))

end Submissions

section Reachable

variable {m : MultiDriver} {types : List StreamType}

theorem call_keeps (F : Fleet types m.endpoints m.world) (call : Call) :
    Fleet types (call.run m).endpoints (call.run m).world ∧
      m.world.generator ≤ (call.run m).world.generator := by
  have follows : (tokenLog types).Follows m (call.run m) := by
    cases call with
    | configureStream => exact (ledger types).configures m F
    | startStreaming => exact (ledger types).starts m F
    | startContinuousStream stream buffers =>
      exact ((ledger types).streams m stream buffers _ _ F rfl).1
    | stopStreaming => exact (ledger types).stops m F
    | close => exact (ledger types).closes m F
    | submitCapture output => exact ((ledger types).submits m output _ _ F rfl).1
    | dequeueCompletion readyFd => exact ((ledger types).dequeues m readyFd F).1
    | returnStreamBuffer lease => exact ((ledger types).returns m lease _ _ F rfl).1
  exact ⟨follows.sound, follows.next⟩

/-- From any reachable state, outputs that pass the preflight can be submitted in any order:
each gets a token of its own and one free slot of the endpoint for its stream type. -/
theorem preflight_sound (endpoints : List V4L2StreamEndpointConfig) (answers : Answers)
    (run : Reaches step always (MultiDriver.create endpoints answers) m)
    {outputs order : List OutputBufferTarget}
    (accepted : m.canSubmitCaptureOutputs outputs = true) (same : order.Perm outputs)
    (succeed : CallsSucceed order m) :
    ∃ placements : List Placement, placements.map Placement.output = order ∧
      (submitAll order m).1 = placements.map (fun p => some p.token) ∧
      (placements.map Placement.token).Nodup ∧ (∀ p ∈ placements, p.token ≠ 0) ∧
      Placed placements m (submitAll order m).2 := by
  have invariant : Fleet (endpoints.map (·.streamType)) m.endpoints m.world ∧
      0 < m.world.generator := by
    refine Reaches.invariant (fun m => Fleet (endpoints.map (·.streamType)) m.endpoints m.world ∧
      0 < m.world.generator) ?_ run ⟨create_fleet endpoints answers, Nat.one_pos⟩
    rintro m call m' ⟨F, positive⟩ - taken
    cases taken
    obtain ⟨fleet, grows⟩ := call_keeps F call
    exact ⟨fleet, Nat.lt_of_lt_of_le positive grows⟩
  obtain ⟨F, positive⟩ := invariant
  have room : Room order m := (room_of_preflight accepted).reorder same
  obtain ⟨placements, listed, given, tokens, placed⟩ := submitAll_placed m F room succeed
  refine ⟨placements, listed, given, ?_, ?_, placed⟩
  · rw [tokens]
    exact List.nodup_range'
  · intro p member zero
    have token : p.token ∈ placements.map Placement.token := List.mem_map_of_mem member
    rw [tokens, zero] at token
    obtain ⟨k, -, value⟩ := List.mem_range'.mp token
    omega

/-- Three endpoints, two of them for stills; the second of these is never chosen. -/
private def threeEndpoints : List V4L2StreamEndpointConfig :=
  [{ streamType := .still }, { streamType := .preview }, { streamType := .still }]

private def output (streamType : StreamType) (bufferFd : Int) : OutputBufferTarget :=
  { streamType := streamType, bufferFd := bufferFd, bufferSize := 100, acquireFenceFd := 30 }

theorem preflight_sound_mixed :
    ∃ m : MultiDriver, ∃ placements : List Placement,
      placements.map Placement.output =
        [output .still 23, output .preview 22, output .still 21] ∧
      (submitAll [output .still 23, output .preview 22, output .still 21] m).1 =
        placements.map (fun p => some p.token) ∧
      (placements.map Placement.token).Nodup ∧ (∀ p ∈ placements, p.token ≠ 0) ∧
      Placed placements m
        (submitAll [output .still 23, output .preview 22, output .still 21] m).2 := by
  obtain ⟨m, run, passed⟩ := exists_reaches_of_replay step always
    (MultiDriver.create threeEndpoints willing)
    [.configureStream, .startStreaming, .submitCapture (output .still 20)]
    (fun m => decide (m.canSubmitCaptureOutputs
        [output .still 21, output .preview 22, output .still 23] = true ∧
      CallsSucceed [output .still 23, output .preview 22, output .still 21] m))
    (by decide +kernel)
  obtain ⟨accepted, succeed⟩ := of_decide_eq_true passed
  exact ⟨m, preflight_sound threeEndpoints willing run accepted (by decide) succeed⟩

end Reachable

end MiniCam.V4L2.Preflight
