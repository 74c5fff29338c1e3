/- Module: MiniCam/V4L2/Attribution
   source: hal/v4l2_driver_adapter.cpp, hal/camera_device_session.cpp,
     hal/in_flight_request_tracker.cpp
   digest: Every frame that a session reports was dequeued for the output it is
     reported for. -/

import MiniCam.Hal.Provenance
import MiniCam.Hal.ResultIdentity
import MiniCam.V4L2.MultiStream
import MiniCam.V4L2.SlotMirror

set_option autoImplicit false
set_option relaxedAutoImplicit false

namespace MiniCam.V4L2.Attribution

open MiniCam.Foundation.Runs (Reaches exists_reaches_of_replay)
open MiniCam.Hal.Interface
open MiniCam.Hal.CameraDeviceSession (CameraDeviceSessionConfig requestOutputsFor)
open MiniCam.Hal.SessionSystem
open MiniCam.Hal.Provenance
open MiniCam.Hal.ResultIdentity (Once Named reachable_once reachable_named)
open MiniCam.V4L2.VideoNodes
open MiniCam.V4L2.DriverAdapter
open MiniCam.V4L2.KernelHistory
open MiniCam.V4L2.MultiStream
open MiniCam.V4L2.SlotMirror

section Fleets

/-- The adapters of a driver with the given stream types, each on its own node, all
behind one token generator. -/
structure Fleet (types : List StreamType) (endpoints : List Endpoint) (w : World) : Prop where
  layout : endpoints.map (fun e => (e.streamType, e.adapter.node)) = types.zipIdx
  generator : ∀ e ∈ endpoints, e.adapter.tokenGenerator = true
  recorded : Recorded w.kernel w.generator
  mirrors : ∀ e ∈ endpoints, Mirror e.adapter w.kernel

structure Later (w w' : World) : Prop where
  generator : w.generator ≤ w'.generator
  history : w.kernel.history <+: w'.kernel.history

variable {types : List StreamType} {endpoints : List Endpoint} {w w' : World}

theorem Later.refl (w : World) : Later w w := ⟨Nat.le_refl _, List.prefix_refl _⟩

theorem Later.trans {w'' : World} (first : Later w w') (second : Later w' w'') : Later w w'' :=
  ⟨Nat.le_trans first.generator second.generator, first.history.trans second.history⟩

theorem Fleet.node_eq (F : Fleet types endpoints w) {i : Nat} {e : Endpoint}
    (found : endpoints[i]? = some e) :
    e.adapter.node = i ∧ types[i]? = some e.streamType := by
  have entry := congrArg (·[i]?) F.layout
  simp only [List.getElem?_map, found, Option.map_some, List.getElem?_zipIdx] at entry
  cases at_i : types[i]? with
  | none => simp [at_i] at entry
  | some streamType =>
    simp only [at_i, Option.map_some, Option.some.injEq, Prod.mk.injEq, Nat.zero_add] at entry
    exact ⟨entry.2, by rw [entry.1]⟩

theorem Fleet.counter_eq (F : Fleet types endpoints w) {e : Endpoint} (member : e ∈ endpoints)
    (w' : World) : counter e.adapter w' = w'.generator := by
  simp [counter, F.generator e member]

theorem Fleet.sound (F : Fleet types endpoints w) {e : Endpoint} (member : e ∈ endpoints) :
    Sound e.adapter w :=
  ⟨F.counter_eq member w ▸ F.recorded, F.mirrors e member⟩

theorem Fleet.call (F : Fleet types endpoints w) {i : Nat} {e : Endpoint} {a : V4L2Adapter}
    (found : endpoints[i]? = some e) (advance : Advance e.adapter w a w') :
    Fleet types (endpoints.set i { e with adapter := a }) w' ∧ Later w w' := by
  have member := List.mem_of_getElem? found
  have generator : a.tokenGenerator = true := advance.tokenGenerator.trans (F.generator e member)
  have now : counter a w' = w'.generator := by simp [counter, generator]
  have inside := (List.getElem?_eq_some_iff.mp found).1
  have entries : ∀ (j : Nat) (e' : Endpoint),
      (endpoints.set i { e with adapter := a })[j]? = some e' →
        (j = i ∧ e' = { e with adapter := a }) ∨ (j ≠ i ∧ endpoints[j]? = some e') := by
    intro j e' at_j
    by_cases same : j = i
    · subst j
      rw [List.getElem?_set_self inside] at at_j
      exact Or.inl ⟨rfl, (Option.some.inj at_j).symm⟩
    · rw [List.getElem?_set_ne (Ne.symm same)] at at_j
      exact Or.inr ⟨same, at_j⟩
  refine ⟨⟨?_, fun e' listed => ?_, now ▸ advance.sound.recorded, fun e' listed => ?_⟩, ?_,
    advance.history⟩
  · rw [← F.layout]
    apply List.ext_getElem?
    intro j
    rw [List.getElem?_map, List.getElem?_map]
    by_cases same : j = i
    · subst j
      rw [List.getElem?_set_self inside, found]
      simp only [Option.map_some, advance.node]
    · rw [List.getElem?_set_ne (Ne.symm same)]
  · obtain ⟨j, at_j⟩ := List.getElem?_of_mem listed
    rcases entries j e' at_j with ⟨-, rfl⟩ | ⟨-, old⟩
    · exact generator
    · exact F.generator e' (List.mem_of_getElem? old)
  · obtain ⟨j, at_j⟩ := List.getElem?_of_mem listed
    rcases entries j e' at_j with ⟨-, rfl⟩ | ⟨other, old⟩
    · exact advance.sound.mirror
    · have apart : e'.adapter.node ≠ e.adapter.node := by
        rw [(F.node_eq old).1, (F.node_eq found).1]
        exact other
      intro n slot at_n occupied
      rw [advance.others _ apart]
      exact F.mirrors e' (List.mem_of_getElem? old) n slot at_n occupied
  · have grows := advance.counter
    rwa [F.counter_eq member, now] at grows

theorem callAll_fleet (call : V4L2Adapter → World → V4L2Adapter × World)
    (spec : ∀ a w, Sound a w → Advance a w (call a w).1 (call a w).2)
    (before : List Endpoint) (F : Fleet types (before ++ endpoints) w) :
    Fleet types (before ++ (MultiDriver.callAll call endpoints w).1)
        (MultiDriver.callAll call endpoints w).2 ∧
      Later w (MultiDriver.callAll call endpoints w).2 := by
  induction endpoints generalizing before w with
  | nil => exact ⟨F, Later.refl w⟩
  | cons e rest ih =>
    have found : (before ++ e :: rest)[before.length]? = some e := by simp
    obtain ⟨first, grows⟩ := F.call found (spec e.adapter w (F.sound (List.mem_of_getElem? found)))
    simp only [List.set_append_right _ _ (Nat.le_refl _), Nat.sub_self, List.set_cons_zero] at first
    rw [List.append_cons] at first
    obtain ⟨fleet, later⟩ := ih _ first
    simp only [MultiDriver.callAll]
    rw [List.append_cons]
    exact ⟨fleet, grows.trans later⟩

theorem tryAll_fleet (call : V4L2Adapter → World → Bool × V4L2Adapter × World)
    (spec : ∀ a w, Sound a w → Advance a w (call a w).2.1 (call a w).2.2)
    (before : List Endpoint) (F : Fleet types (before ++ endpoints) w) :
    Fleet types (before ++ (MultiDriver.tryAll call endpoints w).2.1)
        (MultiDriver.tryAll call endpoints w).2.2 ∧
      Later w (MultiDriver.tryAll call endpoints w).2.2 := by
  induction endpoints generalizing before w with
  | nil => exact ⟨F, Later.refl w⟩
  | cons e rest ih =>
    have found : (before ++ e :: rest)[before.length]? = some e := by simp
    obtain ⟨first, grows⟩ := F.call found (spec e.adapter w (F.sound (List.mem_of_getElem? found)))
    simp only [List.set_append_right _ _ (Nat.le_refl _), Nat.sub_self, List.set_cons_zero] at first
    simp only [MultiDriver.tryAll]
    cases answer : call e.adapter w with
    | mk ok out =>
      rw [answer] at first grows
      cases ok with
      | false => exact ⟨first, grows⟩
      | true =>
        rw [List.append_cons] at first
        obtain ⟨fleet, later⟩ := ih _ first
        simp only
        rw [List.append_cons]
        exact ⟨fleet, grows.trans later⟩

end Fleets

section Ledger

variable (types : List StreamType)

def nodeFor (streamType : StreamType) : Option Nat :=
  types.findIdx? fun candidate => candidate = streamType

def tokenLog : TokenLog MultiDriver where
  sound := fun m => Fleet types m.endpoints m.world
  next := fun m => m.world.generator
  queued := fun m τ streamType fd => ∃ node index, nodeFor types streamType = some node ∧
    Event.qbuf node index fd τ ∈ m.world.kernel.history
  finished := fun m τ => Finished m.world.kernel τ

variable {types} {m m' : MultiDriver}

theorem Later.follows (F : Fleet types m'.endpoints m'.world) (later : Later m.world m'.world) :
    (tokenLog types).Follows m m' where
  sound := F
  next := later.generator
  queued := by
    rintro τ streamType fd ⟨node, index, first, member⟩
    exact ⟨node, index, first, later.history.subset member⟩
  finished := by
    rintro τ ⟨node, index, fd, p, q, matched⟩
    exact ⟨node, index, fd, p, q, matched.mono later.history⟩

theorem Fleet.endpointFor_eq (F : Fleet types m.endpoints m.world) (streamType : StreamType) :
    m.endpointFor streamType = nodeFor types streamType := by
  have same : m.endpoints.map (·.streamType) = types := by
    have first := congrArg (List.map Prod.fst) F.layout
    rw [List.map_map, List.zipIdx_map_fst] at first
    exact first
  rw [nodeFor, ← same, List.findIdx?_map]
  rfl

theorem forward_cases {α : Type} (m : MultiDriver) (index : Option Nat) (missing : String)
    (call : V4L2Adapter → World → Option α × V4L2Adapter × World) :
    m.forward index missing call = (none, m.setError missing) ∨
      ∃ i e, index = some i ∧ m.endpoints[i]? = some e ∧
        (m.forward index missing call).1 = (call e.adapter m.world).1 ∧
        (m.forward index missing call).2.endpoints =
          m.endpoints.set i { e with adapter := (call e.adapter m.world).2.1 } ∧
        (m.forward index missing call).2.world = (call e.adapter m.world).2.2 := by
  simp only [MultiDriver.forward]
  split
  · exact Or.inl rfl
  · rename_i i e found
    obtain ⟨j, rfl, at_j⟩ := Option.bind_eq_some_iff.mp found
    obtain ⟨e', at_e, same⟩ := Option.map_eq_some_iff.mp at_j
    cases same
    refine Or.inr ⟨i, e, rfl, at_e, ?_⟩
    cases answer : call e.adapter m.world with
    | mk r out => cases r <;> exact ⟨rfl, rfl, rfl⟩

theorem forward_follows {α : Type} {streamType : StreamType} {missing : String}
    {call : V4L2Adapter → World → Option α × V4L2Adapter × World} {answer : Option α}
    (spec : ∀ a w, Sound a w → Advance a w (call a w).2.1 (call a w).2.2)
    (F : Fleet types m.endpoints m.world)
    (run : m.forward (m.endpointFor streamType) missing call = (answer, m')) :
    (tokenLog types).Follows m m' ∧ ∀ x, answer = some x →
      ∃ e : Endpoint, Sound e.adapter m.world ∧ (call e.adapter m.world).1 = some x ∧
        ∀ fd τ, Issued e.adapter m.world (call e.adapter m.world).2.1
            (call e.adapter m.world).2.2 fd τ → (tokenLog types).Entry m m' streamType fd τ := by
  rcases forward_cases m (m.endpointFor streamType) missing call with
    none_found | ⟨i, e, index, found, first, endpoints, world⟩
  · rw [run] at none_found
    cases none_found
    exact ⟨(Later.refl m.world).follows F, fun x none_left => by cases none_left⟩
  · rw [run] at first endpoints world
    simp only at first endpoints world
    have member := List.mem_of_getElem? found
    have sound := F.sound member
    have advance := spec _ _ sound
    obtain ⟨fleet, later⟩ := F.call found advance
    rw [← endpoints, ← world] at fleet
    rw [← world] at later
    refine ⟨later.follows fleet, fun x same => ⟨e, sound, by rw [← first, same], ?_⟩⟩
    intro fd τ issued
    have generator : (call e.adapter m.world).2.1.tokenGenerator = true :=
      advance.tokenGenerator.trans (F.generator e member)
    refine ⟨?_, ?_, ?_⟩
    · have lower := issued.lower
      rw [F.counter_eq member] at lower
      exact lower
    · have upper := issued.upper
      simp only [counter, generator, if_true, ← world] at upper
      exact upper
    · obtain ⟨j, event⟩ := issued.queued
      refine ⟨e.adapter.node, j, ?_, world ▸ event⟩
      rw [← F.endpointFor_eq, index, (F.node_eq found).1]

private theorem configureStream_follows (F : Fleet types m.endpoints m.world) :
    (tokenLog types).Follows m m.configureStream.2 := by
  simp only [MultiDriver.configureStream]
  split
  · exact (Later.refl m.world).follows F
  · obtain ⟨fleet, later⟩ := tryAll_fleet V4L2Adapter.configureStream
      (fun a w S => configureStream_advance S rfl) [] F
    split
    · rename_i error endpoints w tried
      rw [tried] at fleet later
      obtain ⟨closed, after⟩ := callAll_fleet V4L2Adapter.close
        (fun a w S => close_advance S) [] fleet
      exact (later.trans after).follows closed
    · rename_i endpoints w tried
      rw [tried] at fleet later
      exact later.follows fleet

private theorem startStreaming_follows (F : Fleet types m.endpoints m.world) :
    (tokenLog types).Follows m m.startStreaming.2 := by
  obtain ⟨fleet, later⟩ := tryAll_fleet
    (fun a w => (a.startStreaming.1, a.startStreaming.2, w))
    (fun a w S => startStreaming_advance S) [] F
  simp only [MultiDriver.startStreaming]
  split <;> rename_i endpoints w tried <;> rw [tried] at fleet later <;> exact later.follows fleet

private theorem dequeueCompletion_follows (readyFd : Int) (F : Fleet types m.endpoints m.world) :
    (tokenLog types).Follows m (m.dequeueCompletion readyFd).2 ∧
      ∀ completion, (m.dequeueCompletion readyFd).1 = some completion →
        Finished (m.dequeueCompletion readyFd).2.world.kernel completion.token := by
  simp only [MultiDriver.dequeueCompletion]
  split
  · exact ⟨(Later.refl m.world).follows F, fun completion none_left => by cases none_left⟩
  · rename_i i e found
    obtain ⟨j, -, at_j⟩ := Option.bind_eq_some_iff.mp found
    obtain ⟨e', at_e, same⟩ := Option.map_eq_some_iff.mp at_j
    cases same
    cases answer : e.adapter.dequeueCompletion readyFd m.world with
    | mk r out =>
      obtain ⟨a, w⟩ := out
      obtain ⟨advance, finished⟩ :=
        dequeueCompletion_advance (F.sound (List.mem_of_getElem? at_e)) answer
      obtain ⟨fleet, later⟩ := F.call at_e advance
      cases r with
      | none =>
        refine ⟨?_, fun completion none_left => by cases none_left⟩
        simp only [MultiDriver.callEndpoint]
        split <;> exact later.follows fleet
      | some completion =>
        exact ⟨later.follows fleet, fun c same => by cases same; exact (finished completion rfl).1⟩

/-- The driver over several nodes issues every token once and reports only tokens
whose buffer came back. -/
def ledger (types : List StreamType) : Ledger multi where
  toTokenLog := tokenLog types
  configures := fun _ F => configureStream_follows F
  starts := fun _ F => startStreaming_follows F
  stops := fun m F => by
    obtain ⟨fleet, later⟩ := callAll_fleet V4L2Adapter.stopStreaming
      (fun a w S => stopStreaming_advance S) [] F
    exact later.follows fleet
  closes := fun m F => by
    obtain ⟨fleet, later⟩ := callAll_fleet V4L2Adapter.close (fun a w S => close_advance S) [] F
    exact later.follows fleet
  preflights := fun m _ F => (Later.refl m.world).follows F
  submits := fun m target answer m' F run => by
    obtain ⟨follows, entry⟩ := forward_follows
      (fun a w S => (queueCaptureBuffer_advance S rfl).1) F run
    refine ⟨follows, fun τ same => ?_⟩
    obtain ⟨e, sound, first, issued⟩ := entry τ same
    exact issued _ τ ((queueCaptureBuffer_advance sound rfl).2 τ first)
  streams := fun m stream buffers answer m' F run => by
    obtain ⟨follows, entry⟩ := forward_follows
      (fun a w S => (startContinuousStream_advance S rfl).1) F run
    refine ⟨follows, fun tokens same => ?_⟩
    obtain ⟨e, sound, first, issued⟩ := entry tokens same
    exact ((startContinuousStream_advance sound rfl).2 tokens first).imp
      fun τ buffer given => issued buffer.bufferFd τ given
  dequeues := fun _ readyFd F => dequeueCompletion_follows readyFd F
  returns := fun m lease answer m' F run => by
    obtain ⟨follows, entry⟩ := forward_follows
      (fun a w S => (returnStreamBuffer_advance S rfl).1) F run
    refine ⟨follows, fun τ same => ?_⟩
    obtain ⟨e, sound, first, issued⟩ := entry τ same
    exact ((returnStreamBuffer_advance sound rfl).2 τ first).imp_right (issued _ τ)

theorem create_fleet (endpoints : List V4L2StreamEndpointConfig) (answers : Answers) :
    Fleet (endpoints.map (·.streamType)) (MultiDriver.create endpoints answers).endpoints
      (MultiDriver.create endpoints answers).world where
  layout := by
    simp only [MultiDriver.create, List.map_map, Function.comp_def, V4L2Adapter.create]
    rw [List.zipIdx_map]
    rfl
  generator := by
    intro e member
    simp only [MultiDriver.create, List.mem_map] at member
    obtain ⟨⟨config, node⟩, -, rfl⟩ := member
    rfl
  recorded := by
    constructor <;> simp [MultiDriver.create, Kernel.boot]
  mirrors := by
    intro e member
    simp only [MultiDriver.create, List.mem_map] at member
    obtain ⟨⟨config, node⟩, -, rfl⟩ := member
    intro j slot found
    simp [V4L2Adapter.create] at found

end Ledger

section EndToEnd

variable {π : Type}

/-- The DQBUF at position `q` gave back the buffer of the submission that the entry
reports: the one under the token bound to this use and output index, queued with the
descriptor of that output, for a request on the endpoint of the output's stream type. -/
def CameFrom (types : List StreamType) (m : MultiDriver) (s : System MultiDriver π) (use : Use)
    (entry : CompletedOutputBuffer) (q : Nat) : Prop :=
  ∃ τ target node index p,
    s.boundFor τ = some { use := use, outputIndex := entry.outputIndex, target := target } ∧
    entry.streamId = target.streamId ∧ entry.bufferId = target.bufferId ∧
    Matched m.world.kernel.history node { index := index, fd := target.bufferFd, token := τ } p q ∧
    ∀ n, use = .capture n → nodeFor types target.streamType = some node ∧
      ∃ request, s.accepted[n]? = some request ∧
        ∃ k : Nat, entry.outputIndex = (k : Int) ∧ (requestOutputsFor request)[k]? = some target

structure FramesAttributed (types : List StreamType) (m : MultiDriver) (s : System MultiDriver π) :
    Prop where
  /-- A reported output has its DQBUF. -/
  reported : ∀ (k i : Nat) (use : Use) (result : CaptureResult) (entry : CompletedOutputBuffer),
    s.dispatched[k]? = some (use, result) → result.completedOutputBuffers[i]? = some entry →
      entry.status = .ok → ∃ q, CameFrom types m s use entry q
  /-- No DQBUF stands behind two reported outputs. -/
  separate : ∀ (k k' i i' : Nat) (use use' : Use) (result result' : CaptureResult)
    (entry entry' : CompletedOutputBuffer) (q : Nat),
    s.dispatched[k]? = some (use, result) → result.completedOutputBuffers[i]? = some entry →
      entry.status = .ok → s.dispatched[k']? = some (use', result') →
      result'.completedOutputBuffers[i']? = some entry' → entry'.status = .ok →
      CameFrom types m s use entry q → CameFrom types m s use' entry' q → k = k' ∧ i = i'
  /-- A result carries the frame number of what it is for. -/
  frames : ∀ use result, (use, result) ∈ s.dispatched →
    (∀ n, use = .capture n → ∃ request, s.accepted[n]? = some request ∧
      request.frameNumber = result.frameNumber) ∧
    ∀ f, use = .preview f → result.frameNumber = f
  /-- A completion is credited to the use and output index its token was bound for. -/
  credited : ∀ credit ∈ s.credits, ∃ b node index fd p q,
    s.boundFor credit.token = some b ∧ b.use = credit.use ∧ b.outputIndex = credit.outputIndex ∧
      Matched m.world.kernel.history node { index := index, fd := fd, token := credit.token } p q

private theorem matched_submission {types : List StreamType} {m : MultiDriver}
    (F : Fleet types m.endpoints m.world) {τ : DriverToken} {b : Binding}
    (submission : Submission (ledger types) m τ b) (finished : Finished m.world.kernel τ) :
    ∃ node index p q,
      Matched m.world.kernel.history node { index := index, fd := b.target.bufferFd, token := τ }
        p q ∧
      ∀ n, b.use = .capture n → nodeFor types b.target.streamType = some node := by
  obtain ⟨streamType, ⟨node, index, first, event⟩, capture⟩ := submission
  obtain ⟨node', index', fd, p, q, matched⟩ := finished
  obtain ⟨p', at_p'⟩ := List.getElem?_of_mem event
  obtain rfl := F.recorded.unique _ _ _ _ _ _ _ _ _ matched.queued at_p'
  have same := matched.queued.symm.trans at_p'
  simp only [Option.some.injEq, Event.qbuf.injEq] at same
  obtain ⟨rfl, rfl, rfl, -⟩ := same
  refine ⟨node', index', p, q, matched, fun n use => ?_⟩
  rw [← capture n use]
  exact first

/-- Every state of every run of a session over any endpoints and any answers of the
nodes: reported outputs have a DQBUF of their own submission, and of no other. -/
theorem frames_attributed (endpoints : List V4L2StreamEndpointConfig) (answers : Answers)
    (processors : List (Option (OutputProcessor π))) (callbacks : Callbacks)
    (config : CameraDeviceSessionConfig) (p : π) (s : System MultiDriver π)
    (run : Reaches (step multi processors callbacks) LeaseKept
      (System.initial config (some (MultiDriver.create endpoints answers)) p) s) :
    ∃ m, s.session.driver = some m ∧
      FramesAttributed (endpoints.map (·.streamType)) m s := by
  have sound : (ledger (endpoints.map (·.streamType))).sound
      (MultiDriver.create endpoints answers) :=
    create_fleet endpoints answers
  obtain ⟨m, A⟩ := reachable_attributed sound run
  have O : Once s := reachable_once run
  have N : Named s := reachable_named run
  refine ⟨m, A.driver, ?_, ?_, ?_, ?_⟩
  · intro k i use result entry at_k at_i ok
    obtain ⟨target, stream, buffer, τ, bound, finished⟩ :=
      (A.dispatched _ (List.mem_of_getElem? at_k)).earned entry (List.mem_of_getElem? at_i) ok
    obtain ⟨node, index, p, q, matched, capture⟩ :=
      matched_submission A.sound (A.bound τ _ bound).2 finished
    refine ⟨q, τ, target, node, index, p, bound, stream, buffer, matched, fun n same => ?_⟩
    exact ⟨capture n same, N.bindings τ _ n bound same⟩
  · intro k k' i i' use use' result result' entry entry' q at_k at_i ok at_k' at_i' ok' from_q
      from_q'
    obtain ⟨τ, target, node, index, p, bound, -, -, matched, -⟩ := from_q
    obtain ⟨τ', target', node', index', p', bound', -, -, matched', -⟩ := from_q'
    obtain rfl := matched.queueing_unique matched'
    have event := matched.queued.symm.trans matched'.queued
    simp only [Option.some.injEq, Event.qbuf.injEq] at event
    obtain ⟨-, -, -, rfl⟩ := event
    have binding := bound.symm.trans bound'
    simp only [Option.some.injEq, Binding.mk.injEq] at binding
    obtain ⟨rfl, index, -⟩ := binding
    have inside := (List.getElem?_eq_some_iff.mp at_k).1
    have uses : (s.dispatched.map Prod.fst)[k]? = (s.dispatched.map Prod.fst)[k']? := by
      simp only [List.getElem?_map, at_k, at_k', Option.map_some]
    obtain rfl : k = k' := (List.getElem?_inj (by simpa using inside) O.uses).mp uses
    obtain rfl : result = result' := (Prod.mk.inj (Option.some.inj (at_k.symm.trans at_k'))).2
    exact ⟨rfl, (A.dispatched _ (List.mem_of_getElem? at_k)).apart i i' entry entry' at_i at_i' ok
      ok' index⟩
  · intro use result member
    refine ⟨fun n capture => ?_, N.dispatched _ member⟩
    subst capture
    obtain ⟨request, found, frame⟩ := O.accepted (n, result.frameNumber)
      (List.mem_append_right _ (List.mem_filterMap.mpr ⟨_, member, rfl⟩))
    exact ⟨request, found, frame⟩
  · intro credit member
    obtain ⟨b, bound, use, index, finished⟩ := A.credits credit member
    obtain ⟨node, slot, fd, p, q, matched⟩ := finished
    exact ⟨b, node, slot, fd, p, q, bound, use, index, matched⟩

instance leaseKeptDecidable (s : System MultiDriver Unit) (a : Label) :
    Decidable (LeaseKept s a) :=
  match a with
  | .streamCallback k lease =>
    match at_k : s.callbacks[k]? with
    | none => .isTrue (by simp [LeaseKept, at_k])
    | some handler =>
      decidable_of_iff (lease.bufferFd = handler.lease.bufferFd ∧
        lease.bufferSize = handler.lease.bufferSize ∧
        lease.streamType = handler.lease.streamType) (by simp [LeaseKept, at_k])
  | .configureStreams _ | .startStreaming | .processRequest _ | .post _ _ | .runTask _ _
  | .dequeue _
  | .process _ _ | .dispatch _ | .returnStream _ | .flush _ | .close _ => .isTrue trivial

def willing : Answers :=
  { configure := fun n => .granted (10 + n) 100 4
    submission := fun _ => {}
    dequeue := fun _ => .buffer 0 100 5
    streamOff := fun _ => true }

def twoEndpoints : List V4L2StreamEndpointConfig :=
  [{ streamType := .preview }, { streamType := .still }]

def previewConfig : CameraDeviceSessionConfig :=
  { continuousPreviewConfig := some { streamType := .preview }
    continuousPreviewBuffers :=
      [{ streamType := .preview, bufferId := 0, bufferFd := 20, bufferSize := 100 }] }

/-- A still capture and a preview frame, each dequeued on its own node; the preview
buffer is returned, and a second request reuses the frame number. -/
def captureScript : List Label :=
  [.configureStreams true, .startStreaming,
   .processRequest { frameNumber := 7, outputBuffers :=
     [{ bufferId := 1, bufferFd := 30, bufferSize := 100 }] },
   .processRequest { frameNumber := 7, outputBuffers :=
     [{ bufferId := 2, bufferFd := 31, bufferSize := 100 }] },
   .post 0 true, .post 0 true, .runTask 0 3, .dequeue 11, .process 0 4, .dispatch 0, .dequeue 10,
   .process 0 5,
   .streamCallback 0 { streamType := .preview, bufferId := 0, bufferFd := 20, bufferSize := 100 },
   .returnStream 0, .runTask 0 6, .dequeue 11, .process 0 7, .dispatch 0]

theorem frames_attributed_reused_frame :
    ∃ (s : System MultiDriver Unit) (m : MultiDriver),
      Reaches (step multi [] ⟨true, true⟩) LeaseKept
        (System.initial previewConfig (some (MultiDriver.create twoEndpoints willing)) ()) s ∧
      s.session.driver = some m ∧
      s.dispatched.map (fun entry => (entry.1, entry.2.status)) =
        [(.capture 0, .ok), (.preview 1000000000000, .ok), (.capture 1, .ok)] ∧
      FramesAttributed [.preview, .still] m s := by
  obtain ⟨s, run, passed⟩ := exists_reaches_of_replay (step multi [] ⟨true, true⟩) LeaseKept
    (System.initial previewConfig (some (MultiDriver.create twoEndpoints willing)) ())
    captureScript
    (fun s => s.dispatched.map (fun entry => (entry.1, entry.2.status)) ==
      [(.capture 0, .ok), (.preview 1000000000000, .ok), (.capture 1, .ok)])
    (by decide +kernel)
  obtain ⟨m, driver, attributed⟩ := frames_attributed twoEndpoints willing [] ⟨true, true⟩
    previewConfig () s run
  exact ⟨s, m, run, driver, by simpa using passed, attributed⟩

end EndToEnd

end MiniCam.V4L2.Attribution
