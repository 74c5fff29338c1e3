/- Module: MiniCam/Hal/TrackerHistory
   source: hal/in_flight_request_tracker.h, hal/in_flight_request_tracker.cpp
   digest: The calls made on a tracker, and what they say about its rows. -/

import MiniCam.Foundation.Histories
import MiniCam.Hal.TrackerInvariant

set_option autoImplicit false
set_option relaxedAutoImplicit false

namespace MiniCam.Hal.TrackerHistory

open MiniCam.Foundation.Histories
open MiniCam.Foundation.KeyedTable
open MiniCam.Hal.Interface
open MiniCam.Hal.InFlightRequestTracker
open MiniCam.Hal.TrackerInvariant (markedRow completeOutput_spec)

inductive Op where
  | start (request : CaptureRequest) (outputBuffers : List InFlightOutput)
  | markQueuedToDriver (frameNumber : Nat)
  | complete (frameNumber : Nat) (metadata : CaptureMetadata)
  | completeOutput (frameNumber : Nat) (outputIndex releaseFenceFd : Int)
      (metadata : CaptureMetadata)
  | registerStreamingOutput (output : InFlightStreamingOutput)
  | bindDriverOutput (token : DriverToken) (context : DriverOutputContext)
  | takeDriverOutputContext (token : DriverToken)
  | clearDriverOutputsForFrame (frameNumber : Nat)
  | clearStreamingOutputs
  | fail (frameNumber : Nat)
  | flushAll
  deriving DecidableEq

inductive Answer where
  | done
  | flag (accepted : Bool)
  | row (request : Option InFlightRequest)
  | completion (state : OutputCompletion)
  | resolved (output : Option ResolvedDriverOutput)
  | rows (requests : List InFlightRequest)
  deriving DecidableEq

abbrev Event : Type := Op × Answer

def run (t : Tracker) : Op → Answer × Tracker
  | .start request outputBuffers =>
    (.flag (t.start request outputBuffers).1, (t.start request outputBuffers).2)
  | .markQueuedToDriver frameNumber =>
    (.flag (t.markQueuedToDriver frameNumber).1, (t.markQueuedToDriver frameNumber).2)
  | .complete frameNumber metadata =>
    (.row (t.complete frameNumber metadata).1, (t.complete frameNumber metadata).2)
  | .completeOutput frameNumber outputIndex releaseFenceFd metadata =>
    (.completion (t.completeOutput frameNumber outputIndex releaseFenceFd metadata).1,
      (t.completeOutput frameNumber outputIndex releaseFenceFd metadata).2)
  | .registerStreamingOutput output =>
    (.flag (t.registerStreamingOutput output).1, (t.registerStreamingOutput output).2)
  | .bindDriverOutput token context =>
    (.flag (t.bindDriverOutput token context).1, (t.bindDriverOutput token context).2)
  | .takeDriverOutputContext token =>
    (.resolved (t.takeDriverOutputContext token).1, (t.takeDriverOutputContext token).2)
  | .clearDriverOutputsForFrame frameNumber => (.done, t.clearDriverOutputsForFrame frameNumber)
  | .clearStreamingOutputs => (.done, t.clearStreamingOutputs)
  | .fail frameNumber => (.row (t.fail frameNumber).1, (t.fail frameNumber).2)
  | .flushAll => (.rows t.flushAll.1, t.flushAll.2)

/-- The events after which a frame has no row. -/
def Removes (frameNumber : Nat) (event : Event) : Prop :=
  match event.1 with
  | .complete frame _ => frame = frameNumber
  | .completeOutput frame _ _ _ =>
    frame = frameNumber ∧ ∃ request, event.2 = .completion (.requestComplete request)
  | .fail frame => frame = frameNumber
  | .flushAll => True
  | _ => False

def callFor (frameNumber : Nat) (event : Event) : Option (Int × Int) :=
  match event.1 with
  | .completeOutput frame outputIndex releaseFenceFd _ =>
    if frame = frameNumber then some (outputIndex, releaseFenceFd) else none
  | _ => none

/-- The frame was started with these outputs, has not been removed since, and these are the
completions that have named it since. -/
def Opened (frameNumber : Nat) (request : CaptureRequest) (outputs : List InFlightOutput)
    (calls : List (Int × Int)) (events : List Event) : Prop :=
  ∃ earlier later, events = earlier ++ (.start request outputs, .flag true) :: later ∧
    request.frameNumber = frameNumber ∧ (∀ event ∈ later, ¬ Removes frameNumber event) ∧
    calls = later.filterMap (callFor frameNumber)

def markedBy (calls : List (Int × Int)) (output : InFlightOutput) : InFlightOutput :=
  calls.foldl (fun output call => Tracker.markOutput call.1 call.2 output) output

structure RowOf (request : CaptureRequest) (outputs : List InFlightOutput)
    (calls : List (Int × Int)) (row : InFlightRequest) : Prop where
  frame : row.frameNumber = request.frameNumber
  asked : row.request = request
  buffers : row.outputBuffers = outputs.map (markedBy calls)
  metadata : row.metadata = {}
  submitted : row.submittedAt = request.submittedAt

theorem opened_snoc {frameNumber : Nat} {request : CaptureRequest}
    {outputs : List InFlightOutput} {calls : List (Int × Int)} {events : List Event}
    {event : Event} : Opened frameNumber request outputs calls (events ++ [event]) ↔
      (event = (.start request outputs, .flag true) ∧ request.frameNumber = frameNumber ∧
        calls = []) ∨
      (¬ Removes frameNumber event ∧ ∃ before,
        Opened frameNumber request outputs before events ∧
          calls = before ++ (callFor frameNumber event).toList) := by
  constructor
  · rintro ⟨earlier, later, whole, named, kept, rfl⟩
    rcases snoc_eq_append_cons whole with ⟨rfl, -, same⟩ | ⟨shorter, rfl, rest⟩
    · exact Or.inl ⟨same.symm, named, rfl⟩
    · refine Or.inr ⟨kept event (by simp), shorter.filterMap (callFor frameNumber), ?_, ?_⟩
      · refine ⟨earlier, shorter, rest, named, ?_, rfl⟩
        intro e member
        exact kept e (List.mem_append_left _ member)
      · cases called : callFor frameNumber event <;> simp [called]
  · rintro (⟨rfl, named, rfl⟩ | ⟨kept, before, ⟨earlier, later, rfl, named, none_yet, rfl⟩, rfl⟩)
    · exact ⟨events, [], rfl, named, by simp, rfl⟩
    · refine ⟨earlier, later ++ [event], by simp, named, ?_, ?_⟩
      · intro e member
        rcases List.mem_append.mp member with old | new
        · exact none_yet e old
        · rw [List.mem_singleton.mp new]
          exact kept
      · cases called : callFor frameNumber event <;> simp [called]

theorem not_opened_nil {frameNumber : Nat} {request : CaptureRequest}
    {outputs : List InFlightOutput} {calls : List (Int × Int)} :
    ¬ Opened frameNumber request outputs calls [] := by
  rintro ⟨earlier, later, whole, -⟩
  cases earlier <;> cases whole

section Rows

variable {t : Tracker} {op : Op} {frameNumber : Nat} {row : InFlightRequest}

theorem start_accepted {request : CaptureRequest} {outputs : List InFlightOutput} :
    (t.start request outputs).1 = true ↔ request.frameNumber ∉ t.requests ∧ outputs ≠ [] := by
  unfold Tracker.start
  split
  · rename_i refused
    simp only [Bool.false_eq_true, false_iff, not_and_or, not_not]
    exact refused
  · rename_i accepted
    simp only [true_iff]
    exact not_or.mp accepted

theorem completeOutput_cases (t : Tracker) (f : Nat) (index fence : Int)
    (metadata : CaptureMetadata) :
    ((∀ row, t.requests.lookup f = some row →
        ∀ output ∈ row.outputBuffers, output.outputIndex ≠ index) ∧
      t.completeOutput f index fence metadata = (.notFound, t)) ∨
    (∃ row, t.requests.lookup f = some row ∧
      (∃ output ∈ row.outputBuffers, output.outputIndex = index) ∧
      ((∃ output ∈ (markedRow row index fence).outputBuffers, output.completed = false) ∧
        t.completeOutput f index fence metadata =
          (.waitingForMoreOutputs, { t with
            requests := t.requests.insert f (markedRow row index fence) }) ∨
      (∀ output ∈ (markedRow row index fence).outputBuffers, output.completed = true) ∧
        t.completeOutput f index fence metadata =
          (.requestComplete { markedRow row index fence with
              metadata := metadata
              state := .completed },
            { t with requests := t.requests.erase f }))) := by
  cases held : t.requests.lookup f with
  | none =>
    refine Or.inl ⟨by simp, ?_⟩
    simp only [Tracker.completeOutput, held]
  | some row =>
    by_cases named : ∃ output ∈ row.outputBuffers, output.outputIndex = index
    · refine Or.inr ⟨row, rfl, named, ?_⟩
      obtain ⟨output, member, rfl⟩ := named
      exact completeOutput_spec held member fence metadata
    · left
      have absent : ∀ output ∈ row.outputBuffers, output.outputIndex ≠ index := by
        intro output member at_index
        exact named ⟨output, member, at_index⟩
      have unmatched : (row.outputBuffers.any fun o => o.outputIndex = index) = false := by
        simpa only [List.any_eq_false, decide_eq_true_eq] using absent
      refine ⟨?_, ?_⟩
      · rintro found ⟨⟩
        exact absent
      · simp only [Tracker.completeOutput, held, unmatched, Bool.false_eq_true, if_false]

theorem map_markOutput_absent {index fence : Int} {outputs : List InFlightOutput}
    (absent : ∀ output ∈ outputs, output.outputIndex ≠ index) :
    outputs.map (Tracker.markOutput index fence) = outputs := by
  calc outputs.map (Tracker.markOutput index fence)
      = outputs.map id := List.map_congr_left fun output member => if_neg (absent output member)
    _ = outputs := List.map_id outputs

theorem RowOf.marked {request : CaptureRequest} {outputs : List InFlightOutput}
    {calls : List (Int × Int)} (R : RowOf request outputs calls row) (index fence : Int) :
    RowOf request outputs (calls ++ [(index, fence)]) (markedRow row index fence) where
  frame := R.frame
  asked := R.asked
  buffers := by
    simp only [markedRow, R.buffers, List.map_map]
    apply List.map_congr_left
    intro output _
    simp only [Function.comp_apply, markedBy, List.foldl_append, List.foldl_cons, List.foldl_nil]
  metadata := R.metadata
  submitted := R.submitted

theorem take_unbound {token : DriverToken} (free : t.driverOutputs.lookup token = none) :
    t.takeDriverOutputContext token = (none, t) := by
  simp only [Tracker.takeDriverOutputContext, free]

theorem take_streaming {token : DriverToken} {context : DriverOutputContext}
    (bound : t.driverOutputs.lookup token = some context) (negative : context.outputIndex < 0) :
    t.takeDriverOutputContext token =
      ((t.streamingOutputs.lookup context.frameNumber).map fun output =>
          { frameNumber := context.frameNumber
            outputIndex := context.outputIndex
            target := output.target
            streamingOutput := some output },
        { t with
          driverOutputs := t.driverOutputs.erase token
          streamingOutputs := t.streamingOutputs.erase context.frameNumber }) := by
  simp only [Tracker.takeDriverOutputContext, bound, negative, if_true,
    Tracker.takeStreamingOutput]
  cases held : t.streamingOutputs.lookup context.frameNumber with
  | none =>
    have absent : context.frameNumber ∉ t.streamingOutputs := AList.lookup_eq_none.mp held
    simp only [Option.map_none, erase_of_fresh absent]
  | some output => rfl

theorem take_request {token : DriverToken} {context : DriverOutputContext}
    (bound : t.driverOutputs.lookup token = some context) (known : ¬ context.outputIndex < 0) :
    t.takeDriverOutputContext token =
      ((t.outputTarget context.frameNumber context.outputIndex).map fun target =>
          { frameNumber := context.frameNumber
            outputIndex := context.outputIndex
            target := target
            streamingOutput := none },
        { t with driverOutputs := t.driverOutputs.erase token }) := by
  simp only [Tracker.takeDriverOutputContext, bound, known, if_false]
  rfl

theorem takeDriverOutputContext_requests (token : DriverToken) :
    (t.takeDriverOutputContext token).2.requests = t.requests := by
  cases bound : t.driverOutputs.lookup token with
  | none => rw [take_unbound bound]
  | some context =>
    by_cases negative : context.outputIndex < 0
    · rw [take_streaming bound negative]
    · rw [take_request bound negative]

theorem complete_requests (f : Nat) (metadata : CaptureMetadata) :
    (t.complete f metadata).2.requests = t.requests.erase f := by
  unfold Tracker.complete
  cases held : t.requests.lookup f with
  | none => exact (erase_of_fresh (AList.lookup_eq_none.mp held)).symm
  | some row => rfl

theorem fail_requests (f : Nat) : (t.fail f).2.requests = t.requests.erase f := by
  unfold Tracker.fail
  cases held : t.requests.lookup f with
  | none => exact (erase_of_fresh (AList.lookup_eq_none.mp held)).symm
  | some row => rfl

theorem markQueuedToDriver_lookup {f : Nat}
    (held : t.requests.lookup frameNumber = some row) :
    ∃ state, (t.markQueuedToDriver f).2.requests.lookup frameNumber =
      some { row with state := state } := by
  unfold Tracker.markQueuedToDriver
  by_cases same : f = frameNumber
  · subst same
    simp only [held]
    split
    · exact ⟨.queuedToDriver, AList.lookup_insert _⟩
    · exact ⟨row.state, held⟩
  · refine ⟨row.state, ?_⟩
    split
    · exact held
    · split
      · exact (AList.lookup_insert_ne (Ne.symm same)).trans held
      · exact held

theorem completeOutput_lookup_ne {f g : Nat} {index fence : Int} {metadata : CaptureMetadata}
    (other : g ≠ f) : (t.completeOutput f index fence metadata).2.requests.lookup g =
      t.requests.lookup g := by
  rcases completeOutput_cases t f index fence metadata with
    ⟨-, step⟩ | ⟨row, -, -, ⟨-, step⟩ | ⟨-, step⟩⟩
  · rw [step]
  · rw [step]
    exact AList.lookup_insert_ne other
  · rw [step]
    exact AList.lookup_erase_ne other

theorem row_kept {request : CaptureRequest} {outputs : List InFlightOutput}
    {calls : List (Int × Int)} (held : t.requests.lookup frameNumber = some row)
    (R : RowOf request outputs calls row)
    (kept : ¬ Removes frameNumber (op, (run t op).1)) :
    ∃ row', (run t op).2.requests.lookup frameNumber = some row' ∧
      RowOf request outputs
        (calls ++ (callFor frameNumber (op, (run t op).1)).toList) row' := by
  cases op with
  | start other buffers =>
    refine ⟨row, ?_, by simpa [callFor] using R⟩
    simp only [run, Tracker.start]
    split
    · exact held
    · rename_i accepted
      have other_frame : frameNumber ≠ other.frameNumber := by
        rintro rfl
        exact (not_or.mp accepted).1 (mem_of_lookup held)
      exact (AList.lookup_insert_ne other_frame).trans held
  | markQueuedToDriver f =>
    obtain ⟨state, found⟩ := markQueuedToDriver_lookup (f := f) held
    refine ⟨_, found, ?_⟩
    simp only [callFor, Option.toList_none, List.append_nil]
    exact ⟨R.frame, R.asked, R.buffers, R.metadata, R.submitted⟩
  | complete f metadata =>
    have other : frameNumber ≠ f := Ne.symm kept
    refine ⟨row, ?_, by simpa [callFor] using R⟩
    simp only [run, complete_requests]
    exact (AList.lookup_erase_ne other).trans held
  | completeOutput f index fence metadata =>
    by_cases same : f = frameNumber
    · subst same
      simp only [callFor, if_true, Option.toList_some, run]
      rcases completeOutput_cases t f index fence metadata with
        ⟨absent, step⟩ | ⟨found, at_frame, -, ⟨-, step⟩ | ⟨-, step⟩⟩
      · have marked := R.marked index fence
        rw [markedRow, map_markOutput_absent (absent row held)] at marked
        rw [step]
        exact ⟨row, held, marked⟩
      · obtain rfl := Option.some.inj (held.symm.trans at_frame)
        rw [step]
        exact ⟨_, AList.lookup_insert _, R.marked index fence⟩
      · -- a finished row would have been removed by this very event
        have finished := congrArg Prod.fst step
        exact absurd ⟨rfl, _, congrArg Answer.completion finished⟩ kept
    · refine ⟨row, ?_, by simpa [callFor, same] using R⟩
      exact (completeOutput_lookup_ne (Ne.symm same)).trans held
  | registerStreamingOutput output =>
    refine ⟨row, ?_, by simpa [callFor] using R⟩
    simp only [run, Tracker.registerStreamingOutput]
    split <;> exact held
  | bindDriverOutput token context =>
    refine ⟨row, ?_, by simpa [callFor] using R⟩
    simp only [run, Tracker.bindDriverOutput]
    split <;> exact held
  | takeDriverOutputContext token =>
    refine ⟨row, ?_, by simpa [callFor] using R⟩
    simp only [run, takeDriverOutputContext_requests]
    exact held
  | clearDriverOutputsForFrame f => exact ⟨row, held, by simpa [callFor] using R⟩
  | clearStreamingOutputs => exact ⟨row, held, by simpa [callFor] using R⟩
  | fail f =>
    have other : frameNumber ≠ f := Ne.symm kept
    refine ⟨row, ?_, by simpa [callFor] using R⟩
    simp only [run, fail_requests]
    exact (AList.lookup_erase_ne other).trans held
  | flushAll => exact absurd trivial kept

theorem row_origin (live : frameNumber ∈ (run t op).2.requests) :
    (∃ request outputs, op = .start request outputs ∧ (run t op).1 = .flag true ∧
      request.frameNumber = frameNumber) ∨
    (frameNumber ∈ t.requests ∧ ¬ Removes frameNumber (op, (run t op).1)) := by
  cases op with
  | start request outputs =>
    by_cases accepted : (t.start request outputs).1 = true
    · by_cases named : request.frameNumber = frameNumber
      · exact Or.inl ⟨request, outputs, rfl, congrArg Answer.flag accepted, named⟩
      · refine Or.inr ⟨?_, id⟩
        simp only [run, Tracker.start] at live
        split at live
        · exact live
        · rcases (AList.mem_insert _).mp live with same | old
          · exact absurd same.symm named
          · exact old
    · refine Or.inr ⟨?_, id⟩
      simp only [run, Tracker.start] at live
      split at live
      · exact live
      · rename_i free
        exact absurd (start_accepted.mpr (not_or.mp free)) accepted
  | markQueuedToDriver f =>
    refine Or.inr ⟨?_, id⟩
    simp only [run, Tracker.markQueuedToDriver] at live
    split at live
    · exact live
    · rename_i row found
      split at live
      · rcases (AList.mem_insert _).mp live with rfl | old
        · exact mem_of_lookup found
        · exact old
      · exact live
  | complete f metadata =>
    simp only [run, complete_requests, AList.mem_erase] at live
    exact Or.inr ⟨live.2, Ne.symm live.1⟩
  | completeOutput f index fence metadata =>
    refine Or.inr ?_
    simp only [run] at live
    by_cases same : f = frameNumber
    · subst same
      rcases completeOutput_cases t f index fence metadata with
        ⟨-, step⟩ | ⟨row, held, -, ⟨-, step⟩ | ⟨-, step⟩⟩
      · rw [step] at live
        refine ⟨live, ?_⟩
        rintro ⟨-, request, answer⟩
        simp only [run, step] at answer
        cases answer
      · refine ⟨mem_of_lookup held, ?_⟩
        rintro ⟨-, request, answer⟩
        simp only [run, step] at answer
        cases answer
      · rw [step] at live
        exact absurd rfl (AList.mem_erase.mp live).1
    · rw [← AList.lookup_isSome, completeOutput_lookup_ne (Ne.symm same),
        AList.lookup_isSome] at live
      exact ⟨live, fun removed => same removed.1⟩
  | registerStreamingOutput output =>
    refine Or.inr ⟨?_, id⟩
    simp only [run, Tracker.registerStreamingOutput] at live
    split at live <;> exact live
  | bindDriverOutput token context =>
    refine Or.inr ⟨?_, id⟩
    simp only [run, Tracker.bindDriverOutput] at live
    split at live <;> exact live
  | takeDriverOutputContext token =>
    simp only [run, takeDriverOutputContext_requests] at live
    exact Or.inr ⟨live, id⟩
  | clearDriverOutputsForFrame f => exact Or.inr ⟨live, id⟩
  | clearStreamingOutputs => exact Or.inr ⟨live, id⟩
  | fail f =>
    simp only [run, fail_requests, AList.mem_erase] at live
    exact Or.inr ⟨live.2, Ne.symm live.1⟩
  | flushAll => exact absurd live (AList.notMem_empty _)

end Rows

structure RowsRecorded (t : Tracker) (events : List Event) : Prop where
  /-- An open frame has the row its history gives it. -/
  row_of_opened : ∀ frameNumber request outputs calls,
    Opened frameNumber request outputs calls events →
      ∃ row, t.requests.lookup frameNumber = some row ∧ RowOf request outputs calls row
  /-- Only open frames have a row. -/
  opened_of_row : ∀ frameNumber, frameNumber ∈ t.requests →
    ∃ request outputs calls, Opened frameNumber request outputs calls events

theorem rowsRecorded_step (t : Tracker) (events : List Event) (op : Op)
    (R : RowsRecorded t events) :
    RowsRecorded (run t op).2 (events ++ [(op, (run t op).1)]) where
  row_of_opened := by
    intro frameNumber request outputs calls opened
    rcases opened_snoc.mp opened with ⟨started, rfl, rfl⟩ | ⟨kept, before, earlier, rfl⟩
    · obtain ⟨rfl, answer⟩ := Prod.mk.inj started
      have accepted := start_accepted.mp (Answer.flag.inj answer)
      have inserted : ¬ (request.frameNumber ∈ t.requests ∨ outputs = []) := not_or.mpr accepted
      simp only [run, Tracker.start, if_neg inserted]
      exact ⟨_, AList.lookup_insert _, rfl, rfl, (List.map_id' outputs).symm, rfl, rfl⟩
    · obtain ⟨row, held, of_row⟩ := R.row_of_opened _ _ _ _ earlier
      exact row_kept held of_row kept
  opened_of_row := by
    intro frameNumber live
    rcases row_origin live with ⟨request, outputs, rfl, answer, named⟩ | ⟨before, kept⟩
    · exact ⟨request, outputs, [], opened_snoc.mpr (Or.inl ⟨by rw [answer], named, rfl⟩)⟩
    · obtain ⟨request, outputs, calls, opened⟩ := R.opened_of_row frameNumber before
      exact ⟨request, outputs, _, opened_snoc.mpr (Or.inr ⟨kept, calls, opened, rfl⟩)⟩

theorem rowsRecorded {t : Tracker} (none_yet : t.requests = ∅) (ops : List Op) :
    RowsRecorded (after run t ops) (record run t ops) := by
  refine record_invariant run RowsRecorded ⟨?_, ?_⟩ rowsRecorded_step ops
  · intro frameNumber request outputs calls opened
    exact absurd opened not_opened_nil
  · intro frameNumber live
    rw [none_yet] at live
    exact absurd live (AList.notMem_empty _)

end MiniCam.Hal.TrackerHistory
