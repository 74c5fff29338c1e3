/- Module: MiniCam/Hal/CompletionLaw
   source: hal/in_flight_request_tracker.cpp
   digest: What complete_output returns, from the completions a frame has seen since its start. -/

import MiniCam.Hal.TrackerHistory

set_option autoImplicit false
set_option relaxedAutoImplicit false

namespace MiniCam.Hal.CompletionLaw

open MiniCam.Foundation.Histories
open MiniCam.Foundation.KeyedTable
open MiniCam.Hal.Interface
open MiniCam.Hal.InFlightRequestTracker
open MiniCam.Hal.TrackerHistory

def latestFence (calls : List (Int × Int)) (index : Int) : Option Int :=
  (calls.reverse.find? fun call => call.1 = index).map (·.2)

def Covers (calls : List (Int × Int)) (outputs : List InFlightOutput) : Prop :=
  ∀ output ∈ outputs, ∃ call ∈ calls, call.1 = output.outputIndex

instance coversDecidable (calls : List (Int × Int)) (outputs : List InFlightOutput) :
    Decidable (Covers calls outputs) :=
  inferInstanceAs (Decidable (∀ output ∈ outputs, ∃ call ∈ calls, call.1 = output.outputIndex))

def finishedOutput (calls : List (Int × Int)) (output : InFlightOutput) : InFlightOutput :=
  { output with
    completed := true
    releaseFenceFd := (latestFence calls output.outputIndex).getD output.releaseFenceFd }

def finishedRow (request : CaptureRequest) (outputs : List InFlightOutput)
    (calls : List (Int × Int)) (metadata : CaptureMetadata) : InFlightRequest :=
  { frameNumber := request.frameNumber
    request := request
    outputBuffers := outputs.map (finishedOutput calls)
    metadata := metadata
    state := .completed
    submittedAt := request.submittedAt }

structure SameEntries (s t : Tracker) : Prop where
  requests : ∀ frameNumber, s.requests.lookup frameNumber = t.requests.lookup frameNumber
  streamingOutputs : s.streamingOutputs = t.streamingOutputs
  driverOutputs : s.driverOutputs = t.driverOutputs

section Marks

variable {calls : List (Int × Int)} {output : InFlightOutput} {index fence : Int}

theorem latestFence_snoc (calls : List (Int × Int)) (index fence at_index : Int) :
    latestFence (calls ++ [(index, fence)]) at_index =
      if index = at_index then some fence else latestFence calls at_index := by
  simp only [latestFence, List.reverse_append, List.reverse_singleton, List.singleton_append,
    List.find?_cons]
  by_cases same : index = at_index <;> simp [same]

theorem markedBy_snoc (calls : List (Int × Int)) (index fence : Int) (output : InFlightOutput) :
    markedBy (calls ++ [(index, fence)]) output =
      Tracker.markOutput index fence (markedBy calls output) := by
  simp only [markedBy, List.foldl_append, List.foldl_cons, List.foldl_nil]

/-- Completions touch only the flag and the fence of an output: both are set by the latest
completion with its index. -/
theorem markedBy_eq (calls : List (Int × Int)) (output : InFlightOutput) :
    markedBy calls output =
      match latestFence calls output.outputIndex with
      | some fence => { output with completed := true, releaseFenceFd := fence }
      | none => output := by
  induction calls using List.reverseRecOn with
  | nil => rfl
  | append_singleton calls call ih =>
    obtain ⟨index, fence⟩ := call
    rw [markedBy_snoc, latestFence_snoc, ih]
    by_cases same : index = output.outputIndex
    · subst same
      cases latestFence calls output.outputIndex <;> simp [Tracker.markOutput]
    · cases latestFence calls output.outputIndex <;>
        simp [Tracker.markOutput, same, Ne.symm same]

theorem latestFence_isSome : (latestFence calls index).isSome ↔ ∃ call ∈ calls, call.1 = index := by
  simp only [latestFence, Option.isSome_map, List.find?_isSome, List.mem_reverse,
    decide_eq_true_eq]

theorem markedBy_index (calls : List (Int × Int)) (output : InFlightOutput) :
    (markedBy calls output).outputIndex = output.outputIndex := by
  rw [markedBy_eq]
  split <;> rfl

theorem markedBy_completed (fresh : output.completed = false) :
    (markedBy calls output).completed = true ↔
      ∃ call ∈ calls, call.1 = output.outputIndex := by
  rw [← latestFence_isSome, markedBy_eq]
  cases latestFence calls output.outputIndex <;> simp [fresh]

theorem markedBy_called (called : ∃ call ∈ calls, call.1 = output.outputIndex) :
    markedBy calls output = finishedOutput calls output := by
  rw [← latestFence_isSome] at called
  obtain ⟨fence, latest⟩ := Option.isSome_iff_exists.mp called
  rw [markedBy_eq, finishedOutput, latest]
  rfl

end Marks

/-- A frame is open with these outputs and completions, and an index is one of its own. -/
def Names (events : List Event) (frameNumber : Nat) (index : Int) (request : CaptureRequest)
    (outputs : List InFlightOutput) (calls : List (Int × Int)) : Prop :=
  Opened frameNumber request outputs calls events ∧ ∃ output ∈ outputs, output.outputIndex = index

section Rows

variable {t : Tracker} {events : List Event} {row : InFlightRequest} {frameNumber : Nat}
  {request : CaptureRequest} {outputs : List InFlightOutput} {calls : List (Int × Int)}
  {index fence : Int} {metadata : CaptureMetadata}

theorem RowOf.named_iff (R : RowOf request outputs calls row) :
    (∃ output ∈ row.outputBuffers, output.outputIndex = index) ↔
      ∃ output ∈ outputs, output.outputIndex = index := by
  simp only [R.buffers, List.mem_map]
  constructor
  · rintro ⟨_, ⟨output, member, rfl⟩, at_index⟩
    rw [markedBy_index] at at_index
    exact ⟨output, member, at_index⟩
  · rintro ⟨output, member, rfl⟩
    exact ⟨_, ⟨output, member, rfl⟩, markedBy_index calls output⟩

theorem RowOf.completed_iff (R : RowOf request outputs calls row)
    (fresh : ∀ output ∈ outputs, output.completed = false) :
    (∀ output ∈ row.outputBuffers, output.completed = true) ↔ Covers calls outputs := by
  simp only [R.buffers, List.forall_mem_map, Covers]
  constructor
  · intro all output member
    exact (markedBy_completed (fresh output member)).mp (all output member)
  · intro all output member
    exact (markedBy_completed (fresh output member)).mpr (all output member)

theorem RowOf.finished (R : RowOf request outputs calls row) (all : Covers calls outputs) :
    { row with metadata := metadata, state := .completed } =
      finishedRow request outputs calls metadata := by
  have buffers : row.outputBuffers = outputs.map (finishedOutput calls) := by
    rw [R.buffers]
    apply List.map_congr_left
    intro output member
    exact markedBy_called (all output member)
  simp only [finishedRow, R.frame, R.asked, R.submitted, buffers]

theorem completeOutput_unnamed (R : RowsRecorded t events)
    (unnamed : ¬ ∃ request outputs calls, Names events frameNumber index request outputs calls) :
    t.completeOutput frameNumber index fence metadata = (.notFound, t) := by
  rcases completeOutput_cases t frameNumber index fence metadata with
    ⟨-, step⟩ | ⟨row, held, named, -⟩
  · exact step
  · obtain ⟨request, outputs, calls, opened⟩ := R.opened_of_row frameNumber (mem_of_lookup held)
    obtain ⟨found, at_frame, of_row⟩ := R.row_of_opened _ _ _ _ opened
    obtain rfl := Option.some.inj (held.symm.trans at_frame)
    exact absurd ⟨request, outputs, calls, opened, (RowOf.named_iff of_row).mp named⟩ unnamed

theorem completeOutput_named (R : RowsRecorded t events)
    (fresh : ∀ output ∈ outputs, output.completed = false)
    (named : Names events frameNumber index request outputs calls) :
    (¬ Covers (calls ++ [(index, fence)]) outputs ∧
      (t.completeOutput frameNumber index fence metadata).1 = .waitingForMoreOutputs) ∨
    (Covers (calls ++ [(index, fence)]) outputs ∧
      t.completeOutput frameNumber index fence metadata =
        (.requestComplete (finishedRow request outputs (calls ++ [(index, fence)]) metadata),
          { t with requests := t.requests.erase frameNumber })) := by
  obtain ⟨opened, own⟩ := named
  obtain ⟨found, at_frame, of_row⟩ := R.row_of_opened _ _ _ _ opened
  have marked := of_row.marked index fence
  rcases completeOutput_cases t frameNumber index fence metadata with
    ⟨absent, -⟩ | ⟨row, held, -, ⟨⟨output, member, still⟩, step⟩ | ⟨all, step⟩⟩
  · obtain ⟨output, member, at_index⟩ := (RowOf.named_iff of_row).mpr own
    exact absurd at_index (absent found at_frame output member)
  · obtain rfl := Option.some.inj (held.symm.trans at_frame)
    refine Or.inl ⟨?_, by rw [step]⟩
    intro covered
    have done := (RowOf.completed_iff marked fresh).mpr covered output member
    rw [still] at done
    cases done
  · obtain rfl := Option.some.inj (held.symm.trans at_frame)
    have covered := (RowOf.completed_iff marked fresh).mp all
    refine Or.inr ⟨covered, ?_⟩
    rw [step, ← RowOf.finished marked covered]

end Rows

section Answers

variable {t : Tracker} {events : List Event} {frameNumber : Nat} {index fence : Int}
  {metadata : CaptureMetadata}

/-- The three ways a completion can end, by what the calls so far say of its frame. -/
inductive Ended (t : Tracker) (events : List Event) (frameNumber : Nat) (index fence : Int)
    (metadata : CaptureMetadata) : OutputCompletion × Tracker → Prop where
  | missed (unnamed : ¬ ∃ request outputs calls,
      Names events frameNumber index request outputs calls) :
    Ended t events frameNumber index fence metadata (.notFound, t)
  | waits {request : CaptureRequest} {outputs : List InFlightOutput} {calls : List (Int × Int)}
    {after : Tracker} (names : Names events frameNumber index request outputs calls)
    (uncovered : ¬ Covers (calls ++ [(index, fence)]) outputs) :
    Ended t events frameNumber index fence metadata (.waitingForMoreOutputs, after)
  | finished {request : CaptureRequest} {outputs : List InFlightOutput}
    {calls : List (Int × Int)} (names : Names events frameNumber index request outputs calls)
    (covered : Covers (calls ++ [(index, fence)]) outputs) :
    Ended t events frameNumber index fence metadata
      (.requestComplete (finishedRow request outputs (calls ++ [(index, fence)]) metadata),
        { t with requests := t.requests.erase frameNumber })

/-- The frames that a completion may name have started with no output completed. -/
def StartedFresh (events : List Event) (frameNumber : Nat) (index : Int) : Prop :=
  ∀ request outputs calls, Names events frameNumber index request outputs calls →
    ∀ output ∈ outputs, output.completed = false

theorem completeOutput_ended (R : RowsRecorded t events)
    (fresh : StartedFresh events frameNumber index) (fence : Int) (metadata : CaptureMetadata) :
    Ended t events frameNumber index fence metadata
      (t.completeOutput frameNumber index fence metadata) := by
  by_cases named : ∃ request outputs calls,
      Names events frameNumber index request outputs calls
  · obtain ⟨request, outputs, calls, names⟩ := named
    generalize answered : t.completeOutput frameNumber index fence metadata = answer
    rcases completeOutput_named R (fresh request outputs calls names) names with
      ⟨uncovered, waits⟩ | ⟨covered, ends⟩
    · obtain ⟨state, after⟩ := answer
      rw [answered] at waits
      cases waits
      exact Ended.waits names uncovered
    · rw [← answered, ends]
      exact Ended.finished names covered
  · rw [completeOutput_unnamed R named]
    exact Ended.missed named

theorem requestComplete_iff (R : RowsRecorded t events)
    (fresh : StartedFresh events frameNumber index) (row : InFlightRequest) :
    (t.completeOutput frameNumber index fence metadata).1 = .requestComplete row ↔
      ∃ request outputs calls, Names events frameNumber index request outputs calls ∧
        Covers (calls ++ [(index, fence)]) outputs ∧
        row = finishedRow request outputs (calls ++ [(index, fence)]) metadata := by
  constructor
  · intro ended
    have ends := completeOutput_ended R fresh fence metadata
    generalize t.completeOutput frameNumber index fence metadata = answer at ended ends
    cases ends with
    | missed unnamed => cases ended
    | waits names uncovered => cases ended
    | finished names covered =>
      cases ended
      exact ⟨_, _, _, names, covered, rfl⟩
  · rintro ⟨request, outputs, calls, names, covered, rfl⟩
    rcases completeOutput_named R (fresh request outputs calls names) names with
      ⟨uncovered, -⟩ | ⟨-, ends⟩
    · exact absurd covered uncovered
    · rw [ends]

theorem waiting_iff (R : RowsRecorded t events)
    (fresh : StartedFresh events frameNumber index) :
    (t.completeOutput frameNumber index fence metadata).1 = .waitingForMoreOutputs ↔
      ∃ request outputs calls, Names events frameNumber index request outputs calls ∧
        ¬ Covers (calls ++ [(index, fence)]) outputs := by
  constructor
  · intro waiting
    have ends := completeOutput_ended R fresh fence metadata
    generalize t.completeOutput frameNumber index fence metadata = answer at waiting ends
    cases ends with
    | missed unnamed => cases waiting
    | waits names uncovered => exact ⟨_, _, _, names, uncovered⟩
    | finished names covered => cases waiting
  · rintro ⟨request, outputs, calls, names, uncovered⟩
    rcases completeOutput_named R (fresh request outputs calls names) names with
      ⟨-, waits⟩ | ⟨covered, -⟩
    · exact waits
    · exact absurd covered uncovered

theorem notFound_iff (R : RowsRecorded t events)
    (fresh : StartedFresh events frameNumber index) :
    (t.completeOutput frameNumber index fence metadata).1 = .notFound ↔
      ¬ ∃ request outputs calls, Names events frameNumber index request outputs calls := by
  constructor
  · intro missing
    have ends := completeOutput_ended R fresh fence metadata
    generalize t.completeOutput frameNumber index fence metadata = answer at missing ends
    cases ends with
    | missed unnamed => exact unnamed
    | waits names uncovered => cases missing
    | finished names covered => cases missing
  · intro unnamed
    rw [completeOutput_unnamed R unnamed]

end Answers

section Commuting

variable {s t : Tracker} {f g : Nat}

theorem completeOutput_congr (index fence : Int) (metadata : CaptureMetadata)
    (same : s.requests.lookup f = t.requests.lookup f) :
    (s.completeOutput f index fence metadata).1 = (t.completeOutput f index fence metadata).1 ∧
    (s.completeOutput f index fence metadata).2.requests.lookup f =
      (t.completeOutput f index fence metadata).2.requests.lookup f := by
  unfold Tracker.completeOutput
  rw [same]
  split
  · exact ⟨rfl, same⟩
  · simp only
    split
    · split
      · exact ⟨rfl, by rw [AList.lookup_erase, AList.lookup_erase]⟩
      · exact ⟨rfl, by rw [AList.lookup_insert, AList.lookup_insert]⟩
    · exact ⟨rfl, same⟩

theorem completeOutput_tables (t : Tracker) (f : Nat) (index fence : Int)
    (metadata : CaptureMetadata) :
    (t.completeOutput f index fence metadata).2.streamingOutputs = t.streamingOutputs ∧
      (t.completeOutput f index fence metadata).2.driverOutputs = t.driverOutputs := by
  rcases completeOutput_cases t f index fence metadata with
    ⟨-, step⟩ | ⟨row, -, -, ⟨-, step⟩ | ⟨-, step⟩⟩ <;> rw [step] <;> exact ⟨rfl, rfl⟩

theorem completeOutput_comm (other : g ≠ f) (t : Tracker) (index fence index' fence' : Int)
    (metadata metadata' : CaptureMetadata) :
    ((t.completeOutput g index' fence' metadata').2.completeOutput f index fence metadata).1 =
        (t.completeOutput f index fence metadata).1 ∧
    SameEntries
      ((t.completeOutput g index' fence' metadata').2.completeOutput f index fence metadata).2
      ((t.completeOutput f index fence metadata).2.completeOutput g index' fence' metadata').2 := by
  have f_kept : (t.completeOutput g index' fence' metadata').2.requests.lookup f =
      t.requests.lookup f := completeOutput_lookup_ne (Ne.symm other)
  have g_kept : (t.completeOutput f index fence metadata).2.requests.lookup g =
      t.requests.lookup g := completeOutput_lookup_ne other
  have at_f := completeOutput_congr index fence metadata f_kept
  have at_g := completeOutput_congr index' fence' metadata' g_kept
  refine ⟨at_f.1, ?_, ?_, ?_⟩
  · intro frame
    by_cases same : frame = f
    · subst same
      rw [at_f.2, completeOutput_lookup_ne (Ne.symm other)]
    · by_cases same' : frame = g
      · subst same'
        rw [at_g.2, completeOutput_lookup_ne other]
      · rw [completeOutput_lookup_ne same, completeOutput_lookup_ne same',
          completeOutput_lookup_ne same', completeOutput_lookup_ne same]
  · simp only [completeOutput_tables]
  · simp only [completeOutput_tables]

end Commuting

/-- After any calls on a tracker without rows whose frames start with no output completed, a
completion ends its frame exactly when it names an index of it and, with the completions since
the start, covers all of them; it then takes that row only and hands it back with its outputs in
order, all completed, with their latest fences. Naming an index while others are open it waits;
naming nothing open it changes nothing. Completions of two frames commute. -/
theorem completion_law (t₀ : Tracker) (ops : List Op) (none_yet : t₀.requests = ∅)
    (fresh : ∀ request outputs, .start request outputs ∈ ops →
      ∀ output ∈ outputs, output.completed = false)
    (frameNumber : Nat) (index fence : Int) (metadata : CaptureMetadata) :
    let t := after run t₀ ops
    let events := record run t₀ ops
    let answer := t.completeOutput frameNumber index fence metadata
    (frameNumber ∈ t.requests ↔
      ∃ request outputs calls, Opened frameNumber request outputs calls events) ∧
    (∀ row, answer.1 = .requestComplete row ↔ ∃ request outputs calls,
      Names events frameNumber index request outputs calls ∧
      Covers (calls ++ [(index, fence)]) outputs ∧
      row = finishedRow request outputs (calls ++ [(index, fence)]) metadata) ∧
    (∀ row, answer.1 = .requestComplete row →
      answer.2 = { t with requests := t.requests.erase frameNumber }) ∧
    (answer.1 = .waitingForMoreOutputs ↔ ∃ request outputs calls,
      Names events frameNumber index request outputs calls ∧
      ¬ Covers (calls ++ [(index, fence)]) outputs) ∧
    (answer.1 = .notFound ↔ ¬ ∃ request outputs calls,
      Names events frameNumber index request outputs calls) ∧
    (answer.1 = .notFound → answer.2 = t) ∧
    (∀ other index' fence' metadata', other ≠ frameNumber →
      let answer' := t.completeOutput other index' fence' metadata'
      (answer'.2.completeOutput frameNumber index fence metadata).1 = answer.1 ∧
      (answer.2.completeOutput other index' fence' metadata').1 = answer'.1 ∧
      SameEntries (answer'.2.completeOutput frameNumber index fence metadata).2
        (answer.2.completeOutput other index' fence' metadata').2) := by
  intro t events answer
  have R : RowsRecorded t events := rowsRecorded none_yet ops
  have started : StartedFresh events frameNumber index := by
    rintro request outputs calls ⟨⟨earlier, later, whole, -⟩, -⟩
    have recorded : (.start request outputs, .flag true) ∈ events := by
      rw [whole]
      simp
    exact fresh request outputs (mem_of_mem_record run recorded)
  have ends : Ended t events frameNumber index fence metadata answer :=
    completeOutput_ended R started fence metadata
  refine ⟨⟨R.opened_of_row frameNumber, ?_⟩, requestComplete_iff R started, ?_,
    waiting_iff R started, notFound_iff R started, ?_, ?_⟩
  · rintro ⟨request, outputs, calls, opened⟩
    obtain ⟨row, held, -⟩ := R.row_of_opened _ _ _ _ opened
    exact mem_of_lookup held
  · intro row ended
    generalize answer = answered at ended ends
    cases ends with
    | missed unnamed => cases ended
    | waits names uncovered => cases ended
    | finished names covered => rfl
  · intro missing
    generalize answer = answered at missing ends
    cases ends with
    | missed unnamed => rfl
    | waits names uncovered => cases missing
    | finished names covered => cases missing
  · intro other index' fence' metadata' different answer'
    have first := completeOutput_comm different t index fence index' fence' metadata metadata'
    have second := completeOutput_comm (Ne.symm different) t index' fence' index fence metadata'
      metadata
    exact ⟨first.1, second.1, first.2⟩

/-- Two frames are started; the outputs of the first have the indices 0, 1 and 0. -/
def repeatedIndexCalls : List Op :=
  [.start { frameNumber := 1 }
      [{ target := { bufferId := 10 }, outputIndex := 0 },
        { target := { bufferId := 11 }, outputIndex := 1 },
        { target := { bufferId := 12 }, outputIndex := 0 }],
    .start { frameNumber := 2 } [{ target := { bufferId := 20 }, outputIndex := 0 }],
    .completeOutput 1 0 5 {}, .completeOutput 2 0 6 {}, .completeOutput 1 0 7 {}]

theorem completion_law_repeated_index :
    ∃ request outputs calls,
      Names (record run Tracker.empty repeatedIndexCalls) 1 1 request outputs calls ∧
      Covers (calls ++ [(1, 9)]) outputs ∧
      ((finishedRow request outputs (calls ++ [(1, 9)]) {}).outputBuffers.map
        (·.releaseFenceFd)) = [7, 9, 7] := by
  have started : ∀ request outputs, Op.start request outputs ∈ repeatedIndexCalls →
      ∀ output ∈ outputs, output.completed = false := by
    intro request outputs member
    simp only [repeatedIndexCalls, List.mem_cons, Op.start.injEq, reduceCtorEq, List.not_mem_nil,
      or_false] at member
    rcases member with ⟨-, rfl⟩ | ⟨-, rfl⟩ <;> decide
  have law := completion_law Tracker.empty repeatedIndexCalls rfl started 1 1 9 {}
  obtain ⟨request, outputs, calls, names, covered, same⟩ := (law.2.1 _).mp rfl
  refine ⟨request, outputs, calls, names, covered, ?_⟩
  rw [← same]
  rfl

end MiniCam.Hal.CompletionLaw
