/- Module: MiniCam/Hal/TokenResolution
   source: hal/in_flight_request_tracker.h, hal/in_flight_request_tracker.cpp
   digest: What a driver token resolves to, from the calls made on the tracker. -/

import MiniCam.Hal.TrackerHistory
import MiniCam.Hal.CompletionLaw

set_option autoImplicit false
set_option relaxedAutoImplicit false

namespace MiniCam.Hal.TokenResolution

open MiniCam.Foundation.Histories
open MiniCam.Foundation.KeyedTable
open MiniCam.Hal.Interface
open MiniCam.Hal.InFlightRequestTracker
open MiniCam.Hal.TrackerHistory
open MiniCam.Hal.CompletionLaw (markedBy_eq completeOutput_tables)

def Binds (token : DriverToken) (context : DriverOutputContext) (event : Event) : Prop :=
  event = (.bindDriverOutput token context, .flag true)

/-- The token was taken, dropped with the frame of its context or with all tokens, or bound
again. -/
def Unbinds (token : DriverToken) (context : DriverOutputContext) (event : Event) : Prop :=
  event.1 = .takeDriverOutputContext token ∨
  event.1 = .clearDriverOutputsForFrame context.frameNumber ∨
  event.1 = .flushAll ∨
  ∃ later, Binds token later event

def Registers (frameNumber : Nat) (output : InFlightStreamingOutput) (event : Event) : Prop :=
  event = (.registerStreamingOutput output, .flag true) ∧ output.frameNumber = frameNumber

/-- The streaming output of a frame was handed out by a take, or all were cleared. -/
def Consumes (frameNumber : Nat) (event : Event) : Prop :=
  (∃ token resolved output, event = (.takeDriverOutputContext token, .resolved (some resolved)) ∧
    resolved.frameNumber = frameNumber ∧ resolved.streamingOutput = some output) ∨
  event.1 = .clearStreamingOutputs

/-- The latest bind of a token still stands. -/
def Bound (events : List Event) (token : DriverToken) (context : DriverOutputContext) : Prop :=
  Since (Binds token context) (Unbinds token context) events

def Registered (events : List Event) (frameNumber : Nat) (output : InFlightStreamingOutput) :
    Prop :=
  Since (Registers frameNumber output) (Consumes frameNumber) events

/-- What the calls so far promise of a take. -/
def Resolves (events : List Event) (token : DriverToken) (resolved : ResolvedDriverOutput) :
    Prop :=
  ∃ context, Bound events token context ∧
    ((context.outputIndex < 0 ∧ ∃ output, Registered events context.frameNumber output ∧
      resolved =
        { frameNumber := context.frameNumber
          outputIndex := context.outputIndex
          target := output.target
          streamingOutput := some output }) ∨
    (0 ≤ context.outputIndex ∧ ∃ request outputs calls output,
      Opened context.frameNumber request outputs calls events ∧
      (outputs.find? fun other => other.outputIndex = context.outputIndex) = some output ∧
      resolved =
        { frameNumber := context.frameNumber
          outputIndex := context.outputIndex
          target := output.target
          streamingOutput := none }))

def OnRows : Op → Prop
  | .start _ _ | .markQueuedToDriver _ | .complete _ _ | .completeOutput _ _ _ _ | .fail _ => True
  | _ => False

theorem tables_kept {t : Tracker} {op : Op} (on_rows : OnRows op) :
    (run t op).2.streamingOutputs = t.streamingOutputs ∧
      (run t op).2.driverOutputs = t.driverOutputs := by
  cases op with
  | start request outputs =>
    simp only [run, Tracker.start]
    split <;> exact ⟨rfl, rfl⟩
  | markQueuedToDriver f =>
    simp only [run, Tracker.markQueuedToDriver]
    split
    · exact ⟨rfl, rfl⟩
    · split <;> exact ⟨rfl, rfl⟩
  | complete f metadata =>
    simp only [run, Tracker.complete]
    split <;> exact ⟨rfl, rfl⟩
  | completeOutput f index fence metadata => exact completeOutput_tables t f index fence metadata
  | fail f =>
    simp only [run, Tracker.fail]
    split <;> exact ⟨rfl, rfl⟩
  | registerStreamingOutput _ => exact on_rows.elim
  | bindDriverOutput _ _ => exact on_rows.elim
  | takeDriverOutputContext _ => exact on_rows.elim
  | clearDriverOutputsForFrame _ => exact on_rows.elim
  | clearStreamingOutputs => exact on_rows.elim
  | flushAll => exact on_rows.elim

section Tokens

variable {t : Tracker} {op : Op} {token : DriverToken} {context : DriverOutputContext}

theorem take_driverOutputs (t : Tracker) (token : DriverToken) :
    (t.takeDriverOutputContext token).2.driverOutputs = t.driverOutputs.erase token := by
  cases bound : t.driverOutputs.lookup token with
  | none =>
    rw [take_unbound bound]
    exact (erase_of_fresh (AList.lookup_eq_none.mp bound)).symm
  | some context =>
    by_cases negative : context.outputIndex < 0
    · rw [take_streaming bound negative]
    · rw [take_request bound negative]

def OnTokens : Op → Prop
  | .bindDriverOutput _ _ => True
  | .takeDriverOutputContext _ => True
  | .clearDriverOutputsForFrame _ => True
  | .flushAll => True
  | _ => False

theorem driverOutputs_kept (elsewhere : ¬ OnTokens op) :
    (run t op).2.driverOutputs = t.driverOutputs := by
  have on_rows : OnRows op → (run t op).2.driverOutputs = t.driverOutputs :=
    fun rows => (tables_kept rows).2
  cases op with
  | start request outputs => exact on_rows trivial
  | markQueuedToDriver f => exact on_rows trivial
  | complete f metadata => exact on_rows trivial
  | completeOutput f index fence metadata => exact on_rows trivial
  | registerStreamingOutput output =>
    simp only [run, Tracker.registerStreamingOutput]
    split <;> rfl
  | clearStreamingOutputs => rfl
  | fail f => exact on_rows trivial
  | bindDriverOutput other bound => exact absurd trivial elsewhere
  | takeDriverOutputContext other => exact absurd trivial elsewhere
  | clearDriverOutputsForFrame f => exact absurd trivial elsewhere
  | flushAll => exact absurd trivial elsewhere

theorem onTokens_of_binds {event : Event} (binds : Binds token context event) :
    OnTokens event.1 := by
  rw [binds]
  trivial

theorem onTokens_of_unbinds {event : Event} (unbinds : Unbinds token context event) :
    OnTokens event.1 := by
  rcases unbinds with taken | cleared | flushed | ⟨later, binds⟩
  · rw [taken]
    trivial
  · rw [cleared]
    trivial
  · rw [flushed]
    trivial
  · exact onTokens_of_binds binds

theorem token_step : (run t op).2.driverOutputs.lookup token = some context ↔
    Binds token context (op, (run t op).1) ∨
      t.driverOutputs.lookup token = some context ∧
        ¬ Unbinds token context (op, (run t op).1) := by
  by_cases elsewhere : ¬ OnTokens op
  · rw [driverOutputs_kept elsewhere]
    constructor
    · intro held
      exact Or.inr ⟨held, fun unbinds => elsewhere (onTokens_of_unbinds unbinds)⟩
    · rintro (binds | ⟨held, -⟩)
      · exact absurd (onTokens_of_binds binds) elsewhere
      · exact held
  · cases op with
    | bindDriverOutput other bound =>
      simp only [run, Tracker.bindDriverOutput]
      split
      · simp [Binds, Unbinds]
      · rename_i accepted
        have fresh : t.driverOutputs.lookup other = none :=
          AList.lookup_eq_none.mpr (not_or.mp accepted).2
        simp only [lookup_insert_eq_some, Binds, Unbinds, Prod.mk.injEq, Op.bindDriverOutput.injEq,
          and_true, reduceCtorEq, false_or]
        constructor
        · rintro (⟨rfl, rfl⟩ | ⟨different, held⟩)
          · exact Or.inl ⟨rfl, rfl⟩
          · refine Or.inr ⟨held, ?_⟩
            rintro ⟨later, same, -⟩
            exact different same.symm
        · rintro (⟨rfl, rfl⟩ | ⟨held, -⟩)
          · exact Or.inl ⟨rfl, rfl⟩
          · refine Or.inr ⟨?_, held⟩
            rintro rfl
            rw [fresh] at held
            cases held
    | takeDriverOutputContext other =>
      simp only [run, take_driverOutputs, lookup_erase_eq_some, Binds, Unbinds, Prod.mk.injEq,
        reduceCtorEq, false_and, exists_false, or_false, false_or,
        Op.takeDriverOutputContext.injEq]
      rw [and_comm, ne_comm]
    | clearDriverOutputsForFrame f =>
      simp only [run, Tracker.clearDriverOutputsForFrame, lookup_retain_eq_some, Binds, Unbinds,
        Prod.mk.injEq, reduceCtorEq, false_and, exists_false, or_false, false_or,
        Op.clearDriverOutputsForFrame.injEq, decide_eq_true_eq]
      rw [ne_comm]
    | flushAll => simp [run, Tracker.flushAll, Binds, Unbinds]
    | _ => exact absurd id elsewhere

theorem bound_iff (ops : List Op) :
    (after run Tracker.empty ops).driverOutputs.lookup token = some context ↔
      Bound (record run Tracker.empty ops) token context := by
  refine record_invariant run (fun t events => t.driverOutputs.lookup token = some context ↔
    Bound events token context) ?_ ?_ ops
  · simp [Tracker.empty, Bound, not_since_nil]
  · intro t events op same
    rw [token_step, Bound, since_snoc, same]
    rfl

end Tokens

section Streams

variable {t : Tracker} {op : Op} {frameNumber : Nat} {output : InFlightStreamingOutput}

/-- The operations that act on the streaming outputs; `flush_all` is not one of them. -/
def OnStreams : Op → Prop
  | .registerStreamingOutput _ => True
  | .takeDriverOutputContext _ => True
  | .clearStreamingOutputs => True
  | _ => False

theorem streamingOutputs_kept (elsewhere : ¬ OnStreams op) :
    (run t op).2.streamingOutputs = t.streamingOutputs := by
  have on_rows : OnRows op → (run t op).2.streamingOutputs = t.streamingOutputs :=
    fun rows => (tables_kept rows).1
  cases op with
  | start request outputs => exact on_rows trivial
  | markQueuedToDriver f => exact on_rows trivial
  | complete f metadata => exact on_rows trivial
  | completeOutput f index fence metadata => exact on_rows trivial
  | bindDriverOutput token context =>
    simp only [run, Tracker.bindDriverOutput]
    split <;> rfl
  | clearDriverOutputsForFrame f => rfl
  | fail f => exact on_rows trivial
  | flushAll => rfl
  | registerStreamingOutput output => exact absurd trivial elsewhere
  | takeDriverOutputContext token => exact absurd trivial elsewhere
  | clearStreamingOutputs => exact absurd trivial elsewhere

theorem take_stream_iff (token : DriverToken) :
    (t.takeDriverOutputContext token).2.streamingOutputs.lookup frameNumber = some output ↔
      t.streamingOutputs.lookup frameNumber = some output ∧
        ¬ ∃ resolved streaming, (t.takeDriverOutputContext token).1 = some resolved ∧
          resolved.frameNumber = frameNumber ∧ resolved.streamingOutput = some streaming := by
  cases bound : t.driverOutputs.lookup token with
  | none => simp [take_unbound bound]
  | some context =>
    by_cases negative : context.outputIndex < 0
    · rw [take_streaming bound negative, lookup_erase_eq_some]
      constructor
      · rintro ⟨different, held⟩
        refine ⟨held, ?_⟩
        rintro ⟨resolved, streaming, handed, same, -⟩
        obtain ⟨other, -, rfl⟩ := Option.map_eq_some_iff.mp handed
        exact different same.symm
      · rintro ⟨held, kept⟩
        refine ⟨?_, held⟩
        rintro rfl
        exact kept ⟨_, output, by rw [held]; rfl, rfl, rfl⟩
    · rw [take_request bound negative]
      constructor
      · intro held
        refine ⟨held, ?_⟩
        rintro ⟨resolved, streaming, handed, -, of_stream⟩
        obtain ⟨target, -, rfl⟩ := Option.map_eq_some_iff.mp handed
        cases of_stream
      · exact And.left

theorem stream_step : (run t op).2.streamingOutputs.lookup frameNumber = some output ↔
    Registers frameNumber output (op, (run t op).1) ∨
      t.streamingOutputs.lookup frameNumber = some output ∧
        ¬ Consumes frameNumber (op, (run t op).1) := by
  by_cases elsewhere : ¬ OnStreams op
  · rw [streamingOutputs_kept elsewhere]
    constructor
    · intro held
      refine Or.inr ⟨held, ?_⟩
      rintro (⟨token, resolved, streaming, taken, -⟩ | cleared)
      · obtain ⟨rfl, -⟩ := Prod.mk.inj taken
        exact elsewhere trivial
      · obtain rfl : op = .clearStreamingOutputs := cleared
        exact elsewhere trivial
    · rintro (⟨registered, -⟩ | ⟨held, -⟩)
      · obtain ⟨rfl, -⟩ := Prod.mk.inj registered
        exact absurd trivial elsewhere
      · exact held
  · cases op with
    | registerStreamingOutput other =>
      simp only [run, Tracker.registerStreamingOutput]
      split
      · simp [Registers, Consumes]
      · rename_i fresh
        have absent : t.streamingOutputs.lookup other.frameNumber = none :=
          AList.lookup_eq_none.mpr fresh
        simp only [lookup_insert_eq_some, Registers, Consumes, Prod.mk.injEq, and_true,
          Op.registerStreamingOutput.injEq, reduceCtorEq, false_and, exists_false, or_false,
          not_false_eq_true]
        constructor
        · rintro (⟨rfl, rfl⟩ | ⟨-, held⟩)
          · exact Or.inl ⟨rfl, rfl⟩
          · exact Or.inr held
        · rintro (⟨rfl, rfl⟩ | held)
          · exact Or.inl ⟨rfl, rfl⟩
          · refine Or.inr ⟨?_, held⟩
            rintro rfl
            rw [absent] at held
            cases held
    | takeDriverOutputContext token =>
      simp only [run, take_stream_iff, Registers, Consumes, Prod.mk.injEq, reduceCtorEq, false_and,
        or_false, false_or, Op.takeDriverOutputContext.injEq, Answer.resolved.injEq]
      simp
    | clearStreamingOutputs => simp [run, Tracker.clearStreamingOutputs, Registers, Consumes]
    | _ => exact absurd id elsewhere

theorem registered_iff (ops : List Op) :
    (after run Tracker.empty ops).streamingOutputs.lookup frameNumber = some output ↔
      Registered (record run Tracker.empty ops) frameNumber output := by
  refine record_invariant run (fun t events => t.streamingOutputs.lookup frameNumber =
    some output ↔ Registered events frameNumber output) ?_ ?_ ops
  · simp [Tracker.empty, Registered, not_since_nil]
  · intro t events op same
    rw [stream_step, Registered, since_snoc, same]
    rfl

end Streams

section Targets

variable {frameNumber : Nat} {index : Int} {target : OutputBufferTarget}

theorem find_markedBy (calls : List (Int × Int)) (outputs : List InFlightOutput) (index : Int) :
    ((outputs.map (markedBy calls)).find? fun output => output.outputIndex = index).map (·.target) =
      (outputs.find? fun output => output.outputIndex = index).map (·.target) := by
  have same : ∀ output : InFlightOutput, (markedBy calls output).outputIndex = output.outputIndex ∧
      (markedBy calls output).target = output.target := by
    intro output
    rw [markedBy_eq]
    split <;> exact ⟨rfl, rfl⟩
  simp only [List.find?_map, Option.map_map, Function.comp_def, (same _).1, (same _).2]

theorem target_iff (ops : List Op) :
    (after run Tracker.empty ops).outputTarget frameNumber index = some target ↔
      ∃ request outputs calls output,
        Opened frameNumber request outputs calls (record run Tracker.empty ops) ∧
        (outputs.find? fun other => other.outputIndex = index) = some output ∧
        output.target = target := by
  have R : RowsRecorded _ _ := rowsRecorded (t := Tracker.empty) rfl ops
  simp only [Tracker.outputTarget, Option.bind_eq_some_iff]
  constructor
  · rintro ⟨row, held, found⟩
    obtain ⟨request, outputs, calls, opened⟩ := R.opened_of_row frameNumber (mem_of_lookup held)
    obtain ⟨row', held', of_row⟩ := R.row_of_opened _ _ _ _ opened
    obtain rfl := Option.some.inj (held.symm.trans held')
    rw [of_row.buffers, find_markedBy] at found
    obtain ⟨output, first, rfl⟩ := Option.map_eq_some_iff.mp found
    exact ⟨request, outputs, calls, output, opened, first, rfl⟩
  · rintro ⟨request, outputs, calls, output, opened, first, rfl⟩
    obtain ⟨row, held, of_row⟩ := R.row_of_opened _ _ _ _ opened
    refine ⟨row, held, ?_⟩
    rw [of_row.buffers, find_markedBy, first]
    rfl

end Targets

section Runs

variable {token : DriverToken}

theorem resolved_was_bound (ops : List Op) (token : DriverToken) :
    Permitted (fun before event => ∀ resolved,
      event = (.takeDriverOutputContext token, .resolved (some resolved)) →
        ∃ context, Bound before token context) (record run Tracker.empty ops) := by
  induction ops using List.reverseRecOn with
  | nil => exact Permitted.nil
  | append_singleton ops op ih =>
    rw [record_snoc]
    apply ih.snoc
    intro resolved taken
    obtain ⟨rfl, answer⟩ := Prod.mk.inj taken
    cases bound : (after run Tracker.empty ops).driverOutputs.lookup token with
    | none =>
      simp only [run, take_unbound bound] at answer
      cases answer
    | some context => exact ⟨context, (bound_iff ops).mp bound⟩

/-- A take resolves its token exactly as the calls so far promise: by the bind that still
stands, and the streaming output or the request row its context names. -/
theorem take_resolves_iff (ops : List Op) (token : DriverToken)
    (resolved : ResolvedDriverOutput) :
    ((after run Tracker.empty ops).takeDriverOutputContext token).1 = some resolved ↔
      Resolves (record run Tracker.empty ops) token resolved := by
  cases bound : (after run Tracker.empty ops).driverOutputs.lookup token with
  | none =>
    rw [take_unbound bound]
    refine ⟨by simp, ?_⟩
    rintro ⟨context, stands, -⟩
    rw [← bound_iff, bound] at stands
    cases stands
  | some context =>
    have only : ∀ other, Bound (record run Tracker.empty ops) token other ↔ context = other := by
      intro other
      rw [← bound_iff, bound, Option.some.injEq]
    simp only [Resolves, only, exists_eq_left']
    by_cases negative : context.outputIndex < 0
    · have not_known : ¬ 0 ≤ context.outputIndex := Int.not_le.mpr negative
      simp only [take_streaming bound negative, negative, not_known, true_and, false_and, or_false,
        Option.map_eq_some_iff, registered_iff]
      constructor
      · rintro ⟨output, registered, rfl⟩
        exact ⟨output, registered, rfl⟩
      · rintro ⟨output, registered, rfl⟩
        exact ⟨output, registered, rfl⟩
    · have known : 0 ≤ context.outputIndex := Int.not_lt.mp negative
      simp only [take_request bound negative, negative, known, true_and, false_and, false_or,
        Option.map_eq_some_iff, target_iff]
      constructor
      · rintro ⟨target, ⟨request, outputs, calls, output, opened, first, rfl⟩, rfl⟩
        exact ⟨request, outputs, calls, output, opened, first, rfl⟩
      · rintro ⟨request, outputs, calls, output, opened, first, rfl⟩
        exact ⟨_, ⟨request, outputs, calls, output, opened, first, rfl⟩, rfl⟩

/-- After any calls on an empty tracker a take returns what its token stands for, between two
takes of a token that return something it was bound anew, and a take of a token that is not
bound changes nothing. -/
theorem token_resolution (ops : List Op) (token : DriverToken) :
    let t := after run Tracker.empty ops
    let events := record run Tracker.empty ops
    (∀ resolved, (t.takeDriverOutputContext token).1 = some resolved ↔
      Resolves events token resolved) ∧
    (∀ earlier between later first second,
      events = earlier ++ (.takeDriverOutputContext token, .resolved (some first)) ::
        between ++ (.takeDriverOutputContext token, .resolved (some second)) :: later →
      ∃ context, (.bindDriverOutput token context, .flag true) ∈ between) ∧
    ((∀ context, ¬ Bound events token context) →
      t.takeDriverOutputContext token = (none, t)) := by
  intro t events
  refine ⟨take_resolves_iff ops token, ?_, ?_⟩
  · intro earlier between later first second whole
    obtain ⟨context, stands⟩ := resolved_was_bound ops token _ _ _ whole second rfl
    obtain ⟨event, member, rfl⟩ := stands.began_after (Or.inl rfl) (by simp [Binds])
    exact ⟨context, member⟩
  · intro unbound
    cases bound : t.driverOutputs.lookup token with
    | none => exact take_unbound bound
    | some context => exact absurd ((bound_iff ops).mp bound) (unbound context)

/-- Token 5 is taken once and bound anew, token 6 stands for a preview. -/
private def boundTwice : List Op :=
  [.start { frameNumber := 1 } [{ outputIndex := 0, target := { bufferId := 11 } }],
   .registerStreamingOutput { frameNumber := 900, target := { bufferId := 20 } },
   .bindDriverOutput 5 { frameNumber := 1, outputIndex := 0 },
   .bindDriverOutput 6 { frameNumber := 900, outputIndex := -1 },
   .takeDriverOutputContext 5, .takeDriverOutputContext 5,
   .bindDriverOutput 5 { frameNumber := 1, outputIndex := 0 }]

theorem token_resolution_taken :
    ∃ capture preview : ResolvedDriverOutput,
      capture.target.bufferId = 11 ∧ preview.streamingOutput.isSome = true ∧
      Resolves (record run Tracker.empty boundTwice) 5 capture ∧
      Resolves (record run Tracker.empty boundTwice) 6 preview := by
  have fifth := (token_resolution boundTwice 5).1
  have sixth := (token_resolution boundTwice 6).1
  exact ⟨_, _, rfl, rfl, (fifth _).mp rfl, (sixth _).mp rfl⟩

end Runs

end MiniCam.Hal.TokenResolution
