/- Module: MiniCam/Hal/TrackerInvariant
   source: hal/in_flight_request_tracker.cpp, hal/camera_device_session.cpp
   digest: Rows, tokens and streaming rows name one another, through every tracker update. -/

import MiniCam.Hal.CameraDeviceSession

set_option autoImplicit false
set_option relaxedAutoImplicit false

namespace MiniCam.Hal.TrackerInvariant

open MiniCam.Foundation.KeyedTable
open MiniCam.Hal.Interface
open MiniCam.Hal.InFlightRequestTracker
open MiniCam.Hal.CameraDeviceSession

variable {δ : Type}

structure LiveRow (frameNumber : Nat) (row : InFlightRequest) : Prop where
  key : row.frameNumber = frameNumber
  indices : row.outputBuffers.map (·.outputIndex) =
    (List.range row.outputBuffers.length).map fun i : Nat => (i : Int)
  queued : row.state = .queuedToDriver
  unfinished : ∃ output ∈ row.outputBuffers, output.completed = false

/-- A token with a nonnegative index names an open output of a live row and is the
only one to do so; one with a negative index names a streaming row of its own. -/
structure Consistent (t : Tracker) (next : Nat) : Prop where
  rows : ∀ f row, t.requests.lookup f = some row → LiveRow f row
  named : ∀ τ c, t.driverOutputs.lookup τ = some c → 0 ≤ c.outputIndex →
    ∃ row, t.requests.lookup c.frameNumber = some row ∧
      ∃ output ∈ row.outputBuffers, output.outputIndex = c.outputIndex ∧ output.completed = false
  covered : ∀ f row output, t.requests.lookup f = some row → output ∈ row.outputBuffers →
    output.completed = false →
      ∃! τ, t.driverOutputs.lookup τ = some { frameNumber := f, outputIndex := output.outputIndex }
  streams : ∀ τ c, t.driverOutputs.lookup τ = some c → c.outputIndex < 0 →
    c.outputIndex = -1 ∧ ∃ output, t.streamingOutputs.lookup c.frameNumber = some output
  separate : ∀ τ τ' c c', t.driverOutputs.lookup τ = some c → t.driverOutputs.lookup τ' = some c' →
    c.outputIndex < 0 → c'.outputIndex < 0 → c.frameNumber = c'.frameNumber → τ = τ'
  fresh : ∀ f output, t.streamingOutputs.lookup f = some output →
    output.frameNumber = f ∧ f < next

theorem LiveRow.at_index {f : Nat} {row : InFlightRequest} (live : LiveRow f row) {k : Nat}
    {output : InFlightOutput} (found : row.outputBuffers[k]? = some output) :
    output.outputIndex = (k : Int) := by
  have inside := (List.getElem?_eq_some_iff.mp found).1
  have index : (row.outputBuffers.map (·.outputIndex))[k]? = some (k : Int) := by
    rw [live.indices]
    simp [inside]
  simpa [found] using index

theorem LiveRow.index_nonneg {f : Nat} {row : InFlightRequest} (live : LiveRow f row)
    {output : InFlightOutput} (member : output ∈ row.outputBuffers) : 0 ≤ output.outputIndex := by
  obtain ⟨k, found⟩ := List.getElem?_of_mem member
  rw [live.at_index found]
  omega

theorem LiveRow.output_unique {f : Nat} {row : InFlightRequest} (live : LiveRow f row)
    {output output' : InFlightOutput} (member : output ∈ row.outputBuffers)
    (member' : output' ∈ row.outputBuffers) (same : output.outputIndex = output'.outputIndex) :
    output = output' := by
  obtain ⟨k, found⟩ := List.getElem?_of_mem member
  obtain ⟨k', found'⟩ := List.getElem?_of_mem member'
  rw [live.at_index found, live.at_index found'] at same
  obtain rfl : k = k' := by omega
  exact Option.some.inj (found.symm.trans found')

theorem LiveRow.indices_nodup {f : Nat} {row : InFlightRequest} (live : LiveRow f row) :
    (row.outputBuffers.map (·.outputIndex)).Nodup := by
  rw [live.indices]
  refine List.Nodup.map (fun i j same => ?_) List.nodup_range
  omega

theorem Consistent.mono {t : Tracker} {m n : Nat} (C : Consistent t m) (le : m ≤ n) :
    Consistent t n :=
  { C with fresh := fun f output found =>
      ⟨(C.fresh f output found).1, Nat.lt_of_lt_of_le (C.fresh f output found).2 le⟩ }

theorem empty_consistent (next : Nat) : Consistent Tracker.empty next := by
  constructor <;> simp [Tracker.empty]

section Streaming

private theorem bindStreaming_consistent {t t' : Tracker} {next : Nat} {token : DriverToken}
    {output : InFlightStreamingOutput} {ok : Bool} (C : Consistent t next)
    (own : output.frameNumber = next)
    (run : bindStreamingOutputs [(token, output)] t = (ok, t')) : Consistent t' (next + 1) := by
  have absent : output.frameNumber ∉ t.streamingOutputs := by
    intro member
    obtain ⟨found, at_found⟩ := Option.isSome_iff_exists.mp (AList.lookup_isSome.mpr member)
    have below := (C.fresh _ _ at_found).2
    omega
  have registered : Consistent { t with
      streamingOutputs := t.streamingOutputs.insert output.frameNumber output } (next + 1) := by
    refine { C with streams := ?_, fresh := ?_ }
    · intro τ c found negative
      obtain ⟨minus, row, at_row⟩ := C.streams τ c found negative
      refine ⟨minus, row, lookup_insert_eq_some.mpr (Or.inr ⟨?_, at_row⟩)⟩
      have below := (C.fresh _ _ at_row).2
      omega
    · intro f found at_found
      rcases lookup_insert_eq_some.mp at_found with ⟨rfl, rfl⟩ | ⟨-, before⟩
      · exact ⟨rfl, by omega⟩
      · exact ⟨(C.fresh f found before).1, by have := (C.fresh f found before).2; omega⟩
  simp only [bindStreamingOutputs, Tracker.registerStreamingOutput, absent, if_false] at run
  simp only [Tracker.bindDriverOutput] at run
  split at run
  · rename_i refused
    split at refused <;> cases refused
    cases run
    exact registered
  · rename_i bound
    split at bound <;> cases bound
    rename_i usable
    cases run
    push Not at usable
    have unnamed : ∀ τ c, t.driverOutputs.lookup τ = some c → c.outputIndex < 0 →
        c.frameNumber ≠ output.frameNumber := by
      intro τ c found negative same
      obtain ⟨-, row, at_row⟩ := C.streams τ c found negative
      exact absent (same ▸ mem_of_lookup at_row)
    refine { registered with named := ?_, covered := ?_, streams := ?_, separate := ?_ }
    · intro τ c found nonnegative
      rcases lookup_insert_eq_some.mp found with ⟨-, rfl⟩ | ⟨-, before⟩
      · simp at nonnegative
      · exact C.named τ c before nonnegative
    · intro f row o at_row member still
      obtain ⟨τ, at_τ, unique⟩ := C.covered f row o at_row member still
      have nonnegative := (C.rows f row at_row).index_nonneg member
      refine ⟨τ, lookup_insert_eq_some.mpr (Or.inr ⟨?_, at_τ⟩), ?_⟩
      · rintro rfl
        exact usable.2 (mem_of_lookup at_τ)
      · intro τ' found
        rcases lookup_insert_eq_some.mp found with ⟨-, same⟩ | ⟨-, before⟩
        · have index : o.outputIndex = -1 := congrArg DriverOutputContext.outputIndex same
          omega
        · exact unique τ' before
    · intro τ c found negative
      rcases lookup_insert_eq_some.mp found with ⟨-, rfl⟩ | ⟨-, before⟩
      · exact ⟨rfl, output, AList.lookup_insert _⟩
      · exact registered.streams τ c before negative
    · intro τ τ' c c' found found' negative negative' same
      rcases lookup_insert_eq_some.mp found with ⟨rfl, rfl⟩ | ⟨-, before⟩ <;>
        rcases lookup_insert_eq_some.mp found' with ⟨rfl, rfl⟩ | ⟨-, before'⟩
      · rfl
      · exact (unnamed τ' c' before' negative' same.symm).elim
      · exact (unnamed τ c before negative same).elim
      · exact C.separate τ τ' c c' before before' negative negative' same

private theorem bindStreamingOutputs_cons (token : DriverToken) (output : InFlightStreamingOutput)
    (rest : List (DriverToken × InFlightStreamingOutput)) (t : Tracker) :
    bindStreamingOutputs ((token, output) :: rest) t =
      match bindStreamingOutputs [(token, output)] t with
      | (false, t') => (false, t')
      | (true, t') => bindStreamingOutputs rest t' := by
  simp only [bindStreamingOutputs]
  cases t.registerStreamingOutput output with
  | mk ok t' =>
    cases ok
    · rfl
    · cases h : t'.bindDriverOutput token
        { frameNumber := output.frameNumber, outputIndex := -1 } with
      | mk bound t'' => cases bound <;> simp [h]

theorem bindStreamingOutputs_consistent {pairs : List (DriverToken × InFlightStreamingOutput)}
    {t : Tracker} {next : Nat} (C : Consistent t next)
    (frames : pairs.map (·.2.frameNumber) = List.range' next pairs.length) :
    Consistent (bindStreamingOutputs pairs t).2 (next + pairs.length) := by
  induction pairs generalizing t next with
  | nil => exact C
  | cons pair rest ih =>
    obtain ⟨token, output⟩ := pair
    simp only [List.map_cons, List.length_cons, List.range'_succ, List.cons.injEq] at frames
    rw [bindStreamingOutputs_cons]
    cases first : bindStreamingOutputs [(token, output)] t with
    | mk ok t' =>
      have one := bindStreaming_consistent C frames.1 first
      cases ok
      · exact one.mono (by simp only [List.length_cons]; omega)
      · have more := ih one frames.2
        simp only [List.length_cons]
        rwa [show next + (rest.length + 1) = next + 1 + rest.length by omega]

theorem streamingOutputsFrom_frames (next : Nat) (buffers : List OutputBufferTarget) :
    (streamingOutputsFrom next buffers).map (·.frameNumber) = List.range' next buffers.length := by
  induction buffers generalizing next with
  | nil => rfl
  | cons target rest ih =>
    have step := ih (next + 1)
    simp only [streamingOutputsFrom, List.zipIdx_cons, List.map_cons, List.length_cons,
      List.range'_succ] at step ⊢
    rw [step]

theorem bindStreamingOutputs_adds (pairs : List (DriverToken × InFlightStreamingOutput))
    (t : Tracker) :
    (bindStreamingOutputs pairs t).2.requests = t.requests ∧
      (∀ f output, t.streamingOutputs.lookup f = some output →
        (bindStreamingOutputs pairs t).2.streamingOutputs.lookup f = some output) ∧
      (∀ τ c, t.driverOutputs.lookup τ = some c →
        (bindStreamingOutputs pairs t).2.driverOutputs.lookup τ = some c) ∧
      ∀ τ c, (bindStreamingOutputs pairs t).2.driverOutputs.lookup τ = some c →
        t.driverOutputs.lookup τ = some c ∨
          (τ ∉ t.driverOutputs ∧ τ ≠ 0 ∧ ∃ output, (τ, output) ∈ pairs ∧
            c = { frameNumber := output.frameNumber, outputIndex := -1 } ∧
            (bindStreamingOutputs pairs t).2.streamingOutputs.lookup output.frameNumber =
              some output) := by
  induction pairs generalizing t with
  | nil => exact ⟨rfl, fun _ _ found => found, fun _ _ found => found, fun _ _ => Or.inl⟩
  | cons pair rest ih =>
    obtain ⟨token, output⟩ := pair
    simp only [bindStreamingOutputs, Tracker.registerStreamingOutput, Tracker.bindDriverOutput]
    split
    · rename_i refused
      split at refused <;> cases refused
      exact ⟨rfl, fun _ _ found => found, fun _ _ found => found, fun _ _ => Or.inl⟩
    rename_i registered
    split at registered <;> cases registered
    rename_i unregistered
    have streams : ∀ f found, t.streamingOutputs.lookup f = some found →
        (t.streamingOutputs.insert output.frameNumber output).lookup f = some found := by
      intro f found at_f
      refine lookup_insert_eq_some.mpr (Or.inr ⟨?_, at_f⟩)
      rintro rfl
      exact unregistered (mem_of_lookup at_f)
    split
    · rename_i refused
      split at refused <;> cases refused
      exact ⟨rfl, streams, fun _ _ found => found, fun _ _ => Or.inl⟩
    rename_i bound
    split at bound <;> cases bound
    rename_i usable
    push Not at usable
    obtain ⟨rows, more, kept, news⟩ := ih { t with
      streamingOutputs := t.streamingOutputs.insert output.frameNumber output
      driverOutputs := t.driverOutputs.insert token
        { frameNumber := output.frameNumber, outputIndex := -1 } }
    refine ⟨rows, fun f found at_f => more f found (streams f found at_f), ?_, ?_⟩
    · intro τ c at_τ
      refine kept τ c (lookup_insert_eq_some.mpr (Or.inr ⟨?_, at_τ⟩))
      rintro rfl
      exact usable.2 (mem_of_lookup at_τ)
    · intro τ c at_τ
      rcases news τ c at_τ with inserted | ⟨fresh, nonzero, named, member, same, registered⟩
      · rcases lookup_insert_eq_some.mp inserted with ⟨rfl, rfl⟩ | ⟨-, before⟩
        · exact Or.inr ⟨usable.2, usable.1, output, List.mem_cons_self, rfl,
            more _ _ (AList.lookup_insert _)⟩
        · exact Or.inl before
      · exact Or.inr ⟨fun old => fresh (AList.mem_insert _ |>.mpr (Or.inr old)), nonzero, named,
          List.mem_cons_of_mem _ member, same, registered⟩

end Streaming

section Failure

/-- The net effect of every failure exit: no row and no token of the frame is left. -/
def dropFrame (t : Tracker) (frameNumber : Nat) : Tracker :=
  { t with
    requests := t.requests.erase frameNumber
    driverOutputs := retain t.driverOutputs fun c => c.frameNumber ≠ frameNumber }

theorem fail_clear (t : Tracker) (frameNumber : Nat) :
    (t.fail frameNumber).2.clearDriverOutputsForFrame frameNumber = dropFrame t frameNumber := by
  cases found : t.requests.lookup frameNumber with
  | none =>
    have absent : frameNumber ∉ t.requests := AList.lookup_eq_none.mp found
    simp [Tracker.fail, found, Tracker.clearDriverOutputsForFrame, dropFrame,
      erase_of_fresh absent]
  | some row => simp [Tracker.fail, found, Tracker.clearDriverOutputsForFrame, dropFrame]

theorem lookup_dropFrame_tokens {t : Tracker} {frameNumber : Nat} {τ : DriverToken}
    {c : DriverOutputContext} : (dropFrame t frameNumber).driverOutputs.lookup τ = some c ↔
      t.driverOutputs.lookup τ = some c ∧ c.frameNumber ≠ frameNumber := by
  simp only [dropFrame, lookup_retain_eq_some, decide_eq_true_eq]

theorem lookup_dropFrame_rows {t : Tracker} {frameNumber f : Nat} {row : InFlightRequest} :
    (dropFrame t frameNumber).requests.lookup f = some row ↔
      f ≠ frameNumber ∧ t.requests.lookup f = some row :=
  lookup_erase_eq_some

theorem dropFrame_consistent {t : Tracker} {next : Nat} (C : Consistent t next)
    (frameNumber : Nat) : Consistent (dropFrame t frameNumber) next where
  rows := fun f row found => C.rows f row (lookup_dropFrame_rows.mp found).2
  named := by
    intro τ c found nonnegative
    obtain ⟨before, other⟩ := lookup_dropFrame_tokens.mp found
    obtain ⟨row, at_row, rest⟩ := C.named τ c before nonnegative
    exact ⟨row, lookup_dropFrame_rows.mpr ⟨other, at_row⟩, rest⟩
  covered := by
    intro f row output at_row member still
    obtain ⟨other, before⟩ := lookup_dropFrame_rows.mp at_row
    obtain ⟨τ, at_τ, unique⟩ := C.covered f row output before member still
    refine ⟨τ, lookup_dropFrame_tokens.mpr ⟨at_τ, other⟩, ?_⟩
    exact fun τ' found => unique τ' (lookup_dropFrame_tokens.mp found).1
  streams := fun τ c found => C.streams τ c (lookup_dropFrame_tokens.mp found).1
  separate := fun τ τ' c c' found found' =>
    C.separate τ τ' c c' (lookup_dropFrame_tokens.mp found).1 (lookup_dropFrame_tokens.mp found').1
  fresh := C.fresh

end Failure

section Submission

variable (D : DriverAdapter δ)

theorem submitOutputs_spec {frameNumber : Nat} {pairs : List (OutputBufferTarget × InFlightOutput)}
    {d d' : δ} {t t' : Tracker} {ok : Bool}
    (run : submitOutputs D frameNumber pairs d t = (ok, d', t')) :
    t'.requests = t.requests ∧ t'.streamingOutputs = t.streamingOutputs ∧
      t'.clearDriverOutputsForFrame frameNumber = t.clearDriverOutputsForFrame frameNumber ∧
      (ok = true → ∃ tokens : List DriverToken, tokens.length = pairs.length ∧ tokens.Nodup ∧
        (∀ τ ∈ tokens, τ ∉ t.driverOutputs) ∧
        ∀ τ c, t'.driverOutputs.lookup τ = some c ↔ t.driverOutputs.lookup τ = some c ∨
          (τ, c) ∈ tokens.zip (pairs.map fun p =>
            ({ frameNumber := frameNumber, outputIndex := p.2.outputIndex } :
              DriverOutputContext))) := by
  induction pairs generalizing d t with
  | nil =>
    cases run
    exact ⟨rfl, rfl, rfl, fun _ => ⟨[], by simp⟩⟩
  | cons pair rest ih =>
    obtain ⟨target, output⟩ := pair
    simp only [submitOutputs, Tracker.bindDriverOutput] at run
    split at run
    · cases run
      exact ⟨rfl, rfl, rfl, fun done => by cases done⟩
    · rename_i token d₁ submitted
      split at run
      · rename_i refused
        split at refused <;> cases refused
        cases run
        exact ⟨rfl, rfl, rfl, fun done => by cases done⟩
      · rename_i bound
        split at bound <;> cases bound
        rename_i usable
        push Not at usable
        obtain ⟨rows, streams, cleared, tokens⟩ := ih run
        refine ⟨rows, streams, ?_, ?_⟩
        · rw [cleared]
          simp only [Tracker.clearDriverOutputsForFrame]
          rw [retain_insert_of_fails usable.2 (by simp)]
        · intro done
          obtain ⟨more, length, nodup, unbound, lookups⟩ := tokens done
          have distinct : token ∉ more := by
            intro member
            exact unbound token member (AList.mem_insert _ |>.mpr (Or.inl rfl))
          refine ⟨token :: more, by simp [length], List.nodup_cons.mpr ⟨distinct, nodup⟩, ?_, ?_⟩
          · intro τ member
            rcases List.mem_cons.mp member with rfl | later
            · exact usable.2
            · intro old
              exact unbound τ later (AList.mem_insert _ |>.mpr (Or.inr old))
          · intro τ c
            rw [lookups, lookup_insert_eq_some]
            simp only [List.map_cons, List.zip_cons_cons, List.mem_cons, Prod.mk.injEq]
            constructor
            · rintro ((here | ⟨-, before⟩) | later)
              · exact Or.inr (Or.inl here)
              · exact Or.inl before
              · exact Or.inr (Or.inr later)
            · rintro (before | here | later)
              · refine Or.inl (Or.inr ⟨?_, before⟩)
                rintro rfl
                exact usable.2 (mem_of_lookup before)
              · exact Or.inl (Or.inl here)
              · exact Or.inr later

def requestPairs (request : CaptureRequest) : List (OutputBufferTarget × InFlightOutput) :=
  (requestOutputsFor request).zip (makeInFlightOutputs (requestOutputsFor request))

theorem requestPairs_outputs (request : CaptureRequest) :
    (requestPairs request).map Prod.fst = requestOutputsFor request := by
  apply List.map_fst_zip
  simp [makeInFlightOutputs]

def queuedRow (request : CaptureRequest) : InFlightRequest :=
  { frameNumber := request.frameNumber
    request := request
    outputBuffers := makeInFlightOutputs (requestOutputsFor request)
    state := .queuedToDriver
    submittedAt := request.submittedAt }

theorem makeInFlightOutputs_getElem? (outputs : List OutputBufferTarget) (k : Nat) :
    (makeInFlightOutputs outputs)[k]? =
      outputs[k]?.map fun target => { target := target, outputIndex := (k : Int) } := by
  simp only [makeInFlightOutputs, List.getElem?_map, List.getElem?_zipIdx, Option.map_map]
  congr 1
  funext target
  simp

theorem requestOutputsFor_ne_nil (request : CaptureRequest) : requestOutputsFor request ≠ [] := by
  unfold requestOutputsFor
  split <;> simp_all

theorem queuedRow_live (request : CaptureRequest) :
    LiveRow request.frameNumber (queuedRow request) where
  key := rfl
  indices := by
    apply List.ext_getElem?
    intro k
    simp only [queuedRow, List.getElem?_map, makeInFlightOutputs_getElem?, Option.map_map]
    by_cases inside : k < (requestOutputsFor request).length
    · simp [inside, makeInFlightOutputs]
    · have beyond := Nat.le_of_not_lt inside
      simp [beyond, makeInFlightOutputs]
  queued := rfl
  unfinished := by
    obtain ⟨target, rest, outputs⟩ := List.exists_cons_of_ne_nil (requestOutputsFor_ne_nil request)
    refine ⟨{ target := target, outputIndex := 0 }, ?_, rfl⟩
    simp [queuedRow, outputs, makeInFlightOutputs, List.zipIdx_cons]

structure Submitted (t t' : Tracker) (request : CaptureRequest) (tokens : List DriverToken) :
    Prop where
  absent : request.frameNumber ∉ t.requests
  rows : t'.requests = t.requests.insert request.frameNumber (queuedRow request)
  streams : t'.streamingOutputs = t.streamingOutputs
  length : tokens.length = (requestOutputsFor request).length
  nodup : tokens.Nodup
  unbound : ∀ τ ∈ tokens, τ ∉ t.driverOutputs
  lookups : ∀ τ c, t'.driverOutputs.lookup τ = some c ↔ t.driverOutputs.lookup τ = some c ∨
    ∃ k : Nat, tokens[k]? = some τ ∧
      c = { frameNumber := request.frameNumber, outputIndex := (k : Int) }

private theorem zip_contexts {request : CaptureRequest} {tokens : List DriverToken}
    {τ : DriverToken} {c : DriverOutputContext} :
    (τ, c) ∈ tokens.zip ((requestPairs request).map fun p =>
          ({ frameNumber := request.frameNumber, outputIndex := p.2.outputIndex } :
            DriverOutputContext)) ↔
      ∃ k : Nat, tokens[k]? = some τ ∧ k < (requestOutputsFor request).length ∧
        c = { frameNumber := request.frameNumber, outputIndex := (k : Int) } := by
  rw [List.mem_iff_getElem?]
  refine exists_congr fun k => ?_
  rw [List.getElem?_zip_eq_some]
  simp only [List.getElem?_map, Option.map_eq_some_iff]
  constructor
  · rintro ⟨at_token, ⟨target, output⟩, at_pair, rfl⟩
    rw [requestPairs, List.getElem?_zip_eq_some, makeInFlightOutputs_getElem?] at at_pair
    obtain ⟨at_target, made⟩ := at_pair
    rw [at_target] at made
    simp only [Option.map_some, Option.some.injEq] at made
    subst made
    exact ⟨at_token, (List.getElem?_eq_some_iff.mp at_target).1, rfl⟩
  · rintro ⟨at_token, inside, rfl⟩
    refine ⟨at_token, ((requestOutputsFor request)[k],
      { target := (requestOutputsFor request)[k], outputIndex := (k : Int) }), ?_, rfl⟩
    rw [requestPairs, List.getElem?_zip_eq_some, makeInFlightOutputs_getElem?,
      List.getElem?_eq_getElem inside]
    exact ⟨rfl, rfl⟩

/-- A submission of a fresh frame either binds every output or leaves nothing that
the cleanup of its frame number does not remove. -/
theorem submitRequestToDriver_spec {request : CaptureRequest} {d d' : δ} {t t₁ t' : Tracker}
    {ok : Bool}
    (started : t.start request (makeInFlightOutputs (requestOutputsFor request)) = (true, t₁))
    (run : submitRequestToDriver D request (requestOutputsFor request)
      (makeInFlightOutputs (requestOutputsFor request)) d t₁ = (ok, d', t')) :
    request.frameNumber ∉ t.requests ∧ t₁.driverOutputs = t.driverOutputs ∧ ∃ t₂,
      (ok = false ∧
        submitOutputs D request.frameNumber (requestPairs request) d t₁ = (false, d', t₂) ∧
        dropFrame t' request.frameNumber = dropFrame t request.frameNumber ∧
        t'.requests.lookup request.frameNumber =
          some { queuedRow request with state := .submitted }) ∨
      (ok = true ∧
        submitOutputs D request.frameNumber (requestPairs request) d t₁ = (true, d', t₂) ∧
        t'.driverOutputs = t₂.driverOutputs ∧ ∃ tokens, Submitted t t' request tokens) := by
  simp only [Tracker.start] at started
  split at started
  · cases started
  rename_i startable
  push Not at startable
  obtain ⟨absent, -⟩ := startable
  cases started
  refine ⟨absent, rfl, ?_⟩
  simp only [submitRequestToDriver] at run
  split at run
  · rename_i d₂ t₂ stopped
    cases run
    obtain ⟨rows, streams, cleared, -⟩ := submitOutputs_spec D stopped
    refine ⟨t₂, Or.inl ⟨rfl, stopped, ?_, ?_⟩⟩
    · rw [cleared]
      simp only [dropFrame, Tracker.clearDriverOutputsForFrame, Tracker.mk.injEq, true_and]
      refine ⟨?_, ?_⟩
      · rw [erase_insert_of_fresh absent, erase_of_fresh absent]
      · apply AList.ext
        simp [retain]
    · simp only [Tracker.clearDriverOutputsForFrame, rows, AList.lookup_insert]
      rfl
  · rename_i d₂ t₂ finished
    cases run
    obtain ⟨rows, streams, -, bound⟩ := submitOutputs_spec D finished
    obtain ⟨tokens, length, nodup, unbound, lookups⟩ := bound rfl
    have marked : (t₂.markQueuedToDriver request.frameNumber) =
        (true, { t₂ with
          requests := t.requests.insert request.frameNumber (queuedRow request) }) := by
      simp only [Tracker.markQueuedToDriver, rows, AList.lookup_insert, if_true,
        AList.insert_insert]
      rfl
    have outputs : tokens.length = (requestOutputsFor request).length := by
      simpa [makeInFlightOutputs] using length
    simp only [marked]
    refine ⟨t₂, Or.inr ⟨trivial, finished, rfl, tokens, absent, rfl, streams, outputs, nodup,
      unbound, ?_⟩⟩
    intro τ c
    rw [lookups]
    change _ ∨ (τ, c) ∈ tokens.zip ((requestPairs request).map _) ↔ _
    rw [zip_contexts]
    constructor
    · rintro (before | ⟨k, at_k, -, rfl⟩)
      · exact Or.inl before
      · exact Or.inr ⟨k, at_k, rfl⟩
    · rintro (before | ⟨k, at_k, rfl⟩)
      · exact Or.inl before
      · exact Or.inr ⟨k, at_k, outputs ▸ (List.getElem?_eq_some_iff.mp at_k).1, rfl⟩

theorem submitted_consistent {t t' : Tracker} {request : CaptureRequest}
    {tokens : List DriverToken} {next : Nat} (C : Consistent t next)
    (S : Submitted t t' request tokens) : Consistent t' next where
  rows := by
    intro f row found
    rw [S.rows] at found
    rcases lookup_insert_eq_some.mp found with ⟨rfl, rfl⟩ | ⟨-, before⟩
    · exact queuedRow_live request
    · exact C.rows f row before
  named := by
    intro τ c found nonnegative
    rw [S.rows]
    rcases (S.lookups τ c).mp found with before | ⟨k, at_k, rfl⟩
    · obtain ⟨row, at_row, rest⟩ := C.named τ c before nonnegative
      refine ⟨row, lookup_insert_eq_some.mpr (Or.inr ⟨?_, at_row⟩), rest⟩
      intro same
      exact S.absent (same ▸ mem_of_lookup at_row)
    · have inside : k < (requestOutputsFor request).length :=
        S.length ▸ (List.getElem?_eq_some_iff.mp at_k).1
      refine ⟨queuedRow request, AList.lookup_insert _,
        { target := (requestOutputsFor request)[k], outputIndex := (k : Int) }, ?_, rfl, rfl⟩
      apply List.mem_of_getElem? (i := k)
      simp [queuedRow, makeInFlightOutputs_getElem?, List.getElem?_eq_getElem inside]
  covered := by
    intro f row output found member still
    rw [S.rows] at found
    rcases lookup_insert_eq_some.mp found with ⟨rfl, rfl⟩ | ⟨other, before⟩
    · obtain ⟨k, at_k⟩ := List.getElem?_of_mem member
      have index := (queuedRow_live request).at_index at_k
      have inside : k < tokens.length := by
        have bound := (List.getElem?_eq_some_iff.mp at_k).1
        simpa [S.length, queuedRow, makeInFlightOutputs] using bound
      refine ⟨tokens[k], (S.lookups _ _).mpr (Or.inr ⟨k, by simp [inside], by rw [index]⟩), ?_⟩
      intro τ bound
      rcases (S.lookups _ _).mp bound with old | ⟨k', at_k', same⟩
      · obtain ⟨row, at_row, -⟩ :=
          C.named τ _ old ((queuedRow_live request).index_nonneg member)
        exact (S.absent (mem_of_lookup at_row)).elim
      · have equal := congrArg DriverOutputContext.outputIndex same
        simp only [index] at equal
        obtain rfl : k = k' := by omega
        rw [List.getElem?_eq_getElem inside] at at_k'
        exact (Option.some.inj at_k').symm
    · obtain ⟨τ, at_τ, unique⟩ := C.covered f row output before member still
      refine ⟨τ, (S.lookups _ _).mpr (Or.inl at_τ), ?_⟩
      intro τ' bound
      rcases (S.lookups _ _).mp bound with old | ⟨k, -, same⟩
      · exact unique τ' old
      · exact (other (congrArg DriverOutputContext.frameNumber same)).elim
  streams := by
    intro τ c found negative
    rw [S.streams]
    rcases (S.lookups τ c).mp found with before | ⟨k, -, rfl⟩
    · exact C.streams τ c before negative
    · simp only at negative
      omega
  separate := by
    intro τ τ' c c' found found' negative negative' same
    rcases (S.lookups τ c).mp found with before | ⟨k, -, rfl⟩
    · rcases (S.lookups τ' c').mp found' with before' | ⟨k, -, rfl⟩
      · exact C.separate τ τ' c c' before before' negative negative' same
      · simp only at negative'
        omega
    · simp only at negative
      omega
  fresh := by
    rw [S.streams]
    exact C.fresh

end Submission

section Completion

theorem take_stream {t : Tracker} {next : Nat} (C : Consistent t next) {τ : DriverToken}
    {c : DriverOutputContext} (found : t.driverOutputs.lookup τ = some c)
    (negative : c.outputIndex < 0) :
    ∃ output, t.streamingOutputs.lookup c.frameNumber = some output ∧
      t.takeDriverOutputContext τ =
        (some
          { frameNumber := c.frameNumber
            outputIndex := c.outputIndex
            target := output.target
            streamingOutput := some output },
          { t with
            driverOutputs := t.driverOutputs.erase τ
            streamingOutputs := t.streamingOutputs.erase c.frameNumber }) := by
  obtain ⟨-, output, at_row⟩ := C.streams τ c found negative
  refine ⟨output, at_row, ?_⟩
  simp [Tracker.takeDriverOutputContext, found, negative, Tracker.takeStreamingOutput, at_row]

theorem outputTarget_of_member {t : Tracker} {next : Nat} (C : Consistent t next) {f : Nat}
    {row : InFlightRequest} {output : InFlightOutput} (live : t.requests.lookup f = some row)
    (member : output ∈ row.outputBuffers) :
    t.outputTarget f output.outputIndex = some output.target := by
  have first : row.outputBuffers.find? (fun o => o.outputIndex = output.outputIndex) =
      some output := by
    cases at_find : row.outputBuffers.find? (fun o => decide (o.outputIndex = output.outputIndex))
      with
    | none => simpa using List.find?_eq_none.mp at_find output member
    | some other =>
      have same : other.outputIndex = output.outputIndex := by simpa using List.find?_some at_find
      rw [(C.rows f row live).output_unique (List.mem_of_find?_eq_some at_find) member same]
  simp [Tracker.outputTarget, live, first]

theorem take_output {t : Tracker} {next : Nat} (C : Consistent t next) {τ : DriverToken}
    {c : DriverOutputContext} (found : t.driverOutputs.lookup τ = some c)
    (nonnegative : 0 ≤ c.outputIndex) :
    ∃ row output, t.requests.lookup c.frameNumber = some row ∧ output ∈ row.outputBuffers ∧
      output.outputIndex = c.outputIndex ∧ output.completed = false ∧
      t.takeDriverOutputContext τ =
        (some
          { frameNumber := c.frameNumber
            outputIndex := c.outputIndex
            target := output.target
            streamingOutput := none },
          { t with driverOutputs := t.driverOutputs.erase τ }) := by
  obtain ⟨row, at_row, output, member, index, still⟩ := C.named τ c found nonnegative
  refine ⟨row, output, at_row, member, index, still, ?_⟩
  have target := outputTarget_of_member C at_row member
  rw [index] at target
  have kept : ({ t with driverOutputs := t.driverOutputs.erase τ } : Tracker).outputTarget
      c.frameNumber c.outputIndex = some output.target := target
  simp [Tracker.takeDriverOutputContext, found, Int.not_lt.mpr nonnegative, kept]

theorem take_stream_consistent {t : Tracker} {next : Nat} (C : Consistent t next)
    {τ : DriverToken} {c : DriverOutputContext} (found : t.driverOutputs.lookup τ = some c)
    (negative : c.outputIndex < 0) :
    Consistent { t with
      driverOutputs := t.driverOutputs.erase τ
      streamingOutputs := t.streamingOutputs.erase c.frameNumber } next where
  rows := C.rows
  named := fun τ' c' at_τ' => C.named τ' c' (lookup_erase_eq_some.mp at_τ').2
  covered := by
    intro f row output at_row member still
    obtain ⟨τ', at_τ', unique⟩ := C.covered f row output at_row member still
    refine ⟨τ', lookup_erase_eq_some.mpr ⟨?_, at_τ'⟩, ?_⟩
    · rintro rfl
      rw [found] at at_τ'
      have index := (C.rows f row at_row).index_nonneg member
      obtain rfl := Option.some.inj at_τ'
      simp only at negative
      omega
    · exact fun τ'' at_τ'' => unique τ'' (lookup_erase_eq_some.mp at_τ'').2
  streams := by
    intro τ' c' at_τ' negative'
    obtain ⟨other, before⟩ := lookup_erase_eq_some.mp at_τ'
    obtain ⟨minus, output, at_row⟩ := C.streams τ' c' before negative'
    refine ⟨minus, output, lookup_erase_eq_some.mpr ⟨?_, at_row⟩⟩
    exact fun same => other (C.separate τ' τ c' c before found negative' negative same)
  separate := fun τ₁ τ₂ c₁ c₂ at₁ at₂ =>
    C.separate τ₁ τ₂ c₁ c₂ (lookup_erase_eq_some.mp at₁).2 (lookup_erase_eq_some.mp at₂).2
  fresh := fun f output at_row => C.fresh f output (lookup_erase_eq_some.mp at_row).2

def markedRow (row : InFlightRequest) (index fence : Int) : InFlightRequest :=
  { row with outputBuffers := row.outputBuffers.map (Tracker.markOutput index fence) }

theorem markOutput_index (index fence : Int) (output : InFlightOutput) :
    (Tracker.markOutput index fence output).outputIndex = output.outputIndex := by
  simp only [Tracker.markOutput]
  split <;> rfl

theorem markOutput_open {index fence : Int} {output : InFlightOutput}
    (still : (Tracker.markOutput index fence output).completed = false) :
    Tracker.markOutput index fence output = output ∧ output.outputIndex ≠ index ∧
      output.completed = false := by
  simp only [Tracker.markOutput] at still ⊢
  split at still
  · cases still
  · rename_i other
    exact ⟨if_neg other, other, still⟩

theorem completeOutput_spec {t : Tracker} {f : Nat} {row : InFlightRequest}
    {output : InFlightOutput} (at_row : t.requests.lookup f = some row)
    (member : output ∈ row.outputBuffers) (fence : Int) (metadata : CaptureMetadata) :
    ((∃ o ∈ (markedRow row output.outputIndex fence).outputBuffers, o.completed = false) ∧
      t.completeOutput f output.outputIndex fence metadata =
        (.waitingForMoreOutputs, { t with
          requests := t.requests.insert f (markedRow row output.outputIndex fence) })) ∨
    ((∀ o ∈ (markedRow row output.outputIndex fence).outputBuffers, o.completed = true) ∧
      t.completeOutput f output.outputIndex fence metadata =
        (.requestComplete { markedRow row output.outputIndex fence with
            metadata := metadata
            state := .completed },
          { t with requests := t.requests.erase f })) := by
  have matched : (row.outputBuffers.any fun o => o.outputIndex = output.outputIndex) = true := by
    simp only [List.any_eq_true, decide_eq_true_eq]
    exact ⟨output, member, rfl⟩
  simp only [Tracker.completeOutput, at_row, matched, if_true]
  split
  · rename_i finished
    refine Or.inr ⟨?_, rfl⟩
    simpa [markedRow] using finished
  · rename_i pending
    refine Or.inl ⟨?_, rfl⟩
    simpa [markedRow] using pending

theorem complete_consistent {t : Tracker} {next : Nat} (C : Consistent t next) {τ : DriverToken}
    {c : DriverOutputContext} {row : InFlightRequest} {output : InFlightOutput}
    {requests : Table Nat InFlightRequest} {fence : Int}
    (found : t.driverOutputs.lookup τ = some c)
    (at_row : t.requests.lookup c.frameNumber = some row)
    (member : output ∈ row.outputBuffers) (index : output.outputIndex = c.outputIndex)
    (still : output.completed = false)
    (rest : ((∃ o ∈ (markedRow row output.outputIndex fence).outputBuffers, o.completed = false) ∧
        requests = t.requests.insert c.frameNumber (markedRow row output.outputIndex fence)) ∨
      ((∀ o ∈ (markedRow row output.outputIndex fence).outputBuffers, o.completed = true) ∧
        requests = t.requests.erase c.frameNumber)) :
    Consistent { t with requests := requests, driverOutputs := t.driverOutputs.erase τ } next := by
  have live := C.rows _ _ at_row
  have nonnegative : 0 ≤ c.outputIndex := index ▸ live.index_nonneg member
  have others : ∀ o ∈ row.outputBuffers, o.completed = false → o.outputIndex ≠ c.outputIndex →
      o ∈ (markedRow row output.outputIndex fence).outputBuffers := by
    intro o inside unfinished other
    refine List.mem_map.mpr ⟨o, inside, ?_⟩
    rw [Tracker.markOutput, if_neg]
    rwa [index]
  have alone : ∀ τ' c', t.driverOutputs.lookup τ' = some c' → c'.frameNumber = c.frameNumber →
      c'.outputIndex = c.outputIndex → τ' = τ := by
    intro τ' c' at_τ' frame same
    obtain ⟨τ₀, -, unique⟩ := C.covered _ row output at_row member still
    have context : c' = { frameNumber := c.frameNumber, outputIndex := output.outputIndex } := by
      cases c'
      simp_all
    have context₀ : c = { frameNumber := c.frameNumber, outputIndex := output.outputIndex } := by
      rw [index]
    rw [unique τ' (context ▸ at_τ'), unique τ (context₀ ▸ found)]
  have rows_of : ∀ f row', requests.lookup f = some row' →
      (f ≠ c.frameNumber ∧ t.requests.lookup f = some row') ∨
        (f = c.frameNumber ∧ row' = markedRow row output.outputIndex fence ∧
          ∃ o ∈ row'.outputBuffers, o.completed = false) := by
    intro f row' at_f
    rcases rest with ⟨pending, rfl⟩ | ⟨-, rfl⟩
    · rcases lookup_insert_eq_some.mp at_f with ⟨rfl, rfl⟩ | kept
      · exact Or.inr ⟨rfl, rfl, pending⟩
      · exact Or.inl kept
    · exact Or.inl (lookup_erase_eq_some.mp at_f)
  refine { C with rows := ?_, named := ?_, covered := ?_, streams := ?_, separate := ?_ }
  · intro f row' at_f
    rcases rows_of f row' at_f with ⟨-, before⟩ | ⟨rfl, rfl, pending⟩
    · exact C.rows f row' before
    · refine ⟨live.key, ?_, live.queued, pending⟩
      have same : (markedRow row output.outputIndex fence).outputBuffers.map (·.outputIndex) =
          row.outputBuffers.map (·.outputIndex) := by
        simp [markedRow, markOutput_index]
      rw [same, live.indices]
      simp [markedRow]
  · intro τ' c' at_τ' nonnegative'
    obtain ⟨other, before⟩ := lookup_erase_eq_some.mp at_τ'
    obtain ⟨row', at_row', o, inside, same, unfinished⟩ := C.named τ' c' before nonnegative'
    by_cases frame : c'.frameNumber = c.frameNumber
    · rw [frame, at_row] at at_row'
      obtain rfl := Option.some.inj at_row'
      have apart : o.outputIndex ≠ c.outputIndex := fun equal =>
        other (alone τ' c' before frame (same.symm.trans equal))
      have kept := others o inside unfinished apart
      rcases rest with ⟨-, rfl⟩ | ⟨finished, -⟩
      · refine ⟨_, ?_, o, kept, same, unfinished⟩
        rw [frame]
        exact AList.lookup_insert _
      · rw [finished o kept] at unfinished
        cases unfinished
    · refine ⟨row', ?_, o, inside, same, unfinished⟩
      rcases rest with ⟨-, rfl⟩ | ⟨-, rfl⟩
      · exact lookup_insert_eq_some.mpr (Or.inr ⟨frame, at_row'⟩)
      · exact lookup_erase_eq_some.mpr ⟨frame, at_row'⟩
  · intro f row' o at_f inside unfinished
    have old : ∃ row₀, t.requests.lookup f = some row₀ ∧ o ∈ row₀.outputBuffers ∧
        (f = c.frameNumber → o.outputIndex ≠ c.outputIndex) := by
      rcases rows_of f row' at_f with ⟨apart, before⟩ | ⟨rfl, rfl, -⟩
      · exact ⟨row', before, inside, fun same => (apart same).elim⟩
      · obtain ⟨o₀, inside₀, rfl⟩ := List.mem_map.mp inside
        obtain ⟨unchanged, apart, -⟩ := markOutput_open unfinished
        rw [unchanged]
        exact ⟨row, at_row, inside₀, fun _ => index ▸ apart⟩
    obtain ⟨row₀, at_row₀, inside₀, apart⟩ := old
    obtain ⟨τ', at_τ', unique⟩ := C.covered f row₀ o at_row₀ inside₀ unfinished
    refine ⟨τ', lookup_erase_eq_some.mpr ⟨?_, at_τ'⟩, ?_⟩
    · rintro rfl
      rw [found] at at_τ'
      have context := Option.some.inj at_τ'
      exact apart (congrArg DriverOutputContext.frameNumber context).symm
        (congrArg DriverOutputContext.outputIndex context).symm
    · exact fun τ'' at_τ'' => unique τ'' (lookup_erase_eq_some.mp at_τ'').2
  · exact fun τ' c' at_τ' => C.streams τ' c' (lookup_erase_eq_some.mp at_τ').2
  · exact fun τ₁ τ₂ c₁ c₂ at₁ at₂ =>
      C.separate τ₁ τ₂ c₁ c₂ (lookup_erase_eq_some.mp at₁).2 (lookup_erase_eq_some.mp at₂).2

end Completion

end MiniCam.Hal.TrackerInvariant
