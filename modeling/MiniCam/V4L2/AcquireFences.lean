/- Module: MiniCam/V4L2/AcquireFences
   source: hal/camera_device_session.cpp, hal/v4l2_driver_adapter.cpp
   digest: What becomes of the acquire fences that a session is handed. -/

import MiniCam.V4L2.FenceUses

set_option autoImplicit false
set_option relaxedAutoImplicit false

namespace MiniCam.V4L2.AcquireFences

open MiniCam.Foundation.Runs
open MiniCam.Hal.Interface
open MiniCam.Hal.InFlightRequestTracker
open MiniCam.Hal.CameraDeviceSession
open MiniCam.Hal.TrackerInvariant
open MiniCam.Hal.SessionSpec
open MiniCam.Hal.SessionSystem
open MiniCam.Hal.TokenBijection (Tracked step_tracked initial_tracked)
open MiniCam.Hal.ReleaseFences (fences)
open MiniCam.Hal.ResultAccounting (perm_take)
open MiniCam.V4L2.VideoNodes
open MiniCam.V4L2.DriverAdapter
open MiniCam.V4L2.MultiStream
open MiniCam.V4L2.FenceUses

variable {δ π : Type}

section Fences

def fenceOf : FenceEvent → Int
  | .polled fd | .closed fd => fd

/-- The fence is not touched any more once it has been closed. -/
def ClosedLast (fd : Int) (log : List FenceEvent) : Prop :=
  log.Pairwise fun earlier later =>
    earlier = .closed fd → later ≠ .polled fd ∧ later ≠ .closed fd

def eventsOf (fd : Int) (log : List FenceEvent) : List FenceEvent :=
  log.filter fun e => fenceOf e = fd

/-- The acquire fences handed in so far: with the configuration, and with the requests
that were accepted. -/
def handedIn (s : System δ π) : List Int :=
  bufferFences s.session.config.continuousPreviewBuffers ++
    s.accepted.flatMap fun request => bufferFences request.outputBuffers

def Unoffered (s : Session δ) : Prop := s.nextStreamingFrameNumber = 1000000000000

instance unofferedDecidable (s : Session δ) : Decidable (Unoffered s) :=
  inferInstanceAs (Decidable (s.nextStreamingFrameNumber = 1000000000000))

/-- The fences that the driver has not seen: of previews that were never offered, and of
requests whose task has not run. -/
def unspent (s : System δ π) : List Int :=
  (if Unoffered s.session then bufferFences s.session.config.continuousPreviewBuffers else []) ++
    s.tasks.flatMap fun task => bufferFences task.2.outputBuffers

theorem eventsOf_append (fd : Int) (before after : List FenceEvent) :
    eventsOf fd (before ++ after) = eventsOf fd before ++ eventsOf fd after :=
  List.filter_append _ _

theorem eventsOf_use (fd fd' : Int) : eventsOf fd (use fd') = if fd' = fd then use fd else [] := by
  by_cases same : fd' = fd
  · subst same
    simp [eventsOf, use, fenceOf]
  · simp [eventsOf, use, fenceOf, same]

theorem eventsOf_unused {fd : Int} {used : List Int} (absent : fd ∉ used) :
    eventsOf fd (used.flatMap use) = [] := by
  induction used with
  | nil => rfl
  | cons first rest ih =>
    simp only [List.mem_cons, not_or] at absent
    rw [List.flatMap_cons, eventsOf_append, eventsOf_use, if_neg (Ne.symm absent.1), ih absent.2]
    rfl

theorem eventsOf_used {fd : Int} {used : List Int} (nodup : used.Nodup) (member : fd ∈ used) :
    eventsOf fd (used.flatMap use) = use fd := by
  induction used with
  | nil => cases member
  | cons first rest ih =>
    rw [List.nodup_cons] at nodup
    rw [List.flatMap_cons, eventsOf_append, eventsOf_use]
    by_cases same : first = fd
    · subst same
      rw [if_pos rfl, eventsOf_unused nodup.1, List.append_nil]
    · have later : fd ∈ rest := (List.mem_cons.mp member).resolve_left (Ne.symm same)
      rw [if_neg same, ih nodup.2 later, List.nil_append]

theorem closedLast_of_events {fd : Int} {log : List FenceEvent}
    (events : eventsOf fd log = [] ∨ eventsOf fd log = use fd) : ClosedLast fd log := by
  have about : (eventsOf fd log).Pairwise fun earlier _ => earlier ≠ .closed fd := by
    rcases events with none_left | used
    · rw [none_left]
      exact List.Pairwise.nil
    · rw [used]
      simp [use]
  refine (List.pairwise_filter.mp about).imp fun {earlier later} apart same => ?_
  subst same
  have silent : fenceOf later ≠ fd := by
    intro here
    exact apart (by simp [fenceOf]) (by simpa using here) rfl
  constructor <;> rintro rfl <;> exact silent rfl

theorem mem_used_log {used : List Int} {e : FenceEvent} (member : e ∈ used.flatMap use) :
    fenceOf e ∈ used := by
  obtain ⟨fd, inside, listed⟩ := List.mem_flatMap.mp member
  simp only [use, List.mem_cons, List.not_mem_nil, or_false] at listed
  rcases listed with rfl | rfl <;> exact inside

end Fences

section Conditions

/-- Every fence has a descriptor of its own: a request that is accepted brings new ones,
and what a consumer hands back with a preview is none of those that were handed in. -/
def DistinctFences (consumer : Int → Bool) (s : System δ π) : Label → Prop
  | .post k true => ∀ request ∈ s.admitting[k]?,
      (bufferFences request.outputBuffers).Nodup ∧
        ∀ fd ∈ bufferFences request.outputBuffers, fd ∉ handedIn s ∧ consumer fd = false
  | .streamCallback _ lease => ∀ fd ∈ fences [lease.consumerReleaseFenceFd], consumer fd = true
  | _ => True

/-- Previews that carry fences are offered to the driver by one `start_streaming` only. -/
def PreviewsOnce (s : System δ π) : Label → Prop
  | .startStreaming => s.session.state = .configured →
      s.session.config.continuousPreviewConfig.isSome = true →
        bufferFences s.session.config.continuousPreviewBuffers ≠ [] → Unoffered s.session
  | _ => True

instance distinctFencesDecidable (consumer : Int → Bool) (s : System δ π) :
    (a : Label) → Decidable (DistinctFences consumer s a)
  | .post k true => inferInstanceAs (Decidable (∀ request ∈ s.admitting[k]?,
      (bufferFences request.outputBuffers).Nodup ∧
        ∀ fd ∈ bufferFences request.outputBuffers, fd ∉ handedIn s ∧ consumer fd = false))
  | .streamCallback _ lease => inferInstanceAs (Decidable
      (∀ fd ∈ fences [lease.consumerReleaseFenceFd], consumer fd = true))
  | .post _ false | .configureStreams _ | .startStreaming | .processRequest _ | .runTask _ _
  | .dequeue _ | .process _ _ | .dispatch _ | .returnStream _ | .flush _ | .close _ =>
    .isTrue trivial

instance previewsOnceDecidable (s : System δ π) : (a : Label) → Decidable (PreviewsOnce s a)
  | .startStreaming => inferInstanceAs (Decidable (s.session.state = .configured →
      s.session.config.continuousPreviewConfig.isSome = true →
        bufferFences s.session.config.continuousPreviewBuffers ≠ [] → Unoffered s.session))
  | .streamCallback _ _ | .post _ _ | .configureStreams _ | .processRequest _ | .runTask _ _
  | .dequeue _ | .process _ _ | .dispatch _ | .returnStream _ | .flush _ | .close _ =>
    .isTrue trivial

end Conditions

section Invariant

variable {D : DriverAdapter δ} (L : FenceLog D)

def sessionLog (s : Session δ) : List FenceEvent := (s.driver.map L.log).getD []

structure Guarded (consumer : Int → Bool) (s : System δ π) : Prop where
  next : 1000000000000 ≤ s.session.nextStreamingFrameNumber
  known : ∀ e ∈ sessionLog L s.session, consumer (fenceOf e) = true ∨ fenceOf e ∈ handedIn s
  used : ∀ fd ∈ handedIn s, eventsOf fd (sessionLog L s.session) = [] ∨
    eventsOf fd (sessionLog L s.session) = use fd
  fresh : ∀ fd ∈ unspent s, eventsOf fd (sessionLog L s.session) = []
  apart : (unspent s).Nodup
  listed : ∀ fd ∈ unspent s, fd ∈ handedIn s
  others : ∀ fd ∈ handedIn s, consumer fd = false
  leases : ∀ handler ∈ s.returning, ∀ fd ∈ fences [handler.lease.consumerReleaseFenceFd],
    consumer fd = true
  plain : ∀ handler ∈ s.callbacks, fences [handler.lease.consumerReleaseFenceFd] = []

variable {L} {consumer : Int → Bool} {s t : System δ π}

structure Spends (L : FenceLog D) (consumer : Int → Bool) (s t : System δ π) : Prop where
  next : s.session.nextStreamingFrameNumber ≤ t.session.nextStreamingFrameNumber
  handed : handedIn t = handedIn s
  log : ∃ used : List Int, used.Nodup ∧
    sessionLog L t.session = sessionLog L s.session ++ used.flatMap use ∧
    ∀ fd ∈ used, consumer fd = true ∨ fd ∈ unspent s ∧ fd ∉ unspent t
  kept : (unspent t).Subset (unspent s)
  apart : (unspent t).Nodup
  leases : ∀ handler ∈ t.returning, ∀ fd ∈ fences [handler.lease.consumerReleaseFenceFd],
    consumer fd = true
  plain : ∀ handler ∈ t.callbacks, fences [handler.lease.consumerReleaseFenceFd] = []

theorem Guarded.spend (G : Guarded L consumer s) (S : Spends L consumer s t) :
    Guarded L consumer t := by
  obtain ⟨used, nodup, log, from_list⟩ := S.log
  have untouched : ∀ fd, fd ∉ used →
      eventsOf fd (sessionLog L t.session) = eventsOf fd (sessionLog L s.session) := by
    intro fd absent
    rw [log, eventsOf_append, eventsOf_unused absent, List.append_nil]
  refine ⟨Nat.le_trans G.next S.next, fun e member => ?_, fun fd member => ?_,
    fun fd member => ?_, S.apart, fun fd member => ?_, ?_, S.leases, S.plain⟩
  · rw [S.handed]
    rw [log] at member
    rcases List.mem_append.mp member with old | new
    · exact G.known e old
    · rcases from_list _ (mem_used_log new) with theirs | ⟨ours, -⟩
      · exact Or.inl theirs
      · exact Or.inr (G.listed _ ours)
  · rw [S.handed] at member
    by_cases now : fd ∈ used
    · right
      have ours : fd ∈ unspent s := by
        rcases from_list fd now with theirs | ⟨ours, -⟩
        · rw [G.others fd member] at theirs
          cases theirs
        · exact ours
      rw [log, eventsOf_append, G.fresh fd ours, eventsOf_used nodup now, List.nil_append]
    · rw [untouched fd now]
      exact G.used fd member
  · have before := S.kept member
    have absent : fd ∉ used := by
      intro now
      rcases from_list fd now with theirs | ⟨-, gone⟩
      · rw [G.others fd (G.listed fd before)] at theirs
        cases theirs
      · exact gone member
    rw [untouched fd absent]
    exact G.fresh fd before
  · rw [S.handed]
    exact G.listed fd (S.kept member)
  · rw [S.handed]
    exact G.others

private theorem Guarded.consumes (G : Guarded L consumer s)
    (next : s.session.nextStreamingFrameNumber ≤ t.session.nextStreamingFrameNumber)
    (config : t.session.config = s.session.config) {used : List Int} (nodup : used.Nodup)
    (log : sessionLog L t.session = sessionLog L s.session ++ used.flatMap use)
    (theirs : ∀ fd ∈ used, consumer fd = true) (accepted : t.accepted = s.accepted)
    (tasks : t.tasks = s.tasks)
    (leases : ∀ handler ∈ t.returning, ∀ fd ∈ fences [handler.lease.consumerReleaseFenceFd],
      consumer fd = true)
    (plain : ∀ handler ∈ t.callbacks, fences [handler.lease.consumerReleaseFenceFd] = []) :
    Guarded L consumer t := by
  have fewer : (unspent t).Sublist (unspent s) := by
    simp only [unspent, config, tasks]
    refine List.Sublist.append_right ?_ _
    split
    · rename_i still
      have before : Unoffered s.session := Nat.le_antisymm (still ▸ next) G.next
      rw [if_pos before]
    · exact List.nil_sublist _
  refine G.spend ⟨next, ?_, ⟨used, nodup, log, fun fd member => Or.inl (theirs fd member)⟩,
    fewer.subset, fewer.nodup G.apart, leases, plain⟩
  simp only [handedIn, config, accepted]

private theorem Guarded.same (G : Guarded L consumer s)
    (next : s.session.nextStreamingFrameNumber ≤ t.session.nextStreamingFrameNumber)
    (config : t.session.config = s.session.config)
    (log : sessionLog L t.session = sessionLog L s.session) (accepted : t.accepted = s.accepted)
    (tasks : t.tasks = s.tasks)
    (leases : ∀ handler ∈ t.returning, ∀ fd ∈ fences [handler.lease.consumerReleaseFenceFd],
      consumer fd = true)
    (plain : ∀ handler ∈ t.callbacks, fences [handler.lease.consumerReleaseFenceFd] = []) :
    Guarded L consumer t := by
  refine G.consumes next config List.nodup_nil ?_ ?_ accepted tasks leases plain
  · simpa using log
  · intro fd member
    cases member

end Invariant

section Steps

variable {D : DriverAdapter δ} {L : FenceLog D} {consumer : Int → Bool} {s t : System δ π}

theorem requestOutputsFor_fences (request : CaptureRequest) :
    bufferFences (requestOutputsFor request) = bufferFences request.outputBuffers := by
  unfold requestOutputsFor
  split
  · rfl
  · rename_i empty
    rw [not_not.mp empty]
    simp [bufferFences, fences]

theorem submitOutputs_uses (L : FenceLog D) (frameNumber : Nat)
    (pairs : List (OutputBufferTarget × InFlightOutput)) (d : δ) (u : Tracker) :
    Uses (bufferFences (pairs.map Prod.fst)) (L.log d)
      (L.log (submitOutputs D frameNumber pairs d u).2.1) := by
  induction pairs generalizing d u with
  | nil => exact Uses.nothing _ _
  | cons pair rest ih =>
    obtain ⟨target, output⟩ := pair
    have first := L.submits target d
    rw [List.map_cons, bufferFences_cons]
    simp only [submitOutputs]
    cases asked : D.submitCapture target d with
    | mk answer d₁ =>
      rw [asked] at first
      cases answer with
      | none => exact first.mono (List.sublist_append_left _ _)
      | some token =>
        simp only
        split
        · exact first.mono (List.sublist_append_left _ _)
        · exact first.trans (ih d₁ _)

theorem submitted_uses (L : FenceLog D) {now : Int} {request : CaptureRequest} {s s' : Session δ}
    {result : Option CaptureResult} (outcome : SubmitOutcome D now request s result s') :
    Uses (bufferFences request.outputBuffers) (sessionLog L s) (sessionLog L s') ∧
      s'.config = s.config ∧ s'.nextStreamingFrameNumber = s.nextStreamingFrameNumber := by
  have preflight : ∀ {answer : Bool} {d d' : δ},
      D.canSubmitCaptureOutputs (requestOutputsFor request) d = (answer, d') →
        L.log d' = L.log d := by
    intro answer d d' asked
    have same := L.preflights (requestOutputsFor request) d
    rw [asked] at same
    exact same
  have submits : ∀ {ok : Bool} {d d' d'' : δ} {u u' : Tracker},
      L.log d' = L.log d →
        submitOutputs D request.frameNumber (requestPairs request) d' u = (ok, d'', u') →
          Uses (bufferFences request.outputBuffers) (L.log d) (L.log d'') := by
    intro ok d d' d'' u u' same run
    have uses := submitOutputs_uses L request.frameNumber (requestPairs request) d' u
    rw [run, requestPairs_outputs, requestOutputsFor_fences, same] at uses
    exact uses
  cases outcome with
  | rejected closed => exact ⟨Uses.nothing _ _, rfl, rfl⟩
  | refused driver streaming answer message =>
    refine ⟨?_, rfl, rfl⟩
    simp only [sessionLog, driver, Option.map_some, Option.getD_some, preflight answer]
    exact Uses.nothing _ _
  | duplicate driver streaming answer live =>
    refine ⟨?_, rfl, rfl⟩
    simp only [sessionLog, driver, Option.map_some, Option.getD_some, preflight answer]
    exact Uses.nothing _ _
  | failed driver streaming answer absent before stopped =>
    refine ⟨?_, rfl, rfl⟩
    simp only [sessionLog, driver, Option.map_some, Option.getD_some]
    exact submits (preflight answer) stopped
  | submitted driver streaming answer before finished after bound =>
    refine ⟨?_, rfl, rfl⟩
    simp only [sessionLog, driver, Option.map_some, Option.getD_some]
    exact submits (preflight answer) finished

private theorem runTask_guarded (G : Guarded L consumer s) {k : Nat} {now : Int}
    (taken : runTaskStep D k now s = some t) : Guarded L consumer t := by
  obtain ⟨id, request, at_task, ended⟩ := runTaskStep_outcome D taken
  have moved : ∃ session result, SubmitOutcome D now request s.session result session ∧
      t.session = session ∧ t.tasks = s.tasks.eraseIdx k ∧ t.accepted = s.accepted ∧
      t.returning = s.returning ∧ t.callbacks = s.callbacks := by
    rcases ended with ⟨result, session, outcome, rfl⟩ | ⟨session, outcome, rfl⟩
    · exact ⟨session, some result, outcome, rfl, rfl, rfl, rfl, rfl⟩
    · exact ⟨session, none, outcome, rfl, rfl, rfl, rfl, rfl⟩
  obtain ⟨session, result, outcome, same, tasks, accepted, returning, callbacks⟩ := moved
  obtain ⟨⟨used, some_used, log⟩, config, next⟩ := submitted_uses L outcome
  rw [← same] at config next log
  -- The fences of the task leave the unspent ones, and the driver may use them.
  have taken_out : (unspent s).Perm (bufferFences request.outputBuffers ++ unspent t) := by
    have shorter := (perm_take at_task).flatMap_right
      fun task : Nat × CaptureRequest => bufferFences task.2.outputBuffers
    rw [List.flatMap_cons] at shorter
    simp only [unspent, Unoffered, next, config, tasks]
    exact (shorter.append_left _).trans (List.perm_append_comm_assoc _ _ _)
  have split := List.nodup_append'.mp (taken_out.nodup_iff.mp G.apart)
  refine G.spend ⟨Nat.le_of_eq next.symm, ?_, ⟨used, some_used.nodup split.1, log, ?_⟩, ?_,
    split.2.1, ?_, ?_⟩
  · simp only [handedIn, config, accepted]
  · intro fd member
    have ours := some_used.subset member
    exact Or.inr ⟨taken_out.mem_iff.mpr (List.mem_append_left _ ours), split.2.2 ours⟩
  · intro fd member
    exact taken_out.mem_iff.mpr (List.mem_append_right _ member)
  · rw [returning]
    exact G.leases
  · rw [callbacks]
    exact G.plain

private theorem start_guarded (G : Guarded L consumer s) (once : PreviewsOnce s .startStreaming) :
    Guarded L consumer (startStep D s) := by
  have quiet : ∀ {d d' : δ} {ok : Bool}, D.startStreaming d = (ok, d') → L.log d' = L.log d := by
    intro d d' ok asked
    have same := L.starts d
    rw [asked] at same
    exact same
  -- Offering the previews may use their fences, which are unspent only this once.
  have offers : ∀ {session : Session δ} {d d' d'' : δ} {stream : StreamConfig}
      {given : Option (List DriverToken)}, s.session.driver = some d →
        s.session.state = .configured → L.log d' = L.log d →
          s.session.config.continuousPreviewConfig = some stream →
            D.startContinuousStream stream s.session.config.continuousPreviewBuffers d' =
              (given, d'') → session.driver = some d'' → session.config = s.session.config →
                session.nextStreamingFrameNumber = s.session.nextStreamingFrameNumber +
                  s.session.config.continuousPreviewBuffers.length →
                    Guarded L consumer { s with
                      session := session
                      boundFor := recordBindings s.session.inFlight session.inFlight previewUse
                        s.boundFor } := by
    intro session d d' d'' stream given driver configured same preview offered after config next
    obtain ⟨used, some_used, log⟩ :=
      L.streams stream s.session.config.continuousPreviewBuffers d'
    rw [offered] at log
    have grown : sessionLog L session = sessionLog L s.session ++ used.flatMap use := by
      simp only [sessionLog, driver, after, Option.map_some, Option.getD_some, log, same]
    by_cases fenced : bufferFences s.session.config.continuousPreviewBuffers = []
    · rw [fenced, List.sublist_nil] at some_used
      rw [some_used] at grown
      exact G.same (by simp only [next]; omega) config (by simpa using grown) rfl rfl G.leases
        G.plain
    · have unoffered : Unoffered s.session := once configured (by simp [preview]) fenced
      have supplied : 0 < s.session.config.continuousPreviewBuffers.length := by
        refine List.length_pos_iff.mpr fun empty => fenced ?_
        rw [empty]
        rfl
      have offered_now : ¬ Unoffered session := by
        unfold Unoffered at unoffered ⊢
        omega
      have before : unspent s = bufferFences s.session.config.continuousPreviewBuffers ++
          s.tasks.flatMap fun task => bufferFences task.2.outputBuffers := by
        simp only [unspent, if_pos unoffered]
      have split := List.nodup_append'.mp (before ▸ G.apart)
      refine G.spend ⟨by simp only [next]; omega, ?_, ⟨used, some_used.nodup split.1, grown, ?_⟩,
        ?_, ?_, G.leases, G.plain⟩
      · simp only [handedIn, config]
      · intro fd member
        have ours := some_used.subset member
        refine Or.inr ⟨before ▸ List.mem_append_left _ ours, ?_⟩
        simp only [unspent, if_neg offered_now, List.nil_append]
        exact split.2.2 ours
      · intro fd member
        simp only [unspent, if_neg offered_now, List.nil_append] at member
        exact before ▸ List.mem_append_right _ member
      · simp only [unspent, if_neg offered_now, List.nil_append]
        exact split.2.1
  simp only [startStep]
  have outcome := startStreaming_outcome D s.session
  generalize (startStreaming D s.session).2 = session at outcome ⊢
  cases outcome with
  | ignored unready => exact G.same (Nat.le_refl _) rfl rfl rfl rfl G.leases G.plain
  | failed driver configured answer =>
    refine G.same (Nat.le_refl _) rfl ?_ rfl rfl G.leases G.plain
    simp only [sessionLog, driver, Option.map_some, Option.getD_some, quiet answer]
  | plain driver configured answer preview =>
    refine G.same (Nat.le_refl _) rfl ?_ rfl rfl G.leases G.plain
    simp only [sessionLog, driver, Option.map_some, Option.getD_some, quiet answer]
  | unsupplied driver configured answer preview empty =>
    refine G.same (Nat.le_refl _) rfl ?_ rfl rfl G.leases G.plain
    simp only [sessionLog, driver, Option.map_some, Option.getD_some, quiet answer]
  | refused driver configured answer preview offered short =>
    exact offers driver configured (quiet answer) preview offered rfl rfl rfl
  | bound driver configured answer preview supplied offered length registered =>
    exact offers driver configured (quiet answer) preview offered rfl rfl rfl

private theorem return_guarded (G : Guarded L consumer s) {k : Nat}
    (taken : returnStep D k s = some t) : Guarded L consumer t := by
  simp only [returnStep] at taken
  split at taken
  · cases taken
  rename_i handler at_handler
  cases taken
  have theirs := G.leases handler (List.mem_of_getElem? at_handler)
  have rest : ∀ other ∈ s.returning.eraseIdx k,
      ∀ fd ∈ fences [other.lease.consumerReleaseFenceFd], consumer fd = true :=
    fun other member => G.leases other (List.mem_of_mem_eraseIdx member)
  have returns : ∀ {session : Session δ} {d d' : δ} {answer : Option DriverToken},
      s.session.driver = some d → D.returnStreamBuffer handler.lease d = (answer, d') →
        session.driver = some d' → session.config = s.session.config →
          s.session.nextStreamingFrameNumber ≤ session.nextStreamingFrameNumber →
            Guarded L consumer { s with
              returning := s.returning.eraseIdx k
              session := session
              boundFor := recordBindings s.session.inFlight session.inFlight previewUse
                s.boundFor } := by
    intro session d d' answer driver asked after config next
    obtain ⟨used, some_used, log⟩ := L.returns handler.lease d
    rw [asked] at log
    have single : used.Nodup := some_used.nodup (List.Nodup.filter _ (List.nodup_singleton _))
    refine G.consumes next config single ?_ ?_ rfl rfl rest G.plain
    · simp only [sessionLog, driver, after, Option.map_some, Option.getD_some, log]
    · exact fun fd member => theirs fd (some_used.subset member)
  rcases returnStreamBuffer_cases D handler.lease handler.output s.session with
    same | ⟨d, d', metrics, driver, -, ⟨asked, same⟩ | ⟨token, asked, same⟩⟩
  · rw [same]
    exact G.same (Nat.le_refl _) rfl rfl rfl rfl rest G.plain
  · rw [same]
    exact returns driver asked rfl rfl (Nat.le_refl _)
  · rw [same]
    exact returns driver asked rfl rfl (Nat.le_succ _)

private theorem post_guarded (G : Guarded L consumer s) {k : Nat} {accepted : Bool}
    (distinct : DistinctFences consumer s (.post k accepted))
    (taken : postStep k accepted s = some t) : Guarded L consumer t := by
  rcases postStep_outcome taken with ⟨-, rfl⟩ | ⟨request, at_request, rfl, rfl⟩
  · exact G.same (Nat.le_refl _) rfl rfl rfl rfl G.leases G.plain
  · obtain ⟨nodup, fresh⟩ := distinct request at_request
    have handed : ∀ fd, fd ∈ handedIn s ++ bufferFences request.outputBuffers ↔
        fd ∈ handedIn { s with
          admitting := s.admitting.eraseIdx k
          accepted := s.accepted ++ [request]
          tasks := s.tasks ++ [(s.accepted.length, request)] } := by
      intro fd
      simp [handedIn]
    have waiting : unspent { s with
        admitting := s.admitting.eraseIdx k
        accepted := s.accepted ++ [request]
        tasks := s.tasks ++ [(s.accepted.length, request)] } =
          unspent s ++ bufferFences request.outputBuffers := by
      simp [unspent]
    have untouched : ∀ fd ∈ bufferFences request.outputBuffers,
        eventsOf fd (sessionLog L s.session) = [] := by
      intro fd member
      refine List.filter_eq_nil_iff.mpr fun e inside here => ?_
      obtain ⟨absent, ours⟩ := fresh fd member
      have same : fenceOf e = fd := by simpa using here
      rcases G.known e inside with theirs | old
      · rw [same, ours] at theirs
        cases theirs
      · exact absent (same ▸ old)
    refine ⟨G.next, fun e member => ?_, fun fd member => ?_, fun fd member => ?_, ?_,
      fun fd member => ?_, fun fd member => ?_, G.leases, G.plain⟩
    · exact (G.known e member).imp_right fun old => (handed _).mp (List.mem_append_left _ old)
    · rcases List.mem_append.mp ((handed fd).mpr member) with old | new
      · exact G.used fd old
      · exact Or.inl (untouched fd new)
    · rw [waiting] at member
      rcases List.mem_append.mp member with old | new
      · exact G.fresh fd old
      · exact untouched fd new
    · rw [waiting]
      refine List.nodup_append'.mpr ⟨G.apart, nodup, fun fd old new => ?_⟩
      exact (fresh fd new).1 (G.listed fd old)
    · rw [waiting] at member
      rcases List.mem_append.mp member with old | new
      · exact (handed fd).mp (List.mem_append_left _ (G.listed fd old))
      · exact (handed fd).mp (List.mem_append_right _ new)
    · rcases List.mem_append.mp ((handed fd).mpr member) with old | new
      · exact G.others fd old
      · exact (fresh fd new).2

private theorem process_guarded {processors : List (Option (OutputProcessor π))} (T : Tracked s)
    (G : Guarded L consumer s) {k : Nat} {now : Int}
    (taken : processStep processors k now s = some t) : Guarded L consumer t := by
  obtain ⟨completion, filled, p, session, -, outcome, rfl⟩ :=
    processStep_outcome T.consistent taken
  cases outcome with
  | unknown unbound => exact G.same (Nat.le_refl _) rfl rfl rfl rfl G.leases G.plain
  | preview bound negative row processed =>
    refine G.same (Nat.le_refl _) rfl rfl rfl rfl G.leases fun handler member => ?_
    rcases List.mem_append.mp member with old | new
    · exact G.plain handler old
    · obtain rfl := List.mem_singleton.mp new
      simp [streamBufferLeaseFromCompletion, fences]
  | waiting bound live member index still processed pending =>
    exact G.same (Nat.le_refl _) rfl rfl rfl rfl G.leases G.plain
  | complete bound live member index still processed finished =>
    exact G.same (Nat.le_refl _) rfl rfl rfl rfl G.leases G.plain

private theorem callback_guarded {callbacks : Callbacks} (G : Guarded L consumer s) {k : Nat}
    {lease : StreamBufferLease} (distinct : DistinctFences consumer s (.streamCallback k lease))
    (taken : streamCallbackStep callbacks k lease s = some t) : Guarded L consumer t := by
  simp only [streamCallbackStep] at taken
  split at taken
  · cases taken
  rename_i handler at_handler
  cases taken
  refine G.same (Nat.le_refl _) rfl rfl rfl rfl (fun other member => ?_)
    fun other member => G.plain other (List.mem_of_mem_eraseIdx member)
  rcases List.mem_append.mp member with old | new
  · exact G.leases other old
  · obtain rfl := List.mem_singleton.mp new
    split
    · exact distinct
    · intro fd inside
      rw [G.plain handler (List.mem_of_getElem? at_handler)] at inside
      cases inside

theorem step_guarded {processors : List (Option (OutputProcessor π))} {callbacks : Callbacks}
    {a : Label} (T : Tracked s) (G : Guarded L consumer s)
    (distinct : DistinctFences consumer s a) (once : PreviewsOnce s a)
    (taken : step D processors callbacks s a = some t) : Guarded L consumer t := by
  have stopped : (s.session.driver.map D.stopStreaming).map L.log =
      s.session.driver.map L.log := by
    cases s.session.driver <;> simp [L.stops]
  cases a with
  | configureStreams registered =>
    cases taken
    rcases configureStreams_cases D registered s.session with
      same | ⟨d, d', fds, state, driver, -, rfl, -, same⟩
    · rw [same]
      exact G
    · rw [same]
      refine G.same (Nat.le_refl _) rfl ?_ rfl rfl G.leases G.plain
      simp only [sessionLog, driver, Option.map_some, L.configures]
  | startStreaming =>
    cases taken
    exact start_guarded G once
  | processRequest request =>
    simp only [step] at taken
    split at taken <;> cases taken
    exact G.same (Nat.le_refl _) rfl rfl rfl rfl G.leases G.plain
  | post k accepted => exact post_guarded G distinct taken
  | runTask k now => exact runTask_guarded G taken
  | dequeue readyFd =>
    cases taken
    rcases dequeueCompletion_cases D readyFd s.session with same | ⟨d, driver, -, same⟩
    · simp only [dequeueStep, same]
      exact G.same (Nat.le_refl _) rfl rfl rfl rfl G.leases G.plain
    · simp only [dequeueStep, same]
      refine G.same (Nat.le_refl _) rfl ?_ rfl rfl G.leases G.plain
      simp only [sessionLog, driver, Option.map_some, L.dequeues]
  | process k now => exact process_guarded T G taken
  | dispatch k =>
    simp only [step, dispatchStep] at taken
    split at taken <;> cases taken
    exact G.same (Nat.le_refl _) rfl rfl rfl rfl G.leases G.plain
  | streamCallback k lease => exact callback_guarded G distinct taken
  | returnStream k => exact return_guarded G taken
  | flush now =>
    cases taken
    by_cases active : s.session.state = .streaming ∨ s.session.state = .configured
    · rw [flush_active D now active]
      refine G.same (Nat.le_refl _) rfl ?_ rfl rfl G.leases G.plain
      simp only [withResults, sessionLog, stopped]
    · rw [flush_inactive D now active]
      exact G.same (Nat.le_refl _) rfl rfl rfl rfl G.leases G.plain
  | close now =>
    cases taken
    by_cases done : s.session.state = .stopped
    · rw [close_stopped D now done]
      exact G.same (Nat.le_refl _) rfl rfl rfl rfl G.leases G.plain
    · rw [close_open D now done]
      refine G.same (Nat.le_refl _) rfl ?_ rfl rfl G.leases G.plain
      have closed : ((s.session.driver.map D.stopStreaming).map D.close).map L.log =
          s.session.driver.map L.log := by
        cases s.session.driver <;> simp [L.stops, L.closes]
      simp only [withResults, sessionLog, closed]

end Steps

section Reuse

def FencesOnce (consumer : Int → Bool) (s : System δ π) (a : Label) : Prop :=
  DistinctFences consumer s a ∧ PreviewsOnce s a

instance fencesOnceDecidable (consumer : Int → Bool) (s : System δ π) (a : Label) :
    Decidable (FencesOnce consumer s a) :=
  inferInstanceAs (Decidable (DistinctFences consumer s a ∧ PreviewsOnce s a))

def DistinctPreviews (consumer : Int → Bool) (config : CameraDeviceSessionConfig) : Prop :=
  (bufferFences config.continuousPreviewBuffers).Nodup ∧
    ∀ fd ∈ bufferFences config.continuousPreviewBuffers, consumer fd = false

theorem initial_guarded {D : DriverAdapter δ} {L : FenceLog D} {consumer : Int → Bool}
    {config : CameraDeviceSessionConfig} {d : δ} (p : π) (clean : L.log d = [])
    (previews : DistinctPreviews consumer config) :
    Guarded L consumer (System.initial config (some d) p) := by
  have log : sessionLog L (System.initial config (some d) p).session = [] := clean
  have waiting : unspent (System.initial config (some d) p) =
      bufferFences config.continuousPreviewBuffers := by
    simp [unspent, System.initial, Session.create, Unoffered]
  have handed : handedIn (System.initial config (some d) p) =
      bufferFences config.continuousPreviewBuffers := by
    simp [handedIn, System.initial, Session.create]
  refine ⟨Nat.le_refl _, ?_, ?_, ?_, ?_, ?_, ?_, ?_, ?_⟩
  · rw [log]
    exact fun e member => by cases member
  · rw [log]
    exact fun fd _ => Or.inl rfl
  · rw [log]
    exact fun fd _ => rfl
  · rw [waiting]
    exact previews.1
  · rw [waiting, handed]
    exact fun fd member => member
  · rw [handed]
    exact previews.2
  · exact fun handler member => by cases member
  · exact fun handler member => by cases member

theorem reachable_closedLast {D : DriverAdapter δ} (L : FenceLog D)
    {processors : List (Option (OutputProcessor π))} {callbacks : Callbacks}
    {consumer : Int → Bool} {config : CameraDeviceSessionConfig} {d : δ} {p : π}
    (clean : L.log d = []) (previews : DistinctPreviews consumer config) {s : System δ π}
    (run : Reaches (step D processors callbacks) (FencesOnce consumer)
      (System.initial config (some d) p) s) :
    ∀ fd ∈ handedIn s, ClosedLast fd (sessionLog L s.session) := by
  have invariant : Tracked s ∧ Guarded L consumer s := by
    refine Reaches.invariant (fun s => Tracked s ∧ Guarded L consumer s) ?_ run
      ⟨initial_tracked config (some d) p, initial_guarded p clean previews⟩
    rintro s a t ⟨T, G⟩ ⟨distinct, once⟩ taken
    exact ⟨step_tracked D processors callbacks T taken, step_guarded T G distinct once taken⟩
  intro fd member
  exact closedLast_of_events (invariant.2.used fd member)

/-- Over either driver, a fence that was handed in is not touched after it was closed, as
long as previews that carry fences are not offered again. -/
theorem acquire_fences_closed_last (processors : List (Option (OutputProcessor π)))
    (callbacks : Callbacks) (config : CameraDeviceSessionConfig) (p : π) (consumer : Int → Bool)
    (previews : DistinctPreviews consumer config) :
    (∀ (streamConfig : V4L2StreamConfig) (answers : Answers) (s : System SingleDriver π),
      Reaches (step single processors callbacks) (FencesOnce consumer)
        (System.initial config (some (SingleDriver.create streamConfig answers)) p) s →
          ∀ fd ∈ handedIn s, ClosedLast fd (sessionLog singleLog s.session)) ∧
    (∀ (endpoints : List V4L2StreamEndpointConfig) (answers : Answers) (s : System MultiDriver π),
      Reaches (step multi processors callbacks) (FencesOnce consumer)
        (System.initial config (some (MultiDriver.create endpoints answers)) p) s →
          ∀ fd ∈ handedIn s, ClosedLast fd (sessionLog multiLog s.session)) := by
  constructor
  · intro streamConfig answers s run
    exact reachable_closedLast singleLog rfl previews run
  · intro endpoints answers s run
    exact reachable_closedLast multiLog rfl previews run

private def fencedPreview : CameraDeviceSessionConfig :=
  { continuousPreviewConfig := some {}
    continuousPreviewBuffers :=
      [{ streamType := .preview, bufferFd := 20, bufferSize := 4, acquireFenceFd := 9 }] }

private def obliging : Answers where
  configure := fun _ => .granted 3 4 4
  submission := fun _ => {}
  dequeue := fun _ => .buffer 0 4 0
  streamOff := fun _ => true

/-- A preview goes round once with the consumer's fence, beside a capture with its own. -/
private def fencedScript : List Label :=
  [.configureStreams true, .startStreaming, .dequeue 3, .process 0 1,
   .streamCallback 0
     { streamType := .preview, bufferFd := 20, bufferSize := 4, consumerReleaseFenceFd := 30 },
   .returnStream 0,
   .processRequest { frameNumber := 7, outputBuffers :=
     [{ streamType := .preview, bufferFd := 21, bufferSize := 4, acquireFenceFd := 11 }] },
   .post 0 true, .runTask 0 2]

theorem acquire_fences_closed_last_capture :
    ∃ s : System SingleDriver Unit, handedIn s = [9, 11] ∧
      sessionLog singleLog s.session = use 9 ++ use 30 ++ use 11 ∧
      ∀ fd ∈ handedIn s, ClosedLast fd (sessionLog singleLog s.session) := by
  obtain ⟨s, run, passed⟩ := exists_reaches_of_replay (step single [] ⟨true, true⟩)
    (FencesOnce fun fd => fd == 30)
    (System.initial fencedPreview (some (SingleDriver.create {} obliging)) ()) fencedScript
    (fun s => handedIn s == [9, 11] &&
      decide (sessionLog singleLog s.session = use 9 ++ use 30 ++ use 11)) (by decide +kernel)
  simp only [Bool.and_eq_true, beq_iff_eq, decide_eq_true_eq] at passed
  have previews : DistinctPreviews (fun fd => fd == 30) fencedPreview := by
    refine ⟨by decide, fun fd member => ?_⟩
    obtain rfl : fd = 9 := by simpa [fencedPreview, bufferFences, fences] using member
    rfl
  exact ⟨s, passed.1, passed.2, (acquire_fences_closed_last [] ⟨true, true⟩ fencedPreview ()
    (fun fd => fd == 30) previews).1 {} obliging s run⟩

/-- After a flush `start_streaming` offers the configured buffers again, with the fence
that was closed the first time. -/
theorem restart_uses_closed_fence :
    ∃ s : System SingleDriver Unit,
      Reaches (step single [] ⟨true, true⟩) (DistinctFences fun fd => fd == 30)
        (System.initial fencedPreview (some (SingleDriver.create {} obliging)) ()) s ∧
      handedIn s = [9] ∧ sessionLog singleLog s.session = use 9 ++ use 9 ∧
      ¬ ClosedLast 9 (sessionLog singleLog s.session) := by
  obtain ⟨s, run, passed⟩ := exists_reaches_of_replay (step single [] ⟨true, true⟩)
    (DistinctFences fun fd => fd == 30)
    (System.initial fencedPreview (some (SingleDriver.create {} obliging)) ())
    [.configureStreams true, .startStreaming, .flush 1, .startStreaming]
    (fun s => handedIn s == [9] && decide (sessionLog singleLog s.session = use 9 ++ use 9))
    (by decide +kernel)
  simp only [Bool.and_eq_true, beq_iff_eq, decide_eq_true_eq] at passed
  refine ⟨s, run, passed.1, passed.2, fun last => ?_⟩
  rw [passed.2] at last
  simp [ClosedLast, use] at last

end Reuse

end MiniCam.V4L2.AcquireFences
