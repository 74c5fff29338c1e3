/- Module: MiniCam/App/EncodeCustody
   source: app/jpeg_encoder_processor.cpp, app/fence_aware_result_writer.cpp, app/minicam_cli.cpp
   digest: Every descriptor of the encoder's pipes is used by its owner only, and closed once. -/

import MiniCam.App.EncodePipeline

set_option autoImplicit false
set_option relaxedAutoImplicit false

namespace MiniCam.App.EncodeCustody

open MiniCam.Foundation.KeyedTable
open MiniCam.Foundation.Runs
open MiniCam.Hal.Interface
open MiniCam.Buffers.DmaBufAllocator (DmaBufPool)
open MiniCam.Buffers.BufferTracker (Tracker)
open MiniCam.App.JpegEncoderProcessor
open MiniCam.App.FenceAwareResultWriter
open MiniCam.App.EncodePipeline

section Ends

def ownerOf : Holder → Option Nat
  | .other => none
  | .input id | .readEnd id | .writeEnd id => some id

def closedBy (access : Access) : Option Holder :=
  if access.kind = .close then access.found else none

/-- The inputs and pipe ends that were ever open: those in the table, and those closed. -/
def ends (s : Pipeline) : List Holder :=
  (values s.descriptors ++ s.accesses.filterMap closedBy).filter fun holder => holder ≠ .other

end Ends

section Claims

def pendingClaims (pending : PendingWrite) : List Claim :=
  match pending.result with
  | none => []
  | some result => handedOver result result.completedOutputBuffers

/-- A call of the writer stands for the first buffer of its result. -/
def callClaims (call : WriteCall) : List Claim := handedOver call.result [call.completed]

def fenceOpen : WriteStage → Bool
  | .writing _ => false
  | _ => true

def openClaims (call : WriteCall) : List Claim :=
  if fenceOpen call.stage then callClaims call else []

def closedClaims (call : WriteCall) : List Claim :=
  if fenceOpen call.stage then [] else callClaims call

/-- The claims whose fence is still open: with the session, with a registered result, or with
a call of the writer. -/
def held (s : Pipeline) : List Claim :=
  s.outstanding ++ (values s.writer.pendingWrites).flatMap pendingClaims ++
    (values s.calls).flatMap openClaims

def fencesOf (claims : List Claim) : List Int :=
  (claims.map fun claim => claim.fence).filter fun fd => 0 ≤ fd

def pledged (s : Pipeline) : List Claim := held s ++ (values s.calls).flatMap closedClaims

def tickets (s : Pipeline) : List EncodedFrameKey :=
  (pledged s).map (fun claim => claim.key) ++ s.consumed

theorem mem_fencesOf {claims : List Claim} {fd : Int} :
    fd ∈ fencesOf claims ↔ 0 ≤ fd ∧ ∃ claim ∈ claims, claim.fence = fd := by
  simp only [fencesOf, List.mem_filter, List.mem_map, decide_eq_true_eq]
  exact And.comm

theorem fencesOf_distinct {claims claims' : List Claim} (fewer : claims'.Subperm claims)
    (distinct : (fencesOf claims).Nodup) : (fencesOf claims').Nodup := by
  obtain ⟨among, same, sublist⟩ := fewer
  unfold fencesOf at distinct ⊢
  have kept := distinct.sublist ((sublist.map _).filter _)
  exact ((same.map _).filter _).nodup_iff.mp kept

/-- The claim's fence is the read end of the pipe of its frame's worker; without a fence its
frame has no worker. -/
def Keyed (s : Pipeline) (claim : Claim) : Prop :=
  if 0 ≤ claim.fence then
    ∃ id worker, s.descriptors.lookup claim.fence = some (.readEnd id) ∧
      s.workers.lookup id = some worker ∧ worker.key = claim.key
  else ∀ id worker, s.workers.lookup id = some worker → worker.key ≠ claim.key

/-- A system call finds the descriptor that its user was given: a worker its input and the
write end of its pipe, a write the read end of the pipe of its frame. -/
def Meant (s : Pipeline) (access : Access) : Prop :=
  match access.user with
  | .session =>
    access.found = some .other ∨ ∃ id, access.found = some (.readEnd id)
  | .encoder id =>
    match access.kind with
    | .wait => access.found = some (.input id)
    | .signal => access.found = some (.writeEnd id)
    | .close => access.found = some (.input id) ∨ access.found = some (.writeEnd id)
  | .writer key =>
    ∃ id worker, s.workers.lookup id = some worker ∧ worker.key = key ∧
      access.found = some (.readEnd id)

theorem Meant.mono {s t : Pipeline} {access : Access}
    (kept : ∀ id worker, s.workers.lookup id = some worker →
      ∃ worker', t.workers.lookup id = some worker' ∧ worker'.key = worker.key)
    (meant : Meant s access) : Meant t access := by
  obtain ⟨user, kind, fd, found⟩ := access
  cases user with
  | session => exact meant
  | encoder id => exact meant
  | writer key =>
    obtain ⟨id, worker, at_id, same, at_fd⟩ := meant
    obtain ⟨worker', there, key⟩ := kept id worker at_id
    exact ⟨id, worker', there, key.trans same, at_fd⟩

end Claims

/-- Every end is one worker's and open until it is closed; the fences of the claims are
different read ends, of the workers of different frames. -/
structure Sound (s : Pipeline) : Prop where
  ends_distinct : (ends s).Nodup
  ends_known : ∀ holder ∈ ends s, ∀ id, ownerOf holder = some id → id ∈ s.workers
  inputs : ∀ id worker, s.workers.lookup id = some worker → worker.stage = .waiting →
    0 ≤ worker.job.request.inputAcquireFenceFd →
      s.descriptors.lookup worker.job.request.inputAcquireFenceFd = some (.input id)
  write_ends : ∀ id worker, s.workers.lookup id = some worker → worker.stage ≠ .finished →
    0 ≤ worker.job.writeFd ∧ s.descriptors.lookup worker.job.writeFd = some (.writeEnd id)
  fences : (fencesOf (held s)).Nodup
  keyed : ∀ claim ∈ held s, Keyed s claim
  tickets_distinct : (tickets s).Nodup
  tickets_processed : ∀ key ∈ tickets s, key ∈ s.processed
  workers_processed : ∀ id worker, s.workers.lookup id = some worker → worker.key ∈ s.processed
  workers_distinct : ∀ id id' worker worker', s.workers.lookup id = some worker →
    s.workers.lookup id' = some worker' → worker.key = worker'.key → id = id'
  accesses : ∀ access ∈ s.accesses, Meant s access

section Primitives

variable {s t : Pipeline}

theorem Sound.move (S : Sound s) (descriptors : t.descriptors = s.descriptors)
    (workers : t.workers = s.workers) (processed : t.processed = s.processed)
    (accesses : t.accesses = s.accesses) (fewer : (held t).Subperm (held s))
    (through : (tickets t).Subperm (tickets s)) : Sound t := by
  have same_ends : ends t = ends s := by simp only [ends, descriptors, accesses]
  refine ⟨?_, ?_, ?_, ?_, ?_, ?_, ?_, ?_, ?_, ?_, ?_⟩
  · rw [same_ends]
    exact S.ends_distinct
  · rw [same_ends, workers]
    exact S.ends_known
  · rw [workers, descriptors]
    exact S.inputs
  · rw [workers, descriptors]
    exact S.write_ends
  · exact fencesOf_distinct fewer S.fences
  · intro claim member
    have before := S.keyed claim (fewer.subset member)
    unfold Keyed at before ⊢
    rw [descriptors, workers]
    exact before
  · obtain ⟨keys, same, among⟩ := through
    exact same.nodup_iff.mp (S.tickets_distinct.sublist among)
  · intro key member
    rw [processed]
    exact S.tickets_processed key (through.subset member)
  · rw [workers, processed]
    exact S.workers_processed
  · rw [workers]
    exact S.workers_distinct
  · intro access member
    rw [accesses] at member
    refine (S.accesses access member).mono ?_
    rw [workers]
    exact fun id worker at_id => ⟨worker, at_id, rfl⟩

theorem useDescriptor_of_negative {user : User} {kind : AccessKind} {fd : Int}
    (negative : ¬ 0 ≤ fd) : useDescriptor user kind fd s = s := by
  simp only [useDescriptor, if_neg negative]

theorem closeDescriptor_of_negative {user : User} {fd : Int} (negative : ¬ 0 ≤ fd) :
    closeDescriptor user fd s = s := by
  simp only [closeDescriptor, if_neg negative]

theorem Sound.use (S : Sound s) {user : User} {kind : AccessKind} {fd : Int}
    (leaves_open : kind ≠ .close)
    (meant : 0 ≤ fd → Meant s ⟨user, kind, fd, s.descriptors.lookup fd⟩) :
    Sound (useDescriptor user kind fd s) := by
  by_cases fence : 0 ≤ fd
  · simp only [useDescriptor, if_pos fence]
    have same_ends : ends { s with accesses := s.accesses ++
        [⟨user, kind, fd, s.descriptors.lookup fd⟩] } = ends s := by
      simp [ends, closedBy, leaves_open]
    refine { S with
      ends_distinct := ?_
      ends_known := ?_
      accesses := ?_ }
    · rw [same_ends]
      exact S.ends_distinct
    · rw [same_ends]
      exact S.ends_known
    · intro access member
      rcases List.mem_append.mp member with old | new
      · exact S.accesses access old
      · rw [List.mem_singleton.mp new]
        exact meant fence
  · rw [useDescriptor_of_negative fence]
    exact S

def Released (s : Pipeline) (fd : Int) : Holder → Prop
  | .other => True
  | .input id => ∀ worker, s.workers.lookup id = some worker → worker.stage ≠ .waiting
  | .writeEnd id => ∀ worker, s.workers.lookup id = some worker → worker.stage = .finished
  | .readEnd _ => ∀ claim ∈ held s, claim.fence ≠ fd

theorem Sound.lookup_kept (S : Sound s) {fd : Int} {holder : Holder}
    (found : s.descriptors.lookup fd = some holder) (released : Released s fd holder) :
    (∀ id worker, s.workers.lookup id = some worker → worker.stage = .waiting →
      0 ≤ worker.job.request.inputAcquireFenceFd →
        (s.descriptors.erase fd).lookup worker.job.request.inputAcquireFenceFd =
          some (.input id)) ∧
    (∀ id worker, s.workers.lookup id = some worker → worker.stage ≠ .finished →
      0 ≤ worker.job.writeFd ∧
        (s.descriptors.erase fd).lookup worker.job.writeFd = some (.writeEnd id)) ∧
    ∀ claim ∈ held s, 0 ≤ claim.fence → claim.fence ≠ fd := by
  refine ⟨?_, ?_, ?_⟩
  · intro id worker at_id waits fence
    have before := S.inputs id worker at_id waits fence
    refine lookup_erase_eq_some.mpr ⟨?_, before⟩
    rintro rfl
    obtain rfl := Option.some.inj (found.symm.trans before)
    exact released worker at_id waits
  · intro id worker at_id runs
    obtain ⟨fence, before⟩ := S.write_ends id worker at_id runs
    refine ⟨fence, lookup_erase_eq_some.mpr ⟨?_, before⟩⟩
    rintro rfl
    obtain rfl := Option.some.inj (found.symm.trans before)
    exact runs (released worker at_id)
  · intro claim member fence same
    have keyed := S.keyed claim member
    simp only [Keyed, if_pos fence] at keyed
    obtain ⟨id, worker, at_fence, -⟩ := keyed
    rw [same] at at_fence
    obtain rfl := Option.some.inj (found.symm.trans at_fence)
    exact released claim member same

theorem Keyed.erase {fd : Int} {claim : Claim} (keyed : Keyed s claim)
    (other : 0 ≤ claim.fence → claim.fence ≠ fd) {table : Table Int Holder}
    (rest : table = s.descriptors.erase fd) (same : t.workers = s.workers)
    (descriptors : t.descriptors = table) : Keyed t claim := by
  unfold Keyed at keyed ⊢
  rw [descriptors, rest, same]
  split
  · rename_i fence
    rw [if_pos fence] at keyed
    obtain ⟨id, worker, at_fence, at_id, key⟩ := keyed
    exact ⟨id, worker, lookup_erase_eq_some.mpr ⟨other fence, at_fence⟩, at_id, key⟩
  · rename_i negative
    rw [if_neg negative] at keyed
    exact keyed

theorem Sound.close (S : Sound s) {user : User} {fd : Int} {holder : Holder}
    (found : s.descriptors.lookup fd = some holder) (released : Released s fd holder)
    (meant : Meant s ⟨user, .close, fd, some holder⟩) : Sound (closeDescriptor user fd s) := by
  by_cases fence : 0 ≤ fd
  · simp only [closeDescriptor, if_pos fence, found]
    obtain ⟨inputs, write_ends, others⟩ := S.lookup_kept found released
    have same_ends : (ends { s with
        descriptors := s.descriptors.erase fd
        accesses := s.accesses ++ [⟨user, .close, fd, some holder⟩] }).Perm (ends s) := by
      refine List.Perm.filter _ ?_
      simp only [List.filterMap_append, List.filterMap_cons, closedBy, if_true,
        List.filterMap_nil]
      rw [← List.append_assoc]
      exact (List.perm_append_singleton _ _).trans
        ((values_perm_cons_erase found).symm.append_right _)
    refine { S with
      ends_distinct := same_ends.nodup_iff.mpr S.ends_distinct
      ends_known := ?_
      inputs := inputs
      write_ends := write_ends
      keyed := ?_
      accesses := ?_ }
    · intro h member
      exact S.ends_known h (same_ends.subset member)
    · intro claim member
      exact (S.keyed claim member).erase (others claim member) rfl rfl rfl
    · intro access member
      rcases List.mem_append.mp member with old | new
      · exact S.accesses access old
      · rw [List.mem_singleton.mp new]
        exact meant
  · rw [closeDescriptor_of_negative fence]
    exact S

theorem Sound.advance (S : Sound s) {id : Nat} {worker worker' : EncodeWorker}
    (at_id : s.workers.lookup id = some worker) (job : worker'.job = worker.job)
    (waits : worker'.stage ≠ .waiting)
    (runs : worker.stage = .finished → worker'.stage = .finished) :
    Sound (setWorker id worker' s) := by
  have key : worker'.key = worker.key := by simp only [EncodeWorker.key, job]
  have back : ∀ k v, (s.workers.insert id worker').lookup k = some v →
      ∃ w, s.workers.lookup k = some w ∧ w.key = v.key := by
    intro k v found
    rcases lookup_insert_eq_some.mp found with ⟨rfl, rfl⟩ | ⟨-, before⟩
    · exact ⟨worker, at_id, key.symm⟩
    · exact ⟨v, before, rfl⟩
  have forth : ∀ k w, s.workers.lookup k = some w →
      ∃ v, (s.workers.insert id worker').lookup k = some v ∧ v.key = w.key := by
    intro k w found
    by_cases same : k = id
    · subst same
      obtain rfl := Option.some.inj (at_id.symm.trans found)
      exact ⟨worker', AList.lookup_insert _, key⟩
    · exact ⟨w, (AList.lookup_insert_ne same).trans found, rfl⟩
  refine { S with
    ends_known := ?_
    inputs := ?_
    write_ends := ?_
    keyed := ?_
    workers_processed := ?_
    workers_distinct := ?_
    accesses := ?_ }
  · intro holder member k owner
    exact AList.mem_insert _ |>.mpr (Or.inr (S.ends_known holder member k owner))
  · intro k v found at_waiting fence
    rcases lookup_insert_eq_some.mp found with ⟨rfl, rfl⟩ | ⟨-, before⟩
    · exact absurd at_waiting waits
    · exact S.inputs k v before at_waiting fence
  · intro k v found running
    rcases lookup_insert_eq_some.mp found with ⟨rfl, rfl⟩ | ⟨-, before⟩
    · rw [job]
      exact S.write_ends k worker at_id fun finished => running (runs finished)
    · exact S.write_ends k v before running
  · intro claim member
    have before := S.keyed claim member
    unfold Keyed at before ⊢
    split
    · rename_i fence
      rw [if_pos fence] at before
      obtain ⟨k, w, at_fence, at_k, same⟩ := before
      obtain ⟨v, there, key⟩ := forth k w at_k
      exact ⟨k, v, at_fence, there, key.trans same⟩
    · rename_i negative
      rw [if_neg negative] at before
      intro k v found
      obtain ⟨w, at_k, key⟩ := back k v found
      rw [← key]
      exact before k w at_k
  · intro k v found
    obtain ⟨w, at_k, key⟩ := back k v found
    rw [← key]
    exact S.workers_processed k w at_k
  · intro k k' v v' found found' same
    obtain ⟨w, at_k, key⟩ := back k v found
    obtain ⟨w', at_k', key'⟩ := back k' v' found'
    exact S.workers_distinct k k' w w' at_k at_k' ((key.trans same).trans key'.symm)
  · intro access member
    exact (S.accesses access member).mono forth

theorem Sound.note (S : Sound s) (key : EncodedFrameKey) :
    Sound { s with processed := s.processed ++ [key] } :=
  { S with
    tickets_processed := fun key member =>
      List.mem_append_left _ (S.tickets_processed key member)
    workers_processed := fun id worker at_id =>
      List.mem_append_left _ (S.workers_processed id worker at_id) }

theorem Sound.claim (S : Sound s) (claim : Claim) (keyed : Keyed s claim)
    (fresh : claim.key ∉ tickets s) (processed : claim.key ∈ s.processed)
    (unused : claim.fence ∉ fencesOf (held s)) :
    Sound { s with outstanding := s.outstanding ++ [claim] } := by
  have more : (held { s with outstanding := s.outstanding ++ [claim] }).Perm
      (claim :: held s) := by
    simp only [held, List.append_assoc, List.singleton_append]
    exact List.perm_middle
  have more_tickets : (tickets
      { s with outstanding := s.outstanding ++ [claim] }).Perm
      (claim.key :: tickets s) :=
    ((more.append_right _).map _).append_right _
  refine { S with
    fences := ?_
    keyed := ?_
    tickets_distinct := ?_
    tickets_processed := ?_ }
  · have distinct : (fencesOf (claim :: held s)).Nodup := by
      unfold fencesOf
      rw [List.map_cons, List.filter_cons]
      split
      · exact List.nodup_cons.mpr ⟨unused, S.fences⟩
      · exact S.fences
    exact fencesOf_distinct more.subperm distinct
  · intro other member
    rcases List.mem_cons.mp (more.subset member) with rfl | before
    · exact keyed
    · exact S.keyed other before
  · exact more_tickets.nodup_iff.mpr (List.nodup_cons.mpr ⟨fresh, S.tickets_distinct⟩)
  · intro key member
    rcases List.mem_cons.mp (more_tickets.subset member) with rfl | before
    · exact processed
    · exact S.tickets_processed key before

def startedTable (id : Nat) (input readFd writeFd : Int) (table : Table Int Holder) :
    Table Int Holder :=
  ((handInput id input table).insert readFd (.readEnd id)).insert writeFd (.writeEnd id)

def startedEnds (id : Nat) (input : Int) : List Holder :=
  .writeEnd id :: .readEnd id :: if 0 ≤ input then [.input id] else []

section Starting

variable {id : Nat} {input readFd writeFd : Int}

theorem ownerOf_startedEnds {holder : Holder} (member : holder ∈ startedEnds id input) :
    ownerOf holder = some id := by
  simp only [startedEnds, List.mem_cons] at member
  rcases member with rfl | rfl | member
  · rfl
  · rfl
  · split at member
    · rw [List.mem_singleton.mp member]
      rfl
    · cases member

theorem startedEnds_nodup (id : Nat) (input : Int) : (startedEnds id input).Nodup := by
  unfold startedEnds
  split <;> simp

theorem startedTable_kept (available : Available id input (some (readFd, writeFd)) s) {fd : Int}
    {holder : Holder} (found : s.descriptors.lookup fd = some holder)
    (ours : holder ≠ .other) :
    (startedTable id input readFd writeFd s.descriptors).lookup fd = some holder := by
  obtain ⟨at_input, -, -, -, read_fresh, write_fresh, -⟩ := available
  have not_read : fd ≠ readFd := by
    rintro rfl
    exact read_fresh (mem_of_lookup found)
  have not_write : fd ≠ writeFd := by
    rintro rfl
    exact write_fresh (mem_of_lookup found)
  rw [startedTable, AList.lookup_insert_ne not_write, AList.lookup_insert_ne not_read]
  unfold handInput
  split
  · rename_i fence
    have not_input : fd ≠ input := by
      rintro rfl
      exact ours (Option.some.inj (found.symm.trans (at_input fence)))
    rw [AList.lookup_insert_ne not_input]
    exact found
  · exact found

theorem startedTable_read (different : readFd ≠ writeFd) (table : Table Int Holder) :
    (startedTable id input readFd writeFd table).lookup readFd = some (.readEnd id) := by
  rw [startedTable, AList.lookup_insert_ne different, AList.lookup_insert]

theorem startedTable_write (table : Table Int Holder) :
    (startedTable id input readFd writeFd table).lookup writeFd = some (.writeEnd id) :=
  AList.lookup_insert _

theorem startedTable_input (available : Available id input (some (readFd, writeFd)) s)
    (fence : 0 ≤ input) :
    (startedTable id input readFd writeFd s.descriptors).lookup input = some (.input id) := by
  obtain ⟨at_input, -, -, -, read_fresh, write_fresh, -⟩ := available
  have is_open := mem_of_lookup (at_input fence)
  have not_read : input ≠ readFd := by
    rintro rfl
    exact read_fresh is_open
  have not_write : input ≠ writeFd := by
    rintro rfl
    exact write_fresh is_open
  rw [startedTable, AList.lookup_insert_ne not_write, AList.lookup_insert_ne not_read, handInput,
    if_pos fence, AList.lookup_insert]

theorem handInput_keys (available : Available id input (some (readFd, writeFd)) s)
    (fd : Int) : fd ∈ handInput id input s.descriptors ↔ fd ∈ s.descriptors := by
  unfold handInput
  split
  · rename_i fence
    have is_open := mem_of_lookup (available.1 fence)
    rw [AList.mem_insert]
    constructor
    · rintro (rfl | member)
      · exact is_open
      · exact member
    · exact Or.inr
  · exact Iff.rfl

theorem startedTable_ends (available : Available id input (some (readFd, writeFd)) s) :
    ((values (startedTable id input readFd writeFd s.descriptors)).filter
      fun holder => holder ≠ .other).Perm
        (startedEnds id input ++
          (values s.descriptors).filter fun holder => holder ≠ .other) := by
  have same_keys := handInput_keys available
  obtain ⟨at_input, -, -, different, read_fresh, write_fresh, -⟩ := available
  have read_new : readFd ∉ handInput id input s.descriptors := mt (same_keys readFd).mp read_fresh
  have write_new : writeFd ∉ (handInput id input s.descriptors).insert readFd
      (.readEnd id) := by
    rw [AList.mem_insert]
    rintro (rfl | member)
    · exact different rfl
    · exact write_fresh ((same_keys writeFd).mp member)
  rw [startedTable, values_insert_of_fresh write_new, values_insert_of_fresh read_new]
  simp only [startedEnds, handInput]
  split
  · rename_i fence
    rw [values_insert]
    have before := (values_perm_cons_erase (at_input fence)).filter
      (fun holder => decide (holder ≠ .other))
    simp only [ne_eq, reduceCtorEq, not_false_eq_true, decide_true, List.filter_cons_of_pos,
      not_true_eq_false, decide_false, Bool.false_eq_true, List.filter_cons_of_neg,
      List.cons_append, List.nil_append] at before ⊢
    exact ((before.symm.cons _).cons _).cons _
  · simp

end Starting

theorem Sound.start (S : Sound s) (id : Nat) (job : EncodeJob) (readFd : Int)
    (available : Available id job.request.inputAcquireFenceFd (some (readFd, job.writeFd)) s)
    (processed : requestKey job.request ∈ s.processed)
    (first : ∀ k w, s.workers.lookup k = some w → w.key ≠ requestKey job.request)
    (unclaimed : requestKey job.request ∉ tickets s) :
    Sound { s with
      descriptors := startedTable id job.request.inputAcquireFenceFd readFd job.writeFd
        s.descriptors
      workers := s.workers.insert id { job := job } } := by
  have new_id : id ∉ s.workers := available.2.2.2.2.2.2
  have more : (ends { s with
      descriptors := startedTable id job.request.inputAcquireFenceFd readFd job.writeFd
        s.descriptors
      workers := s.workers.insert id { job := job } }).Perm
      (startedEnds id job.request.inputAcquireFenceFd ++ ends s) := by
    simp only [ends, List.filter_append]
    rw [← List.append_assoc]
    exact (startedTable_ends available).append_right _
  have forth : ∀ k w, s.workers.lookup k = some w →
      (s.workers.insert id { job := job }).lookup k = some w := by
    intro k w found
    have old : k ≠ id := by
      rintro rfl
      exact new_id (mem_of_lookup found)
    exact (AList.lookup_insert_ne old).trans found
  refine { S with
    ends_distinct := ?_
    ends_known := ?_
    inputs := ?_
    write_ends := ?_
    keyed := ?_
    workers_processed := ?_
    workers_distinct := ?_
    accesses := ?_ }
  · refine more.nodup_iff.mpr (List.nodup_append.mpr
      ⟨startedEnds_nodup _ _, S.ends_distinct, ?_⟩)
    rintro holder new _ old rfl
    exact new_id (S.ends_known holder old id (ownerOf_startedEnds new))
  · intro holder member k owner
    rw [AList.mem_insert]
    rcases List.mem_append.mp (more.subset member) with new | old
    · rw [ownerOf_startedEnds new] at owner
      exact Or.inl (Option.some.inj owner).symm
    · exact Or.inr (S.ends_known holder old k owner)
  · intro k v found at_waiting fence
    rcases lookup_insert_eq_some.mp found with ⟨rfl, rfl⟩ | ⟨-, before⟩
    · exact startedTable_input available fence
    · exact startedTable_kept available (S.inputs k v before at_waiting fence) (by simp)
  · intro k v found running
    rcases lookup_insert_eq_some.mp found with ⟨rfl, rfl⟩ | ⟨-, before⟩
    · exact ⟨available.2.2.1, startedTable_write _⟩
    · obtain ⟨fence, at_fd⟩ := S.write_ends k v before running
      exact ⟨fence, startedTable_kept available at_fd (by simp)⟩
  · intro claim member
    have before := S.keyed claim member
    unfold Keyed at before ⊢
    split
    · rename_i fence
      rw [if_pos fence] at before
      obtain ⟨k, w, at_fence, at_k, same⟩ := before
      exact ⟨k, w, startedTable_kept available at_fence (by simp), forth k w at_k, same⟩
    · rename_i negative
      rw [if_neg negative] at before
      intro k v found
      rcases lookup_insert_eq_some.mp found with ⟨rfl, rfl⟩ | ⟨-, old⟩
      · intro same
        apply unclaimed
        change requestKey job.request = claim.key at same
        rw [same]
        refine List.mem_append_left _ (List.mem_map_of_mem (List.mem_append_left _ member))
      · exact before k v old
  · intro k v found
    rcases lookup_insert_eq_some.mp found with ⟨rfl, rfl⟩ | ⟨-, before⟩
    · exact processed
    · exact S.workers_processed k v before
  · intro k k' v v' found found' same
    rcases lookup_insert_eq_some.mp found with ⟨rfl, rfl⟩ | ⟨-, before⟩
    · rcases lookup_insert_eq_some.mp found' with ⟨rfl, -⟩ | ⟨-, before'⟩
      · rfl
      · exact absurd same.symm (first k' v' before')
    · rcases lookup_insert_eq_some.mp found' with ⟨rfl, rfl⟩ | ⟨-, before'⟩
      · exact absurd same (first k v before)
      · exact S.workers_distinct k k' v v' before before' same
  · intro access member
    exact (S.accesses access member).mono fun k w at_k => ⟨w, forth k w at_k, rfl⟩

end Primitives

section Moves

variable {s t : Pipeline}

theorem subperm_of_counts {claims claims' : List Claim}
    (fewer : ∀ claim, claims'.count claim ≤ claims.count claim) : claims'.Subperm claims :=
  List.subperm_ext_iff.mpr fun claim _ => fewer claim

theorem count_of_lookup {K V : Type} [DecidableEq K] (f : V → List Claim) {table : Table K V}
    {k : K} {v : V} (found : table.lookup k = some v) (claim : Claim) :
    ((values table).flatMap f).count claim =
      (f v).count claim + ((values (table.erase k)).flatMap f).count claim := by
  rw [(flatMap_values_perm f found).count_eq, List.count_append]

theorem tickets_subperm (consumed : t.consumed = s.consumed)
    (fewer : (pledged t).Subperm (pledged s)) : (tickets t).Subperm (tickets s) := by
  obtain ⟨claims, same, among⟩ := fewer
  unfold tickets
  rw [consumed]
  exact ⟨claims.map (fun claim => claim.key) ++ s.consumed, (same.map _).append_right _,
    (among.map _).append_right _⟩

theorem Sound.recount (S : Sound s) (descriptors : t.descriptors = s.descriptors)
    (workers : t.workers = s.workers) (processed : t.processed = s.processed)
    (accesses : t.accesses = s.accesses) (consumed : t.consumed = s.consumed)
    (fewer : ∀ claim, (held t).count claim ≤ (held s).count claim)
    (through : ∀ claim, (pledged t).count claim ≤ (pledged s).count claim) : Sound t :=
  S.move descriptors workers processed accesses (subperm_of_counts fewer)
    (tickets_subperm consumed (subperm_of_counts through))

theorem Sound.repend (S : Sound s) {w : Writer}
    (fewer : ∀ claim, ((values w.pendingWrites).flatMap pendingClaims).count claim ≤
      ((values s.writer.pendingWrites).flatMap pendingClaims).count claim) :
    Sound { s with writer := w } := by
  refine S.recount rfl rfl rfl rfl rfl ?_ ?_
  · intro claim
    have bound := fewer claim
    simp only [held, List.count_append]
    omega
  · intro claim
    have bound := fewer claim
    simp only [pledged, held, List.count_append]
    omega

theorem pendingClaims_registerPath (frameNumber : Nat) (outputPath : String) (w : Writer)
    (claim : Claim) :
    ((values (FenceAwareResultWriter.registerPath frameNumber outputPath w).pendingWrites).flatMap
      pendingClaims).count claim =
        ((values w.pendingWrites).flatMap pendingClaims).count claim := by
  simp only [FenceAwareResultWriter.registerPath, flatMap_values_insert, List.count_append]
  cases found : w.pendingWrites.lookup frameNumber with
  | none =>
    rw [flatMap_values_of_absent _ found]
    simp [pendingClaims]
  | some pending =>
    rw [count_of_lookup pendingClaims found]
    rfl

theorem pendingClaims_registerResult (result : CaptureResult) (w : Writer) (claim : Claim) :
    ((values (registerResult result w).pendingWrites).flatMap pendingClaims).count claim ≤
      (handedOver result result.completedOutputBuffers).count claim +
        ((values w.pendingWrites).flatMap pendingClaims).count claim := by
  simp only [registerResult, flatMap_values_insert, List.count_append]
  cases found : w.pendingWrites.lookup result.frameNumber with
  | none =>
    rw [flatMap_values_of_absent _ found]
    exact Nat.le_refl _
  | some pending =>
    rw [count_of_lookup pendingClaims found]
    have new : pendingClaims { (some pending).getD {} with result := some result } =
      handedOver result result.completedOutputBuffers := rfl
    rw [new]
    omega

theorem pendingClaims_cancel (frameNumber : Nat) (w : Writer) (claim : Claim) :
    ((values (FenceAwareResultWriter.cancel frameNumber w).pendingWrites).flatMap
      pendingClaims).count claim ≤
        ((values w.pendingWrites).flatMap pendingClaims).count claim := by
  simp only [FenceAwareResultWriter.cancel]
  cases found : w.pendingWrites.lookup frameNumber with
  | none => rw [flatMap_values_of_absent _ found]
  | some pending =>
    rw [count_of_lookup pendingClaims found]
    omega

theorem Sound.proceed (S : Sound s) {id : Nat} {call call' : WriteCall}
    (at_id : s.calls.lookup id = some call)
    (opened : ∀ claim, (openClaims call').count claim ≤ (openClaims call).count claim)
    (whole : ∀ claim, (openClaims call').count claim + (closedClaims call').count claim =
      (openClaims call).count claim + (closedClaims call).count claim) :
    Sound (setCall id call' s) := by
  refine S.recount rfl rfl rfl rfl rfl ?_ ?_
  · intro claim
    have bound := opened claim
    have before := count_of_lookup openClaims at_id claim
    simp only [held, setCall, flatMap_values_insert, List.count_append]
    omega
  · intro claim
    have bound := whole claim
    have before := count_of_lookup openClaims at_id claim
    have before' := count_of_lookup closedClaims at_id claim
    simp only [pledged, held, setCall, flatMap_values_insert, List.count_append]
    omega

theorem handedOver_first (result : CaptureResult) {completed : CompletedOutputBuffer}
    {buffers : List CompletedOutputBuffer} (first : buffers.head? = some completed)
    (claim : Claim) :
    (handedOver result [completed]).count claim ≤ (handedOver result buffers).count claim := by
  obtain ⟨rest, rfl⟩ := List.head?_eq_some_iff.mp first
  refine List.Sublist.count_le claim ?_
  refine List.Sublist.filter _ (List.Sublist.map _ ?_)
  exact List.cons_sublist_cons.mpr (List.nil_sublist rest)

theorem Sound.takePending (S : Sound s) {id frameNumber : Nat}
    (taken : EncodePipeline.takePending id frameNumber s = some t) : Sound t := by
  unfold EncodePipeline.takePending at taken
  split at taken
  · rename_i outputPath result found
    split at taken
    · rename_i free
      have dropped := pendingClaims_cancel frameNumber s.writer
      simp only at taken
      split at taken
      · obtain rfl := Option.some.inj taken
        exact S.repend dropped
      · rename_i completed first
        obtain rfl := Option.some.inj taken
        have before := count_of_lookup pendingClaims found
        have less := handedOver_first result first
        have absent := AList.lookup_eq_none.mpr free.2
        refine S.recount rfl rfl rfl rfl rfl ?_ ?_
        · intro claim
          have counted := before claim
          have bound := less claim
          have same : pendingClaims ⟨outputPath, some result⟩ =
            handedOver result result.completedOutputBuffers := rfl
          have one : openClaims ⟨outputPath, result, completed, .awaiting⟩ =
            handedOver result [completed] := rfl
          simp only [held, setCall, FenceAwareResultWriter.cancel, flatMap_values_insert,
            List.count_append, flatMap_values_of_absent _ absent]
          rw [same] at counted
          rw [one]
          omega
        · intro claim
          have counted := before claim
          have bound := less claim
          have same : pendingClaims ⟨outputPath, some result⟩ =
            handedOver result result.completedOutputBuffers := rfl
          have one : openClaims ⟨outputPath, result, completed, .awaiting⟩ =
            handedOver result [completed] := rfl
          have nothing : closedClaims ⟨outputPath, result, completed, .awaiting⟩ = [] := rfl
          simp only [pledged, held, setCall, FenceAwareResultWriter.cancel,
            flatMap_values_insert, List.count_append, flatMap_values_of_absent _ absent]
          rw [same] at counted
          rw [one, nothing, List.count_nil]
          omega
    · cases taken
  · cases taken

theorem finishWrite_pending (call : WriteCall) (ready : Bool) (answers : Answers) (w : Writer) :
    (finishWrite call ready answers w).2.pendingWrites = w.pendingWrites := by
  have effects := lookupBuffer_effects call.result call.completed.bufferId w
  unfold finishWrite
  cases looked : lookupBuffer call.result call.completed.bufferId w with
  | mk found rest =>
    obtain ⟨lease, after⟩ := rest
    rw [looked] at effects
    obtain ⟨rfl, rfl⟩ := Prod.mk.inj effects
    obtain ⟨store, files, same⟩ := writeImage_frame call.outputPath call.result call.completed
      ready (metadataFor call.completed found) answers
      { w with captureBuffers := afterFirst w call.result call.completed.bufferId }
    simp only [same]

theorem Sound.finish (S : Sound s) {id : Nat} {call : WriteCall}
    (at_id : s.calls.lookup id = some call) (closed : fenceOpen call.stage = false)
    {w : Writer} (pending : w.pendingWrites = s.writer.pendingWrites) {images : List Image} :
    Sound { s with
      calls := s.calls.erase id
      writer := w
      consumed := s.consumed ++ (callClaims call).map (fun claim => claim.key)
      images := images } := by
  have at_closed : closedClaims call = callClaims call := by simp [closedClaims, closed]
  have at_open : openClaims call = [] := by simp [openClaims, closed]
  refine S.move rfl rfl rfl rfl ?_ ?_
  · refine subperm_of_counts ?_
    intro claim
    have before := count_of_lookup openClaims at_id claim
    simp only [held, List.count_append, pending]
    omega
  · have pledges : (pledged s).Perm (callClaims call ++ (s.outstanding ++
        (values s.writer.pendingWrites).flatMap pendingClaims ++
        (values (s.calls.erase id)).flatMap openClaims ++
        (values (s.calls.erase id)).flatMap closedClaims)) := by
      refine List.perm_iff_count.mpr ?_
      intro claim
      have before := count_of_lookup openClaims at_id claim
      have before' := count_of_lookup closedClaims at_id claim
      rw [at_open, List.count_nil] at before
      rw [at_closed] at before'
      simp only [pledged, held, List.count_append]
      omega
    have keys := (pledges.map (fun claim => claim.key)).append_right s.consumed
    refine List.Perm.subperm (List.Perm.trans ?_ keys.symm)
    simp only [tickets, pledged, held, pending, List.map_append]
    rw [← List.append_assoc, List.append_assoc ((callClaims call).map _)]
    exact List.perm_append_comm

end Moves

section Runs

variable {s t : Pipeline}

theorem atStage_eq_some {id : Nat} {stage : EncodeStage} {next : EncodeWorker → Pipeline}
    (taken : atStage id stage s next = some t) :
    ∃ worker, s.workers.lookup id = some worker ∧ worker.stage = stage ∧ next worker = t := by
  unfold atStage at taken
  split at taken
  · rename_i worker at_id
    split at taken
    · rename_i at_stage
      exact ⟨worker, at_id, at_stage, Option.some.inj taken⟩
    · cases taken
  · cases taken

theorem fence_unused (S : Sound s) {fd : Int} (free : fd ∉ s.descriptors) :
    fd ∉ fencesOf (held s) := by
  intro used
  obtain ⟨fence, claim, member, rfl⟩ := mem_fencesOf.mp used
  have keyed := S.keyed claim member
  simp only [Keyed, if_pos fence] at keyed
  obtain ⟨id, worker, at_fence, -⟩ := keyed
  exact free (mem_of_lookup at_fence)

theorem startWorker_sound (S : Sound s) {id : Nat} {request : OutputProcessRequest}
    {pipe : Option (Int × Int)} (available : Available id request.inputAcquireFenceFd pipe s)
    (fresh : requestKey request ∉ s.processed) : Sound (startWorker id request pipe s) := by
  have noted := S.note (requestKey request)
  have unclaimed : requestKey request ∉ tickets s := by
    intro claimed
    exact fresh (S.tickets_processed _ claimed)
  have first : ∀ k w, s.workers.lookup k = some w → w.key ≠ requestKey request := by
    intro k w at_k same
    exact fresh (same ▸ S.workers_processed k w at_k)
  have known : requestKey request ∈ s.processed ++ [requestKey request] := by simp
  cases pipe with
  | none =>
    have claimed : Sound { s with
        outstanding := s.outstanding ++ [⟨requestKey request, -1⟩]
        processed := s.processed ++ [requestKey request] } := by
      refine noted.claim ⟨requestKey request, -1⟩ ?_ unclaimed known ?_
      · exact first
      · intro used
        have fence : (0 : Int) ≤ -1 := (mem_fencesOf.mp used).1
        omega
    simp only [startWorker, processOutput, closeFd]
    split
    · rename_i fence
      exact claimed.close (available.1 fence) trivial (Or.inl rfl)
    · exact claimed
  | some ends =>
    obtain ⟨readFd, writeFd⟩ := ends
    have started := noted.start id ⟨request, resolveBuffer s.writer.previewBuffers
      s.writer.captureBuffers request.bufferId, writeFd⟩ readFd available known first unclaimed
    refine started.claim ⟨requestKey request, readFd⟩ ?_ unclaimed known ?_
    · have fence : 0 ≤ readFd := available.2.1
      have different : readFd ≠ writeFd := available.2.2.2.1
      simp only [Keyed, if_pos fence]
      exact ⟨id, _, startedTable_read different _, AList.lookup_insert _, rfl⟩
    · exact fence_unused S available.2.2.2.2.1

theorem admitInput_sound (S : Sound s) {id : Nat} {worker : EncodeWorker}
    (at_id : s.workers.lookup id = some worker) (waits : worker.stage = .waiting) :
    Sound (closeDescriptor (.encoder id) worker.job.request.inputAcquireFenceFd
      (useDescriptor (.encoder id) .wait worker.job.request.inputAcquireFenceFd
        (setWorker id { worker with stage := .encoding } s))) := by
  have advanced : Sound (setWorker id { worker with stage := .encoding } s) :=
    S.advance at_id rfl (by simp) (by simp [waits])
  by_cases fence : 0 ≤ worker.job.request.inputAcquireFenceFd
  · have at_input := S.inputs id worker at_id waits fence
    have used : Sound (useDescriptor (.encoder id) .wait worker.job.request.inputAcquireFenceFd
        (setWorker id { worker with stage := .encoding } s)) :=
      advanced.use (by decide) fun _ => at_input
    have same_table : (useDescriptor (.encoder id) .wait
        worker.job.request.inputAcquireFenceFd
        (setWorker id { worker with stage := .encoding } s)).descriptors = s.descriptors := by
      simp only [useDescriptor, if_pos fence, setWorker]
    have same_workers : (useDescriptor (.encoder id) .wait
        worker.job.request.inputAcquireFenceFd
        (setWorker id { worker with stage := .encoding } s)).workers =
          s.workers.insert id { worker with stage := .encoding } := by
      simp only [useDescriptor, if_pos fence, setWorker]
    refine used.close (same_table ▸ at_input) ?_ (Or.inl rfl)
    intro other found
    rw [same_workers, AList.lookup_insert] at found
    obtain rfl := Option.some.inj found
    simp
  · rw [useDescriptor_of_negative fence, closeDescriptor_of_negative fence]
    exact advanced

theorem closeWrite_sound (S : Sound s) {id : Nat} {worker : EncodeWorker}
    (at_id : s.workers.lookup id = some worker) (closes : worker.stage = .closing) :
    Sound (closeDescriptor (.encoder id) worker.job.writeFd
      (setWorker id { worker with stage := .finished } s)) := by
  have advanced : Sound (setWorker id { worker with stage := .finished } s) :=
    S.advance at_id rfl (by simp) (by simp)
  have at_write := (S.write_ends id worker at_id (by simp [closes])).2
  refine advanced.close at_write ?_ (Or.inr rfl)
  intro other found
  rw [setWorker, AList.lookup_insert] at found
  obtain rfl := Option.some.inj found
  rfl

theorem callClaims_eq {call : WriteCall} (fence : 0 ≤ call.completed.releaseFenceFd) :
    callClaims call = [claimOf call.result call.completed] := by
  simp [callClaims, handedOver, claimOf, fence]

theorem call_keyed (S : Sound s) {id : Nat} {call : WriteCall}
    (at_id : s.calls.lookup id = some call) (is_open : fenceOpen call.stage = true)
    (fence : 0 ≤ call.completed.releaseFenceFd) :
    claimOf call.result call.completed ∈ held s ∧ ∃ k worker,
      s.descriptors.lookup call.completed.releaseFenceFd = some (.readEnd k) ∧
      s.workers.lookup k = some worker ∧
      worker.key = ⟨call.result.frameNumber, call.completed.bufferId⟩ := by
  have member : claimOf call.result call.completed ∈ held s := by
    refine List.mem_append_right _ (List.mem_flatMap.mpr
      ⟨call, mem_values.mpr ⟨id, at_id⟩, ?_⟩)
    rw [openClaims, if_pos is_open, callClaims_eq fence]
    exact List.mem_singleton.mpr rfl
  refine ⟨member, ?_⟩
  have keyed := S.keyed _ member
  rw [Keyed, if_pos (show 0 ≤ (claimOf call.result call.completed).fence from fence)] at keyed
  exact keyed

theorem fence_released (S : Sound s) (claim : Claim) (fence : 0 ≤ claim.fence)
    (before : (held s).Perm (claim :: held t)) : ∀ other ∈ held t, other.fence ≠ claim.fence := by
  have distinct : (fencesOf (claim :: held t)).Nodup :=
    fencesOf_distinct before.symm.subperm S.fences
  intro other member same
  have twice : claim.fence ∈ fencesOf (held t) :=
    mem_fencesOf.mpr ⟨fence, other, member, same⟩
  simp only [fencesOf, List.map_cons, List.filter_cons, decide_eq_true fence, if_true]
    at distinct
  exact (List.nodup_cons.mp distinct).1 twice

theorem drop_sound (S : Sound s) {claim : Claim} (member : claim ∈ s.outstanding) :
    Sound (closeDescriptor .session claim.fence
      { s with outstanding := s.outstanding.erase claim }) := by
  have parted : (held s).Perm
      (claim :: held { s with outstanding := s.outstanding.erase claim }) :=
    ((List.perm_cons_erase member).append_right _).append_right _
  have dropped : Sound { s with outstanding := s.outstanding.erase claim } := by
    refine S.recount rfl rfl rfl rfl rfl ?_ ?_
    · intro other
      rw [parted.count_eq, List.count_cons]
      omega
    · intro other
      have before := parted.count_eq other
      rw [List.count_cons] at before
      simp only [pledged, List.count_append]
      omega
  by_cases fence : 0 ≤ claim.fence
  · have keyed := S.keyed claim (parted.symm.subset List.mem_cons_self)
    simp only [Keyed, if_pos fence] at keyed
    obtain ⟨id, worker, at_fence, -⟩ := keyed
    exact dropped.close at_fence (fence_released S claim fence parted) (Or.inr ⟨id, rfl⟩)
  · rw [closeDescriptor_of_negative fence]
    exact dropped

theorem deliver_sound (S : Sound s) {result : CaptureResult}
    (among : (handedOver result result.completedOutputBuffers).Subperm s.outstanding) :
    Sound { s with
      outstanding := s.outstanding.diff (handedOver result result.completedOutputBuffers)
      writer := registerResult result s.writer } := by
  have parted := List.subperm_append_diff_self_of_count_le
    fun claim _ => among.count_le claim
  have counted : ∀ claim, (handedOver result result.completedOutputBuffers).count claim +
      (s.outstanding.diff (handedOver result result.completedOutputBuffers)).count claim =
        s.outstanding.count claim := by
    intro claim
    rw [← List.count_append]
    exact parted.count_eq claim
  have bound := pendingClaims_registerResult result s.writer
  refine S.recount rfl rfl rfl rfl rfl ?_ ?_
  · intro claim
    have := counted claim
    have := bound claim
    simp only [held, List.count_append]
    omega
  · intro claim
    have := counted claim
    have := bound claim
    simp only [pledged, held, List.count_append]
    omega

theorem closeFence_sound (S : Sound s) {id : Nat} {outputPath : String}
    {result : CaptureResult} {completed : CompletedOutputBuffer} {ready : Bool}
    (at_id : s.calls.lookup id = some ⟨outputPath, result, completed, .closing ready⟩) :
    Sound (closeDescriptor (.writer ⟨result.frameNumber, completed.bufferId⟩)
      completed.releaseFenceFd
      (setCall id ⟨outputPath, result, completed, .writing ready⟩ s)) := by
  have advanced : Sound (setCall id ⟨outputPath, result, completed, .writing ready⟩ s) := by
    refine S.proceed at_id ?_ ?_
    · intro claim
      simp [openClaims, fenceOpen]
    · intro claim
      simp [openClaims, closedClaims, fenceOpen, callClaims]
  by_cases fence : 0 ≤ completed.releaseFenceFd
  · obtain ⟨-, k, worker, at_fence, at_k, key⟩ := call_keyed S at_id rfl fence
    have parted : (held s).Perm (claimOf result completed ::
        held (setCall id ⟨outputPath, result, completed, .writing ready⟩ s)) := by
      refine List.perm_iff_count.mpr ?_
      intro claim
      have before := count_of_lookup openClaims at_id claim
      have one : openClaims ⟨outputPath, result, completed, .closing ready⟩ =
        [claimOf result completed] := callClaims_eq fence
      have nothing : openClaims ⟨outputPath, result, completed, .writing ready⟩ = [] := rfl
      rw [one, List.count_singleton] at before
      simp only [held, setCall, flatMap_values_insert, List.count_append, List.count_cons,
        nothing, List.count_nil]
      omega
    refine advanced.close at_fence ?_ ⟨k, worker, at_k, key, rfl⟩
    exact fence_released S (claimOf result completed) fence parted
  · rw [closeDescriptor_of_negative fence]
    exact advanced

theorem openOther_sound (S : Sound s) {fd : Int} (free : fd ∉ s.descriptors) :
    Sound { s with descriptors := s.descriptors.insert fd .other } := by
  have kept : ∀ fd' holder, s.descriptors.lookup fd' = some holder →
      (s.descriptors.insert fd .other).lookup fd' = some holder := by
    intro fd' holder found
    have other : fd' ≠ fd := by
      rintro rfl
      exact free (mem_of_lookup found)
    exact (AList.lookup_insert_ne other).trans found
  have same_ends : ends { s with descriptors := s.descriptors.insert fd .other } = ends s := by
    simp [ends, values_insert_of_fresh free]
  refine { S with
    ends_distinct := by rw [same_ends]; exact S.ends_distinct
    ends_known := by rw [same_ends]; exact S.ends_known
    inputs := fun id worker at_id waits fence => kept _ _ (S.inputs id worker at_id waits fence)
    write_ends := fun id worker at_id runs =>
      ⟨(S.write_ends id worker at_id runs).1, kept _ _ (S.write_ends id worker at_id runs).2⟩
    keyed := ?_ }
  intro claim member
  have before := S.keyed claim member
  unfold Keyed at before ⊢
  split
  · rename_i fence
    rw [if_pos fence] at before
    obtain ⟨id, worker, at_fence, rest⟩ := before
    exact ⟨id, worker, kept _ _ at_fence, rest⟩
  · rename_i negative
    rw [if_neg negative] at before
    exact before

theorem closeOther_sound (S : Sound s) {fd : Int}
    (found : s.descriptors.lookup fd = some .other) :
    Sound { s with descriptors := s.descriptors.erase fd } := by
  obtain ⟨inputs, write_ends, others⟩ := S.lookup_kept found trivial
  have same_ends : (ends { s with descriptors := s.descriptors.erase fd }).Perm (ends s) := by
    have before := (values_perm_cons_erase found).append_right (s.accesses.filterMap closedBy)
    have filtered := before.filter fun holder => decide (holder ≠ .other)
    rw [List.cons_append, List.filter_cons_of_neg (by simp)] at filtered
    exact filtered.symm
  refine { S with
    ends_distinct := same_ends.nodup_iff.mpr S.ends_distinct
    ends_known := fun holder member => S.ends_known holder (same_ends.subset member)
    inputs := inputs
    write_ends := write_ends
    keyed := fun claim member => (S.keyed claim member).erase (others claim member) rfl rfl rfl }

theorem step_sound (S : Sound s) {label : Label} (fresh : FreshKey s label)
    (taken : step s label = some t) : Sound t := by
  cases label with
  | process id request pipe =>
    simp only [step] at taken
    split at taken
    · rename_i available
      obtain rfl := Option.some.inj taken
      exact startWorker_sound S available fresh
    · cases taken
  | admitInput id =>
    obtain ⟨worker, at_id, waits, rfl⟩ := atStage_eq_some taken
    exact admitInput_sound S at_id waits
  | encode id answer =>
    obtain ⟨worker, at_id, at_stage, rfl⟩ := atStage_eq_some taken
    exact S.advance at_id rfl (by simp) (by simp [at_stage])
  | store id =>
    obtain ⟨worker, at_id, at_stage, rfl⟩ := atStage_eq_some taken
    have advanced : Sound (setWorker id { worker with stage := .signalling } s) :=
      S.advance at_id rfl (by simp) (by simp [at_stage])
    exact advanced.repend fun claim => Nat.le_refl _
  | signal id =>
    obtain ⟨worker, at_id, at_stage, rfl⟩ := atStage_eq_some taken
    have advanced : Sound (setWorker id { worker with stage := .closing } s) :=
      S.advance at_id rfl (by simp) (by simp [at_stage])
    exact advanced.use (by decide) fun _ => (S.write_ends id worker at_id (by simp [at_stage])).2
  | closeWrite id =>
    obtain ⟨worker, at_id, at_stage, rfl⟩ := atStage_eq_some taken
    exact closeWrite_sound S at_id at_stage
  | drop claim =>
    simp only [step] at taken
    split at taken
    · rename_i member
      obtain rfl := Option.some.inj taken
      exact drop_sound S member
    · cases taken
  | deliver result =>
    simp only [step] at taken
    split at taken
    · rename_i among
      obtain rfl := Option.some.inj taken
      exact deliver_sound S among
    · cases taken
  | registerPath frameNumber outputPath =>
    obtain rfl := Option.some.inj taken
    have renamed := S.repend fun claim =>
      Nat.le_of_eq
      (pendingClaims_registerPath frameNumber outputPath s.writer claim)
    exact { renamed with }
  | cancel frameNumber =>
    obtain rfl := Option.some.inj taken
    exact S.repend (pendingClaims_cancel frameNumber s.writer)
  | take id frameNumber => exact S.takePending taken
  | await id ready =>
    simp only [step] at taken
    split at taken
    · rename_i outputPath result completed at_id
      split at taken
      · obtain rfl := Option.some.inj taken
        have advanced : Sound (setCall id ⟨outputPath, result, completed, .closing ready⟩ s) :=
          S.proceed at_id (fun claim => Nat.le_refl _) fun claim => rfl
        refine advanced.use (by decide) ?_
        intro fence
        obtain ⟨-, k, worker, at_fence, at_k, key⟩ := call_keyed S at_id rfl fence
        exact ⟨k, worker, at_k, key, at_fence⟩
      · cases taken
    · cases taken
  | closeFence id =>
    simp only [step] at taken
    split at taken
    · rename_i outputPath result completed ready at_id
      obtain rfl := Option.some.inj taken
      exact closeFence_sound S at_id
    · cases taken
  | finish id answers =>
    simp only [step] at taken
    split at taken
    · rename_i outputPath result completed ready at_id
      obtain rfl := Option.some.inj taken
      exact S.finish at_id rfl (finishWrite_pending _ ready answers s.writer)
    · cases taken
  | openOther fd =>
    simp only [step] at taken
    split at taken
    · rename_i free
      obtain rfl := Option.some.inj taken
      exact openOther_sound S free.2
    · cases taken
  | closeOther fd =>
    simp only [step] at taken
    split at taken
    · rename_i found
      obtain rfl := Option.some.inj taken
      exact closeOther_sound S found
    · cases taken
  | retrack preview capture pools =>
    obtain rfl := Option.some.inj taken
    exact S.repend fun claim => Nat.le_refl _

end Runs

section Returned

variable {s t : Pipeline}

def closedEnds (s : Pipeline) : List Holder := s.accesses.filterMap closedBy

def Returned (s : Pipeline) : Prop :=
  ∀ id worker, s.workers.lookup id = some worker →
    (worker.stage ≠ .waiting → 0 ≤ worker.job.request.inputAcquireFenceFd →
      .input id ∈ closedEnds s) ∧
    (worker.stage = .finished → .writeEnd id ∈ closedEnds s)

theorem mem_closedEnds_use {user : User} {kind : AccessKind} {fd : Int} {holder : Holder}
    (member : holder ∈ closedEnds s) : holder ∈ closedEnds (useDescriptor user kind fd s) := by
  unfold useDescriptor closedEnds
  split
  · rw [List.filterMap_append]
    exact List.mem_append_left _ member
  · exact member

theorem mem_closedEnds_close {user : User} {fd : Int} {holder : Holder} :
    holder ∈ closedEnds (closeDescriptor user fd s) ↔
      holder ∈ closedEnds s ∨ 0 ≤ fd ∧ s.descriptors.lookup fd = some holder := by
  unfold closeDescriptor closedEnds
  split
  · rename_i fence
    rw [List.filterMap_append, List.mem_append]
    simp [closedBy, fence]
  · rename_i negative
    simp [negative]

theorem workers_use (user : User) (kind : AccessKind) (fd : Int) :
    (useDescriptor user kind fd s).workers = s.workers := by
  unfold useDescriptor
  split <;> rfl

theorem workers_close (user : User) (fd : Int) :
    (closeDescriptor user fd s).workers = s.workers := by
  unfold closeDescriptor
  split <;> rfl

theorem descriptors_use (user : User) (kind : AccessKind) (fd : Int) :
    (useDescriptor user kind fd s).descriptors = s.descriptors := by
  unfold useDescriptor
  split <;> rfl

theorem Returned.mono (R : Returned s) (later : ∀ holder ∈ closedEnds s, holder ∈ closedEnds t)
    (workers : t.workers = s.workers) : Returned t := by
  intro id worker at_id
  rw [workers] at at_id
  obtain ⟨input, write⟩ := R id worker at_id
  exact ⟨fun past fence => later _ (input past fence), fun finished => later _ (write finished)⟩

theorem Returned.advance (R : Returned s)
    (later : ∀ holder ∈ closedEnds s, holder ∈ closedEnds t) (id : Nat) {worker : EncodeWorker}
    (workers : t.workers = s.workers.insert id worker)
    (input : worker.stage ≠ .waiting → 0 ≤ worker.job.request.inputAcquireFenceFd →
      .input id ∈ closedEnds t)
    (write : worker.stage = .finished → .writeEnd id ∈ closedEnds t) : Returned t := by
  intro k w at_k
  rw [workers] at at_k
  rcases lookup_insert_eq_some.mp at_k with ⟨rfl, rfl⟩ | ⟨-, before⟩
  · exact ⟨input, write⟩
  · obtain ⟨input, write⟩ := R k w before
    exact ⟨fun past fence => later _ (input past fence), fun finished => later _ (write finished)⟩

theorem Returned.between (R : Returned s) {id : Nat} {worker worker' : EncodeWorker}
    (at_id : s.workers.lookup id = some worker) (job : worker'.job = worker.job)
    (past : worker.stage ≠ .waiting) (runs : worker'.stage ≠ .finished) :
    Returned (setWorker id worker' s) := by
  refine R.advance (fun _ member => member) id rfl ?_ ?_
  · rw [job]
    exact fun _ fence => (R id worker at_id).1 past fence
  · intro finished
    exact absurd finished runs

theorem Returned.closed (R : Returned s) (user : User) (fd : Int) :
    Returned (closeDescriptor user fd s) :=
  R.mono (fun _ member => mem_closedEnds_close.mpr (Or.inl member)) (workers_close user fd)

theorem Returned.used (R : Returned s) (user : User) (kind : AccessKind) (fd : Int) :
    Returned (useDescriptor user kind fd s) :=
  R.mono (fun _ member => mem_closedEnds_use member) (workers_use user kind fd)

theorem Returned.call (R : Returned s) (id : Nat) (call : WriteCall) :
    Returned (setCall id call s) := R

theorem startWorker_returned (R : Returned s) (id : Nat) (request : OutputProcessRequest)
    (pipe : Option (Int × Int)) : Returned (startWorker id request pipe s) := by
  cases pipe with
  | none =>
    have noted : Returned { s with
        outstanding := s.outstanding ++ [⟨requestKey request, -1⟩]
        processed := s.processed ++ [requestKey request] } := R
    simp only [startWorker, processOutput, closeFd]
    split
    · exact noted.closed _ _
    · exact noted
  | some ends =>
    refine R.advance (fun _ member => member) id rfl ?_ ?_
    · intro past
      exact absurd rfl past
    · intro finished
      cases finished

theorem step_returned (S : Sound s) (R : Returned s) {label : Label}
    (taken : step s label = some t) : Returned t := by
  cases label with
  | process id request pipe =>
    simp only [step] at taken
    split at taken
    · obtain rfl := Option.some.inj taken
      exact startWorker_returned R id request pipe
    · cases taken
  | admitInput id =>
    obtain ⟨worker, at_id, waits, rfl⟩ := atStage_eq_some taken
    refine R.advance ?_ id (by rw [workers_close, workers_use]; rfl) ?_ (by simp)
    · intro holder member
      exact mem_closedEnds_close.mpr (Or.inl (mem_closedEnds_use member))
    · intro _ fence
      refine mem_closedEnds_close.mpr (Or.inr ⟨fence, ?_⟩)
      rw [descriptors_use]
      exact S.inputs id worker at_id waits fence
  | encode id answer =>
    obtain ⟨worker, at_id, at_stage, rfl⟩ := atStage_eq_some taken
    exact R.between at_id rfl (by simp [at_stage]) (by simp)
  | store id =>
    obtain ⟨worker, at_id, at_stage, rfl⟩ := atStage_eq_some taken
    have advanced : Returned (setWorker id { worker with stage := .signalling } s) :=
      R.between at_id rfl (by simp [at_stage]) (by simp)
    exact advanced
  | signal id =>
    obtain ⟨worker, at_id, at_stage, rfl⟩ := atStage_eq_some taken
    have advanced : Returned (setWorker id { worker with stage := .closing } s) :=
      R.between at_id rfl (by simp [at_stage]) (by simp)
    exact advanced.used _ _ _
  | closeWrite id =>
    obtain ⟨worker, at_id, at_stage, rfl⟩ := atStage_eq_some taken
    obtain ⟨fence, at_write⟩ := S.write_ends id worker at_id (by simp [at_stage])
    refine R.advance ?_ id (by rw [workers_close]; rfl) ?_ ?_
    · intro holder member
      exact mem_closedEnds_close.mpr (Or.inl member)
    · intro _ input
      exact mem_closedEnds_close.mpr (Or.inl ((R id worker at_id).1 (by simp [at_stage]) input))
    · intro _
      exact mem_closedEnds_close.mpr (Or.inr ⟨fence, at_write⟩)
  | drop claim =>
    simp only [step] at taken
    split at taken
    · obtain rfl := Option.some.inj taken
      have dropped : Returned { s with outstanding := s.outstanding.erase claim } := R
      exact dropped.closed _ _
    · cases taken
  | deliver result =>
    simp only [step] at taken
    split at taken
    · obtain rfl := Option.some.inj taken
      exact R
    · cases taken
  | registerPath frameNumber outputPath =>
    obtain rfl := Option.some.inj taken
    exact R
  | cancel frameNumber =>
    obtain rfl := Option.some.inj taken
    exact R
  | take id frameNumber =>
    simp only [step, takePending] at taken
    split at taken
    · split at taken
      · split at taken
        · obtain rfl := Option.some.inj taken
          exact R
        · obtain rfl := Option.some.inj taken
          exact R
      · cases taken
    · cases taken
  | await id ready =>
    simp only [step] at taken
    split at taken
    · split at taken
      · obtain rfl := Option.some.inj taken
        exact (R.call _ _).used _ _ _
      · cases taken
    · cases taken
  | closeFence id =>
    simp only [step] at taken
    split at taken
    · obtain rfl := Option.some.inj taken
      exact (R.call _ _).closed _ _
    · cases taken
  | finish id answers =>
    simp only [step] at taken
    split at taken
    · obtain rfl := Option.some.inj taken
      exact R
    · cases taken
  | openOther fd =>
    simp only [step] at taken
    split at taken
    · obtain rfl := Option.some.inj taken
      exact R
    · cases taken
  | closeOther fd =>
    simp only [step] at taken
    split at taken
    · obtain rfl := Option.some.inj taken
      exact R
    · cases taken
  | retrack preview capture pools =>
    obtain rfl := Option.some.inj taken
    exact R

end Returned

section Descriptors

theorem initial_other (fds : List Int) : ∀ holder ∈ values
    (fds.foldl (fun table fd => table.insert fd Holder.other) (∅ : Table Int Holder)),
      holder = .other := by
  have fold : ∀ table : Table Int Holder, (∀ holder ∈ values table, holder = .other) →
      ∀ holder ∈ values (fds.foldl (fun table fd => table.insert fd Holder.other) table),
        holder = .other := by
    induction fds with
    | nil => exact fun _ all => all
    | cons fd rest ih =>
      intro table all
      apply ih (table.insert fd .other)
      intro holder member
      obtain ⟨fd', found⟩ := mem_values.mp member
      rcases lookup_insert_eq_some.mp found with ⟨-, rfl⟩ | ⟨-, before⟩
      · rfl
      · exact all holder (mem_values.mpr ⟨fd', before⟩)
  apply fold
  intro holder member
  cases member

theorem initial_sound (fds : List Int) (preview capture : Tracker) (pools : List DmaBufPool) :
    Sound (Pipeline.initial fds preview capture pools) := by
  have no_ends : ends (Pipeline.initial fds preview capture pools) = [] := by
    refine List.filter_eq_nil_iff.mpr ?_
    intro holder member
    rcases List.mem_append.mp member with present | closed
    · simp [initial_other fds holder present]
    · cases closed
  refine ⟨?_, ?_, ?_, ?_, List.nodup_nil, ?_, List.nodup_nil, ?_, ?_, ?_, ?_⟩
  · rw [no_ends]
    exact List.nodup_nil
  · rw [no_ends]
    intro holder member
    cases member
  · intro id worker found
    cases found
  · intro id worker found
    cases found
  · intro claim member
    cases member
  · intro key member
    cases member
  · intro id worker found
    cases found
  · intro id id' worker worker' found
    cases found
  · intro access member
    cases member

variable {fds : List Int} {preview capture : Tracker} {pools : List DmaBufPool} {s : Pipeline}

theorem reachable_sound
    (run : Reaches step FreshKey (Pipeline.initial fds preview capture pools) s) :
    Sound s ∧ Returned s := by
  refine run.invariant (fun s => Sound s ∧ Returned s) ?_ ⟨initial_sound fds preview capture
    pools, ?_⟩
  · rintro s label t ⟨S, R⟩ fresh taken
    exact ⟨step_sound S fresh taken, step_returned S R taken⟩
  · intro id worker found
    cases found

/-- Whatever descriptors are opened, closed and numbered anew around it, every system call of
the encoder and the writer finds the descriptor that its user was given. No input or pipe end
is closed twice or open after it was closed, and a worker that has ended has closed its own. -/
theorem descriptors_closed_once (fds : List Int) (preview capture : Tracker)
    (pools : List DmaBufPool) (s : Pipeline)
    (run : Reaches step FreshKey (Pipeline.initial fds preview capture pools) s) :
    (∀ access ∈ s.accesses, Meant s access) ∧
      ((closedEnds s).filter fun holder => holder ≠ .other).Nodup ∧
      (∀ holder ∈ closedEnds s, holder ≠ .other →
        ∀ fd, s.descriptors.lookup fd ≠ some holder) ∧
      ∀ id worker, s.workers.lookup id = some worker → worker.stage = .finished →
        .writeEnd id ∈ closedEnds s ∧
          (0 ≤ worker.job.request.inputAcquireFenceFd → .input id ∈ closedEnds s) := by
  obtain ⟨S, R⟩ := reachable_sound run
  have distinct := S.ends_distinct
  unfold ends at distinct
  rw [List.filter_append] at distinct
  refine ⟨S.accesses, distinct.of_append_right, ?_, ?_⟩
  · intro holder closed ours fd found
    refine List.disjoint_of_nodup_append distinct ?_
      (List.mem_filter.mpr ⟨closed, decide_eq_true ours⟩)
    exact List.mem_filter.mpr ⟨mem_values.mpr ⟨fd, found⟩, decide_eq_true ours⟩
  · intro id worker at_id finished
    obtain ⟨input, write⟩ := R id worker at_id
    exact ⟨write finished, input (by simp [finished])⟩

def sampleRequest : OutputProcessRequest := { frameNumber := 7, inputAcquireFenceFd := 3 }

def sampleResult : CaptureResult :=
  { frameNumber := 7, completedOutputBuffers := [{ releaseFenceFd := 4 }] }

/-- A frame is encoded and written; its descriptors 3 and 4 are given out again as soon as they
are closed. -/
def sampleScript : List Label :=
  [.process 0 sampleRequest (some (4, 5)), .admitInput 0, .openOther 3,
    .encode 0 (some [1, 2]), .deliver sampleResult, .store 0, .registerPath 7 "a.jpg",
    .take 0 7, .signal 0, .await 0 true, .closeFence 0, .openOther 4, .finish 0 {},
    .closeWrite 0]

theorem descriptors_closed_once_reused :
    ∃ s, Reaches step FreshKey (Pipeline.initial [3] {} {} []) s ∧
      s.accesses.map (fun access => (access.fd, access.found)) =
        [(3, some (.input 0)), (3, some (.input 0)), (5, some (.writeEnd 0)),
          (4, some (.readEnd 0)), (4, some (.readEnd 0)), (5, some (.writeEnd 0))] ∧
      ((closedEnds s).filter fun holder => holder ≠ .other).Nodup := by
  obtain ⟨s, run, seen⟩ := exists_reaches_of_replay step FreshKey
    (Pipeline.initial [3] {} {} []) sampleScript
    (fun s => decide (s.accesses.map (fun access => (access.fd, access.found)) =
      [(3, some (.input 0)), (3, some (.input 0)), (5, some (.writeEnd 0)),
        (4, some (.readEnd 0)), (4, some (.readEnd 0)), (5, some (.writeEnd 0))]))
    (by decide +kernel)
  exact ⟨s, run, of_decide_eq_true seen, (descriptors_closed_once [3] {} {} [] s run).2.1⟩

end Descriptors

end MiniCam.App.EncodeCustody
