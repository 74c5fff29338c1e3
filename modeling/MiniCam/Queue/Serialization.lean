/- Module: MiniCam/Queue/Serialization
   source: hal/task_executor.cpp, hal/bounded_task_queue.cpp
   digest: Tasks of one key run one at a time, in claim order and within their cycle. -/

import Mathlib.Data.List.Nodup
import MiniCam.Queue.Shutdown
import MiniCam.Queue.TaskExecutor

set_option autoImplicit false
set_option relaxedAutoImplicit false

namespace MiniCam.Queue.Serialization

open MiniCam.Foundation.Runs
open MiniCam.Queue.BoundedTaskQueue (Ring System modulus64 pushStep popStep callStep
  pushStep_frame popStep_frame popStep_pops stopStep_cases callStep_frame)
open MiniCam.Queue.RingInvariant
open MiniCam.Queue.FifoRefinement (reachable_capacity)
open MiniCam.Queue.Shutdown
open MiniCam.Queue.TaskExecutor

variable {Task : Type}

section Workers

/-- A worker against its histories. `old` are the tasks of the cycles before the present one,
all of which were executed. -/
structure Booked (capacity : Nat) (w : Worker Task) : Prop where
  reached : Reaches BoundedTaskQueue.step NoLateClaim (System.initial capacity) w.system
  bounded : Bounded w.system
  parked : w.started = false →
    w.system.consumer = .exited ∨ w.system = System.initial capacity
  logged : ∃ old : List (Entry Task), (∀ e ∈ old, e.cycle < w.cycle) ∧
    w.claims = old ++ w.system.claimed.map (fun claim => w.entry claim.2) ∧
    w.begun = old ++ w.system.popped.filterMap fun task => task.map w.entry
  busy : w.begun = w.finished ++ w.executing

variable {capacity : Nat} {w w' : Worker Task}

private theorem entries_popped {popped : List (Option (Nat × Task))}
    {claimed : List (Nat × Nat × Task)} (f : Nat × Task → Entry Task)
    (ahead : popped <+: claimed.map fun c => some c.2) :
    (popped.filterMap fun task => task.map f) <+: claimed.map fun c => f c.2 := by
  have mapped := ahead.filterMap fun task => task.map f
  rw [List.filterMap_map] at mapped
  have all : claimed.filterMap ((fun task => task.map f) ∘ fun c => some c.2) =
      claimed.map fun c => f c.2 := by
    rw [← List.filterMap_eq_map]
    rfl
  rw [all] at mapped
  exact mapped

theorem Booked.begins_in_order (B : Booked capacity w) : w.begun <+: w.claims := by
  obtain ⟨old, -, claims, begun⟩ := B.logged
  have C := reachable_coherent B.reached B.bounded
  rw [claims, begun]
  exact List.prefix_append_right_inj old |>.mpr (entries_popped w.entry C.fifo)

theorem Booked.one_at_a_time (B : Booked capacity w) :
    w.finished <+: w.begun ∧ w.begun.length ≤ w.finished.length + 1 := by
  have one : w.executing.length ≤ 1 := by
    unfold Worker.executing
    split <;> simp
  have whole := B.busy
  constructor
  · rw [whole]
    exact List.prefix_append _ _
  · rw [whole, List.length_append]
    omega

theorem Booked.all_finished (B : Booked capacity w) (stopped : w.started = false) :
    w.finished = w.claims := by
  obtain ⟨old, -, claims, begun⟩ := B.logged
  have busy := B.busy
  rcases B.parked stopped with exited | fresh
  · have drained := reachable_drained B.reached B.bounded exited
    have none_running : w.executing = [] := by
      unfold Worker.executing
      rw [exited]
    rw [none_running, List.append_nil] at busy
    rw [← busy, begun, claims, drained, List.filterMap_map]
    congr 1
    rw [← List.filterMap_eq_map]
    rfl
  · have none_running : w.executing = [] := by
      unfold Worker.executing
      rw [fresh]
      rfl
    rw [none_running, List.append_nil] at busy
    rw [← busy, begun, claims, fresh]
    rfl

theorem push_claims {id : Nat} {spurious : Bool} (taken : w.push id spurious = some w') :
    ∃ system, pushStep w.system id spurious = some system ∧ w' = { w with
      system := system
      claims := w.claims ++
        (system.claimed.drop w.system.claimed.length).map fun claim => w.entry claim.2 } := by
  obtain ⟨system, pushed, rfl⟩ := Option.map_eq_some_iff.mp taken
  exact ⟨system, pushed, rfl⟩

private theorem logged_grow {old claims : List (Entry Task)}
    {system system' : System (Nat × Task)} (f : Nat × Task → Entry Task)
    (before : claims = old ++ system.claimed.map fun claim => f claim.2)
    (more : system.claimed <+: system'.claimed) :
    claims ++ (system'.claimed.drop system.claimed.length).map (fun claim => f claim.2) =
      old ++ system'.claimed.map fun claim => f claim.2 := by
  obtain ⟨added, grown⟩ := more
  rw [before, ← grown, List.drop_left, List.map_append, List.append_assoc]

private theorem executing_notified {system : System (Nat × Task)}
    (consumer : system.consumer = w.system.consumer ∨
      system.consumer = w.system.consumer.notified) :
    ({ w with system := system } : Worker Task).executing = w.executing := by
  unfold Worker.executing
  rcases consumer with unmoved | moved
  · simp only [unmoved]
    rfl
  · simp only [moved]
    cases w.system.consumer <;> rfl

theorem Booked.push (B : Booked capacity w) {id : Nat} {spurious : Bool}
    (in_time : NoLateClaim w.system (.push id spurious))
    (below : w.system.claimed.length + 1 + w.system.queue.capacity < modulus64)
    (taken : w.push id spurious = some w') : Booked capacity w' := by
  obtain ⟨system, pushed, rfl⟩ := push_claims taken
  obtain ⟨-, -, sized, -, pops, -, consumer⟩ := pushStep_frame pushed
  obtain ⟨more, -⟩ := step_claims (a := .push id spurious) pushed
  obtain ⟨old, earlier, claims, begun⟩ := B.logged
  refine ⟨B.reached.tail in_time pushed, ?_, ?_, ⟨old, earlier, ?_, ?_⟩, ?_⟩
  · have length : system.claimed.length ≤ w.system.claimed.length + 1 := by
      rcases pushStep_progress pushed with ⟨-, -, kept, -⟩ | ⟨task, -, -, grown⟩ | ⟨-, -, kept⟩
      · rw [kept]
        omega
      · rw [grown, List.length_append]
        exact Nat.le_refl _
      · rw [kept]
        omega
    simp only [Bounded, sized]
    omega
  · intro stopped
    rcases B.parked stopped with exited | fresh
    · refine Or.inl ?_
      rcases consumer with unmoved | moved
      · exact unmoved.trans exited
      · simp only [moved, exited]
        rfl
    · rw [fresh] at pushed
      simp [pushStep, System.initial] at pushed
  · exact logged_grow w.entry claims more
  · simp only [pops]
    exact begun
  · have executing := executing_notified (w := w) consumer
    exact B.busy.trans (congrArg (w.finished ++ ·) executing.symm)

private theorem popStep_silent {s t : System (Nat × Task)} (popped : popStep s = some t)
    (same : t.popped = s.popped) (task : Option (Nat × Task)) : t.consumer ≠ .returned task := by
  simp only [popStep] at popped
  intro returned
  cases at_consumer : s.consumer <;> simp only [at_consumer] at popped <;> cases popped
  case storeHead h out => simp at same
  all_goals
    simp only at returned
    first
    | cases returned
    | (split at returned <;> cases returned)

theorem Booked.work (B : Booked capacity w) (taken : w.work = some w') : Booked capacity w' := by
  unfold Worker.work at taken
  split at taken
  · rename_i running
    obtain ⟨system, popped, rfl⟩ := Option.map_eq_some_iff.mp taken
    obtain ⟨-, -, capacity_same, -, -, claimed⟩ := popStep_frame popped
    obtain ⟨old, earlier, claims, begun⟩ := B.logged
    have entries : ({ w with
        system := system
        begun := w.begun ++
          (system.popped.drop w.system.popped.length).filterMap fun task => task.map w.entry
        finished := w.finished ++ w.executing } : Worker Task).entry = w.entry := rfl
    constructor
    · exact B.reached.tail (a := .pop) trivial popped
    · simp only [Bounded, claimed, capacity_same]
      exact B.bounded
    · intro stopped
      rw [running] at stopped
      cases stopped
    · refine ⟨old, earlier, ?_, ?_⟩
      · rw [entries]
        simp only [claimed]
        exact claims
      · rw [entries]
        simp only
        rw [begun, List.append_assoc, ← List.filterMap_append]
        rcases popStep_pops popped with ⟨same, -⟩ | ⟨h, task, -, grown, -⟩
        · rw [same, List.drop_length, List.append_nil]
        · rw [grown, List.drop_left]
    · have next : (system.popped.drop w.system.popped.length).filterMap
            (fun task => task.map w.entry) =
          ({ w with system := system } : Worker Task).executing := by
        unfold Worker.executing
        rcases popStep_pops popped with ⟨same, -⟩ | ⟨h, task, -, grown, -, returned⟩
        · rw [same, List.drop_length]
          simp only
          split
          · rename_i tagged at_consumer
            exact absurd at_consumer (popStep_silent popped same _)
          · rfl
        · rw [grown, List.drop_left, returned]
          cases task <;> rfl
      have busy := B.busy
      simp only [next]
      rw [← busy]
      rfl
  · cases taken

theorem Booked.quiet (B : Booked capacity w) (running : w.started = true)
    {system : System (Nat × Task)}
    (reached : Reaches BoundedTaskQueue.step NoLateClaim (System.initial capacity) system)
    (claimed : system.claimed = w.system.claimed) (popped : system.popped = w.system.popped)
    (sized : system.queue.capacity = w.system.queue.capacity)
    (consumer : system.consumer = w.system.consumer ∨
      system.consumer = w.system.consumer.notified) :
    Booked capacity { w with system := system } := by
  obtain ⟨old, earlier, claims, begun⟩ := B.logged
  refine ⟨reached, ?_, ?_, ⟨old, earlier, ?_, ?_⟩, ?_⟩
  · simp only [Bounded, claimed, sized]
    exact B.bounded
  · intro stopped
    rw [running] at stopped
    cases stopped
  · simp only [claimed]
    exact claims
  · simp only [popped]
    exact begun
  · have executing := executing_notified (w := w) consumer
    rw [executing]
    exact B.busy

theorem Booked.join (B : Booked capacity w) (exited : w.system.consumer = .exited) :
    Booked capacity { w with started := false } :=
  ⟨B.reached, B.bounded, fun _ => Or.inl exited, B.logged, B.busy⟩

theorem Booked.start (B : Booked capacity w) (small : max capacity 1 < modulus64) :
    Booked capacity w.start := by
  unfold Worker.start
  split
  · exact B
  · rename_i stopped
    rw [Bool.not_eq_true] at stopped
    have done := B.all_finished stopped
    have all_begun : w.begun = w.claims := by
      apply B.begins_in_order.eq_of_length_le
      rw [← done]
      exact B.one_at_a_time.1.length_le
    have renewed : ({ System.initial 0 with queue := w.system.queue.reset } :
        System (Nat × Task)) = System.initial capacity := by
      have sized := reachable_capacity B.reached
      simp only [System.initial, Ring.make, Ring.reset, sized]
    simp only [renewed]
    refine ⟨Reaches.refl _, ?_, ?_, ⟨w.claims, ?_, ?_, ?_⟩, ?_⟩
    · simp only [Bounded, System.initial, Ring.make, Ring.reset, List.length_nil, Nat.zero_add]
      exact small
    · intro never
      cases never
    · intro e member
      obtain ⟨old, earlier, claims, -⟩ := B.logged
      rw [claims] at member
      rcases List.mem_append.mp member with before | present
      · exact Nat.lt_succ_of_lt (earlier e before)
      · obtain ⟨claim, -, rfl⟩ := List.mem_map.mp present
        exact Nat.lt_succ_self w.cycle
    · simp [System.initial]
    · simp [System.initial, all_begun]
    · simp [Worker.executing, System.initial, done, all_begun]

theorem create_booked (small : max capacity 1 < modulus64) :
    Booked capacity ({ system := System.initial capacity } : Worker Task) := by
  refine ⟨Reaches.refl _, ?_, fun _ => Or.inr rfl, ⟨[], ?_, ?_, ?_⟩, ?_⟩
  · simp only [Bounded, System.initial, Ring.make, Ring.reset, List.length_nil, Nat.zero_add]
    exact small
  all_goals simp [System.initial, Worker.executing]

end Workers

section Posts

def hasClaimed (w : Worker Task) (id : Nat) : PostState → Bool
  | .loadStarted | .routed => false
  | .pushing => accepted (w.system.calls id)
  | .returned result => result

/-- The claims on worker `k` of `n` against the posts: every claim is that of one post whose key
leads here, with its task, and a post has a claim as soon as it has won its position. -/
structure Posted (n k : Nat) (w : Worker Task) (posts : List (Post Task)) : Prop where
  named : ∀ e ∈ w.claims, ∃ post, posts[e.post]? = some post ∧ post.key % n = k ∧
    post.task = some e.task
  once : (w.claims.map Entry.post).Nodup
  claimed : ∀ id post, posts[id]? = some post → post.key % n = k →
    (id ∈ w.claims.map Entry.post ↔ hasClaimed w id post.state = true)
  tagged : ∀ id task, pending (w.system.calls id) = some task → task.1 = id ∧
    ∃ post, posts[id]? = some post ∧ post.key % n = k ∧ post.task = some task.2

variable {n k : Nat} {w w' : Worker Task} {posts : List (Post Task)}

theorem Posted.same (P : Posted n k w posts) (claims : w'.claims = w.claims)
    (calls : w'.system.calls = w.system.calls) : Posted n k w' posts := by
  refine ⟨?_, ?_, ?_, ?_⟩
  · rw [claims]
    exact P.named
  · rw [claims]
    exact P.once
  · intro id post found mine
    have known := P.claimed id post found mine
    rw [claims]
    cases at_state : post.state <;> simp only [at_state, hasClaimed, calls] at known ⊢ <;>
      exact known
  · rw [calls]
    exact P.tagged

theorem Posted.called (P : Posted n k w posts) (key : Nat) (task : Option Task) :
    Posted n k w (posts ++ [⟨key, task, .loadStarted⟩]) := by
  have kept : ∀ {id : Nat} {post : Post Task}, posts[id]? = some post →
      (posts ++ [⟨key, task, .loadStarted⟩])[id]? = some post := by
    intro id post found
    rw [List.getElem?_append_left (List.getElem?_eq_some_iff.mp found).1]
    exact found
  refine ⟨?_, P.once, ?_, ?_⟩
  · intro e member
    obtain ⟨post, found, mine, same⟩ := P.named e member
    exact ⟨post, kept found, mine, same⟩
  · intro id post found mine
    rcases Nat.lt_or_ge id posts.length with inside | outside
    · rw [List.getElem?_append_left inside] at found
      exact P.claimed id post found mine
    · rw [List.getElem?_append_right outside] at found
      obtain rfl := List.mem_singleton.mp (List.mem_of_getElem? found)
      simp only [hasClaimed, Bool.false_eq_true, iff_false]
      intro listed
      obtain ⟨e, member, rfl⟩ := List.mem_map.mp listed
      obtain ⟨post, found, -⟩ := P.named e member
      have inside := (List.getElem?_eq_some_iff.mp found).1
      omega
  · intro id tagged waits
    obtain ⟨own, post, found, mine, same⟩ := P.tagged id tagged waits
    exact ⟨own, post, kept found, mine, same⟩

theorem getElem?_setState {id j : Nat} {post found : Post Task} {state : PostState}
    (at_id : posts[id]? = some post)
    (at_j : (posts.set id { post with state := state })[j]? = some found) :
    ∃ before, posts[j]? = some before ∧ before.key = found.key ∧ before.task = found.task ∧
      (j = id ∧ before = post ∧ found.state = state ∨ j ≠ id ∧ found = before) := by
  obtain ⟨inside, -⟩ := List.getElem?_eq_some_iff.mp at_id
  by_cases same : j = id
  · subst same
    rw [List.getElem?_set_self inside] at at_j
    obtain rfl := Option.some.inj at_j
    exact ⟨post, at_id, rfl, rfl, Or.inl ⟨rfl, rfl, rfl⟩⟩
  · rw [List.getElem?_set_ne (Ne.symm same)] at at_j
    exact ⟨found, at_j, rfl, rfl, Or.inr ⟨same, rfl⟩⟩

theorem Posted.moves (P : Posted n k w posts) {id : Nat} {post : Post Task} {state : PostState}
    (at_id : posts[id]? = some post)
    (calls : ∀ j, j ≠ id → w'.system.calls j = w.system.calls j)
    (named : ∀ e ∈ w'.claims, e ∈ w.claims ∨
      e.post = id ∧ post.key % n = k ∧ post.task = some e.task)
    (once : (w'.claims.map Entry.post).Nodup)
    (others : ∀ j, j ≠ id → (j ∈ w'.claims.map Entry.post ↔ j ∈ w.claims.map Entry.post))
    (own : post.key % n = k →
      (id ∈ w'.claims.map Entry.post ↔ hasClaimed w' id state = true))
    (tagged : ∀ task, pending (w'.system.calls id) = some task → task.1 = id ∧
      post.key % n = k ∧ post.task = some task.2) :
    Posted n k w' (posts.set id { post with state := state }) := by
  obtain ⟨inside, -⟩ := List.getElem?_eq_some_iff.mp at_id
  have kept : ∀ {j : Nat} {found : Post Task}, posts[j]? = some found →
      ∃ later, (posts.set id { post with state := state })[j]? = some later ∧
        later.key = found.key ∧ later.task = found.task := by
    intro j found at_j
    by_cases same : j = id
    · subst same
      obtain rfl := Option.some.inj (at_id.symm.trans at_j)
      exact ⟨_, List.getElem?_set_self inside, rfl, rfl⟩
    · exact ⟨found, by rw [List.getElem?_set_ne (Ne.symm same)]; exact at_j, rfl, rfl⟩
  refine ⟨?_, once, ?_, ?_⟩
  · intro e member
    have known : ∃ found, posts[e.post]? = some found ∧ found.key % n = k ∧
        found.task = some e.task := by
      rcases named e member with before | ⟨rfl, mine, same⟩
      · exact P.named e before
      · exact ⟨post, at_id, mine, same⟩
    obtain ⟨found, at_e, mine, same⟩ := known
    obtain ⟨later, at_later, key, task⟩ := kept at_e
    exact ⟨later, at_later, by rw [key]; exact mine, by rw [task]; exact same⟩
  · intro j found at_j mine
    obtain ⟨before, at_before, key, -, which⟩ := getElem?_setState at_id at_j
    rcases which with ⟨rfl, rfl, now⟩ | ⟨other, rfl⟩
    · rw [now]
      exact own (by rw [key]; exact mine)
    · rw [others j other, P.claimed j found at_before mine]
      cases at_state : found.state <;> simp only [hasClaimed, calls j other]
  · intro j task waits
    by_cases same : j = id
    · subst same
      obtain ⟨own_tag, mine, same_task⟩ := tagged task waits
      exact ⟨own_tag, _, List.getElem?_set_self inside, mine, same_task⟩
    · rw [calls j same] at waits
      obtain ⟨own_tag, found, at_j, mine, same_task⟩ := P.tagged j task waits
      obtain ⟨later, at_later, key, task_same⟩ := kept at_j
      exact ⟨own_tag, later, at_later, by rw [key]; exact mine, by rw [task_same]; exact same_task⟩

end Posts

section Conditions

def returned (post : Post Task) : Bool :=
  match post.state with
  | .returned _ => true
  | _ => false

def isStarting : Control → Bool
  | .starting _ => true
  | _ => false

/-- `start` does not overlap a post. -/
def StartsAlone (x : Executor Task) : Label Task → Prop
  | .start => ∀ post ∈ x.posts, returned post = true
  | .post _ _ => isStarting x.control = false
  | _ => True

/-- No compare-exchange succeeds on a worker that has left `wait_pop`, nor beyond the positions
that a cycle has before the counters wrap. -/
def ClaimsInTime (x : Executor Task) : Label Task → Prop
  | .postStep id spurious => ∀ post ∈ x.posts[id]?,
      ∀ w ∈ x.workers[post.key % x.workers.length]?,
        NoLateClaim w.system (.push id spurious) ∧
          w.system.claimed.length + 1 + w.system.queue.capacity < modulus64
  | _ => True

def Orderly (x : Executor Task) (a : Label Task) : Prop := StartsAlone x a ∧ ClaimsInTime x a

instance claimsInTimeDecidable [DecidableEq Task] (x : Executor Task) (a : Label Task) :
    Decidable (ClaimsInTime x a) :=
  match a with
  | .postStep id spurious =>
    inferInstanceAs (Decidable (∀ post ∈ x.posts[id]?,
      ∀ w ∈ x.workers[post.key % x.workers.length]?,
        NoLateClaim w.system (.push id spurious) ∧
          w.system.claimed.length + 1 + w.system.queue.capacity < modulus64))
  | .start => .isTrue trivial
  | .stop => .isTrue trivial
  | .control => .isTrue trivial
  | .post _ _ => .isTrue trivial
  | .work _ => .isTrue trivial

instance startsAloneDecidable (x : Executor Task) (a : Label Task) : Decidable (StartsAlone x a) :=
  match a with
  | .start => inferInstanceAs (Decidable (∀ post ∈ x.posts, returned post = true))
  | .post _ _ => inferInstanceAs (Decidable (isStarting x.control = false))
  | .stop => .isTrue trivial
  | .control => .isTrue trivial
  | .postStep _ _ => .isTrue trivial
  | .work _ => .isTrue trivial

instance orderlyDecidable [DecidableEq Task] (x : Executor Task) (a : Label Task) :
    Decidable (Orderly x a) :=
  inferInstanceAs (Decidable (StartsAlone x a ∧ ClaimsInTime x a))

end Conditions

section Executors

structure Sound (config : TaskExecutorConfig) (x : Executor Task) : Prop where
  count : x.workers.length = max config.shardCount 1
  booked : ∀ (k : Nat) (w : Worker Task), x.workers[k]? = some w →
    Booked (max config.shardQueueCapacity 1) w
  posted : ∀ (k : Nat) (w : Worker Task), x.workers[k]? = some w →
    Posted (max config.shardCount 1) k w x.posts
  alone : isStarting x.control = true → ∀ post ∈ x.posts, returned post = true
  joined : ∀ k, x.control = .joining k → ∀ (j : Nat) (w : Worker Task), j < k →
    x.workers[j]? = some w → w.started = false

variable {config : TaskExecutorConfig} {x y : Executor Task} {k : Nat} {w w' : Worker Task}

private theorem capacity_small (config : TaskExecutorConfig) :
    max (max config.shardQueueCapacity 1) 1 < modulus64 := by
  have fits := config.fits
  have one : 1 < modulus64 := by decide
  omega

theorem create_sound (config : TaskExecutorConfig) :
    Sound config (Executor.create config : Executor Task) := by
  have member : ∀ (k : Nat) (w : Worker Task),
      (Executor.create config : Executor Task).workers[k]? = some w →
        w = { system := System.initial (max config.shardQueueCapacity 1) } := by
    intro k w found
    exact List.eq_of_mem_replicate (List.mem_of_getElem? found)
  refine ⟨by simp [Executor.create], ?_, ?_, ?_, ?_⟩
  · intro k w found
    rw [member k w found]
    exact create_booked (capacity_small config)
  · intro k w found
    rw [member k w found]
    constructor <;> simp [Executor.create, System.initial, pending]
  · intro never
    cases never
  · intro k never
    cases never

theorem getElem?_setWorker {j : Nat} {at_j : Worker Task} (found : x.workers[k]? = some w)
    (now : (x.setWorker k w').workers[j]? = some at_j) :
    j = k ∧ at_j = w' ∨ j ≠ k ∧ x.workers[j]? = some at_j := by
  obtain ⟨inside, -⟩ := List.getElem?_eq_some_iff.mp found
  simp only [Executor.setWorker] at now
  by_cases same : j = k
  · subst same
    rw [List.getElem?_set_self inside] at now
    exact Or.inl ⟨rfl, (Option.some.inj now).symm⟩
  · rw [List.getElem?_set_ne (Ne.symm same)] at now
    exact Or.inr ⟨same, now⟩

theorem Sound.setWorker (S : Sound config x) (found : x.workers[k]? = some w)
    (booked : Booked (max config.shardQueueCapacity 1) w')
    (posted : Posted (max config.shardCount 1) k w' x.posts)
    (still : w.started = false → w'.started = false) : Sound config (x.setWorker k w') := by
  refine ⟨?_, ?_, ?_, S.alone, ?_⟩
  · simp only [Executor.setWorker, List.length_set]
    exact S.count
  · intro j at_j now
    rcases getElem?_setWorker found now with ⟨-, rfl⟩ | ⟨-, old⟩
    · exact booked
    · exact S.booked j at_j old
  · intro j at_j now
    rcases getElem?_setWorker found now with ⟨rfl, rfl⟩ | ⟨-, old⟩
    · exact posted
    · exact S.posted j at_j old
  · intro i joining j at_j before now
    rcases getElem?_setWorker found now with ⟨rfl, rfl⟩ | ⟨-, old⟩
    · exact still (S.joined i joining j w before found)
    · exact S.joined i joining j at_j before old

theorem Sound.setControl (S : Sound config x) {control : Control} {started : Bool}
    (alone : isStarting control = true → ∀ post ∈ x.posts, returned post = true)
    (joined : ∀ k, control = .joining k → ∀ (j : Nat) (w : Worker Task), j < k →
      x.workers[j]? = some w → w.started = false) :
    Sound config { x with control := control, started := started } :=
  ⟨S.count, S.booked, S.posted, alone, joined⟩

theorem Posted.start {n : Nat} {posts : List (Post Task)} (P : Posted n k w posts)
    (alone : ∀ post ∈ posts, returned post = true) : Posted n k w.start posts := by
  unfold Worker.start
  split
  · exact P
  · refine ⟨P.named, P.once, ?_, ?_⟩
    · intro id post found mine
      have known := P.claimed id post found mine
      have ended := alone post (List.mem_of_getElem? found)
      cases at_state : post.state with
      | returned result =>
        rw [at_state] at known
        exact known
      | loadStarted | routed | pushing =>
        simp only [returned, at_state] at ended
        cases ended
    · intro id task waits
      simp [System.initial, pending] at waits

theorem control_sound (S : Sound config x) (taken : x.controlStep = some y) : Sound config y := by
  cases Executor.control_outcome taken with
  | @started k w starting found =>
    have alone := S.alone (by rw [starting]; rfl)
    have small := capacity_small config
    have moved : Sound config (x.setWorker k w.start) := by
      refine ⟨?_, ?_, ?_, S.alone, ?_⟩
      · simp only [Executor.setWorker, List.length_set]
        exact S.count
      · intro j at_j now
        rcases getElem?_setWorker found now with ⟨-, rfl⟩ | ⟨-, old⟩
        · exact (S.booked k w found).start small
        · exact S.booked j at_j old
      · intro j at_j now
        rcases getElem?_setWorker found now with ⟨rfl, rfl⟩ | ⟨-, old⟩
        · exact (S.posted j w found).start alone
        · exact S.posted j at_j old
      · intro i joining
        simp only [Executor.setWorker, starting] at joining
        cases joining
    exact moved.setControl (fun _ => alone) (fun i never => by cases never)
  | allStarted starting none_left =>
    exact S.setControl (fun never => by cases never) (fun i never => by cases never)
  | @signalled k w system stopping found running stopped =>
    have B := S.booked k w found
    have in_time : NoLateClaim w.system .stop := trivial
    have reached := B.reached.tail in_time stopped
    have frame : system.claimed = w.system.claimed ∧ system.popped = w.system.popped ∧
        system.queue.capacity = w.system.queue.capacity ∧
        system.calls = w.system.calls ∧ (system.consumer = w.system.consumer ∨
          system.consumer = w.system.consumer.notified) := by
      rcases stopStep_cases stopped with ⟨-, rfl⟩ | ⟨-, rfl⟩
      · exact ⟨rfl, rfl, rfl, rfl, Or.inl rfl⟩
      · exact ⟨rfl, rfl, rfl, rfl, Or.inr rfl⟩
    obtain ⟨claimed, popped, sized, calls, consumer⟩ := frame
    have moved : Sound config (x.setWorker k { w with system := system }) :=
      S.setWorker found (B.quiet running reached claimed popped sized consumer)
        ((S.posted k w found).same rfl calls) (fun stopped => stopped)
    refine moved.setControl (fun never => ?_) (fun i never => ?_)
    · split at never <;> cases never
    · split at never <;> cases never
  | signalPassed stopping found idle =>
    exact S.setControl (fun never => by cases never) (fun i never => by cases never)
  | allSignalled stopping none_left =>
    refine S.setControl (fun never => by cases never) ?_
    intro i same j w before
    cases same
    omega
  | @joined k w joining found exited =>
    have moved : Sound config (x.setWorker k { w with started := false }) :=
      S.setWorker found ((S.booked k w found).join exited)
        ((S.posted k w found).same rfl rfl) (fun _ => rfl)
    refine moved.setControl (fun never => by cases never) ?_
    intro i same j at_j before now
    cases same
    rcases getElem?_setWorker found now with ⟨rfl, rfl⟩ | ⟨other, old⟩
    · rfl
    · exact S.joined k joining j at_j (by omega) old
  | @joinPassed k w joining found idle =>
    refine S.setControl (fun never => by cases never) ?_
    intro i same j at_j before now
    cases same
    rcases Nat.lt_or_ge j k with earlier | later
    · exact S.joined k joining j at_j earlier now
    · obtain rfl : j = k := by omega
      obtain rfl := Option.some.inj (found.symm.trans now)
      exact idle
  | allJoined joining none_left =>
    exact S.setControl (fun never => by cases never) (fun i never => by cases never)

theorem Sound.serving (S : Sound config x) (post : Post Task) {w : Worker Task}
    (found : x.workers[post.key % x.workers.length]? = some w) :
    x.workers[post.key % max config.shardCount 1]? = some w := by
  rw [← S.count]
  exact found

theorem Sound.setPost (S : Sound config x) {id : Nat} {post : Post Task} {state : PostState}
    (at_id : x.posts[id]? = some post) (open_call : returned post = false)
    (unclaimed : ∀ w : Worker Task, hasClaimed w id post.state = false)
    (refused : ∀ w : Worker Task, hasClaimed w id state = false) :
    Sound config (x.setPost id post state) := by
  have member := List.mem_of_getElem? at_id
  refine ⟨S.count, S.booked, ?_, ?_, S.joined⟩
  · intro k w found
    have P := S.posted k w found
    refine P.moves at_id (fun _ _ => rfl) (fun e listed => Or.inl listed) P.once
      (fun _ _ => Iff.rfl) ?_ ?_
    · intro mine
      rw [P.claimed id post at_id mine, unclaimed w, refused w]
    · intro task waits
      obtain ⟨own, found, at_found, mine, same⟩ := P.tagged id task waits
      obtain rfl := Option.some.inj (at_id.symm.trans at_found)
      exact ⟨own, mine, same⟩
  · intro starting
    have ended := S.alone starting post member
    rw [open_call] at ended
    cases ended

theorem Sound.setBoth (S : Sound config x) {id : Nat} {post : Post Task} {state : PostState}
    (at_id : x.posts[id]? = some post) (open_call : returned post = false)
    (found : x.workers[post.key % max config.shardCount 1]? = some w)
    (started : w'.started = w.started) (booked : Booked (max config.shardQueueCapacity 1) w')
    (posted : Posted (max config.shardCount 1) (post.key % max config.shardCount 1) w'
      (x.posts.set id { post with state := state })) :
    Sound config ((x.setWorker (post.key % max config.shardCount 1) w').setPost id post state) := by
  have member := List.mem_of_getElem? at_id
  refine ⟨?_, ?_, ?_, ?_, ?_⟩
  · simp only [Executor.setPost, Executor.setWorker, List.length_set]
    exact S.count
  · intro j at_j now
    rcases getElem?_setWorker found now with ⟨-, rfl⟩ | ⟨-, old⟩
    · exact booked
    · exact S.booked j at_j old
  · intro j at_j now
    rcases getElem?_setWorker found now with ⟨rfl, rfl⟩ | ⟨other, old⟩
    · exact posted
    · have P := S.posted j at_j old
      refine P.moves at_id (fun _ _ => rfl) (fun e listed => Or.inl listed) P.once
        (fun _ _ => Iff.rfl) ?_ ?_
      · intro mine
        exact absurd mine.symm other
      · intro task waits
        obtain ⟨own, found', at_found, mine, same⟩ := P.tagged id task waits
        obtain rfl := Option.some.inj (at_id.symm.trans at_found)
        exact ⟨own, mine, same⟩
  · intro starting
    have ended := S.alone starting post member
    rw [open_call] at ended
    cases ended
  · intro i joining j at_j before now
    rcases getElem?_setWorker found now with ⟨rfl, rfl⟩ | ⟨-, old⟩
    · rw [started]
      exact S.joined i joining _ w before found
    · exact S.joined i joining j at_j before old

theorem hasClaimed_progress (w : Worker Task) (id : Nat) :
    hasClaimed w id
      (match w.system.calls id with
        | .returned result => .returned result
        | _ => .pushing) = accepted (w.system.calls id) := by
  cases at_call : w.system.calls id with
  | returned result => cases result <;> rfl
  | idle | loadStopped task | loadTail task | loadHead task tail | compareExchange task tail
  | loadSequence task tail | yieldLoop task tail | storeTask task tail | storeSequence tail
  | notifyOne tail => simp only [hasClaimed, at_call]

theorem push_posted {n k id : Nat} {spurious : Bool} {posts : List (Post Task)} {post : Post Task}
    (P : Posted n k w posts) (at_id : posts[id]? = some post) (mine : post.key % n = k)
    (pushing : post.state = .pushing) (taken : w.push id spurious = some w') :
    Posted n k w' (posts.set id { post with
      state := match w'.system.calls id with
        | .returned result => .returned result
        | _ => .pushing }) := by
  obtain ⟨system, pushed, rfl⟩ := push_claims taken
  obtain ⟨-, -, -, -, -, others, -⟩ := pushStep_frame pushed
  have before := P.claimed id post at_id mine
  rw [pushing, hasClaimed] at before
  have tags : ∀ task, pending (system.calls id) = some task → task.1 = id ∧ post.key % n = k ∧
      post.task = some task.2 := by
    intro task waits
    obtain ⟨own, found, at_found, -, same⟩ := P.tagged id task (pushStep_pending pushed waits)
    obtain rfl := Option.some.inj (at_id.symm.trans at_found)
    exact ⟨own, mine, same⟩
  have unclaimed : system.claimed = w.system.claimed →
      (w.claims ++ (system.claimed.drop w.system.claimed.length).map fun claim =>
        w.entry claim.2) = w.claims := by
    intro same
    rw [same, List.drop_length]
    simp
  have steady : system.claimed = w.system.claimed →
      accepted (w.system.calls id) = accepted (system.calls id) →
      Posted n k { w with
        system := system
        claims := w.claims ++ (system.claimed.drop w.system.claimed.length).map fun claim =>
          w.entry claim.2 } (posts.set id { post with
        state := match system.calls id with
          | .returned result => .returned result
          | _ => .pushing }) := by
    intro same level
    rw [unclaimed same]
    refine P.moves at_id others (fun e listed => Or.inl listed) P.once (fun _ _ => Iff.rfl) ?_ tags
    intro _
    rw [before, hasClaimed_progress, level]
  rcases pushStep_progress pushed with
    ⟨level, level', same, -⟩ | ⟨task, waits, wins, grown⟩ | ⟨level, level', same⟩
  · exact steady same (level.trans level'.symm)
  · obtain ⟨own, found, at_found, -, same_task⟩ := P.tagged id task waits
    obtain rfl := Option.some.inj (at_id.symm.trans at_found)
    have fresh : id ∉ w.claims.map Entry.post := by
      rw [before]
      intro already
      cases at_call : w.system.calls id <;> rw [at_call] at waits already <;>
        simp [pending, accepted] at waits already
    have added : (w.claims ++ (system.claimed.drop w.system.claimed.length).map fun claim =>
        w.entry claim.2) = w.claims ++ [w.entry task] := by
      rw [grown, List.drop_left]
      rfl
    rw [added]
    have listed : (w.claims ++ [w.entry task]).map Entry.post =
        w.claims.map Entry.post ++ [id] := by
      simp [Worker.entry, own]
    refine P.moves at_id others ?_ ?_ ?_ ?_ tags
    · intro e member
      rcases List.mem_append.mp member with old | new
      · exact Or.inl old
      · obtain rfl := List.mem_singleton.mp new
        exact Or.inr ⟨own, mine, same_task⟩
    · rw [listed]
      exact List.nodup_append.mpr ⟨P.once, by simp, by
        intro a member b single
        obtain rfl := List.mem_singleton.mp single
        rintro rfl
        exact fresh member⟩
    · intro j other
      rw [listed]
      simp [other]
    · intro _
      rw [listed, hasClaimed_progress, wins]
      simp
  · exact steady same (level.trans level'.symm)

theorem post_sound (S : Sound config x) {id : Nat} {spurious : Bool}
    (in_time : ClaimsInTime x (.postStep id spurious)) (taken : x.postStep id spurious = some y) :
    Sound config y := by
  obtain ⟨post, at_id, outcome⟩ := Executor.post_outcome taken
  cases outcome with
  | checked loading =>
    apply S.setPost at_id (by simp [returned, loading]) (fun w => by rw [loading]; rfl)
    intro w
    split <;> rfl
  | refused routed found reason =>
    exact S.setPost at_id (by simp [returned, routed]) (fun w => by rw [routed]; rfl) (fun w => rfl)
  | @called w task system routed found at_task running called =>
    have serving := S.serving post found
    have P := S.posted _ w serving
    have before := P.claimed id post at_id rfl
    rw [routed] at before
    have silent : NoLateClaim w.system (.call id (some (id, task))) := trivial
    have reached := (S.booked _ w serving).reached.tail silent called
    simp only [callStep] at called
    split at called
    · cases called
      rw [S.count]
      refine S.setBoth at_id (by simp [returned, routed]) serving rfl
        ((S.booked _ w serving).quiet running reached rfl rfl rfl (Or.inl rfl)) ?_
      refine P.moves at_id ?_ (fun e listed => Or.inl listed) P.once (fun _ _ => Iff.rfl) ?_ ?_
      · intro j other
        exact Function.update_of_ne other _ _
      · intro _
        rw [before]
        simp [hasClaimed, System.setCall, accepted]
      · intro tagged waits
        simp only [System.setCall, Function.update_self, pending, Option.some.injEq] at waits
        subst waits
        exact ⟨rfl, rfl, at_task⟩
    · cases called
  | @pushed w w' pushing found pushed =>
    have serving := S.serving post found
    obtain ⟨timely, below⟩ := in_time post at_id w found
    have started : w'.started = w.started := by
      obtain ⟨system, -, rfl⟩ := push_claims pushed
      rfl
    rw [S.count]
    exact S.setBoth at_id (by simp [returned, pushing]) serving started
      ((S.booked _ w serving).push timely below pushed)
      (push_posted (S.posted _ w serving) at_id rfl pushing pushed)

theorem step_sound (S : Sound config x) {a : Label Task} (orderly : Orderly x a)
    (taken : step x a = some y) : Sound config y := by
  cases a with
  | start =>
    simp only [step] at taken
    split at taken
    · cases taken
      split
      · exact S
      · exact S.setControl (fun _ => orderly.1) (fun i never => by cases never)
    · cases taken
  | stop =>
    simp only [step] at taken
    split at taken
    · cases taken
      exact S.setControl (fun never => by cases never) (fun i never => by cases never)
    · cases taken
  | control => exact control_sound S taken
  | post key task =>
    cases taken
    refine ⟨S.count, S.booked, fun k w found => (S.posted k w found).called key task, ?_, S.joined⟩
    intro starting
    have other : isStarting x.control = false := orderly.1
    have same : isStarting x.control = true := starting
    rw [other] at same
    cases same
  | postStep id spurious => exact post_sound S orderly.2 taken
  | work k =>
    obtain ⟨w, found, rest⟩ := Option.bind_eq_some_iff.mp taken
    obtain ⟨w', worked, rfl⟩ := Option.map_eq_some_iff.mp rest
    have frame : w'.claims = w.claims ∧ w'.system.calls = w.system.calls ∧
        (w.started = false → w'.started = false) := by
      unfold Worker.work at worked
      split at worked
      · obtain ⟨system, popped, rfl⟩ := Option.map_eq_some_iff.mp worked
        obtain ⟨-, -, -, -, calls, -⟩ := popStep_frame popped
        exact ⟨rfl, calls, fun idle => idle⟩
      · cases worked
    exact S.setWorker found ((S.booked k w found).work worked)
      ((S.posted k w found).same frame.1 frame.2.1) frame.2.2

theorem reachable_sound (run : Reaches step Orderly (Executor.create config) x) : Sound config x :=
  run.invariant (Sound config) (fun _ _ _ S orderly taken => step_sound S orderly taken)
    (create_sound config)

end Executors

section Guarantees

variable {config : TaskExecutorConfig} {x y : Executor Task} {k : Nat} {w : Worker Task}

def Grows (x y : Executor Task) : Prop :=
  ∀ (k : Nat) (w : Worker Task), x.workers[k]? = some w →
    ∃ w', y.workers[k]? = some w' ∧ w.claims <+: w'.claims

theorem Grows.refl (x : Executor Task) : Grows x x :=
  fun _ w found => ⟨w, found, List.prefix_refl _⟩

theorem setWorker_grows {w' : Worker Task} (found : x.workers[k]? = some w)
    (more : w.claims <+: w'.claims) : Grows x (x.setWorker k w') := by
  obtain ⟨inside, -⟩ := List.getElem?_eq_some_iff.mp found
  intro j v at_j
  by_cases same : j = k
  · subst same
    obtain rfl := Option.some.inj (found.symm.trans at_j)
    exact ⟨w', List.getElem?_set_self inside, more⟩
  · refine ⟨v, ?_, List.prefix_refl _⟩
    simp only [Executor.setWorker, List.getElem?_set_ne (Ne.symm same)]
    exact at_j

theorem start_claims (w : Worker Task) : w.start.claims = w.claims := by
  unfold Worker.start
  split <;> rfl

theorem control_grows (taken : x.controlStep = some y) : Grows x y := by
  cases Executor.control_outcome taken with
  | started starting found => exact setWorker_grows found (start_claims _ ▸ List.prefix_refl _)
  | signalled stopping found running stopped => exact setWorker_grows found (List.prefix_refl _)
  | joined joining found exited => exact setWorker_grows found (List.prefix_refl _)
  | allStarted starting none_left => exact Grows.refl x
  | signalPassed stopping found idle => exact Grows.refl x
  | allSignalled stopping none_left => exact Grows.refl x
  | joinPassed joining found idle => exact Grows.refl x
  | allJoined joining none_left => exact Grows.refl x

theorem post_grows {id : Nat} {spurious : Bool} (taken : x.postStep id spurious = some y) :
    Grows x y := by
  obtain ⟨post, at_id, outcome⟩ := Executor.post_outcome taken
  cases outcome with
  | checked loading => exact Grows.refl x
  | refused routed found reason => exact Grows.refl x
  | called routed found at_task running called => exact setWorker_grows found (List.prefix_refl _)
  | pushed pushing found pushed =>
    obtain ⟨system, -, rfl⟩ := push_claims pushed
    exact setWorker_grows found (List.prefix_append _ _)

theorem step_grows {a : Label Task} (taken : step x a = some y) : Grows x y := by
  cases a with
  | start =>
    simp only [step] at taken
    split at taken
    · cases taken
      split <;> exact Grows.refl x
    · cases taken
  | stop =>
    simp only [step] at taken
    split at taken <;> cases taken
    exact Grows.refl x
  | control => exact control_grows taken
  | post key task =>
    cases taken
    exact Grows.refl x
  | postStep id spurious => exact post_grows taken
  | work k =>
    obtain ⟨w, found, rest⟩ := Option.bind_eq_some_iff.mp taken
    obtain ⟨w', worked, rfl⟩ := Option.map_eq_some_iff.mp rest
    apply setWorker_grows found
    unfold Worker.work at worked
    split at worked
    · obtain ⟨system, -, rfl⟩ := Option.map_eq_some_iff.mp worked
      exact List.prefix_refl _
    · cases worked

theorem run_grows {permitted : Executor Task → Label Task → Prop}
    (run : Reaches step permitted x y) : Grows x y := by
  refine run.invariant (Grows x) ?_ (Grows.refl x)
  intro z a z' before _ taken k w found
  obtain ⟨w', found', more⟩ := before k w found
  obtain ⟨w'', found'', more'⟩ := step_grows taken k w' found'
  exact ⟨w'', found'', more.trans more'⟩

/-- The tasks of one worker. All posts of a key are claimed on the worker that the key leads to;
its tasks begin in the order of their claims, in the cycle of the claim, each after the one
before it is finished. -/
structure Serial (x : Executor Task) (k : Nat) (w : Worker Task) : Prop where
  routed : ∀ e ∈ w.claims, ∃ post, x.posts[e.post]? = some post ∧
    post.key % x.workers.length = k ∧ post.task = some e.task
  accepted : ∀ id post, x.posts[id]? = some post → post.key % x.workers.length = k →
    post.state = .returned true → id ∈ w.claims.map Entry.post
  once : (w.claims.map Entry.post).Nodup
  ordered : w.begun <+: w.claims
  one_at_a_time : w.finished <+: w.begun ∧ w.begun.length ≤ w.finished.length + 1
  same_cycle : ∀ e ∈ w.begun, ∀ claim ∈ w.claims, e.post = claim.post → e.cycle = claim.cycle

def StopReturns (x y : Executor Task) : Prop :=
  (∃ k, x.control = .joining k) ∧ y.control = .idle ∧ step x .control = some y

/-- What the executor promises in the runs whose steps are permitted. -/
structure Serialises (Task : Type) (config : TaskExecutorConfig)
    (permitted : Executor Task → Label Task → Prop) : Prop where
  serial : ∀ x, Reaches step permitted (Executor.create config) x →
    ∀ (k : Nat) (w : Worker Task), x.workers[k]? = some w → Serial x k w
  /-- A post that is made after another has returned is claimed after it. -/
  program_order : ∀ x y, Reaches step permitted (Executor.create config) x →
    Reaches step permitted x y → ∀ (first second : Nat) (post : Post Task),
      x.posts[first]? = some post → post.state = .returned true → x.posts.length ≤ second →
      ∀ (k i j : Nat) (w : Worker Task) (e f : Entry Task), y.workers[k]? = some w →
        w.claims[i]? = some e → w.claims[j]? = some f → e.post = first → f.post = second → i < j
  /-- What was accepted before `stop` is called has been executed once when it returns. -/
  drained : ∀ s t r u, Reaches step permitted (Executor.create config) s →
    ∀ (id : Nat) (post : Post Task), s.posts[id]? = some post → post.state = .returned true →
      step s .stop = some t → Reaches step permitted t r → permitted r .control →
      StopReturns r u → ∀ (k : Nat) (w : Worker Task), u.workers[k]? = some w →
        (w.finished.countP fun e => e.post = id) =
          if k = post.key % u.workers.length then 1 else 0
  /-- No step of a post that returns false touches a queue. -/
  refused : ∀ x y z, Reaches step permitted (Executor.create config) x →
    ∀ (id : Nat) (spurious : Bool) (post : Post Task),
      permitted x (.postStep id spurious) → step x (.postStep id spurious) = some y →
      Reaches step permitted y z → z.posts[id]? = some post → post.state = .returned false →
      ∀ (k : Nat) (w : Worker Task), x.workers[k]? = some w →
        ∃ w', y.workers[k]? = some w' ∧ w'.system.queue = w.system.queue ∧
          w'.system.consumer = w.system.consumer ∧ w'.claims = w.claims

theorem Sound.serial (S : Sound config x) (found : x.workers[k]? = some w) : Serial x k w := by
  have B := S.booked k w found
  have P := S.posted k w found
  refine ⟨?_, ?_, P.once, B.begins_in_order, B.one_at_a_time, ?_⟩
  · rw [S.count]
    exact P.named
  · intro id post at_id mine returned
    rw [S.count] at mine
    rw [P.claimed id post at_id mine, returned]
    rfl
  · intro e begun claim member same
    have own := B.begins_in_order.subset begun
    have equal : e = claim := List.inj_on_of_nodup_map P.once own member same
    rw [equal]

theorem Sound.one_worker (S : Sound config x) {j id : Nat} {v : Worker Task}
    (at_k : x.workers[k]? = some w) (at_j : x.workers[j]? = some v)
    (here : id ∈ w.claims.map Entry.post) (there : id ∈ v.claims.map Entry.post) : j = k := by
  obtain ⟨e, listed, rfl⟩ := List.mem_map.mp here
  obtain ⟨f, listed', same⟩ := List.mem_map.mp there
  obtain ⟨post, found, mine, -⟩ := (S.posted k w at_k).named e listed
  obtain ⟨post', found', mine', -⟩ := (S.posted j v at_j).named f listed'
  rw [same, found] at found'
  obtain rfl := Option.some.inj found'
  exact mine'.symm.trans mine

theorem StopReturns.workers (ended : StopReturns x y) :
    y.workers = x.workers ∧ ∃ k, x.control = .joining k ∧ x.workers.length ≤ k := by
  obtain ⟨⟨k, joining⟩, idle, taken⟩ := ended
  have taken' : x.controlStep = some y := taken
  cases Executor.control_outcome taken' with
  | allJoined at_end none_left =>
    exact ⟨rfl, _, at_end, List.getElem?_eq_none_iff.mp none_left⟩
  | joined at_worker found exited => cases idle
  | joinPassed at_worker found passed => cases idle
  | allStarted starting none_left => cases joining.symm.trans starting
  | started starting found => cases idle
  | signalled stopping found running stopped => cases joining.symm.trans stopping
  | signalPassed stopping found passed => cases idle
  | allSignalled stopping none_left => cases idle

theorem Sound.stop_returns (S : Sound config x) (ended : StopReturns x y)
    (found : y.workers[k]? = some w) : w.finished = w.claims ∧ x.workers[k]? = some w := by
  obtain ⟨same, j, joining, all⟩ := ended.workers
  rw [same] at found
  have inside := (List.getElem?_eq_some_iff.mp found).1
  have stopped := S.joined j joining k w (Nat.lt_of_lt_of_le inside all) found
  exact ⟨(S.booked k w found).all_finished stopped, found⟩

private theorem count_once {entries : List (Entry Task)} {id : Nat}
    (once : (entries.map Entry.post).Nodup) (listed : id ∈ entries.map Entry.post) :
    (entries.countP fun e => e.post = id) = 1 := by
  have counted := List.count_eq_one_of_mem once listed
  rw [List.count, List.countP_map] at counted
  rw [← counted]
  apply List.countP_congr
  intro e _
  simp

private theorem same_place {entries : List (Entry Task)} {i j : Nat} {e f : Entry Task}
    (once : (entries.map Entry.post).Nodup) (at_i : entries[i]? = some e)
    (at_j : entries[j]? = some f) (same : e.post = f.post) : i = j := by
  have inside : i < (entries.map Entry.post).length := by
    rw [List.length_map]
    exact (List.getElem?_eq_some_iff.mp at_i).1
  apply (List.getElem?_inj inside once).mp
  rw [List.getElem?_map, List.getElem?_map, at_i, at_j, Option.map_some, Option.map_some, same]

theorem Sound.accepted_claim (S : Sound config x) {id : Nat} {post : Post Task}
    (at_id : x.posts[id]? = some post) (accepted : post.state = .returned true) :
    ∃ w, x.workers[post.key % x.workers.length]? = some w ∧ id ∈ w.claims.map Entry.post := by
  have some_worker : 0 < x.workers.length := by
    rw [S.count]
    omega
  have inside : post.key % x.workers.length < x.workers.length := Nat.mod_lt _ some_worker
  have found := List.getElem?_eq_getElem inside
  exact ⟨_, found, (S.serial found).accepted id post at_id rfl accepted⟩

theorem Sound.program_order (S : Sound config x) (S' : Sound config y) (grows : Grows x y)
    {first second : Nat} {post : Post Task} (at_first : x.posts[first]? = some post)
    (accepted : post.state = .returned true) (unmade : x.posts.length ≤ second) {i j : Nat}
    {e f : Entry Task} (found : y.workers[k]? = some w) (at_i : w.claims[i]? = some e)
    (at_j : w.claims[j]? = some f) (own : e.post = first) (own' : f.post = second) : i < j := by
  obtain ⟨v, at_v, claimed⟩ := S.accepted_claim at_first accepted
  obtain ⟨v', at_v', more⟩ := grows _ v at_v
  have listed : first ∈ w.claims.map Entry.post :=
    List.mem_map.mpr ⟨e, List.mem_of_getElem? at_i, own⟩
  have same := S'.one_worker at_v' found ((more.map Entry.post).subset claimed) listed
  rw [← same] at at_v'
  obtain rfl := Option.some.inj (found.symm.trans at_v')
  obtain ⟨old, listed_old, own_old⟩ := List.mem_map.mp claimed
  obtain ⟨i', at_i'⟩ := List.getElem?_of_mem listed_old
  obtain ⟨early, at_early⟩ := List.getElem?_eq_some_iff.mp at_i'
  have kept := List.prefix_iff_getElem?.mp more
  have once := (S'.posted k w found).once
  have place : i = i' := by
    apply same_place once at_i (kept i' early)
    rw [at_early, own, own_old]
  have late : v.claims.length ≤ j := by
    by_contra inside
    have before : j < v.claims.length := by omega
    have was : v.claims[j] = f := Option.some.inj ((kept j before).symm.trans at_j)
    obtain ⟨made, at_made, -⟩ := (S.posted _ v (S.serving post at_v)).named _
      (List.getElem_mem before)
    have known := (List.getElem?_eq_some_iff.mp at_made).1
    rw [was, own'] at known
    omega
  omega

theorem Sound.drained (S : Sound config x) (S' : Sound config y) (grows : Grows x y) {id : Nat}
    {post : Post Task} (at_id : x.posts[id]? = some post) (accepted : post.state = .returned true)
    {z : Executor Task} (ended : StopReturns y z) (found : z.workers[k]? = some w) :
    (w.finished.countP fun e => e.post = id) =
      if k = post.key % z.workers.length then 1 else 0 := by
  obtain ⟨v, at_v, claimed⟩ := S.accepted_claim at_id accepted
  obtain ⟨v', at_v', more⟩ := grows _ v at_v
  have claimed' : id ∈ v'.claims.map Entry.post := (more.map Entry.post).subset claimed
  obtain ⟨done, at_k⟩ := S'.stop_returns ended found
  have count : z.workers.length = x.workers.length := by
    rw [ended.workers.1, S'.count, S.count]
  rw [done, count]
  split
  · rename_i here
    rw [← here] at at_v'
    obtain rfl := Option.some.inj (at_k.symm.trans at_v')
    exact count_once (S'.posted k w at_k).once claimed'
  · rename_i elsewhere
    apply List.countP_eq_zero.mpr
    intro e listed own
    refine elsewhere (S'.one_worker at_v' at_k claimed' ?_)
    exact List.mem_map.mpr ⟨e, listed, by simpa using own⟩

theorem Sound.unclaimed (S : Sound config x) {id : Nat} {post : Post Task}
    (at_id : x.posts[id]? = some post) (refused : post.state = .returned false)
    (found : x.workers[k]? = some w) : id ∉ w.claims.map Entry.post := by
  intro listed
  have P := S.posted k w found
  obtain ⟨e, member, rfl⟩ := List.mem_map.mp listed
  obtain ⟨own, at_own, mine, -⟩ := P.named e member
  obtain rfl := Option.some.inj (at_id.symm.trans at_own)
  have known := (P.claimed e.post post at_id mine).mp listed
  rw [refused] at known
  cases known

theorem postStep_untouched (S' : Sound config y) {id : Nat} {spurious : Bool}
    (taken : x.postStep id spurious = some y) (found : x.workers[k]? = some w) :
    ∃ w', y.workers[k]? = some w' ∧ (id ∈ w'.claims.map Entry.post ∨
      w'.system.queue = w.system.queue ∧ w'.system.consumer = w.system.consumer ∧
        w'.claims = w.claims) := by
  obtain ⟨post, at_id, outcome⟩ := Executor.post_outcome taken
  have moved : ∀ {j : Nat} {v v' : Worker Task} {state : PostState},
      x.workers[j]? = some v → y = (x.setWorker j v').setPost id post state →
      (id ∈ v'.claims.map Entry.post ∨ v'.system.queue = v.system.queue ∧
        v'.system.consumer = v.system.consumer ∧ v'.claims = v.claims) →
      ∃ w', y.workers[k]? = some w' ∧ (id ∈ w'.claims.map Entry.post ∨
        w'.system.queue = w.system.queue ∧ w'.system.consumer = w.system.consumer ∧
          w'.claims = w.claims) := by
    intro j v v' state at_j made effect
    subst made
    obtain ⟨inside, -⟩ := List.getElem?_eq_some_iff.mp at_j
    by_cases same : k = j
    · subst same
      obtain rfl := Option.some.inj (found.symm.trans at_j)
      exact ⟨v', List.getElem?_set_self inside, effect⟩
    · refine ⟨w, ?_, Or.inr ⟨rfl, rfl, rfl⟩⟩
      simp only [Executor.setPost, Executor.setWorker, List.getElem?_set_ne (Ne.symm same)]
      exact found
  cases outcome with
  | checked loading => exact ⟨w, found, Or.inr ⟨rfl, rfl, rfl⟩⟩
  | refused routed at_v reason => exact ⟨w, found, Or.inr ⟨rfl, rfl, rfl⟩⟩
  | called routed at_v at_task running called =>
    obtain ⟨-, p, rfl, -⟩ := callStep_frame called
    exact moved at_v rfl (Or.inr ⟨rfl, rfl, rfl⟩)
  | @pushed v v' pushing at_v pushed =>
    have wins : accepted (v'.system.calls id) = true → id ∈ v'.claims.map Entry.post := by
      intro done
      have at_worker := List.getElem?_set_self (a := v') (List.getElem?_eq_some_iff.mp at_v).1
      have at_post := List.getElem?_set_self (a := { post with
        state := match v'.system.calls id with
          | .returned result => .returned result
          | _ => PostState.pushing }) (List.getElem?_eq_some_iff.mp at_id).1
      have count : x.workers.length = max config.shardCount 1 := by
        rw [← S'.count]
        simp [Executor.setPost, Executor.setWorker]
      apply ((S'.posted _ v' at_worker).claimed id _ at_post (by rw [count])).mpr
      exact (hasClaimed_progress v' id).trans done
    refine moved at_v rfl ?_
    obtain ⟨system, taken', rfl⟩ := push_claims pushed
    rcases pushStep_progress taken' with
      ⟨-, -, same, queue, consumer⟩ | ⟨-, -, done, -⟩ | ⟨-, done, -⟩
    · refine Or.inr ⟨queue, consumer, ?_⟩
      simp only [same, List.drop_length, List.map_nil, List.append_nil]
    · exact Or.inl (wins done)
    · exact Or.inl (wins done)

/-- In the runs in which no claim comes late, tasks are serialised by key, kept to their cycle
and drained by `stop`, and a refused post leaves no trace. -/
theorem executor_serialises (Task : Type) (config : TaskExecutorConfig) :
    Serialises Task config Orderly where
  serial := fun x run k w found => (reachable_sound run).serial found
  program_order := by
    intro x y run later first second post at_first accepted unmade k i j w e f found at_i at_j
    exact (reachable_sound run).program_order (reachable_sound (run.trans later))
      (run_grows later) at_first accepted unmade found at_i at_j
  drained := by
    intro s t r u run id post at_id accepted called later _ ended k w found
    have stop_ok : Orderly s .stop := ⟨trivial, trivial⟩
    have all := (Reaches.refl s).tail stop_ok called |>.trans later
    exact (reachable_sound run).drained (reachable_sound (run.trans all)) (run_grows all) at_id
      accepted ended found
  refused := by
    intro x y z run id spurious post ok taken later at_id refused k w found
    have S := reachable_sound (run.tail ok taken)
    have S' := reachable_sound ((run.tail ok taken).trans later)
    obtain ⟨w', at_w', effect⟩ := postStep_untouched S taken found
    refine ⟨w', at_w', effect.resolve_left ?_⟩
    intro claimed
    obtain ⟨w'', at_w'', more⟩ := run_grows later k w' at_w'
    exact S'.unclaimed at_id refused at_w'' ((more.map Entry.post).subset claimed)

theorem executor_serialises_two_cycles :
    ∃ (x : Executor Nat) (w : Worker Nat),
      Reaches step Orderly (Executor.create { shardCount := 1, shardQueueCapacity := 1 }) x ∧
        x.workers[0]? = some w ∧ w.finished = [⟨1, 0, 5⟩, ⟨2, 1, 6⟩] ∧ Serial x 0 w := by
  let cycle (id task : Nat) : List (Label Nat) := List.flatten
    [[.start, .control, .control, .post 0 (some task)], List.replicate 10 (.postStep id false),
     [.stop], List.replicate 3 .control, List.replicate 12 (.work 0), List.replicate 2 .control]
  obtain ⟨x, run, passed⟩ := exists_reaches_of_replay step Orderly
    (Executor.create { shardCount := 1, shardQueueCapacity := 1 } : Executor Nat)
    (cycle 0 5 ++ cycle 1 6)
    (fun x => decide (x.workers[0]?.map Worker.finished =
      some [(⟨1, 0, 5⟩ : Entry Nat), ⟨2, 1, 6⟩])) (by decide +kernel)
  obtain ⟨w, found, finished⟩ := Option.map_eq_some_iff.mp (of_decide_eq_true passed)
  have promised := executor_serialises Nat { shardCount := 1, shardQueueCapacity := 1 }
  exact ⟨x, w, run, found, finished, promised.serial x run 0 w found⟩

/-- A post that has found `stopped_` false claims its position after the worker was joined and
returns true. The next `stop` finds nothing to join, and returns with the task not executed. -/
theorem late_claim_not_drained :
    ¬ Serialises Nat { shardCount := 1, shardQueueCapacity := 1 } StartsAlone := by
  intro promised
  obtain ⟨s, run, passed⟩ := exists_reaches_of_replay step StartsAlone
    (Executor.create { shardCount := 1, shardQueueCapacity := 1 } : Executor Nat)
    (List.flatten
      [[.start, .control, .control, .post 0 (some 5)], List.replicate 5 (.postStep 0 false),
       [.stop], List.replicate 3 .control, List.replicate 5 (.work 0),
       List.replicate 2 .control, List.replicate 5 (.postStep 0 false)])
    (fun s => (s.posts[0]?.any fun post => post.state == .returned true) &&
      (step s .stop).any fun t =>
        (replay step StartsAlone t (List.replicate 3 .control)).any fun r =>
          r.control == .joining 1 && (step r .control).any fun u =>
            u.control == .idle && u.workers.length == 1 &&
              u.workers[0]?.any fun w => w.finished.isEmpty)
    (by decide +kernel)
  simp only [Bool.and_eq_true, Option.any_eq_true, beq_iff_eq, List.isEmpty_iff] at passed
  obtain ⟨⟨post, at_post, accepted⟩, t, called, r, played, joining, u, ended, ⟨idle, one⟩, w, found,
    none_finished⟩ := passed
  have drained := promised.drained s t r u run 0 post at_post accepted called
    (reaches_of_replay played) trivial ⟨⟨1, joining⟩, idle, ended⟩ 0 w found
  rw [none_finished, one, Nat.mod_one] at drained
  cases drained

end Guarantees

end MiniCam.Queue.Serialization
