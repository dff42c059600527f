import Lcompat.Timer.Model

/-!
# Re-arming a timer

One client arms a timer any number of times while the workers of its earlier armings are still
alive. The history notes the increments of the generation, the workers that pass their final
check, and the entries of the timer function. A run is orderly when no step makes a stale
worker current again, lets a second worker claim the current arming, or clears the pending flag
of an arming that nobody has claimed. In an orderly run the last arming has been fired exactly
once as soon as no call and no worker is left; a worker that clears the flag after the timer
was armed again is enough to lose it.
-/

namespace Lcompat.Timer

open Lcompat.Logic
open Lcompat.Workqueue (Env)

/-- What the history of a timer is about. -/
inductive Event (Id : Type) where
  /-- `mod_timer` incremented the generation. -/
  | armed
  /-- A worker passed its final check. -/
  | fired (t : Id)
  /-- A worker entered the timer function. -/
  | entered (t : Id)
  deriving DecidableEq

/-- What is noted of the next step of a task. -/
def Task.events {Id : Type} (timer : TimerList) (t : Id) : Task → List (Event Id)
  | .arming _ (.incGeneration _) => [.armed]
  | .worker (.checkFinal vars) => if timer.generation = vars.generation then [.fired t] else []
  | .worker .call => [.entered t]
  | .idle | .arming _ _ | .deleting _ | .worker _ => []

/-- How many workers have passed their final check since the generation was last incremented,
in a history that begins with the newest event. -/
def firings {Id : Type} : List (Event Id) → Nat
  | [] | .armed :: _ => 0
  | .fired _ :: past => firings past + 1
  | .entered _ :: past => firings past

/-- A worker that has or will have sampled a generation and has not looked yet whether the
timer is still pending. -/
@[grind]
def WorkerPc.hopes (generation : UInt32) : WorkerPc → Bool
  | .loadGeneration => true
  | .loadExpires sampled => sampled == generation
  | .loopActive vars | .loopGeneration vars | .loopTime vars | .checkActive vars =>
    vars.generation == generation
  | .checkGeneration _ | .setRunning _ | .clearActive _ | .checkFinal _ | .call | .inFunc
  | .clearRunning => false

/-- A call of `mod_timer` that has not incremented the generation. -/
@[grind]
def ModPc.arms : ModPc → Bool
  | .loadActive | .storeExpires _ | .storeActive _ | .incGeneration _ => true
  | .create _ | .undoActive _ | .undoGeneration _ => false

/-- A call of `mod_timer` that has marked the timer pending and not incremented the
generation. -/
@[grind]
def ModPc.increments : ModPc → Bool
  | .incGeneration _ => true
  | .loadActive | .storeExpires _ | .storeActive _ | .create _ | .undoActive _
  | .undoGeneration _ => false

/-- A call of `mod_timer` that is about to create a worker. -/
@[grind]
def ModPc.creates : ModPc → Bool
  | .create _ => true
  | .loadActive | .storeExpires _ | .storeActive _ | .incGeneration _ | .undoActive _
  | .undoGeneration _ => false

/-- A task in `mod_timer` that has not incremented the generation. -/
@[grind]
def Task.arms : Task → Bool
  | .arming _ pc => pc.arms
  | .idle | .deleting _ | .worker _ => false

/-- A task in `mod_timer` that is about to increment the generation. -/
@[grind]
def Task.increments : Task → Bool
  | .arming _ pc => pc.increments
  | .idle | .deleting _ | .worker _ => false

/-- A task in `mod_timer` that is about to create a worker. -/
@[grind]
def Task.creates : Task → Bool
  | .arming _ pc => pc.creates
  | .idle | .deleting _ | .worker _ => false

/-- A task from which a generation can still be fired: by the worker it is about to create, or
as a worker that waits for it or claims it. -/
@[grind]
def Task.serves (generation : UInt32) : Task → Bool
  | .arming _ pc => pc.creates
  | .worker pc => pc.hopes generation || pc.claims generation
  | .idle | .deleting _ => false

variable {Id : Type} [DecidableEq Id]

/-- The interleavings of the tasks with the history of the timer. -/
def recorded : System (Tasks Id × List (Event Id)) (Id × Choice) :=
  tasks.record fun p a => (p.threads a.1).events p.shared a.1

/-- One client calls `mod_timer`, every call gets its worker, and nobody calls
`del_timer_sync`. -/
def OneClient (client : Id) (p : Tasks Id) : Id × Choice → Prop
  | (t, .arm _) => t = client
  | (_, .delete) => False
  | (_, .begin) => True
  | (t, .go env) => (p.threads t).creates = true → env.created = true

/-- The next step of a task does not lose the current arming and does not claim it twice. -/
def Task.Orderly (p : Tasks Id) : Task → Prop
  | .arming _ (.incGeneration _) => ∀ u, (p.threads u).claims (p.shared.generation + 1) = false
  | .worker (.checkActive vars) =>
    p.shared.active = true ∧ vars.generation = p.shared.generation ∧
      (∀ u, (p.threads u).arms = false) →
        ∀ u, (p.threads u).claims p.shared.generation = false
  | .worker (.clearActive _) =>
    p.shared.active = true → (∀ u, (p.threads u).increments = false) ∧
      ((∀ u, (p.threads u).arms = false) → ∃ u, (p.threads u).claims p.shared.generation = true)
  | .idle | .arming _ _ | .deleting _ | .worker _ => True

/-- A step that does not lose the current arming and does not claim it twice. -/
def Orderly (p : Tasks Id) (a : Id × Choice) : Prop := (p.threads a.1).Orderly p

/-- Only one client is in `mod_timer`, it does not undo an arming, and nobody is in
`del_timer_sync`. -/
structure Alone (client : Id) (timer : TimerList) (threads : Id → Task) : Prop where
  /-- Only the client arms. -/
  client : ∀ t expires pc, threads t = .arming expires pc → t = client
  /-- No arming is undone. -/
  kept : ∀ t expires pending, threads t ≠ .arming expires (.undoActive pending) ∧
    threads t ≠ .arming expires (.undoGeneration pending)
  /-- Nobody deletes the timer. -/
  undeleted : ∀ t pc, threads t ≠ .deleting pc
  /-- The flag is still set when the generation is about to be incremented. -/
  window : ∀ t, (threads t).increments = true → timer.active = true

/-- The last arming, while no task is about to make another one. -/
structure Current (past : List (Event Id)) (timer : TimerList) (threads : Id → Task) : Prop where
  /-- One worker at most claims it. -/
  one : ∀ t u, (threads t).claims timer.generation = true →
    (threads u).claims timer.generation = true → t = u
  /-- It has not been fired while the flag is set. -/
  unfired : timer.active = true → firings past = 0
  /-- It has not been fired while it is claimed. -/
  claimed : ∀ t, (threads t).claims timer.generation = true → firings past = 0
  /-- The flag is clear when the claim is about to be fired. -/
  cleared : ∀ t vars, threads t = .worker (.checkFinal vars) →
    vars.generation = timer.generation → timer.active = false
  /-- It has a worker while it is pending. -/
  pending : .armed ∈ past → timer.active = true →
    0 < timer.workersUnstarted ∨ ∃ t, (threads t).serves timer.generation = true
  /-- It is claimed or was fired when it is not pending. -/
  settled : .armed ∈ past → timer.active = false →
    (∃ t, (threads t).claims timer.generation = true) ∨ firings past = 1

/-- Every orderly step of a client keeps it alone. -/
theorem Alone.step {client : Id} {timer timer' : TimerList} {threads : Id → Task} {t : Id}
    {choice : Choice} {task : Task} (alone : Alone client timer threads)
    (one : OneClient client ⟨timer, threads⟩ (t, choice))
    (orderly : Orderly ⟨timer, threads⟩ (t, choice))
    (moved : Moved timer (threads t) choice timer' task) :
    Alone client timer' (Function.update threads t task) := by
  obtain ⟨client, kept, undeleted, window⟩ := alone
  generalize here : threads t = before at moved
  cases moved with
  | arm expires =>
    obtain rfl : t = _ := one
    constructor <;> grind -ring -linarith
  | clearActive vars env =>
    have none : ∀ u, (threads u).increments = false := by
      by_contra some
      obtain ⟨u, waits⟩ : ∃ u, (threads u).increments = true := by simpa using some
      simp only [Orderly, here, Task.Orderly] at orderly
      simp [(orderly (window u waits)).1 u] at waits
    constructor <;> grind -ring -linarith
  | createFailed expires pending env failed =>
    simp [OneClient, here, failed, Task.creates, ModPc.creates] at one
  | delete => exact one.elim
  | undoActive expires pending env => exact absurd here (kept t expires pending).1
  | undoGeneration expires pending env => exact absurd here (kept t expires pending).2
  | delLook pc | delClear | delIncrement | delSpin | delSeen | delReturn =>
    exact absurd here (undeleted t _)
  | lookPending expires env | storeExpires expires pending env | storeActive expires pending env
  | incGeneration expires pending env | create expires pending env _ =>
    have same := client t _ _ here
    constructor <;> grind -ring -linarith
  | begin waiting | sample env | sampleExpires generation env | wait pc pc' vars env before after
  | idle vars env _ | found vars env _ | stale vars env _ | current vars env _
  | setRunning vars env | fire vars env _ | refuse vars env _ | enter env | leave env
  | clearRunning env =>
    constructor <;> grind -ring -linarith

omit [DecidableEq Id] in
/-- A generation that nobody of it claims is fresh for a new arming. -/
theorem Current.of_armed {past : List (Event Id)} {timer : TimerList} {threads : Id → Task}
    (active : timer.active = true) (unclaimed : ∀ u, (threads u).claims timer.generation = false)
    (creating : ∃ t, (threads t).creates = true) : Current (.armed :: past) timer threads := by
  obtain ⟨t, creates⟩ := creating
  refine ⟨fun u => ?_, fun _ => rfl, fun u => ?_, fun u vars here same => ?_, fun _ _ => ?_, ?_⟩
  · simp [unclaimed]
  · simp [unclaimed]
  · have none := unclaimed u
    simp [here, Task.claims, WorkerPc.claims, same] at none
  · exact .inr ⟨t, by cases here : threads t <;> simp_all [Task.creates, Task.serves]⟩
  · simp [active]

/-- Every orderly step while no task is about to make another arming keeps the facts of the
last one. -/
theorem Current.step {past : List (Event Id)} {timer timer' : TimerList} {threads : Id → Task}
    {t : Id} {choice : Choice} {task : Task} (current : Current past timer threads)
    (idle : ∀ u, (threads u).arms = false) (orderly : Orderly ⟨timer, threads⟩ (t, choice))
    (undeleted : ∀ pc, threads t ≠ .deleting pc)
    (kept : ∀ expires pending, threads t ≠ .arming expires (.undoActive pending) ∧
      threads t ≠ .arming expires (.undoGeneration pending))
    (made : ∀ env, choice = .go env → (threads t).creates = true → env.created = true)
    (moved : Moved timer (threads t) choice timer' task) :
    Current ((threads t).events timer t ++ past) timer' (Function.update threads t task) := by
  obtain ⟨one, unfired, claimed, cleared, pending, settled⟩ := current
  have armless := idle t
  generalize here : threads t = before at moved
  cases moved with
  | delLook pc | delClear | delIncrement | delSpin | delSeen | delReturn =>
    exact absurd here (undeleted _)
  | undoActive expires pending env => exact absurd here (kept expires pending).1
  | undoGeneration expires pending env => exact absurd here (kept expires pending).2
  | lookPending | storeExpires | storeActive | incGeneration =>
    simp [here, Task.arms, ModPc.arms] at armless
  | createFailed expires pending env failed =>
    simp [made env rfl (by rw [here]; rfl)] at failed
  | arm expires | delete | create expires wasPending env _ | begin _ | sample env
  | sampleExpires generation env | idle vars env _ | stale vars env _ | current vars env _
  | setRunning vars env | leave env | clearRunning env =>
    refine ⟨by grind -ring -linarith, ?_, ?_, by grind -ring -linarith, ?_, ?_⟩ <;>
      simp only [Task.events, List.nil_append, Pool.exists_update] <;>
      grind -ring -linarith
  | wait pc pc' vars env before after =>
    have quiet : (Task.worker pc).events timer t = [] := by
      cases pc <;> simp at before <;> rfl
    have unclaimed : (Task.worker pc).claims timer.generation = false := by
      cases pc <;> simp at before <;> rfl
    have unclaimed' : (Task.worker pc').claims timer.generation = false := by
      cases pc' <;> simp at after <;> rfl
    have same : (Task.worker pc').serves timer.generation =
        (Task.worker pc).serves timer.generation := by
      cases pc <;> cases pc' <;> simp at before after <;> grind -ring -linarith
    refine ⟨by grind -ring -linarith, ?_, ?_, by grind -ring -linarith, ?_, ?_⟩ <;>
      simp only [quiet, List.nil_append, Pool.exists_update] <;>
      grind -ring -linarith
  | found vars env active =>
    have unclaimed : vars.generation = timer.generation →
        ∀ u, (threads u).claims timer.generation = false := fun same => by
      simp only [Orderly, here, Task.Orderly] at orderly
      exact orderly ⟨active, same, idle⟩
    refine ⟨by grind -ring -linarith, ?_, ?_, by grind -ring -linarith, ?_, ?_⟩ <;>
      simp only [Task.events, List.nil_append, Pool.exists_update] <;>
      grind -ring -linarith
  | clearActive vars env =>
    have before : .armed ∈ past →
        (∃ u, (threads u).claims timer.generation = true) ∨ firings past = 1 := fun once => by
      cases active : timer.active
      · exact settled once active
      · simp only [Orderly, here, Task.Orderly] at orderly
        exact .inl ((orderly active).2 idle)
    refine ⟨by grind -ring -linarith, ?_, ?_, by grind -ring -linarith, ?_, ?_⟩ <;>
      simp only [Task.events, List.nil_append, Pool.exists_update] <;>
      grind -ring -linarith
  | fire vars env same =>
    refine ⟨by grind -ring -linarith, ?_, ?_, by grind -ring -linarith, ?_, ?_⟩ <;>
      simp only [Task.events, same, if_true, List.singleton_append, firings,
        Pool.exists_update] <;>
      grind -ring -linarith
  | refuse vars env other =>
    refine ⟨by grind -ring -linarith, ?_, ?_, by grind -ring -linarith, ?_, ?_⟩ <;>
      simp only [Task.events, other, if_false, List.nil_append, Pool.exists_update] <;>
      grind -ring -linarith
  | enter env =>
    refine ⟨by grind -ring -linarith, ?_, ?_, by grind -ring -linarith, ?_, ?_⟩ <;>
      simp only [Task.events, List.singleton_append, firings, Pool.exists_update] <;>
      grind -ring -linarith

/-- Every worker that passed its final check has entered the function or is about to. -/
def Answered (past : List (Event Id)) (threads : Id → Task) : Prop :=
  ∀ newer t older, past = newer ++ .fired t :: older →
    .entered t ∈ newer ∨ threads t = .worker .call

omit [DecidableEq Id] in
/-- What is noted of a step that fires a timer or enters its function. -/
theorem Moved.events {timer timer' : TimerList} {before task : Task} {choice : Choice}
    (moved : Moved timer before choice timer' task) (t : Id) :
    (before.events timer t = [] ∨ before.events timer t = [.armed]) ∧ before ≠ .worker .call ∨
      before.events timer t = [.fired t] ∧ task = .worker .call ∨
      before.events timer t = [.entered t] := by
  cases moved with
  | enter env => exact .inr (.inr rfl)
  | fire vars env same => exact .inr (.inl ⟨by simp [Task.events, same], rfl⟩)
  | refuse vars env other => exact .inl ⟨.inl (by simp [Task.events, other]), by simp⟩
  | incGeneration expires pending env => exact .inl ⟨.inr rfl, by simp⟩
  | wait pc pc' vars env before after =>
    refine .inl ⟨.inl ?_, ?_⟩ <;> cases pc <;> simp_all [Task.events]
  | _ => exact .inl ⟨.inl rfl, by simp⟩

/-- Every step keeps the promise of the workers that passed their final check. -/
theorem Answered.step {past : List (Event Id)} {timer timer' : TimerList} {threads : Id → Task}
    {t : Id} {choice : Choice} {task : Task} (answered : Answered past threads)
    (moved : Moved timer (threads t) choice timer' task) :
    Answered ((threads t).events timer t ++ past) (Function.update threads t task) := by
  intro newer u older split
  -- the worker that moves may be the one that is about to enter the function
  have earlier : ∀ newer, past = newer ++ .fired u :: older →
      .entered u ∈ newer ∨ u = t ∧ threads t = .worker .call ∨
        Function.update threads t task u = .worker .call := fun newer split => by
    rcases answered newer u older split with entered | about
    · exact .inl entered
    · by_cases same : u = t
      · exact .inr (.inl ⟨same, same ▸ about⟩)
      · exact .inr (.inr (by simpa [Function.update_of_ne same] using about))
  rcases moved.events t with ⟨none | armed, apart⟩ | ⟨fired, called⟩ | entered
  · rw [none] at split
    have known := earlier newer split
    grind -ring -linarith
  · rw [armed] at split
    cases newer with
    | nil => simp at split
    | cons event newer =>
      have known := earlier newer (by simpa using (List.cons.inj split).2)
      grind -ring -linarith
  · rw [fired] at split
    cases newer with
    | nil =>
      obtain rfl : t = u := by simpa using (List.cons.inj split).1
      simp [called]
    | cons event newer =>
      have known := earlier newer (by simpa using (List.cons.inj split).2)
      grind -ring -linarith
  · rw [entered] at split
    cases newer with
    | nil => simp at split
    | cons event newer =>
      obtain ⟨rfl, rest⟩ := List.cons.inj split
      have known := earlier newer (by simpa using rest)
      grind -ring -linarith

/-- The state of a timer that one client arms, with its history. -/
structure Rearmed (client : Id) (p : Tasks Id) (past : List (Event Id)) : Prop where
  /-- Only the client calls. -/
  alone : Alone client p.shared p.threads
  /-- The last arming is in order unless another one is being made. -/
  current : (∀ u, (p.threads u).arms = false) → Current past p.shared p.threads
  /-- Workers that passed their final check enter the function. -/
  answered : Answered past p.threads

omit [DecidableEq Id] in
/-- Nothing has happened to a fresh timer. -/
theorem Fresh.rearmed {p : Tasks Id} (fresh : Fresh p) (client : Id) : Rearmed client p [] := by
  have idle := fresh.idle
  have inactive : p.shared.active = false := by rw [fresh.timer]; rfl
  refine ⟨?_, fun _ => ?_, fun newer t older split => ?_⟩
  · constructor <;> simp [idle, Task.increments]
  · constructor <;> simp [idle, Task.claims, inactive]
  · simp at split

/-- A task that is done arming has incremented the generation. -/
theorem Moved.armed {timer timer' : TimerList} {before task : Task} {choice : Choice}
    (moved : Moved timer before choice timer' task) (arms : before.arms = true)
    (done : task.arms = false) :
    ∃ expires pending, before = .arming expires (.incGeneration pending) ∧
      task = .arming expires (.create pending) ∧
      timer' = { timer with generation := timer.generation + 1 } := by
  cases moved with
  | incGeneration expires pending env => exact ⟨expires, pending, rfl, rfl, rfl⟩
  | _ => simp [Task.arms, ModPc.arms] at arms done

/-- Every orderly step keeps the timer in order. -/
theorem Rearmed.step {client : Id} {p q : Tasks Id} {past : List (Event Id)} {a : Id × Choice}
    (rearmed : Rearmed client p past) (one : OneClient client p a) (orderly : Orderly p a)
    (stepped : Pool.step exec p a = some q) :
    Rearmed client q ((p.threads a.1).events p.shared a.1 ++ past) := by
  obtain ⟨alone, current, answered⟩ := rearmed
  obtain ⟨timer, task, ran, rfl⟩ := Pool.step_eq_some.mp stepped
  have moved := exec_moved ran
  refine ⟨alone.step one orderly moved, fun done => ?_, answered.step moved⟩
  by_cases idle : ∀ u, (p.threads u).arms = false
  · refine (current idle).step idle orderly (alone.undeleted a.1) (alone.kept a.1) ?_ moved
    intro env chosen creates
    obtain ⟨t, choice⟩ := a
    obtain rfl : choice = .go env := chosen
    exact one creates
  · obtain ⟨u, arms⟩ : ∃ u, (p.threads u).arms = true := by simpa using idle
    obtain rfl : u = a.1 := by
      by_contra apart
      have still := done u
      simp [Function.update_of_ne apart, arms] at still
    obtain ⟨expires, pending, here, rfl, rfl⟩ := moved.armed arms (by simpa using done a.1)
    obtain ⟨t, choice⟩ := a
    cases choice with
    | go env =>
      simp only [Orderly, here, Task.Orderly] at orderly
      rw [here]
      refine .of_armed (alone.window t (by rw [here]; rfl)) (fun v => ?_)
        ⟨t, by simp [Task.creates, ModPc.creates]⟩
      by_cases same : v = t
      · simp [same, Task.claims]
      · simpa [Function.update_of_ne same] using orderly v
    | arm _ | delete | begin => simp [here, exec] at ran

/-- In an orderly run of one client, as soon as no call and no worker is left, exactly one
worker has passed its final check since the generation was last incremented, and every worker
that passed it has then entered the function. -/
theorem rearmed_fires_once {client : Id} {p : Tasks Id} {past : List (Event Id)}
    (reach : recorded.Reach (fun s a => OneClient client s.1 a ∧ Orderly s.1 a) (p, past))
    (armed : .armed ∈ past) (quiet : ∀ t, p.threads t = .idle)
    (started : p.shared.workersUnstarted = 0) :
    firings past = 1 ∧ ∀ newer t older, past = newer ++ .fired t :: older → .entered t ∈ newer := by
  obtain ⟨-, current, answered⟩ : Rearmed client p past :=
    reach.invariant (fun s => Rearmed client s.1 s.2)
      (fun s initial => initial.2 ▸ initial.1.rearmed client)
      fun s a t rearmed ok stepped => by
        obtain ⟨moved, noted⟩ := System.record_step_eq_some.mp stepped
        exact noted ▸ rearmed.step ok.1 ok.2 moved
  have last := current fun u => by rw [quiet u]; rfl
  have inactive : p.shared.active = false := by
    by_contra active
    rcases last.pending armed (by simpa using active) with waiting | ⟨t, serves⟩
    · omega
    · simp [quiet t, Task.serves] at serves
  refine ⟨?_, fun newer t older split => ?_⟩
  · rcases last.settled armed inactive with ⟨t, claims⟩ | fired
    · simp [quiet t, Task.claims] at claims
    · exact fired
  · rcases answered newer t older split with entered | about
    · exact entered
    · simp [quiet t] at about

/-- Whether a call is one of the client is decided by evaluation. -/
instance decidableOneClient (client : Id) (p : Tasks Id) :
    (a : Id × Choice) → Decidable (OneClient client p a)
  | (t, .arm _) => inferInstanceAs (Decidable (t = client))
  | (_, .delete) => .isFalse id
  | (_, .begin) => .isTrue trivial
  | (t, .go env) => inferInstanceAs (Decidable ((p.threads t).creates = true → env.created = true))

/-- Whether the next step of a task is orderly is decided by evaluation. -/
instance Task.decidableOrderly [Fintype Id] (p : Tasks Id) :
    (task : Task) → Decidable (task.Orderly p)
  | .arming _ pc => match pc with
    | .incGeneration _ => inferInstanceAs (Decidable (∀ _, _ = false))
    | .loadActive | .storeExpires _ | .storeActive _ | .create _ | .undoActive _
    | .undoGeneration _ => .isTrue trivial
  | .worker pc => match pc with
    | .checkActive _ => inferInstanceAs (Decidable (_ ∧ _ ∧ (∀ _, _ = false) → ∀ _, _ = false))
    | .clearActive _ =>
      inferInstanceAs (Decidable (_ → (∀ _, _ = false) ∧ ((∀ _, _ = false) → ∃ _, _ = true)))
    | .loadGeneration | .loadExpires _ | .loopActive _ | .loopGeneration _ | .loopTime _
    | .checkGeneration _ | .setRunning _ | .checkFinal _ | .call | .inFunc | .clearRunning =>
      .isTrue trivial
  | .idle | .deleting _ => .isTrue trivial

/-- Whether a step is orderly is decided by evaluation. -/
instance decidableOrderly [Fintype Id] (p : Tasks Id) (a : Id × Choice) :
    Decidable (Orderly p a) :=
  Task.decidableOrderly p (p.threads a.1)

/-- What a run leads to: the history, whether no call and no worker is left, and the workers that
have not begun. -/
def outcome (s : Tasks (Fin 3) × List (Event (Fin 3))) : List (Event (Fin 3)) × Bool × Nat :=
  (s.2, decide (∀ t, s.1.threads t = .idle), s.1.shared.workersUnstarted)

/-- An executed run of one client reaches a state with its outcome. -/
theorem exists_of_outcome {ok : Tasks (Fin 3) × List (Event (Fin 3)) → Fin 3 × Choice → Prop}
    [∀ s a, Decidable (ok s a)] {labels : List (Fin 3 × Choice)} {past : List (Event (Fin 3))}
    (ran : (recorded.runWith ok (fresh, []) labels).map outcome = some (past, true, 0)) :
    ∃ p, recorded.Reach ok (p, past) ∧ (∀ t, p.threads t = .idle) ∧
      p.shared.workersUnstarted = 0 := by
  obtain ⟨⟨p, noted⟩, reached, seen⟩ := Option.map_eq_some_iff.mp ran
  obtain ⟨rfl, quiet, started⟩ : noted = past ∧ (∀ t, p.threads t = .idle) ∧ _ := by
    simpa [outcome] using seen
  exact ⟨p, ⟨(fresh, []), ⟨fresh_fresh, rfl⟩, System.path_of_runWith reached⟩, quiet, started⟩

/-- The timer is armed again while the worker of its first arming waits: that worker finds its
generation stale, and the worker of the second arming fires once. -/
theorem waiting_rearmed_fires_once : ∃ (p : Tasks (Fin 3)) (past : List (Event (Fin 3))),
    recorded.Reachable (p, past) ∧ (∀ t, p.threads t = .idle) ∧
      past = [.entered 2, .fired 2, .armed, .armed] ∧
      firings past = 1 := by
  have ran : (recorded.runWith (fun s a => OneClient 0 s.1 a ∧ Orderly s.1 a) (fresh, [])
      (arm ++ (1, .begin) :: go 3 1 ++ arm ++ go 3 1 ++ (2, .begin) :: go 13 2)).map outcome =
        some ([.entered 2, .fired 2, .armed, .armed], true, 0) := by
    decide +kernel
  obtain ⟨p, reach, quiet, started⟩ := exists_of_outcome ran
  have fired := rearmed_fires_once reach (by decide) quiet started
  exact ⟨p, _, reach.mono fun _ _ _ => trivial, quiet, rfl, fired.1⟩

/-- The timer is armed again after the worker of its first arming has passed its checks and
before it clears the flag: that worker does not fire, and the worker of the second arming finds
the timer not pending, so the arming is lost. -/
theorem claimed_rearmed_lost : ¬∀ (client : Fin 3) (p : Tasks (Fin 3))
    (past : List (Event (Fin 3))),
    recorded.Reach (fun s a => OneClient client s.1 a) (p, past) → .armed ∈ past →
      (∀ t, p.threads t = .idle) → p.shared.workersUnstarted = 0 →
        firings past = 1 ∧
          ∀ newer t older, past = newer ++ .fired t :: older → .entered t ∈ newer := by
  intro always
  have ran : (recorded.runWith (fun s a => OneClient 0 s.1 a) (fresh, [])
      (arm ++ (1, .begin) :: go 8 1 ++ arm ++ go 3 1 ++ (2, .begin) :: go 4 2)).map outcome =
        some ([.armed, .armed], true, 0) := by
    decide +kernel
  obtain ⟨p, reach, quiet, started⟩ := exists_of_outcome ran
  exact absurd (always 0 p _ reach (by decide) quiet started).1 (by decide)

end Lcompat.Timer
