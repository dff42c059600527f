import Lcompat.Kthread.Model

/-!
# Parking a kernel thread

What `kthread_park` achieves over any number of rounds of parking and unparking. The thread says
that it is parked until some steps after it has decided to leave, so a call can see what is left
of an earlier round. When a call returns, the thread has exited or stays in `kthread_parkme`
until the controller takes the request back, exactly when it was not leaving at the last look
of the call.
-/

namespace Lcompat.Kthread

open Lcompat.Logic

/-- A step of `kthread_parkme` at which the thread says that it is parked. -/
@[grind]
def ParkmePc.shown : ParkmePc → Bool
  | .loadShouldPark | .loadShouldStop | .setInterruptible | .block | .clearParked => true
  | .setParked | .setRunning => false

/-- A place at which the thread says that it is parked. -/
@[grind]
def ThreadPc.shown : ThreadPc → Bool
  | .parking pc => pc.shown
  | .entry | .function | .scheduling _ | .storeResult _ | .setExited | .exited => false

/-- A step of the loop of `kthread_parkme`. -/
@[grind]
def ParkmePc.loops : ParkmePc → Bool
  | .loadShouldPark | .loadShouldStop | .setInterruptible | .block => true
  | .setParked | .clearParked | .setRunning => false

/-- Outside `kthread_stop`. -/
@[grind]
def ControllerPc.keeps : ControllerPc → Bool
  | .idle | .parking _ | .unparking _ => true
  | .stopping _ | .stopped _ => false

/-- Inside `kthread_park`, after the request has been made. -/
@[grind]
def ControllerPc.asked : ControllerPc → Bool
  | .parking .setShouldPark => false
  | .parking (.wake _) | .parking .loadParked | .parking .loadExited | .parking .yield => true
  | .idle | .unparking _ | .stopping _ | .stopped _ => false

/-- A thread that says that it is parked and is not leaving is in the loop. -/
theorem ThreadPc.loops_of_shown {pc : ThreadPc} (shown : pc.shown = true)
    (stands : pc ≠ .parking .clearParked) : ∃ at_, pc = .parking at_ ∧ at_.loops = true := by
  cases pc with
  | parking pc =>
    cases pc <;> simp_all [ThreadPc.shown, ParkmePc.shown, ParkmePc.loops]
  | entry | function | scheduling | storeResult | setExited | exited =>
    simp [ThreadPc.shown] at shown

/-- A controller that has asked the thread to park has not called `kthread_stop`. -/
theorem ControllerPc.keeps_of_asked {pc : ControllerPc} (asked : pc.asked = true) :
    pc.keeps = true := by
  cases pc with
  | idle | parking | unparking => rfl
  | stopping | stopped => simp [ControllerPc.asked] at asked

/-- The thread has exited, or is inside `kthread_parkme`. -/
def Parked (k : Parties) : Prop :=
  k.self = .exited ∨ ∃ pc, k.self = .parking pc

/-- A step of the thread leaves the requests of the controller alone. -/
theorem threadStep_requests {thread thread' : TaskStruct} {pc pc' : ThreadPc} {work : Work}
    (ran : threadStep thread pc work = some (thread', pc')) :
    thread'.shouldPark = thread.shouldPark ∧ thread'.shouldStop = thread.shouldStop := by
  cases pc with
  | scheduling pc =>
    cases work with
    | go spurious => cases pc <;> grind -ring -linarith [threadStep, lcompatSchedule, taskBlock]
    | check | park | setState | schedule | finish => simp [threadStep] at ran
  | parking pc =>
    cases work with
    | go spurious => cases pc <;> grind -ring -linarith [threadStep, kthreadParkme, taskBlock]
    | check | park | setState | schedule | finish => simp [threadStep] at ran
  | entry | function | storeResult | setExited | exited =>
    cases work <;> grind -ring -linarith [threadStep]

/-- The thread says that it is parked, or that it has exited, where it is. -/
structure Agrees (thread : TaskStruct) (pc : ThreadPc) : Prop where
  /-- `parked` tells where the thread is. -/
  parked : thread.parked = pc.shown
  /-- `exited` tells where the thread is. -/
  exited : thread.exited = true ↔ pc = .exited

/-- Every step of the thread says where it leads. -/
theorem Agrees.thread {thread thread' : TaskStruct} {pc pc' : ThreadPc} {work : Work}
    (agrees : Agrees thread pc) (ran : threadStep thread pc work = some (thread', pc')) :
    Agrees thread' pc' := by
  obtain ⟨parked, exited⟩ := agrees
  cases pc with
  | scheduling pc =>
    cases work with
    | go spurious =>
      cases pc <;> constructor <;>
        grind -ring -linarith [threadStep, lcompatSchedule, taskBlock]
    | check | park | setState | schedule | finish => simp [threadStep] at ran
  | parking pc =>
    cases work with
    | go spurious =>
      cases pc <;> constructor <;>
        grind -ring -linarith [threadStep, kthreadParkme, taskBlock]
    | check | park | setState | schedule | finish => simp [threadStep] at ran
  | entry | function | storeResult | setExited | exited =>
    cases work <;> constructor <;> grind -ring -linarith [threadStep]

/-- A step of the controller leaves what the thread says alone. -/
theorem controllerStep_says {thread thread' : TaskStruct} {pc pc' : ControllerPc}
    {command : Command} (ran : controllerStep thread pc command = some (thread', pc')) :
    thread'.parked = thread.parked ∧ thread'.exited = thread.exited := by
  cases command with
  | go =>
    cases pc with
    | parking pc =>
      rcases pc with _ | (_ | _) | _ | _ | _ <;>
        grind -ring -linarith [controllerStep, kthreadPark, wakeUpProcess]
    | unparking pc =>
      rcases pc with _ | (_ | _) <;>
        grind -ring -linarith [controllerStep, kthreadUnpark, wakeUpProcess]
    | stopping pc =>
      rcases pc with _ | _ | (_ | _) | _ | _ | _ <;>
        grind -ring -linarith [controllerStep, kthreadStop, wakeUpProcess]
    | idle | stopped => simp [controllerStep] at ran
  | park | unpark | stop => cases pc <;> grind -ring -linarith [controllerStep]

/-- The requests are what the controller has called for. -/
structure Asks (thread : TaskStruct) (pc : ControllerPc) : Prop where
  /-- In `kthread_park` the thread is to park. -/
  park : pc.asked = true → thread.shouldPark = true
  /-- Before `kthread_stop` it is not to stop. -/
  stop : pc.keeps = true → thread.shouldStop = false

/-- Every step of the controller makes the request that it comes from. -/
theorem Asks.controller {thread thread' : TaskStruct} {pc pc' : ControllerPc} {command : Command}
    (asks : Asks thread pc) (ran : controllerStep thread pc command = some (thread', pc')) :
    Asks thread' pc' := by
  obtain ⟨park, stop⟩ := asks
  cases command with
  | go =>
    cases pc with
    | parking pc =>
      rcases pc with _ | (_ | _) | _ | _ | _ <;> constructor <;>
        grind -ring -linarith [controllerStep, kthreadPark, wakeUpProcess]
    | unparking pc =>
      rcases pc with _ | (_ | _) <;> constructor <;>
        grind -ring -linarith [controllerStep, kthreadUnpark, wakeUpProcess]
    | stopping pc =>
      rcases pc with _ | _ | (_ | _) | _ | _ | _ <;> constructor <;>
        grind -ring -linarith [controllerStep, kthreadStop, wakeUpProcess]
    | idle | stopped => simp [controllerStep] at ran
  | park | unpark | stop => cases pc <;> constructor <;> grind -ring -linarith [controllerStep]

/-- What holds in every interleaving. -/
structure Sound (k : Parties) : Prop where
  /-- The thread says where it is. -/
  agrees : Agrees k.thread k.self
  /-- The controller has asked for what it waits for. -/
  asks : Asks k.thread k.controller

/-- Every reachable state is sound. -/
theorem sound_of_reachable {k : Parties} (reach : system.Reachable k) : Sound k := by
  refine reach.invariant Sound ?_ ?_
  · rintro k rfl
    exact ⟨⟨rfl, by simp [created, kthreadRun]⟩, ⟨by simp [created, ControllerPc.asked],
      fun _ => rfl⟩⟩
  · rintro k a next ⟨agrees, asks⟩ - stepped
    refine step_induction stepped (fun work thread pc _ ran => ?_) fun command thread pc _ ran => ?_
    · obtain ⟨park, stop⟩ := threadStep_requests ran
      exact ⟨agrees.thread ran, ⟨fun asked => park ▸ asks.park asked,
        fun keeps => stop ▸ asks.stop keeps⟩⟩
    · obtain ⟨parked, exited⟩ := controllerStep_says ran
      exact ⟨⟨parked ▸ agrees.parked, exited ▸ agrees.exited⟩, asks.controller ran⟩

/-- A step that begins neither `kthread_unpark` nor `kthread_stop`. -/
def Holding (_ : Parties) (a : Label) : Prop :=
  a ≠ .controller .unpark ∧ a ≠ .controller .stop

/-- The controller is outside, or inside `kthread_park`. -/
@[grind]
def ControllerPc.parks : ControllerPc → Bool
  | .idle | .parking _ => true
  | .unparking _ | .stopping _ | .stopped _ => false

/-- The thread is to park and not to stop, and has exited or is in the loop of
`kthread_parkme`. -/
structure Stays (k : Parties) : Prop where
  /-- Nobody takes the request back. -/
  parks : k.controller.parks = true
  /-- The thread is to park. -/
  park : k.thread.shouldPark = true
  /-- The thread is not to stop. -/
  stop : k.thread.shouldStop = false
  /-- The thread has exited or waits. -/
  waits : k.self = .exited ∨ ∃ pc, k.self = .parking pc ∧ pc.loops = true

/-- A thread that waits goes on waiting. -/
theorem threadStep_waits {thread thread' : TaskStruct} {pc pc' : ThreadPc} {work : Work}
    (ran : threadStep thread pc work = some (thread', pc')) (park : thread.shouldPark = true)
    (stop : thread.shouldStop = false)
    (waits : pc = .exited ∨ ∃ at_, pc = .parking at_ ∧ at_.loops = true) :
    pc' = .exited ∨ ∃ at_, pc' = .parking at_ ∧ at_.loops = true := by
  rcases waits with rfl | ⟨at_, rfl, loops⟩
  · simp [threadStep] at ran
  · cases work with
    | go spurious => cases at_ <;> grind -ring -linarith [threadStep, kthreadParkme, taskBlock]
    | check | park | setState | schedule | finish => simp [threadStep] at ran

/-- Outside `kthread_unpark` and `kthread_stop` the controller leaves its requests as they are or
asks the thread to park. -/
theorem controllerStep_parks {thread thread' : TaskStruct} {pc pc' : ControllerPc}
    {command : Command} (ran : controllerStep thread pc command = some (thread', pc'))
    (parks : pc.parks = true) (holding : command ≠ .unpark ∧ command ≠ .stop) :
    pc'.parks = true ∧ (thread.shouldPark = true → thread'.shouldPark = true) ∧
      thread'.shouldStop = thread.shouldStop := by
  cases pc with
  | idle => cases command <;> grind -ring -linarith [controllerStep]
  | parking pc =>
    cases command with
    | go =>
      rcases pc with _ | (_ | _) | _ | _ | _ <;>
        grind -ring -linarith [controllerStep, kthreadPark, wakeUpProcess]
    | park | unpark | stop => simp [controllerStep] at ran
  | unparking | stopping | stopped => simp [ControllerPc.parks] at parks

/-- A thread stays until the controller begins to take its request back. -/
theorem Stays.step {k next : Parties} {a : Label} (stays : Stays k) (holding : Holding k a)
    (stepped : step k a = some next) : Stays next := by
  obtain ⟨parks, park, stop, waits⟩ := stays
  refine step_induction stepped (fun work thread pc _ ran => ?_)
    fun command thread pc called ran => ?_
  · obtain ⟨samePark, sameStop⟩ := threadStep_requests ran
    exact ⟨parks, samePark.trans park, sameStop.trans stop, threadStep_waits ran park stop waits⟩
  · subst called
    obtain ⟨still, asked, sameStop⟩ :=
      controllerStep_parks ran parks (by simpa [Holding] using holding)
    exact ⟨still, asked park, sameStop.trans stop, waits⟩

/-- A call of `kthread_park`, after anything that the thread and its controller have done, takes
its last step and returns 0. -/
structure ParkCall (last after : Parties) : Prop where
  /-- The step is one of an interleaving. -/
  reached : system.Reachable last
  /-- It is the step of `kthread_park` that returns. -/
  returned : ∃ pc, last.controller = .parking pc ∧
    kthreadPark last.thread pc = (after.thread, .ret 0)
  /-- It is taken. -/
  stepped : step last (.controller .go) = some after

/-- A call that returns has found the thread parked or exited, and only its own place has
changed. -/
theorem ParkCall.looked {last after : Parties} (call : ParkCall last after) :
    last.controller.asked = true ∧ (last.thread.parked = true ∨ last.thread.exited = true) ∧
      after = { last with controller := .idle } := by
  obtain ⟨-, ⟨pc, here, looked⟩, stepped⟩ := call
  obtain ⟨⟨thread, next⟩, ran, rfl⟩ := Option.map_eq_some_iff.mp stepped
  simp only [here] at ran ⊢
  cases pc with
  | loadParked => grind -ring -linarith [controllerStep, kthreadPark]
  | loadExited => grind -ring -linarith [controllerStep, kthreadPark]
  | setShouldPark | yield => simp [kthreadPark] at looked
  | wake pc => cases pc <;> simp [kthreadPark, wakeUpProcess] at looked

/-- A call that looks at `parked` when it is set returns. -/
theorem ParkCall.of_parked {last : Parties} (reached : system.Reachable last)
    (here : last.controller = .parking .loadParked) (parked : last.thread.parked = true) :
    ParkCall last { last with controller := .idle } :=
  ⟨reached, ⟨.loadParked, here, by simp [kthreadPark, parked]⟩,
    by simp [step, controllerStep, kthreadPark, here, parked]⟩

/-- A thread that is about to say that it is parked no longer can leave. -/
theorem exists_left {k : Parties} (leaving : k.self = .parking .clearParked)
    (controller : ControllerPc) :
    ∃ q, system.Path Holding { k with controller := controller } q ∧ q.self = .function := by
  let cleared : Parties :=
    ⟨{ k.thread with parked := false }, .parking .setRunning, controller⟩
  let left : Parties := ⟨{ cleared.thread with state := .running }, .function, controller⟩
  have clears : system.step { k with controller := controller } (.thread (.go false)) =
      some cleared := by
    simp [system, step, threadStep, kthreadParkme, leaving, cleared]
  have leaves : system.step cleared (.thread (.go false)) = some left := rfl
  have admitted : ∀ k, Holding k (.thread (.go false)) := fun k => by simp [Holding]
  exact ⟨left, (System.Path.single (admitted _) clears).tail (admitted _) leaves, rfl⟩

/-- When `kthread_park` returns 0, the thread has exited or is inside `kthread_parkme` and does
not leave it before the next `kthread_unpark` or `kthread_stop`, if and only if it was not about
to say that it is parked no longer when the call took its last look. -/
theorem kthread_park_iff {last after : Parties} (call : ParkCall last after) :
    (∀ q, system.Path Holding after q → Parked q) ↔ last.self ≠ .parking .clearParked := by
  obtain ⟨agrees, asks⟩ := sound_of_reachable call.reached
  obtain ⟨asked, seen, rfl⟩ := call.looked
  constructor
  · intro stays leaving
    obtain ⟨q, path, left⟩ := exists_left leaving .idle
    simpa [Parked, left] using stays q path
  · intro stands q path
    have start : Stays { last with controller := .idle } := by
      refine ⟨rfl, asks.park asked, asks.stop (ControllerPc.keeps_of_asked asked), ?_⟩
      rcases seen with parked | exited
      · exact .inr (ThreadPc.loops_of_shown (agrees.parked ▸ parked) stands)
      · exact .inl (agrees.exited.mp exited)
    obtain ⟨-, -, -, exited | ⟨pc, here, -⟩⟩ := path.invariant Stays start
      fun k a next stays holding stepped => stays.step holding stepped
    · exact .inl exited
    · exact .inr ⟨pc, here⟩

/-- A call of `kthread_park` up to its look at `parked`. -/
def park : List Label := .controller .park :: List.replicate 3 (.controller .go)

/-- The thread begins, and says that it is parked for the first call. -/
def firstRound : List Label :=
  .thread (.go false) :: park ++ [.thread .check, .thread (.go false)]

/-- The thread is parked and blocked when the call returns, and stays there. -/
theorem blocked_parked : ∃ last after : Parties, ParkCall last after ∧
    last.self = .parking .block ∧ ∀ q, system.Path Holding after q → Parked q := by
  have ran : ∃ last, system.run created (firstRound ++ List.replicate 3 (.thread (.go false))) =
      some last ∧ last.self = .parking .block ∧ last.controller = .parking .loadParked ∧
        last.thread.parked = true := ⟨_, rfl, rfl, rfl, rfl⟩
  obtain ⟨last, ran, blocked, here, parked⟩ := ran
  have call := ParkCall.of_parked (System.reachable_of_run rfl ran) here parked
  exact ⟨last, _, call, blocked, (kthread_park_iff call).mpr (by simp [blocked])⟩

/-- The thread is unparked, decides to leave, and is parked again before it says so: the second
call returns at once, and then the thread leaves. -/
theorem leaving_parked : ¬∀ last after : Parties, ParkCall last after →
    ∀ q, system.Path Holding after q → Parked q := by
  intro always
  have ran : ∃ last, system.run created (firstRound ++ [.controller .go, .controller .unpark] ++
      List.replicate 3 (.controller .go) ++ .thread (.go false) :: park) = some last ∧
        last.self = .parking .clearParked ∧ last.controller = .parking .loadParked ∧
          last.thread.parked = true := ⟨_, rfl, rfl, rfl, rfl⟩
  obtain ⟨last, ran, leaving, here, parked⟩ := ran
  have call := ParkCall.of_parked (System.reachable_of_run rfl ran) here parked
  obtain ⟨q, path, left⟩ := exists_left leaving .idle
  simpa [Parked, left] using always _ _ call q path

end Lcompat.Kthread
