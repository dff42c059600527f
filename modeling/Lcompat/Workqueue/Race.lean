import Lcompat.Workqueue.Stages

/-!
# The queue a delay ends on

Every step of the client, of the worker and of the timer tasks moves the item on as its stage
says, except one: in its closing section the worker may store null in `work->wq` after the client
has claimed the item again and stored its queue there. A timer task that finds null appends the
item to the system queue. In the runs without such a store the item ends on the queue it was given
to, once for every call that returned true.
-/

set_option linter.unusedSectionVars false

namespace Lcompat.Workqueue

open Lcompat.Logic

variable {Queue Item : Type} [DecidableEq Queue] [DecidableEq Item]
variable {Id : Type} [DecidableEq Id]

section Parts

variable {q systemWq : Queue} {w : Item} {m m' : Memory Queue Item} {p : Race Id Queue Item}
  {s' : LockedMemory Queue Item} {stage stage' : Stage} {owner : Option Id} {client t : Id}
  {racer : Racer Queue Item}

/-- Waking the worker leaves the item as it is. -/
theorem workqueueWake_leaves (pc : WakePc) : Leaves q systemWq w m (workqueueWake q m pc).1 := by
  cases pc with
  | loadTask | loadWaiting => exact .refl
  | unblock =>
    dsimp only [workqueueWake]
    exact .setQueue ⟨rfl, rfl⟩ rfl

/-- The client calls when no execution is outstanding. -/
theorem Tracks.call (tracks : Tracks q systemWq w client p stage owner)
    (here : p.threads t = .client) (rest : stage = .rest) (delay : UInt64) :
    Follows q systemWq w client p stage []
      ⟨p.shared, Function.update p.threads t (.queueing delay (.start delay))⟩ := by
  by_cases now : delay = 0
  · rw [QueueDelayedPc.start, if_pos now]
    exact tracks.client_keep here ⟨rfl, rfl⟩ ⟨rfl, rfl⟩ .refl (fun _ => rest) rfl (.keep _ _)
  · rw [QueueDelayedPc.start, if_neg now]
    exact tracks.client_keep here ⟨rfl, rfl⟩ ⟨rfl, rfl⟩ .refl (fun _ => rest) trivial (.keep _ _)

/-- A call that does not append an item notes what it returns. -/
theorem Racer.signs_queueing {delay : UInt64} {pc : QueueDelayedPc} (other : pc ≠ .queueNow .append)
    {env : Env} {after : Next QueueDelayedPc Bool}
    (ran : queueDelayedWork q w delay env m pc = (m', after)) :
    (Racer.queueing delay pc).signs q w m (.go env) =
      match after with
      | .ret accepted => [.answered accepted]
      | .goto _ => [] := by
  cases pc with
  | queueNow pc =>
    cases pc with
    | append => exact absurd rfl other
    | ensure _ | load | cas _ | wake _ =>
      simp only [Racer.signs, ran]
      cases after <;> rfl
  | casState | storeWq | storeExpires | storeActive | incGeneration | create | undoActive
  | undoState | undoGeneration =>
    simp only [Racer.signs, ran]
    cases after <;> rfl

/-- A step of the client in a call for now. -/
theorem Tracks.queueNow (tracks : Tracks q systemWq w client p stage owner) {delay : UInt64}
    {pc : QueuePc} (here : p.threads t = .queueing delay (.queueNow pc)) (env : Env)
    {after : Next QueueDelayedPc Bool}
    (ran : queueDelayedWork q w delay env p.shared.memory (.queueNow pc) = (m', after)) :
    Follows q systemWq w client p stage
      ((Racer.queueing delay (.queueNow pc)).signs q w p.shared.memory (.go env))
      ⟨{ p.shared with memory := m' },
        Function.update p.threads t (after.after (Racer.queueing delay) .client)⟩ := by
  have relied := tracks.relies t
  have asks := tracks.asks t
  have state := tracks.fits.queued
  rw [here] at relied asks
  cases pc with
  | ensure pc =>
    obtain rfl : pc = .loadTask := relied
    have ready := tracks.fits.workerTask
    rw [Racer.signs_queueing (by simp) ran]
    simp only [queueDelayedWork, queueWork, workqueueEnsureWorker, ready, if_true,
      Prod.mk.injEq] at ran
    obtain ⟨rfl, rfl⟩ := ran
    exact tracks.client_keep here ⟨rfl, rfl⟩ ⟨rfl, rfl⟩ .refl asks trivial (.keep _ _)
  | load =>
    have rest := asks rfl
    rw [rest] at state
    have clear : (p.shared.memory.works w).state.queued = false := state
    rw [Racer.signs_queueing (by simp) ran]
    simp only [queueDelayedWork, queueWork, clear] at ran
    obtain ⟨rfl, rfl⟩ := Prod.mk.inj ran
    exact tracks.client_keep here ⟨rfl, rfl⟩ ⟨rfl, rfl⟩ .refl asks trivial (.keep _ _)
  | cas running =>
    have rest := asks rfl
    subst rest
    rw [Racer.signs_queueing (by simp) ran]
    simp only [queueDelayedWork, queueWork] at ran
    by_cases same : (p.shared.memory.works w).state = ⟨false, running⟩
    · rw [if_pos same] at ran
      obtain ⟨rfl, rfl⟩ := Prod.mk.inj ran
      have fits : Fits q systemWq w (p.shared.memory.setWork w fun work =>
          { work with state := ⟨true, running⟩ }) .appending := by
        refine tracks.fits.setWork ?_ ?_ rfl ?_ tracks.fits.unstarted ?_
        · decide
        · decide
        · exact fun still => absurd still (by decide)
        · exact fun scheduled => absurd scheduled (by decide)
      exact tracks.client_move here ⟨rfl, rfl⟩ (.inl (tracks.free.mpr rfl)) fits rfl
        (fun wants => (Bool.false_ne_true wants).elim) trivial .claim
    · rw [if_neg same] at ran
      obtain ⟨rfl, rfl⟩ := Prod.mk.inj ran
      exact tracks.client_keep here ⟨rfl, rfl⟩ ⟨rfl, rfl⟩ .refl asks trivial (.keep _ _)
  | append =>
    obtain ⟨owns, rfl⟩ := tracks.owner_of_stage (by rw [here]; rfl)
    obtain ⟨rfl, rfl⟩ := Prod.mk.inj ran
    exact tracks.client_move here ⟨rfl, rfl⟩ (.inr owns) tracks.fits.append rfl
      (fun wants => (Bool.false_ne_true wants).elim) trivial (.append true)
  | wake pc =>
    rw [Racer.signs_queueing (by simp) ran]
    have leaves : Leaves q systemWq w p.shared.memory (workqueueWake q p.shared.memory pc).1 :=
      workqueueWake_leaves pc
    rcases woken : workqueueWake q p.shared.memory pc with ⟨m'', pc' | done⟩ <;>
      rw [woken] at leaves <;>
      simp only [queueDelayedWork, queueWork, woken, Prod.mk.injEq] at ran <;>
      obtain ⟨rfl, rfl⟩ := ran
    · exact tracks.client_keep here ⟨rfl, rfl⟩ ⟨rfl, rfl⟩ leaves
        (fun wants => (Bool.false_ne_true wants).elim) trivial (.keep _ _)
    · exact tracks.client_keep here ⟨rfl, rfl⟩ ⟨rfl, rfl⟩ leaves
        (fun wants => (Bool.false_ne_true wants).elim) trivial (.answer _)

/-- A step of the client that goes on arming the delay. -/
theorem Tracks.arming (tracks : Tracks q systemWq w client p .arming owner) {delay : UInt64}
    {pc pc' : QueueDelayedPc} (here : p.threads t = .queueing delay pc)
    (mine : (Racer.queueing delay pc : Racer Queue Item).stage w = some .arming ∧
      (Racer.queueing delay pc' : Racer Queue Item).stage w = some .arming)
    {change : WorkStruct Queue → WorkStruct Queue} (same : ∀ work,
      (change work).state = work.state ∧ (change work).timersUnstarted = work.timersUnstarted)
    (relies : (Racer.queueing delay pc' : Racer Queue Item).Relies q systemWq
      (change (p.shared.memory.works w))) :
    Follows q systemWq w client p .arming []
      ⟨⟨p.shared.memory.setWork w change, p.shared.locked⟩,
        Function.update p.threads t (.queueing delay pc')⟩ := by
  have quiet : ∀ {pc}, (Racer.queueing delay pc : Racer Queue Item).stage w = some .arming →
      (Racer.queueing delay pc : Racer Queue Item).wants = false ∧
        (Racer.queueing delay pc : Racer Queue Item).owed = false := by
    intro pc has
    cases pc with
    | queueNow pc => cases pc <;> simp [Racer.stage] at has
    | casState | undoGeneration => simp [Racer.stage] at has
    | storeWq | storeExpires | storeActive | incGeneration | create | undoActive | undoState =>
      exact ⟨rfl, rfl⟩
  obtain ⟨owns, -⟩ := tracks.owner_of_stage (here ▸ mine.1)
  have fits : Fits q systemWq w (p.shared.memory.setWork w change) .arming :=
    tracks.fits.setDelay (.inl rfl) (same _).1 (same _).2
  refine tracks.client_move here ⟨rfl, rfl⟩ (.inr owns) fits mine.2 (fun wants => ?_) ?_ ?_
  · rw [(quiet mine.2).1] at wants
    exact (Bool.false_ne_true wants).elim
  · dsimp only
    rw [Memory.setWork_works_self]
    exact relies
  · rw [(quiet mine.1).2, (quiet mine.2).2]
    exact .keep _ _

/-- A step of the client in a call for a delay. -/
theorem Tracks.queueing (tracks : Tracks q systemWq w client p stage owner) {delay : UInt64}
    {pc : QueueDelayedPc} (here : p.threads t = .queueing delay pc) (env : Env)
    {after : Next QueueDelayedPc Bool}
    (ran : queueDelayedWork q w delay env p.shared.memory pc = (m', after)) :
    Follows q systemWq w client p stage
      ((Racer.queueing delay pc).signs q w p.shared.memory (.go env))
      ⟨{ p.shared with memory := m' },
        Function.update p.threads t (after.after (Racer.queueing delay) .client)⟩ := by
  have relied := tracks.relies t
  have asks := tracks.asks t
  have fits := tracks.fits
  rw [here] at relied asks
  by_cases now : ∃ pc', pc = .queueNow pc'
  · obtain ⟨pc', rfl⟩ := now
    exact tracks.queueNow here env ran
  rw [Racer.signs_queueing (fun same => now ⟨_, same⟩) ran]
  have arming : ∀ {s}, (Racer.queueing delay pc : Racer Queue Item).stage w = some s →
      owner = some t ∧ stage = s := by
    intro s has
    exact tracks.owner_of_stage (here ▸ has)
  cases pc with
  | queueNow pc' => exact absurd ⟨pc', rfl⟩ now
  | casState =>
    have rest := asks rfl
    subst rest
    simp only [queueDelayedWork] at ran
    by_cases same : (p.shared.memory.works w).state = ⟨false, false⟩
    · rw [if_pos same] at ran
      obtain ⟨rfl, rfl⟩ := Prod.mk.inj ran
      have claimed : Fits q systemWq w (p.shared.memory.setWork w fun work =>
          { work with state := ⟨true, false⟩ }) .arming := by
        refine fits.setWork ?_ ?_ rfl (fun _ => rfl) fits.unstarted ?_
        · decide
        · decide
        · exact fun scheduled => absurd scheduled (by decide)
      exact tracks.client_move here ⟨rfl, rfl⟩ (.inl (tracks.free.mpr rfl)) claimed rfl
        (fun wants => (Bool.false_ne_true wants).elim) trivial .arm
    · rw [if_neg same] at ran
      obtain ⟨rfl, rfl⟩ := Prod.mk.inj ran
      exact tracks.client_keep here ⟨rfl, rfl⟩ ⟨rfl, rfl⟩ .refl
        (fun wants => (Bool.false_ne_true wants).elim) trivial (.refuse _)
  | storeWq =>
    obtain ⟨owns, rfl⟩ := arming rfl
    obtain ⟨rfl, rfl⟩ := Prod.mk.inj ran
    exact tracks.arming here ⟨rfl, rfl⟩ (fun _ => ⟨rfl, rfl⟩) rfl
  | storeExpires =>
    obtain ⟨owns, rfl⟩ := arming rfl
    obtain ⟨rfl, rfl⟩ := Prod.mk.inj ran
    exact tracks.arming here ⟨rfl, rfl⟩ (fun _ => ⟨rfl, rfl⟩) relied
  | storeActive =>
    obtain ⟨owns, rfl⟩ := arming rfl
    obtain ⟨rfl, rfl⟩ := Prod.mk.inj ran
    exact tracks.arming here ⟨rfl, rfl⟩ (fun _ => ⟨rfl, rfl⟩) ⟨rfl, relied⟩
  | incGeneration =>
    obtain ⟨owns, rfl⟩ := arming rfl
    obtain ⟨rfl, rfl⟩ := Prod.mk.inj ran
    exact tracks.arming here ⟨rfl, rfl⟩ (fun _ => ⟨rfl, rfl⟩) relied
  | create =>
    obtain ⟨owns, rfl⟩ := arming rfl
    simp only [queueDelayedWork] at ran
    by_cases created : env.created = true
    · rw [if_pos created] at ran
      obtain ⟨rfl, rfl⟩ := Prod.mk.inj ran
      have scheduled : Fits q systemWq w (p.shared.memory.setWork w fun work =>
          { work with timersUnstarted := work.timersUnstarted + 1 }) .scheduled := by
        refine fits.setWork ?_ ?_ fits.queued fits.still ?_ fun _ => relied
        · decide
        · decide
        · simp [fits.unstarted]
      exact tracks.client_move here ⟨rfl, rfl⟩ (.inr owns) scheduled rfl
        (fun wants => (Bool.false_ne_true wants).elim) trivial .create
    · rw [if_neg created] at ran
      obtain ⟨rfl, rfl⟩ := Prod.mk.inj ran
      exact tracks.client_move here ⟨rfl, rfl⟩ (.inr owns) fits rfl
        (fun wants => (Bool.false_ne_true wants).elim) trivial (.keep _ _)
  | undoActive =>
    obtain ⟨owns, rfl⟩ := arming rfl
    obtain ⟨rfl, rfl⟩ := Prod.mk.inj ran
    exact tracks.arming here ⟨rfl, rfl⟩ (fun _ => ⟨rfl, rfl⟩) trivial
  | undoState =>
    obtain ⟨owns, rfl⟩ := arming rfl
    obtain ⟨rfl, rfl⟩ := Prod.mk.inj ran
    have given : Fits q systemWq w (p.shared.memory.setWork w fun work =>
        { work with state := ⟨false, false⟩ }) .rest := by
      refine fits.setWork ?_ ?_ rfl (fun _ => rfl) fits.unstarted ?_
      · decide
      · decide
      · exact fun scheduled => absurd scheduled (by decide)
    exact tracks.client_move here ⟨rfl, rfl⟩ (.inr owns) given rfl (fun _ => rfl) trivial .undo
  | undoGeneration =>
    have rest := asks rfl
    subst rest
    obtain ⟨rfl, rfl⟩ := Prod.mk.inj ran
    have counted : Fits q systemWq w (p.shared.memory.setWork w fun work =>
        { work with generation := work.generation + 1 }) .rest := by
      refine fits.setWork ?_ ?_ fits.queued fits.still fits.unstarted fits.scheduled
      · decide
      · decide
    exact tracks.client_move here ⟨rfl, rfl⟩ (.inl (tracks.free.mpr rfl)) counted rfl
      (fun _ => rfl) trivial (.refuse _)

/-- A step of a timer task that waits for its delay and does not change the item. -/
theorem Tracks.waiting (tracks : Tracks q systemWq w client p stage owner)
    {pc pc' : TimerPc Queue} (here : p.threads t = .timer pc)
    (mine : (Racer.timer pc : Racer Queue Item).stage w = some .delayed ∧
      (Racer.timer pc' : Racer Queue Item).stage w = some .delayed)
    (relies : (Racer.timer pc' : Racer Queue Item).Relies q systemWq
      (p.shared.memory.works w)) :
    Follows q systemWq w client p stage []
      ⟨p.shared, Function.update p.threads t (.timer pc')⟩ := by
  obtain ⟨-, rfl⟩ := tracks.owner_of_stage (here ▸ mine.1)
  exact tracks.other_move here ⟨rfl, rfl⟩ (.inr mine.1) tracks.fits mine.2 relies fun _ => .keep _ _

/-- A step of a timer task that has ended its delay. -/
theorem Tracks.asking (tracks : Tracks q systemWq w client p stage owner) {q' : Queue}
    {pc : QueuePc} (here : p.threads t = .timer (.queue q' pc)) (env : Env)
    {after : Next (TimerPc Queue) Unit}
    (ran : delayedWorkWorker systemWq w env p.shared.memory (.queue q' pc) = (m', after)) :
    Follows q systemWq w client p stage
      ((Racer.timer (.queue q' pc)).signs q w p.shared.memory (.go env))
      ⟨{ p.shared with memory := m' },
        Function.update p.threads t (after.after Racer.timer .idle)⟩ := by
  have relied := tracks.relies t
  have fits := tracks.fits
  have asking : ∀ {s}, (Racer.timer (.queue q' pc) : Racer Queue Item).stage w = some s →
      stage = s := fun has => (tracks.owner_of_stage (here ▸ has)).2
  rw [here] at relied
  cases pc with
  | ensure pc =>
    obtain ⟨rfl, rfl⟩ : q' = q ∧ pc = .loadTask := relied
    obtain rfl := asking rfl
    simp only [delayedWorkWorker, queueWork, workqueueEnsureWorker, fits.workerTask, if_true,
      Prod.mk.injEq] at ran
    obtain ⟨rfl, rfl⟩ := ran
    exact tracks.other_move here ⟨rfl, rfl⟩ (.inr rfl) fits rfl rfl fun _ => .keep _ _
  | load =>
    obtain rfl : q' = q := relied
    obtain rfl := asking rfl
    have clear : (p.shared.memory.works w).state.queued = false := fits.queued
    simp only [delayedWorkWorker, queueWork, clear] at ran
    obtain ⟨rfl, rfl⟩ := Prod.mk.inj ran
    exact tracks.other_move here ⟨rfl, rfl⟩ (.inr rfl) fits rfl rfl fun _ => .keep _ _
  | cas running =>
    obtain rfl : q' = q := relied
    obtain rfl := asking rfl
    simp only [delayedWorkWorker, queueWork] at ran
    by_cases same : (p.shared.memory.works w).state = ⟨false, running⟩
    · rw [if_pos same] at ran
      obtain ⟨rfl, rfl⟩ := Prod.mk.inj ran
      have granted : Fits q' systemWq w (p.shared.memory.setWork w fun work =>
          { work with state := ⟨true, running⟩ }) .appending := by
        refine fits.setWork ?_ ?_ rfl ?_ fits.unstarted ?_
        · decide
        · decide
        · exact fun still => absurd still (by decide)
        · exact fun scheduled => absurd scheduled (by decide)
      exact tracks.other_move here ⟨rfl, rfl⟩ (.inr rfl) granted rfl rfl .ask
    · rw [if_neg same] at ran
      obtain ⟨rfl, rfl⟩ := Prod.mk.inj ran
      exact tracks.other_move here ⟨rfl, rfl⟩ (.inr rfl) fits rfl rfl fun _ => .keep _ _
  | append =>
    obtain rfl : q' = q := relied
    obtain rfl := asking rfl
    obtain ⟨rfl, rfl⟩ := Prod.mk.inj ran
    exact tracks.other_move here ⟨rfl, rfl⟩ (.inr rfl) fits.append rfl rfl .append
  | wake pc =>
    obtain rfl : q' = q := relied
    have leaves : Leaves q' systemWq w p.shared.memory (workqueueWake q' p.shared.memory pc).1 :=
      workqueueWake_leaves pc
    rcases woken : workqueueWake q' p.shared.memory pc with ⟨m'', pc' | done⟩ <;>
      rw [woken] at leaves <;>
      simp only [delayedWorkWorker, queueWork, woken, Prod.mk.injEq] at ran <;>
      obtain ⟨rfl, rfl⟩ := ran
    · exact tracks.other_keep here ⟨rfl, rfl⟩ ⟨rfl, rfl⟩ leaves rfl
    · exact tracks.other_keep here ⟨rfl, rfl⟩ ⟨rfl, rfl⟩ leaves trivial

/-- A step of a timer task. -/
theorem Tracks.timer (tracks : Tracks q systemWq w client p stage owner) {pc : TimerPc Queue}
    (here : p.threads t = .timer pc) (env : Env) {after : Next (TimerPc Queue) Unit}
    (ran : delayedWorkWorker systemWq w env p.shared.memory pc = (m', after)) :
    Follows q systemWq w client p stage
      ((Racer.timer pc).signs q w p.shared.memory (.go env))
      ⟨{ p.shared with memory := m' },
        Function.update p.threads t (after.after Racer.timer .idle)⟩ := by
  have relied := tracks.relies t
  have fits := tracks.fits
  rw [here] at relied
  have delayed : (Racer.timer pc : Racer Queue Item).stage w = some .delayed →
      stage = .delayed := fun has => (tracks.owner_of_stage (here ▸ has)).2
  cases pc with
  | loadGeneration =>
    obtain ⟨rfl, rfl⟩ := Prod.mk.inj ran
    exact tracks.waiting here ⟨rfl, rfl⟩ ⟨relied, rfl⟩
  | loadExpires generation =>
    obtain ⟨rfl, rfl⟩ := Prod.mk.inj ran
    exact tracks.waiting here ⟨rfl, rfl⟩ relied
  | loadWq generation expires =>
    obtain ⟨rfl, rfl⟩ := Prod.mk.inj ran
    exact tracks.waiting here ⟨rfl, rfl⟩ relied
  | loopActive vars =>
    simp only [delayedWorkWorker, relied.1.1, if_true] at ran
    obtain ⟨rfl, rfl⟩ := Prod.mk.inj ran
    exact tracks.waiting here ⟨rfl, rfl⟩ relied
  | loopGeneration vars =>
    simp only [delayedWorkWorker, relied.2, if_true] at ran
    obtain ⟨rfl, rfl⟩ := Prod.mk.inj ran
    exact tracks.waiting here ⟨rfl, rfl⟩ relied
  | loopTime vars =>
    simp only [delayedWorkWorker] at ran
    split at ran <;> obtain ⟨rfl, rfl⟩ := Prod.mk.inj ran
    · exact tracks.waiting here ⟨rfl, rfl⟩ relied
    · exact tracks.waiting here ⟨rfl, rfl⟩ relied
  | checkActive vars =>
    simp only [delayedWorkWorker, relied.1.1, if_true] at ran
    obtain ⟨rfl, rfl⟩ := Prod.mk.inj ran
    exact tracks.waiting here ⟨rfl, rfl⟩ relied
  | checkGeneration vars =>
    simp only [delayedWorkWorker, relied.2, if_true] at ran
    obtain ⟨rfl, rfl⟩ := Prod.mk.inj ran
    exact tracks.waiting here ⟨rfl, rfl⟩ relied.1.2
  | reset => exact relied.elim
  | clearActive vars =>
    obtain rfl := delayed rfl
    obtain ⟨rfl, rfl⟩ := Prod.mk.inj ran
    have ended : Fits q systemWq w (p.shared.memory.setWork w fun work =>
        { work with active := false }) .delayed := fits.setDelay (.inr rfl) rfl rfl
    exact tracks.other_move here ⟨rfl, rfl⟩ (.inr rfl) ended rfl relied fun _ => .keep _ _
  | casState vars =>
    obtain rfl := delayed rfl
    have word : (p.shared.memory.works w).state = ⟨true, false⟩ :=
      WorkState.ext fits.queued (fits.still rfl)
    simp only [delayedWorkWorker, word, if_true] at ran
    obtain ⟨rfl, rfl⟩ := Prod.mk.inj ran
    have expired : Fits q systemWq w (p.shared.memory.setWork w fun work =>
        { work with state := ⟨false, false⟩ }) .asking := by
      refine fits.setWork ?_ ?_ rfl (fun _ => rfl) fits.unstarted ?_
      · decide
      · decide
      · exact fun scheduled => absurd scheduled (by decide)
    exact tracks.other_move here ⟨rfl, rfl⟩ (.inr rfl) expired rfl ⟨relied, rfl⟩ .expire
  | queue q' pc => exact tracks.asking here env ran

/-- A timer task that was created begins. -/
theorem Tracks.begin (tracks : Tracks q systemWq w client p stage owner)
    (here : p.threads t = .idle) (created : 0 < (p.shared.memory.works w).timersUnstarted) :
    Follows q systemWq w client p stage []
      ⟨{ p.shared with memory := p.shared.memory.setWork w fun work =>
        { work with timersUnstarted := work.timersUnstarted - 1 } },
        Function.update p.threads t (.timer .loadGeneration)⟩ := by
  have fits := tracks.fits
  obtain rfl : stage = .scheduled := by
    by_contra other
    simp [fits.unstarted, other] at created
  have begun : Fits q systemWq w (p.shared.memory.setWork w fun work =>
      { work with timersUnstarted := work.timersUnstarted - 1 }) .delayed := by
    refine fits.setWork ?_ ?_ fits.queued fits.still ?_ ?_
    · decide
    · decide
    · simp [fits.unstarted]
    · exact fun scheduled => absurd scheduled (by decide)
  refine tracks.other_move here ⟨rfl, rfl⟩ (.inl ⟨tracks.free.mpr rfl, by decide⟩) begun rfl ?_
    .begin
  dsimp only
  rw [Memory.setWork_works_self]
  exact fits.scheduled rfl

/-- A step of the worker that neither takes the item nor turns its `QUEUED` into `RUNNING`. -/
theorem workqueueWorker_leaves {pc pc' : WorkerPc Item} (looks : pc ≠ .pop)
    (outside : ∀ v, pc ≠ .close v) (other : ∀ running, pc ≠ .cas w running)
    (ran : workqueueWorker q m pc = (m', pc')) : Leaves q systemWq w m m' := by
  cases pc with
  | pop => exact absurd rfl looks
  | block =>
    simp only [workqueueWorker] at ran
    split at ran <;> obtain ⟨rfl, -⟩ := Prod.mk.inj ran
    · exact .setQueue ⟨rfl, rfl⟩ rfl
    · exact .refl
  | load v | call v | inFunc v =>
    obtain ⟨rfl, -⟩ := Prod.mk.inj ran
    exact .refl
  | cas v running =>
    have apart : v ≠ w := fun same => other running (by rw [same])
    simp only [workqueueWorker] at ran
    split at ran <;> obtain ⟨rfl, -⟩ := Prod.mk.inj ran
    · exact .setWork v (fun here => absurd here apart) (fun here => absurd here apart)
        (fun here => absurd here apart) fun here => absurd here apart
    · exact .refl
  | setRunning v | clearRunning v =>
    obtain ⟨rfl, -⟩ := Prod.mk.inj ran
    exact .setWork v (fun _ => rfl) (fun here => here ▸ id) (fun _ => ⟨rfl, rfl, rfl⟩)
      fun here => here ▸ id
  | clearState v =>
    obtain ⟨rfl, -⟩ := Prod.mk.inj ran
    exact .setWork v (fun _ => rfl) (fun _ _ => rfl) (fun _ => ⟨rfl, rfl, rfl⟩)
      fun here => here ▸ id
  | close v => exact absurd rfl (outside v)

/-- A step of the worker before its closing section. -/
theorem Tracks.worker (tracks : Tracks q systemWq w client p stage owner) {pc pc' : WorkerPc Item}
    (here : p.threads t = .worker pc) (outside : ∀ v, pc ≠ .close v) (env : Env)
    (ran : workqueueWorker q p.shared.memory pc = (m', pc')) :
    Follows q systemWq w client p stage
      ((Racer.worker pc).signs q w p.shared.memory (.go env))
      ⟨{ p.shared with memory := m' }, Function.update p.threads t (.worker pc')⟩ := by
  have fits := tracks.fits
  have leaves : pc ≠ .pop → (∀ running, pc ≠ .cas w running) →
      Leaves q systemWq w p.shared.memory m' :=
    fun looks other => workqueueWorker_leaves looks outside other ran
  have stages : ∀ {s}, (Racer.worker pc : Racer Queue Item).stage w = some s → stage = s :=
    fun has => (tracks.owner_of_stage (here ▸ has)).2
  cases pc with
  | pop =>
    rcases fits.pop ran with ⟨kept, rfl | ⟨v, apart, rfl⟩⟩ | ⟨rfl, rfl, taken⟩
    · exact tracks.other_keep here ⟨rfl, rfl⟩ ⟨rfl, rfl⟩ kept trivial
    · exact tracks.other_keep here ⟨rfl, rfl⟩ ⟨rfl, if_neg apart⟩ kept trivial
    · exact tracks.other_move here ⟨rfl, rfl⟩ (.inl ⟨tracks.free.mpr rfl, by decide⟩) taken
        (if_pos rfl) trivial .pop
  | block =>
    have kept := leaves (by simp) (by simp)
    simp only [workqueueWorker] at ran
    split at ran <;> obtain ⟨rfl, rfl⟩ := Prod.mk.inj ran
    · exact tracks.other_keep here ⟨rfl, rfl⟩ ⟨rfl, rfl⟩ kept trivial
    · exact tracks.other_keep here ⟨rfl, rfl⟩ ⟨rfl, rfl⟩ kept trivial
  | load v =>
    obtain ⟨rfl, rfl⟩ := Prod.mk.inj ran
    by_cases mine : v = w
    · subst mine
      obtain rfl := stages (if_pos rfl)
      have queued : (p.shared.memory.works v).state.queued = true := fits.queued
      rw [queued, if_pos rfl]
      exact tracks.other_move here ⟨rfl, rfl⟩ (.inr (if_pos rfl)) fits (if_pos rfl) trivial
        fun _ => .keep _ _
    · split
      · exact tracks.other_keep here ⟨rfl, rfl⟩ ⟨if_neg mine, if_neg mine⟩ .refl trivial
      · exact tracks.other_keep here ⟨rfl, rfl⟩ ⟨if_neg mine, rfl⟩ .refl trivial
  | cas v running =>
    by_cases mine : v = w
    · subst mine
      obtain rfl := stages (if_pos rfl)
      simp only [workqueueWorker] at ran
      split at ran <;> obtain ⟨rfl, rfl⟩ := Prod.mk.inj ran
      · have executed : Fits q systemWq v (p.shared.memory.setWork v fun work =>
            { work with state := ⟨false, true⟩ }) .executing := by
          refine fits.setWork ?_ ?_ rfl ?_ fits.unstarted ?_
          · decide
          · decide
          · exact fun still => absurd still (by decide)
          · exact fun scheduled => absurd scheduled (by decide)
        exact tracks.other_move here ⟨rfl, rfl⟩ (.inr (if_pos rfl)) executed (if_pos rfl) trivial
          .execute
      · exact tracks.other_move here ⟨rfl, rfl⟩ (.inr (if_pos rfl)) fits (if_pos rfl) trivial
          fun _ => .keep _ _
    · have kept := leaves (by simp) fun running' same => mine (by simp_all)
      simp only [workqueueWorker] at ran
      split at ran <;> obtain ⟨rfl, rfl⟩ := Prod.mk.inj ran
      · exact tracks.other_keep here ⟨rfl, rfl⟩ ⟨if_neg mine, if_neg mine⟩ kept trivial
      · exact tracks.other_keep here ⟨rfl, rfl⟩ ⟨if_neg mine, if_neg mine⟩ kept trivial
  | setRunning v | call v =>
    have kept := leaves (by simp) (by simp)
    obtain ⟨rfl, rfl⟩ := Prod.mk.inj ran
    by_cases mine : v = w
    · subst mine
      obtain rfl := stages (if_pos rfl)
      exact tracks.other_move here ⟨rfl, rfl⟩ (.inr (if_pos rfl)) (fits.leave kept) (if_pos rfl)
        trivial fun _ => .keep _ _
    · exact tracks.other_keep here ⟨rfl, rfl⟩ ⟨if_neg mine, if_neg mine⟩ kept trivial
  | inFunc v =>
    obtain ⟨rfl, rfl⟩ := Prod.mk.inj ran
    by_cases mine : v = w
    · subst mine
      obtain rfl := stages (if_pos rfl)
      have finished : Fits q systemWq v p.shared.memory .rest := by
        obtain ⟨nodes, repr, member⟩ := fits.list
        refine ⟨⟨nodes, repr, by simpa using member⟩, fits.queued, ?_, fits.workerTask,
          fits.unstarted, ?_⟩
        · exact fun still => absurd still (by decide)
        · exact fun scheduled => absurd scheduled (by decide)
      have noted : (Racer.worker (.inFunc v)).signs q v p.shared.memory (.go env) = [.returned] :=
        if_pos rfl
      rw [noted]
      exact tracks.other_move here ⟨rfl, rfl⟩ (.inr (if_pos rfl)) finished rfl trivial .finish
    · have noted : (Racer.worker (.inFunc v)).signs q w p.shared.memory (.go env) = [] :=
        if_neg mine
      rw [noted]
      exact tracks.other_keep here ⟨rfl, rfl⟩ ⟨if_neg mine, rfl⟩ .refl trivial
  | clearRunning v | clearState v =>
    have kept := leaves (by simp) (by simp)
    obtain ⟨rfl, rfl⟩ := Prod.mk.inj ran
    exact tracks.other_keep here ⟨rfl, rfl⟩ ⟨rfl, rfl⟩ kept trivial
  | close v => exact absurd rfl (outside v)

/-- A task that does not rely on the stored queue does not miss it. -/
theorem Racer.Relies.of_not_arms {work : WorkStruct Queue} (unarmed : racer.arms = false)
    (relies : racer.Relies q systemWq work) :
    racer.Relies q systemWq { work with wq := none } := by
  cases racer with
  | queueing delay pc =>
    cases pc with
    | queueNow pc => cases pc <;> exact relies
    | casState | storeWq | undoActive | undoState | undoGeneration => trivial
    | storeExpires | storeActive | incGeneration | create => simp [Racer.arms] at unarmed
  | timer pc =>
    cases pc with
    | queue q' pc => cases pc <;> exact relies
    | loadGeneration | loadExpires _ | loadWq _ _ => simp [Racer.arms] at unarmed
    | loopActive _ | loopGeneration _ | loopTime _ | checkActive _ | checkGeneration _ | reset
    | clearActive _ | casState _ => exact relies
  | client | worker _ | clearWq _ | unlock | idle => trivial

/-- The worker stores null in `wq` of an item. -/
theorem Tracks.clearWq (tracks : Tracks q systemWq w client p stage owner) {v : Item}
    (here : p.threads t = .clearWq v) (spares : v = w → systemWq = q ∨ ¬p.Armed w) :
    Follows q systemWq w client p stage []
      ⟨{ p.shared with
          memory := p.shared.memory.setWork v fun work => { work with wq := none } },
        Function.update p.threads t .unlock⟩ := by
  have harmless : v ≠ w ∨ systemWq = q → Follows q systemWq w client p stage []
      ⟨{ p.shared with
          memory := p.shared.memory.setWork v fun work => { work with wq := none } },
        Function.update p.threads t .unlock⟩ := by
    intro stands
    have leaves : Leaves q systemWq w p.shared.memory
        (p.shared.memory.setWork v fun work => { work with wq := none }) := by
      refine Leaves.setWork v (fun _ => rfl) ?_ (fun _ => ⟨rfl, rfl, rfl⟩) ?_
      · exact fun same => same ▸ id
      · exact fun same _ => stands.resolve_left fun apart => apart same
    exact tracks.other_keep here ⟨rfl, rfl⟩ ⟨rfl, rfl⟩ leaves trivial
  by_cases same : v = w
  · subst same
    rcases spares rfl with stands | unarmed
    · exact harmless (.inr stands)
    · have other : t ≠ client := fun one => by
        have kind := (tracks.one_client t).mpr one
        simp [here, Racer.isClient] at kind
      let cleared : LockedMemory Queue Item :=
        { p.shared with
          memory := p.shared.memory.setWork v fun work => { work with wq := none } }
      have item : cleared.memory.works v = { p.shared.memory.works v with wq := none } := by
        simp [cleared]
      have fits := tracks.fits
      have kept : Tracks q systemWq v client ⟨cleared, Function.update p.threads t .unlock⟩ stage
          owner := by
        refine tracks.stay ?_ ?_ ?_ ?_ ?_ ?_ ?_
        · refine ⟨fits.list, ?_, ?_, fits.workerTask, ?_, fun scheduled => ?_⟩
          · rw [item]
            exact fits.queued
          · rw [item]
            exact fits.still
          · rw [item]
            exact fits.unstarted
          · have waits := fits.unstarted
            rw [if_pos scheduled] at waits
            exact absurd (.inl (by omega)) unarmed
        · intro u _
          rw [item]
          have idle : (p.threads u).arms = false := by
            by_contra arms
            exact unarmed (.inr ⟨u, by simpa using arms⟩)
          exact (tracks.relies u).of_not_arms idle
        · rw [here]
          rfl
        · rw [here]
          rfl
        · rfl
        · exact fun wants => (Bool.false_ne_true wants).elim
        · trivial
      exact .of_other other kept fun _ => .keep _ _
  · exact harmless (.inl same)

/-- The owner of an item that is in someone's hands is not outside. -/
theorem Tracks.exists_owner (tracks : Tracks q systemWq w client p stage owner)
    (held : stage.free = false) : ∃ t, (p.threads t).stage w = some stage := by
  cases has : owner with
  | none =>
    rw [tracks.free.mp has] at held
    cases held
  | some t => exact ⟨t, by rw [tracks.owned t, if_pos has]⟩

/-- A call that is issued in turn finds the item free to be claimed. -/
theorem Tracks.rest_of_issued (tracks : Tracks q systemWq w client p stage owner)
    {notes : List (Sign Queue)} (tally : Tally q notes stage (p.threads client).owed)
    (here : p.threads t = .client)
    (even : notes.count (.answered true) = notes.count .returned) : stage = .rest := by
  obtain rfl : t = client := (tracks.one_client t).mp (by rw [here]; rfl)
  have returned := tally.returned
  have quiet : (p.threads t).owed.toNat = 0 := by rw [here]; rfl
  have settled : stage.outstanding = 0 := by omega
  cases stage with
  | rest => rfl
  | arming =>
    -- only the client arms the item, and it is outside
    obtain ⟨u, arms⟩ := tracks.exists_owner rfl
    have kind : (p.threads u).isClient = true := by
      revert arms
      cases p.threads u with
      | timer pc =>
        cases pc with
        | queue q' pc => cases pc <;> simp [Racer.stage]
        | _ => simp [Racer.stage]
      | worker pc => cases pc <;> simp [Racer.stage]
      | client | queueing _ _ => exact fun _ => rfl
      | clearWq _ | unlock | idle => simp [Racer.stage]
    obtain rfl := (tracks.one_client u).mp kind
    rw [here] at arms
    cases arms
  | scheduled | delayed | asking | appending | listed | serving | executing =>
    cases settled

/-- Every step keeps track of the item, when calls are issued in turn and the worker spares the
stored queue. -/
theorem Tracks.step {notes : List (Sign Queue)} (tracks : Tracks q systemWq w client p stage owner)
    (tally : Tally q notes stage (p.threads client).owed) {a : Id × Turn}
    {p' : Race Id Queue Item} (issued : Issued (p, notes) a)
    (spares : Spares q systemWq w (p, notes) a)
    (stepped : Pool.step (raceExec q systemWq w) p a = some p') :
    Follows q systemWq w client p stage ((p.threads a.1).signs q w p.shared.memory a.2) p' := by
  obtain ⟨s', next, ran, rfl⟩ := Pool.step_eq_some.mp stepped
  obtain ⟨t, turn⟩ := a
  dsimp only at ran ⊢
  rw [raceExec] at ran
  split at ran
  · cases ran
  unfold raceStep at ran
  cases here : p.threads t with
  | client =>
    rw [here] at ran
    cases turn with
    | call delay =>
      obtain ⟨rfl, rfl⟩ : p.shared = s' ∧ _ = next := by simpa using ran
      exact tracks.call here (tracks.rest_of_issued tally here issued) delay
    | begin | go env => simp at ran
  | queueing delay pc =>
    rw [here] at ran
    cases turn with
    | go env =>
      rcases went : queueDelayedWork q w delay env p.shared.memory pc with ⟨m', after⟩
      have follows := tracks.queueing here env went
      cases after <;>
        simp only [went, Option.some.injEq, Prod.mk.injEq] at ran <;>
        obtain ⟨rfl, rfl⟩ := ran <;>
        exact follows
    | call _ | begin => simp at ran
  | worker pc =>
    rw [here] at ran
    cases turn with
    | go env =>
      by_cases closing : ∃ v, pc = .close v
      · obtain ⟨v, rfl⟩ := closing
        obtain ⟨rfl, rfl⟩ : _ = s' ∧ _ = next := by simpa using ran
        split
        · exact tracks.other_keep here ⟨rfl, rfl⟩ ⟨rfl, rfl⟩ .refl trivial
        · exact tracks.other_keep here ⟨rfl, rfl⟩ ⟨rfl, rfl⟩ .refl trivial
      · have outside : ∀ v, pc ≠ .close v := fun v same => closing ⟨v, same⟩
        rcases went : workqueueWorker q p.shared.memory pc with ⟨m', pc'⟩
        have follows := tracks.worker here outside env went
        cases pc with
        | close v => exact absurd rfl (outside v)
        | pop | block | load _ | cas _ _ | setRunning _ | call _ | inFunc _ | clearRunning _
        | clearState _ =>
          simp only [went, Option.some.injEq, Prod.mk.injEq] at ran
          obtain ⟨rfl, rfl⟩ := ran
          exact follows
    | call _ | begin => simp at ran
  | clearWq v =>
    rw [here] at ran
    cases turn with
    | go env =>
      obtain ⟨rfl, rfl⟩ : _ = s' ∧ _ = next := by simpa using ran
      exact tracks.clearWq here fun same => spares (same ▸ here)
    | call _ | begin => simp at ran
  | unlock =>
    rw [here] at ran
    cases turn with
    | go env =>
      obtain ⟨rfl, rfl⟩ : _ = s' ∧ _ = next := by simpa using ran
      have leaves : Leaves q systemWq w p.shared.memory
          (p.shared.memory.setQueue q fun wq => { wq with active := wq.active - 1 }) :=
        .setQueue ⟨rfl, rfl⟩ rfl
      exact tracks.other_keep here ⟨rfl, rfl⟩ ⟨rfl, rfl⟩ leaves trivial
    | call _ | begin => simp at ran
  | timer pc =>
    rw [here] at ran
    cases turn with
    | go env =>
      rcases went : delayedWorkWorker systemWq w env p.shared.memory pc with ⟨m', after⟩
      have follows := tracks.timer here env went
      cases after <;>
        simp only [went, Option.some.injEq, Prod.mk.injEq] at ran <;>
        obtain ⟨rfl, rfl⟩ := ran <;>
        exact follows
    | call _ | begin => simp at ran
  | idle =>
    rw [here] at ran
    cases turn with
    | begin =>
      obtain ⟨created, rfl, rfl⟩ : 0 < (p.shared.memory.works w).timersUnstarted ∧ _ = s' ∧
          _ = next := by simpa using ran
      exact tracks.begin here created
    | call _ | go env => simp at ran

/-- At first the item is free to be claimed. -/
theorem Race.Begun.tracks (begun : Race.Begun q w p) :
    ∃ client, Tracks q systemWq w client p .rest none ∧
      Tally q [] .rest (p.threads client).owed := by
  obtain ⟨client, worker, outside, looking, idle⟩ := begun.roles
  have known : ∀ t, p.threads t = .client ∧ t = client ∨
      p.threads t = .worker .pop ∧ t ≠ client ∨ p.threads t = .idle ∧ t ≠ client := by
    intro t
    by_cases first : t = client
    · exact .inl ⟨first ▸ outside, first⟩
    · by_cases second : t = worker
      · exact .inr (.inl ⟨second ▸ looking, first⟩)
      · exact .inr (.inr ⟨idle t first second, first⟩)
  obtain ⟨nodes, repr, absent⟩ := begun.others
  have fits : Fits q systemWq w p.shared.memory .rest := by
    refine ⟨⟨nodes, repr, by simpa using absent⟩, ?_, ?_, begun.workerTask, ?_, ?_⟩
    · rw [begun.item]
      rfl
    · exact fun still => absurd still (by decide)
    · rw [begun.item]
      rfl
    · exact fun scheduled => absurd scheduled (by decide)
  refine ⟨client, ⟨fits, fun t => ?_, fun t => ?_, by simp [Stage.free], fun _ _ => rfl,
    fun t => ?_⟩, ?_⟩
  · rcases known t with ⟨here, same⟩ | ⟨here, apart⟩ | ⟨here, apart⟩ <;> rw [here]
    · simp [Racer.isClient, same]
    · simp [Racer.isClient, apart]
    · simp [Racer.isClient, apart]
  · rcases known t with ⟨here, -⟩ | ⟨here, -⟩ | ⟨here, -⟩ <;> rw [here] <;> rfl
  · rcases known t with ⟨here, -⟩ | ⟨here, -⟩ | ⟨here, -⟩ <;> rw [here] <;> trivial
  · rw [outside]
    exact ⟨by simp, rfl, rfl⟩

/-- While the client is outside, an append is to come exactly when a timer task waits. -/
theorem Tracks.waiting_iff (tracks : Tracks q systemWq w client p stage owner)
    (here : p.threads t = .client) : p.Waiting w ↔ stage.waiting = 1 := by
  obtain rfl : t = client := (tracks.one_client t).mp (by rw [here]; rfl)
  have unstarted := tracks.fits.unstarted
  constructor
  · rintro (created | ⟨u, waits⟩)
    · obtain rfl : stage = .scheduled := by
        by_contra other
        simp [unstarted, other] at created
      rfl
    · have later : ∃ s, (p.threads u).stage w = some s ∧ s.waiting = 1 := by
        revert waits
        cases p.threads u with
        | timer pc =>
          cases pc with
          | queue q' pc => cases pc <;> simp [Racer.stage, Racer.waits, Stage.waiting]
          | _ => simp [Racer.stage, Stage.waiting]
        | client | queueing _ _ | worker _ | clearWq _ | unlock | idle => simp [Racer.waits]
      obtain ⟨s, has, waiting⟩ := later
      obtain ⟨-, rfl⟩ := tracks.owner_of_stage has
      exact waiting
  · intro waiting
    by_cases scheduled : stage = .scheduled
    · rw [if_pos scheduled] at unstarted
      exact .inl (by omega)
    · have held : stage.free = false := by
        cases stage <;> simp_all [Stage.waiting, Stage.free]
      obtain ⟨u, has⟩ := tracks.exists_owner held
      refine .inr ⟨u, ?_⟩
      cases racer : p.threads u with
      | timer pc =>
        rw [racer] at has
        cases pc with
        | queue q' pc => cases pc <;> simp_all [Racer.stage, Racer.waits]
        | _ => rfl
      | queueing delay pc =>
        obtain rfl : u = t := (tracks.one_client u).mp (by rw [racer]; rfl)
        rw [here] at racer
        cases racer
      | worker pc =>
        rw [racer] at has
        cases pc with
        | load v | cas v _ | setRunning v | call v | inFunc v =>
          by_cases mine : v = w <;> simp [Racer.stage, mine] at has
          subst has
          cases waiting
        | pop | block | clearRunning _ | clearState _ | close _ => cases has
      | client | clearWq v | unlock | idle =>
        rw [racer] at has
        cases has

/-- The item is delivered while it is kept track of. -/
theorem Tracks.delivered (tracks : Tracks q systemWq w client p stage owner)
    {notes : List (Sign Queue)} (tally : Tally q notes stage (p.threads client).owed) :
    Delivered q w (p, notes) := by
  refine ⟨tally.only, fun t here => ?_⟩
  have waits := tracks.waiting_iff here
  have appended := tally.appended
  obtain rfl : t = client := (tracks.one_client t).mp (by rw [here]; rfl)
  have quiet : (p.threads t).owed.toNat = 0 := by rw [here]; rfl
  have few : stage.waiting = 0 ∨ stage.waiting = 1 := by
    cases stage <;> simp [Stage.waiting]
  dsimp only at waits ⊢
  constructor
  · intro waiting
    have one := waits.mp waiting
    omega
  · intro past
    have none_left : stage.waiting ≠ 1 := fun one => past (waits.mpr one)
    omega

end Parts

/-- In every run in which each call is issued after the execution before it returned, and in which
the worker spares the stored queue, the item is appended to the queue it was given to and to no
other, once for every call that returned true. -/
theorem queue_delayed_work_delivers {q systemWq : Queue} {w : Item}
    {s : Race Id Queue Item × List (Sign Queue)} (reach : (races q systemWq w).Reach
      (fun s a => Issued s a ∧ Spares q systemWq w s a) s) : Delivered q w s := by
  have kept : ∃ client stage owner, Tracks q systemWq w client s.1 stage owner ∧
      Tally q s.2 stage (s.1.threads client).owed := by
    refine reach.invariant (fun s => ∃ client stage owner,
      Tracks q systemWq w client s.1 stage owner ∧
        Tally q s.2 stage (s.1.threads client).owed) ?_ ?_
    · rintro ⟨p, notes⟩ ⟨begun, rfl⟩
      obtain ⟨client, tracks, tally⟩ := begun.tracks
      exact ⟨client, .rest, none, tracks, tally⟩
    · rintro ⟨p, notes⟩ a ⟨p', notes'⟩ ⟨client, stage, owner, tracks, tally⟩
        ⟨issued, spares⟩ stepped
      obtain ⟨moved, rfl⟩ := System.record_step_eq_some.mp stepped
      obtain ⟨stage', owner', tracks', onward⟩ := tracks.step tally issued spares moved
      exact ⟨client, stage', owner', tracks', tally.step onward⟩
  obtain ⟨client, stage, owner, tracks, tally⟩ := kept
  exact tracks.delivered tally

instance [Fintype Id] (w : Item) (p : Race Id Queue Item) : Decidable (p.Armed w) :=
  inferInstanceAs (Decidable (_ ∨ ∃ _, _))

instance (s : Race Id Queue Item × List (Sign Queue)) (a : Id × Turn) : Decidable (Issued s a) :=
  match a with
  | (_, .call _) => inferInstanceAs (Decidable (_ = _))
  | (_, .begin) | (_, .go _) => .isTrue trivial

instance [Fintype Id] (q systemWq : Queue) (w : Item)
    (s : Race Id Queue Item × List (Sign Queue)) (a : Id × Turn) :
    Decidable (Spares q systemWq w s a) :=
  inferInstanceAs (Decidable (_ = _ → _ ∨ ¬Race.Armed w s.1))

/-- A client, a worker and a task that becomes a timer task; the system queue is another queue
and has a worker too. -/
def racing : Race (Fin 3) Bool Unit :=
  ⟨⟨⟨fun _ => { WorkqueueStruct.alloc with workerTask := true }, fun _ => .init true,
    fun _ => none⟩, false⟩,
    fun t => if t = 0 then .client else if t = 1 then .worker .pop else .idle⟩

/-- The tasks have begun. -/
theorem racing_begun : Race.Begun false () racing :=
  ⟨rfl, rfl, ⟨[], LinkedQueue.repr_empty _, List.not_mem_nil⟩, rfl, 0, 1, rfl, rfl, by decide⟩

/-- A number of steps of a task; the timer task reads a later time than the others. -/
def racingSteps (t : Fin 3) (n : Nat) : List (Fin 3 × Turn) :=
  List.replicate n (t, .go ⟨true, if t = 2 then 1 else 0⟩)

/-- The item is queued at once, executed, and queued with a delay after the worker has closed its
round; the timer task appends it to its queue. -/
theorem racing_delivers : ∃ s : Race (Fin 3) Bool Unit × List (Sign Bool),
    s.2 = [.appended false, .answered true, .returned, .answered true, .appended false] ∧
      Delivered false () s := by
  have ran : ((races false true ()).runWith
      (fun s a => Issued s a ∧ Spares false true () s a) (racing, [])
      ((0, .call 0) :: racingSteps 0 6 ++ racingSteps 1 11 ++ (0, .call 1) :: racingSteps 0 6 ++
        (2, .begin) :: racingSteps 2 14)).map Prod.snd =
      some [.appended false, .answered true, .returned, .answered true, .appended false] := by
    decide +kernel
  obtain ⟨s, executed, noted⟩ := Option.map_eq_some_iff.mp ran
  exact ⟨s, noted, queue_delayed_work_delivers
    ⟨(racing, []), ⟨racing_begun, rfl⟩, System.path_of_runWith executed⟩⟩

/-- Without the condition it does not hold. The worker finds the item not `QUEUED`, the client
claims it and stores its queue, and the worker then stores null; the timer task falls back to the
system queue. -/
theorem racing_misdelivers : ¬∀ s : Race (Fin 3) Bool Unit × List (Sign Bool),
    (races false true ()).Reach Issued s → Delivered false () s := by
  intro always
  have ran : ((races false true ()).runWith Issued (racing, [])
      ((0, .call 0) :: racingSteps 0 6 ++ racingSteps 1 9 ++ (0, .call 1) :: racingSteps 0 2 ++
        racingSteps 1 1 ++ racingSteps 0 4 ++ (2, .begin) :: racingSteps 2 14)).map Prod.snd =
      some [.appended true, .answered true, .returned, .answered true, .appended false] := by
    decide +kernel
  obtain ⟨s, executed, noted⟩ := Option.map_eq_some_iff.mp ran
  have delivered := always s
    ⟨(racing, []), ⟨racing_begun, rfl⟩, System.path_of_runWith executed⟩
  have elsewhere := delivered.only true (by rw [noted]; exact List.mem_cons_self)
  exact absurd elsewhere (by decide)

end Lcompat.Workqueue
