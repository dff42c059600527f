import Lcompat.Usb.Tasks

/-!
# Where a URB is

A submitted URB is in exactly one place: held by a task that will pass it on, in the pending
queue of its endpoint, or in flight. The places are a function, so that no URB can be in two
of them. `Shape` relates the memory to the places and to the lists of pending URBs; each
change the modelled functions make moves one URB, and has one lemma here.
-/

namespace Lcompat.Usb

open Lcompat.Logic

/-- Where a URB is. -/
inductive Place (Id : Type) where
  /-- Not submitted. -/
  | out
  /-- In the hands of a task. -/
  | held (t : Id)
  /-- In the pending queue of its endpoint. -/
  | queued
  /-- With the native driver. -/
  | flying

variable {Id U : Type}

/-- The memory agrees with the places of the URBs and the lists of pending URBs. -/
structure Memory.Shape (m : Memory U) (place : U → Place Id) (nodes : Endpoint → List U) :
    Prop where
  /-- A URB that is somewhere is submitted. -/
  submitted : ∀ u, place u ≠ .out → (m.urbs u).submitted = true
  /-- A flying URB has one transfer in flight. -/
  flying : ∀ u, place u = .flying → m.inFlight u = 1
  /-- No other URB has any. -/
  grounded : ∀ u, place u ≠ .flying → m.inFlight u = 0
  /-- The pending queues are the lists. -/
  repr : ∀ e, (m.pending e).Repr (nodes e)
  /-- They hold queued URBs of their endpoint. -/
  queued : ∀ e u, u ∈ nodes e → place u = .queued ∧ (m.states u).queue = some e
  /-- A URB with a queue has its native pipe. -/
  piped : ∀ u, (m.states u).queue ≠ none → (m.states u).nativePipe ≠ none
  /-- And so has a flying one. -/
  flies : ∀ u, place u = .flying → (m.states u).nativePipe ≠ none
  /-- A native pipe is found in an allocated state only. -/
  allocated : ∀ u, (m.states u).nativePipe ≠ none → (m.urbs u).hcpriv = true
  /-- An endpoint with pending URBs is busy. -/
  busy : ∀ e, nodes e ≠ [] → m.pipeBusy e = true

namespace Memory

variable [DecidableEq U]

/-- A change of a URB that keeps `submitted` keeps it for all. -/
theorem setUrb_submitted (m : Memory U) {u : U} {change : Urb → Urb}
    (same : (change (m.urbs u)).submitted = (m.urbs u).submitted) (v : U) :
    ((m.setUrb u change).urbs v).submitted = (m.urbs v).submitted := by
  by_cases here : v = u
  · subst here
    simpa using same
  · simp [here]

/-- Freeing submits nothing. -/
theorem freeUrb_submitted (m : Memory U) (u v : U) :
    ((freeUrb u m).urbs v).submitted = (m.urbs v).submitted := by
  have dropped : ((m.setUrb u fun urb => { urb with refcount := (m.urbs u).refcount - 1 }).urbs
      v).submitted = (m.urbs v).submitted := m.setUrb_submitted rfl v
  simp only [freeUrb]
  split <;> exact dropped

/-- Freeing takes nothing out of flight. -/
theorem freeUrb_inFlight (m : Memory U) (u : U) : (freeUrb u m).inFlight = m.inFlight := by
  simp only [freeUrb]
  split <;> rfl

/-- Freeing leaves the endpoints as busy as they are. -/
theorem freeUrb_pipeBusy (m : Memory U) (u : U) : (freeUrb u m).pipeBusy = m.pipeBusy := by
  simp only [freeUrb]
  split <;> rfl

end Memory

namespace Memory.Shape

variable {m : Memory U} {place : U → Place Id} {nodes : Endpoint → List U}

/-- A URB that is not submitted is nowhere. -/
theorem out (shape : m.Shape place nodes) {u : U} (clear : (m.urbs u).submitted = false) :
    place u = .out := by
  by_contra somewhere
  simp [shape.submitted u somewhere] at clear

/-- A held URB is in no pending queue. -/
theorem not_mem (shape : m.Shape place nodes) {u : U} (here : place u ≠ .queued)
    (e : Endpoint) : u ∉ nodes e :=
  fun member => here (shape.queued e u member).1

/-- A pending queue is empty exactly when its head is null. -/
theorem head_eq_none_iff (shape : m.Shape place nodes) (e : Endpoint) :
    m.pendingHead e = none ↔ nodes e = [] :=
  (shape.repr e).head_eq_none_iff

variable [DecidableEq U]

/-- A change of a URB that keeps `submitted` and does not clear `hcpriv`. -/
theorem setUrb (shape : m.Shape place nodes) (u : U) {change : Urb → Urb}
    (submitted : (change (m.urbs u)).submitted = (m.urbs u).submitted)
    (hcpriv : (m.urbs u).hcpriv = true → (change (m.urbs u)).hcpriv = true) :
    (m.setUrb u change).Shape place nodes := by
  refine ⟨fun v => ?_, shape.flying, shape.grounded, shape.repr, shape.queued, shape.piped,
    shape.flies, fun v => ?_, shape.busy⟩
  · by_cases same : v = u
    · subst same
      simpa [submitted] using shape.submitted v
    · simpa [same] using shape.submitted v
  · by_cases same : v = u
    · subst same
      simpa using fun piped => hcpriv (shape.allocated v piped)
    · simpa [same] using shape.allocated v

/-- A change of a private state that keeps its queue and its native pipe. -/
theorem setState (shape : m.Shape place nodes) (u : U) {change : UrbState → UrbState}
    (queue : (change (m.states u)).queue = (m.states u).queue)
    (pipe : (change (m.states u)).nativePipe = (m.states u).nativePipe) :
    (m.setState u change).Shape place nodes := by
  have queues : ∀ v, ((m.setState u change).states v).queue = (m.states v).queue := by
    intro v
    by_cases same : v = u
    · subst same
      simpa using queue
    · simp [same]
  have pipes : ∀ v, ((m.setState u change).states v).nativePipe = (m.states v).nativePipe := by
    intro v
    by_cases same : v = u
    · subst same
      simpa using pipe
    · simp [same]
  refine ⟨shape.submitted, shape.flying, shape.grounded, shape.repr, fun e v member => ?_,
    fun v => ?_, fun v => ?_, fun v => ?_, shape.busy⟩
  · rw [queues]
    exact shape.queued e v member
  · rw [queues, pipes]
    exact shape.piped v
  · rw [pipes]
    exact shape.flies v
  · rw [pipes]
    exact shape.allocated v

omit [DecidableEq U] in
/-- The history is not looked at. -/
theorem history (shape : m.Shape place nodes) (quiesced : U → Bool) (released : U → Nat) :
    ({ m with quiesced := quiesced, released := released }).Shape place nodes :=
  ⟨shape.submitted, shape.flying, shape.grounded, shape.repr, shape.queued, shape.piped,
    shape.flies, shape.allocated, shape.busy⟩

/-- A URB that is neither pending nor in flight, before and after, changes hands. -/
theorem move (shape : m.Shape place nodes) {u : U} {x : Place Id}
    (here : place u ≠ .queued ∧ place u ≠ .flying) (there : x ≠ .queued ∧ x ≠ .flying)
    {change : Urb → Urb} (submitted : x ≠ .out → (change (m.urbs u)).submitted = true)
    (hcpriv : (change (m.urbs u)).hcpriv = (m.urbs u).hcpriv) :
    (m.setUrb u change).Shape (Function.update place u x) nodes := by
  have grounded : ∀ v, Function.update place u x v = .flying → place v = .flying := by
    intro v flying
    by_cases same : v = u
    · subst same
      rw [Function.update_self] at flying
      exact absurd flying there.2
    · rwa [Function.update_of_ne same] at flying
  refine ⟨fun v => ?_, fun v flying => shape.flying v (grounded v flying), fun v => ?_,
    shape.repr, fun e v member => ?_, shape.piped,
    fun v flying => shape.flies v (grounded v flying), fun v => ?_, shape.busy⟩
  · by_cases same : v = u
    · subst same
      simpa using submitted
    · simpa [same] using shape.submitted v
  · by_cases same : v = u
    · subst same
      exact fun _ => shape.grounded v here.2
    · simpa [same] using shape.grounded v
  · have apart : v ≠ u := fun same => here.1 (same ▸ (shape.queued e v member).1)
    rw [Function.update_of_ne apart]
    exact shape.queued e v member
  · by_cases same : v = u
    · subst same
      simpa [hcpriv] using shape.allocated v
    · simpa [same] using shape.allocated v

/-- A held URB goes into flight. -/
theorem fly (shape : m.Shape place nodes) {u : U} {t : Id} (here : place u = .held t)
    (pipe : (m.states u).nativePipe ≠ none) :
    (m.setInFlight u (· + 1)).Shape (Function.update place u .flying) nodes := by
  refine ⟨fun v => ?_, fun v => ?_, fun v => ?_, shape.repr, fun e v member => ?_, shape.piped,
    fun v => ?_, shape.allocated, shape.busy⟩
  · by_cases same : v = u
    · subst same
      exact fun _ => shape.submitted v (by simp [here])
    · simpa [same] using shape.submitted v
  · by_cases same : v = u
    · subst same
      simp [shape.grounded v (by simp [here])]
    · simpa [same] using shape.flying v
  · by_cases same : v = u
    · simp [same]
    · simpa [same] using shape.grounded v
  · have apart : v ≠ u := fun same => by simp [← same, (shape.queued e v member).1] at here
    rw [Function.update_of_ne apart]
    exact shape.queued e v member
  · by_cases same : v = u
    · exact fun _ => same ▸ pipe
    · simpa [same] using shape.flies v

/-- A flying URB is taken by a task. -/
theorem land (shape : m.Shape place nodes) {u : U} {t : Id} (here : place u = .flying) :
    (m.setInFlight u (· - 1)).Shape (Function.update place u (.held t)) nodes := by
  refine ⟨fun v => ?_, fun v => ?_, fun v => ?_, shape.repr, fun e v member => ?_, shape.piped,
    fun v => ?_, shape.allocated, shape.busy⟩
  · by_cases same : v = u
    · subst same
      exact fun _ => shape.submitted v (by simp [here])
    · simpa [same] using shape.submitted v
  · by_cases same : v = u
    · simp [same]
    · simpa [same] using shape.flying v
  · by_cases same : v = u
    · subst same
      simp [shape.flying v here]
    · simpa [same] using shape.grounded v
  · have apart : v ≠ u := fun same => by simp [← same, (shape.queued e v member).1] at here
    rw [Function.update_of_ne apart]
    exact shape.queued e v member
  · by_cases same : v = u
    · simp [same]
    · simpa [same] using shape.flies v

omit [DecidableEq U] in
/-- An endpoint becomes busy, or becomes idle with nothing pending. -/
theorem setBusy (shape : m.Shape place nodes) (e : Endpoint) {busy : Bool}
    (idle : busy = false → nodes e = []) : (m.setBusy e busy).Shape place nodes := by
  refine ⟨shape.submitted, shape.flying, shape.grounded, shape.repr, shape.queued, shape.piped,
    shape.flies, shape.allocated, fun f pending => ?_⟩
  by_cases same : f = e
  · subst same
    cases busy with
    | true => simp
    | false => exact absurd (idle rfl) pending
  · simpa [same] using shape.busy f pending

/-- The link of a URB that is not pending is reset. -/
theorem resetLink (shape : m.Shape place nodes) {u : U} (here : place u ≠ .queued) :
    ({ m with pendingNext := Function.update m.pendingNext u none }).Shape place nodes := by
  refine ⟨shape.submitted, shape.flying, shape.grounded, fun e => ?_, shape.queued, shape.piped,
    shape.flies, shape.allocated, shape.busy⟩
  refine (shape.repr e).frame fun v member => Function.update_of_ne ?_ ..
  exact fun same => shape.not_mem here e (same ▸ member)

omit [DecidableEq U] in
/-- A queue keeps its URBs when the queue of another endpoint is written back with new links
for that endpoint's URBs only. -/
theorem repr_setPending (shape : m.Shape place nodes) {e f : Endpoint} (apart : f ≠ e)
    {q : LinkedQueue U} (links : ∀ v ∈ nodes f, q.next v = m.pendingNext v) :
    ((m.setPending e q).pending f).Repr (nodes f) := by
  have repr := (shape.repr f).frame links
  simpa [pending, apart] using repr

/-- A held URB is appended to the pending queue of its busy endpoint. -/
theorem append (shape : m.Shape place nodes) {u : U} {t : Id} {e : Endpoint}
    (here : place u = .held t) (queue : (m.states u).queue = some e)
    (busy : m.pipeBusy e = true) :
    (queueAppend e u m).Shape (Function.update place u .queued)
      (Function.update nodes e (nodes e ++ [u])) := by
  have fresh : ∀ f, u ∉ nodes f := shape.not_mem (by simp [here])
  have marked : (m.setState u fun state => { state with queued := true }).Shape place nodes :=
    shape.setState u rfl rfl
  refine ⟨fun v => ?_, fun v => ?_, fun v => ?_, fun f => ?_, fun f v member => ?_,
    marked.piped, fun v => ?_, marked.allocated, fun f => ?_⟩
  · by_cases same : v = u
    · subst same
      exact fun _ => shape.submitted v (by simp [here])
    · simpa [same, queueAppend] using shape.submitted v
  · by_cases same : v = u
    · simp [same]
    · simpa [same, queueAppend] using shape.flying v
  · by_cases same : v = u
    · subst same
      exact fun _ => shape.grounded v (by simp [here])
    · simpa [same, queueAppend] using shape.grounded v
  · by_cases same : f = e
    · subst same
      simpa [queueAppend, pending] using (shape.repr f).append (fresh f)
    · rw [Function.update_of_ne same]
      refine marked.repr_setPending same fun v member => ?_
      refine LinkedQueue.append_next_of_ne (fun new => fresh f (new ▸ member)) fun last => ?_
      have tail : v ∈ nodes e := List.mem_of_getLast? ((shape.repr e).tail_last ▸ last)
      have other := (shape.queued e v tail).2.symm.trans (shape.queued f v member).2
      exact same (Option.some.inj other).symm
  · have before : v = u ∧ f = e ∨ v ∈ nodes f := by
      by_cases same : f = e
      · subst same
        rw [Function.update_self, List.mem_append, List.mem_singleton] at member
        exact member.elim .inr fun new => .inl ⟨new, rfl⟩
      · rw [Function.update_of_ne same] at member
        exact .inr member
    rcases before with ⟨rfl, rfl⟩ | member
    · simpa [queueAppend] using queue
    · have apart : v ≠ u := fun new => fresh f (new ▸ member)
      simpa [queueAppend, apart] using shape.queued f v member
  · by_cases same : v = u
    · simp [same]
    · simpa [same, queueAppend] using shape.flies v
  · by_cases same : f = e
    · exact fun _ => same ▸ busy
    · simpa [same, queueAppend] using shape.busy f

/-- Nothing is popped from an empty pending queue. -/
theorem pop_nil (shape : m.Shape place nodes) {e : Endpoint} (empty : nodes e = []) :
    queuePop e m = (m, none) := by
  simp [queuePop, (shape.head_eq_none_iff e).mpr empty]

/-- A task takes the first pending URB of an endpoint. -/
theorem pop_cons (shape : m.Shape place nodes) {e : Endpoint} {u : U} {rest : List U} (t : Id)
    (first : nodes e = u :: rest) :
    (queuePop e m).2 = some u ∧
      (queuePop e m).1.Shape (Function.update place u (.held t))
        (Function.update nodes e rest) := by
  have member : u ∈ nodes e := by simp [first]
  obtain ⟨here, queue⟩ := shape.queued e u member
  have repr := shape.repr e
  rw [first] at repr
  have head : m.pendingHead e = some u := repr.chain.1
  have popped := repr.pop_cons.2
  have inRest : ∀ v ∈ rest, v ∈ nodes e := fun v later => by simp [first, later]
  have apart : u ∉ rest := (List.nodup_cons.mp repr.nodup).1
  have elsewhere : ∀ f, f ≠ e → u ∉ nodes f := fun f other found =>
    other (Option.some.inj ((shape.queued f u found).2.symm.trans queue))
  refine ⟨by simp [queuePop, head], ?_⟩
  have unmarked : ∀ m' : Memory U, m'.Shape (Function.update place u (.held t))
      (Function.update nodes e rest) → (m'.setState u fun state =>
        { state with queued := false }).Shape (Function.update place u (.held t))
          (Function.update nodes e rest) := fun m' shape' => shape'.setState u rfl rfl
  simp only [queuePop, head]
  refine unmarked _ ⟨fun v => ?_, fun v => ?_, fun v => ?_, fun f => ?_, fun f v later => ?_,
    shape.piped, fun v => ?_, shape.allocated, fun f => ?_⟩
  · by_cases same : v = u
    · subst same
      exact fun _ => shape.submitted v (by simp [here])
    · simpa [same] using shape.submitted v
  · by_cases same : v = u
    · simp [same]
    · simpa [same] using shape.flying v
  · by_cases same : v = u
    · subst same
      exact fun _ => shape.grounded v (by simp [here])
    · simpa [same] using shape.grounded v
  · by_cases same : f = e
    · subst same
      simpa [pending] using popped
    · rw [Function.update_of_ne same]
      refine shape.repr_setPending same fun v found => LinkedQueue.pop_next_of_ne ?_
      intro second
      obtain rfl : u = v := Option.some.inj (head.symm.trans second)
      exact elsewhere f same found
  · have before : v ∈ nodes f := by
      by_cases same : f = e
      · subst same
        rw [Function.update_self] at later
        exact inRest v later
      · rwa [Function.update_of_ne same] at later
    have notFirst : v ≠ u := by
      rintro rfl
      by_cases same : f = e
      · subst same
        rw [Function.update_self] at later
        exact apart later
      · exact elsewhere f same before
    simpa [notFirst] using shape.queued f v before
  · by_cases same : v = u
    · simp [same]
    · simpa [same] using shape.flies v
  · by_cases same : f = e
    · subst same
      exact fun _ => shape.busy f (by simp [first])
    · simpa [same] using shape.busy f

/-- The private state of an unallocated URB is allocated. -/
theorem allocate (shape : m.Shape place nodes) {u : U} (missing : (m.urbs u).hcpriv = false) :
    ((m.setState u fun _ => .zero).setUrb u fun urb => { urb with hcpriv := true }).Shape
      place nodes := by
  have pipe : (m.states u).nativePipe = none := by
    by_contra piped
    simp [shape.allocated u piped] at missing
  have queue : (m.states u).queue = none := by
    by_contra queued
    exact shape.piped u queued pipe
  exact (shape.setState u queue.symm pipe.symm).setUrb u rfl fun _ => rfl

/-- A URB that is nowhere gets its native pipe, and with it its queue. -/
theorem setPipe (shape : m.Shape place nodes) {u : U} (here : place u = .out)
    (allocated : (m.urbs u).hcpriv = true) {state : UrbState} (pipe : state.nativePipe ≠ none)
    (pipes : Endpoint → Option UsbPipe) :
    ({ m.setState u (fun _ => state) with nativePipes := pipes }).Shape place nodes := by
  refine ⟨shape.submitted, shape.flying, shape.grounded, shape.repr, fun e v member => ?_,
    fun v => ?_, fun v => ?_, fun v => ?_, shape.busy⟩
  · have apart : v ≠ u := fun same => by simp [← same, (shape.queued e v member).1] at here
    simpa [apart] using shape.queued e v member
  · by_cases same : v = u
    · subst same
      simpa using fun _ => pipe
    · simpa [same] using shape.piped v
  · by_cases same : v = u
    · simp [same, here]
    · simpa [same] using shape.flies v
  · by_cases same : v = u
    · simp [same, allocated]
    · simpa [same] using shape.allocated v

/-- Freeing moves nothing. -/
theorem freeUrb (shape : m.Shape place nodes) (u : U) : (freeUrb u m).Shape place nodes := by
  have dropped : (m.setUrb u fun urb =>
      { urb with refcount := (m.urbs u).refcount - 1 }).Shape place nodes :=
    shape.setUrb u rfl id
  simp only [Usb.freeUrb]
  split
  · exact dropped.history _ _
  · exact dropped

end Memory.Shape

/-- A private state that is where another one is. -/
structure UrbState.Alike (state state' : UrbState) : Prop where
  /-- It has the queue. -/
  queue : state'.queue = state.queue
  /-- It has the native pipe. -/
  pipe : state'.nativePipe = state.nativePipe
  /-- It is pending if the other one is. -/
  queued : state'.queued = state.queued

/-- Two changes that leave a private state where it is. -/
theorem UrbState.Alike.trans {state state' state'' : UrbState} (first : state.Alike state')
    (second : state'.Alike state'') : state.Alike state'' :=
  ⟨second.queue.trans first.queue, second.pipe.trans first.pipe,
    second.queued.trans first.queued⟩

/-- A URB that differs from another one in its data only. -/
structure Urb.Alike (urb urb' : Urb) : Prop where
  /-- It is submitted if the other one is. -/
  submitted : urb'.submitted = urb.submitted
  /-- It has a private state if the other one has. -/
  hcpriv : urb'.hcpriv = urb.hcpriv
  /-- It is for the same pipe. -/
  pipe : urb'.pipe = urb.pipe
  /-- It has as many references. -/
  refcount : urb'.refcount = urb.refcount

variable [DecidableEq U] {bus : Bus}

/-- The pipe lookup changes nothing, or it gives its native pipe to a URB that has none. -/
theorem getNativePipe_cases (bus : Bus) (dev : UsbDevice) (pipe : BitVec 32) (u : U) (env : Env)
    (m : Memory U) :
    (getNativePipe bus dev pipe u env m).1 = m ∨
      (m.states u).nativePipe = none ∧ pipeType pipe ≠ 0 ∧ ∃ state pipes,
        state.nativePipe ≠ none ∧
          (getNativePipe bus dev pipe u env m).1 =
            { m.setState u (fun _ => state) with nativePipes := pipes } ∧
          state.queued = (m.states u).queued := by
  unfold getNativePipe
  split
  · exact .inl rfl
  · split
    · exact .inl rfl
    · rename_i other
      split
      · exact .inl rfl
      · rename_i missing
        split
        · split
          · exact .inr ⟨missing, other, _, m.nativePipes, by simp, rfl, rfl⟩
          · split
            · exact .inl rfl
            · exact .inr ⟨missing, other, _, _, by simp, rfl, rfl⟩
        · split
          · exact .inl rfl
          · exact .inr ⟨missing, other, _, m.nativePipes, by simp, rfl, rfl⟩

/-- Preparing the buffer leaves the state where it is, and an error is negative. -/
theorem prepareUrbBuffer_spec (urb : Urb) (state : UrbState) (reallocated : Bool) :
    state.Alike (prepareUrbBuffer urb state reallocated).1 ∧
      ∀ ret, (prepareUrbBuffer urb state reallocated).2 = .error ret → ret < 0 := by
  refine ⟨⟨?_, ?_, ?_⟩, ?_⟩ <;> unfold prepareUrbBuffer <;> grind -ring -linarith [EINVAL, ENOMEM]

/-- A native submission of a URB is in flight when it is accepted, and is refused with a
negative result; it leaves the private state where it is. -/
theorem submitNativeUrb_cases (u : U) (len : Int) (env : Env) (m : Memory U) :
    ∃ state : UrbState, (m.states u).Alike state ∧
      ((submitNativeUrb u len env m =
          ((m.setState u fun _ => state).setInFlight u (· + 1), 0) ∧
        (m.states u).nativePipe ≠ none) ∨
        ∃ ret < 0, submitNativeUrb u len env m = (m.setState u fun _ => state, ret)) := by
  unfold submitNativeUrb
  split
  · refine ⟨m.states u, ⟨rfl, rfl, rfl⟩, .inr ⟨-EINVAL, by decide, ?_⟩⟩
    simp
  · rename_i piped
    refine ⟨{ m.states u with submittedLength := len }, ⟨rfl, rfl, rfl⟩, ?_⟩
    dsimp only
    split
    · exact .inl ⟨rfl, piped⟩
    · exact .inr ⟨_, by omega, rfl⟩

/-- So does a submission of its own buffer. -/
theorem prepareAndSubmit_cases (u : U) (env : Env) (m : Memory U) :
    ∃ state : UrbState, (m.states u).Alike state ∧
      ((prepareAndSubmit u env m = ((m.setState u fun _ => state).setInFlight u (· + 1), 0) ∧
          (m.states u).nativePipe ≠ none) ∨
        ∃ ret < 0, prepareAndSubmit u env m = (m.setState u fun _ => state, ret)) := by
  obtain ⟨alike, negative⟩ := prepareUrbBuffer_spec (m.urbs u) (m.states u) env.allocated
  unfold prepareAndSubmit
  split
  · rename_i state ret failed
    rw [failed] at alike negative
    exact ⟨state, alike, .inr ⟨ret, negative ret rfl, rfl⟩⟩
  · rename_i prepared len ready
    rw [ready] at alike
    obtain ⟨state, alike', outcome⟩ :=
      submitNativeUrb_cases u len env (m.setState u fun _ => prepared)
    have again : (m.setState u fun _ => prepared).setState u (fun _ => state) =
        m.setState u fun _ => state := by simp
    have here : (m.setState u fun _ => prepared).states u = prepared := by simp
    rw [again, here] at outcome
    rw [here] at alike'
    refine ⟨state, alike.trans alike', ?_⟩
    rwa [← alike.pipe]

/-- What a pop leaves alone. -/
theorem queuePop_frame (e : Endpoint) (m : Memory U) :
    (queuePop e m).1.urbs = m.urbs ∧ (queuePop e m).1.inFlight = m.inFlight ∧
      (queuePop e m).1.pipeBusy = m.pipeBusy ∧
      ∀ u, ((queuePop e m).1.states u).queue = (m.states u).queue ∧
        ((queuePop e m).1.states u).nativePipe = (m.states u).nativePipe := by
  unfold queuePop
  split
  · exact ⟨rfl, rfl, rfl, fun _ => ⟨rfl, rfl⟩⟩
  · rename_i v _
    refine ⟨rfl, rfl, rfl, fun u => ?_⟩
    by_cases same : u = v <;> simp [same]

/-- The first step of a completion of a submitted URB goes on with the continuation or the copy,
and changes data in its private state at most. -/
theorem urbComplete_check_cases (bus : Bus) (u : U) (env : Env) {m : Memory U}
    (submitted : (m.urbs u).submitted = true) (status actual : Int) :
    ∃ state next, (m.states u).Alike state ∧
      ((∃ actual, next = .zlp actual) ∨ ∃ mapped actual, next = .copy mapped actual) ∧
      urbComplete bus u env m (.check status actual) =
        (m.setState u fun _ => state, .goto next) := by
  have same : m.setState u (fun _ => m.states u) = m := by simp
  simp only [urbComplete, submitted, Bool.not_true, Bool.false_eq_true, if_false]
  -- which clamping of status and length was made does not matter here
  generalize (if urbStatus bus.codes status = 0 ∧ (m.states u).submittedLength < actual
    then -EOVERFLOW else urbStatus bus.codes status) = mapped
  generalize (if urbStatus bus.codes status = 0 ∧ (m.states u).submittedLength < actual
    then (m.states u).submittedLength else actual) = clamped
  split
  · exact ⟨{ m.states u with zlpPending := false }, _, ⟨rfl, rfl, rfl⟩, .inr ⟨_, _, rfl⟩, rfl⟩
  · split
    · exact ⟨{ m.states u with completedLength := clamped, zlpPending := true }, _,
        ⟨rfl, rfl, rfl⟩, .inl ⟨_, rfl⟩, rfl⟩
    · exact ⟨m.states u, _, ⟨rfl, rfl, rfl⟩, .inr ⟨_, _, rfl⟩, by rw [same]⟩

/-- Taking a transfer out of flight writes received data and nothing else. -/
theorem deliver_cases (u : U) (data : List UInt8) (m : Memory U) :
    ∃ urb state, (m.urbs u).Alike urb ∧ (m.states u).Alike state ∧
      deliver u data m =
        ((m.setInFlight u (· - 1)).setState u fun _ => state).setUrb u fun _ => urb := by
  have sameState : (m.setInFlight u (· - 1)).setState u (fun _ => m.states u) =
      m.setInFlight u (· - 1) := by simp
  have sameUrb : ∀ m' : Memory U, m'.setUrb u (fun _ => m'.urbs u) = m' := fun _ => by simp
  have urbAlike : (m.urbs u).Alike (m.urbs u) := ⟨rfl, rfl, rfl, rfl⟩
  simp only [deliver]
  split
  · split
    · refine ⟨m.urbs u, _, urbAlike, ⟨?_, ?_, ?_⟩, (sameUrb _).symm⟩ <;> rfl
    · let received := (m.urbs u).transferBuffer.map
        (overwrite · (data.take (m.states u).submittedLength.toNat))
      refine ⟨{ m.urbs u with transferBuffer := received }, m.states u, ⟨rfl, rfl, rfl, rfl⟩,
        ⟨rfl, rfl, rfl⟩, ?_⟩
      rw [sameState]
      rfl
  · refine ⟨m.urbs u, m.states u, urbAlike, ⟨rfl, rfl, rfl⟩, ?_⟩
    rw [sameState]
    exact (sameUrb _).symm

end Lcompat.Usb
