import LifecycleMgr.Announcements
import LifecycleMgr.Views

/-!
The handlers of the applications beside the threads of the server. A report is queued
once for each handler that is registered, and the event loop delivers what is queued in
order, unless the handler has been removed by then. That much is assumed of `le_event`,
which is not part of the repository. A handler is passed the static record
and not the payload, so it may miss a state that was reported; but whatever the
interleaving, once everything queued for it is delivered, it has been told the current
power state (`handler_current`), as long as no registration on Legato is refused for its
name.
-/
namespace LifecycleMgr
open Runs

/-- The threads of the server; the handlers with the references they were given; the next reference; and what the
    event loop has not delivered yet, with the reference of the handler it is for. -/
structure Deliveries where
  server : Pausing
  handlers : List (Nat × LayeredHandler)
  nextRef : Nat
  queue : List (Nat × BroadcastInfoPlus)

inductive DeliveryStep
  | server (i : PausingAction)
  | lifecycle_AddELifeCycleHandler (handlerPtr contextPtr : Option Nat)
  | lifecycle_RemoveELifeCycleHandler (handlerRef : Nat)
  | dispatch
  deriving DecidableEq

inductive DeliveryOutput
  | server (o : Output)
  | loop (handlerRef : Nat) (o : LoopOutput)
  deriving DecidableEq

/-- The handler that a reference stands for. -/
def Deliveries.handler (s : Deliveries) (handlerRef : Nat) : Option LayeredHandler :=
  (s.handlers.find? (fun h => h.1 = handlerRef)).map Prod.snd

/-- What a report queues: its payload, for each of the handlers. -/
def queued (handlers : List (Nat × LayeredHandler)) (outputs : List Output) : List (Nat × BroadcastInfoPlus) :=
  (payloads outputs).flatMap (fun payload => handlers.map (fun h => (h.1,payload)))

def deliveryStep (p : Platform) (s : Deliveries) : DeliveryStep → Deliveries × List DeliveryOutput
  | .server i =>
    let taken := pausingStep p s.server i
    ({ s with server := taken.1, queue := s.queue ++ queued s.handlers taken.2 },taken.2.map .server)
  | .lifecycle_AddELifeCycleHandler handlerPtr contextPtr =>
    match (lifecycleAddELifeCycleHandler ⟨s.server.threads.manager,none,[]⟩ handlerPtr contextPtr).handler with
    | some h => ({ s with handlers := s.handlers ++ [(s.nextRef,h)], nextRef := s.nextRef + 1 },[])
    | none => (s,[])
  | .lifecycle_RemoveELifeCycleHandler handlerRef =>
    ({ s with handlers := s.handlers.filter (fun h => h.1 ≠ handlerRef) },[])
  | .dispatch =>
    match s.queue with
    | [] => (s,[])
    | (handlerRef,pData) :: rest =>
      ({ s with queue := rest },
        (onLifeCycleEvent s.server.threads.manager (some pData) (s.handler handlerRef)).map (.loop handlerRef))

/-- The server and the event loop under all interleavings. -/
def deliveries (p : Platform) : Machine Deliveries DeliveryStep DeliveryOutput := ⟨deliveryStep p⟩

/-- No operation has begun and no handler is registered. -/
def Deliveries.started (p : Platform) (info : AdditionalLifecycleStateInfo) (created : Bool) : Deliveries where
  server := .started p info created
  handlers := []
  nextRef := 0
  queue := []

/-- Any operation but a registration of a name of padding only, which is answered without the power state. -/
def Op.NamesClient (p : Platform) : Op → Prop
  | .dbus (.LC_RegisterClient name) => cleanClientName p.charSigned name ≠ []
  | .legato (.lifecycle_RegisterClient name) => cleanClientName p.charSigned (cString name) ≠ []
  | _ => True

/-- Any step but a registration of a name of padding only. -/
def DeliveryStep.NamesClient (p : Platform) : DeliveryStep → Prop
  | .server (.take (.call c)) => c.op.NamesClient p
  | _ => True

/-- The power state that an output tells a handler. -/
def toldTo (handlerRef : Nat) : DeliveryOutput → Option LeState
  | .loop ref (.called _ record _) => if ref = handlerRef then some record.lcState else none
  | _ => none

/-- All interleavings, with the power state that a handler was told last. -/
def withHandlerTold (p : Platform) (handlerRef : Nat) :
    Machine (Deliveries × Option LeState) DeliveryStep DeliveryOutput :=
  (deliveries p).observe (fun told s i => (((deliveries p).out s i).filterMap (toldTo handlerRef)).getLast?.or told)

/-- Outside a pause, a handler that is registered and has been told a state has been told the current one, once
    everything queued for it is delivered. -/
def HandlerCurrent (handlerRef : Nat) (x : Deliveries × Option LeState) : Prop :=
  x.1.server.pausing = false → (∃ h ∈ x.1.handlers, h.1 = handlerRef) → (∀ e ∈ x.1.queue, e.1 ≠ handlerRef) →
    ∀ leState, x.2 = some leState → leState = leStateOf x.1.server.threads.manager.nadLifecycleState

section
variable (p : Platform) {s : Threads}

/-- An operation that does not broadcast leaves the state, and the record as it was or with this state. -/
private theorem quiet_shows {m : Manager} (ready : m.noTCUPowerMode = true) {c : Call} (named : c.op.NamesClient p)
    (quiet : broadcastOf m c.op = none) (shows : Shows m) : Shows ((manager p).next m c) := by
  obtain ⟨_,clients,next⟩ := step_quiet p ready quiet
  rw [next]
  show (quietRecord p m c.op).lcState = leStateOf m.nadLifecycleState
  obtain ⟨op,env⟩ := c
  cases op with
  | legato request =>
    cases request with
    | lifecycle_RegisterClient name => exact congrArg leStateOf (register_state named)
    | _ => exact shows
  | _ => exact shows

private theorem broadcast_shows {m : Manager} (ready : m.noTCUPowerMode = true) (created : m.lifecycleStateEvent = true)
    {c : Call} {broadcast : LCState × AdditionalLifecycleStateInfo} (broadcasts : broadcastOf m c.op = some broadcast) :
    Shows ((manager p).next m c) := by
  obtain ⟨bub,next,_⟩ := step_broadcast p ready broadcasts
  have created' : (installed m bub broadcast).lifecycleStateEvent = true := created
  rw [next,notify_eq created']
  rfl

/-- What an action broadcasts is shown, and what is shown stays so. -/
private theorem action_shows (ready : s.manager.noTCUPowerMode = true) (created : s.manager.lifecycleStateEvent = true)
    (a : Action) (named : ∀ c, a = .call c → c.op.NamesClient p)
    (shown : (broadcastBy s a).isSome = true ∨ Shows s.manager) : Shows ((threads p).next s a).manager := by
  show Shows (actionStep p s a).1.manager
  rcases action_cases p s a with
    ⟨disabled,stays⟩ | ⟨c,rfl,enabled,called⟩ | ⟨rfl,enabled,written⟩ | ⟨rfl,_,expired⟩
  · rw [broadcastBy_disabled disabled] at shown
    rw [stays]
    exact shown.resolve_left (by simp)
  · rw [called,callStep_manager]
    by_cases inCall : c.op = .dbus .LC_Wakeup ∧ inListen s.manager.nadLifecycleState
    · rw [broadcastBy,if_neg (fun both => both.2 inCall)] at shown
      rw [if_pos inCall]
      exact shown.resolve_left (by simp)
    · rw [broadcastBy,if_pos ⟨enabled,inCall⟩] at shown
      rw [if_neg inCall]
      cases broadcasts : broadcastOf s.manager c.op with
      | none =>
        rw [broadcasts] at shown
        exact quiet_shows p ready (named c rfl) broadcasts (shown.resolve_left (by simp))
      | some broadcast => exact broadcast_shows p ready created broadcasts
  · rw [written,lcWakeupWrite]
    have created' : { s.manager with nadLifecycleState := .NAD_STAY_ALIVE_SERVICES }.lifecycleStateEvent = true :=
      created
    show Shows (notifyAllRegisteredClientsNadStateInfo
      { s.manager with nadLifecycleState := .NAD_STAY_ALIVE_SERVICES }).1
    rw [notify_eq created']
    rfl
  · rw [expired]
    exact shown.resolve_left (by simp [broadcastBy])

private theorem payloads_action (ready : s.manager.noTCUPowerMode = true) (a : Action) :
    payloads ((threads p).out s a) =
      if s.manager.lifecycleStateEvent then
        (broadcastBy s a).toList.map (fun broadcast => leImage broadcast.1 broadcast.2)
      else [] := by
  rw [← payloads_publications,publications_action p ready,payloads_announcements]

end

/-- What an action of the server does to the state, the record and the queue, once the event id is created. -/
private inductive Reports (s s' : Pausing) (outputs : List Output) : Prop
  /-- Nothing is reported, and the state stays. -/
  | quiet (silent : payloads outputs = []) (pausing : s'.pausing = s.pausing)
      (state : s'.threads.manager.nadLifecycleState = s.threads.manager.nadLifecycleState)
      (shows : Shows s.threads.manager → Shows s'.threads.manager)
  /-- A pause begins. -/
  | pause (silent : payloads outputs = []) (pausing : s'.pausing = true)
  /-- A state is reported, and shown. -/
  | report (reported : payloads outputs ≠ []) (shows : Shows s'.threads.manager)

private theorem pausing_reports (p : Platform) {s : Pausing} (i : PausingAction)
    (ready : s.threads.manager.noTCUPowerMode = true) (created : s.threads.manager.lifecycleStateEvent = true)
    (named : (DeliveryStep.server i).NamesClient p) : Reports s (pausingStep p s i).1 (pausingStep p s i).2 := by
  rcases pausing_cases p s i with ⟨_,stays⟩ | ⟨a,rfl,_,taken⟩ | ⟨a,rfl,_,_,begun⟩ | ⟨rfl,_,ended⟩
  · rw [stays]
    exact .quiet rfl rfl rfl id
  · have names : ∀ c, a = .call c → c.op.NamesClient p := by
      rintro c rfl
      exact named
    have shows := action_shows p ready created a names
    have payloads := payloads_action p ready a
    have state := state_action p ready a
    rw [if_pos created] at payloads
    rw [taken]
    cases broadcast : broadcastBy s.threads a with
    | none =>
      rw [broadcast] at payloads state shows
      exact .quiet payloads rfl state (fun shown => shows (.inr shown))
    | some b =>
      rw [broadcast] at payloads shows
      exact .report (by rw [payloads]; simp) (shows (.inl rfl))
  · rw [begun]
    exact .pause rfl rfl
  · rw [ended,evaluateAfterPause,notify_eq created]
    exact .report (by simp [payloads]) rfl

/-- What is queued or has been told is shown; and the handler is told the current state in the end. -/
private structure Delivered (p : Platform) (handlerRef : Nat) (x : Deliveries × Option LeState) : Prop where
  running : Running p x.1.server.threads.manager
  given : ∀ h ∈ x.1.handlers, h.1 < x.1.nextRef
  reported : (x.2 ≠ none ∨ ∃ e ∈ x.1.queue, e.1 = handlerRef) →
    handlerRef < x.1.nextRef ∧ x.1.server.threads.manager.lifecycleStateEvent = true ∧
      (x.1.server.pausing = false → Shows x.1.server.threads.manager)
  current : HandlerCurrent handlerRef x

private theorem mem_queued {handlers : List (Nat × LayeredHandler)} {outputs : List Output}
    {e : Nat × BroadcastInfoPlus} :
    e ∈ queued handlers outputs ↔ e.2 ∈ payloads outputs ∧ ∃ h ∈ handlers, h.1 = e.1 := by
  obtain ⟨ref,payload⟩ := e
  simp only [queued,List.mem_flatMap,List.mem_map,Prod.mk.injEq]
  constructor
  · rintro ⟨payload',member,h,inside,rfl,rfl⟩
    exact ⟨member,h,inside,rfl⟩
  · rintro ⟨member,h,inside,rfl⟩
    exact ⟨payload,member,h,inside,rfl,rfl⟩

section
variable {p : Platform} {handlerRef : Nat} {s : Deliveries} {told : Option LeState}

private theorem queued_nil {handlers : List (Nat × LayeredHandler)} {outputs : List Output}
    (silent : payloads outputs = []) : queued handlers outputs = [] := by
  rw [queued,silent]; rfl

/-- A step of the server queues its reports, and tells a handler nothing. -/
private theorem server_queues (i : PausingAction) : (withHandlerTold p handlerRef).next (s,told) (.server i) =
    ({ s with
        server := (pausingStep p s.server i).1
        queue := s.queue ++ queued s.handlers (pausingStep p s.server i).2 },told) := by
  have untold : ((pausingStep p s.server i).2.map DeliveryOutput.server).filterMap (toldTo handlerRef) = [] := by
    rw [List.filterMap_map]
    exact List.filterMap_eq_nil_iff.mpr (fun _ _ => rfl)
  rw [withHandlerTold,Machine.observe_next]
  show (_,(((pausingStep p s.server i).2.map DeliveryOutput.server).filterMap
    (toldTo handlerRef)).getLast?.or told) = _
  rw [untold]; rfl

private theorem delivered_server (i : PausingAction) (named : (DeliveryStep.server i).NamesClient p)
    (delivered : Delivered p handlerRef (s,told)) :
    Delivered p handlerRef ((withHandlerTold p handlerRef).next (s,told) (.server i)) := by
  have ready := delivered.running.ready
  have still := created_pausing p i ready
  have running := running_pausing p s.server i delivered.running
  rw [server_queues]
  by_cases created : s.server.threads.manager.lifecycleStateEvent = true
  · rcases pausing_reports p i ready created named with
      ⟨silent,pausing,state,shows⟩ | ⟨silent,pausing⟩ | ⟨reported,shows⟩
    · rw [queued_nil silent,List.append_nil]
      refine ⟨running,delivered.given,fun reported => ?_,fun idle registered waiting leState last => ?_⟩
      · obtain ⟨below,_,shown⟩ := delivered.reported reported
        exact ⟨below,still.trans created,fun idle => shows (shown (pausing.symm.trans idle))⟩
      · rw [state]
        exact delivered.current (pausing.symm.trans idle) registered waiting leState last
    · rw [queued_nil silent,List.append_nil]
      refine ⟨running,delivered.given,fun reported => ?_,fun idle => ?_⟩
      · obtain ⟨below,_,_⟩ := delivered.reported reported
        exact ⟨below,still.trans created,fun idle => absurd (pausing.symm.trans idle) (by simp)⟩
      · exact absurd (pausing.symm.trans idle) (by simp)
    · refine ⟨running,delivered.given,fun reported' => ⟨?_,still.trans created,fun _ => shows⟩,
        fun idle registered waiting => ?_⟩
      · rcases reported' with earlier | ⟨e,member,rfl⟩
        · exact (delivered.reported (.inl earlier)).1
        · rcases List.mem_append.mp member with earlier | now
          · exact (delivered.reported (.inr ⟨e,earlier,rfl⟩)).1
          · obtain ⟨_,h,inside,same⟩ := mem_queued.mp now
            rw [← same]
            exact delivered.given h inside
      · -- what is reported is queued for a handler that is registered
        obtain ⟨h,inside,rfl⟩ := registered
        obtain ⟨payload,member⟩ := List.exists_mem_of_ne_nil _ reported
        exact absurd rfl (waiting (h.1,payload) (List.mem_append_right _ (mem_queued.mpr ⟨member,h,inside,rfl⟩)))
  · have silent : payloads (pausingStep p s.server i).2 = [] := by
      have payloads := payloads_step p i ready
      rw [if_neg created] at payloads
      exact payloads
    rw [queued_nil silent,List.append_nil]
    refine ⟨running,delivered.given,fun reported => absurd (delivered.reported reported).2.1 created,
      fun _ _ _ leState last => ?_⟩
    exact absurd (delivered.reported (.inl (by rw [last]; simp))).2.1 created

/-- A handler is told what the record shows when it is called. -/
private theorem told_dispatch {ref : Nat} {pData : BroadcastInfoPlus} {rest : List (Nat × BroadcastInfoPlus)}
    (head : s.queue = (ref,pData) :: rest) :
    (withHandlerTold p handlerRef).next (s,told) .dispatch =
      ({ s with queue := rest },
        if ref = handlerRef ∧ ∃ h ∈ s.handlers, h.1 = handlerRef then
          some s.server.threads.manager.broadcastInfo.lcState
        else told) := by
  have step : deliveryStep p s .dispatch = ({ s with queue := rest },
      (onLifeCycleEvent s.server.threads.manager (some pData) (s.handler ref)).map (.loop ref)) := by
    rw [deliveryStep,head]
  rw [withHandlerTold,Machine.observe_next]
  show ((deliveryStep p s .dispatch).1,
    ((deliveryStep p s .dispatch).2.filterMap (toldTo handlerRef)).getLast?.or told) = _
  rw [step]
  cases found : s.handlers.find? (fun h => h.1 = ref) with
  | none =>
    have absent : ¬ (ref = handlerRef ∧ ∃ h ∈ s.handlers, h.1 = handlerRef) := by
      rintro ⟨rfl,h,inside,same⟩
      exact List.find?_eq_none.mp found h inside (by simpa using same)
    rw [if_neg absent,Deliveries.handler,found]
    rfl
  | some h =>
    have inside := List.mem_of_find?_eq_some found
    have same : h.1 = ref := by simpa using List.find?_some found
    rw [Deliveries.handler,found]
    by_cases own : ref = handlerRef
    · rw [if_pos ⟨own,h,inside,same.trans own⟩]
      simp [onLifeCycleEvent,toldTo,own]
    · rw [if_neg (fun both => own both.1)]
      simp [onLifeCycleEvent,toldTo,own]

private theorem delivered_dispatch (delivered : Delivered p handlerRef (s,told)) :
    Delivered p handlerRef ((withHandlerTold p handlerRef).next (s,told) .dispatch) := by
  cases head : s.queue with
  | nil =>
    have next : (withHandlerTold p handlerRef).next (s,told) .dispatch = (s,told) := by
      rw [withHandlerTold,Machine.observe_next]
      show ((deliveryStep p s .dispatch).1,
        ((deliveryStep p s .dispatch).2.filterMap (toldTo handlerRef)).getLast?.or told) = _
      rw [deliveryStep,head]; rfl
    rw [next]
    exact delivered
  | cons entry rest =>
    obtain ⟨ref,pData⟩ := entry
    rw [told_dispatch head]
    have earlier : ∀ e ∈ rest, e ∈ s.queue := fun e member => by rw [head]; exact List.mem_cons_of_mem _ member
    have first : (ref,pData) ∈ s.queue := by rw [head]; exact List.mem_cons_self
    by_cases own : ref = handlerRef ∧ ∃ h ∈ s.handlers, h.1 = handlerRef
    · have shown := delivered.reported (.inr ⟨_,first,own.1⟩)
      rw [if_pos own]
      refine ⟨delivered.running,delivered.given,fun _ => shown,fun idle _ _ leState last => ?_⟩
      rw [← Option.some.inj last]
      exact shown.2.2 idle
    · rw [if_neg own]
      refine ⟨delivered.running,delivered.given,fun reported => delivered.reported ?_,
        fun idle registered waiting => delivered.current idle registered fun e member => ?_⟩
      · exact reported.imp id (fun ⟨e,member,same⟩ => ⟨e,earlier e member,same⟩)
      · have member' : e ∈ (ref,pData) :: rest := by rw [← head]; exact member
        rcases List.mem_cons.mp member' with rfl | later
        · exact fun same => own ⟨same,registered⟩
        · exact waiting e later

private theorem delivered_handlers (delivered : Delivered p handlerRef (s,told)) :
    (∀ handlerPtr contextPtr, Delivered p handlerRef
      ((withHandlerTold p handlerRef).next (s,told) (.lifecycle_AddELifeCycleHandler handlerPtr contextPtr))) ∧
    ∀ ref, Delivered p handlerRef
      ((withHandlerTold p handlerRef).next (s,told) (.lifecycle_RemoveELifeCycleHandler ref)) := by
  constructor
  · intro handlerPtr contextPtr
    rw [withHandlerTold,Machine.observe_next]
    cases handlerPtr with
    | none => exact delivered
    | some functionHdler =>
      refine ⟨delivered.running,?_,fun reported => ?_,fun idle registered waiting leState last => ?_⟩
      · intro h member
        rcases List.mem_append.mp member with inside | new
        · exact Nat.lt_succ_of_lt (delivered.given h inside)
        · rw [List.mem_singleton.mp new]
          exact Nat.lt_succ_self _
      · obtain ⟨below,shown⟩ := delivered.reported reported
        exact ⟨Nat.lt_succ_of_lt below,shown⟩
      · -- a handler that has been told a state is not the new one
        have known : told = some leState := last
        have below := (delivered.reported (.inl (by rw [known]; simp))).1
        obtain ⟨h,member,same⟩ := registered
        rcases List.mem_append.mp member with inside | new
        · exact delivered.current idle ⟨h,inside,same⟩ waiting leState known
        · rw [← same,List.mem_singleton.mp new] at below
          exact absurd below (lt_irrefl _)
  · intro ref
    rw [withHandlerTold,Machine.observe_next]
    refine ⟨delivered.running,fun h member => delivered.given h (List.mem_of_mem_filter member),delivered.reported,
      fun idle registered waiting => delivered.current idle ?_ waiting⟩
    obtain ⟨h,member,same⟩ := registered
    exact ⟨h,List.mem_of_mem_filter member,same⟩

private theorem delivered_next (i : DeliveryStep) (named : i.NamesClient p)
    (delivered : Delivered p handlerRef (s,told)) :
    Delivered p handlerRef ((withHandlerTold p handlerRef).next (s,told) i) := by
  cases i with
  | server i => exact delivered_server i named delivered
  | lifecycle_AddELifeCycleHandler handlerPtr contextPtr =>
    exact (delivered_handlers delivered).1 handlerPtr contextPtr
  | lifecycle_RemoveELifeCycleHandler ref => exact (delivered_handlers delivered).2 ref
  | dispatch => exact delivered_dispatch delivered

end

private theorem delivered_run (p : Platform) (handlerRef : Nat) {x : Deliveries × Option LeState}
    (delivered : Delivered p handlerRef x) {run : List DeliveryStep} (named : ∀ i ∈ run, i.NamesClient p) :
    (withHandlerTold p handlerRef).Always (HandlerCurrent handlerRef) x run := by
  induction run generalizing x with
  | nil => exact delivered.current
  | cons i rest ih =>
    rw [List.forall_mem_cons] at named
    exact ⟨delivered.current,ih (delivered_next i named.1 delivered) named.2⟩

/-- In every interleaving of the threads of the server with the event loop in which no name of padding only is
    registered, a handler has been told the current power state whenever everything that was queued for it is
    delivered, but for the pause of a TCU-only mode. The event loop delivers first in first out, once for each handler
    registered at the report, and not to one that has been removed. -/
theorem handler_current (p : Platform) (info : AdditionalLifecycleStateInfo) (created : Bool) (handlerRef : Nat)
    (run : List DeliveryStep) (named : ∀ i ∈ run, i.NamesClient p) :
    (withHandlerTold p handlerRef).Always (HandlerCurrent handlerRef) (.started p info created,none) run := by
  refine delivered_run p handlerRef ⟨running_started p info created,?_,?_,?_⟩ named
  · exact fun h member => absurd member List.not_mem_nil
  · rintro (told | ⟨e,member,_⟩)
    · exact absurd rfl told
    · exact absurd member List.not_mem_nil
  · exact fun _ _ _ _ told => by cases told

/-- Two power modes are reported before the first is delivered. -/
def deliverBehind : List DeliveryStep :=
  [.lifecycle_AddELifeCycleHandler (some 1) none,.server (.take (.call (Op.mcu (.setPowerMode 6)).call)),
    .server (.take (.call (Op.mcu (.setPowerMode 0)).call)),.dispatch,.dispatch]

/-- The handler has been told the second one at the end. -/
theorem deliverBehind_current :
    (withHandlerTold samplePlatform 0).Always (HandlerCurrent 0) (.started samplePlatform sampleInfo true,none)
      deliverBehind :=
  handler_current samplePlatform sampleInfo true 0 deliverBehind
    (by simp [deliverBehind,DeliveryStep.NamesClient,Op.NamesClient,Op.call])

end LifecycleMgr
