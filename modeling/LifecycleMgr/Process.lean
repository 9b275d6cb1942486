import LifecycleMgr.CommonApiClient
import LifecycleMgr.Progress
import LifecycleMgr.Receivers

/-!
The whole process. The thread of the client takes a notification when it has nothing
else to do, and runs the handlers of a change one after the other; each calls the server,
and the sleep of a power mode holds up the thread with all that it has still to run. A
receiver thread is started when the client asks for it, and everything runs beside the
threads of the server. Whatever the interleaving, the server does what it does under an
interleaving of its own threads, and there it is given the updates that the client would
make of the same notifications by itself, in the same order (`updates_in_order`).
-/
namespace LifecycleMgr
open Runs Sections

/-! ### The listeners -/

/-- How many listeners are subscribed to each attribute. -/
structure Listeners where
  socWakeupReason : Nat
  batteryThermalStatus : Nat
  powerModeStatus : Nat
  ntwComSync : Nat
  deriving DecidableEq

/-- The listeners that a change calls. -/
def Listeners.of (l : Listeners) : Change → Nat
  | .socWakeupReason _ => l.socWakeupReason
  | .batteryThermalStatus _ => l.batteryThermalStatus
  | .powerModeStatusMcu _ => l.powerModeStatus
  | .ntwComSync _ => l.ntwComSync

def Listeners.after (l : Listeners) : Notification → Listeners
  | .socLifecycleProxyAvailable _ =>
    { l with
      socWakeupReason := l.socWakeupReason + 1
      batteryThermalStatus := l.batteryThermalStatus + 1
      powerModeStatus := l.powerModeStatus + 1 }
  | .socNtwApiProxyAvailable => { l with ntwComSync := l.ntwComSync + 1 }
  | _ => l

def CommonApiClient.subscribed (s : CommonApiClient) : Listeners where
  socWakeupReason := s.socWakeupReasonListeners
  batteryThermalStatus := s.batteryThermalStatusListeners
  powerModeStatus := s.powerModeStatusListeners
  ntwComSync := s.ntwComSyncListeners

section
variable {p : Platform} {s : CommonApiClient} (known : s.commonApiServer = true)
include known

private theorem subscribed_next (n : Notification) :
    ((commonApiClient p).next s n).commonApiServer = true ∧
      ((commonApiClient p).next s n).subscribed = s.subscribed.after n := by
  cases n with
  | socLifecycleProxyAvailable created => cases created <;> exact ⟨known,rfl⟩
  | changed change locals =>
    let called := handlings change locals (s.listeners change)
    obtain ⟨m,frame⟩ := callListeners_frame (p := p) known called
    show (callListeners p called s).1.commonApiServer = true ∧ (callListeners p called s).1.subscribed = _
    rw [frame]
    exact ⟨known,rfl⟩
  | _ => exact ⟨known,rfl⟩

end

/-! ### The process -/

/-- The threads of the server and the receivers; the listeners of the client; the handlers that its thread has still
    to run for the change that it has taken; and the receiver threads that are created and have not begun. -/
structure Process where
  receivers : Receivers
  listeners : Listeners
  handlers : List Handling
  created : Nat

inductive ProcessStep
  /-- The thread of the client takes a notification. -/
  | notified (n : Notification)
  /-- It runs its next handler, up to the sleep of a power mode if there is one. -/
  | handler
  /-- A receiver thread runs up to its loop. -/
  | receiverBegins (socket bind malloc : Bool) (garbage : WakeupReason)
  /-- A step of the other threads, or the end of a sleep of the client's. -/
  | receivers (i : ReceiversStep)

instance (s : Pausing) : Decidable (Awake s) := inferInstanceAs (Decidable (_ ∧ _))

/-- The thread of the client has nothing to do. -/
def Process.Free (s : Process) : Prop := Awake s.receivers.server ∧ s.handlers = []

instance (s : Process) : Decidable s.Free := inferInstanceAs (Decidable (_ ∧ _))

/-- An update of the MCU that the handlers of the client make. -/
def PausingAction.fromClient : PausingAction → Bool
  | .take (.call { op := .mcu update, .. }) => update.fromClientThread
  | _ => false

/-- The step is not the client's to make. -/
def ReceiversStep.aside : ReceiversStep → Bool
  | .server i => !i.fromClient
  | .qlLpmPthread .. => false
  | _ => true

/-- The call of the server that a handler makes. -/
def Handling.call (h : Handling) : PausingAction := .take (.call (Op.mcu h.update).call)

/-- The steps of the server and the receivers in a step. -/
def receiversSteps (s : Process) : ProcessStep → List ReceiversStep
  | .notified _ => []
  | .handler =>
    match s.handlers with
    | h :: _ => if Awake s.receivers.server then [.server h.call] else []
    | [] => []
  | .receiverBegins socket bind malloc garbage =>
    if 0 < s.created then [.qlLpmPthread true socket bind malloc garbage] else []
  | .receivers i => if i.aside then [i] else []

/-- What a step does to the client. -/
def clientPart (s : Process) : ProcessStep → Process
  | .notified n =>
    if s.Free then
      let subscribed := { s with listeners := s.listeners.after n }
      match n with
      | .changed change locals => { subscribed with handlers := handlings change locals (s.listeners.of change) }
      | .socLifecycleProxyAvailable true => { subscribed with created := s.created + 1 }
      | _ => subscribed
    else s
  | .handler => if Awake s.receivers.server then { s with handlers := s.handlers.tail } else s
  | .receiverBegins .. => { s with created := s.created - 1 }
  | .receivers _ => s

def processStep (p : Platform) (s : Process) (i : ProcessStep) : Process × List ReceiversOutput :=
  ({ clientPart s i with receivers := (receivers p).run s.receivers (receiversSteps s i) },
    (receivers p).outputs s.receivers (receiversSteps s i))

/-- The process under all interleavings of its threads. -/
def process (p : Platform) : Machine Process ProcessStep ReceiversOutput := ⟨processStep p⟩

/-- The client has been given the server, and no proxy has been available. -/
def Process.started (p : Platform) (info : AdditionalLifecycleStateInfo) (created : Bool) : Process where
  receivers := .started p info created
  listeners := ⟨0,0,0,0⟩
  handlers := []
  created := 0

/-! ### The updates -/

/-- The notification that the thread of the client takes in a step, if it takes one. -/
def takenNotification (s : Process) : ProcessStep → List Notification
  | .notified n => if s.Free then [n] else []
  | _ => []

/-- The handlers that a step gives to the thread of the client. -/
def handlersGiven (s : Process) : ProcessStep → List McuUpdate
  | .notified (.changed change locals) =>
    if s.Free then (handlings change locals (s.listeners.of change)).map Handling.update else []
  | _ => []

/-- The actions of the server in a step. -/
def serverSteps (p : Platform) (s : Process) (i : ProcessStep) : List PausingAction :=
  (receivers p).translate serverActions s.receivers (receiversSteps s i)

/-- The update of the MCU that the server executes for the client in an action, if it executes one. -/
def executedUpdate (s : Pausing) : PausingAction → List McuUpdate
  | .take (.call { op := .mcu update, .. }) => if update.fromClientThread ∧ Awake s then [update] else []
  | _ => []

private theorem executed_other {s : Pausing} {i : PausingAction} (other : i.fromClient = false) :
    executedUpdate s i = [] := by
  unfold PausingAction.fromClient at other
  unfold executedUpdate
  split
  · rw [if_neg (fun both => by simp [both.1] at other)]
  · rfl

private theorem update_fromClient (h : Handling) :
    h.update.fromClientThread = true ∧ h.call.fromSocket = false := by
  obtain ⟨change,serverBatteryStatus⟩ := h
  cases change with
  | batteryThermalStatus report =>
    obtain ⟨param,status⟩ := report
    cases param <;> exact ⟨rfl,rfl⟩
  | _ => exact ⟨rfl,rfl⟩

/-- Apart from the handlers of the client, a step takes the server at most one action further, which is none of
    theirs. -/
private theorem steps_aside (p : Platform) (s : Process) {i : ProcessStep} (other : i ≠ .handler) :
    serverSteps p s i = [] ∨ ∃ a, a.fromClient = false ∧ serverSteps p s i = [a] := by
  cases i with
  | notified n => exact .inl rfl
  | handler => exact absurd rfl other
  | receiverBegins socket bind malloc garbage =>
    rw [serverSteps,receiversSteps]
    split <;> exact .inl rfl
  | receivers i =>
    rw [serverSteps,receiversSteps]
    split
    · rename_i aside
      cases i with
      | server a =>
        have notClient : a.fromClient = false := by simpa [ReceiversStep.aside] using aside
        simp only [Machine.translate,serverActions]
        split
        · exact .inl rfl
        · exact .inr ⟨a,notClient,rfl⟩
      | lock receiver =>
        simp only [Machine.translate,serverActions]
        split
        · exact .inr ⟨_,rfl,rfl⟩
        · exact .inl rfl
      | _ => exact .inl rfl
    · exact .inl rfl

/-- A handler is run when the thread of the client is awake. -/
private theorem steps_handler (p : Platform) (s : Process) :
    serverSteps p s .handler =
      if Awake s.receivers.server then (s.handlers.take 1).map Handling.call else [] := by
  rw [serverSteps,receiversSteps]
  by_cases awake : Awake s.receivers.server
  · rw [if_pos awake]
    cases s.handlers with
    | nil => rfl
    | cons h rest =>
      have socket := (update_fromClient h).2
      simp [awake,Machine.translate,serverActions,socket]
  · rw [if_neg awake]
    split
    · rw [if_neg awake]; rfl
    · rfl

private theorem handlers_notified (s : Process) (n : Notification) :
    (clientPart s (.notified n)).handlers.map Handling.update =
      s.handlers.map Handling.update ++ handlersGiven s (.notified n) := by
  by_cases free : s.Free
  · rw [clientPart,if_pos free]
    cases n with
    | changed change locals => simp [handlersGiven,free,free.2]
    | socLifecycleProxyAvailable created => cases created <;> exact (List.append_nil _).symm
    | _ => exact (List.append_nil _).symm
  · rw [clientPart,if_neg free]
    cases n with
    | changed change locals => simp [handlersGiven,free]
    | _ => exact (List.append_nil _).symm

/-- The handlers are run in their order, and each update is executed when its handler is run. -/
private theorem handlers_step (p : Platform) (s : Process) (i : ProcessStep) :
    s.handlers.map Handling.update ++ handlersGiven s i =
      (pausing p).translate executedUpdate s.receivers.server (serverSteps p s i) ++
        ((process p).next s i).handlers.map Handling.update := by
  show _ = _ ++ (clientPart s i).handlers.map Handling.update
  by_cases handles : i = .handler
  · subst handles
    rw [steps_handler]
    by_cases awake : Awake s.receivers.server
    · rw [clientPart,if_pos awake,if_pos awake]
      cases s.handlers with
      | nil => rfl
      | cons h rest =>
        have executed : executedUpdate s.receivers.server h.call = [h.update] :=
          if_pos ⟨(update_fromClient h).1,awake⟩
        simp [handlersGiven,Machine.translate,executed]
    · rw [clientPart,if_neg awake,if_neg awake]
      exact List.append_nil _
  · have nothing : (pausing p).translate executedUpdate s.receivers.server (serverSteps p s i) = [] := by
      rcases steps_aside p s handles with none | ⟨a,other,one⟩
      · rw [none]; rfl
      · rw [one]
        simp [Machine.translate,executed_other other]
    rw [nothing,List.nil_append]
    cases i with
    | notified n => exact (handlers_notified s n).symm
    | handler => exact absurd rfl handles
    | _ => exact List.append_nil _

private theorem serverCalls_append (front back : List ClientOutput) :
    serverCalls (front ++ back) = serverCalls front ++ serverCalls back := List.filterMap_append

/-- The client by itself keeps the same listeners, and makes the updates of the handlers that are given to its
    thread. -/
private theorem given_step (p : Platform) {s : Process} {t : CommonApiClient} (known : t.commonApiServer = true)
    (subscribed : t.subscribed = s.listeners) (i : ProcessStep) :
    let notifications := takenNotification s i
    ((commonApiClient p).run t notifications).commonApiServer = true ∧
      ((commonApiClient p).run t notifications).subscribed = ((process p).next s i).listeners ∧
      handlersGiven s i = serverCalls ((commonApiClient p).outputs t notifications) := by
  show _ ∧ _ = (clientPart s i).listeners ∧ _
  cases i with
  | notified n =>
    by_cases free : s.Free
    · have taken : takenNotification s (.notified n) = [n] := if_pos free
      obtain ⟨stillKnown,next⟩ := subscribed_next (p := p) known n
      have listeners : (clientPart s (.notified n)).listeners = s.listeners.after n := by
        rw [clientPart,if_pos free]
        cases n with
        | socLifecycleProxyAvailable created => cases created <;> rfl
        | _ => rfl
      have single : (commonApiClient p).outputs t [n] = (commonApiClient p).out t n := List.append_nil _
      rw [taken,listeners,single,← subscribed]
      refine ⟨stillKnown,next,?_⟩
      cases n with
      | changed change locals =>
        obtain ⟨_,calls,_⟩ := listeners_outputs p (handlings change locals (t.listeners change)) known
        have count : s.listeners.of change = t.listeners change := by
          rw [← subscribed]
          cases change <;> rfl
        rw [handlersGiven,if_pos free,count]
        exact calls.symm
      | _ => rfl
    · have none : takenNotification s (.notified n) = [] := if_neg free
      have unchanged : clientPart s (.notified n) = s := if_neg free
      rw [none,unchanged]
      refine ⟨known,subscribed,?_⟩
      cases n with
      | changed change locals => exact if_neg free
      | _ => rfl
  | handler =>
    refine ⟨known,?_,rfl⟩
    rw [clientPart]
    split <;> exact subscribed
  | _ => exact ⟨known,subscribed,rfl⟩

private theorem given_calls (p : Platform) {s : Process} {t : CommonApiClient} (known : t.commonApiServer = true)
    (subscribed : t.subscribed = s.listeners) (run : List ProcessStep) :
    (process p).translate handlersGiven s run =
      serverCalls ((commonApiClient p).outputs t ((process p).translate takenNotification s run)) := by
  induction run generalizing s t with
  | nil => rfl
  | cons i rest ih =>
    obtain ⟨stillKnown,stillSubscribed,here⟩ := given_step p known subscribed i
    rw [Machine.translate,Machine.translate,Machine.outputs_append,serverCalls_append,here,
      ih stillKnown stillSubscribed]

private theorem server_part (p : Platform) (s : Process) (run : List ProcessStep) :
    ((process p).run s run).receivers.server =
        (pausing p).run s.receivers.server ((process p).translate (serverSteps p) s run) ∧
      ((process p).outputs s run).filterMap serverOutput =
        (pausing p).outputs s.receivers.server ((process p).translate (serverSteps p) s run) := by
  have step : ∀ (s : Process) (t : Receivers) (i : ProcessStep), s.receivers = t →
      ((process p).next s i).receivers = (receivers p).run t (receiversSteps s i) ∧
        (process p).out s i = (receivers p).outputs t (receiversSteps s i) := by
    rintro s t i rfl
    exact ⟨rfl,rfl⟩
  obtain ⟨followed,same⟩ := Machine.run_follows (process p) (receivers p) step (rfl : s.receivers = _) run
  have steps : (process p).translate (serverSteps p) s run = (receivers p).translate serverActions s.receivers
      ((process p).translate receiversSteps s run) :=
    (Machine.translate_translate (process p) (receivers p) (fun _ _ => rfl) serverActions s run).symm
  rw [followed,same,steps]
  exact server_interleaves p s.receivers ((process p).translate receiversSteps s run)

private theorem server_next (p : Platform) (s : Process) (i : ProcessStep) :
    ((process p).next s i).receivers.server = (pausing p).run s.receivers.server (serverSteps p s i) :=
  (server_interleaves p s.receivers (receiversSteps s i)).1

/-- The handlers given are run first in, first out. -/
private theorem updates_run (p : Platform) {s : Process} {t : CommonApiClient} (known : t.commonApiServer = true)
    (subscribed : t.subscribed = s.listeners) (noHandlers : s.handlers = []) (run : List ProcessStep) :
    (pausing p).translate executedUpdate s.receivers.server ((process p).translate (serverSteps p) s run) ++
        ((process p).run s run).handlers.map Handling.update =
      serverCalls ((commonApiClient p).outputs t ((process p).translate takenNotification s run)) := by
  have fifo := @Machine.translate_fifo _ _ _ _ (process p) (fun _ => True) (fun s => s.handlers.map Handling.update)
    handlersGiven _ (fun s i _ => ⟨trivial,handlers_step p s i⟩) s trivial run
  rw [@Machine.translate_translate _ _ _ _ _ _ _ (process p) (pausing p) (fun s => s.receivers.server)
    (serverSteps p) (server_next p),← fifo,noHandlers]
  exact given_calls p known subscribed run

/-- In every interleaving of the process, the server runs through an interleaving of its own threads. The updates
    that it executes there for the client, followed by those of the handlers still to run, are the updates that the
    client makes of the notifications taken when nothing else runs, in the same order. -/
theorem updates_in_order (p : Platform) (info : AdditionalLifecycleStateInfo) (created : Bool)
    (run : List ProcessStep) :
    let start := Process.started p info created
    let final := (process p).run start run
    let interleaving := (process p).translate (serverSteps p) start run
    final.receivers.server = (pausing p).run (.started p info created) interleaving ∧
      ((process p).outputs start run).filterMap serverOutput =
        (pausing p).outputs (.started p info created) interleaving ∧
      (pausing p).translate executedUpdate (.started p info created) interleaving ++
          final.handlers.map Handling.update =
        serverCalls ((commonApiClient p).outputs (.init (.started p info created))
          ((process p).translate takenNotification start run)) := by
  intro start final interleaving
  obtain ⟨server,outputs⟩ := server_part p start run
  exact ⟨server,outputs,updates_run p (s := start) rfl rfl rfl run⟩

/-! ### Progress -/

/-- Sleeps end, and the thread of the client goes on with its handlers. -/
structure ClientGoesOn (p : Platform) (s : Process) (schedule : ℕ → ProcessStep) : Prop where
  pauseEnd : (process p).Fair s schedule (fun s => s.receivers.server.pausing = true)
    (· = .receivers (.server .pauseEnd))
  expiry : (process p).Fair s schedule (fun s => s.receivers.server.threads.window.isSome = true)
    (· = .receivers (.server (.take .tcuOnlyExpiry)))
  handler : (process p).Fair s schedule (fun s => Awake s.receivers.server ∧ s.handlers ≠ []) (· = .handler)

section
variable {p : Platform}

private theorem carries_process :
    CarriesServer p (process p) (fun s => s.receivers.server) (.receivers (.server .pauseEnd))
      (.receivers (.server (.take .tcuOnlyExpiry))) where
  step := by
    intro s i
    have short : serverSteps p s i = [] ∨ ∃ a, serverSteps p s i = [a] := by
      by_cases handles : i = .handler
      · subst handles
        rw [steps_handler]
        split
        · cases s.handlers with
          | nil => exact .inl rfl
          | cons h rest => exact .inr ⟨h.call,rfl⟩
        · exact .inl rfl
      · exact (steps_aside p s handles).imp id (fun ⟨a,_,one⟩ => ⟨a,one⟩)
    have next := server_next p s i
    rcases short with none | ⟨a,one⟩
    · rw [none] at next
      exact .inl next
    · rw [one] at next
      exact .inr ⟨a,next⟩
  pauseEnd := fun s => server_next p s _
  expiry := fun s => server_next p s _

/-- Nothing is done for the client while its thread sleeps. -/
private theorem handlers_asleep {s : Process} (i : ProcessStep) (asleep : ¬ Awake s.receivers.server) :
    ((process p).next s i).handlers = s.handlers := by
  show (clientPart s i).handlers = s.handlers
  cases i with
  | notified n => rw [clientPart,if_neg (fun free => asleep free.1)]
  | handler => rw [clientPart,if_neg asleep]
  | _ => rfl

private theorem opens_fromClient {s : Threads} {a : Action} (opens : OpensWindow s a) :
    (PausingAction.take a).fromClient = true := by
  cases a with
  | call c =>
    obtain ⟨op,env⟩ := c
    cases op with
    | mcu update =>
      cases update with
      | setPowerMode powerMode => rfl
      | _ => exact opens.2.elim
    | _ => exact opens.2.elim
  | _ => exact opens.elim

/-- Only the handlers of the client put its thread to sleep. -/
private theorem awake_aside {s : Pausing} {i : PausingAction} (ready : s.threads.manager.noTCUPowerMode = true)
    (other : i.fromClient = false) (awake : Awake s) : Awake ((pausing p).next s i) := by
  have closed : ∀ a, i = .take a → ¬ OpensWindow s.threads a := by
    rintro a rfl opens
    rw [opens_fromClient opens] at other
    cases other
  show Awake (pausingStep p s i).1
  rcases pausing_cases p s i with ⟨_,stays⟩ | ⟨a,taken,_,step⟩ | ⟨a,taken,_,⟨opens,_,_⟩,_⟩ | ⟨_,inPause,_⟩
  · rw [stays]
    exact awake
  · rw [step]
    refine ⟨awake.1,?_⟩
    show ((threads p).next s.threads a).window = none
    rw [window_action p ready,if_neg (closed a taken)]
    split
    · rfl
    · exact awake.2
  · exact absurd opens (closed a taken)
  · rw [awake.1] at inPause
    cases inPause

/-- While the thread is awake and has handlers to run, only running the next one changes this. -/
private theorem handlers_awake {s : Process} (i : ProcessStep)
    (ready : s.receivers.server.threads.manager.noTCUPowerMode = true) (awake : Awake s.receivers.server)
    (some : s.handlers ≠ []) :
    Awake ((process p).next s i).receivers.server ∧ ((process p).next s i).handlers = s.handlers ∨
      ((process p).next s i).handlers = s.handlers.tail := by
  by_cases handles : i = .handler
  · subst handles
    refine .inr ?_
    show (clientPart s .handler).handlers = _
    rw [clientPart,if_pos awake]
  · refine .inl ⟨?_,?_⟩
    · rw [server_next]
      rcases steps_aside p s handles with none | ⟨a,other,one⟩
      · rw [none]
        exact awake
      · rw [one]
        exact awake_aside ready other awake
    · show (clientPart s i).handlers = s.handlers
      cases i with
      | notified n => rw [clientPart,if_neg (fun free => some free.2)]
      | handler => exact absurd rfl handles
      | _ => rfl

variable {s : Process} {schedule : ℕ → ProcessStep}

private theorem running_process (s : Process) (i : ProcessStep)
    (running : Running p s.receivers.server.threads.manager) :
    Running p ((process p).next s i).receivers.server.threads.manager := by
  have keeps : ∀ (s : Pausing) (i : PausingAction), Running p s.threads.manager →
      Running p ((pausing p).next s i).threads.manager := running_pausing p
  rw [server_next]
  exact Machine.run_keeps (pausing p) keeps running _

/-- The next handler is run some time. -/
private theorem handler_run (goesOn : ClientGoesOn p s schedule) {handlers : List Handling} (some : handlers ≠ [])
    {n : ℕ} (running : Running p ((process p).reached s schedule n).receivers.server.threads.manager)
    (awake : Awake ((process p).reached s schedule n).receivers.server)
    (given : ((process p).reached s schedule n).handlers = handlers) :
    ∃ m, n ≤ m ∧ ((process p).reached s schedule m).handlers = handlers.tail := by
  refine Machine.ensures goesOn.handler
    (P := fun s => Running p s.receivers.server.threads.manager ∧ Awake s.receivers.server ∧ s.handlers = handlers)
    (Q := fun s => s.handlers = handlers.tail) ?_ ?_ ?_ ⟨running,awake,given⟩
  · rintro s ⟨_,awake,rfl⟩
    exact ⟨awake,some⟩
  · rintro s i ⟨running,awake,rfl⟩
    rcases handlers_awake i running.ready awake some with ⟨still,same⟩ | next
    · exact .inl ⟨running_process s i running,still,same⟩
    · exact .inr next
  · rintro s _ ⟨_,awake,rfl⟩ rfl
    show (clientPart s .handler).handlers = _
    rw [clientPart,if_pos awake]

/-- The thread of the client runs out of handlers again and again. -/
private theorem free_again (goesOn : ClientGoesOn p s schedule)
    (running : Running p s.receivers.server.threads.manager) (n : ℕ) :
    ∃ m, n ≤ m ∧ ((process p).reached s schedule m).Free := by
  have always : ∀ n, Running p ((process p).reached s schedule n).receivers.server.threads.manager :=
    fun n => Machine.run_keeps (process p) running_process running (Machine.before schedule n)
  refine @Machine.descends _ _ _ (process p) s schedule (fun _ => True) Process.Free (fun s => s.handlers.length)
    (fun n _ => ?_) n trivial
  obtain ⟨k,later,awake,same⟩ := sleep_ends carries_process
    (K := fun s' => s'.handlers = ((process p).reached s schedule n).handlers)
    (fun s' i asleep same => (handlers_asleep i asleep).trans same) goesOn.pauseEnd goesOn.expiry (n := n) rfl
  cases given : ((process p).reached s schedule n).handlers with
  | nil => exact ⟨k,later,.inl ⟨awake,same.trans given⟩⟩
  | cons h rest =>
    obtain ⟨m,stillLater,fewer⟩ := handler_run goesOn (List.cons_ne_nil h rest) (always k) awake
      (same.trans given)
    refine ⟨m,Nat.le_trans later stillLater,.inr ⟨trivial,?_⟩⟩
    rw [fewer]
    exact Nat.lt_succ_self _

end

/-- In every schedule in which sleeps end and the thread of the client goes on with its handlers, the thread has
    again and again nothing to do, and at each such moment the server has executed exactly the updates that the
    client makes of the notifications taken when nothing else runs, in the same order. -/
theorem updates_executed (p : Platform) (info : AdditionalLifecycleStateInfo) (created : Bool)
    (schedule : ℕ → ProcessStep) (goesOn : ClientGoesOn p (.started p info created) schedule) :
    let start := Process.started p info created
    ∀ n, ∃ m, n ≤ m ∧ ((process p).reached start schedule m).Free ∧
      (pausing p).translate executedUpdate (.started p info created)
          ((process p).translate (serverSteps p) start (Machine.before schedule m)) =
        serverCalls ((commonApiClient p).outputs (.init (.started p info created))
          ((process p).translate takenNotification start (Machine.before schedule m))) := by
  intro start n
  obtain ⟨m,later,free⟩ := free_again goesOn (running_started p info created) n
  have noHandlers : ((process p).run start (Machine.before schedule m)).handlers = [] := free.2
  have updates := updates_run p (s := start) (t := .init (.started p info created)) rfl rfl rfl
    (Machine.before schedule m)
  rw [noHandlers,List.map_nil,List.append_nil] at updates
  exact ⟨m,later,free,updates⟩

/-- The service becomes available, a TCU-only mode comes, and then handlers and the ends of sleeps in turn. -/
def tcuOnlyThenRest (n : ℕ) : ProcessStep :=
  if n = 0 then .notified (.socLifecycleProxyAvailable true)
  else if n = 1 then .notified (.changed (.powerModeStatusMcu 13) (fun _ => false))
  else if n % 3 = 2 then .handler
  else if n % 3 = 0 then .receivers (.server .pauseEnd)
  else .receivers (.server (.take .tcuOnlyExpiry))

/-- The TCU-only mode is executed some time. -/
theorem tcuOnly_executed :
    ∃ m, 2 ≤ m ∧
      ((process samplePlatform).reached (.started samplePlatform sampleInfo false) tcuOnlyThenRest m).Free ∧
      (pausing samplePlatform).translate executedUpdate (.started samplePlatform sampleInfo false)
          ((process samplePlatform).translate (serverSteps samplePlatform) (.started samplePlatform sampleInfo false)
            (Machine.before tcuOnlyThenRest m)) =
        serverCalls ((commonApiClient samplePlatform).outputs (.init (.started samplePlatform sampleInfo false))
          ((process samplePlatform).translate takenNotification (.started samplePlatform sampleInfo false)
            (Machine.before tcuOnlyThenRest m))) := by
  have rest : ∀ n, tcuOnlyThenRest (3 * n + 2) = .handler ∧
      tcuOnlyThenRest (3 * n + 3) = .receivers (.server .pauseEnd) ∧
      tcuOnlyThenRest (3 * n + 4) = .receivers (.server (.take .tcuOnlyExpiry)) := by
    intro n
    refine ⟨?_,?_,?_⟩
    · rw [tcuOnlyThenRest,if_neg (by omega),if_neg (by omega),if_pos (by omega)]
    · rw [tcuOnlyThenRest,if_neg (by omega),if_neg (by omega),if_neg (by omega),if_pos (by omega)]
    · rw [tcuOnlyThenRest,if_neg (by omega),if_neg (by omega),if_neg (by omega),if_neg (by omega)]
  have goesOn : ClientGoesOn samplePlatform (.started samplePlatform sampleInfo false) tcuOnlyThenRest :=
    ⟨Machine.fair_of_recurs _ _ _ (fun n => ⟨3 * n + 3,by omega,(rest n).2.1⟩) _,
      Machine.fair_of_recurs _ _ _ (fun n => ⟨3 * n + 4,by omega,(rest n).2.2⟩) _,
      Machine.fair_of_recurs _ _ _ (fun n => ⟨3 * n + 2,by omega,(rest n).1⟩) _⟩
  exact updates_executed samplePlatform sampleInfo false tcuOnlyThenRest goesOn 2

end LifecycleMgr
