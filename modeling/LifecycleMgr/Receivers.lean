import LifecycleMgr.CriticalSections
import LifecycleMgr.Netlink
import LifecycleMgr.Pauses

/-!
The receiver threads beside the server. A thread is started each time the service of
the power modes becomes available, so there may be several. Each takes a message,
sorts it, and runs the handler under `g_mutex`, which sleeps for four seconds with the
lock held. Whatever the interleaving, with each other and with the threads of the
server, the handlers do what they do one after the other (`handlers_atomic`), each
receiver handles its own messages in order (`messages_handled_iff`), and the server
does what it does under an interleaving of its own threads in which the reasons come
in when the lock is taken (`server_follows`). Nothing closes a socket, also when the
thread that has opened it fails: a process whose service comes and goes uses them up
(`sockets_open`).
-/
namespace LifecycleMgr
open Runs Sections

inductive HandlerOutput
  | setSocketWakeupSource (eWakeUpReason : WakeupReason)
  | tbmSetWakeLock
  | sendEventSOCWakeupReasonTCU (reason : SOCWakeupReasonTCU)
  deriving DecidableEq

/-- `ql_lpm_handler` from its lock to its sleep. -/
def handlerUntilSleep (eWakeUpReason : WakeupReason) : List HandlerOutput :=
  .setSocketWakeupSource eWakeUpReason ::
    if eWakeUpReason = .POWERKEY ∨ eWakeUpReason = .SMS ∨ eWakeUpReason = .RTC ∨ eWakeUpReason = .MQTT then
      [.tbmSetWakeLock]
    else []

/-- The rest of it, with whether the service of the power modes is available then. -/
def handlerAfterSleep (eWakeUpReason : WakeupReason) (socLifecycleIsAvailable : Bool) : List HandlerOutput :=
  match eWakeUpReason with
  | .SMS => if socLifecycleIsAvailable then [.sendEventSOCWakeupReasonTCU .sms] else []
  | .MODEM_SPURIOUS => if socLifecycleIsAvailable then [.sendEventSOCWakeupReasonTCU .spurious_modem_Wakeup] else []
  | .RTC => []
  | .MQTT => if socLifecycleIsAvailable then [.sendEventSOCWakeupReasonTCU .mqtt_wakeup] else []
  | _ => []

def lpmHandler : Halves WakeupReason Bool HandlerOutput := ⟨handlerUntilSleep,handlerAfterSleep⟩

/-- What of a half is put out by the controller; the source is set at the server. -/
def controllerOutput : HandlerOutput → Option ControllerOutput
  | .setSocketWakeupSource _ => none
  | .tbmSetWakeLock => some .tbmSetWakeLock
  | .sendEventSOCWakeupReasonTCU reason => some (.sendEventSOCWakeupReasonTCU reason)

/-- The halves are those of the handler. -/
theorem handler_halves (m : Manager) (eWakeUpReason : WakeupReason) (socLifecycleIsAvailable : Bool) :
    (qlLpmHandler m eWakeUpReason socLifecycleIsAvailable).2 =
      (lpmHandler.first eWakeUpReason ++ lpmHandler.last eWakeUpReason socLifecycleIsAvailable).filterMap
        controllerOutput := by
  cases eWakeUpReason <;> cases socLifecycleIsAvailable <;> rfl

/-- The server; the receivers that have reached their loop, in what phase of the handler they are and what their
    local `eWakeupReason` holds; and the sockets that they have opened. -/
structure Receivers where
  server : Pausing
  receivers : Nat
  sections : Guarded Nat WakeupReason
  eWakeupReason : Nat → WakeupReason
  sockets : Nat

inductive ReceiversStep
  /-- An action of the other threads of the server. -/
  | server (i : PausingAction)
  /-- `ql_lpm_pthread` and the thread up to its loop, with which of the calls succeed, and with what its
      uninitialised local holds. -/
  | qlLpmPthread (created socket bind malloc : Bool) (garbage : WakeupReason)
  /-- A receiver takes a message and sorts it. -/
  | recvmsg (receiver : Nat) (nlmsgData : List UInt8)
  /-- A receiver takes `g_mutex` and runs the handler up to its sleep. -/
  | lock (receiver : Nat)
  /-- A receiver runs the rest of the handler and gives `g_mutex` back. -/
  | unlock (receiver : Nat) (socLifecycleIsAvailable : Bool)
  deriving DecidableEq

inductive ReceiversOutput
  | server (o : Output)
  | handler (o : HandlerOutput)
  deriving DecidableEq

/-- A report of a reason from the netlink socket, which is the receivers' to make. -/
def PausingAction.fromSocket : PausingAction → Bool
  | .take (.call { op := .mcu (.setSocketWakeupSource _), .. }) => true
  | _ => false

/-- The call of the server that the handler makes. -/
def setSource (eWakeUpReason : WakeupReason) : PausingAction :=
  .take (.call (Op.mcu (.setSocketWakeupSource eWakeUpReason.value)).call)

/-- The value of the local after the tests of the loop. -/
def testedReason (s : Receivers) (receiver : Nat) (nlmsgData : List UInt8) : WakeupReason :=
  (qlRecvfromKernelStep ⟨s.server.threads.manager,s.eWakeupReason receiver⟩ ⟨nlmsgData,false⟩).1.eWakeupReason

/-- The actions of the server in a step. -/
def serverActions (s : Receivers) : ReceiversStep → List PausingAction
  | .server i => if i.fromSocket then [] else [i]
  | .lock receiver =>
    match s.sections.phase receiver,s.sections.holder with
    | .waiting eWakeUpReason,none => [setSource eWakeUpReason]
    | _,_ => []
  | _ => []

/-- The steps of the handlers in a step. A receiver takes a message when it is not in the handler. -/
def sectionSteps (s : Receivers) : ReceiversStep → List (Sections.Step Nat WakeupReason Bool)
  | .recvmsg receiver nlmsgData =>
    if receiver < s.receivers then [.ask receiver (testedReason s receiver nlmsgData)] else []
  | .lock receiver => [.enter receiver]
  | .unlock receiver socLifecycleIsAvailable => [.leave receiver socLifecycleIsAvailable]
  | _ => []

/-- What a step does to the threads, their locals and their sockets. -/
def threadStep (s : Receivers) : ReceiversStep → Receivers
  | .qlLpmPthread created socket bind malloc garbage =>
    -- a thread that fails after its socket returns without closing it
    if created && socket then
      if bind && malloc then
        { s with
          receivers := s.receivers + 1
          eWakeupReason := Function.update s.eWakeupReason s.receivers garbage
          sockets := s.sockets + 1 }
      else { s with sockets := s.sockets + 1 }
    else s
  | .recvmsg receiver nlmsgData =>
    if receiver < s.receivers ∧ s.sections.phase receiver = .idle then
      { s with eWakeupReason := Function.update s.eWakeupReason receiver (testedReason s receiver nlmsgData) }
    else s
  | _ => s

def receiversStep (p : Platform) (s : Receivers) (i : ReceiversStep) : Receivers × List ReceiversOutput :=
  ({ threadStep s i with
      server := (pausing p).run s.server (serverActions s i)
      sections := (guarded lpmHandler).run s.sections (sectionSteps s i) },
    ((guarded lpmHandler).outputs s.sections (sectionSteps s i)).map .handler ++
      ((pausing p).outputs s.server (serverActions s i)).map .server)

/-- The server and the receivers under all interleavings. -/
def receivers (p : Platform) : Machine Receivers ReceiversStep ReceiversOutput := ⟨receiversStep p⟩

/-- No operation has begun and no receiver has been started. -/
def Receivers.started (p : Platform) (info : AdditionalLifecycleStateInfo) (created : Bool) : Receivers where
  server := .started p info created
  receivers := 0
  sections := .idle
  eWakeupReason := fun _ => .NON_TCP
  sockets := 0

/-! ### The handlers -/

/-- The execution of the handler that a step completes, with its reason and with what decides its report. -/
def executed (s : Receivers) : ReceiversStep → List (WakeupReason × Bool)
  | .unlock receiver socLifecycleIsAvailable =>
    match s.sections.phase receiver with
    | .inside eWakeUpReason => [(eWakeUpReason,socLifecycleIsAvailable)]
    | _ => []
  | _ => []

def handlerOutput : ReceiversOutput → Option HandlerOutput
  | .handler o => some o
  | .server _ => none

def serverOutput : ReceiversOutput → Option Output
  | .handler _ => none
  | .server o => some o

private theorem outputs_split (handlers : List HandlerOutput) (server : List Output) :
    (handlers.map ReceiversOutput.handler ++ server.map ReceiversOutput.server).filterMap handlerOutput = handlers ∧
      (handlers.map ReceiversOutput.handler ++ server.map ReceiversOutput.server).filterMap serverOutput = server := by
  rw [List.filterMap_append,List.filterMap_append,List.filterMap_map,List.filterMap_map,List.filterMap_map,
    List.filterMap_map]
  constructor
  · have none : server.filterMap (handlerOutput ∘ ReceiversOutput.server) = [] :=
      List.filterMap_eq_nil_iff.mpr (fun _ _ => rfl)
    rw [none,List.append_nil]
    exact List.filterMap_some
  · have none : handlers.filterMap (serverOutput ∘ ReceiversOutput.handler) = [] :=
      List.filterMap_eq_nil_iff.mpr (fun _ _ => rfl)
    rw [none,List.nil_append]
    exact List.filterMap_some

/-- The executions are the jobs that the steps of the handlers finish. -/
private theorem executed_eq (s : Receivers) (i : ReceiversStep) :
    (guarded lpmHandler).translate finished s.sections (sectionSteps s i) = executed s i := by
  cases i with
  | recvmsg receiver nlmsgData =>
    rw [sectionSteps]
    split <;> rfl
  | unlock receiver available =>
    cases phase : s.sections.phase receiver <;> simp [sectionSteps,executed,Machine.translate,finished,phase]
  | _ => rfl

private theorem handlers_follow (p : Platform) (s : Receivers) (run : List ReceiversStep) :
    ((receivers p).run s run).sections =
        (guarded lpmHandler).run s.sections ((receivers p).translate sectionSteps s run) ∧
      ((receivers p).outputs s run).filterMap handlerOutput =
        (guarded lpmHandler).outputs s.sections ((receivers p).translate sectionSteps s run) := by
  have step : ∀ (s : Receivers) (t : Guarded Nat WakeupReason) (i : ReceiversStep), s.sections = t →
      (((receivers p).view handlerOutput).next s i).sections = (guarded lpmHandler).run t (sectionSteps s i) ∧
        ((receivers p).view handlerOutput).out s i = (guarded lpmHandler).outputs t (sectionSteps s i) := by
    rintro s t i rfl
    exact ⟨rfl,(outputs_split _ _).1⟩
  have followed := Machine.run_follows ((receivers p).view handlerOutput) (guarded lpmHandler) step
    (rfl : s.sections = _) run
  rw [Machine.view_run,Machine.view_outputs,Machine.view_translate] at followed
  exact followed

/-- At most one receiver is between the lock and the unlock of `ql_lpm_handler`, and the handlers put out what
    whole executions put out, in the order in which these end, and then the first half of the one under way. -/
theorem handlers_atomic (p : Platform) (info : AdditionalLifecycleStateInfo) (created : Bool)
    (run : List ReceiversStep) :
    let start := Receivers.started p info created
    (receivers p).Always (fun s => ∀ t u, (∃ reason, s.sections.phase t = .inside reason) →
        (∃ reason, s.sections.phase u = .inside reason) → t = u) start run ∧
      ((receivers p).outputs start run).filterMap handlerOutput =
        ((receivers p).translate executed start run).flatMap
            (fun e => handlerUntilSleep e.1 ++ handlerAfterSleep e.1 e.2) ++
          (insideOf ((receivers p).run start run).sections).flatMap handlerUntilSleep := by
  intro start
  have free : Exclusive start.sections := exclusive_idle
  constructor
  · have keeps : ∀ s i, Exclusive s.sections → Exclusive ((receivers p).next s i).sections :=
      fun s i exclusive => exclusive_run exclusive (sectionSteps s i)
    exact Machine.always_mono (receivers p) (fun _ exclusive _ _ inside inside' =>
      inside_unique exclusive inside inside') (Machine.always_of_keeps (receivers p) keeps free run)
  · obtain ⟨sections,handlers⟩ := handlers_follow p start run
    have atomic := sections_atomic (h := lpmHandler) free ((receivers p).translate sectionSteps start run)
    rw [← sections,← handlers,whole_outputs,
      Machine.translate_translate (receivers p) (guarded lpmHandler) (fun _ _ => rfl),
      Machine.translate_congr (receivers p) executed_eq] at atomic
    exact atomic

/-! ### The server -/

/-- The reason that an action reports from the netlink socket. -/
def socketReport : PausingAction → Option UInt32
  | .take (.call { op := .mcu (.setSocketWakeupSource sourceWakeup), .. }) => some sourceWakeup
  | _ => none

private theorem not_fromSocket {i : PausingAction} (other : ¬ i.fromSocket = true) : socketReport i = none := by
  unfold PausingAction.fromSocket at other
  unfold socketReport
  split
  · exact absurd rfl other
  · rfl

/-- A step reports the reason of the execution that it begins. -/
private theorem reports_step (s : Receivers) (i : ReceiversStep) :
    (serverActions s i).filterMap socketReport =
      ((guarded lpmHandler).translate entered s.sections (sectionSteps s i)).map WakeupReason.value := by
  cases i with
  | server i =>
    rw [serverActions]
    split
    · rfl
    · rename_i other
      simp only [List.filterMap_cons,not_fromSocket other]
      rfl
  | recvmsg receiver nlmsgData =>
    rw [sectionSteps]
    split <;> rfl
  | lock receiver =>
    cases phase : s.sections.phase receiver <;> cases held : s.sections.holder <;>
      simp [serverActions,sectionSteps,Machine.translate,entered,phase,held]
    rfl
  | _ => rfl

/-- The server runs through an interleaving of its own threads. -/
theorem server_interleaves (p : Platform) (s : Receivers) (run : List ReceiversStep) :
    ((receivers p).run s run).server = (pausing p).run s.server ((receivers p).translate serverActions s run) ∧
      ((receivers p).outputs s run).filterMap serverOutput =
        (pausing p).outputs s.server ((receivers p).translate serverActions s run) := by
  have step : ∀ (s : Receivers) (t : Pausing) (i : ReceiversStep), s.server = t →
      (((receivers p).view serverOutput).next s i).server = (pausing p).run t (serverActions s i) ∧
        ((receivers p).view serverOutput).out s i = (pausing p).outputs t (serverActions s i) := by
    rintro s t i rfl
    exact ⟨rfl,(outputs_split _ _).2⟩
  have followed := Machine.run_follows ((receivers p).view serverOutput) (pausing p) step
    (rfl : s.server = _) run
  rw [Machine.view_run,Machine.view_outputs,Machine.view_translate] at followed
  exact followed

/-- The server runs through an interleaving of its own threads, and the reasons come in from the socket in the
    order in which the executions of the handler end, with that of the one under way last. -/
theorem server_follows (p : Platform) (info : AdditionalLifecycleStateInfo) (created : Bool)
    (run : List ReceiversStep) :
    let start := Receivers.started p info created
    let final := (receivers p).run start run
    let interleaving := (receivers p).translate serverActions start run
    final.server = (pausing p).run (.started p info created) interleaving ∧
      ((receivers p).outputs start run).filterMap serverOutput =
        (pausing p).outputs (.started p info created) interleaving ∧
      interleaving.filterMap socketReport =
        (((receivers p).translate executed start run).map Prod.fst ++ insideOf final.sections).map
          WakeupReason.value := by
  intro start final interleaving
  obtain ⟨server,outputs⟩ := server_interleaves p start run
  refine ⟨server,outputs,?_⟩
  -- the executions that begin, and those that end
  have begin : interleaving.filterMap socketReport =
      ((guarded lpmHandler).translate entered start.sections ((receivers p).translate sectionSteps start run)).map
        WakeupReason.value := by
    rw [Machine.translate_hom (receivers p) rfl (fun _ _ => List.filterMap_append),
      Machine.translate_congr (receivers p) reports_step,
      ← Machine.translate_hom (receivers p) rfl (fun _ _ => List.map_append),
      Machine.translate_translate (receivers p) (guarded lpmHandler) (fun _ _ => rfl)]
  have ended : (guarded lpmHandler).translate (fun s i => (finished s i).map Prod.fst) start.sections
      ((receivers p).translate sectionSteps start run) = ((receivers p).translate executed start run).map Prod.fst := by
    rw [← Machine.translate_hom (guarded lpmHandler) rfl (fun _ _ => List.map_append),
      Machine.translate_translate (receivers p) (guarded lpmHandler) (fun _ _ => rfl),
      Machine.translate_congr (receivers p) executed_eq]
  have free : Exclusive start.sections := exclusive_idle
  have order := finished_order lpmHandler free ((receivers p).translate sectionSteps start run)
  rw [ended,← (handlers_follow p start run).1] at order
  rw [begin,← order]
  rfl

/-! ### The messages -/

/-- The message that a receiver takes in a step, if it takes one. -/
def taken (receiver : Nat) (s : Receivers) : ReceiversStep → List (List UInt8)
  | .recvmsg r nlmsgData =>
    if r = receiver ∧ r < s.receivers ∧ s.sections.phase r = .idle then [nlmsgData] else []
  | _ => []

/-- The execution of the handler that a receiver completes in a step, if it completes one. -/
def executedBy (receiver : Nat) (s : Receivers) : ReceiversStep → List (WakeupReason × Bool)
  | .unlock r socLifecycleIsAvailable => if r = receiver then executed s (.unlock r socLifecycleIsAvailable) else []
  | _ => []

/-- The tests give the reason of the table, and the local keeps its value when the table gives none. -/
theorem testedReason_eq (s : Receivers) (receiver : Nat) (nlmsgData : List UInt8) :
    testedReason s receiver nlmsgData = (tableReason nlmsgData).getD (s.eWakeupReason receiver) :=
  tested_reason _ _

/-- A job with the reason of the table is asked for, for each message. -/
private theorem asked_messages (receiver : Nat) (s : Receivers) (i : ReceiversStep) :
    List.Forall₂ (fun nlmsgData reason => ∀ known, tableReason nlmsgData = some known → reason = known)
      (taken receiver s i) ((guarded lpmHandler).translate (asked receiver) s.sections (sectionSteps s i)) := by
  cases i with
  | recvmsg r nlmsgData =>
    by_cases inLoop : r < s.receivers
    · by_cases own : r = receiver
      · subst own
        cases phase : s.sections.phase r with
        | idle =>
          simp only [taken,sectionSteps,inLoop,phase,Machine.translate,asked,if_true,true_and,List.append_nil]
          refine .cons ?_ .nil
          intro known reported
          rw [testedReason_eq,reported]; rfl
        | _ => simp [taken,sectionSteps,inLoop,phase,Machine.translate,asked]
      · simp [taken,sectionSteps,inLoop,own,Machine.translate,asked]
    · simp [taken,sectionSteps,inLoop,Machine.translate]
  | _ => exact .nil

private theorem executedBy_eq (receiver : Nat) (s : Receivers) (i : ReceiversStep) :
    (guarded lpmHandler).translate (finishedBy receiver) s.sections (sectionSteps s i) = executedBy receiver s i := by
  cases i with
  | recvmsg r nlmsgData =>
    rw [sectionSteps]
    split <;> rfl
  | unlock r available =>
    by_cases own : r = receiver
    · rw [executedBy,if_pos own,← executed_eq]
      simp [sectionSteps,Machine.translate,finishedBy,own]
    · simp [sectionSteps,executedBy,Machine.translate,finishedBy,own]
  | _ => rfl

/-- A list of values that agrees with a table where the table gives any is what the table gives exactly when it
    gives a value everywhere. -/
private theorem agrees_iff {α β : Type} {table : α → Option β} {keys : List α} {values : List β}
    (agree : List.Forall₂ (fun key value => ∀ known, table key = some known → value = known) keys values) :
    values = keys.filterMap table ↔ ∀ key ∈ keys, (table key).isSome = true := by
  constructor
  · intro equal key member
    rw [← Option.ne_none_iff_isSome]
    intro absent
    have fewer : (keys.filterMap table).length < keys.length :=
      List.length_filterMap_lt_length_iff_exists.mpr ⟨key,member,absent⟩
    rw [← equal,agree.length_eq] at fewer
    exact lt_irrefl _ fewer
  · intro given
    induction agree with
    | nil => rfl
    | cons here _ ih =>
      rw [List.forall_mem_cons] at given
      obtain ⟨known,found⟩ := Option.isSome_iff_exists.mp given.1
      rw [List.filterMap_cons_some found,here known found,← ih given.2]

/-- A receiver executes the handler for its own messages, one by one and in order, with the reason of the table for
    each message that has one. -/
private theorem messages_order (p : Platform) (s : Receivers) (receiver : Nat)
    (caughtUp : unfinished receiver s.sections = []) (run : List ReceiversStep) :
    List.Forall₂ (fun nlmsgData reason => ∀ known, tableReason nlmsgData = some known → reason = known)
      ((receivers p).translate (taken receiver) s run)
      (((receivers p).translate (executedBy receiver) s run).map Prod.fst ++
        unfinished receiver ((receivers p).run s run).sections) := by
  have order := asked_order lpmHandler (s := s.sections) receiver ((receivers p).translate sectionSteps s run)
  rw [caughtUp,List.nil_append,← Machine.translate_hom (guarded lpmHandler) rfl (fun _ _ => List.map_append),
    Machine.translate_translate (receivers p) (guarded lpmHandler) (fun _ _ => rfl),
    Machine.translate_translate (receivers p) (guarded lpmHandler) (fun _ _ => rfl),
    Machine.translate_congr (receivers p) (executedBy_eq receiver),← (handlers_follow p s run).1] at order
  rw [← order]
  exact Machine.translate_forall₂ (receivers p) (asked_messages receiver) s run

/-- Whatever the interleaving, a receiver executes the handler for its own messages, one by one and in order,
    with the reasons of the table, exactly when each of them begins in a known way. -/
theorem messages_handled_iff (p : Platform) (info : AdditionalLifecycleStateInfo) (created : Bool)
    (run : List ReceiversStep) (receiver : Nat) :
    let start := Receivers.started p info created
    let messages := (receivers p).translate (taken receiver) start run
    ((receivers p).translate (executedBy receiver) start run).map Prod.fst ++
        unfinished receiver ((receivers p).run start run).sections = messages.filterMap tableReason ↔
      ∀ nlmsgData ∈ messages, Known nlmsgData := by
  intro start messages
  simp only [known_iff]
  exact agrees_iff (messages_order p start receiver rfl run)

/-! ### Progress -/

/-- The handler of a receiver ends, and a receiver that waits for `g_mutex` is given it some time if it is free again
    and again. -/
structure HandlersGoOn (p : Platform) (s : Receivers) (schedule : ℕ → ReceiversStep) : Prop where
  lock : ∀ receiver, (receivers p).StronglyFair s schedule
    (fun s => (∃ reason, s.sections.phase receiver = .waiting reason) ∧ s.sections.holder = none)
    (· = .lock receiver)
  unlock : ∀ receiver, (receivers p).Fair s schedule (fun s => ∃ reason, s.sections.phase receiver = .inside reason)
    (fun i => ∃ socLifecycleIsAvailable, i = .unlock receiver socLifecycleIsAvailable)

private theorem carries_lock (p : Platform) :
    CarriesLock lpmHandler (receivers p) Receivers.sections (fun receiver i => i = .lock receiver) where
  step := by
    intro s i
    show (guarded lpmHandler).run s.sections (sectionSteps s i) = s.sections ∨
      ∃ step, (guarded lpmHandler).run s.sections (sectionSteps s i) = (guarded lpmHandler).next s.sections step
    cases i with
    | recvmsg receiver nlmsgData =>
      rw [sectionSteps]
      split
      · exact .inr ⟨_,rfl⟩
      · exact .inl rfl
    | lock receiver => exact .inr ⟨.enter receiver,rfl⟩
    | unlock receiver available => exact .inr ⟨.leave receiver available,rfl⟩
    | _ => exact .inl rfl
  enter := by
    rintro s receiver _ rfl
    rfl

private theorem unlock_leaves (p : Platform) (s : Receivers) (receiver : Nat) (i : ReceiversStep)
    (unlocks : ∃ socLifecycleIsAvailable, i = .unlock receiver socLifecycleIsAvailable) :
    ∃ r, ((receivers p).next s i).sections = (guarded lpmHandler).next s.sections (.leave receiver r) := by
  obtain ⟨available,rfl⟩ := unlocks
  exact ⟨available,rfl⟩

/-- In every schedule in which handlers end and `g_mutex` is given to those that wait for it, each receiver is again
    and again through with its messages, and then it has executed the handler for each of them, in order, with the
    reason of the table if there is one. -/
theorem messages_executed (p : Platform) (info : AdditionalLifecycleStateInfo) (created : Bool)
    (schedule : ℕ → ReceiversStep) (goesOn : HandlersGoOn p (.started p info created) schedule) (receiver : Nat) :
    let start := Receivers.started p info created
    ∀ n, ∃ m, n ≤ m ∧ ((receivers p).reached start schedule m).sections.phase receiver = .idle ∧
      List.Forall₂ (fun nlmsgData execution => ∀ known, tableReason nlmsgData = some known → execution.1 = known)
        ((receivers p).translate (taken receiver) start (Machine.before schedule m))
        ((receivers p).translate (executedBy receiver) start (Machine.before schedule m)) := by
  intro start n
  obtain ⟨m,later,idle⟩ := idle_again (carries_lock p) (s := start) (unlock_leaves p) exclusive_idle goesOn.lock
    goesOn.unlock receiver n
  have order := messages_order p start receiver rfl (Machine.before schedule m)
  have finished : unfinished receiver ((receivers p).run start (Machine.before schedule m)).sections = [] := by
    have idle' : ((receivers p).run start (Machine.before schedule m)).sections.phase receiver = .idle := idle
    rw [unfinished,idle']
  rw [finished,List.append_nil,List.forall₂_map_right_iff] at order
  exact ⟨m,later,idle,order⟩

/-- Two receivers take a message each, and then `g_mutex` one after the other. -/
def receiversInTurn : ℕ → ReceiversStep
  | 0 => .qlLpmPthread true true true true .NON_TCP
  | 1 => .qlLpmPthread true true true true .NON_TCP
  | 2 => .recvmsg 0 (bytes "sms")
  | 3 => .recvmsg 1 (bytes "rtc")
  | 4 => .lock 1
  | 5 => .unlock 1 true
  | 6 => .lock 0
  | 7 => .unlock 0 true
  | _ => .server .pauseEnd

/-- Both messages are executed some time. -/
theorem receivers_inTurn :
    let start := Receivers.started samplePlatform sampleInfo false
    ∃ m, 8 ≤ m ∧ ((receivers samplePlatform).reached start receiversInTurn m).sections.phase 0 = .idle ∧
      List.Forall₂ (fun nlmsgData execution => ∀ known, tableReason nlmsgData = some known → execution.1 = known)
        ((receivers samplePlatform).translate (taken 0) start (Machine.before receiversInTurn m))
        ((receivers samplePlatform).translate (executedBy 0) start (Machine.before receiversInTurn m)) := by
  intro start
  have idle : ∀ k receiver, ((receivers samplePlatform).reached start receiversInTurn (k + 8)).sections.phase receiver =
      .idle := by
    intro k receiver
    induction k with
    | zero =>
      have phase : ((receivers samplePlatform).reached start receiversInTurn 8).sections.phase =
          Function.update (Function.update (Function.update (Function.update (Function.update (Function.update
            (fun _ => .idle) 0 (.waiting .SMS)) 1 (.waiting .RTC)) 1 (.inside .RTC)) 1 .idle) 0 (.inside .SMS))
            0 .idle := rfl
      rw [Nat.zero_add,phase]
      by_cases first : receiver = 0
      · simp [first]
      · by_cases second : receiver = 1
        · simp [second]
        · simp [first,second]
    | succ k ih =>
      rw [Nat.add_right_comm,Machine.reached_succ]
      exact ih
  have goesOn : HandlersGoOn samplePlatform start receiversInTurn := by
    constructor
    · intro receiver n again
      obtain ⟨m,later,⟨reason,waiting⟩,_⟩ := again (n + 8) (Nat.le_add_right n 8)
      obtain ⟨k,rfl⟩ := Nat.exists_eq_add_of_le' (Nat.le_trans (Nat.le_add_left 8 n) later)
      rw [idle k receiver] at waiting
      cases waiting
    · intro receiver n always
      obtain ⟨reason,inside⟩ := always (n + 8) (Nat.le_add_right n 8)
      rw [idle n receiver] at inside
      cases inside
  exact messages_executed samplePlatform sampleInfo false receiversInTurn goesOn 0 8

/-- A thread fails after it has opened its socket. -/
def leaks : ReceiversStep → Bool
  | .qlLpmPthread created socket bind malloc _ => created && socket && !(bind && malloc)
  | _ => false

/-- No socket is closed: besides those of the receivers, those of the threads that failed are open. -/
theorem sockets_open (p : Platform) (s : Receivers) (run : List ReceiversStep) :
    ((receivers p).run s run).sockets + s.receivers =
      s.sockets + ((receivers p).run s run).receivers + run.countP leaks := by
  induction run generalizing s with
  | nil => rfl
  | cons i rest ih =>
    have step : ((receivers p).next s i).sockets + s.receivers =
        s.sockets + ((receivers p).next s i).receivers + if leaks i then 1 else 0 := by
      show (threadStep s i).sockets + _ = _ + (threadStep s i).receivers + _
      cases i with
      | qlLpmPthread created socket bind malloc garbage =>
        cases created <;> cases socket <;> cases bind <;> cases malloc <;> simp [threadStep,leaks] <;> omega
      | recvmsg r nlmsgData =>
        rw [threadStep]
        split <;> rfl
      | _ => rfl
    have later := ih ((receivers p).next s i)
    rw [List.countP_cons]
    show ((receivers p).run ((receivers p).next s i) rest).sockets + _ =
      _ + ((receivers p).run ((receivers p).next s i) rest).receivers + _
    omega

end LifecycleMgr
