import LifecycleMgr.Runs
import LifecycleMgr.Requests

namespace LifecycleMgr
open Runs

/-- A handler of an application with the context it was registered with. -/
structure LayeredHandler where
  functionHdler : Nat
  contextPtr : Option Nat
  deriving DecidableEq

/-- The servers, the handler of an application, and the payloads of the reports that the event
    loop has not delivered yet. -/
structure EventLoop where
  manager : Manager
  handler : Option LayeredHandler
  queue : List BroadcastInfoPlus
  deriving DecidableEq

/-- What happens between the servers, the event loop and the application. -/
inductive LoopOutput
  | reported (payload : BroadcastInfoPlus)
  | called (functionHdler : Nat) (record : BroadcastInfoPlus) (contextPtr : Option Nat)
  deriving DecidableEq

inductive LoopStep
  | reportLcStateEventPlus (lcState : LCState) (lcAdditionalInfo : AdditionalLifecycleStateInfo)
  | lifecycle_RegisterClient (name : ClientName)
  | dispatch
  deriving DecidableEq

/-- Nothing is registered for a null handler. -/
def lifecycleAddELifeCycleHandler (s : EventLoop) (handlerPtr : Option Nat) (contextPtr : Option Nat) : EventLoop :=
  match handlerPtr with
  | some functionHdler => { s with handler := some ⟨functionHdler,contextPtr⟩ }
  | none => s

/-- The handler is called with the static record if the payload and the handler are not null. -/
def onLifeCycleEvent (m : Manager) (pData : Option BroadcastInfoPlus) (handler : Option LayeredHandler) :
    List LoopOutput :=
  match pData,handler with
  | some _,some h => [.called h.functionHdler m.broadcastInfo h.contextPtr]
  | _,_ => []

/-- The payloads that a call to `le_event_Report` queues. -/
def payloads (outputs : List Output) : List BroadcastInfoPlus :=
  outputs.filterMap (fun o => match o with
    | .leEventReport record => some record
    | _ => none)

def loopStep (p : Platform) (s : EventLoop) : LoopStep → EventLoop × List LoopOutput
  | .reportLcStateEventPlus lcState lcAdditionalInfo =>
    let reported := reportLcStateEventPlus s.manager lcState lcAdditionalInfo
    ({ s with manager := reported.1, queue := s.queue ++ payloads reported.2 },
      (payloads reported.2).map .reported)
  | .lifecycle_RegisterClient name => ({ s with manager := (lifecycleRegisterClient p s.manager name).1 },[])
  | .dispatch =>
    match s.queue with
    | [] => (s,[])
    | pData :: rest => ({ s with queue := rest },onLifeCycleEvent s.manager (some pData) s.handler)

def eventLoop (p : Platform) : Machine EventLoop LoopStep LoopOutput := ⟨loopStep p⟩

/-- The payloads reported, in order. -/
def reports (outputs : List LoopOutput) : List BroadcastInfoPlus :=
  outputs.filterMap (fun o => match o with
    | .reported payload => some payload
    | _ => none)

/-- The records the handler was called with, in order. -/
def calls (outputs : List LoopOutput) : List BroadcastInfoPlus :=
  outputs.filterMap (fun o => match o with
    | .called _ record _ => some record
    | _ => none)

/-- A payload that is delivered still equals the static record. -/
def DeliveredUnchanged (s : EventLoop) (i : LoopStep) : Prop :=
  i = .dispatch → ∀ payload ∈ s.queue.head?, payload = s.manager.broadcastInfo

private theorem reports_append (front back : List LoopOutput) :
    reports (front ++ back) = reports front ++ reports back := List.filterMap_append

private theorem calls_append (front back : List LoopOutput) : calls (front ++ back) = calls front ++ calls back :=
  List.filterMap_append

private theorem reports_reported (l : List BroadcastInfoPlus) : reports (l.map .reported) = l := by
  rw [reports,List.filterMap_map]
  exact List.filterMap_some

private theorem calls_reported (l : List BroadcastInfoPlus) : calls (l.map .reported) = [] := by
  rw [calls,List.filterMap_map,List.filterMap_eq_nil_iff]
  exact fun _ _ => rfl

/-- What the handler is called with and what is left in the queue are the payloads queued before and
    those reported, in order, exactly when each payload equals the static record at its delivery. -/
private theorem accounted_iff (p : Platform) {s : EventLoop} (registered : s.handler.isSome = true)
    (run : List LoopStep) :
    calls ((eventLoop p).outputs s run) ++ ((eventLoop p).run s run).queue =
        s.queue ++ reports ((eventLoop p).outputs s run) ↔
      (eventLoop p).Throughout DeliveredUnchanged s run := by
  induction run generalizing s with
  | nil => exact iff_of_true (List.append_nil _).symm trivial
  | cons i rest ih =>
    rw [Machine.outputs,Machine.run,calls_append,reports_append,Machine.Throughout]
    cases i with
    | reportLcStateEventPlus lcState lcAdditionalInfo =>
      have undelivered : DeliveredUnchanged s (.reportLcStateEventPlus lcState lcAdditionalInfo) := by
        intro dispatched
        cases dispatched
      have later := @ih ((eventLoop p).next s (.reportLcStateEventPlus lcState lcAdditionalInfo)) registered
      have queued : ((eventLoop p).next s (.reportLcStateEventPlus lcState lcAdditionalInfo)).queue =
          s.queue ++ reports ((eventLoop p).out s (.reportLcStateEventPlus lcState lcAdditionalInfo)) :=
        congrArg (s.queue ++ ·) (reports_reported _).symm
      have silent : calls ((eventLoop p).out s (.reportLcStateEventPlus lcState lcAdditionalInfo)) = [] :=
        calls_reported _
      rw [queued,List.append_assoc] at later
      rw [silent,List.nil_append,later,and_iff_right undelivered]
    | lifecycle_RegisterClient name =>
      have undelivered : DeliveredUnchanged s (.lifecycle_RegisterClient name) := by
        intro dispatched
        cases dispatched
      rw [and_iff_right undelivered]
      exact @ih ((eventLoop p).next s (.lifecycle_RegisterClient name)) registered
    | dispatch =>
      obtain ⟨m,handler,queue⟩ := s
      obtain ⟨h,rfl⟩ := Option.isSome_iff_exists.mp registered
      cases queue with
      | nil =>
        have undelivered : DeliveredUnchanged ⟨m,some h,[]⟩ .dispatch := by
          intro _ payload member
          cases member
        rw [and_iff_right undelivered]
        exact @ih ⟨m,some h,[]⟩ rfl
      | cons payload waiting =>
        have delivered : DeliveredUnchanged ⟨m,some h,payload :: waiting⟩ .dispatch ↔ m.broadcastInfo = payload := by
          simp [DeliveredUnchanged,eq_comm]
        have later := @ih ⟨m,some h,waiting⟩ rfl
        rw [delivered]
        show m.broadcastInfo :: (calls _ ++ _) = payload :: (waiting ++ reports _) ↔ _
        rw [List.cons_eq_cons]
        exact and_congr_right fun _ => later

/-- A handler registered before the first report is called with exactly the reported payloads, in order and
    but for those still queued, exactly when each payload equals the static record at its delivery. -/
theorem delivered_iff (p : Platform) (m : Manager) (functionHdler : Nat) (contextPtr : Option Nat)
    (run : List LoopStep) :
    let start := lifecycleAddELifeCycleHandler ⟨advertiseEvents m,none,[]⟩ (some functionHdler) contextPtr
    calls ((eventLoop p).outputs start run) ++ ((eventLoop p).run start run).queue =
        reports ((eventLoop p).outputs start run) ↔
      (eventLoop p).Throughout DeliveredUnchanged start run :=
  accounted_iff p rfl run

/-- A state is reported, then another one before the first is delivered. -/
def reportTwice : List LoopStep :=
  [.reportLcStateEventPlus .NAD_ON sampleInfo,.reportLcStateEventPlus .NAD_SHUTDOWN sampleInfo,.dispatch]

/-- The first call of the handler carries the second payload. -/
theorem overwritten_payload :
    let start := lifecycleAddELifeCycleHandler ⟨advertiseEvents (.constructed samplePlatform sampleInfo),none,[]⟩
      (some 1) none
    calls ((eventLoop samplePlatform).outputs start reportTwice) ++
        ((eventLoop samplePlatform).run start reportTwice).queue ≠
      reports ((eventLoop samplePlatform).outputs start reportTwice) := by
  decide

end LifecycleMgr
