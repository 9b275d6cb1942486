import LifecycleMgr.Frames
import LifecycleMgr.RegistryLock

/-!
Calls into the registry one after the other. Whatever the interleaving, of each other
and with the threads of the server, they do what they do at once, in the order in which
their searches end: the server and `m_clients` with the write that is still to come are
as if each call were executed there, with the power state that it has read, and each
call returns what it returns then (`registry_linearizes`). So an interleaving in which
calls into the registry are taken at once leaves nothing out but that a registration may
answer and keep a power state that is no longer current.
-/
namespace LifecycleMgr
open Runs Sections Keyed

/-! ### Calls at once -/

/-- The manager as a call has read it. -/
def readBy (s : Pausing) (read : LCState) : Manager := { s.threads.manager with nadLifecycleState := read }

def executionStep (p : Platform) (s : Pausing) : Execution → Pausing × List RegistryOutput
  | .server i =>
    let taken := pausingStep p s i
    (taken.1,taken.2.map .server)
  | .call t read call =>
    (s.withClients (registryNext p (readBy s read) call).mClients,
      (registrySends (readBy s read) call).map .server ++ [.returned t (registryResult p (readBy s read) call)])

/-- The server under all interleavings, where a call into the registry is executed at once. -/
def executions (p : Platform) : Machine Pausing Execution RegistryOutput := ⟨executionStep p⟩

/-- The clients with the write that is still to come. -/
def Place.settled (clients : List Client) : Place → List Client
  | .calling it => writeAt clients it .LC_BUB
  | _ => clients

/-- The clients with the write of the owner of the mutex that is still to come. -/
def RegistryThreads.settledClients (s : RegistryThreads) : List Client :=
  match s.mClientsMtx with
  | some t => (s.place t).settled s.manager.mClients
  | none => s.manager.mClients

def RegistryThreads.settled (s : RegistryThreads) : Pausing := s.server.withClients s.settledClients

/-- The result that a thread has still to return. -/
def Place.owed : Place → List RegistryResult
  | .calling _ => [.stayActive .LC_STS_OK]
  | .unlocking result | .unlocked result | .printLocking result | .printing result | .returning result => [result]
  | _ => []

/-- The call of a thread that has not taken effect. -/
def Place.pending : Place → List RegistryCall
  | .locking call _ | .searching call _ _ => [call]
  | _ => []

/-! ### What the server does not look at -/

theorem blind_withClients {stepped : Manager → Manager × List Output} (blind : Blind stepped) (m : Manager)
    (clients : List Client) : stepped { m with mClients := clients } =
      ({ (stepped m).1 with mClients := clients },(stepped m).2) := by
  obtain ⟨record',same,kept⟩ := blind m m.broadcastInfo clients
  rw [kept rfl] at same
  exact same

private theorem test_withClients (m : Manager) (clients : List Client) :
    lcWakeupTest { m with mClients := clients } =
      ({ (lcWakeupTest m).1 with mClients := clients },(lcWakeupTest m).2) := by
  have notified := blind_withClients notify_blind { m with nadLifecycleState := .NAD_EMERGENCY_LAW } clients
  simp only [lcWakeupTest]
  split
  · rw [notified]
  · split <;> rfl

private theorem entry_withClients (p : Platform) (m : Manager) (clients : List Client) (powerMode : Int) :
    setPowerModeEntry p { m with mClients := clients } powerMode =
      ({ (setPowerModeEntry p m powerMode).1 with mClients := clients },(setPowerModeEntry p m powerMode).2) := by
  obtain ⟨record',entered,kept⟩ := entry_blind p m m.broadcastInfo clients powerMode
  rw [kept rfl] at entered
  exact entered

private theorem step_withClients (p : Platform) (m : Manager) (clients : List Client) {c : Call}
    (unregistered : c.op.registryCall p = none) : managerStep p { m with mClients := clients } c =
      ({ (managerStep p m c).1 with mClients := clients },(managerStep p m c).2) := by
  by_cases reads : c.op = .legato .lifecycle_GetLifeCycleState_plus
  · obtain ⟨op,env⟩ := c
    obtain rfl : op = _ := reads
    rfl
  · exact blind_withClients (step_blind p c unregistered reads) m clients

private theorem call_withClients (p : Platform) (s : Threads) (clients : List Client) {c : Call}
    (unregistered : c.op.registryCall p = none) :
    callStep p { s with manager := { s.manager with mClients := clients } } c =
      ({ (callStep p s c).1 with manager := { (callStep p s c).1.manager with mClients := clients } },
        (callStep p s c).2) := by
  have stepped := step_withClients p s.manager clients unregistered
  obtain ⟨op,env⟩ := c
  cases op with
  | dbus request =>
    cases request with
    | LC_Wakeup => simp only [callStep,test_withClients]
    | _ => simp only [callStep,stepped]
  | legato request => simp only [callStep,stepped]
  | mcu update =>
    cases update with
    | setPowerMode powerMode => simp only [callStep,entry_withClients]
    | _ => simp only [callStep,stepped]

private theorem action_withClients (p : Platform) (s : Threads) (clients : List Client) {a : Action}
    (unregistered : a.registryCall p = none) :
    actionStep p { s with manager := { s.manager with mClients := clients } } a =
      ({ (actionStep p s a).1 with manager := { (actionStep p s a).1.manager with mClients := clients } },
        (actionStep p s a).2) := by
  have enabled_iff : Enabled { s with manager := { s.manager with mClients := clients } } a ↔ Enabled s a := by
    cases a with
    | call c => obtain ⟨op,env⟩ := c; cases op <;> rfl
    | _ => rfl
  by_cases enabled : Enabled s a
  · simp only [actionStep,enabled_iff,if_pos enabled]
    cases a with
    | call c => exact call_withClients p s clients unregistered
    | wakeupWrite => simp only [blind_withClients write_blind s.manager clients]
    | tcuOnlyExpiry => rfl
  · simp only [actionStep,enabled_iff,if_neg enabled]

/-- An action of the server that makes no call into the registry does the same whatever the clients are. -/
theorem server_blind (p : Platform) (s : Pausing) (clients : List Client) {i : PausingAction}
    (unregistered : i.registryCall p = none) : pausingStep p (s.withClients clients) i =
      ((pausingStep p s i).1.withClients clients,(pausingStep p s i).2) := by
  cases i with
  | take a =>
    have blocked_iff : (s.withClients clients).Blocked a ↔ s.Blocked a := Iff.rfl
    have pauses_iff : Pauses (s.withClients clients).threads a ↔ Pauses s.threads a := by
      cases a with
      | call c => obtain ⟨op,env⟩ := c; cases op <;> rfl
      | _ => rfl
    have taken := action_withClients p s.threads clients unregistered
    simp only [pausingStep,blocked_iff,pauses_iff]
    by_cases blocked : s.Blocked a
    · simp only [if_pos blocked]
    · by_cases pauses : Pauses s.threads a
      · simp only [if_neg blocked,if_pos pauses]
        rfl
      · simp only [if_neg blocked,if_neg pauses]
        rw [show actionStep p (s.withClients clients).threads a = _ from taken]
        rfl
  | pauseEnd =>
    have notified := blind_withClients notify_blind s.threads.manager clients
    by_cases inPause : s.pausing = true
    · have inPause' : (s.withClients clients).pausing = true := inPause
      simp only [pausingStep,if_pos inPause,if_pos inPause',evaluateAfterPause]
      rw [show notifyAllRegisteredClientsNadStateInfo (s.withClients clients).threads.manager = _ from notified]
      rfl
    · have awake : ¬ (s.withClients clients).pausing = true := inPause
      simp only [pausingStep,if_neg inPause,if_neg awake]

/-! ### The search -/

section
variable {p : Platform} {clients : List Client}

/-- What a search has come to that has passed no client of the name. -/
inductive ComesTo (clients : List Client) (name : ClientName) (it : Nat) : Option (Option Nat) → Prop
  | next (passed : ∀ c ∈ clients.take (it + 1), c.name ≠ name) : ComesTo clients name it none
  | atEnd (absent : name ∉ clients.map Client.name) : ComesTo clients name it (some none)
  | client (present : name ∈ clients.map Client.name)
      (erased : clients.eraseP (fun c => c.name == name) = clients.eraseIdx it)
      (written : ∀ v, updateFirst Client.name name (fun c => { c with stayActive := v }) clients =
        writeAt clients it v) : ComesTo clients name it (some (some it))

private theorem search_comesTo {name : ClientName} {it : Nat} (passed : ∀ c ∈ clients.take it, c.name ≠ name) :
    ComesTo clients name it (searchEnds clients name it) := by
  rw [searchEnds]
  cases here : clients[it]? with
  | none => exact .atEnd (absent_of_passed passed here)
  | some c =>
    by_cases same : c.name = name
    · simp only [if_pos same]
      have present : name ∈ clients.map Client.name := List.mem_map.mpr ⟨c,List.mem_of_getElem? here,same⟩
      exact .client present (eraseP_of_passed passed here same) (fun v => updateFirst_of_passed passed here same)
    · simp only [if_neg same]
      refine .next ?_
      intro d member
      rw [List.take_add_one,here,List.mem_append] at member
      rcases member with before | last
      · exact passed d before
      · obtain rfl : d = c := by simpa using last
        exact same

/-- The end of the search is the call at once, with the power state that it has read. -/
def EndsAsCall (p : Platform) (m : Manager) (call : RegistryCall) (locals : Locals) (found : Option Nat) : Prop :=
  let read : Manager := { m with nadLifecycleState := locals.read m }
  let ended := endSearch m found locals
  ended.2.2.settled ended.1 = (registryNext p read call).mClients ∧ ended.2.1 = registrySends read call ∧
    ended.2.2.owed = [registryResult p read call]

section
variable {m : Manager} {it : Nat} {found : Option Nat}

private theorem register_ends {name : ClientName} (nonblank : cleanClientName p.charSigned name ≠ [])
    (pState state : LCState) (pStatus : LCStatus)
    (comesTo : ComesTo m.mClients (cleanClientName p.charSigned name) it (some found)) :
    EndsAsCall p m (.register name pState pStatus)
      (.register { name := cleanClientName p.charSigned name, lcState := state, stayActive := .LC_RELEASE } pStatus)
      found := by
  let read : Manager := { m with nadLifecycleState := state }
  cases comesTo with
  | atEnd absent =>
    by_cases entered : pStatus = .LC_STS_OK_CLIENT_ALREADY_REGISTERED
    · have kept := @register_kept p read name pState pStatus nonblank (.inr entered)
      simp only [EndsAsCall,Locals.read,registryNext,registryResult,read] at kept ⊢
      simp only [kept]
      subst entered
      exact ⟨rfl,rfl,rfl⟩
    · have added := @register_new p read name pState pStatus nonblank absent entered
      simp only [EndsAsCall,Locals.read,registryNext,registryResult,read] at added ⊢
      simp only [added]
      simp [endSearch,entered,Place.settled,Place.owed,registrySends]
  | client present erased written =>
    have kept := @register_kept p read name pState pStatus nonblank (.inl present)
    simp only [EndsAsCall,Locals.read,registryNext,registryResult,read] at kept ⊢
    simp only [kept]
    exact ⟨rfl,rfl,rfl⟩

private theorem unRegister_ends {name : ClientName} (nonblank : cleanClientName p.charSigned name ≠ [])
    (comesTo : ComesTo m.mClients (cleanClientName p.charSigned name) it (some found)) :
    EndsAsCall p m (.unRegister name) (.unRegister (cleanClientName p.charSigned name)) found := by
  cases comesTo with
  | atEnd absent =>
    have answered := unRegister_absent (m := m) nonblank absent
    simp only [EndsAsCall,Locals.read,registryNext,registryResult,answered]
    exact ⟨rfl,rfl,rfl⟩
  | client present erased written =>
    have answered := unRegister_present (m := m) nonblank present
    simp only [EndsAsCall,Locals.read,registryNext,registryResult,answered,erased]
    exact ⟨rfl,rfl,rfl⟩

private theorem stayActive_ends (name : ClientName) (v : LCStayActive)
    (comesTo : ComesTo m.mClients name it (some found)) :
    EndsAsCall p m (.stayActive name v) (.stayActive name v) found := by
  cases comesTo with
  | atEnd absent =>
    have refused := stayActive_unknown (m := m) absent v
    simp only [EndsAsCall,Locals.read,registryNext,registryResult,registrySends,refused]
    exact ⟨rfl,rfl,rfl⟩
  | client present erased written =>
    by_cases allowed : StayActiveAllowed m.nadLifecycleState m.nadAdditionalInfo v
    · have granted := stayActive_granted (m := m) present allowed
      simp only [EndsAsCall,Locals.read,registryNext,registryResult,registrySends,granted,setStayActive,written]
      rcases allowed with rfl | ⟨rfl,alive⟩ | ⟨rfl,alive,can,battery⟩
      · simp [endSearch,Place.settled,Place.owed]
      · simp [endSearch,alive,Place.settled,Place.owed]
      · simp [endSearch,alive,can,battery,Place.settled,Place.owed]
    · have refused := stayActive_refused (m := m) present allowed
      simp only [EndsAsCall,Locals.read,registryNext,registryResult,registrySends,refused]
      simp only [StayActiveAllowed,not_or] at allowed
      simp only [endSearch,if_neg allowed.1,if_neg allowed.2.1,if_neg allowed.2.2,Place.settled,Place.owed,true_and]

end
end

/-! ### One after the other -/

/-- A call at the mutex has the locals of its arguments, and a search has passed no client of the name. -/
def Place.Sound (p : Platform) (clients : List Client) : Place → Prop
  | .locking call locals => ∃ m, beginCall p m call = .locking call locals
  | .searching call locals it =>
    (∃ m, beginCall p m call = .locking call locals) ∧ ∀ c ∈ clients.take it, c.name ≠ locals.name
  | _ => True

structure Orderly (p : Platform) (s : RegistryThreads) : Prop where
  exclusive : Exclusive s.mutex
  sound : ∀ t, (s.place t).Sound p s.manager.mClients

section
variable {p : Platform} {s : RegistryThreads}

/-- Outside the critical section, what holds of a place does not depend on the clients. -/
private theorem sound_outside {clients clients' : List Client} {place : Place} (outside : place.phase ≠ .inside ())
    (sound : place.Sound p clients) : place.Sound p clients' := by
  cases place with
  | searching call locals it => exact absurd rfl outside
  | _ => exact sound

/-- A thread that owns the mutex shuts out the others. -/
private theorem others_outside (exclusive : Exclusive s.mutex) {t u : Nat} (inside : (s.place t).phase = .inside ())
    (other : u ≠ t) : (s.place u).phase ≠ .inside () :=
  fun inside' => other (inside_unique exclusive ⟨(),inside'⟩ ⟨(),inside⟩)

private theorem sound_move {clients : List Client} (sound : ∀ u, (s.place u).Sound p clients) {t : Nat} {place : Place}
    (here : place.Sound p clients) (u : Nat) : (Function.update s.place t place u).Sound p clients := by
  by_cases own : u = t
  · subst own
    rw [Function.update_self]
    exact here
  · rw [Function.update_of_ne own]
    exact sound u

/-- The owner of the mutex may write the clients. -/
private theorem sound_write (orderly : Orderly p s) {t : Nat} (inside : (s.place t).phase = .inside ())
    (clients : List Client) {place : Place} (here : place.Sound p clients) (u : Nat) :
    (Function.update s.place t place u).Sound p clients := by
  by_cases own : u = t
  · subst own
    rw [Function.update_self]
    exact here
  · rw [Function.update_of_ne own]
    exact sound_outside (others_outside orderly.exclusive inside own) (orderly.sound u)

private theorem sound_quiet {t : Nat} {place place' : Place} {owner owner' : Option Nat} {clients : List Client}
    (moves : Quiet clients t place owner place' owner') (sound : place.Sound p clients) : place'.Sound p clients := by
  cases moves with
  | enters call locals => exact ⟨sound,fun _ member => absurd member List.not_mem_nil⟩
  | passes call locals it owner goesOn =>
    obtain ⟨began,passed⟩ := sound
    refine ⟨began,?_⟩
    have comesTo := search_comesTo passed
    rw [goesOn] at comesTo
    cases comesTo with
    | next passed' => exact passed'
  | _ => trivial

theorem clients_server (p : Platform) (s : Pausing) {i : PausingAction}
    (unregistered : i.registryCall p = none) :
    (pausingStep p s i).1.threads.manager.mClients = s.threads.manager.mClients := by
  have blind := server_blind p s s.threads.manager.mClients unregistered
  have stays : s.withClients s.threads.manager.mClients = s := rfl
  rw [stays] at blind
  exact congrArg (fun r : Pausing × List Output => r.1.threads.manager.mClients) blind

theorem orderly_step (i : RegistryStep) (orderly : Orderly p s) :
    Orderly p ((registryThreads p).next s i) := by
  refine ⟨exclusive_carried (carries_mutex p) s i orderly.exclusive,?_⟩
  show ∀ t, ((registryThreadsStep p s i).1.place t).Sound p (registryThreadsStep p s i).1.manager.mClients
  have steps := steps_of p s i
  generalize registryThreadsStep p s i = stepped at steps ⊢
  generalize takesEffect p s i = executed at steps
  cases steps with
  | nothing => exact orderly.sound
  | server i unregistered =>
    have kept := clients_server p s.server unregistered
    intro t
    show (s.place t).Sound p (pausingStep p s.server i).1.threads.manager.mClients
    rw [kept]
    exact orderly.sound t
  | blank => exact sound_move orderly.sound trivial
  | begins t call locals outside began => exact sound_move orderly.sound ⟨_,began⟩
  | quiet t i own place owner moves => exact sound_move orderly.sound (sound_quiet moves (orderly.sound t))
  | ends t call locals it found searches ended =>
    refine sound_write orderly (by rw [searches]; rfl) _ ?_
    rcases endSearch_inside s.manager found locals with ⟨it,inside⟩ | ⟨result,inside⟩ <;> rw [inside] <;> trivial
  | writes t it calls => exact sound_write orderly (by rw [calls]; rfl) _ trivial
  | returns => exact sound_move orderly.sound trivial

/-! The clients with the write still to come. -/

private theorem settled_owner {s : RegistryThreads} {t : Nat} (owns : s.mClientsMtx = some t) :
    s.settledClients = (s.place t).settled s.manager.mClients := by
  rw [RegistryThreads.settledClients,owns]

private theorem settled_free {s : RegistryThreads} (free : s.mClientsMtx = none) :
    s.settledClients = s.manager.mClients := by
  rw [RegistryThreads.settledClients,free]

private theorem settled_own {s : RegistryThreads} {t : Nat} (owns : s.mClientsMtx = some t) (server : Pausing)
    (place : Place) : RegistryThreads.settledClients ⟨server,Function.update s.place t place,s.mClientsMtx⟩ =
      place.settled server.threads.manager.mClients := by
  rw [settled_owner (s := ⟨server,_,_⟩) owns]
  show (Function.update s.place t place t).settled _ = _
  rw [Function.update_self]; rfl

private theorem owner_of (exclusive : Exclusive s.mutex) {t : Nat} (inside : (s.place t).phase = .inside ()) :
    s.mClientsMtx = some t := (exclusive t).mp ⟨(),inside⟩

/-- A thread that is not inside settles nothing. -/
private theorem settled_move (exclusive : Exclusive s.mutex) {t : Nat} (outside : (s.place t).phase ≠ .inside ())
    (place : Place) : (s.move t place).settledClients = s.settledClients := by
  cases held : s.mClientsMtx with
  | none => rw [settled_free held,settled_free (s := s.move t place) held]; rfl
  | some u =>
    obtain ⟨_,inside⟩ := (exclusive u).mpr held
    have other : u ≠ t := by
      rintro rfl
      exact outside inside
    have kept : (s.move t place).place u = s.place u := Function.update_of_ne other _ _
    rw [settled_owner held,settled_owner (s := s.move t place) held,kept]; rfl

private theorem settled_quiet (exclusive : Exclusive s.mutex) {t : Nat} {place : Place} {owner : Option Nat}
    (moves : Quiet s.manager.mClients t (s.place t) s.mClientsMtx place owner) :
    RegistryThreads.settledClients { s.move t place with mClientsMtx := owner } = s.settledClients := by
  generalize here : s.place t = before at moves
  generalize held : s.mClientsMtx = owned at moves
  have owns : before.phase = .inside () → s.mClientsMtx = some t := fun inside =>
    owner_of exclusive (here ▸ inside)
  cases moves with
  | enters call locals | prints result =>
    rw [settled_free held,settled_owner rfl]
    show (Function.update s.place t _ t).settled _ = _
    rw [Function.update_self]; rfl
  | passes call locals it owner goesOn =>
    rw [← held,settled_owner (owns rfl),here]
    exact settled_own (owns rfl) s.server _
  | unlocks result owner | leaves result owner =>
    rw [settled_owner (owns rfl),here,settled_free rfl]; rfl
  | waits result owner =>
    rw [← held]
    exact settled_move exclusive (by rw [here]; exact fun inside => by cases inside) _

end

/-- What the server puts out, the calls into the registry included. -/
def toServer : RegistryOutput → Option Output
  | .server o => some o
  | .returned _ _ => none

/-- What the calls of a thread return. -/
def returnTo (t : Nat) : RegistryOutput → Option RegistryResult
  | .server _ => none
  | .returned u result => if u = t then some result else none

/-- What a thread is answered: a call that returns without a reply answers nothing. -/
def answerTo (t : Nat) (o : RegistryOutput) : Option RegistryResult := (returnTo t o).filter (· ≠ .unanswered)

/-- Any call but an unregistration of a name of padding only, which never replies. -/
def RegistryCall.replies (p : Platform) : RegistryCall → Bool
  | .unRegister name => cleanClientName p.charSigned name ≠ []
  | _ => true

/-- A call returns with an answer of its own kind, or without a reply when it is one that never replies. -/
inductive ReturnsWith (p : Platform) : RegistryCall → RegistryResult → Prop
  | register (name : ClientName) (pState pState' : LCState) (pStatus pStatus' : LCStatus) :
      ReturnsWith p (.register name pState pStatus) (.register pState' pStatus')
  | unRegister {name : ClientName} (replies : (RegistryCall.unRegister name).replies p = true) (pStatus : LCStatus) :
      ReturnsWith p (.unRegister name) (.unRegister pStatus)
  | unanswered {name : ClientName} (silent : (RegistryCall.unRegister name).replies p = false) :
      ReturnsWith p (.unRegister name) .unanswered
  | stayActive (name : ClientName) (v : LCStayActive) (pStatus : LCStatus) :
      ReturnsWith p (.stayActive name v) (.stayActive pStatus)

/-- The call of a thread that takes effect. -/
def callOf (t : Nat) : Execution → Option RegistryCall
  | .server _ => none
  | .call u _ call => if u = t then some call else none

section
variable {p : Platform} {s : RegistryThreads}

private theorem server_only (outputs : List Output) :
    (outputs.map RegistryOutput.server).filterMap toServer = outputs ∧
      ∀ t, (outputs.map RegistryOutput.server).filterMap (returnTo t) = [] := by
  refine ⟨?_,fun t => ?_⟩ <;> rw [List.filterMap_map]
  · exact List.filterMap_some
  · exact List.filterMap_eq_nil_iff.mpr (fun _ _ => rfl)

/-- A call at once sends what it sends, and returns to its own thread. -/
private theorem call_outputs (p : Platform) (n : Pausing) (t : Nat) (read : LCState) (call : RegistryCall) :
    ((executions p).outputs n [.call t read call]).filterMap toServer = registrySends (readBy n read) call ∧
      ∀ u, ((executions p).outputs n [.call t read call]).filterMap (returnTo u) =
        if t = u then [registryResult p (readBy n read) call] else [] := by
  have out : (executions p).outputs n [.call t read call] = (registrySends (readBy n read) call).map .server ++
      [.returned t (registryResult p (readBy n read) call)] := List.append_nil _
  obtain ⟨sent,silent⟩ := server_only (registrySends (readBy n read) call)
  rw [out]
  refine ⟨?_,fun u => ?_⟩ <;> rw [List.filterMap_append]
  · rw [sent]
    exact List.append_nil _
  · rw [silent u]
    by_cases own : t = u <;> simp [returnTo,own]

theorem result_returns (p : Platform) (m : Manager) (call : RegistryCall) :
    ReturnsWith p call (registryResult p m call) := by
  cases call with
  | register name pState pStatus => exact .register name pState _ pStatus _
  | stayActive name v => exact .stayActive name v _
  | unRegister name =>
    rw [registryResult,unRegister_out]
    by_cases blank : cleanClientName p.charSigned name = []
    · rw [if_pos blank]
      exact .unanswered (by simp [RegistryCall.replies,blank])
    · rw [if_neg blank]
      exact .unRegister (by simp [RegistryCall.replies,blank]) _

/-- At once, each call of a thread returns once, with an answer of its own kind if it replies. -/
theorem returns_atOnce (p : Platform) (n : Pausing) (sequence : List Execution) (t : Nat) :
    List.Forall₂ (ReturnsWith p) (sequence.filterMap (callOf t))
      (((executions p).outputs n sequence).filterMap (returnTo t)) := by
  induction sequence generalizing n with
  | nil => exact .nil
  | cons e rest ih =>
    have here : List.Forall₂ (ReturnsWith p) ([e].filterMap (callOf t))
        (((executions p).outputs n [e]).filterMap (returnTo t)) := by
      cases e with
      | server i =>
        show List.Forall₂ _ [] (((pausingStep p n i).2.map RegistryOutput.server ++ []).filterMap (returnTo t))
        rw [List.append_nil,(server_only _).2 t]
        exact .nil
      | call u read call =>
        rw [(call_outputs p n u read call).2 t]
        by_cases own : u = t
        · simp only [callOf,List.filterMap_cons,List.filterMap_nil,if_pos own]
          exact .cons (result_returns p _ call) .nil
        · simp only [callOf,List.filterMap_cons,List.filterMap_nil,if_neg own]
          exact .nil
    rw [← List.singleton_append,Machine.outputs_append,List.filterMap_append,List.filterMap_append]
    exact List.rel_append here (ih _)

private theorem answered_replies {p : Platform} {call : RegistryCall} {result : RegistryResult}
    (returned : ReturnsWith p call result) : decide (result ≠ .unanswered) = call.replies p := by
  cases returned with
  | register | stayActive => rfl
  | unRegister replies => exact replies.symm
  | unanswered silent => exact silent.symm

/-- Of calls that return each once, as many are answered as reply. -/
theorem answers_count {p : Platform} {calls : List RegistryCall} {outputs : List RegistryOutput} {t : Nat}
    (returned : List.Forall₂ (ReturnsWith p) calls (outputs.filterMap (returnTo t))) :
    (outputs.filterMap (answerTo t)).length = calls.countP (RegistryCall.replies p) := by
  have answers : outputs.filterMap (answerTo t) = (outputs.filterMap (returnTo t)).filter (· ≠ .unanswered) :=
    List.filter_filterMap.symm
  rw [answers,← List.countP_eq_length_filter]
  generalize outputs.filterMap (returnTo t) = results at returned
  clear answers
  induction returned with
  | nil => rfl
  | cons here _ ih => rw [List.countP_cons,List.countP_cons,ih,answered_replies here]

/-- The end of a search is the call at once. -/
private theorem search_ends {m : Manager} {call : RegistryCall} {locals : Locals} {it : Nat} {found : Option Nat}
    (sound : (Place.searching call locals it).Sound p m.mClients)
    (ended : searchEnds m.mClients locals.name it = some found) : EndsAsCall p m call locals found := by
  obtain ⟨⟨m₀,began⟩,passed⟩ := sound
  have comesTo := search_comesTo passed
  rw [ended] at comesTo
  cases call with
  | register name pState pStatus =>
    by_cases blank : cleanClientName p.charSigned name = []
    · simp [beginCall,blank] at began
    · obtain rfl : _ = locals := by simpa [beginCall,blank] using began
      exact register_ends blank pState _ pStatus comesTo
  | unRegister name =>
    by_cases blank : cleanClientName p.charSigned name = []
    · simp [beginCall,blank] at began
    · obtain rfl : _ = locals := by simpa [beginCall,blank] using began
      exact unRegister_ends blank comesTo
  | stayActive name v =>
    obtain rfl : _ = locals := by simpa [beginCall] using began
    exact stayActive_ends name v comesTo

/-- The server goes on as at once, with the write that is still to come. -/
private theorem server_step (orderly : Orderly p s) (i : RegistryStep) :
    ((registryThreads p).next s i).settled = (executions p).run s.settled (takesEffect p s i) ∧
      ((registryThreads p).out s i).filterMap toServer =
        ((executions p).outputs s.settled (takesEffect p s i)).filterMap toServer := by
  show (registryThreadsStep p s i).1.settled = _ ∧ (registryThreadsStep p s i).2.filterMap toServer = _
  have steps := steps_of p s i
  generalize registryThreadsStep p s i = stepped at steps ⊢
  generalize takesEffect p s i = executed at steps ⊢
  cases steps with
  | nothing => exact ⟨rfl,rfl⟩
  | server i unregistered =>
    have blind := server_blind p s.server s.settledClients unregistered
    have kept : RegistryThreads.settledClients { s with server := (pausingStep p s.server i).1 } =
        s.settledClients := by
      have clients := clients_server p s.server unregistered
      simp only [RegistryThreads.settledClients,RegistryThreads.manager,clients]
    constructor
    · show (pausingStep p s.server i).1.withClients _ = (pausingStep p (s.server.withClients s.settledClients) i).1
      rw [kept,blind]
    · show _ = ((pausingStep p (s.server.withClients s.settledClients) i).2.map _ ++ []).filterMap toServer
      rw [blind,List.append_nil]
  | blank t call result outside unread =>
    obtain ⟨sent,_⟩ := call_outputs p s.settled t s.manager.nadLifecycleState call
    obtain ⟨stays,silent,_⟩ := unread (readBy s.settled s.manager.nadLifecycleState)
    have kept := settled_move orderly.exclusive (t := t) (by rw [outside]; exact fun inside => by cases inside)
      (.unlocked result)
    rw [sent,silent]
    refine ⟨?_,rfl⟩
    show s.server.withClients _ = s.settled.withClients (registryNext p _ call).mClients
    rw [kept,stays]; rfl
  | begins t call locals outside began =>
    have kept := settled_move orderly.exclusive (t := t) (by rw [outside]; exact fun inside => by cases inside)
      (.locking call locals)
    exact ⟨congrArg s.server.withClients kept,rfl⟩
  | quiet t i own place owner moves =>
    exact ⟨congrArg s.server.withClients (settled_quiet orderly.exclusive moves),rfl⟩
  | ends t call locals it found searches ended =>
    have owns := owner_of orderly.exclusive (t := t) (by rw [searches]; rfl)
    have still : s.settled = s.server := by
      rw [RegistryThreads.settled,settled_owner owns,searches]; rfl
    have sound := orderly.sound t
    rw [searches] at sound
    obtain ⟨clients,sends,_⟩ := search_ends sound ended
    obtain ⟨sent,_⟩ := call_outputs p s.settled t (locals.read s.manager) call
    rw [sent,(server_only _).1,still]
    refine ⟨?_,sends⟩
    exact congrArg s.server.withClients ((settled_own owns _ _).trans clients)
  | writes t it calls =>
    have owns := owner_of orderly.exclusive (t := t) (by rw [calls]; rfl)
    refine ⟨congrArg s.server.withClients ((settled_own owns _ _).trans ?_),rfl⟩
    rw [settled_owner owns,calls]; rfl
  | returns t result returning =>
    have kept := settled_move orderly.exclusive (t := t) (by rw [returning]; exact fun inside => by cases inside)
      .outside
    exact ⟨congrArg s.server.withClients kept,rfl⟩

/-- What concerns only the thread that moves is as it is for this thread. -/
private theorem moved_thread {α : Type} (f : Place → List α) (given taken : Nat → List α) {t : Nat} {place : Place}
    (own : f (s.place t) ++ given t = taken t ++ f place) (others : ∀ u, u ≠ t → given u = [] ∧ taken u = [])
    (u : Nat) : f (s.place u) ++ given u = taken u ++ f (Function.update s.place t place u) := by
  by_cases same : u = t
  · subst same
    rw [Function.update_self]
    exact own
  · rw [Function.update_of_ne same,(others u same).1,(others u same).2,List.append_nil,List.nil_append]

private theorem kept_thread {α : Type} (f : Place → List α) {t : Nat} {place : Place} (kept : f place = f (s.place t))
    (u : Nat) : f (s.place u) ++ [] = [] ++ f (Function.update s.place t place u) :=
  moved_thread f (fun _ => []) (fun _ => []) ((List.append_nil _).trans kept.symm) (fun _ _ => ⟨rfl,rfl⟩) u

private theorem quiet_kept {clients : List Client} {t : Nat} {place place' : Place} {owner owner' : Option Nat}
    (moves : Quiet clients t place owner place' owner') :
    place'.owed = place.owed ∧ place'.pending = place.pending := by
  cases moves <;> exact ⟨rfl,rfl⟩

/-- A call returns what it returns at once. -/
private theorem returns_step (orderly : Orderly p s) (i : RegistryStep) (t : Nat) :
    (s.place t).owed ++ ((executions p).outputs s.settled (takesEffect p s i)).filterMap (returnTo t) =
      ((registryThreads p).out s i).filterMap (returnTo t) ++ (((registryThreads p).next s i).place t).owed := by
  show _ = (registryThreadsStep p s i).2.filterMap (returnTo t) ++ ((registryThreadsStep p s i).1.place t).owed
  have steps := steps_of p s i
  generalize registryThreadsStep p s i = stepped at steps ⊢
  generalize takesEffect p s i = executed at steps ⊢
  cases steps with
  | nothing => exact List.append_nil _
  | server i unregistered =>
    have silent : ((executions p).outputs s.settled [.server i]).filterMap (returnTo t) = [] := by
      show ((pausingStep p s.settled i).2.map RegistryOutput.server ++ []).filterMap (returnTo t) = []
      rw [List.append_nil]
      exact (server_only _).2 t
    rw [silent,(server_only _).2 t]
    exact List.append_nil _
  | blank u call result outside unread =>
    obtain ⟨_,returns⟩ := call_outputs p s.settled u s.manager.nadLifecycleState call
    obtain ⟨_,_,same⟩ := unread (readBy s.settled s.manager.nadLifecycleState)
    refine moved_thread Place.owed (fun v => ((executions p).outputs s.settled _).filterMap (returnTo v))
      (fun _ => []) ?_ ?_ t
    · simp only [returns,if_true,same,outside]; rfl
    · intro v other
      simp only [returns,if_neg (Ne.symm other)]
      exact ⟨trivial,trivial⟩
  | begins u call locals outside began => exact kept_thread Place.owed (by rw [outside]; rfl) t
  | quiet u i own place owner moves => exact kept_thread Place.owed (quiet_kept moves).1 t
  | ends u call locals it found searches ended =>
    have owns := owner_of orderly.exclusive (t := u) (by rw [searches]; rfl)
    have still : s.settled = s.server := by
      rw [RegistryThreads.settled,settled_owner owns,searches]; rfl
    have sound := orderly.sound u
    rw [searches] at sound
    obtain ⟨_,_,owed⟩ := search_ends sound ended
    obtain ⟨_,returns⟩ := call_outputs p s.server u (locals.read s.manager) call
    rw [still,(server_only _).2 t]
    refine moved_thread Place.owed (fun v => ((executions p).outputs s.server _).filterMap (returnTo v))
      (fun _ => []) ?_ ?_ t
    · simp only [returns,if_true,searches]
      exact owed.symm
    · intro v other
      simp only [returns,if_neg (Ne.symm other)]
      exact ⟨trivial,trivial⟩
  | writes u it calls => exact kept_thread Place.owed (by rw [calls]; rfl) t
  | returns u result returning =>
    refine moved_thread Place.owed (fun _ => []) (fun v => [RegistryOutput.returned u result].filterMap (returnTo v))
      ?_ ?_ t
    · simp [returnTo,returning,Place.owed]
    · intro v other
      simp [returnTo,Ne.symm other]

/-- The calls of a thread take effect one by one. -/
private theorem calls_step (i : RegistryStep) (t : Nat) :
    (s.place t).pending ++ calledBy t s i =
      (takesEffect p s i).filterMap (callOf t) ++ (((registryThreads p).next s i).place t).pending := by
  show _ = _ ++ ((registryThreadsStep p s i).1.place t).pending
  have steps := steps_of p s i
  generalize registryThreadsStep p s i = stepped at steps ⊢
  generalize takesEffect p s i = executed at steps ⊢
  cases steps with
  | nothing i uncalled =>
    rw [uncalled t]
    exact List.append_nil _
  | server => exact List.append_nil _
  | blank u call result outside unread =>
    refine moved_thread Place.pending (fun v => calledBy v s (.call u call))
      (fun v => [Execution.call u s.manager.nadLifecycleState call].filterMap (callOf v)) ?_ ?_ t
    · simp [calledBy,callOf,outside,Place.pending]
    · intro v other
      simp [calledBy,callOf,Ne.symm other]
  | begins u call locals outside began =>
    refine moved_thread Place.pending (fun v => calledBy v s (.call u call)) (fun _ => []) ?_ ?_ t
    · simp [calledBy,outside,Place.pending]
    · intro v other
      simp [calledBy,Ne.symm other]
  | quiet u i own place owner moves =>
    have uncalled : calledBy t s i = [] := by rcases own with rfl | rfl <;> rfl
    rw [uncalled]
    exact kept_thread Place.pending (quiet_kept moves).2 t
  | ends u call locals it found searches ended =>
    refine moved_thread Place.pending (fun _ => [])
      (fun v => [Execution.call u (locals.read s.manager) call].filterMap (callOf v)) ?_ ?_ t
    · rcases endSearch_inside s.manager found locals with ⟨it,inside⟩ | ⟨result,inside⟩ <;>
        simp [callOf,searches,inside,Place.pending]
    · intro v other
      simp [callOf,Ne.symm other]
  | writes u it calls => exact kept_thread Place.pending (by rw [calls]; rfl) t
  | returns u result returning => exact kept_thread Place.pending (by rw [returning]; rfl) t

theorem orderly_started (p : Platform) (info : AdditionalLifecycleStateInfo) (created : Bool) :
    Orderly p (.started p info created) := ⟨exclusive_idle,fun _ => trivial⟩

/-! ### Runs -/

section
variable (orderly : Orderly p s) (run : List RegistryStep)
include orderly

private theorem server_run :
    ((registryThreads p).run s run).settled =
        (executions p).run s.settled ((registryThreads p).translate (takesEffect p) s run) ∧
      ((registryThreads p).outputs s run).filterMap toServer =
        ((executions p).outputs s.settled
          ((registryThreads p).translate (takesEffect p) s run)).filterMap toServer := by
  have step : ∀ s n i, Orderly p s ∧ s.settled = n →
      (Orderly p (((registryThreads p).view toServer).next s i) ∧
        (((registryThreads p).view toServer).next s i).settled =
          ((executions p).view toServer).run n (takesEffect p s i)) ∧
        ((registryThreads p).view toServer).out s i =
          ((executions p).view toServer).outputs n (takesEffect p s i) := by
    rintro s n i ⟨orderly,rfl⟩
    obtain ⟨settled,outputs⟩ := server_step orderly i
    rw [Machine.view_run,Machine.view_outputs]
    exact ⟨⟨orderly_step i orderly,settled⟩,outputs⟩
  have follows := Machine.run_follows ((registryThreads p).view toServer) ((executions p).view toServer) step
    ⟨orderly,rfl⟩ run
  rw [Machine.view_run,Machine.view_run,Machine.view_outputs,Machine.view_outputs,Machine.view_translate] at follows
  exact ⟨follows.1.2,follows.2⟩

/-- The calls of a thread return what they return at once, with the result still to come. -/
theorem returns_run (t : Nat) :
    (s.place t).owed ++ ((executions p).outputs s.settled
        ((registryThreads p).translate (takesEffect p) s run)).filterMap (returnTo t) =
      ((registryThreads p).outputs s run).filterMap (returnTo t) ++
        (((registryThreads p).run s run).place t).owed := by
  have step : ∀ s n i, Orderly p s ∧ s.settled = n →
      (Orderly p (((registryThreads p).view (returnTo t)).next s i) ∧
        (((registryThreads p).view (returnTo t)).next s i).settled =
          ((executions p).view (returnTo t)).run n (takesEffect p s i)) ∧
        (s.place t).owed ++ ((executions p).view (returnTo t)).outputs n (takesEffect p s i) =
          ((registryThreads p).view (returnTo t)).out s i ++
            ((((registryThreads p).view (returnTo t)).next s i).place t).owed := by
    rintro s n i ⟨orderly,rfl⟩
    rw [Machine.view_run,Machine.view_outputs]
    exact ⟨⟨orderly_step i orderly,(server_step orderly i).1⟩,returns_step orderly i t⟩
  obtain ⟨_,delayed⟩ := Machine.run_delays ((registryThreads p).view (returnTo t)) ((executions p).view (returnTo t))
    step ⟨orderly,rfl⟩ run
  rw [Machine.view_run,Machine.view_outputs,Machine.view_outputs,Machine.view_translate] at delayed
  exact delayed

end

/-- The calls of a thread take effect in its order, but for the one that has not. -/
theorem calls_run (p : Platform) (s : RegistryThreads) (run : List RegistryStep) (t : Nat) :
    (s.place t).pending ++ (registryThreads p).translate (calledBy t) s run =
      ((registryThreads p).translate (takesEffect p) s run).filterMap (callOf t) ++
        (((registryThreads p).run s run).place t).pending := by
  have step : ∀ s i, True → True ∧ (s.place t).pending ++ calledBy t s i =
      (takesEffect p s i).filterMap (callOf t) ++ (((registryThreads p).next s i).place t).pending :=
    fun s i _ => ⟨trivial,calls_step i t⟩
  rw [Machine.translate_hom (registryThreads p) rfl (fun _ _ => List.filterMap_append)]
  exact Machine.translate_fifo (registryThreads p) step trivial run

end

/-- In every interleaving, the server with the calls into the registry ends as, and puts out, what it does when each
    call is executed at once where its search ends, with the power state that it has read; the calls of
    each thread return what they return then, and take effect in its order. -/
theorem registry_linearizes (p : Platform) (info : AdditionalLifecycleStateInfo) (created : Bool)
    (run : List RegistryStep) :
    let start := RegistryThreads.started p info created
    let final := (registryThreads p).run start run
    let sequence := (registryThreads p).translate (takesEffect p) start run
    let atOnce := (executions p).outputs start.server sequence
    final.settled = (executions p).run start.server sequence ∧
      ((registryThreads p).outputs start run).filterMap toServer = atOnce.filterMap toServer ∧
      ∀ t, ((registryThreads p).outputs start run).filterMap (returnTo t) ++ (final.place t).owed =
          atOnce.filterMap (returnTo t) ∧
        (registryThreads p).translate (calledBy t) start run =
          sequence.filterMap (callOf t) ++ (final.place t).pending := by
  intro start final sequence atOnce
  have orderly : Orderly p start := orderly_started p info created
  obtain ⟨settled,outputs⟩ := server_run orderly run
  exact ⟨settled,outputs,fun t => ⟨(returns_run orderly run t).symm,calls_run p start run t⟩⟩

end LifecycleMgr
