import LifecycleMgr.CriticalSections
import LifecycleMgr.Wishes

/-!
The calls into the registry, step by step. `evaluate_RegisterClient`,
`LC_UnRegisterClient` and `evaluateLC_StayActive` take `m_clients_mtx`, go through
`m_clients` from client to client, write it, and give the mutex back; a request for
`LC_BUB` writes its record only after its remote call. Then each of them takes the mutex
again in `PrintRegisteredClients`, and only then answers. A registration reads the power
state before it waits for the mutex. `Steps` says what each step does and what takes
effect in it, and the threads go by the rules of a lock (`carries_mutex`).
-/
namespace LifecycleMgr
open Runs Sections Keyed

/-! ### Where a thread is -/

/-- What a call into the registry returns with. -/
inductive RegistryResult
  | register (pState : LCState) (pStatus : LCStatus)
  | unRegister (pStatus : LCStatus)
  /-- An unregistration that returns without a reply. -/
  | unanswered
  | stayActive (pStatus : LCStatus)
  deriving DecidableEq

/-- The locals with which a call comes to the mutex. -/
inductive Locals
  | register (tempClient : Client) (pStatus : LCStatus)
  | unRegister (pClientName : ClientName)
  | stayActive (pClientName : ClientName) (pStayActive : LCStayActive)
  deriving DecidableEq

/-- The name that is looked for. -/
def Locals.name : Locals → ClientName
  | .register tempClient _ => tempClient.name
  | .unRegister pClientName => pClientName
  | .stayActive pClientName _ => pClientName

/-- Where a thread is in a call into the registry. -/
inductive Place
  | outside
  /-- At the mutex, with the arguments and the locals. -/
  | locking (call : RegistryCall) (locals : Locals)
  /-- In the search, which has come to a client or to the end. -/
  | searching (call : RegistryCall) (locals : Locals) (itClients : Nat)
  /-- In the remote call of a request for `LC_BUB`, whose record is still to be written. -/
  | calling (itClients : Nat)
  | unlocking (result : RegistryResult)
  /-- Before `PrintRegisteredClients`. -/
  | unlocked (result : RegistryResult)
  /-- At the mutex in `PrintRegisteredClients`. -/
  | printLocking (result : RegistryResult)
  | printing (result : RegistryResult)
  | returning (result : RegistryResult)
  deriving DecidableEq

/-- A call up to the mutex. -/
def beginCall (p : Platform) (m : Manager) : RegistryCall → Place
  | .register p_ClientName pState pStatus =>
    let pClientName := cleanClientName p.charSigned p_ClientName
    if pClientName.length < 1 then .unlocked (.register pState pStatus)
    else
      let tempClient : Client := { name := pClientName, lcState := m.nadLifecycleState, stayActive := .LC_RELEASE }
      .locking (.register p_ClientName pState pStatus) (.register tempClient pStatus)
  | .unRegister _pClientName =>
    let pClientName := cleanClientName p.charSigned _pClientName
    if pClientName.length < 1 then .unlocked .unanswered
    else .locking (.unRegister _pClientName) (.unRegister pClientName)
  | .stayActive pClientName pStayActive =>
    .locking (.stayActive pClientName pStayActive) (.stayActive pClientName pStayActive)

/-- What the search has come to: nothing yet, a client under the name, or the end. -/
def searchEnds (clients : List Client) (name : ClientName) (itClients : Nat) : Option (Option Nat) :=
  match clients[itClients]? with
  | some c => if c.name = name then some (some itClients) else none
  | none => some none

/-- Write to the record that an iterator stands at. -/
def writeAt (clients : List Client) (itClients : Nat) (stayActive : LCStayActive) : List Client :=
  clients.modify itClients (fun c => { c with stayActive := stayActive })

/-- A call from the end of its search to its unlock, or to the remote call before its write. -/
def endSearch (m : Manager) (itClients : Option Nat) : Locals → List Client × List Output × Place
  | .register tempClient pStatus =>
    let pStatus := if itClients.isSome then .LC_STS_OK_CLIENT_ALREADY_REGISTERED else pStatus
    if pStatus ≠ .LC_STS_OK_CLIENT_ALREADY_REGISTERED then
      (m.mClients ++ [tempClient],[],.unlocking (.register tempClient.lcState .LC_STS_OK))
    else (m.mClients,[],.unlocking (.register tempClient.lcState pStatus))
  | .unRegister _ =>
    match itClients with
    | none => (m.mClients,[],.unlocking (.unRegister .LC_STS_NOT_OK))
    | some it => (m.mClients.eraseIdx it,[],.unlocking (.unRegister .LC_STS_OK))
  | .stayActive _ pStayActive =>
    match itClients with
    | none => (m.mClients,[],.unlocking (.stayActive .LC_STS_NOT_OK))
    | some it =>
      if pStayActive = .LC_LOCK ∧ inStayAlive m.nadLifecycleState then
        (writeAt m.mClients it pStayActive,[sendPendingAction .STAY_ACTIVE],.unlocking (.stayActive .LC_STS_OK))
      else if pStayActive = .LC_RELEASE then
        (writeAt m.mClients it pStayActive,[sendPendingAction .STAY_INACTIVE],.unlocking (.stayActive .LC_STS_OK))
      else if pStayActive = .LC_BUB ∧ inStayAlive m.nadLifecycleState ∧
          m.nadAdditionalInfo.nadCanStatus = .LC_CAN_STS_OFF ∧
          m.nadAdditionalInfo.nadMainBatteryStatus = .LC_MAIN_BATT_STS_NOK then
        (m.mClients,[sendPendingAction .STAY_INACTIVE],.calling it)
      else (m.mClients,[sendPendingAction .STAY_INACTIVE],.unlocking (.stayActive .LC_STS_NOT_OK))

/-- The server, where its threads are in the registry, and the owner of `m_clients_mtx`. -/
structure RegistryThreads where
  server : Pausing
  place : Nat → Place
  mClientsMtx : Option Nat

def RegistryThreads.manager (s : RegistryThreads) : Manager := s.server.threads.manager

/-- The server with other clients. -/
def Pausing.withClients (s : Pausing) (clients : List Client) : Pausing :=
  { s with threads := { s.threads with manager := { s.threads.manager with mClients := clients } } }

inductive RegistryStep
  /-- An action of the server that makes no call into the registry. -/
  | server (i : PausingAction)
  | call (thread : Nat) (call : RegistryCall)
  /-- A thread takes the mutex, if it is free. -/
  | lock (thread : Nat)
  /-- A thread goes on: to the next client, through the rest of the critical section, or out of the call. -/
  | go (thread : Nat)
  deriving DecidableEq

inductive RegistryOutput
  | server (o : Output)
  | returned (thread : Nat) (result : RegistryResult)
  deriving DecidableEq

/-- The same with a thread elsewhere. -/
def RegistryThreads.move (s : RegistryThreads) (thread : Nat) (place : Place) : RegistryThreads :=
  { s with place := Function.update s.place thread place }

def registryThreadsStep (p : Platform) (s : RegistryThreads) : RegistryStep → RegistryThreads × List RegistryOutput
  | .server i =>
    if i.registryCall p = none then
      let taken := pausingStep p s.server i
      ({ s with server := taken.1 },taken.2.map .server)
    else (s,[])
  | .call t call =>
    match s.place t with
    | .outside => (s.move t (beginCall p s.manager call),[])
    | _ => (s,[])
  | .lock t =>
    match s.mClientsMtx,s.place t with
    | none,.locking call locals => ({ s.move t (.searching call locals 0) with mClientsMtx := some t },[])
    | none,.printLocking result => ({ s.move t (.printing result) with mClientsMtx := some t },[])
    | _,_ => (s,[])
  | .go t =>
    match s.place t with
    | .searching call locals it =>
      match searchEnds s.manager.mClients locals.name it with
      | none => (s.move t (.searching call locals (it + 1)),[])
      | some found =>
        let ended := endSearch s.manager found locals
        ({ s.move t ended.2.2 with server := s.server.withClients ended.1 },ended.2.1.map .server)
    | .calling it =>
      ({ s.move t (.unlocking (.stayActive .LC_STS_OK)) with
          server := s.server.withClients (writeAt s.manager.mClients it .LC_BUB) },[])
    | .unlocking result => ({ s.move t (.unlocked result) with mClientsMtx := none },[])
    | .unlocked result => (s.move t (.printLocking result),[])
    | .printing result => ({ s.move t (.returning result) with mClientsMtx := none },[])
    | .returning result => (s.move t .outside,[.returned t result])
    | _ => (s,[])

/-- The calls into the registry and the server under all interleavings. -/
def registryThreads (p : Platform) : Machine RegistryThreads RegistryStep RegistryOutput := ⟨registryThreadsStep p⟩

/-- No operation has begun. -/
def RegistryThreads.started (p : Platform) (info : AdditionalLifecycleStateInfo) (created : Bool) :
    RegistryThreads where
  server := .started p info created
  place := fun _ => .outside
  mClientsMtx := none

/-- What a call returns with. -/
def registryResult (p : Platform) (m : Manager) : RegistryCall → RegistryResult
  | .register name pState pStatus =>
    let registered := evaluateRegisterClient p m name pState pStatus
    .register registered.2.1 registered.2.2
  | .unRegister name =>
    match (lcUnRegisterClient p m name).2 with
    | [.reply (.unRegisterClient pStatus)] => .unRegister pStatus
    | _ => .unanswered
  | .stayActive name pStayActive => .stayActive (evaluateLCStayActive m name pStayActive).2.2

/-- What a call sends to the MCU. -/
def registrySends (m : Manager) : RegistryCall → List Output
  | .stayActive name pStayActive => (evaluateLCStayActive m name pStayActive).2.1
  | _ => []

inductive Execution
  | server (i : PausingAction)
  /-- A call, with the power state that it has read. -/
  | call (thread : Nat) (read : LCState) (call : RegistryCall)
  deriving DecidableEq

/-- The power state that a call has read when its search ends. -/
def Locals.read (m : Manager) : Locals → LCState
  | .register tempClient _ => tempClient.lcState
  | _ => m.nadLifecycleState

/-- What takes effect in a step. -/
def takesEffect (p : Platform) (s : RegistryThreads) : RegistryStep → List Execution
  | .server i => if i.registryCall p = none then [.server i] else []
  | .call t call =>
    match s.place t,beginCall p s.manager call with
    -- a name of padding only does not come to the mutex
    | .outside,.unlocked _ => [.call t s.manager.nadLifecycleState call]
    | _,_ => []
  | .go t =>
    match s.place t with
    | .searching call locals it =>
      if searchEnds s.manager.mClients locals.name it = none then [] else [.call t (locals.read s.manager) call]
    | _ => []
  | .lock _ => []

/-! ### What a step does -/

/-- A call is over before the mutex when it names padding only, and comes to the mutex otherwise. -/
theorem begin_cases (p : Platform) (m : Manager) (call : RegistryCall) :
    (∃ result, beginCall p m call = .unlocked result ∧
        ∀ m, registryNext p m call = m ∧ registrySends m call = [] ∧ registryResult p m call = result) ∨
      ∃ locals, beginCall p m call = .locking call locals := by
  cases call with
  | register name pState pStatus =>
    by_cases blank : cleanClientName p.charSigned name = []
    · refine .inl ⟨.register pState pStatus,by simp [beginCall,blank],fun m => ⟨?_,rfl,?_⟩⟩
      · rw [registryNext,register_blank blank]
      · rw [registryResult,register_blank blank]
    · simp [beginCall,blank]
  | unRegister name =>
    by_cases blank : cleanClientName p.charSigned name = []
    · refine .inl ⟨.unanswered,by simp [beginCall,blank],fun m => ⟨?_,rfl,?_⟩⟩
      · rw [registryNext,unRegister_blank blank]
      · rw [registryResult,unRegister_blank blank]
    · simp [beginCall,blank]
  | stayActive name v => exact .inr ⟨_,rfl⟩

/-- A step of a thread that neither writes nor returns, with what it does to the mutex. -/
inductive Quiet (clients : List Client) (t : Nat) : Place → Option Nat → Place → Option Nat → Prop
  | enters (call : RegistryCall) (locals : Locals) :
      Quiet clients t (.locking call locals) none (.searching call locals 0) (some t)
  | passes (call : RegistryCall) (locals : Locals) (it : Nat) (owner : Option Nat)
      (goesOn : searchEnds clients locals.name it = none) :
      Quiet clients t (.searching call locals it) owner (.searching call locals (it + 1)) owner
  | unlocks (result : RegistryResult) (owner : Option Nat) :
      Quiet clients t (.unlocking result) owner (.unlocked result) none
  | waits (result : RegistryResult) (owner : Option Nat) :
      Quiet clients t (.unlocked result) owner (.printLocking result) owner
  | prints (result : RegistryResult) : Quiet clients t (.printLocking result) none (.printing result) (some t)
  | leaves (result : RegistryResult) (owner : Option Nat) :
      Quiet clients t (.printing result) owner (.returning result) none

/-- The call that a thread begins in a step, if it begins one. -/
def calledBy (t : Nat) (s : RegistryThreads) : RegistryStep → List RegistryCall
  | .call u call => if u = t ∧ s.place u = .outside then [call] else []
  | _ => []

/-- What a step does, and what takes effect in it. -/
inductive Steps (p : Platform) (s : RegistryThreads) :
    RegistryStep → RegistryThreads × List RegistryOutput → List Execution → Prop
  | nothing (i : RegistryStep) (uncalled : ∀ t, calledBy t s i = []) : Steps p s i (s,[]) []
  | server (i : PausingAction) (unregistered : i.registryCall p = none) :
      Steps p s (.server i) ({ s with server := (pausingStep p s.server i).1 },(pausingStep p s.server i).2.map .server)
        [.server i]
  | blank (t : Nat) (call : RegistryCall) (result : RegistryResult) (outside : s.place t = .outside)
      (unread : ∀ m, registryNext p m call = m ∧ registrySends m call = [] ∧ registryResult p m call = result) :
      Steps p s (.call t call) (s.move t (.unlocked result),[]) [.call t s.manager.nadLifecycleState call]
  | begins (t : Nat) (call : RegistryCall) (locals : Locals) (outside : s.place t = .outside)
      (began : beginCall p s.manager call = .locking call locals) :
      Steps p s (.call t call) (s.move t (.locking call locals),[]) []
  | quiet (t : Nat) (i : RegistryStep) (own : i = .lock t ∨ i = .go t) (place : Place) (owner : Option Nat)
      (moves : Quiet s.manager.mClients t (s.place t) s.mClientsMtx place owner) :
      Steps p s i ({ s.move t place with mClientsMtx := owner },[]) []
  | ends (t : Nat) (call : RegistryCall) (locals : Locals) (it : Nat) (found : Option Nat)
      (searches : s.place t = .searching call locals it)
      (ended : searchEnds s.manager.mClients locals.name it = some found) :
      Steps p s (.go t)
        ({ s.move t (endSearch s.manager found locals).2.2 with
            server := s.server.withClients (endSearch s.manager found locals).1 },
          (endSearch s.manager found locals).2.1.map .server)
        [.call t (locals.read s.manager) call]
  | writes (t : Nat) (it : Nat) (calls : s.place t = .calling it) :
      Steps p s (.go t)
        ({ s.move t (.unlocking (.stayActive .LC_STS_OK)) with
            server := s.server.withClients (writeAt s.manager.mClients it .LC_BUB) },[]) []
  | returns (t : Nat) (result : RegistryResult) (returning : s.place t = .returning result) :
      Steps p s (.go t) (s.move t .outside,[.returned t result]) []

section
variable {p : Platform} {s : RegistryThreads}

private theorem steps_quiet {t : Nat} {i : RegistryStep} {place : Place} {owner : Option Nat}
    (own : i = .lock t ∨ i = .go t) (moves : Quiet s.manager.mClients t (s.place t) s.mClientsMtx place owner)
    (stepped : registryThreadsStep p s i = ({ s.move t place with mClientsMtx := owner },[]))
    (executed : takesEffect p s i = []) : Steps p s i (registryThreadsStep p s i) (takesEffect p s i) := by
  rw [stepped,executed]
  exact .quiet t i own place owner moves

private theorem steps_call (t : Nat) (call : RegistryCall) :
    Steps p s (.call t call) (registryThreadsStep p s (.call t call)) (takesEffect p s (.call t call)) := by
  cases place : s.place t with
  | outside =>
    rcases begin_cases p s.manager call with ⟨result,began,unread⟩ | ⟨locals,began⟩
    · simp only [registryThreadsStep,takesEffect,place,began]
      exact .blank t call result place unread
    · simp only [registryThreadsStep,takesEffect,place,began]
      exact .begins t call locals place began
  | _ =>
    simp only [registryThreadsStep,takesEffect,place]
    exact .nothing _ (fun u => if_neg (fun both => by rw [place] at both; cases both.2))

private theorem steps_lock (t : Nat) :
    Steps p s (.lock t) (registryThreadsStep p s (.lock t)) (takesEffect p s (.lock t)) := by
  cases owner : s.mClientsMtx with
  | some u =>
    have nothing : registryThreadsStep p s (.lock t) = (s,[]) := by
      cases place : s.place t <;> simp only [registryThreadsStep,owner,place]
    rw [nothing]
    exact .nothing _ (fun _ => rfl)
  | none =>
    cases place : s.place t with
    | locking call locals =>
      exact steps_quiet (.inl rfl) (by rw [place,owner]; exact .enters call locals)
        (by simp only [registryThreadsStep,owner,place]) rfl
    | printLocking result =>
      exact steps_quiet (.inl rfl) (by rw [place,owner]; exact .prints result)
        (by simp only [registryThreadsStep,owner,place]) rfl
    | _ =>
      simp only [registryThreadsStep,owner,place]
      exact .nothing _ (fun _ => rfl)

/-- A thread in its search goes to the next client or ends it. -/
private theorem steps_search {t : Nat} {call : RegistryCall} {locals : Locals} {it : Nat}
    (place : s.place t = .searching call locals it) :
    Steps p s (.go t) (registryThreadsStep p s (.go t)) (takesEffect p s (.go t)) := by
  cases ended : searchEnds s.manager.mClients locals.name it with
  | none =>
    refine steps_quiet (.inr rfl) (by rw [place]; exact .passes call locals it _ ended) ?_ ?_
    · simp only [registryThreadsStep,place,ended]; rfl
    · simp only [takesEffect,place,ended,if_true]
  | some found =>
    have stepped := Steps.ends (p := p) t call locals it found place ended
    simpa [registryThreadsStep,takesEffect,place,ended] using stepped

private theorem steps_go (t : Nat) :
    Steps p s (.go t) (registryThreadsStep p s (.go t)) (takesEffect p s (.go t)) := by
  cases place : s.place t with
  | searching call locals it => exact steps_search place
  | calling it =>
    simp only [registryThreadsStep,takesEffect,place]
    exact .writes t it place
  | unlocking result =>
    exact steps_quiet (.inr rfl) (by rw [place]; exact .unlocks result _) (by simp only [registryThreadsStep,place])
      (by simp only [takesEffect,place])
  | unlocked result =>
    exact steps_quiet (.inr rfl) (by rw [place]; exact .waits result _)
      (by simp only [registryThreadsStep,place]; rfl) (by simp only [takesEffect,place])
  | printing result =>
    exact steps_quiet (.inr rfl) (by rw [place]; exact .leaves result _) (by simp only [registryThreadsStep,place])
      (by simp only [takesEffect,place])
  | returning result =>
    simp only [registryThreadsStep,takesEffect,place]
    exact .returns t result place
  | _ =>
    simp only [registryThreadsStep,takesEffect,place]
    exact .nothing _ (fun _ => rfl)

theorem steps_of (p : Platform) (s : RegistryThreads) (i : RegistryStep) :
    Steps p s i (registryThreadsStep p s i) (takesEffect p s i) := by
  cases i with
  | server i =>
    rw [registryThreadsStep,takesEffect]
    by_cases unregistered : i.registryCall p = none
    · rw [if_pos unregistered,if_pos unregistered]
      exact .server i unregistered
    · rw [if_neg unregistered,if_neg unregistered]
      exact .nothing _ (fun _ => rfl)
  | call t call => exact steps_call t call
  | lock t => exact steps_lock t
  | go t => exact steps_go t

end

/-! ### The mutex -/

/-- Whether a thread waits for the mutex or owns it. -/
def Place.phase : Place → Phase Unit
  | .locking _ _ | .printLocking _ => .waiting ()
  | .searching _ _ _ | .calling _ | .unlocking _ | .printing _ => .inside ()
  | _ => .idle

def RegistryThreads.mutex (s : RegistryThreads) : Guarded Nat Unit := ⟨fun t => (s.place t).phase,s.mClientsMtx⟩

/-- The critical sections, of which nothing is said here but that they are entered and left. -/
def critical : Halves Unit Unit Empty := ⟨fun _ => [],fun _ _ => []⟩

section
variable {p : Platform} {s : RegistryThreads}

private theorem mutex_move (s : RegistryThreads) (server : Pausing) (t : Nat) (place : Place) (owner : Option Nat) :
    RegistryThreads.mutex ⟨server,Function.update s.place t place,owner⟩ =
      ⟨Function.update s.mutex.phase t place.phase,owner⟩ := by
  rw [RegistryThreads.mutex,Guarded.mk.injEq]
  exact ⟨Function.comp_update Place.phase s.place t place,rfl⟩

/-- A thread that moves on in the same phase does nothing to the mutex. -/
private theorem mutex_same (server : Pausing) {t : Nat} {place : Place} (same : place.phase = (s.place t).phase) :
    RegistryThreads.mutex ⟨server,Function.update s.place t place,s.mClientsMtx⟩ = s.mutex := by
  rw [mutex_move,same]
  exact congrArg (Guarded.mk · s.mClientsMtx) (Function.update_eq_self t s.mutex.phase)

private theorem mutex_asks {t : Nat} {place : Place} (idle : (s.place t).phase = .idle)
    (waits : place.phase = .waiting ()) :
    (s.move t place).mutex = (guarded critical).next s.mutex (.ask t ()) := by
  have idle' : s.mutex.phase t = .idle := idle
  show _ = (guardedStep critical s.mutex (.ask t ())).1
  simp only [guardedStep,idle']
  rw [← waits]
  exact mutex_move s s.server t place s.mClientsMtx

private theorem mutex_enters {t : Nat} {place : Place} (waits : (s.place t).phase = .waiting ())
    (free : s.mClientsMtx = none) (inside : place.phase = .inside ()) :
    RegistryThreads.mutex { s.move t place with mClientsMtx := some t } =
      (guarded critical).next s.mutex (.enter t) := by
  have waits' : s.mutex.phase t = .waiting () := waits
  have free' : s.mutex.holder = none := free
  show _ = (guardedStep critical s.mutex (.enter t)).1
  simp only [guardedStep,waits',free']
  rw [← inside]
  exact mutex_move s s.server t place (some t)

private theorem mutex_leaves {t : Nat} {place : Place} (inside : (s.place t).phase = .inside ())
    (outside : place.phase = .idle) :
    RegistryThreads.mutex { s.move t place with mClientsMtx := none } =
      (guarded critical).next s.mutex (.leave t ()) := by
  have inside' : s.mutex.phase t = .inside () := inside
  show _ = (guardedStep critical s.mutex (.leave t ())).1
  simp only [guardedStep,inside']
  rw [← outside]
  exact mutex_move s s.server t place none

/-- The end of a search is inside: before the write, or before the unlock. -/
theorem endSearch_inside (m : Manager) (found : Option Nat) (locals : Locals) :
    (∃ it, (endSearch m found locals).2.2 = .calling it) ∨
      ∃ result, (endSearch m found locals).2.2 = .unlocking result := by
  cases locals with
  | register tempClient pStatus =>
    simp only [endSearch]
    split
    · split <;> exact .inr ⟨_,rfl⟩
    · split <;> exact .inr ⟨_,rfl⟩
  | unRegister name => cases found <;> exact .inr ⟨_,rfl⟩
  | stayActive name v =>
    cases found with
    | none => exact .inr ⟨_,rfl⟩
    | some it =>
      simp only [endSearch]
      split
      · exact .inr ⟨_,rfl⟩
      · split
        · exact .inr ⟨_,rfl⟩
        · split
          · exact .inl ⟨_,rfl⟩
          · exact .inr ⟨_,rfl⟩

/-- Each step goes by the rules of the mutex. -/
private theorem mutex_step (p : Platform) : (registryThreads p).Carries (guarded critical) RegistryThreads.mutex := by
  intro s i
  show RegistryThreads.mutex (registryThreadsStep p s i).1 = _ ∨
    ∃ j, RegistryThreads.mutex (registryThreadsStep p s i).1 = _
  have steps := steps_of p s i
  generalize registryThreadsStep p s i = stepped at steps ⊢
  generalize takesEffect p s i = executed at steps
  cases steps with
  | nothing | server => exact .inl rfl
  | blank t call result outside unread => exact .inl (mutex_same s.server (by rw [outside]; rfl))
  | begins t call locals outside began => exact .inr ⟨_,mutex_asks (by rw [outside]; rfl) rfl⟩
  | quiet t i own place owner moves =>
    generalize here : s.place t = before at moves
    generalize held : s.mClientsMtx = owned at moves
    cases moves with
    | enters call locals => exact .inr ⟨_,mutex_enters (by rw [here]; rfl) held rfl⟩
    | passes call locals it owner goesOn =>
      rw [← held]
      exact .inl (mutex_same s.server (by rw [here]; rfl))
    | unlocks result owner => exact .inr ⟨_,mutex_leaves (by rw [here]; rfl) rfl⟩
    | waits result owner =>
      rw [← held]
      exact .inr ⟨_,mutex_asks (by rw [here]; rfl) rfl⟩
    | prints result => exact .inr ⟨_,mutex_enters (by rw [here]; rfl) held rfl⟩
    | leaves result owner => exact .inr ⟨_,mutex_leaves (by rw [here]; rfl) rfl⟩
  | ends t call locals it found searches ended =>
    refine .inl (mutex_same _ ?_)
    rcases endSearch_inside s.manager found locals with ⟨it,inside⟩ | ⟨result,inside⟩ <;>
      rw [searches,inside] <;> rfl
  | writes t it calls => exact .inl (mutex_same _ (by rw [calls]; rfl))
  | returns t result returning => exact .inl (mutex_same s.server (by rw [returning]; rfl))

/-- A thread that waits for the mutex takes it if it is free, and goes on waiting if it is not. -/
private theorem mutex_lock (p : Platform) (s : RegistryThreads) (t : Nat) :
    RegistryThreads.mutex (registryThreadsStep p s (.lock t)).1 = (guarded critical).next s.mutex (.enter t) := by
  cases held : s.mClientsMtx with
  | some u =>
    have held' : s.mutex.holder = some u := held
    have stays : (guarded critical).next s.mutex (.enter t) = s.mutex := by
      show (guardedStep critical s.mutex (.enter t)).1 = _
      cases phase : s.mutex.phase t <;> simp only [guardedStep,held',phase]
    rw [stays]
    cases place : s.place t <;> simp only [registryThreadsStep,held,place]
  | none =>
    cases place : s.place t with
    | locking call locals =>
      simp only [registryThreadsStep,held,place]
      exact mutex_enters (by rw [place]; rfl) held rfl
    | printLocking result =>
      simp only [registryThreadsStep,held,place]
      exact mutex_enters (by rw [place]; rfl) held rfl
    | _ =>
      have phase : s.mutex.phase t = _ := congrArg Place.phase place
      show _ = (guardedStep critical s.mutex (.enter t)).1
      simp only [registryThreadsStep,held,place,guardedStep,phase,Place.phase]

/-- The threads go by the rules of a lock. -/
theorem carries_mutex (p : Platform) :
    CarriesLock critical (registryThreads p) RegistryThreads.mutex (fun t i => i = .lock t) where
  step := mutex_step p
  enter := by
    rintro s t _ rfl
    exact mutex_lock p s t

end

end LifecycleMgr
