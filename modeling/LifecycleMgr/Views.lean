import LifecycleMgr.Answers

namespace LifecycleMgr
open Runs

/-- What an output tells a client on D-Bus: an event tells every client, an answer the one whose call it was. -/
def toldState (own : Bool) : Output → Option LCState
  | .fireStateEvent state _ => some state
  | .reply (.registerClient _ state) => if own then some state else none
  | .reply (.getPowerStatePlus state _) => if own then some state else none
  | _ => none

/-- The same on Legato. -/
def leToldState (own : Bool) : Output → Option LeState
  | .leEventReport record => some record.lcState
  | .leReply (.registerClient _ state) => if own then some state else none
  | .leReply (.getLifeCycleStatePlus record) => if own then some record.lcState else none
  | _ => none

/-- The static record shows the power state. -/
def Shows (m : Manager) : Prop := m.broadcastInfo.lcState = leStateOf m.nadLifecycleState

/-- The operation is answered with the power state if it is answered with one; on Legato, once the event id is
    created. A registration of a name of padding only is answered with the state that it comes in with, and a query on
    Legato with the static record. -/
def Op.AnswersState (p : Platform) (m : Manager) : Op → Prop
  | .dbus (.LC_RegisterClient name) => cleanClientName p.charSigned name = [] → m.nadLifecycleState = .NAD_INIT
  | .legato (.lifecycle_RegisterClient name) => m.lifecycleStateEvent = true →
      cleanClientName p.charSigned (cString name) = [] → leStateOf p.initState = leStateOf m.nadLifecycleState
  | .legato .lifecycle_GetLifeCycleState_plus => m.lifecycleStateEvent = true → Shows m
  | _ => True

/-- What a client has been told last on D-Bus, and on Legato. -/
structure View where
  state : Option LCState := none
  leState : Option LeState := none
  deriving DecidableEq

/-- The action is a call of the client. -/
def ownCall (mine : Call → Bool) : PausingAction → Bool
  | .take (.call c) => mine c
  | _ => false

/-- The view after one more action; `mine` tells which calls are the client's. -/
def View.after (p : Platform) (mine : Call → Bool) (v : View) (s : Pausing) (i : PausingAction) : View where
  state := (((pausing p).out s i).filterMap (toldState (ownCall mine i))).getLast?.or v.state
  leState := (((pausing p).out s i).filterMap (leToldState (ownCall mine i))).getLast?.or v.leState

/-- All interleavings, with the view of a client. -/
def withView (p : Platform) (mine : Call → Bool) : Machine (Pausing × View) PausingAction Output :=
  (pausing p).observe (View.after p mine)

/-- What a client was told last is the state, on Legato once the event id is created. -/
structure Knows (created : Bool) (v : View) (current : LCState) : Prop where
  state : ∀ state, v.state = some state → state = current
  leState : created = true → ∀ leState, v.leState = some leState → leState = leStateOf current

/-- Outside a pause, a client knows the power state if it was told one. -/
def ViewCurrent (x : Pausing × View) : Prop :=
  x.1.pausing = false → Knows x.1.threads.manager.lifecycleStateEvent x.2 x.1.threads.manager.nadLifecycleState

/-- Outside a pause, the client's own call is answered with the power state if it is answered with one. -/
def OwnAnswered (p : Platform) (mine : Call → Bool) (x : Pausing × View) (i : PausingAction) : Prop :=
  x.1.pausing = false → ∀ c, i = .take (.call c) → mine c = true → c.op.AnswersState p x.1.threads.manager

/-- What was told last was told now, or before if nothing is told now. -/
private theorem told_cases {α : Type} {f : Output → Option α} {outputs : List Output} {v : Option α} {a : α}
    (last : (outputs.filterMap f).getLast?.or v = some a) :
    (∃ o ∈ outputs, f o = some a) ∨ v = some a ∧ ∀ o ∈ outputs, f o = none := by
  cases told : (outputs.filterMap f).getLast? with
  | none =>
    rw [told] at last
    rw [List.getLast?_eq_none_iff,List.filterMap_eq_nil_iff] at told
    exact .inr ⟨last,told⟩
  | some b =>
    rw [told] at last
    obtain rfl : b = a := Option.some.inj last
    exact .inl (List.mem_filterMap.mp (List.mem_of_getLast? told))

section
variable (p : Platform) {s : Threads} {a : Action}

/-- What an action publishes is the state that it leaves. -/
private theorem published_current (ready : s.manager.noTCUPowerMode = true) {o : Output}
    (published : o ∈ publications ((threads p).out s a)) :
    ∃ info, o ∈ announcement s.manager.lifecycleStateEvent (((threads p).next s a).manager.nadLifecycleState,info) := by
  rw [publications_action p ready] at published
  obtain ⟨b,broadcast,told⟩ := List.mem_flatMap.mp published
  have state := state_action p ready a
  rw [Option.mem_toList.mp broadcast] at state
  exact ⟨b.2,by rw [state]; exact told⟩

/-- An action announces the state that it leaves, or leaves the state as it was. -/
private theorem announces_or_keeps (ready : s.manager.noTCUPowerMode = true) :
    (∃ info, announcement s.manager.lifecycleStateEvent (((threads p).next s a).manager.nadLifecycleState,info) ⊆
        (threads p).out s a) ∨
      ((threads p).next s a).manager.nadLifecycleState = s.manager.nadLifecycleState := by
  cases broadcast : broadcastBy s a with
  | none => exact .inr (by rw [state_action p ready,broadcast]; rfl)
  | some b =>
    refine .inl ⟨b.2,fun o told => ?_⟩
    rw [state_action p ready,broadcast] at told
    have published : o ∈ publications ((threads p).out s a) := by
      rw [publications_action p ready,broadcast]
      exact List.mem_flatMap.mpr ⟨b,Option.mem_toList.mpr rfl,told⟩
    exact (List.mem_filter.mp published).1

private theorem state_quiet (ready : s.manager.noTCUPowerMode = true) {c : Call}
    (quiet : broadcastOf s.manager c.op = none) :
    ((threads p).next s (.call c)).manager.nadLifecycleState = s.manager.nadLifecycleState := by
  rw [state_action p ready,broadcastBy,quiet,ite_self]; rfl

/-- The answer to a registration or a query that is answered with the power state is the state that it leaves. -/
private theorem answer_current (ready : s.manager.noTCUPowerMode = true) {c : Call}
    (answers : c.op.AnswersState p s.manager) {answer : Reply} (member : .reply answer ∈ (threads p).out s (.call c))
    {state : LCState} (told : toldState true (.reply answer) = some state) :
    state = ((threads p).next s (.call c)).manager.nadLifecycleState := by
  obtain ⟨op,env⟩ := c
  cases answer with
  | registerClient status answered =>
    obtain rfl : answered = state := Option.some.inj told
    have asked := kind_of_asks (asked_of_answer p member (Multiset.mem_singleton_self _) (by simp))
    have registers : ∃ name, op = .dbus (.LC_RegisterClient name) := by
      cases op with
      | dbus request => cases request <;> simp [Op.kind] at asked ⊢
      | legato request => cases request <;> simp [Op.kind] at asked
      | mcu update => simp [Op.kind] at asked
    obtain ⟨name,rfl⟩ := registers
    rw [state_quiet p ready rfl]
    obtain ⟨_,same⟩ := Reply.registerClient.inj (Output.reply.inj (List.mem_singleton.mp member))
    rw [same]
    by_cases blank : cleanClientName p.charSigned name = []
    · rw [register_blank blank]
      exact (answers blank).symm
    · exact register_state blank
  | getPowerStatePlus answered info =>
    obtain rfl : answered = state := Option.some.inj told
    have asked := kind_of_asks (asked_of_answer p member (Multiset.mem_singleton_self _) (by simp))
    have queries : op = .dbus .LC_GetPowerState_plus := by
      cases op with
      | dbus request => cases request <;> simp [Op.kind] at asked ⊢
      | legato request => cases request <;> simp [Op.kind] at asked
      | mcu update => simp [Op.kind] at asked
    subst queries
    rw [state_quiet p ready rfl]
    exact (Reply.getPowerStatePlus.inj (Output.reply.inj (List.mem_singleton.mp member))).1
  | _ => cases told

private theorem leAnswer_current (ready : s.manager.noTCUPowerMode = true)
    (created : s.manager.lifecycleStateEvent = true) {c : Call} (answers : c.op.AnswersState p s.manager)
    {answer : LeReply} (member : .leReply answer ∈ (threads p).out s (.call c)) {leState : LeState}
    (told : leToldState true (.leReply answer) = some leState) :
    leState = leStateOf ((threads p).next s (.call c)).manager.nadLifecycleState := by
  obtain ⟨op,env⟩ := c
  cases answer with
  | registerClient status answered =>
    obtain rfl : answered = leState := Option.some.inj told
    have asked := kind_of_asks (asked_of_answer p member (Multiset.mem_singleton_self _) (by simp))
    have registers : ∃ name, op = .legato (.lifecycle_RegisterClient name) := by
      cases op with
      | dbus request => cases request <;> simp [Op.kind] at asked
      | legato request => cases request <;> simp [Op.kind] at asked ⊢
      | mcu update => simp [Op.kind] at asked
    obtain ⟨name,rfl⟩ := registers
    rw [state_quiet p ready rfl]
    obtain ⟨_,same⟩ := LeReply.registerClient.inj (Output.leReply.inj (List.mem_singleton.mp member))
    rw [same]
    by_cases blank : cleanClientName p.charSigned (cString name) = []
    · rw [register_blank blank]
      exact answers created blank
    · exact congrArg leStateOf (register_state blank)
  | getLifeCycleStatePlus record =>
    obtain rfl : record.lcState = leState := Option.some.inj told
    have asked := kind_of_asks (asked_of_answer p member (Multiset.mem_singleton_self _) (by simp))
    have queries : op = .legato .lifecycle_GetLifeCycleState_plus := by
      cases op with
      | dbus request => cases request <;> simp [Op.kind] at asked
      | legato request => cases request <;> simp [Op.kind] at asked ⊢
      | mcu update => simp [Op.kind] at asked
    subst queries
    rw [state_quiet p ready rfl,LeReply.getLifeCycleStatePlus.inj (Output.leReply.inj (List.mem_singleton.mp member))]
    exact answers created
  | _ => cases told

/-- Whatever an action tells a client is the state that it leaves, if its own call is answered so. -/
private theorem told_current (ready : s.manager.noTCUPowerMode = true) {own : Bool}
    (answers : own = true → ∃ c, a = .call c ∧ c.op.AnswersState p s.manager) {o : Output}
    (member : o ∈ (threads p).out s a) :
    (∀ state, toldState own o = some state → state = ((threads p).next s a).manager.nadLifecycleState) ∧
      (s.manager.lifecycleStateEvent = true → ∀ leState, leToldState own o = some leState →
        leState = leStateOf ((threads p).next s a).manager.nadLifecycleState) := by
  cases o with
  | fireStateEvent state info =>
    obtain ⟨_,told⟩ := published_current p ready (List.mem_filter.mpr ⟨member,rfl⟩)
    have same : state = ((threads p).next s a).manager.nadLifecycleState := by
      rw [announcement,List.mem_cons] at told
      rcases told with event | report
      · exact (Output.fireStateEvent.inj event).1
      · split at report <;> simp at report
    exact ⟨fun _ told => (Option.some.inj told).symm.trans same,fun _ _ told => by cases told⟩
  | leEventReport record =>
    obtain ⟨_,told⟩ := published_current p ready (List.mem_filter.mpr ⟨member,rfl⟩)
    have same : record.lcState = leStateOf ((threads p).next s a).manager.nadLifecycleState := by
      rw [announcement,List.mem_cons] at told
      rcases told with event | report
      · cases event
      · split at report
        · rw [Output.leEventReport.inj (List.mem_singleton.mp report)]; rfl
        · exact absurd report List.not_mem_nil
    exact ⟨fun _ told => (by cases told),fun _ _ told => (Option.some.inj told).symm.trans same⟩
  | reply answer =>
    refine ⟨fun state told => ?_,fun _ _ told => by cases told⟩
    cases own with
    | false => cases answer <;> cases told
    | true =>
      obtain ⟨c,rfl,answered⟩ := answers rfl
      exact answer_current p ready answered member told
  | leReply answer =>
    refine ⟨fun _ told => (by cases told),fun created leState told => ?_⟩
    cases own with
    | false => cases answer <;> cases told
    | true =>
      obtain ⟨c,rfl,answered⟩ := answers rfl
      exact leAnswer_current p ready created answered member told
  | _ => exact ⟨fun _ told => (by cases told),fun _ _ told => by cases told⟩

end

/-- What a client knows after some outputs, when each of them tells the state that they lead to, and they announce
    it or the client knew it before. -/
private theorem knows_told {own created : Bool} {outputs : List Output} {v : View} {current : LCState}
    (tells : ∀ o ∈ outputs, (∀ state, toldState own o = some state → state = current) ∧
      (created = true → ∀ leState, leToldState own o = some leState → leState = leStateOf current))
    (announced : (∃ info, announcement created (current,info) ⊆ outputs) ∨ Knows created v current) :
    Knows created
      { state := (outputs.filterMap (toldState own)).getLast?.or v.state
        leState := (outputs.filterMap (leToldState own)).getLast?.or v.leState } current := by
  constructor
  · intro state last
    rcases told_cases last with ⟨o,member,told⟩ | ⟨earlier,untold⟩
    · exact (tells o member).1 state told
    · rcases announced with ⟨info,inside⟩ | known
      · cases untold _ (inside List.mem_cons_self)
      · exact known.state state earlier
  · rintro rfl leState last
    rcases told_cases last with ⟨o,member,told⟩ | ⟨earlier,untold⟩
    · exact (tells o member).2 rfl leState told
    · rcases announced with ⟨info,inside⟩ | known
      · cases untold _ (inside (List.mem_cons_of_mem _ (List.mem_singleton.mpr rfl)))
      · exact known.leState rfl leState earlier

/-- The end of a pause announces the power state, and nothing else that tells one. -/
private theorem told_pauseEnd (m : Manager) (own : Bool) :
    announcement m.lifecycleStateEvent (m.nadLifecycleState,m.nadAdditionalInfo) ⊆ (evaluateAfterPause m).2.1 ∧
      ∀ o ∈ (evaluateAfterPause m).2.1, (∀ state, toldState own o = some state → state = m.nadLifecycleState) ∧
        (m.lifecycleStateEvent = true → ∀ leState, leToldState own o = some leState →
          leState = leStateOf m.nadLifecycleState) := by
  have outputs : (evaluateAfterPause m).2.1 =
      announcement m.lifecycleStateEvent (m.nadLifecycleState,m.nadAdditionalInfo) ++
        [.startTCUOnlyTimer (evaluateAfterPause m).2.2] := by
    rw [evaluateAfterPause,notify_out]; rfl
  rw [outputs]
  refine ⟨List.subset_append_left _ _,fun o member => ?_⟩
  rw [announcement,List.cons_append,List.mem_cons,List.mem_append,List.mem_singleton] at member
  rcases member with rfl | report | rfl
  · exact ⟨fun _ told => (Option.some.inj told).symm,fun _ _ told => by cases told⟩
  · split at report
    · rw [List.mem_singleton.mp report]
      exact ⟨fun _ told => (by cases told),fun _ _ told => (Option.some.inj told).symm⟩
    · exact absurd report List.not_mem_nil
  · exact ⟨fun _ told => (by cases told),fun _ _ told => by cases told⟩

/-- A client that knows the power state after its own call was answered with it. -/
private theorem answered_of_knows (p : Platform) {s : Threads} (ready : s.manager.noTCUPowerMode = true) {v : View}
    {c : Call} (knows : Knows s.manager.lifecycleStateEvent
      { state := (((threads p).out s (.call c)).filterMap (toldState true)).getLast?.or v.state
        leState := (((threads p).out s (.call c)).filterMap (leToldState true)).getLast?.or v.leState }
      ((threads p).next s (.call c)).manager.nadLifecycleState) : c.op.AnswersState p s.manager := by
  obtain ⟨op,env⟩ := c
  cases op with
  | dbus request =>
    cases request with
    | LC_RegisterClient name =>
      intro blank
      have told : (threads p).out s (.call ⟨.dbus (.LC_RegisterClient name),env⟩) =
          [.reply (.registerClient .LC_STS_NOT_OK_CLIENT_NOT_REGISTERED .NAD_INIT)] := by
        show (lcRegisterClient p s.manager name).2 = _
        rw [lcRegisterClient,register_blank blank]
      rw [told,state_quiet p ready rfl] at knows
      exact (knows.state .NAD_INIT rfl).symm
    | _ => trivial
  | legato request =>
    cases request with
    | lifecycle_RegisterClient name =>
      intro created blank
      have told : (threads p).out s (.call ⟨.legato (.lifecycle_RegisterClient name),env⟩) =
          [.leReply (.registerClient (capiLcStatusToLeLcStatus p.initStatus) (leStateOf p.initState))] := by
        show (lifecycleRegisterClient p s.manager name).2 = _
        rw [lifecycleRegisterClient,register_blank blank]; rfl
      rw [told,state_quiet p ready rfl] at knows
      exact knows.leState created _ rfl
    | lifecycle_GetLifeCycleState_plus =>
      intro created
      rw [state_quiet p ready rfl] at knows
      exact knows.leState created s.manager.broadcastInfo.lcState rfl
    | _ => trivial
  | mcu update => trivial

/-- A mode of the MCU client is answered with nothing. -/
private theorem answers_opens (p : Platform) {s : Threads} {c : Call} (opens : OpensWindow s (.call c)) :
    c.op.AnswersState p s.manager := by
  obtain ⟨op,env⟩ := c
  cases op with
  | mcu update => trivial
  | _ => exact opens.2.elim

/-- An action after which a client knows the power state, if it knew it before, is answered so. -/
private theorem knows_taken (p : Platform) (mine : Call → Bool) {s : Threads} (ready : s.manager.noTCUPowerMode = true)
    {v : View} (known : Knows s.manager.lifecycleStateEvent v s.manager.nadLifecycleState) (a : Action) :
    Knows s.manager.lifecycleStateEvent
        { state := (((threads p).out s a).filterMap (toldState (ownCall mine (.take a)))).getLast?.or v.state
          leState := (((threads p).out s a).filterMap (leToldState (ownCall mine (.take a)))).getLast?.or v.leState }
        ((threads p).next s a).manager.nadLifecycleState ↔
      ∀ c, a = .call c → mine c = true → c.op.AnswersState p s.manager := by
  constructor
  · rintro knows c rfl own
    rw [ownCall,own] at knows
    exact answered_of_knows p ready knows
  · intro answers
    have named : ownCall mine (.take a) = true → ∃ c, a = .call c ∧ c.op.AnswersState p s.manager := by
      intro own
      cases a with
      | call c => exact ⟨c,rfl,answers c rfl own⟩
      | _ => cases own
    refine knows_told (fun o member => told_current p ready named member) ?_
    rcases announces_or_keeps p ready with announces | keeps
    · exact .inl announces
    · rw [keeps]
      exact .inr known

private theorem view_step (p : Platform) (mine : Call → Bool) (x : Pausing × View) (i : PausingAction)
    (running : Running p x.1.threads.manager) (current : ViewCurrent x) :
    ViewCurrent ((withView p mine).next x i) ↔ OwnAnswered p mine x i := by
  obtain ⟨s,v⟩ := x
  have ready := running.ready
  rw [withView,Machine.observe_next,View.after]
  show ViewCurrent ((pausingStep p s i).1,_) ↔ _
  rcases pausing_cases p s i with ⟨blocked,stays⟩ | ⟨a,rfl,_,taken⟩ | ⟨a,rfl,_,⟨opens,_,_⟩,begun⟩ | ⟨rfl,_,ended⟩
  · have silent : (pausing p).out s i = [] := congrArg Prod.snd stays
    rw [stays,silent]
    refine iff_of_true current ?_
    rintro awake c rfl
    have inPause : s.pausing = true := (blocked _ rfl).1
    cases inPause.symm.trans awake
  · have out : (pausing p).out s (.take a) = (threads p).out s.threads a := congrArg Prod.snd taken
    rw [taken,out]
    refine forall_congr' fun awake => ?_
    show Knows ((threads p).next s.threads a).manager.lifecycleStateEvent _ _ ↔ _
    rw [created_action p ready a,knows_taken p mine ready (current awake) a]
    simp only [PausingAction.take.injEq]
  · rw [begun]
    refine iff_of_true (fun awake => Bool.noConfusion awake) ?_
    rintro _ c ⟨⟩ _
    exact answers_opens p opens
  · have out : (pausing p).out s .pauseEnd = (evaluateAfterPause s.threads.manager).2.1 := congrArg Prod.snd ended
    obtain ⟨announces,tells⟩ := told_pauseEnd s.threads.manager (ownCall mine .pauseEnd)
    rw [ended,out]
    refine iff_of_true (fun _ => ?_) (fun _ c taken => by cases taken)
    show Knows (notifyAllRegisteredClientsNadStateInfo s.threads.manager).1.lifecycleStateEvent _
      (notifyAllRegisteredClientsNadStateInfo s.threads.manager).1.nadLifecycleState
    rw [notify_lifecycleStateEvent,notify_nadLifecycleState]
    exact knows_told tells (.inl ⟨_,announces⟩)

end LifecycleMgr
