import LifecycleMgr.Frames
import LifecycleMgr.Refinements

/-!
The two transports against each other. A request on Legato is translated, executed
by the code that serves D-Bus, and its answer is translated back. Besides that, a
registration writes the static record, which no operation reads but the query of the
record. So two runs of corresponding requests do the same (`transports_agree`). Three
things have nothing that corresponds to them on the other transport: the query of the
record; a name with a zero byte, which Legato cuts off there; and a registration of a
name of padding only, whose answers do not translate to each other. And a registration of
a new name is answered alike only if `LC_Status` is not value-initialised to the status
it tests for.
-/
namespace LifecycleMgr
open Runs

inductive SameStayActive : LCStayActive → LeStayActive → Prop
  | release : SameStayActive .LC_RELEASE .LIFECYCLE_LC_RELEASE
  | lock : SameStayActive .LC_LOCK .LIFECYCLE_LC_LOCK
  | bub : SameStayActive .LC_BUB .LIFECYCLE_LC_BUB

/-- A state that is named the same is read back as it is. -/
theorem leLcState_same {s : LCState} {l : LeState} (same : SameState s l) : leLcStateToCapiLcState l = s := by
  cases same <;> rfl

theorem leLcStayActive_same {v : LCStayActive} {l : LeStayActive} (same : SameStayActive v l) :
    leLcStayActiveToCapiLcStayActive l = v := by
  cases same <;> rfl

/-- A name without a zero byte passes through Legato. -/
theorem cString_of_nonzero {name : ClientName} (text : 0 ∉ name) : cString name = name := by
  rw [cString,List.takeWhile_eq_self_iff]
  intro b member
  have nonzero : b ≠ 0 := fun zero => text (zero ▸ member)
  simpa using nonzero

/-- A request on D-Bus and one on Legato that say the same: the name has no zero byte, at which Legato would end it,
    and one that registers is not of padding only. -/
inductive SameRequest (p : Platform) : DBusRequest → LegatoRequest → Prop
  | register {name : ClientName} (text : 0 ∉ name) (nonblank : cleanClientName p.charSigned name ≠ []) :
    SameRequest p (.LC_RegisterClient name) (.lifecycle_RegisterClient name)
  | emergency {name : ClientName} {state : LCState} {leState : LeState} (same : SameState state leState) :
    SameRequest p (.LC_Emergency name state) (.lifecycle_LC_Emergency name leState)
  | stayActive {name : ClientName} {v : LCStayActive} {le : LeStayActive} (text : 0 ∉ name)
      (same : SameStayActive v le) :
    SameRequest p (.LC_StayActive name v) (.lifecycle_LC_StayActive name le)

/-- Two calls that say the same, on the same transport or on different ones. The query of the static record is
    left out: its answer is the record. -/
inductive SameCall (p : Platform) : Call → Call → Prop
  | same {c : Call} (reads : c.op ≠ .legato .lifecycle_GetLifeCycleState_plus) : SameCall p c c
  | legato {request : DBusRequest} {leRequest : LegatoRequest} {env : Env} (same : SameRequest p request leRequest) :
    SameCall p ⟨.dbus request,env⟩ ⟨.legato leRequest,env⟩
  | dbus {request : DBusRequest} {leRequest : LegatoRequest} {env : Env} (same : SameRequest p request leRequest) :
    SameCall p ⟨.legato leRequest,env⟩ ⟨.dbus request,env⟩

/-- An answer on D-Bus and its translation on Legato. -/
inductive Translated : Reply → LeReply → Prop
  | registerClient (status : LCStatus) (state : LCState) :
    Translated (.registerClient status state) (.registerClient (capiLcStatusToLeLcStatus status) (leStateOf state))
  | emergency (status : LCStatus) : Translated (.emergency status) (.emergency (capiLcStatusToLeLcStatus status))
  | stayActive (status : LCStatus) : Translated (.stayActive status) (.stayActive (capiLcStatusToLeLcStatus status))

/-- Two outputs that tell the same. -/
inductive SameOutput : Output → Output → Prop
  | same (o : Output) : SameOutput o o
  | legato {answer : Reply} {leAnswer : LeReply} (translated : Translated answer leAnswer) :
    SameOutput (.reply answer) (.leReply leAnswer)
  | dbus {answer : Reply} {leAnswer : LeReply} (translated : Translated answer leAnswer) :
    SameOutput (.leReply leAnswer) (.reply answer)

theorem sameOutput_refl (outputs : List Output) : List.Forall₂ SameOutput outputs outputs :=
  List.forall₂_same.mpr fun o _ => .same o

/-- The same manager but for the static record. -/
def SameButRecord (m m' : Manager) : Prop := ∃ record, m' = withRecord m record

theorem sameButRecord_refl (m : Manager) : SameButRecord m m := ⟨m.broadcastInfo,rfl⟩

theorem sameButRecord_symm {m m' : Manager} (same : SameButRecord m m') : SameButRecord m' m := by
  obtain ⟨record,rfl⟩ := same
  exact ⟨m.broadcastInfo,rfl⟩

theorem sameButRecord_trans {m m' m'' : Manager} (first : SameButRecord m m') (second : SameButRecord m' m'') :
    SameButRecord m m'' := by
  obtain ⟨_,rfl⟩ := first
  obtain ⟨record,rfl⟩ := second
  exact ⟨record,rfl⟩

private theorem step_same (p : Platform) (m : Manager) (record : BroadcastInfoPlus) (c : Call)
    (reads : c.op ≠ .legato .lifecycle_GetLifeCycleState_plus) :
    SameButRecord (managerStep p m c).1 (managerStep p (withRecord m record) c).1 ∧
      (managerStep p (withRecord m record) c).2 = (managerStep p m c).2 := by
  by_cases registered : (c.op.registryCall p).isSome = true
  · obtain ⟨record',stepped⟩ := registry_blind p m record c registered
    rw [stepped]
    exact ⟨⟨record',rfl⟩,rfl⟩
  · rw [Option.not_isSome_iff_eq_none] at registered
    have blind := step_blind p c registered reads
    obtain ⟨record',stepped,_⟩ := blind m record m.mClients
    have clients : m.mClients = (managerStep p m c).1.mClients := (blind_clients blind m).symm
    have stepped' : managerStep p (withRecord m record) c =
        (withUnread (managerStep p m c).1 record' m.mClients,(managerStep p m c).2) := stepped
    rw [stepped',clients]
    exact ⟨⟨record',rfl⟩,rfl⟩

/-- A request on Legato does what the request of the same content on D-Bus does, and its answer is translated. -/
private theorem request_same (p : Platform) (fresh : p.initStatus ≠ .LC_STS_OK_CLIENT_ALREADY_REGISTERED)
    {request : DBusRequest} {leRequest : LegatoRequest} (same : SameRequest p request leRequest) (m : Manager)
    (env : Env) : SameButRecord (dbusStep p m env request).1 (legatoStep p m env leRequest).1 ∧
      ∃ sent answer leAnswer, (dbusStep p m env request).2 = sent ++ [.reply answer] ∧
        (legatoStep p m env leRequest).2 = sent ++ [.leReply leAnswer] ∧ Translated answer leAnswer := by
  cases same with
  | @register name text nonblank =>
    have registered : evaluateRegisterClient p m (cString name) p.initState p.initStatus =
        evaluateRegisterClient p m name .NAD_INIT .LC_STS_NOT_OK_CLIENT_NOT_REGISTERED := by
      rw [cString_of_nonzero text]
      by_cases present : cleanClientName p.charSigned name ∈ clientNames m
      · rw [register_kept nonblank (.inl present),register_kept nonblank (.inl present)]
      · rw [register_new nonblank present fresh,register_new nonblank present (by decide)]
    refine ⟨⟨_,by simp only [legatoStep,lifecycleRegisterClient,registered]; rfl⟩,[],_,_,rfl,
      by simp only [legatoStep,lifecycleRegisterClient,registered]; rfl,.registerClient _ _⟩
  | @emergency name state leState same =>
    refine ⟨sameButRecord_refl m,(triggerLCEmergency env state).1,_,_,rfl,?_,
      .emergency (triggerLCEmergency env state).2⟩
    simp only [legatoStep,lifecycleLCEmergency,leLcState_same same]
  | @stayActive name v le text same =>
    have evaluated : evaluateLCStayActive m (cString name) (leLcStayActiveToCapiLcStayActive le) =
        evaluateLCStayActive m name v := by
      rw [cString_of_nonzero text,leLcStayActive_same same]
    refine ⟨⟨(evaluateLCStayActive m name v).1.broadcastInfo,?_⟩,(evaluateLCStayActive m name v).2.1,_,_,rfl,?_,
      .stayActive (evaluateLCStayActive m name v).2.2⟩
    · simp only [legatoStep,lifecycleLCStayActive,evaluated]; rfl
    · simp only [legatoStep,lifecycleLCStayActive,evaluated]

private theorem forall₂_answered {sent : List Output} {o o' : Output} (same : SameOutput o o') :
    List.Forall₂ SameOutput (sent ++ [o]) (sent ++ [o']) :=
  List.rel_append (sameOutput_refl sent) (.cons same .nil)

private theorem call_same (p : Platform) (fresh : p.initStatus ≠ .LC_STS_OK_CLIENT_ALREADY_REGISTERED) (m m' : Manager)
    (c c' : Call) (same : SameButRecord m m') (calls : SameCall p c c') :
    SameButRecord ((manager p).next m c) ((manager p).next m' c') ∧
      List.Forall₂ SameOutput ((manager p).out m c) ((manager p).out m' c') := by
  obtain ⟨record,rfl⟩ := same
  show SameButRecord (managerStep p m c).1 (managerStep p (withRecord m record) c').1 ∧
    List.Forall₂ SameOutput (managerStep p m c).2 (managerStep p (withRecord m record) c').2
  cases calls with
  | same reads =>
    obtain ⟨next,out⟩ := step_same p m record c reads
    rw [out]
    exact ⟨next,sameOutput_refl _⟩
  | @legato request leRequest env content =>
    obtain ⟨next,out⟩ := step_same p m record ⟨.dbus request,env⟩ (by simp)
    obtain ⟨moved,sent,answer,leAnswer,asked,answered,translated⟩ :=
      request_same p fresh content (withRecord m record) env
    refine ⟨sameButRecord_trans next moved,?_⟩
    have asked' : (managerStep p m ⟨.dbus request,env⟩).2 = sent ++ [.reply answer] := out.symm.trans asked
    rw [asked']
    exact answered ▸ forall₂_answered (.legato translated)
  | @dbus request leRequest env content =>
    obtain ⟨next,out⟩ := step_same p m record ⟨.dbus request,env⟩ (by simp)
    obtain ⟨moved,sent,answer,leAnswer,asked,answered,translated⟩ := request_same p fresh content m env
    refine ⟨sameButRecord_trans (sameButRecord_symm moved) next,?_⟩
    have asked' : (managerStep p (withRecord m record) ⟨.dbus request,env⟩).2 = sent ++ [.reply answer] :=
      out.trans asked
    rw [asked']
    exact answered ▸ forall₂_answered (.dbus translated)

/-- Between runs of corresponding requests it makes no difference which transport a request takes: the managers stay
    equal but for the static record, and every output is the same but for the translation of an answer. The query of
    the record is left out, and on the other transport nothing corresponds to a registration of a name of padding only
    or to a name with a zero byte; and `LC_Status` must not be value-initialised to the status that a registration
    tests for. -/
theorem transports_agree (p : Platform) (fresh : p.initStatus ≠ .LC_STS_OK_CLIENT_ALREADY_REGISTERED) {m m' : Manager}
    (same : SameButRecord m m') {run run' : List Call} (requests : List.Forall₂ (SameCall p) run run') :
    SameButRecord ((manager p).run m run) ((manager p).run m' run') ∧
      List.Forall₂ SameOutput ((manager p).outputs m run) ((manager p).outputs m' run') :=
  Machine.run_corresponds (manager p) (manager p) (call_same p fresh) same requests

/-- A client registers, takes a lock and reports an emergency, on D-Bus. -/
def dbusClient : List Call :=
  [(Op.dbus (.LC_RegisterClient clientA)).call,
    (Op.mcu (.setPowerMode 13)).call,
    (Op.dbus (.LC_StayActive clientA .LC_LOCK)).call,
    (Op.dbus (.LC_Emergency clientA .NAD_EMERGENCY)).call]

/-- The same client on Legato. -/
def legatoClient : List Call :=
  [(Op.legato (.lifecycle_RegisterClient clientA)).call,
    (Op.mcu (.setPowerMode 13)).call,
    (Op.legato (.lifecycle_LC_StayActive clientA .LIFECYCLE_LC_LOCK)).call,
    (Op.legato (.lifecycle_LC_Emergency clientA .LIFECYCLE_NAD_EMERGENCY)).call]

theorem clients_agree :
    SameButRecord ((manager samplePlatform).run (.started samplePlatform sampleInfo true) dbusClient)
        ((manager samplePlatform).run (.started samplePlatform sampleInfo true) legatoClient) ∧
      List.Forall₂ SameOutput
        ((manager samplePlatform).outputs (.started samplePlatform sampleInfo true) dbusClient)
        ((manager samplePlatform).outputs (.started samplePlatform sampleInfo true) legatoClient) :=
  transports_agree samplePlatform (by decide) (sameButRecord_refl _)
    (.cons (.legato (.register (by decide) (by decide))) (.cons (.same (by simp [Op.call]))
      (.cons (.legato (.stayActive (by decide) .lock)) (.cons (.legato (.emergency .emergency)) .nil))))

end LifecycleMgr
