import LifecycleMgr.EventLoop
import LifecycleMgr.LastEvent
import LifecycleMgr.Pauses

namespace LifecycleMgr
open Runs

theorem payloads_publications (outputs : List Output) : payloads (publications outputs) = payloads outputs := by
  rw [payloads,payloads,publications,List.filterMap_filter]
  refine List.filterMap_congr fun o _ => ?_
  cases o <;> rfl

/-- The reports of some announcements are the images of what is announced. -/
theorem payloads_announcements (created : Bool) (broadcasts : List (LCState × AdditionalLifecycleStateInfo)) :
    payloads (broadcasts.flatMap (announcement created)) =
      if created then broadcasts.map (fun broadcast => leImage broadcast.1 broadcast.2) else [] := by
  induction broadcasts with
  | nil => cases created <;> rfl
  | cons broadcast rest ih =>
    have split : payloads (announcement created broadcast ++ rest.flatMap (announcement created)) =
        payloads (announcement created broadcast) ++ payloads (rest.flatMap (announcement created)) :=
      List.filterMap_append
    rw [List.flatMap_cons,split,ih]
    cases created <;> rfl

/-- The outputs publish some states, one after the other. -/
private def Announce (created : Bool) (outputs : List Output) : Prop :=
  publications outputs = (stateEvents outputs).flatMap (announcement created)

private theorem announce_append {created : Bool} {front back : List Output} (first : Announce created front)
    (second : Announce created back) : Announce created (front ++ back) := by
  have events : stateEvents (front ++ back) = stateEvents front ++ stateEvents back := List.filterMap_append
  rw [Announce,publications_append,first,second,events,List.flatMap_append]

private theorem events_announcement (created : Bool) (broadcasts : List (LCState × AdditionalLifecycleStateInfo)) :
    stateEvents (broadcasts.flatMap (announcement created)) = broadcasts := by
  induction broadcasts with
  | nil => rfl
  | cons broadcast rest ih =>
    have events : stateEvents (announcement created broadcast ++ rest.flatMap (announcement created)) =
        broadcast :: stateEvents (rest.flatMap (announcement created)) := by cases created <;> rfl
    rw [List.flatMap_cons,events,ih]

/-- What publishes announcements only publishes those of its events. -/
private theorem announce_of_published {created : Bool} {outputs : List Output}
    {broadcasts : List (LCState × AdditionalLifecycleStateInfo)}
    (published : publications outputs = broadcasts.flatMap (announcement created)) : Announce created outputs := by
  rw [Announce,← events_published,published,events_announcement]

private theorem announce_step (p : Platform) {s : Pausing} (i : PausingAction)
    (ready : s.threads.manager.noTCUPowerMode = true) :
    Announce s.threads.manager.lifecycleStateEvent ((pausing p).out s i) := by
  show Announce _ (pausingStep p s i).2
  rcases pausing_cases p s i with ⟨_,stays⟩ | ⟨a,rfl,_,taken⟩ | ⟨a,rfl,_,_,begun⟩ | ⟨rfl,_,ended⟩
  · rw [stays]; rfl
  · rw [taken]
    exact announce_of_published (publications_action p ready a)
  · rw [begun]; rfl
  · rw [ended]
    have published : publications (evaluateAfterPause s.threads.manager).2.1 =
        [(s.threads.manager.nadLifecycleState,s.threads.manager.nadAdditionalInfo)].flatMap
          (announcement s.threads.manager.lifecycleStateEvent) := by
      rw [evaluateAfterPause,publications_append,publications_notify,notify_out]
      rfl
    exact announce_of_published published

theorem created_pausing (p : Platform) {s : Pausing} (i : PausingAction)
    (ready : s.threads.manager.noTCUPowerMode = true) :
    ((pausing p).next s i).threads.manager.lifecycleStateEvent = s.threads.manager.lifecycleStateEvent := by
  show (pausingStep p s i).1.threads.manager.lifecycleStateEvent = _
  rcases pausing_cases p s i with ⟨_,stays⟩ | ⟨a,rfl,_,taken⟩ | ⟨a,rfl,_,_,begun⟩ | ⟨rfl,_,ended⟩
  · rw [stays]
  · rw [taken]
    exact created_action p ready a
  · rw [begun]; rfl
  · rw [ended]
    exact notify_lifecycleStateEvent _

/-- A step reports the images of its events, once the event id is created. -/
theorem payloads_step (p : Platform) {s : Pausing} (i : PausingAction)
    (ready : s.threads.manager.noTCUPowerMode = true) : payloads ((pausing p).out s i) =
      if s.threads.manager.lifecycleStateEvent then
        (stateEvents ((pausing p).out s i)).map (fun event => leImage event.1 event.2)
      else [] := by
  have announced := announce_step p i ready
  rw [Announce] at announced
  rw [← payloads_publications,announced,payloads_announcements]

private theorem announce_run (p : Platform) (s : Pausing) (running : Running p s.threads.manager)
    (run : List PausingAction) :
    Announce s.threads.manager.lifecycleStateEvent ((pausing p).outputs s run) := by
  induction run generalizing s with
  | nil => rfl
  | cons i rest ih =>
    have later := ih ((pausing p).next s i) (running_pausing p s i running)
    rw [created_pausing p i running.ready] at later
    exact announce_append (announce_step p i running.ready) later

/-- In every interleaving, the events on D-Bus and the reports on Legato are, in the order in which they are put out,
    the events with their reports, one after the other; without the event id they are the events. -/
theorem published_alike (p : Platform) (info : AdditionalLifecycleStateInfo) (created : Bool)
    (run : List PausingAction) :
    let outputs := (pausing p).outputs (.started p info created) run
    publications outputs = (stateEvents outputs).flatMap (announcement created) ∧
      payloads outputs =
        if created then (stateEvents outputs).map (fun event => leImage event.1 event.2) else [] := by
  intro outputs
  have announced : Announce created outputs := announce_run p _ (running_started p info created) run
  refine ⟨announced,?_⟩
  rw [← payloads_publications,announced,payloads_announcements]

end LifecycleMgr
