import Microbench.Proofs.StoreMerge
import Microbench.World

/-!
What acts do to a world. `World.Continued` compares two worlds by the actions between them, and
`World.Grown` by the events told and the reports merged between them, which leaves log entries and
other notes open. `Act.Does` says the latter of an act whatever world it starts from, and sequencing
acts appends what they do.
-/

namespace Microbench

def Sink.after {σ : Type} (sink : Sink σ) (events : List Event) (s : σ) : σ :=
  events.foldl (fun s e => (sink e s).2) s

/-- An event that a sink takes in every state. -/
def Sink.Takes {σ : Type} (sink : Sink σ) (e : Event) : Prop := ∀ s, (sink e s).1 = .ok ()

theorem Sink.after_append {σ : Type} (sink : Sink σ) (first second : List Event) (s : σ) :
    sink.after (first ++ second) s = sink.after second (sink.after first s) := List.foldl_append

theorem Sink.after_recording (events : List Event) (log : Array Event) :
    Sink.recording.after events log = log ++ events.toArray := by
  induction events generalizing log with
  | nil => simp [Sink.after]
  | cons e events ih =>
    refine (ih (log.push e)).trans ?_
    simp

namespace Action

def event? : Action → Option Event
  | told e _ => some e
  | _ => none

def report? : Action → Option (Descriptor × Run)
  | merged d run => some (d, run)
  | _ => none

end Action

namespace World

variable {σ : Type}

/-- The calls made on the sink, in order. -/
def told (w : World σ) : List Event := w.trace.toList.filterMap Action.event?

/-- The reports merged into the store, in order. -/
def merged (w : World σ) : List (Descriptor × Run) := w.trace.toList.filterMap Action.report?

def toldSince (w w' : World σ) : List Event := w'.told.drop w.told.length

def mergedSince (w w' : World σ) : List (Descriptor × Run) := w'.merged.drop w.merged.length

/-- The trace of `w` goes on with these actions, and nothing but their reports has changed the store. -/
structure Continued (w : World σ) (actions : List Action) (w' : World σ) : Prop where
  trace : w'.trace.toList = w.trace.toList ++ actions
  store : w'.store = w.store.mergeReports (actions.filterMap Action.report?)

namespace Continued

variable {w w' w'' : World σ} {actions actions' : List Action}

theorem refl (w : World σ) : w.Continued [] w := ⟨by simp, by simp⟩

theorem trans (first : w.Continued actions w') (second : w'.Continued actions' w'') :
    w.Continued (actions ++ actions') w'' where
  trace := by rw [second.trace, first.trace, List.append_assoc]
  store := by rw [second.store, first.store, List.filterMap_append, Store.mergeReports_append]

theorem told (h : w.Continued actions w') : w'.told = w.told ++ actions.filterMap Action.event? := by
  rw [World.told, World.told, h.trace, List.filterMap_append]

theorem merged (h : w.Continued actions w') :
    w'.merged = w.merged ++ actions.filterMap Action.report? := by
  rw [World.merged, World.merged, h.trace, List.filterMap_append]

/-- Since nothing was done yet, these actions are all that was done. -/
theorem of_start {s : σ} (h : (World.start s).Continued actions w) : w.trace.toList = actions ∧
    w.told = actions.filterMap Action.event? ∧ w.store = Store.empty.mergeReports w.merged :=
  ⟨h.trace, h.told, by rw [h.merged]; exact h.store⟩

theorem note (w : World σ) {a : Action} (quiet : a.report? = none) :
    w.Continued [a] ((Act.note a).run w).2 := by
  refine ⟨Array.toList_push, ?_⟩
  rw [List.filterMap_cons_none quiet]
  rfl

theorem log (w : World σ) (level : Log.Level) (text : String) :
    w.Continued [.logged ⟨level, text, none⟩] ((Act.log level text).run w).2 := note w rfl

theorem tell (sink : Sink σ) (e : Event) (w : World σ) :
    w.Continued [.told e (refusal? ((Act.tell sink e).run w).1)] ((Act.tell sink e).run w).2 :=
  ⟨Array.toList_push, rfl⟩

theorem of_tell {sink : Sink σ} {e : Event} {answer : Except Failure Unit}
    (told : (Act.tell sink e).run w = (answer, w')) : w.Continued [.told e (refusal? answer)] w' := by
  have continued := tell sink e w
  rwa [told] at continued

theorem merge (w : World σ) (d : Descriptor) (run : Run) :
    w.Continued [.merged d run] ((Act.merge d run).run w).2 := ⟨Array.toList_push, rfl⟩

end Continued

/-- These events were told and these reports merged since `w`, and nothing else was. -/
structure Grown (sink : Sink σ) (w : World σ) (events : List Event)
    (reports : List (Descriptor × Run)) (w' : World σ) : Prop where
  sink : w'.sink = sink.after events w.sink
  store : w'.store = w.store.mergeReports reports
  told : w'.told = w.told ++ events
  merged : w'.merged = w.merged ++ reports

theorem Grown.refl (sink : Sink σ) (w : World σ) : w.Grown sink [] [] w := ⟨rfl, rfl, by simp, by simp⟩

theorem Grown.trans {sink : Sink σ} {w w' w'' : World σ} {es es' : List Event}
    {rs rs' : List (Descriptor × Run)} (first : w.Grown sink es rs w')
    (second : w'.Grown sink es' rs' w'') : w.Grown sink (es ++ es') (rs ++ rs') w'' where
  sink := by rw [second.sink, first.sink, Sink.after_append]
  store := by rw [second.store, first.store, Store.mergeReports_append]
  told := by rw [second.told, first.told, List.append_assoc]
  merged := by rw [second.merged, first.merged, List.append_assoc]

theorem Grown.get? {sink : Sink σ} {w w' : World σ} {es : List Event} {rs : List (Descriptor × Run)}
    (grown : w.Grown sink es rs w') (d : Descriptor) :
    w'.store.get? d = Run.mergeAll ((w.store.get? d).toList ++ runsOf d rs) := by
  rw [grown.store, Store.get?_mergeReports]

theorem Grown.toldSince_eq {sink : Sink σ} {w w' : World σ} {es : List Event}
    {rs : List (Descriptor × Run)} (grown : w.Grown sink es rs w') : w.toldSince w' = es := by
  rw [toldSince, grown.told, List.drop_left]

theorem Grown.mergedSince_eq {sink : Sink σ} {w w' : World σ} {es : List Event}
    {rs : List (Descriptor × Run)} (grown : w.Grown sink es rs w') : w.mergedSince w' = rs := by
  rw [mergedSince, grown.merged, List.drop_left]

/-- Telling is a call on the sink, whatever the sink answers. -/
theorem Grown.tell (sink : Sink σ) (e : Event) (w : World σ) :
    w.Grown sink [e] [] ((Act.tell sink e).run w).2 :=
  ⟨rfl, rfl, (Continued.tell sink e w).told, (Continued.tell sink e w).merged⟩

end World

namespace Act

variable {σ α β : Type}

@[simp] theorem run_attempt (act : Act σ α) (w : World σ) :
    (attempt act).run w = (.ok (act.run w).1, (act.run w).2) := rfl

theorem run_settle (outcome : Except Failure α) (w : World σ) : (settle outcome).run w = (outcome, w) := rfl

@[simp] theorem run_get_bind (f : World σ → Act σ α) (w : World σ) :
    (get >>= f : Act σ α).run w = (f w).run w := rfl

theorem run_bind_ok {act : Act σ α} {f : α → Act σ β} {w w' : World σ} {x : α}
    (h : act.run w = (.ok x, w')) : (act >>= f).run w = (f x).run w' := by
  change ExceptT.bindCont f (act.run w).1 (act.run w).2 = _
  rw [h]
  rfl

theorem run_bind_error {act : Act σ α} {f : α → Act σ β} {w w' : World σ} {e : Failure}
    (h : act.run w = (.error e, w')) : (act >>= f).run w = (.error e, w') := by
  change ExceptT.bindCont f (act.run w).1 (act.run w).2 = _
  rw [h]
  rfl

structure Ends (act : Act σ α) (outcome : Except Failure α) (change : World σ → World σ → Prop) :
    Prop where
  returns (w : World σ) : (act.run w).1 = outcome
  changes (w : World σ) : change w (act.run w).2

namespace Ends

variable {first second both : World σ → World σ → Prop}

theorem run_eq {act : Act σ α} {outcome : Except Failure α} (h : Ends act outcome first)
    (w : World σ) : act.run w = (outcome, (act.run w).2) := Prod.ext (h.returns w) rfl

theorem bind {act : Act σ α} {f : α → Act σ β} {x : α} {outcome : Except Failure β}
    (h : Ends act (.ok x) first) (h' : Ends (f x) outcome second)
    (joined : ∀ {w w' w''}, first w w' → second w' w'' → both w w'') :
    Ends (act >>= f) outcome both := by
  have runs (w : World σ) : (act >>= f).run w = (f x).run (act.run w).2 := run_bind_ok (h.run_eq w)
  refine ⟨fun w => ?_, fun w => ?_⟩
  · rw [runs, h'.returns]
  · rw [runs]
    exact joined (h.changes w) (h'.changes _)

/-- What comes behind a failure is not done. -/
theorem bind_error {act : Act σ α} {f : α → Act σ β} {e : Failure} (h : Ends act (.error e) first) :
    Ends (act >>= f) (.error e) first := by
  have runs (w : World σ) : (act >>= f).run w = (.error e, (act.run w).2) :=
    run_bind_error (h.run_eq w)
  refine ⟨fun w => ?_, fun w => ?_⟩
  · rw [runs]
  · rw [runs]
    exact h.changes w

theorem attempt {act : Act σ α} {outcome : Except Failure α} (h : Ends act outcome first) :
    Ends (Act.attempt act) (.ok outcome) first := by
  refine ⟨fun w => ?_, h.changes⟩
  rw [run_attempt, h.returns]

end Ends

/-- From every world the act has this outcome, tells these events and merges these reports. -/
abbrev Does (sink : Sink σ) (act : Act σ α) (outcome : Except Failure α) (events : List Event)
    (reports : List (Descriptor × Run)) : Prop :=
  Ends act outcome fun w w' => w.Grown sink events reports w'

namespace Does

variable {sink : Sink σ} {es es' : List Event} {rs rs' : List (Descriptor × Run)}

theorem pure (x : α) : Does sink (Pure.pure x) (.ok x) [] [] := ⟨fun _ => rfl, .refl sink⟩

theorem throw (f : Failure) : Does sink (MonadExcept.throw f : Act σ α) (.error f) [] [] :=
  ⟨fun _ => rfl, .refl sink⟩

theorem settle (outcome : Except Failure α) : Does sink (Act.settle outcome) outcome [] [] :=
  ⟨fun _ => rfl, .refl sink⟩

theorem note {a : Action} (quiet : a.event? = none) (quiet' : a.report? = none) :
    Does sink (Act.note a) (.ok ()) [] [] := by
  refine ⟨fun _ => rfl, fun w => ⟨rfl, rfl, ?_, ?_⟩⟩
  · rw [(World.Continued.note w quiet').told, List.filterMap_cons_none quiet, List.filterMap_nil]
  · rw [(World.Continued.note w quiet').merged, List.filterMap_cons_none quiet', List.filterMap_nil]

theorem log (level : Log.Level) (text : String) : Does sink (Act.log level text) (.ok ()) [] [] :=
  note rfl rfl

theorem merge (d : Descriptor) (run : Run) : Does sink (Act.merge d run) (.ok ()) [] [(d, run)] := by
  refine ⟨fun _ => rfl, fun w => ?_⟩
  have continued := World.Continued.merge w d run
  exact ⟨rfl, rfl, continued.told, continued.merged⟩

theorem tell {e : Event} (takes : sink.Takes e) : Does sink (Act.tell sink e) (.ok ()) [e] [] :=
  ⟨fun w => takes w.sink, .tell sink e⟩

theorem bind {act : Act σ α} {f : α → Act σ β} {x : α} {outcome : Except Failure β}
    (first : Does sink act (.ok x) es rs) (second : Does sink (f x) outcome es' rs') :
    Does sink (act >>= f) outcome (es ++ es') (rs ++ rs') := Ends.bind first second .trans

end Does

end Act

end Microbench
