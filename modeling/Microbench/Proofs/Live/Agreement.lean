import Microbench.Proofs.Live.Alone
import Microbench.Proofs.Link.Turns

/-!
Worlds that differ in nothing but what is noted of connections and in warnings that are logged. What a handler
does with a frame makes no difference between such worlds (`Link.Handler.react_blind`), and to serve a
connection is to act on its frames in order (`Harness.heard_concat`).
-/

namespace Microbench

open Link

variable {σ α β : Type}

/-- What says nothing of the sink, the store, workers and iterations. -/
def Action.isNoise : Action → Bool
  | accepted | overheard _ => true
  | logged e => e.level = .warn
  | told .. | executed .. | launched _ | merged .. | created _ | wrote .. => false

namespace World

def essence (w : World σ) : List Action := w.trace.toList.filter (!·.isNoise)

structure Agrees (w v : World σ) : Prop where
  sink : w.sink = v.sink
  store : w.store = v.store
  essence : w.essence = v.essence

namespace Agrees

variable {w v u : World σ}

theorem refl (w : World σ) : w.Agrees w := ⟨rfl, rfl, rfl⟩

theorem symm (agrees : w.Agrees v) : v.Agrees w := ⟨agrees.1.symm, agrees.2.symm, agrees.3.symm⟩

theorem trans (first : w.Agrees v) (second : v.Agrees u) : w.Agrees u :=
  ⟨first.1.trans second.1, first.2.trans second.2, first.3.trans second.3⟩

/-- Both go on with the same action. -/
theorem push (agrees : w.Agrees v) (a : Action) {s s' : σ} {store store' : Store} (sink : s = s')
    (merged : store = store') :
    Agrees ⟨s, store, w.trace.push a⟩ ⟨s', store', v.trace.push a⟩ := by
  refine ⟨sink, merged, ?_⟩
  have same := agrees.essence
  simp only [World.essence, Array.toList_push, List.filter_append] at same ⊢
  rw [same]

theorem note (agrees : w.Agrees v) (a : Action) : ((Act.note a).run w).2.Agrees ((Act.note a).run v).2 :=
  agrees.push a agrees.sink agrees.store

/-- Noise makes no difference. -/
theorem noise (agrees : w.Agrees v) {a : Action} (noise : a.isNoise = true) :
    ((Act.note a).run w).2.Agrees v := by
  refine ⟨agrees.sink, agrees.store, ?_⟩
  refine Eq.trans ?_ agrees.essence
  change (w.trace.push a).toList.filter _ = _
  simp [World.essence, noise]

/-- What is looked for in what was done, and is not noise, is found in both. -/
theorem filterMap {γ : Type} (agrees : w.Agrees v) {f : Action → Option γ}
    (quiet : ∀ a, a.isNoise = true → f a = none) :
    w.trace.toList.filterMap f = v.trace.toList.filterMap f := by
  have same := congrArg (List.filterMap f) agrees.essence
  simp only [World.essence, List.filterMap_filter] at same
  have drop : (fun a => if (!Action.isNoise a) = true then f a else none) = f := by
    funext a
    cases noise : a.isNoise with
    | true => simp [quiet a noise]
    | false => simp
  rwa [drop] at same

theorem mem_iff (agrees : w.Agrees v) {a : Action} (heard : a.isNoise = false) :
    a ∈ w.trace.toList ↔ a ∈ v.trace.toList := by
  have inside (u : World σ) : a ∈ u.essence ↔ a ∈ u.trace.toList := by simp [World.essence, heard]
  rw [← inside, ← inside, agrees.essence]

end Agrees

end World

/-- The act makes no difference between worlds that agree. -/
def Act.Blind (act : Act σ α) : Prop := ∀ w v : World σ, w.Agrees v →
  (act.run w).1 = (act.run v).1 ∧ (act.run w).2.Agrees (act.run v).2

namespace Act.Blind

theorem pure (x : α) : (Pure.pure x : Act σ α).Blind := fun _ _ agrees => ⟨rfl, agrees⟩

theorem note (a : Action) : (Act.note a : Act σ Unit).Blind := fun _ _ agrees => ⟨rfl, agrees.note a⟩

theorem merge (d : Descriptor) (run : Run) : (Act.merge d run : Act σ Unit).Blind := fun _ _ agrees =>
  ⟨rfl, agrees.push _ agrees.sink (congrArg (·.merge d run) agrees.store)⟩

theorem tell (sink : Sink σ) (e : Event) : (Act.tell sink e).Blind := by
  intro w v agrees
  have same : sink e w.sink = sink e v.sink := by rw [agrees.sink]
  constructor
  · change (sink e w.sink).1 = (sink e v.sink).1
    rw [same]
  · change World.Agrees ⟨(sink e w.sink).2, _, w.trace.push (.told e (refusal? (sink e w.sink).1))⟩ _
    rw [same]
    exact agrees.push _ rfl agrees.store

theorem attempt {act : Act σ α} (blind : act.Blind) : (Act.attempt act).Blind := fun w v agrees =>
  ⟨congrArg Except.ok (blind w v agrees).1, (blind w v agrees).2⟩

theorem bind {act : Act σ α} {f : α → Act σ β} (first : act.Blind) (second : ∀ x, (f x).Blind) :
    (act >>= f).Blind := by
  intro w v agrees
  obtain ⟨same, agrees⟩ := first w v agrees
  rcases ran : act.run w with ⟨outcome, w'⟩
  rcases ran' : act.run v with ⟨outcome', v'⟩
  simp only [ran, ran'] at same agrees
  subst same
  cases outcome with
  | ok x =>
    rw [run_bind_ok ran, run_bind_ok ran']
    exact second x w' v' agrees
  | error e =>
    rw [run_bind_error ran, run_bind_error ran']
    exact ⟨rfl, agrees⟩

end Act.Blind

namespace Link.Handler

variable (h : Handler σ)

theorem react_blind (f : Frame) : (h.react f).Blind := by
  have passes (e : Event) (logged : String) : (h.pass e logged).Blind := by
    refine .bind (.attempt (.tell h.sink e)) fun answer => ?_
    cases answer with
    | ok _ => exact .pure ()
    | error f => exact .note _
  cases f with
  | optionsRequest =>
    unfold react
    cases h.response <;> exact .pure _
  | report d run => exact .bind (.merge d run) fun _ => .pure _
  | outputCall method args =>
    refine .bind ?_ fun _ => .pure _
    unfold forward
    split
    · exact passes _ _
    · exact .note _
    · exact .bind (.note _) fun _ => passes _ _
  | finish | optionsResponse => exact .pure _

/-- The number of a connection is nothing to what is done with its frames. -/
theorem react_number (n : Nat) (f : Frame) : react { h with number := n } f = h.react f := by
  cases f <;> rfl

/-- To close a connection is nothing but noise. -/
theorem close_agrees (e : Option LinkError) {w v : World σ} (agrees : w.Agrees v) :
    ((h.close e).run w).2.Agrees v := by
  cases e with
  | none => exact agrees
  | some e => exact agrees.noise rfl

/-- A frame that stops a handler changes nothing. -/
theorem react_of_stops {f : Frame} (stopping : h.stops f = true) (w : World σ) :
    ((h.react f).run w).2 = w := by
  cases f with
  | optionsRequest =>
    unfold react
    cases h.response <;> rfl
  | finish | optionsResponse => rfl
  | report | outputCall => contradiction

theorem react_request (w : World σ) : ((h.react .optionsRequest).run w).2 = w := by
  unfold react
  cases h.response <;> rfl

def after (frames : List Frame) (w : World σ) : World σ :=
  frames.foldl (fun w f => ((h.react f).run w).2) w

theorem handle_after {frames : List Frame} (going : ∀ f ∈ frames, h.stops f = false) (w : World σ) :
    ((h.handle frames none).run w).2 = h.after frames w := by
  induction frames generalizing w with
  | nil => rfl
  | cons f rest ih =>
    have reacts := (h.react_does f).run_eq w
    rw [h.reaction_of_not_stops (going f List.mem_cons_self)] at reacts
    have others := ih (fun g hg => going g (List.mem_cons_of_mem f hg)) ((h.react f).run w).2
    have more := (h.handle_does rest none).run_eq ((h.react f).run w).2
    rw [handle, Act.run_bind_ok reacts]
    -- The reaction is an answer, whose branch has to be taken before the rest can be looked at.
    dsimp only
    rw [Act.run_bind_ok more]
    exact others

end Link.Handler

def Link.Going (options : Options) (frames : List Frame) : Prop :=
  ∀ f ∈ frames, f.Fits ∧ stopsAt options f = false

theorem Link.Going.concat {options : Options} {frames : List Frame} {f : Frame} (going : Going options frames)
    (fits : f.Fits) (goes : stopsAt options f = false) : Going options (frames ++ [f]) := by
  intro g hg
  rcases List.mem_append.1 hg with old | new
  · exact going g old
  · exact List.mem_singleton.1 new ▸ ⟨fits, goes⟩

def Launch.sending (frames : List Frame) (exit : Option Int) : Launch :=
  .ran (some [.bytes (Wire.concat Frame.bytes frames)]) exit

theorem Link.arrived_of_going {options : Options} {frames : List Frame} (going : Going options frames) :
    Stream.frames .async [.bytes (Wire.concat Frame.bytes frames)] = (frames, none) :=
  Stream.frames_of_bytes (fun f hf => (going f hf).1) (by simp [Arrival.Sound]) (by simp [Stream.content])

namespace Harness

variable (h : Harness σ)

theorem frames_sending {frames : List Frame} (going : Going h.options frames) (exit : Option Int) :
    h.frames (.sending frames exit) = frames := by
  unfold Launch.sending
  rw [Harness.frames, arrived_of_going going]
  have served := Handler.served_of_going ⟨h.sink, h.options, 0⟩ (fun f hf => (going f hf).2) (.inl rfl)
  rwa [List.append_nil] at served

/-- The world when a connection with these frames was served to its end. -/
def heard (frames : List Frame) (w : World σ) : World σ :=
  ((h.hear (some [.bytes (Wire.concat Frame.bytes frames)])).run w).2

theorem run_serve (arrivals : List Arrival) (w : World σ) : ∃ n, ((h.serve arrivals).run w).2 =
    ((Handler.serve ⟨h.sink, h.options, n⟩ arrivals).run ((Act.note .accepted).run w).2).2 := by
  have accepts : (Act.note .accepted : Act σ Unit).run w = (.ok (), ((Act.note .accepted).run w).2) := rfl
  have handles (n : Nat) := (Handler.handle_does ⟨h.sink, h.options, n⟩ (Stream.frames .async arrivals).1
    (Stream.frames .async arrivals).2).run_eq ((Act.note .accepted).run w).2
  rw [serve, Act.run_bind_ok accepts, Act.run_get_bind]
  exact ⟨_, congrArg Prod.snd (Act.run_bind_ok (handles _))⟩

theorem heard_eq {frames : List Frame} (going : Going h.options frames) (w : World σ) :
    h.heard frames w = Handler.after ⟨h.sink, h.options, 0⟩ frames ((Act.note .accepted).run w).2 := by
  obtain ⟨n, serves⟩ := h.run_serve [.bytes (Wire.concat Frame.bytes frames)] w
  refine serves.trans ?_
  rw [Handler.serve, arrived_of_going going]
  exact (Handler.handle_after ⟨h.sink, h.options, n⟩ (fun f hf => (going f hf).2) _).trans rfl

theorem heard_concat {frames : List Frame} {f : Frame} (going : Going h.options (frames ++ [f])) (w : World σ) :
    h.heard (frames ++ [f]) w = ((Handler.react ⟨h.sink, h.options, 0⟩ f).run (h.heard frames w)).2 := by
  have before : Going h.options frames := fun g hg => going g (List.mem_append_left [f] hg)
  rw [h.heard_eq going, h.heard_eq before, Handler.after, List.foldl_append]
  rfl

end Harness

end Microbench
