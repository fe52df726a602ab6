import Microbench.Proofs.Link.Turns

/-!
Waiting for handlers is a barrier. A worker whose request was answered has a handler in the
registry; so a wait that begins when the worker is gone takes that handler out, and it returns only
when everything that the worker sent was acted on.

`Connection.Change` lists what a move can make of a connection (`Server.next_connection`), and the
invariants are kept by each of these changes.
-/

namespace Microbench

/-- A call or a report, which is what a worker sends between its request and its end. -/
def Frame.IsWork : Frame → Prop
  | outputCall .. | report .. => True
  | optionsRequest | optionsResponse _ | finish => False

namespace Link

variable {σ : Type} {sink : Sink σ} {options : Options}

namespace Connection

/-- The connection of a worker, which asks for the options, makes calls and reports, and may say
that it has finished. -/
def OfWorker (c : Connection) : Prop :=
  ∃ work last, c.sent ++ c.unsent = .optionsRequest :: work ++ last ∧ (∀ f ∈ work, f.IsWork) ∧
    (last = [] ∨ last = [.finish])

def merged (c : Connection) : List (Descriptor × Run) := c.acted.flatMap Frame.reports

/-- What a move can make of a connection, where the flags are those of the server after the move. -/
inductive Change (options : Options) (listening waiting : Bool) (c : Connection) : Connection → Prop where
  | keep : Change options listening waiting c c
  | send {f : Frame} {rest : List Frame} (present : c.gone = false) (pending : c.unsent = f :: rest) :
      Change options listening waiting c { c with inbox := c.inbox ++ [f], unsent := rest }
  | leave : Change options listening waiting c { c with gone := true }
  | accept (queued : c.stage = .queued) :
      Change options listening waiting c { c with stage := .registered }
  | act {f : Frame} {rest : List Frame} {d : Connection} (live : c.stage.isLive)
      (pending : c.inbox = f :: rest) (became : c.Acted options f rest d) :
      Change options listening waiting c d
  | lose {rest : List Frame} (live : c.stage.isLive) (pending : c.inbox = .optionsRequest :: rest)
      (gone : c.gone = true) : Change options listening waiting c
        { c with inbox := rest, acted := c.acted ++ [.optionsRequest], stage := .ended }
  | hangUp (live : c.stage.isLive) (nothing : c.inbox = []) (gone : c.gone = true) :
      Change options listening waiting c { c with stage := .ended }
  | await (waits : waiting = true) (registered : c.stage = .registered) :
      Change options listening waiting c { c with stage := .awaited }
  | drop (closing : listening = false) : Change options listening waiting c { c with stage := .ended }

structure Becomes (c d : Connection) : Prop where
  frames : d.sent ++ d.unsent = c.sent ++ c.unsent
  gone : c.gone = true → d.gone = true ∧ d.sent = c.sent
  answered : c.answered = true → d.answered = true
  awaited : c.stage = .awaited → d.stage = .awaited ∨ d.stage = .ended
  ended : c.stage = .ended → d.stage = .ended ∧ d.acted = c.acted

theorem Becomes.refl (c : Connection) : c.Becomes c :=
  ⟨rfl, fun gone => ⟨gone, rfl⟩, id, .inl, fun ended => ⟨ended, rfl⟩⟩

theorem Becomes.trans {c d e : Connection} (first : c.Becomes d) (second : d.Becomes e) : c.Becomes e where
  frames := second.frames.trans first.frames
  gone gone := by
    obtain ⟨gone, sent⟩ := first.gone gone
    exact ⟨(second.gone gone).1, (second.gone gone).2.trans sent⟩
  answered := second.answered ∘ first.answered
  awaited awaited := by
    rcases first.awaited awaited with awaited | ended
    · exact second.awaited awaited
    · exact .inr (second.ended ended).1
  ended ended := by
    obtain ⟨ended, acted⟩ := first.ended ended
    exact ⟨(second.ended ended).1, (second.ended ended).2.trans acted⟩

theorem OfWorker.becomes {c d : Connection} (worker : c.OfWorker) (becomes : c.Becomes d) : d.OfWorker := by
  obtain ⟨work, last, frames, rest⟩ := worker
  exact ⟨work, last, becomes.frames.trans frames, rest⟩

theorem Change.becomes {listening waiting : Bool} {c d : Connection}
    (change : c.Change options listening waiting d) : c.Becomes d := by
  cases change with
  | keep => exact .refl c
  | send present pending =>
    refine ⟨?_, fun gone => ?_, id, .inl, fun ended => ⟨ended, rfl⟩⟩
    · simp [sent, pending]
    · simp [present] at gone
  | leave => exact ⟨rfl, fun _ => ⟨rfl, rfl⟩, id, .inl, fun ended => ⟨ended, rfl⟩⟩
  | accept queued => exact ⟨rfl, fun gone => ⟨gone, rfl⟩, id, by simp [queued], by simp [queued]⟩
  | act live pending became =>
    have sent := became.sent pending
    refine ⟨by rw [sent, became.unsent], fun gone => ⟨became.gone.trans gone, sent⟩, fun answered => ?_,
      fun awaited => ?_, fun ended => ?_⟩
    · simp [became.answered, answered]
    · rw [became.stage]
      split
      · exact .inr rfl
      · exact .inl awaited
    · simp [ended, Stage.isLive] at live
  | lose live pending =>
    refine ⟨by simp [sent, pending], fun gone => ⟨gone, by simp [sent, pending]⟩, id,
      fun _ => .inr rfl, fun ended => ?_⟩
    simp [ended, Stage.isLive] at live
  | hangUp => exact ⟨rfl, fun gone => ⟨gone, rfl⟩, id, fun _ => .inr rfl, fun _ => ⟨rfl, rfl⟩⟩
  | await waits registered =>
    exact ⟨rfl, fun gone => ⟨gone, rfl⟩, id, by simp [registered], by simp [registered]⟩
  | drop => exact ⟨rfl, fun gone => ⟨gone, rfl⟩, id, fun _ => .inr rfl, fun _ => ⟨rfl, rfl⟩⟩

/-- As long as the server listens, a handler ends only when it has acted on everything, was stopped,
or could not answer a request; and a request is answered only where there is a handler. -/
structure Tracked (options : Options) (c : Connection) : Prop where
  ended : c.stage = .ended → (c.inbox = [] ∧ c.gone = true) ∨ (∃ f ∈ c.acted, stopsAt options f = true) ∨
    (c.answered = true → 2 ≤ c.acted.count .optionsRequest)
  answered : c.answered = true →
    c.stage ≠ .queued ∧ stopsAt options .optionsRequest = false ∧ .optionsRequest ∈ c.acted

theorem Tracked.change {waiting : Bool} {c d : Connection} (tracked : c.Tracked options)
    (change : c.Change options true waiting d) : d.Tracked options := by
  obtain ⟨ended, answered⟩ := tracked
  cases change with
  | keep => exact ⟨ended, answered⟩
  | send present pending =>
    refine ⟨fun finished => ?_, answered⟩
    rcases ended finished with ⟨-, gone⟩ | stopped
    · simp [present] at gone
    · exact .inr stopped
  | leave =>
    refine ⟨fun finished => ?_, answered⟩
    rcases ended finished with ⟨nothing, -⟩ | stopped
    · exact .inl ⟨nothing, rfl⟩
    · exact .inr stopped
  | accept queued => exact ⟨by simp, fun reply => ⟨by simp, (answered reply).2⟩⟩
  | @act f rest d live pending became =>
    refine ⟨fun finished => ?_, fun reply => ?_⟩
    · rw [became.stage] at finished
      split at finished
      · exact .inr (.inl ⟨f, by simp [became.acted], by assumption⟩)
      · simp [finished, Stage.isLive] at live
    · have served : d.stage ≠ .queued := by
        rw [became.stage]
        split
        · simp
        · intro queued
          simp [queued, Stage.isLive] at live
      rw [became.answered] at reply
      rw [became.acted]
      rcases Bool.or_eq_true_iff.1 reply with before | now
      · obtain ⟨-, going, asked⟩ := answered before
        exact ⟨served, going, List.mem_append_left _ asked⟩
      · simp only [Bool.and_eq_true, decide_eq_true_eq, Bool.not_eq_true'] at now
        obtain ⟨rfl, going⟩ := now
        exact ⟨served, going, by simp⟩
  | lose live pending gone =>
    refine ⟨fun _ => .inr (.inr fun reply => ?_), fun reply => ?_⟩
    · have asked := List.count_pos_iff.2 (answered reply).2.2
      rw [List.count_append, List.count_singleton_self]
      omega
    · obtain ⟨-, going, asked⟩ := answered reply
      exact ⟨by simp, going, List.mem_append_left _ asked⟩
  | hangUp live nothing gone =>
    exact ⟨fun _ => .inl ⟨nothing, gone⟩, fun reply => ⟨by simp, (answered reply).2⟩⟩
  | await => exact ⟨by simp, fun reply => ⟨by simp, (answered reply).2⟩⟩
  | drop closing => contradiction

/-- Handlers are taken out of the registry only by a wait. -/
theorem Change.awaited {listening : Bool} {c d : Connection} (change : c.Change options listening false d)
    (awaited : d.stage = .awaited) : c.stage = .awaited := by
  cases change with
  | keep | send | leave => exact awaited
  | act live pending became =>
    rw [became.stage] at awaited
    split at awaited
    · contradiction
    · exact awaited
  | accept | lose | hangUp | await | drop => contradiction

/-- A worker asks for the options once. -/
theorem OfWorker.count_le_one {c : Connection} (worker : c.OfWorker) :
    c.acted.count .optionsRequest ≤ 1 := by
  obtain ⟨work, last, frames, working, end_only⟩ := worker
  have others : .optionsRequest ∉ work ++ last := by
    intro mem
    rcases List.mem_append.1 mem with mem | mem
    · exact working _ mem
    · rcases end_only with rfl | rfl <;> simp at mem
  have once : (c.sent ++ c.unsent).count .optionsRequest = 1 := by
    rw [frames, List.cons_append, List.count_cons_self, List.count_eq_zero.2 others]
  rw [Connection.sent, List.count_append, List.count_append] at once
  omega

/-- The handler of a worker does not end before everything that the worker sent was acted on. -/
theorem OfWorker.inbox_eq_nil {c : Connection} (worker : c.OfWorker) (tracked : c.Tracked options)
    (answered : c.answered = true) (ended : c.stage = .ended) : c.inbox = [] := by
  rcases tracked.ended ended with ⟨nothing, -⟩ | ⟨f, acted, stopping⟩ | lost
  · exact nothing
  · obtain ⟨work, last, frames, working, end_only⟩ := worker
    have going : ∀ g ∈ .optionsRequest :: work, stopsAt options g = false := by
      intro g hg
      rcases List.mem_cons.1 hg with rfl | hg
      · exact (tracked.answered answered).2.1
      · cases g <;> first | rfl | exact (working _ hg).elim
    have new : f ∉ .optionsRequest :: work := fun mem => by simp [going f mem] at stopping
    rw [Connection.sent, List.append_assoc] at frames
    rcases List.append_eq_append_iff.1 frames with ⟨_, before, -⟩ | ⟨beyond, before, behind⟩
    · exact absurd (before ▸ List.mem_append_left _ acted) new
    have beyond_mem : f ∈ beyond := (List.mem_append.1 (before ▸ acted)).resolve_left new
    -- Only the announced end stops the handler, and nothing was sent behind it.
    rcases end_only with rfl | rfl
    · simp [(List.append_eq_nil_iff.1 behind.symm).1] at beyond_mem
    · obtain ⟨g, others, rfl⟩ := List.exists_cons_of_ne_nil (List.ne_nil_of_mem beyond_mem)
      have nothing : others ++ (c.inbox ++ c.unsent) = [] := (List.cons.inj behind).2.symm
      exact (List.append_eq_nil_iff.1 (List.append_eq_nil_iff.1 nothing).2).1
  · -- The only request was answered, so it was not the answer to it that was lost.
    exact absurd (lost answered) (Nat.not_le_of_lt (Nat.lt_succ_of_le worker.count_le_one))

end Connection

def Move.merged : Move → List (Descriptor × Run)
  | merge d run => [(d, run)]
  | _ => []

def Move.connects : Move → Nat
  | connect _ => 1
  | _ => 0

namespace Server

variable {s t : Server σ} {m : Move}

theorem Has.apply {i : Nat} {p : Connection → Prop} {c : Connection} (has : s.Has i p)
    (place : s.connections[i]? = some c) : p c := by
  obtain ⟨c', place', holds⟩ := has
  exact Option.some.inj (place'.symm.trans place) ▸ holds

/-- What comes of an act of a handler. -/
theorem next_act (sink : Sink σ) (options : Options) {i : Nat} (enabled : s.Enabled (.act i)) :
    ∃ c f rest d w, s.connections[i]? = some c ∧ c.stage.isLive ∧ c.inbox = f :: rest ∧
      c.Acted options f rest d ∧ s.world.Grown sink f.forwarded f.reports w ∧
      s.next sink options (.act i) = { s with world := w, connections := s.connections.set i d } := by
  obtain ⟨c, place, live, waiting⟩ := enabled
  obtain ⟨f, rest, pending⟩ := List.exists_cons_of_ne_nil waiting
  obtain ⟨w, d, acts, grown, became⟩ := actOn_spec sink options s i pending
  refine ⟨c, f, rest, d, w, place, live, pending, became, grown, ?_⟩
  simp only [next, place, acts]

/-- A move makes a change of each connection. -/
theorem next_connection (sink : Sink σ) (options : Options) (enabled : s.Enabled m) {j : Nat}
    {c : Connection} (place : s.connections[j]? = some c) :
    ∃ d, (s.next sink options m).connections[j]? = some d ∧
      c.Change options (s.next sink options m).listening (s.next sink options m).waiting d := by
  -- What is to be shown of a move that updates one connection.
  have updated {i : Nat} {f : Connection → Connection} {listening waiting : Bool}
      (changed : ∀ c, s.connections[i]? = some c → c.Change options listening waiting (f c)) :
      ∃ d, (s.update i f).connections[j]? = some d ∧ c.Change options listening waiting d := by
    rw [getElem?_update, place, Option.map_some]
    refine ⟨_, rfl, ?_⟩
    split
    · rename_i here
      exact changed c (here ▸ place)
    · exact .keep
  cases m with
  | connect frames =>
    refine ⟨c, ?_, .keep⟩
    exact (List.getElem?_append_left (List.getElem?_eq_some_iff.1 place).1).trans place
  | send i =>
    refine updated fun c place => ?_
    obtain ⟨present, f, pending, -⟩ := enabled.apply place
    obtain ⟨rest, unsent⟩ := List.head?_eq_some_iff.1 pending
    rw [unsent]
    exact .send (Bool.eq_false_iff.2 present) unsent
  | leave i => exact updated fun _ _ => .leave
  | accept i => exact updated fun c place => .accept (enabled.2.apply place)
  | act i =>
    obtain ⟨c', f, rest, d, w, place', live, pending, became, -, acts⟩ :=
      next_act sink options enabled
    rw [acts]
    by_cases here : i = j
    · subst here
      obtain rfl : c' = c := Option.some.inj (place'.symm.trans place)
      exact ⟨d, List.getElem?_set_self (List.getElem?_eq_some_iff.1 place).1, .act live pending became⟩
    · exact ⟨c, (List.getElem?_set_ne here).trans place, .keep⟩
  | lose i reason =>
    refine updated fun c place => ?_
    obtain ⟨live, asks, gone⟩ := enabled.apply place
    obtain ⟨rest, pending⟩ := List.head?_eq_some_iff.1 asks
    rw [pending]
    exact .lose live pending gone
  | hangUp i =>
    refine updated fun c place => ?_
    obtain ⟨live, nothing, gone⟩ := enabled.apply place
    exact .hangUp live nothing gone
  | beginWait =>
    refine ⟨_, (List.getElem?_map ..).trans (by rw [place, Option.map_some]), ?_⟩
    split
    · rename_i registered
      exact .await rfl registered
    · exact .keep
  | stopListening =>
    refine ⟨_, (List.getElem?_map ..).trans (by rw [place, Option.map_some]), ?_⟩
    split
    · exact .drop rfl
    · exact .keep
  | abort i => exact updated fun _ _ => .drop (Bool.eq_false_iff.2 enabled.1)
  | endWait | finishClosing | tell | merge => exact ⟨c, place, .keep⟩

/-- The only new connection is one on which nothing has happened. -/
theorem connection_of_next (enabled : s.Enabled m) {j : Nat} {d : Connection}
    (place : (s.next sink options m).connections[j]? = some d) :
    (∃ c, s.connections[j]? = some c ∧
      c.Change options (s.next sink options m).listening (s.next sink options m).waiting d) ∨
    ∃ frames, d = { unsent := frames } := by
  cases old : s.connections[j]? with
  | some c =>
    obtain ⟨d', place', change⟩ := next_connection sink options enabled old
    exact .inl ⟨c, rfl, Option.some.inj (place'.symm.trans place) ▸ change⟩
  | none =>
    have none_new {new : List Connection} (length : new.length = s.connections.length)
        (place : new[j]? = some d) : False := by
      have inside := (List.getElem?_eq_some_iff.1 place).1
      exact Nat.not_le_of_lt (length ▸ inside) (List.getElem?_eq_none_iff.1 old)
    cases m with
    | connect frames =>
      have new : (s.connections ++ [({ unsent := frames } : Connection)])[j]? = some d := place
      rw [List.getElem?_append_right (List.getElem?_eq_none_iff.1 old)] at new
      exact .inr ⟨frames, List.mem_singleton.1 (List.mem_of_getElem? new)⟩
    | act i =>
      obtain ⟨c, f, rest, d', w, -, -, -, -, -, acts⟩ := next_act sink options enabled
      rw [acts] at place
      exact (none_new List.length_set place).elim
    | send | leave | accept | lose | hangUp | abort => exact (none_new (List.length_modify ..) place).elim
    | beginWait | stopListening => exact (none_new (List.length_map ..) place).elim
    | endWait | finishClosing | tell | merge => exact (none_new rfl place).elim

theorem length_of_next (enabled : s.Enabled m) :
    (s.next sink options m).connections.length = s.connections.length + m.connects := by
  cases m with
  | connect frames => exact List.length_append
  | act i =>
    obtain ⟨c, f, rest, d, w, -, -, -, -, -, acts⟩ := next_act sink options enabled
    rw [acts]
    exact List.length_set
  | send | leave | accept | lose | hangUp | abort => exact List.length_modify ..
  | beginWait | stopListening => exact List.length_map ..
  | endWait | finishClosing | tell | merge => rfl

/-- What handlers have merged changes only when they act. -/
theorem merged_of_next (enabled : s.Enabled m) (other : ∀ i, m ≠ .act i) (same : m.connects = 0) :
    (s.next sink options m).connections.map Connection.merged = s.connections.map Connection.merged := by
  cases m with
  | connect frames => contradiction
  | act i => exact absurd rfl (other i)
  | lose i reason =>
    refine Connection.map_of_changed (s.getElem?_update i · _) ?_
    rintro j c place rfl
    obtain ⟨-, asks, -⟩ := enabled.apply place
    obtain ⟨rest, pending⟩ := List.head?_eq_some_iff.1 asks
    simp [Connection.merged, pending, Frame.reports]
  | send i | leave i | accept i | hangUp i | abort i =>
    exact Connection.map_of_changed (s.getElem?_update i · _) fun _ _ _ _ => rfl
  | beginWait | stopListening =>
    simp only [Server.next, List.map_map]
    refine List.map_congr_left fun c _ => ?_
    simp only [Function.comp_apply]
    split <;> rfl
  | endWait | finishClosing | tell | merge => rfl

/-- The flags behind a move. -/
theorem flags_of_next (enabled : s.Enabled m) :
    (s.next sink options m).listening = (match m with | .stopListening => false | _ => s.listening) ∧
    (s.next sink options m).waiting =
      (match m with | .beginWait => true | .endWait => false | _ => s.waiting) ∧
    (s.next sink options m).closed = (match m with | .finishClosing => true | _ => s.closed) := by
  cases m with
  | act i =>
    obtain ⟨c, f, rest, d, w, -, -, -, -, -, acts⟩ := next_act sink options enabled
    rw [acts]
    exact ⟨rfl, rfl, rfl⟩
  | _ => exact ⟨rfl, rfl, rfl⟩

structure Tracked (options : Options) (s : Server σ) : Prop where
  connections : s.listening = true → ∀ c ∈ s.connections, c.Tracked options
  listens : s.waiting = true → s.listening = true
  awaited : s.waiting = false → ∀ c ∈ s.connections, c.stage ≠ .awaited

namespace Tracked

theorem start (initial : σ) : (start initial).Tracked options :=
  ⟨fun _ _ hc => by contradiction, nofun, fun _ _ hc => by contradiction⟩

theorem next (tracked : s.Tracked options) (enabled : s.Enabled m) :
    (s.next sink options m).Tracked options := by
  obtain ⟨connections, listens, awaited⟩ := tracked
  have listened : (s.next sink options m).listening = true → s.listening = true := by
    cases m with
    | act i =>
      rw [(flags_of_next enabled).1]
      exact id
    | stopListening => nofun
    | _ => exact id
  have unawaited : (s.next sink options m).waiting = false → ∀ c ∈ s.connections, c.stage ≠ .awaited := by
    cases m with
    | act i =>
      rw [(flags_of_next enabled).2.1]
      exact awaited
    | beginWait => nofun
    | endWait => exact fun _ => enabled.2
    | _ => exact awaited
  refine ⟨fun listening d hd => ?_, ?_, fun quiet d hd waits => ?_⟩
  · obtain ⟨j, place⟩ := List.mem_iff_getElem?.1 hd
    rcases connection_of_next enabled place with ⟨c, old, change⟩ | ⟨frames, rfl⟩
    · rw [listening] at change
      exact (connections (listened listening) c (List.mem_of_getElem? old)).change change
    · exact ⟨nofun, nofun⟩
  · cases m with
    | act i =>
      rw [(flags_of_next enabled).1, (flags_of_next enabled).2.1]
      exact listens
    | beginWait => exact fun _ => enabled.1
    | endWait => nofun
    | stopListening => exact fun waiting => absurd waiting enabled.2
    | _ => exact listens
  · obtain ⟨j, place⟩ := List.mem_iff_getElem?.1 hd
    rcases connection_of_next enabled place with ⟨c, old, change⟩ | ⟨frames, rfl⟩
    · rw [quiet] at change
      exact unawaited quiet c (List.mem_of_getElem? old) (change.awaited waits)
    · contradiction

theorem path {ms : List Move} (path : Path sink options s ms t) (tracked : s.Tracked options) :
    t.Tracked options := by
  induction path with
  | refl => exact tracked
  | tail _ enabled ih => exact ih.next enabled

end Tracked

theorem Path.append {u : Server σ} {ms ms' : List Move} (first : Path sink options s ms t)
    (second : Path sink options t ms' u) : Path sink options s (ms ++ ms') u := by
  induction second with
  | refl => simpa using first
  | tail _ enabled ih =>
    rw [← List.append_assoc]
    exact ih.tail enabled

/-- A connection stays in its place. -/
theorem becomes_of_path {ms : List Move} (path : Path sink options s ms t) {i : Nat} {c : Connection}
    (place : s.connections[i]? = some c) : ∃ d, t.connections[i]? = some d ∧ c.Becomes d := by
  induction path with
  | refl => exact ⟨c, place, .refl c⟩
  | tail _ enabled ih =>
    obtain ⟨d, between, becomes⟩ := ih
    obtain ⟨e, after, change⟩ := next_connection sink options enabled between
    exact ⟨e, after, becomes.trans change.becomes⟩

/-- Everything merged since the start came from a connection or from the parent, and everything that
they gave was merged once, in their order. -/
structure Accounted (sink : Sink σ) (initial : σ) (ms : List Move) (calls : List Event)
    (reports : List (Descriptor × Run)) (s : Server σ) : Prop where
  grown : (World.start initial).Grown sink calls reports s.world
  shuffle : Shuffle (ms.flatMap Move.merged :: s.connections.map Connection.merged) reports

namespace Accounted

variable {initial : σ} {ms : List Move} {calls : List Event} {reports : List (Descriptor × Run)}

theorem start (initial : σ) : Accounted sink initial [] [] [] (start initial) :=
  ⟨.refl sink _, .nil (by simp [Server.start])⟩

/-- A move that merges nothing, on any connection or in the parent. -/
theorem of_same (accounted : Accounted sink initial ms calls reports s) {m : Move} (nothing : m.merged = [])
    (quiet : s.world.Grown sink [] [] t.world)
    (same : t.connections.map Connection.merged = s.connections.map Connection.merged) :
    Accounted sink initial (ms ++ [m]) calls reports t := by
  refine ⟨by simpa using accounted.grown.trans quiet, ?_⟩
  rw [List.flatMap_append, List.flatMap_singleton, nothing, List.append_nil, same]
  exact accounted.shuffle

theorem next (accounted : Accounted sink initial ms calls reports s) (enabled : s.Enabled m) :
    ∃ calls reports, Accounted sink initial (ms ++ [m]) calls reports (s.next sink options m) := by
  cases m with
  | connect frames =>
    refine ⟨calls, reports, accounted.grown, ?_⟩
    have new := accounted.shuffle.concat_nil
    simpa [Server.next, Move.merged, Connection.merged] using new
  | act i =>
    obtain ⟨c, f, rest, d, w, place, -, -, became, grown, acts⟩ := next_act sink options enabled
    rw [acts]
    refine ⟨_, _, accounted.grown.trans grown, ?_⟩
    have part : (s.connections.map Connection.merged)[i]? = some c.merged := by
      rw [List.getElem?_map, place, Option.map_some]
    have more := accounted.shuffle.append (i := i + 1) part f.reports
    simpa [Move.merged, Connection.merged, List.map_set, became.acted] using more
  | tell e =>
    have told := accounted.grown.trans (World.Grown.tell sink e s.world)
    rw [List.append_nil] at told
    refine ⟨_, _, told, ?_⟩
    simpa [Move.merged, Server.next] using accounted.shuffle
  | merge d run =>
    have merges : Act.Does sink (Act.merge d run) (.ok ()) [] [(d, run)] := .merge d run
    refine ⟨_, _, accounted.grown.trans (merges.changes s.world), ?_⟩
    rw [List.flatMap_append, List.flatMap_singleton]
    exact accounted.shuffle.snoc (i := 0) rfl (d, run)
  | lose i reason =>
    have closes := Link.Handler.close_does ⟨sink, options, i + 1⟩ (some (.io reason))
    exact ⟨_, _, accounted.of_same rfl (closes.changes s.world) (merged_of_next enabled (by simp) rfl)⟩
  | send | leave | accept | hangUp | abort | beginWait | stopListening | endWait | finishClosing =>
    exact ⟨_, _, accounted.of_same rfl (.refl sink s.world) (merged_of_next enabled (by simp) rfl)⟩

theorem path {initial : σ} {ms : List Move} (path : Path sink options (Server.start initial) ms s) :
    ∃ calls reports, Accounted sink initial ms calls reports s := by
  induction path with
  | refl => exact ⟨[], [], start initial⟩
  | tail _ enabled ih =>
    obtain ⟨calls, reports, accounted⟩ := ih
    exact accounted.next enabled

end Accounted

/-- When a wait begins that finds the worker of a connection gone, and its request answered, the
handler of the connection is waited for or has ended. -/
theorem awaited_or_ended (sink : Sink σ) (tracked : s.Tracked options) (waits : s.Enabled .beginWait)
    {i : Nat} {c : Connection} (place : s.connections[i]? = some c) (answered : c.answered = true) :
    ∃ d, (s.next sink options .beginWait).connections[i]? = some d ∧ c.Becomes d ∧
      (d.stage = .awaited ∨ d.stage = .ended) := by
  have mem := List.mem_of_getElem? place
  obtain ⟨d, after, change⟩ := next_connection sink options waits place
  refine ⟨d, after, change.becomes, ?_⟩
  have same : d = if c.stage = .registered then { c with stage := .awaited } else c := by
    refine Option.some.inj (after.symm.trans ?_)
    exact (List.getElem?_map ..).trans (by rw [place, Option.map_some])
  rw [same]
  cases stage : c.stage with
  | queued => exact absurd stage ((tracked.connections waits.1 c mem).answered answered).1
  | registered => exact .inl rfl
  | awaited => exact absurd stage (tracked.awaited (Bool.eq_false_iff.2 waits.2) c mem)
  | ended => exact .inr stage

/-- A wait that began when a worker was gone, whose request had been answered, has returned. Whatever
else happened, before, meanwhile and since, the handler of the worker has ended and every report
that the worker sent was merged once, in order: what was merged at all is a shuffle of what each
connection and the parent gave. -/
theorem merged_of_wait (sink : Sink σ) (options : Options) (initial : σ) {before during after : List Move}
    {s t u : Server σ} {i : Nat} {c : Connection}
    (reached : Path sink options (start initial) before s) (place : s.connections[i]? = some c)
    (worker : c.OfWorker) (answered : c.answered = true) (exited : c.gone = true)
    (waits : s.Enabled .beginWait) (waiting : Path sink options (s.next sink options .beginWait) during t)
    (returns : t.Enabled .endWait) (since : Path sink options (t.next sink options .endWait) after u) :
    ∃ d, u.connections[i]? = some d ∧ d.stage = .ended ∧ d.sent = c.sent ∧
      d.merged = c.sent.flatMap Frame.reports ∧
      ∃ calls reports, (World.start initial).Grown sink calls reports u.world ∧
        (∀ d, u.world.store.get? d = Run.mergeAll (runsOf d reports)) ∧
        Shuffle ((before ++ .beginWait :: during ++ .endWait :: after).flatMap Move.merged ::
          u.connections.map Connection.merged) reports := by
  have tracked : s.Tracked options := .path reached (.start initial)
  obtain ⟨c₀, place₀, becomes₀, waited⟩ := awaited_or_ended sink tracked waits place answered
  obtain ⟨c₁, place₁, becomes₁⟩ := becomes_of_path waiting place₀
  have mem : c₁ ∈ t.connections := List.mem_of_getElem? place₁
  have ended : c₁.stage = .ended := by
    rcases waited with awaited | ended
    · exact (becomes₁.awaited awaited).resolve_left (returns.2 c₁ mem)
    · exact (becomes₁.ended ended).1
  -- The server still listens, since it waits, so the handler was not aborted.
  have becomes : c.Becomes c₁ := becomes₀.trans becomes₁
  have tracked' : t.Tracked options := .path waiting (tracked.next waits)
  have nothing : c₁.inbox = [] := by
    have connection := tracked'.connections (tracked'.listens returns.1) c₁ mem
    exact (worker.becomes becomes).inbox_eq_nil connection (becomes.answered answered) ended
  have acted : c₁.acted = c.sent := by
    rw [← (becomes.gone exited).2, Connection.sent, nothing, List.append_nil]
  obtain ⟨d, place₂, becomes₂⟩ := becomes_of_path since place₁
  obtain ⟨ended', acted'⟩ := becomes₂.ended ended
  refine ⟨d, place₂, ended', ((becomes.trans becomes₂).gone exited).2, ?_, ?_⟩
  · rw [Connection.merged, acted', acted]
  · have path := (((reached.tail waits).append waiting).tail returns).append since
    obtain ⟨calls, reports, accounted⟩ := Accounted.path path
    refine ⟨calls, reports, accounted.grown, accounted.grown.get?, ?_⟩
    simpa using accounted.shuffle

/-- A worker leaves before the wait, with its report not yet acted on. Another one comes during the
wait and is not waited for, and then the parent merges a run of its own. -/
theorem merged_of_wait_of_two :
    let d : Descriptor := ⟨"parse", .sampleTime, 1⟩
    let a := Run.sampled 7 ⟨0x3ff0000000000000⟩
    let b := Run.sampled 8 ⟨0x7ff8000000000001⟩
    let before : List Move := [.connect [.optionsRequest, .report d a, .finish], .send 0, .accept 0,
      .act 0, .send 0, .leave 0]
    let during : List Move := [.connect [.optionsRequest], .act 0, .accept 1, .hangUp 0]
    let s := before.foldl (next Sink.recording {}) (start #[])
    let t := during.foldl (next Sink.recording {}) (s.next Sink.recording {} .beginWait)
    let u := (t.next Sink.recording {} .endWait).next Sink.recording {} (.merge d b)
    Path Sink.recording {} (start #[]) before s ∧ s.Enabled .beginWait ∧
      Path Sink.recording {} (s.next Sink.recording {} .beginWait) during t ∧ t.Enabled .endWait ∧
      ∃ c reports, u.connections[0]? = some c ∧ c.stage = .ended ∧ c.merged = [(d, a)] ∧
        u.world.store = Store.empty.mergeReports reports ∧ reports.Perm [(d, b), (d, a)] := by
  intro d a b before during s t u
  have opened : Path Sink.recording {} (start #[]) [] _ := .refl _
  have reached : Path Sink.recording {} (start #[]) before s := opened
    |>.tail (m := .connect [.optionsRequest, .report d a, .finish]) rfl
    |>.tail (m := .send 0) ⟨_, rfl, nofun, _, rfl, rfl⟩
    |>.tail (m := .accept 0) ⟨rfl, _, rfl, rfl⟩
    |>.tail (m := .act 0) ⟨_, rfl, rfl, nofun⟩
    |>.tail (m := .send 0) ⟨_, rfl, nofun, _, rfl, rfl⟩
    |>.tail (m := .leave 0) ⟨_, rfl, nofun⟩
  have waits : s.Enabled .beginWait := ⟨rfl, nofun⟩
  have begun : Path Sink.recording {} (s.next Sink.recording {} .beginWait) [] _ := .refl _
  have waiting : Path Sink.recording {} (s.next Sink.recording {} .beginWait) during t := begun
    |>.tail (m := .connect [.optionsRequest]) rfl
    |>.tail (m := .act 0) ⟨_, rfl, rfl, nofun⟩
    |>.tail (m := .accept 1) ⟨rfl, _, rfl, rfl⟩
    |>.tail (m := .hangUp 0) ⟨_, rfl, rfl, rfl, rfl⟩
  have returns : t.Enabled .endWait := by
    refine ⟨rfl, fun c hc => ?_⟩
    rcases List.mem_cons.1 hc with rfl | hc
    · nofun
    · rw [List.mem_singleton.1 hc]
      nofun
  have since : Path Sink.recording {} (t.next Sink.recording {} .endWait) [.merge d b] u :=
    (Path.refl _).tail (m := .merge d b) nofun
  have worker : Connection.OfWorker { unsent := [.optionsRequest, .report d a, .finish] } :=
    ⟨[.report d a], [.finish], rfl, by simp [Frame.IsWork], .inr rfl⟩
  obtain ⟨c, place, ended, -, merged, calls, reports, grown, -, shuffle⟩ :=
    merged_of_wait Sink.recording {} #[] (i := 0) reached rfl worker rfl rfl waits waiting returns since
  exact ⟨reached, waits, waiting, returns, c, reports, place, ended, merged, grown.store, shuffle.perm⟩

end Server

end Link

end Microbench
