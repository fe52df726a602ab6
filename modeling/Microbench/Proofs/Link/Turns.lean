import Mathlib.Data.List.TakeWhile
import Microbench.Link.Interleaving
import Microbench.Proofs.Link.Handling
import Microbench.Proofs.Shuffle

/-!
Handlers that take turns. In whatever order connections are accepted and acted on, what reaches the
sink and the store is a shuffle of what the connections sent (`Server.Delivered.path`), and reports
that agree leave the same store in every order.
-/

namespace Microbench

namespace Link

variable {σ : Type}

/-- Whether a frame is the last one that handlers of these options look at. -/
def stopsAt (options : Options) (f : Frame) : Bool :=
  (⟨Sink.silent, options, 0⟩ : Handler Unit).stops f

def servedBy (options : Options) (frames : List Frame) : List Frame :=
  frames.takeWhile (!stopsAt options ·)

theorem nothing_of_stopsAt {options : Options} {f : Frame} (stopping : stopsAt options f = true) :
    f.forwarded = [] ∧ f.reports = [] := Handler.nothing_of_stops _ stopping

def callsOf (options : Options) (frames : List Frame) : List Event :=
  (servedBy options frames).flatMap Frame.forwarded

def reportsOf (options : Options) (frames : List Frame) : List (Descriptor × Run) :=
  (servedBy options frames).flatMap Frame.reports

/-- Acting on the frame `f` makes `d` of the connection `c`, which has `rest` to act on behind it. -/
structure Connection.Acted (options : Options) (c : Connection) (f : Frame) (rest : List Frame)
    (d : Connection) : Prop where
  inbox : d.inbox = rest
  acted : d.acted = c.acted ++ [f]
  stage : d.stage = if stopsAt options f then .ended else c.stage
  unsent : d.unsent = c.unsent
  gone : d.gone = c.gone
  answered : d.answered = (c.answered || (f = .optionsRequest && !stopsAt options f))

theorem Connection.Acted.sent {options : Options} {c d : Connection} {f : Frame} {rest : List Frame}
    (became : c.Acted options f rest d) (pending : c.inbox = f :: rest) : d.sent = c.sent := by
  rw [Connection.sent, Connection.sent, became.inbox, became.acted, pending, List.append_assoc,
    List.singleton_append]

/-- What the changed connections have in common with what they were is common to all of them. -/
theorem Connection.map_of_changed {β : Type} {old new : List Connection} {g : Connection → Connection}
    {p : Nat → Prop} [DecidablePred p]
    (changed : ∀ i : Nat, new[i]? = old[i]?.map fun c => if p i then g c else c)
    {h : Connection → β} (same : ∀ i c, old[i]? = some c → p i → h (g c) = h c) :
    new.map h = old.map h := by
  apply List.ext_getElem?
  intro i
  rw [List.getElem?_map, List.getElem?_map, changed]
  cases place : old[i]? with
  | none => rfl
  | some c =>
    by_cases hp : p i
    · simp [hp, same i c place hp]
    · simp [hp]

/-- A handler that goes on was stopped by no frame yet; one that has ended has acted on everything
before the first frame that stopped it. -/
structure Connection.Kept (options : Options) (c : Connection) : Prop where
  going : c.stage ≠ .ended → ∀ f ∈ c.acted, stopsAt options f = false
  ended : c.stage = .ended →
    ∃ last, c.acted = servedBy options c.sent ++ last ∧ ∀ f ∈ last, stopsAt options f = true

namespace Connection.Kept

variable {options : Options} {c : Connection}

theorem of_fresh (fresh : c.acted = []) (live : c.stage ≠ .ended) : c.Kept options :=
  ⟨fun _ f hf => by simp [fresh] at hf, fun ended => absurd ended live⟩

/-- What an ended connection leaves is what its frames stand for. -/
theorem flatMap_acted {β : Type} (kept : c.Kept options) (ended : c.stage = .ended)
    {g : Frame → List β} (quiet : ∀ f, stopsAt options f = true → g f = []) :
    c.acted.flatMap g = (servedBy options c.sent).flatMap g := by
  obtain ⟨last, acted, stopping⟩ := kept.ended ended
  have nothing : last.flatMap g = [] :=
    List.flatMap_eq_nil_iff.2 fun f hf => quiet f (stopping f hf)
  rw [acted, List.flatMap_append, nothing, List.append_nil]

/-- A connection that is hung up has nothing left to act on. -/
theorem hangUp (kept : c.Kept options) (live : c.stage.isLive) (nothing : c.inbox = []) :
    Kept options { c with stage := .ended } := by
  have going : c.stage ≠ .ended := fun ended => by simp [ended, Stage.isLive] at live
  refine ⟨fun ended => absurd rfl ended, fun _ => ⟨[], ?_, by simp⟩⟩
  have all : ∀ f ∈ c.acted, (!stopsAt options f) = true := fun f hf => by simp [kept.going going f hf]
  rw [List.append_nil, servedBy, sent, nothing, List.append_nil, List.takeWhile_eq_self_iff.2 all]

/-- Acting on a frame goes on, or ends the connection where the frame stops it. -/
theorem act (kept : c.Kept options) (live : c.stage.isLive) {f : Frame} {rest : List Frame}
    {c' : Connection} (became : c.Acted options f rest c') : c'.Kept options := by
  obtain ⟨inbox, acted, stage, -⟩ := became
  have going : c.stage ≠ .ended := fun ended => by simp [ended, Stage.isLive] at live
  have before := kept.going going
  cases stopping : stopsAt options f with
  | false =>
    rw [stopping, if_neg Bool.false_ne_true] at stage
    refine ⟨fun _ g hg => ?_, fun ended => absurd (stage ▸ ended) going⟩
    rw [acted] at hg
    rcases List.mem_append.1 hg with old | new
    · exact before g old
    · rwa [List.mem_singleton.1 new]
  | true =>
    rw [stopping, if_pos rfl] at stage
    refine ⟨fun live => absurd stage live, fun _ => ⟨[f], ?_, by simpa using stopping⟩⟩
    have front : ∀ g ∈ c.acted, (!stopsAt options g) = true := fun g hg => by simp [before g hg]
    rw [acted, servedBy, sent, acted, inbox, List.append_assoc, List.takeWhile_append_of_pos front]
    simp [stopping]

end Connection.Kept

def Move.IsTurn : Move → Prop
  | .accept _ | .leave _ | .act _ | .hangUp _ | .beginWait | .endWait => True
  | _ => False

namespace Server

def delivering (w : World σ) (sequences : List (List Frame)) : Server σ where
  world := w
  connections := sequences.map fun frames => { inbox := frames, unsent := [] }

theorem getElem?_update (s : Server σ) (i j : Nat) (f : Connection → Connection) :
    (s.update i f).connections[j]? = s.connections[j]?.map fun c => if i = j then f c else c :=
  List.getElem?_modify f i s.connections j

/-- Acting on a frame of a connection does what the frame stands for, and ends the connection where
the frame stops it. -/
theorem actOn_spec (sink : Sink σ) (options : Options) (s : Server σ) (i : Nat) {c : Connection}
    {f : Frame} {rest : List Frame} (pending : c.inbox = f :: rest) :
    ∃ w c', s.actOn sink options i c = { s with world := w, connections := s.connections.set i c' } ∧
      s.world.Grown sink f.forwarded f.reports w ∧ c.Acted options f rest c' := by
  have reacts := Handler.react_does ⟨sink, options, i + 1⟩ f
  have grown := reacts.changes s.world
  unfold actOn
  rw [pending]
  simp only []
  rw [reacts.run_eq s.world]
  cases stopping : stopsAt options f with
  | true =>
    obtain ⟨e, stop⟩ := Handler.reaction_of_stops ⟨sink, options, i + 1⟩ stopping
    have closes := (Handler.close_does ⟨sink, options, i + 1⟩ e).changes
    rw [stop]
    refine ⟨_, _, rfl, ?_, rfl, rfl, ?_, rfl, rfl, ?_⟩
    · simpa using grown.trans (closes _)
    · rw [stopping, if_pos rfl]
    · simp [stopping]
  | false =>
    rw [Handler.reaction_of_not_stops ⟨sink, options, i + 1⟩ stopping]
    refine ⟨_, _, rfl, grown, ?_⟩
    by_cases asked : f = .optionsRequest
    · rw [if_pos asked]
      exact ⟨rfl, rfl, by simp [stopping], rfl, rfl, by simp [asked, asked ▸ stopping]⟩
    · rw [if_neg asked]
      exact ⟨rfl, rfl, by simp [stopping], rfl, rfl, by simp [asked]⟩

/-- What has come of sequences of frames that were sent to a server, since the world `w`: the frames
that were acted on are in this order. -/
structure Delivered (sink : Sink σ) (options : Options) (w : World σ) (sequences : List (List Frame))
    (order : List Frame) (t : Server σ) : Prop where
  sent : t.connections.map Connection.sent = sequences
  kept : ∀ c ∈ t.connections, c.Kept options
  shuffle : Shuffle (t.connections.map Connection.acted) order
  grown : w.Grown sink (order.flatMap Frame.forwarded) (order.flatMap Frame.reports) t.world

namespace Delivered

variable {sink : Sink σ} {options : Options} {w : World σ} {sequences : List (List Frame)}
  {order : List Frame} {t : Server σ}

theorem delivering : Delivered sink options w sequences [] (delivering w sequences) where
  sent := by simp [Server.delivering, Connection.sent, Function.comp_def]
  kept c hc := by
    obtain ⟨frames, -, rfl⟩ := List.mem_map.1 hc
    exact .of_fresh rfl (by simp)
  shuffle := .nil fun part hp => by
    obtain ⟨c, hc, rfl⟩ := List.mem_map.1 hp
    obtain ⟨frames, -, rfl⟩ := List.mem_map.1 hc
    rfl
  grown := .refl sink w

/-- Changes of connections that are no act of a handler leave what was delivered. -/
theorem of_same (d : Delivered sink options w sequences order t) {u : Server σ}
    (world : u.world = t.world) {g : Connection → Connection}
    (same : ∀ c, (g c).inbox = c.inbox ∧ (g c).acted = c.acted) {p : Nat → Prop} [DecidablePred p]
    (changed : ∀ i : Nat, u.connections[i]? = t.connections[i]?.map fun c => if p i then g c else c)
    (kept : ∀ i c, t.connections[i]? = some c → p i → c.Kept options → (g c).Kept options) :
    Delivered sink options w sequences order u := by
  constructor
  · have sent (c : Connection) : (g c).sent = c.sent := by
      rw [Connection.sent, (same c).1, (same c).2, ← Connection.sent]
    rw [Connection.map_of_changed changed fun _ c _ _ => sent c]
    exact d.sent
  · intro c hc
    obtain ⟨i, place⟩ := List.mem_iff_getElem?.1 hc
    rw [changed] at place
    obtain ⟨old, old_place, rfl⟩ := Option.map_eq_some_iff.1 place
    have old_kept := d.kept old (List.mem_of_getElem? old_place)
    by_cases hp : p i
    · simpa [hp] using kept i old old_place hp old_kept
    · simpa [hp] using old_kept
  · rw [Connection.map_of_changed changed fun _ c _ _ => (same c).2]
    exact d.shuffle
  · rw [world]
    exact d.grown

theorem update (d : Delivered sink options w sequences order t) (i : Nat)
    {g : Connection → Connection} (same : ∀ c, (g c).inbox = c.inbox ∧ (g c).acted = c.acted)
    (kept : ∀ c, t.connections[i]? = some c → c.Kept options → (g c).Kept options) :
    Delivered sink options w sequences order (t.update i g) := by
  refine d.of_same rfl same (p := (i = ·)) (t.getElem?_update i · g) ?_
  rintro j c place rfl
  exact kept c place

theorem act (d : Delivered sink options w sequences order t) {i : Nat} {c : Connection}
    (place : t.connections[i]? = some c) (live : c.stage.isLive) {f : Frame} {rest : List Frame}
    (pending : c.inbox = f :: rest) :
    Delivered sink options w sequences (order ++ [f]) (t.actOn sink options i c) := by
  obtain ⟨w', c', acts, grown, became⟩ := actOn_spec sink options t i pending
  obtain ⟨inside, here⟩ := List.getElem?_eq_some_iff.1 place
  rw [acts]
  constructor
  · rw [List.map_set, became.sent pending, ← here, ← List.map_set, List.set_getElem_self]
    exact d.sent
  · intro e he
    rcases List.mem_or_eq_of_mem_set he with old | rfl
    · exact d.kept e old
    · exact (d.kept c (List.mem_of_getElem? place)).act live became
  · have place' : (t.connections.map Connection.acted)[i]? = some c.acted := by
      rw [List.getElem?_map, place, Option.map_some]
    rw [List.map_set, became.acted]
    exact d.shuffle.snoc place' f
  · have more := d.grown.trans grown
    rwa [List.flatMap_append, List.flatMap_append, List.flatMap_singleton, List.flatMap_singleton]

/-- A turn acts on one more frame, or on none. -/
theorem next (d : Delivered sink options w sequences order t) {m : Move} (turn : m.IsTurn)
    (enabled : t.Enabled m) :
    ∃ order, Delivered sink options w sequences order (t.next sink options m) := by
  cases m with
  | accept i =>
    obtain ⟨-, c, place, queued⟩ := enabled
    refine ⟨order, d.update i (fun _ => ⟨rfl, rfl⟩) fun c' place' kept => ?_⟩
    obtain rfl : c = c' := Option.some.inj (place.symm.trans place')
    exact ⟨fun _ => kept.going (by simp [queued]), fun ended => by contradiction⟩
  | leave i => exact ⟨order, d.update i (fun _ => ⟨rfl, rfl⟩) fun c _ kept => ⟨kept.going, kept.ended⟩⟩
  | act i =>
    obtain ⟨c, place, live, waiting⟩ := enabled
    obtain ⟨f, rest, pending⟩ := List.exists_cons_of_ne_nil waiting
    refine ⟨order ++ [f], ?_⟩
    simp only [Server.next, place]
    exact d.act place live pending
  | hangUp i =>
    obtain ⟨c, place, live, nothing, -⟩ := enabled
    refine ⟨order, d.update i (fun _ => ⟨rfl, rfl⟩) fun c' place' kept => ?_⟩
    obtain rfl : c = c' := Option.some.inj (place.symm.trans place')
    exact kept.hangUp live nothing
  | beginWait =>
    refine ⟨order, d.of_same rfl (p := fun _ => True)
      (g := fun c => if c.stage = .registered then { c with stage := .awaited } else c) ?_ ?_ ?_⟩
    · intro c
      split <;> exact ⟨rfl, rfl⟩
    · intro i
      simp [Server.next]
    · intro i c _ _ kept
      split
      · rename_i registered
        exact ⟨fun _ => kept.going (by simp [registered]), fun ended => by contradiction⟩
      · exact kept
  | endWait => exact ⟨order, d.sent, d.kept, d.shuffle, d.grown⟩
  | connect | send | lose | stopListening | abort | finishClosing | tell | merge => contradiction

theorem path {s : Server σ} {ms : List Move} (path : Path sink options s ms t)
    (turns : ∀ m ∈ ms, m.IsTurn) (start : Delivered sink options w sequences [] s) :
    ∃ order, Delivered sink options w sequences order t := by
  induction path with
  | refl => exact ⟨[], start⟩
  | @tail t ms m before enabled ih =>
    obtain ⟨order, d⟩ := ih fun m hm => turns m (List.mem_append_left _ hm)
    exact d.next (turns m (by simp)) enabled

end Delivered

/-- Each of some sequences of frames is sent on a connection of its own. Whatever the order in which
the connections are accepted and acted on until their handlers have ended, the calls that were made
and the reports that were merged are shuffles of those of the connections, each in the order they
were sent in; and where the reports agree, the store is the same for every order. -/
theorem store_of_turns (sink : Sink σ) (options : Options) (w : World σ)
    (sequences : List (List Frame)) (ms : List Move) (t : Server σ)
    (path : Path sink options (delivering w sequences) ms t) (turns : ∀ m ∈ ms, m.IsTurn)
    (ended : ∀ c ∈ t.connections, c.stage = .ended) :
    ∃ calls reports, w.Grown sink calls reports t.world ∧
      Shuffle (sequences.map (callsOf options)) calls ∧
      Shuffle (sequences.map (reportsOf options)) reports ∧
      (∀ d, t.world.store.get? d = Run.mergeAll ((w.store.get? d).toList ++ runsOf d reports)) ∧
      (w.store.Mergeable (sequences.flatMap (reportsOf options)) →
        t.world.store = w.store.mergeReports (sequences.flatMap (reportsOf options))) := by
  obtain ⟨order, d⟩ := Delivered.path path turns .delivering
  have parts {β : Type} (g : Frame → List β) (quiet : ∀ f, stopsAt options f = true → g f = []) :
      (t.connections.map Connection.acted).map (·.flatMap g) =
        sequences.map fun frames => (servedBy options frames).flatMap g := by
    rw [← d.sent, List.map_map, List.map_map]
    exact List.map_congr_left fun c hc => (d.kept c hc).flatMap_acted (ended c hc) quiet
  have calls := d.shuffle.flatMap Frame.forwarded
  have reports := d.shuffle.flatMap Frame.reports
  rw [parts _ fun f stopping => (nothing_of_stopsAt stopping).1] at calls
  rw [parts _ fun f stopping => (nothing_of_stopsAt stopping).2] at reports
  refine ⟨_, _, d.grown, calls, reports, d.grown.get?, fun mergeable => ?_⟩
  rw [d.grown.store]
  exact (Store.mergeReports_perm mergeable reports.perm.symm).symm

/-- Two workers report on one benchmark, and one of them also makes a call. Its frames come first,
in between and last. -/
theorem store_of_turns_of_two :
    let d : Descriptor := ⟨"parse", .sampleTime, 1⟩
    let a := Run.sampled 7 ⟨0x3ff0000000000000⟩
    let b := Run.sampled 8 ⟨0x7ff8000000000001⟩
    let sequences : List (List Frame) :=
      [[.report d a, .finish], [.report d b, .ofCall .flush, .finish]]
    let ms : List Move := [.accept 1, .accept 0, .act 1, .act 0, .act 1, .act 0, .act 1]
    ∃ t, Path Sink.recording {} (delivering (World.start #[]) sequences) ms t ∧
      (∀ m ∈ ms, m.IsTurn) ∧ (∀ c ∈ t.connections, c.stage = .ended) ∧
      t.world.sink = #[.call .flush] ∧
      t.world.store = Store.empty.mergeReports [(d, a), (d, b)] := by
  intro d a b sequences ms
  have start : Path Sink.recording {} (delivering (World.start #[]) sequences) [] _ := .refl _
  have path := start
    |>.tail (m := .accept 1) ⟨rfl, _, rfl, rfl⟩
    |>.tail (m := .accept 0) ⟨rfl, _, rfl, rfl⟩
    |>.tail (m := .act 1) ⟨_, rfl, rfl, nofun⟩
    |>.tail (m := .act 0) ⟨_, rfl, rfl, nofun⟩
    |>.tail (m := .act 1) ⟨_, rfl, rfl, nofun⟩
    |>.tail (m := .act 0) ⟨_, rfl, rfl, nofun⟩
    |>.tail (m := .act 1) ⟨_, rfl, rfl, nofun⟩
  have turns : ∀ m ∈ ms, m.IsTurn := by simp [ms, Move.IsTurn]
  have ended : ∃ t, Path Sink.recording {} (delivering (World.start #[]) sequences) ms t ∧
      ∀ c ∈ t.connections, c.stage = .ended := by
    refine ⟨_, path, fun e he => ?_⟩
    rcases List.mem_cons.1 he with rfl | he
    · rfl
    · rw [List.mem_singleton.1 he]
  obtain ⟨t, path, ended⟩ := ended
  have mergeable : Store.empty.Mergeable [(d, a), (d, b)] :=
    Store.mergeable_empty (by simp [a, b, Run.sampled_agree]) (by simp [a, b, Run.sampled_ascending])
  obtain ⟨calls, reports, grown, told, -, -, same⟩ :=
    store_of_turns Sink.recording {} (World.start #[]) sequences ms t path turns ended
  have one : calls = [.call .flush] := List.perm_singleton.1 told.perm
  have recorded : t.world.sink = #[.call .flush] := by
    rw [grown.sink, one, Sink.after_recording]
    rfl
  exact ⟨t, path, turns, ended, recorded, same mergeable⟩

end Server

end Link

end Microbench
