import Microbench.Proofs.Live.Agreement
import Microbench.Proofs.Live.Settled

/-!
A run among its workers does what it would do with nobody else around. What handlers have done for a worker
when the parent goes on is what would be done if the worker were served to its end at once, with its frames in
the order in which they were acted on. So each run that has come to its end is a run by itself of workers that
send these frames (`Live.Follows.path`).
-/

namespace Microbench

open Link

variable {σ α : Type}

/-- Why a worker could not be started, or how it has exited. -/
def Launch.result : Launch → Except String (Option Int)
  | failed reason => .error reason
  | ran _ exit _ => .ok exit

namespace Harness

variable (h : Harness σ)

/-- The same harness, whose workers are these, one after another. -/
def given (launches : List Launch) : Harness σ :=
  { h with launcher := fun n _ => launches[n]?.getD (.failed "") }

theorem attend_failed {w : World σ} {args : WorkerArgs} {reason : String}
    (fails : h.launcher w.launches args = .failed reason) :
    (h.attend args).run w = (.ok (.error reason), ((Act.note (.launched args)).run w).2) := by
  have notes : (Act.note (.launched args) : Act σ Unit).run w = (.ok (), ((Act.note (.launched args)).run w).2) :=
    rfl
  rw [attend, Act.run_get_bind, Act.run_bind_ok notes, fails]
  rfl

theorem attend_sending {w : World σ} {args : WorkerArgs} {frames : List Frame} {code : Option Int}
    (runs : h.launcher w.launches args = .sending frames code) :
    (h.attend args).run w = (.ok (.ok code), h.heard frames ((Act.note (.launched args)).run w).2) := by
  have notes : (Act.note (.launched args) : Act σ Unit).run w = (.ok (), ((Act.note (.launched args)).run w).2) :=
    rfl
  obtain ⟨x, returns⟩ := h.hear_total (some [.bytes (Wire.concat Frame.bytes frames)])
    ((Act.note (.launched args)).run w).2
  rw [attend, Act.run_get_bind, Act.run_bind_ok notes, runs]
  exact Act.run_bind_ok (Prod.ext returns rfl)

theorem launcher_given {launches later : List Launch} {launch : Launch} {n : Nat}
    (number : n = launches.length) (args : WorkerArgs) :
    (h.given (launches ++ ([launch] ++ later))).launcher n args = launch := by
  simp [given, number]

theorem launches_heard (frames : List Frame) (w : World σ) : (h.heard frames w).launches = w.launches := by
  obtain ⟨actions, continued, quiet⟩ := h.serve_only [.bytes (Wire.concat Frame.bytes frames)] w
  have none : actions.filterMap Action.launched? = [] :=
    List.filterMap_eq_nil_iff.2 fun a ha => (quiet a ha).launched?
  have same := continued.launches
  rwa [launchesIn, none] at same

theorem reports_sending {frames : List Frame} (going : Going h.options frames) (exit : Option Int) :
    h.reports (.sending frames exit) = frames.flatMap Frame.reports := by
  rw [reports, h.frames_sending going]

end Harness

/-- With nobody else around, and with these launches, a course comes to where `p` is left of it. -/
structure Reaches (h : Harness σ) (course : Course α) (initial : σ) (launches : List Launch) (p : Course α)
    (w : World σ) : Prop where
  number : w.launches = launches.length
  run : ∀ later, (course.alone (h.given (launches ++ later))).run (World.start initial) =
    (p.alone (h.given (launches ++ later))).run w

namespace Reaches

variable {h : Harness σ} {course : Course α} {initial : σ} {launches : List Launch} {w : World σ}

theorem start : Reaches h course initial [] course (World.start initial) := ⟨rfl, fun _ => rfl⟩

theorem tell {e : Event} {next : Except Failure Unit → Course α}
    (reaches : Reaches h course initial launches (.tell e next) w) :
    Reaches h course initial launches (next ((Act.tell h.sink e).run w).1) ((Act.tell h.sink e).run w).2 where
  number := (World.Continued.tell h.sink e w).launches.trans reaches.number
  run later := (reaches.run later).trans (Act.run_bind_ok (Act.run_attempt _ w))

theorem note {r : Remark} {next : Course α} (reaches : Reaches h course initial launches (.note r next) w) :
    Reaches h course initial launches next ((Act.note r.action).run w).2 where
  number := by
    have noted := (World.Continued.note w (a := r.action) (by cases r <;> rfl)).launches
    refine noted.trans (Eq.trans ?_ reaches.number)
    cases r <;> rfl
  run later := reaches.run later

theorem merge {d : Descriptor} {run : Run} {next : Course α}
    (reaches : Reaches h course initial launches (.merge d run next) w) :
    Reaches h course initial launches next ((Act.merge d run).run w).2 where
  number := (World.Continued.merge w d run).launches.trans reaches.number
  run later := reaches.run later

theorem look {next : Store → Course α} (reaches : Reaches h course initial launches (.look next) w) :
    Reaches h course initial launches (next w.store) w := ⟨reaches.number, reaches.run⟩

theorem close {next : Course α} (reaches : Reaches h course initial launches (.close next) w) :
    Reaches h course initial launches next w := ⟨reaches.number, reaches.run⟩

variable {args : WorkerArgs} {next : Except String (Option Int) → Course α}

theorem launched (reaches : Reaches h course initial launches (.start args next) w) :
    ((Act.note (.launched args)).run w).2.launches = launches.length + 1 := by
  rw [(World.Continued.note w rfl).launches, reaches.number]
  rfl

/-- The attempt fails. -/
theorem fail (reaches : Reaches h course initial launches (.start args next) w) (reason : String) :
    Reaches h course initial (launches ++ [.failed reason]) (next (.error reason))
      ((Act.note (.launched args)).run w).2 where
  number := by rw [reaches.launched, List.length_append, List.length_singleton]
  run later := by
    rw [List.append_assoc]
    exact (reaches.run _).trans
      (Act.run_bind_ok (Harness.attend_failed _ (h.launcher_given reaches.number args)))

/-- The worker is served to its end. -/
theorem serve (reaches : Reaches h course initial launches (.start args next) w) (frames : List Frame)
    (code : Option Int) : Reaches h course initial (launches ++ [.sending frames code]) (next (.ok code))
      (h.heard frames ((Act.note (.launched args)).run w).2) where
  number := by rw [h.launches_heard, reaches.launched, List.length_append, List.length_singleton]
  run later := by
    rw [List.append_assoc]
    exact (reaches.run _).trans
      (Act.run_bind_ok (Harness.attend_sending _ (h.launcher_given reaches.number args)))

end Reaches

namespace Link.Server

variable {s : Server σ} {i : Nat} {c : Connection} {f : Frame} {rest : List Frame}

/-- A handler that acts on a frame does with it what any handler does. -/
theorem act_agrees (sink : Sink σ) (options : Options) (place : s.connections[i]? = some c)
    (pending : c.inbox = f :: rest) : (s.next sink options (.act i)).world.Agrees
      ((Handler.react ⟨sink, options, 0⟩ f).run s.world).2 := by
  have reacts := (Handler.react_does ⟨sink, options, i + 1⟩ f).run_eq s.world
  have same : Handler.react ⟨sink, options, i + 1⟩ f = Handler.react ⟨sink, options, 0⟩ f :=
    Handler.react_number ⟨sink, options, 0⟩ (i + 1) f
  simp only [next, place, actOn, pending]
  rw [reacts, same]
  cases Handler.reaction ⟨sink, options, i + 1⟩ f with
  | answer bytes => exact .refl _
  | stop e => exact Handler.close_agrees _ e (.refl _)

end Link.Server

namespace Control

def rest : Control α → Course α ⊕ (Option Int → Course α)
  | ready p | closing p => .inl p
  | hosting next | exited _ next | waiting _ next => .inr next

end Control

namespace Live

/-- What was merged for the connections of the worker number `n`. -/
def mergedBy (s : Live σ α) (n : Nat) : List (List (Descriptor × Run)) :=
  share s.owners n (s.server.connections.map Connection.merged)

/-- How far a run has come that has nobody else around, by where the parent is in the live one. A worker that
is still attended to has been served as far as its frames were acted on. -/
inductive Comes (h : Harness σ) (course : Course α) (initial : σ) (s : Live σ α) (launches : List Launch)
    (w : World σ) : List Frame → Prop where
  | ready {p : Course α} (rest : s.control.rest = .inl p) (agrees : s.server.world.Agrees w)
    (reaches : Reaches h course initial launches p w) : Comes h course initial s launches w []
  | hosting {frames : List Frame} {next : Option Int → Course α} (rest : s.control.rest = .inr next)
    (agrees : s.server.world.Agrees (h.heard frames w))
    (reaches : ∀ frames code, Reaches h course initial (launches ++ [.sending frames code]) (next code)
      (h.heard frames w)) : Comes h course initial s launches w frames

structure Follows (h : Harness σ) (course : Course α) (initial : σ) (s : Live σ α) (launches : List Launch)
    (w : World σ) (frames : List Frame) : Prop where
  comes : s.Comes h course initial launches w frames
  going : Going h.options frames
  results : launches.map Launch.result = s.results
  shares : ∀ n launch, launches[n]? = some launch → Shuffle (s.mergedBy n) (h.reports launch)
  share : Shuffle (s.mergedBy s.results.length) (frames.flatMap Frame.reports)

namespace Follows

variable {h : Harness σ} {course : Course α} {initial : σ} {s t : Live σ α} {launches : List Launch}
  {w : World σ} {frames : List Frame}

theorem start : (start course initial).Follows h course initial [] (World.start initial) [] where
  comes := .ready rfl (.refl _) .start
  going := by simp [Going]
  results := rfl
  shares _ _ here := by simp at here
  share := share_of_none (by simp [Live.start]) _

/-- Nothing but noise has come of a step that is none of the parent. -/
theorem quiet (follows : s.Follows h course initial launches w frames) (rest : t.control.rest = s.control.rest)
    (results : t.results = s.results) (agrees : t.server.world.Agrees s.server.world)
    (shuffles : ∀ n whole, Shuffle (s.mergedBy n) whole → Shuffle (t.mergedBy n) whole) :
    t.Follows h course initial launches w frames where
  comes := by
    cases follows.comes with
    | ready same before reaches => exact .ready (rest.trans same) (agrees.trans before) reaches
    | hosting same before reaches => exact .hosting (rest.trans same) (agrees.trans before) reaches
  going := follows.going
  results := follows.results.trans results.symm
  shares n launch here := shuffles n _ (follows.shares n launch here)
  share := results ▸ shuffles _ _ follows.share

theorem shuffle_act {i : Nat} {c : Connection} {f : Frame} {rest : List Frame}
    (enabled : s.server.Enabled (.act i)) (place : s.server.connections[i]? = some c)
    (pending : c.inbox = f :: rest) {n : Nat} {whole : List (Descriptor × Run)}
    (shuffle : Shuffle (s.mergedBy n) whole) :
    Shuffle ((s.next h.sink h.options (.move (.act i))).mergedBy n)
      (whole ++ if s.owners[i]? = some n then f.reports else []) := by
  obtain ⟨c', f', rest', d, w, place', -, pending', became, -, acts⟩ :=
    Server.next_act h.sink h.options enabled
  obtain rfl : c' = c := Option.some.inj (place'.symm.trans place)
  obtain ⟨rfl, rfl⟩ := List.cons.inj (pending'.symm.trans pending)
  have held : (s.server.connections.map Connection.merged)[i]? = some c'.merged := by
    rw [List.getElem?_map, place, Option.map_some]
  have more := shuffle.share_append held f'.reports
  simp only [mergedBy, Live.next, acts, List.map_set]
  have merged : d.merged = c'.merged ++ f'.reports := by
    simp [Connection.merged, became.acted]
  rwa [merged]

theorem act (follows : s.Follows h course initial launches w frames) (orderly : s.Orderly h.options) {i : Nat}
    (enabled : s.server.Enabled (.act i)) :
    ∃ frames, (s.next h.sink h.options (.move (.act i))).Follows h course initial launches w frames := by
  obtain ⟨c, place, live, waiting⟩ := id enabled
  obtain ⟨f, rest, pending⟩ := List.exists_cons_of_ne_nil waiting
  have acts := Server.act_agrees h.sink h.options place pending
  have shuffles {n : Nat} {whole : List (Descriptor × Run)} (shuffle : Shuffle (s.mergedBy n) whole) :=
    shuffle_act (h := h) enabled place pending shuffle
  by_cases nothing : f = .optionsRequest ∨ stopsAt h.options f = true
  · -- Neither a request nor the end of a connection changes anything.
    have none : f.reports = [] := nothing.elim (fun asks => asks ▸ rfl) fun stopping => (nothing_of_stopsAt stopping).2
    have same : ((Handler.react ⟨h.sink, h.options, 0⟩ f).run s.server.world).2 = s.server.world := by
      rcases nothing with rfl | stopping
      · exact Handler.react_request _ _
      · exact Handler.react_of_stops ⟨h.sink, h.options, 0⟩ stopping _
    rw [same] at acts
    refine ⟨frames, follows.quiet rfl rfl acts fun n whole shuffle => ?_⟩
    simpa [none] using shuffles shuffle
  · -- What does something is of the worker that is attended to, which alone is served one frame further.
    obtain ⟨other, goes⟩ := not_or.1 nothing
    obtain ⟨owner, holds⟩ := orderly.own_of_pending place live pending other
    obtain ⟨n, owner', kept⟩ := orderly.kept_of_place place
    have going : Going h.options (frames ++ [f]) :=
      follows.going.concat (kept.patient.fits f (by simp [Connection.sent, pending])) (Bool.eq_false_iff.2 goes)
    refine ⟨frames ++ [f], ?_, going, follows.results, fun n launch here => ?_, ?_⟩
    · cases follows.comes with
      | ready same before reaches =>
        cases control : s.control <;> simp [control, Control.rest, Control.Holds] at same holds
      | @hosting _ next same before reaches =>
        refine .hosting same (acts.trans ?_) reaches
        rw [h.heard_concat going]
        exact (Handler.react_blind _ f _ _ before).2
    · have whole := shuffles (follows.shares n launch here)
      have past : n < s.results.length := by
        rw [← follows.results, List.length_map]
        exact (List.getElem?_eq_some_iff.1 here).1
      rwa [owner, if_neg (by simpa using Nat.ne_of_gt past), List.append_nil] at whole
    · have whole := shuffles follows.share
      rwa [owner, if_pos rfl, ← List.flatMap_singleton Frame.reports f, ← List.flatMap_append] at whole

theorem move (follows : s.Follows h course initial launches w frames) (orderly : s.Orderly h.options) {m : Move}
    (allowed : s.Allows m) (enabled : s.server.Enabled m) :
    ∃ frames, (s.next h.sink h.options (.move m)).Follows h course initial launches w frames := by
  have same (other : ∀ i, m ≠ .act i) (none : m.connects = 0) :
      (s.server.next h.sink h.options m).connections.map Connection.merged =
        s.server.connections.map Connection.merged := Server.merged_of_next enabled other none
  cases m with
  | act i => exact follows.act orderly enabled
  | connect frames' =>
    refine ⟨frames, follows.quiet rfl rfl (.refl _) fun n whole shuffle => ?_⟩
    have same : s.owners.length = (s.server.connections.map Connection.merged).length := by
      rw [orderly.owned, List.length_map]
    have new := shuffle.concat_nil
    rw [mergedBy, ← share_concat same s.results.length n] at new
    simpa [mergedBy, Live.next, Server.next, Connection.merged] using new
  | lose i reason =>
    have noise := Handler.close_agrees (⟨h.sink, h.options, i + 1⟩ : Handler σ) (some (.io reason))
      (.refl s.server.world)
    refine ⟨frames, follows.quiet rfl rfl noise fun n whole shuffle => ?_⟩
    rwa [mergedBy, ← same (by simp) rfl] at shuffle
  | send | leave | accept | hangUp | abort =>
    refine ⟨frames, follows.quiet rfl rfl (.refl _) fun n whole shuffle => ?_⟩
    rwa [mergedBy, ← same (by simp) rfl] at shuffle
  | beginWait | endWait | stopListening | finishClosing | tell | merge => contradiction

/-- The parent does something that comes of its course alone. -/
theorem ready (follows : s.Follows h course initial launches w frames) {p : Course α}
    (rest : s.control.rest = .inl p) : frames = [] ∧ s.server.world.Agrees w ∧
      Reaches h course initial launches p w := by
  cases follows.comes with
  | ready same agrees reaches =>
    obtain rfl := Sum.inl.inj (same.symm.trans rest)
    exact ⟨rfl, agrees, reaches⟩
  | hosting same => simp [same] at rest

/-- The parent goes on, and no attempt to start a worker is over. -/
theorem proceed (follows : s.Follows h course initial launches w frames) {server : Server σ}
    {control : Control α} {w' : World σ}
    (merged : server.connections.map Connection.merged = s.server.connections.map Connection.merged)
    (comes : Comes h course initial ⟨server, control, s.owners, s.results⟩ launches w' frames) :
    Follows h course initial ⟨server, control, s.owners, s.results⟩ launches w' frames where
  comes := comes
  going := follows.going
  results := follows.results
  shares n launch here := by
    rw [mergedBy, merged]
    exact follows.shares n launch here
  share := by
    rw [mergedBy, merged]
    exact follows.share

/-- An attempt to start a worker is over, and nothing is left of it. -/
theorem ended (follows : s.Follows h course initial launches w frames) (orderly : s.Orderly h.options)
    {server : Server σ} {control : Control α} {launch : Launch} {w' : World σ}
    (comes : Comes h course initial ⟨server, control, s.owners, s.results ++ [launch.result]⟩
      (launches ++ [launch]) w' [])
    (merged : server.connections.map Connection.merged = s.server.connections.map Connection.merged)
    (reports : h.reports launch = frames.flatMap Frame.reports) :
    Follows h course initial ⟨server, control, s.owners, s.results ++ [launch.result]⟩
      (launches ++ [launch]) w' [] where
  comes := comes
  going := by simp [Going]
  results := by rw [List.map_append, follows.results, List.map_singleton]
  shares n launch' here := by
    rw [mergedBy, merged]
    rw [List.getElem?_append] at here
    split at here
    · exact follows.shares n launch' here
    · rename_i beyond
      obtain ⟨last, rfl⟩ := List.getElem?_eq_some_iff.1 here
      have same := congrArg List.length follows.results
      rw [List.length_map] at same
      rw [List.length_singleton] at last
      obtain rfl : n = s.results.length := by omega
      rw [List.getElem_singleton, reports]
      exact follows.share
  share := by
    refine share_of_none (fun mem => ?_) _
    obtain ⟨i, owner⟩ := List.mem_iff_getElem?.1 mem
    have inside := (List.getElem?_eq_some_iff.1 owner).1
    have earlier := (orderly.kept i _ _ (List.getElem?_eq_getElem (orderly.owned ▸ inside)) owner).earlier
    rw [List.length_append, List.length_singleton] at earlier
    exact absurd earlier (Nat.not_succ_le_self _)

theorem advance (follows : s.Follows h course initial launches w frames) (orderly : s.Orderly h.options)
    (enabled : s.Enabled .advance) :
    ∃ launches w frames, (s.advance h.sink h.options).Follows h course initial launches w frames := by
  obtain ⟨server, control, owners, results⟩ := s
  have still {m : Move} (enabled : server.Enabled m) (other : ∀ i, m ≠ .act i) (none : m.connects = 0) :
      (server.next h.sink h.options m).connections.map Connection.merged =
        server.connections.map Connection.merged := Server.merged_of_next enabled other none
  cases control with
  | ready p =>
    obtain ⟨rfl, agrees, reaches⟩ := follows.ready rfl
    cases p with
    | done outcome => exact ⟨launches, w, [], follows⟩
    | tell e next =>
      obtain ⟨answer, told⟩ := Act.Blind.tell h.sink e _ _ agrees
      refine ⟨launches, _, [], follows.proceed rfl (.ready ?_ told reaches.tell)⟩
      rw [Control.rest, answer]
    | note r next => exact ⟨launches, _, [], follows.proceed rfl (.ready rfl (agrees.note r.action) reaches.note)⟩
    | merge d run next =>
      exact ⟨launches, _, [], follows.proceed rfl (.ready rfl (Act.Blind.merge d run _ _ agrees).2 reaches.merge)⟩
    | look next =>
      refine ⟨launches, w, [], follows.proceed rfl (.ready (p := next w.store) ?_ agrees reaches.look)⟩
      rw [Control.rest, agrees.store]
    | start args next =>
      -- Served alone, the worker is connected from the start; until it sends something, only noise tells.
      refine ⟨launches, _, [], follows.proceed rfl (.hosting rfl ?_ reaches.serve)⟩
      rw [h.heard_eq follows.going]
      exact ((agrees.note (.launched args)).symm.noise rfl).symm
    | close next =>
      refine ⟨launches, w, [], follows.proceed (still enabled (by simp) rfl) (.ready rfl agrees reaches.close)⟩
  | hosting next => exact ⟨launches, w, frames, follows⟩
  | exited code next =>
    cases follows.comes with
    | ready same => contradiction
    | hosting same agrees reaches =>
      exact ⟨launches, w, frames, follows.proceed (still enabled (by simp) rfl) (.hosting same agrees reaches)⟩
  | waiting code next =>
    cases follows.comes with
    | ready same => contradiction
    | hosting same agrees reaches =>
      obtain rfl := Sum.inr.inj same
      have comes : Comes h course initial ⟨server.next h.sink h.options .endWait, .ready (next code), owners,
          results ++ [(Launch.sending frames code).result]⟩ (launches ++ [.sending frames code])
          (h.heard frames w) [] := .ready rfl agrees (reaches frames code)
      exact ⟨_, _, [], follows.ended orderly comes rfl (h.reports_sending follows.going code)⟩
  | closing next =>
    obtain ⟨rfl, agrees, reaches⟩ := follows.ready rfl
    exact ⟨launches, w, [], follows.proceed rfl (.ready rfl agrees reaches)⟩

/-- One step. -/
theorem next {m : Step} (follows : s.Follows h course initial launches w frames) (orderly : s.Orderly h.options)
    (enabled : s.Enabled m) :
    ∃ launches w frames, (s.next h.sink h.options m).Follows h course initial launches w frames := by
  cases m with
  | advance => exact follows.advance orderly enabled
  | move m =>
    obtain ⟨frames, follows⟩ := follows.move orderly enabled.1 enabled.2
    exact ⟨launches, w, frames, follows⟩
  | fail reason =>
    obtain ⟨server, control, owners, results⟩ := s
    cases control with
    | ready p =>
      cases p with
      | start args next =>
        obtain ⟨rfl, agrees, reaches⟩ := follows.ready rfl
        have comes : Comes h course initial ⟨server.noted (.launched args), .ready (next (.error reason)), owners,
            results ++ [(Launch.failed reason).result]⟩ (launches ++ [.failed reason])
            ((Act.note (.launched args)).run w).2 [] := .ready rfl (agrees.note _) (reaches.fail reason)
        exact ⟨_, _, [], follows.ended orderly comes rfl rfl⟩
      | _ => contradiction
    | _ => contradiction
  | exit code =>
    obtain ⟨server, control, owners, results⟩ := s
    obtain ⟨hosting, -⟩ := enabled
    cases control with
    | hosting next =>
      cases follows.comes with
      | ready same => contradiction
      | hosting same agrees reaches =>
        exact ⟨launches, w, frames, follows.proceed rfl (.hosting same agrees reaches)⟩
    | _ => contradiction

/-- All steps. -/
theorem path {ms : List Step} (path : Path h.sink h.options s ms t) (orderly : s.Orderly h.options)
    (follows : s.Follows h course initial launches w frames) :
    ∃ launches w frames, t.Follows h course initial launches w frames := by
  induction path with
  | refl => exact ⟨launches, w, frames, follows⟩
  | tail before enabled ih =>
    obtain ⟨launches, w, frames, follows⟩ := ih
    exact follows.next (.path before orderly) enabled

end Follows

end Live

end Microbench
