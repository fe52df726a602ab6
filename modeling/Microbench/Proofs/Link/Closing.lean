import Microbench.Link.Closing
import Microbench.Proofs.Bracket
import Microbench.Proofs.Link.Barrier

/-!
A server that was closed is quiet. `Closing.Coherent` says what the parent has hold of: the accepting task until it
tells it to stop, and every handler until it has ended. Each step keeps this, and is a move of the server that the
server can make; so when the server is closed, no handler is left, and none will come.
-/

namespace Microbench.Link

variable {σ : Type} {sink : Sink σ} {options : Options}

def Move.Restages (j : Nat) (old new : Stage) : Move → Prop
  | .accept i => new = if i = j then .registered else old
  | .beginWait => new = if old = .registered then .awaited else old
  | .stopListening => new = old ∧ old ≠ .queued
  | _ => new = old

namespace Server

variable {s : Server σ} {m : Move}

theorem stage_of_next (enabled : s.Enabled m) {j : Nat} {d : Connection}
    (place : (s.next sink options m).connections[j]? = some d) (going : d.stage ≠ .ended) :
    (∃ c, s.connections[j]? = some c ∧ m.Restages j c.stage d.stage) ∨
      ((∃ frames, m = .connect frames) ∧ d.stage = .queued) := by
  have updated {i : Nat} {f : Connection → Connection}
      (place : (s.update i f).connections[j]? = some d)
      (same : ∀ c, (f c).stage = c.stage ∨ (f c).stage = .ended) :
      ∃ c, s.connections[j]? = some c ∧ d.stage = c.stage := by
    rw [getElem?_update] at place
    obtain ⟨c, old, rfl⟩ := Option.map_eq_some_iff.1 place
    refine ⟨c, old, ?_⟩
    split
    · rename_i here
      exact (same c).resolve_right (by rwa [if_pos here] at going)
    · rfl
  cases m with
  | connect frames =>
    have new : (s.connections ++ [({ unsent := frames } : Connection)])[j]? = some d := place
    rw [List.getElem?_append] at new
    split at new
    · exact .inl ⟨d, new, rfl⟩
    · exact .inr ⟨⟨frames, rfl⟩, by rw [List.mem_singleton.1 (List.mem_of_getElem? new)]⟩
  | accept i =>
    have new : (s.update i ({ · with stage := .registered })).connections[j]? = some d := place
    rw [getElem?_update] at new
    obtain ⟨c, old, rfl⟩ := Option.map_eq_some_iff.1 new
    refine .inl ⟨c, old, ?_⟩
    by_cases here : i = j <;> simp [Move.Restages, here]
  | act i =>
    obtain ⟨c, f, rest, e, w, here, -, -, became, -, acts⟩ := next_act sink options enabled
    rw [acts] at place
    by_cases same : i = j
    · subst same
      obtain rfl : e = d := Option.some.inj
        ((List.getElem?_set_self (List.getElem?_eq_some_iff.1 here).1).symm.trans place)
      refine .inl ⟨c, here, ?_⟩
      have stage := became.stage
      split at stage
      · exact absurd stage going
      · exact stage
    · exact .inl ⟨d, (List.getElem?_set_ne same).symm.trans place, rfl⟩
  | beginWait =>
    have new : (s.connections.map fun c =>
      if c.stage = .registered then { c with stage := .awaited } else c)[j]? = some d := place
    rw [List.getElem?_map] at new
    obtain ⟨c, old, rfl⟩ := Option.map_eq_some_iff.1 new
    refine .inl ⟨c, old, ?_⟩
    by_cases registered : c.stage = .registered <;> simp [Move.Restages, registered]
  | stopListening =>
    have new : (s.connections.map fun c =>
      if c.stage = .queued then { c with stage := .ended } else c)[j]? = some d := place
    rw [List.getElem?_map] at new
    obtain ⟨c, old, rfl⟩ := Option.map_eq_some_iff.1 new
    refine .inl ⟨c, old, ?_⟩
    by_cases queued : c.stage = .queued
    · simp [queued] at going
    · simp [Move.Restages, queued]
  | send | leave | lose | hangUp | abort =>
    refine .inl (updated place fun c => ?_)
    first | exact .inl rfl | exact .inr rfl
  | endWait | finishClosing | tell | merge => exact .inl ⟨d, place, rfl⟩

/-- A queued connection is there until it is accepted or the server no longer listens. -/
theorem queued_of_next (enabled : s.Enabled m) (listening : (s.next sink options m).listening = true)
    {i : Nat} (held : s.Has i fun c => c.stage = .queued) (other : ∀ j, m = .accept j → j ≠ i) :
    (s.next sink options m).Has i fun c => c.stage = .queued := by
  obtain ⟨c, place, queued⟩ := held
  obtain ⟨d, place', change⟩ := next_connection sink options enabled place
  have going : d.stage ≠ .ended := by
    cases change with
    | keep | send | leave => simp [queued]
    | accept | await => simp
    | act live | lose live | hangUp live => simp [queued, Stage.isLive] at live
    | drop closing => simp [listening] at closing
  refine ⟨d, place', ?_⟩
  rcases stage_of_next enabled place' going with ⟨c', old, same⟩ | ⟨-, new⟩
  · obtain rfl : c' = c := Option.some.inj (old.symm.trans place)
    cases m with
    | accept j => simpa [Move.Restages, other j rfl, queued] using same
    | beginWait => simpa [Move.Restages, queued] using same
    | stopListening => exact absurd queued same.2
    | _ => exact same.trans queued
  · exact new

end Server

theorem Phase.awaited_eq_nil {phase : Phase} (closing : phase.isOpen = false) : phase.awaited = [] := by
  cases phase with
  | waiting handlers => contradiction
  | _ => rfl

namespace Closing

variable {s t : Closing σ} {m : Step}

theorem phaseAfter_cases (answer : Except Failure Unit) :
    phaseAfter answer = .flushing ∨ phaseAfter answer = .done := by
  cases answer with
  | ok _ => exact .inl rfl
  | error _ => exact .inr rfl

@[simp]
theorem server_next : (s.next sink options m).server = s.serverNext sink options m := by
  cases m with
  | register | terminate | tellEnd =>
    unfold next
    dsimp only
    split <;> rfl
  | _ => rfl

def Keeps (s : Closing σ) (i : Nat) : Stage → Prop
  | .queued => s.phase.isOpen
  | .registered => i ∈ s.registry ∨ i ∈ s.phase.aborted
  | .awaited => i ∈ s.phase.awaited
  | .ended => True

theorem Keeps.mono {i : Nat} {stage : Stage} (kept : s.Keeps i stage)
    (opened : s.phase.isOpen = true → t.phase.isOpen = true)
    (registered : i ∈ s.registry ∨ i ∈ s.phase.aborted → i ∈ t.registry ∨ i ∈ t.phase.aborted)
    (awaited : i ∈ s.phase.awaited → i ∈ t.phase.awaited) : t.Keeps i stage := by
  cases stage with
  | queued => exact opened kept
  | registered => exact registered kept
  | awaited => exact awaited kept
  | ended => trivial

/-- The parent has hold of the accepting task until it tells it to stop, and of every handler until it has
ended. -/
structure Coherent (s : Closing σ) : Prop where
  listening : s.server.listening = s.phase.isOpen
  waiting : s.server.waiting = s.phase.isWaiting
  closed : s.phase.isOpen = true → s.server.closed = false
  shut : s.phase = .closed → s.server.closed = true
  attached : s.attached = true ↔ s.phase = .running ∨ s.phase.isWaiting
  ended : s.phase.isOpen = false → s.acceptor.hasEnded = true ∧ s.registry = []
  held : ∀ i, s.acceptor = .holding i → s.server.Has i fun c => c.stage = .queued
  kept : ∀ i c, s.server.connections[i]? = some c → s.Keeps i c.stage

def Restages (s : Closing σ) (m : Step) (j : Nat) (old new : Stage) : Prop :=
  match s.move? m with
  | some move => move.Restages j old new
  | none => new = old

def Enables (sink : Sink σ) (options : Options) (s : Closing σ) : List Step → Prop
  | [] => True
  | m :: ms => s.Enabled m ∧ (s.next sink options m).Enables sink options ms

theorem Path.append {u : Closing σ} {ms ms' : List Step} (first : Path sink options s ms t)
    (second : Path sink options t ms' u) : Path sink options s (ms ++ ms') u := by
  induction second with
  | refl => simpa using first
  | tail _ enabled ih =>
    rw [← List.append_assoc]
    exact ih.tail enabled

theorem Path.of_enables {ms : List Step} (enables : s.Enables sink options ms) :
    Path sink options s ms (ms.foldl (next sink options) s) := by
  induction ms generalizing s with
  | nil => exact .refl s
  | cons m ms ih => exact ((Path.refl s).tail enables.1).append (ih enables.2)

namespace Coherent

theorem start (initial : σ) : (start initial).Coherent where
  listening := rfl
  waiting := rfl
  closed _ := rfl
  shut := nofun
  attached := by simp [Closing.start]
  ended := nofun
  held := nofun
  kept _ _ place := by simp [Closing.start, Server.start] at place

/-- Where the port is open the parent has not yet looked for handlers to end. -/
theorem isOpen (coherent : s.Coherent) (going : s.acceptor.hasEnded ≠ true) : s.phase.isOpen = true := by
  cases opened : s.phase.isOpen with
  | true => rfl
  | false => exact absurd (coherent.ended opened).1 going

/-- When the handlers that the parent waits for have ended, none is left that it waits for. -/
theorem not_mem_of_haveEnded {handlers : List Nat} (ended : s.HaveEnded handlers) {i : Nat} {c : Connection}
    (place : s.server.connections[i]? = some c) (going : c.stage ≠ .ended) : i ∉ handlers :=
  fun mem => going ((ended i mem).apply place)

/-- When no handler can be registered any more, and those that the parent has aborted have ended, none is
left. -/
theorem haveEnded (coherent : s.Coherent) (closing : s.phase.isOpen = false)
    (joined : s.HaveEnded s.phase.aborted) {c : Connection} (mem : c ∈ s.server.connections) :
    c.stage = .ended := by
  obtain ⟨i, place⟩ := List.mem_iff_getElem?.1 mem
  have kept := coherent.kept i c place
  by_contra going
  have other := not_mem_of_haveEnded joined place going
  cases stage : c.stage with
  | queued => simp [stage, Keeps, closing] at kept
  | registered => simp [stage, Keeps, (coherent.ended closing).2, other] at kept
  | awaited =>
    rw [stage, Keeps, Phase.awaited_eq_nil closing] at kept
    contradiction
  | ended => exact going stage

/-- A step is a move that the server can make. -/
theorem enabled (coherent : s.Coherent) (enabled : s.Enabled m) {move : Move} (is : s.move? m = some move) :
    s.server.Enabled move := by
  cases m with
  | connect frames =>
    obtain rfl := Option.some.inj is
    exact coherent.listening.trans (coherent.isOpen enabled)
  | register =>
    obtain ⟨i, holding⟩ := enabled
    simp only [move?, holding] at is
    obtain rfl := Option.some.inj is
    have going : s.acceptor.hasEnded ≠ true := by simp [holding, Acceptor.hasEnded]
    exact ⟨coherent.listening.trans (coherent.isOpen going), coherent.held i holding⟩
  | send i | leave i | hangUp i =>
    obtain rfl := Option.some.inj is
    exact enabled
  | act i | lose i reason =>
    obtain rfl := Option.some.inj is
    exact enabled.1
  | abort i =>
    obtain rfl := Option.some.inj is
    obtain ⟨aborted, live⟩ := enabled
    refine ⟨?_, live⟩
    cases phase : s.phase with
    | joining handlers => simp [coherent.listening, phase, Phase.isOpen]
    | _ => simp [phase, Phase.aborted] at aborted
  | tell c | flush =>
    obtain rfl := Option.some.inj is
    trivial
  | tellEnd =>
    obtain ⟨results, phase⟩ := enabled
    simp only [move?, phase] at is
    obtain rfl := Option.some.inj is
    trivial
  | merge d run =>
    obtain rfl := Option.some.inj is
    have opened := coherent.closed (by rw [show s.phase = .running from enabled]; rfl)
    simp [Server.Enabled, opened]
  | beginWait =>
    obtain rfl := Option.some.inj is
    have running : s.phase = .running := enabled
    refine ⟨by simp [coherent.listening, running, Phase.isOpen], ?_⟩
    simp [coherent.waiting, running, Phase.isWaiting]
  | endWait =>
    obtain rfl := Option.some.inj is
    obtain ⟨handlers, waiting, ended⟩ := enabled
    refine ⟨by simp [coherent.waiting, waiting, Phase.isWaiting], fun c hc awaited => ?_⟩
    obtain ⟨i, place⟩ := List.mem_iff_getElem?.1 hc
    have kept := coherent.kept i c place
    rw [awaited, Keeps, waiting] at kept
    exact not_mem_of_haveEnded ended place (by simp [awaited]) kept
  | detach =>
    obtain rfl := Option.some.inj is
    refine ⟨by simp [coherent.listening, enabled.1, Phase.isOpen], ?_⟩
    simp [coherent.waiting, enabled.1, Phase.isWaiting]
  | finish =>
    obtain rfl := Option.some.inj is
    obtain ⟨handlers, joining, ended⟩ := enabled
    have closing : s.phase.isOpen = false := by rw [joining]; rfl
    refine ⟨by simp [coherent.listening, closing], fun c hc => ?_⟩
    exact coherent.haveEnded closing (by rw [joining]; exact ended) hc
  | takeUp | stop | fail | read | terminate | snapshot => contradiction

/-- The flags of the server behind a step. -/
theorem flags_serverNext (coherent : s.Coherent) (enabled : s.Enabled m) :
    (s.serverNext sink options m).listening = (match m with | .detach => false | _ => s.server.listening) ∧
    (s.serverNext sink options m).waiting =
      (match m with | .beginWait => true | .endWait => false | _ => s.server.waiting) ∧
    (s.serverNext sink options m).closed = (match m with | .finish => true | _ => s.server.closed) := by
  rw [serverNext]
  cases is : s.move? m with
  | none => cases m <;> first | exact ⟨rfl, rfl, rfl⟩ | contradiction
  | some move =>
    have moves := coherent.enabled enabled is
    cases m with
    | register =>
      obtain ⟨i, holding⟩ := enabled
      simp only [move?, holding] at is
      cases is
      exact Server.flags_of_next moves
    | tellEnd =>
      obtain ⟨results, phase⟩ := enabled
      simp only [move?, phase] at is
      cases is
      exact Server.flags_of_next moves
    | takeUp | stop | fail | read | terminate | snapshot => contradiction
    | _ =>
      cases is
      exact Server.flags_of_next moves

/-- A connection that goes on behind a step was there before it, unless the step has made it. -/
theorem stage_serverNext (coherent : s.Coherent) (enabled : s.Enabled m) {j : Nat} {d : Connection}
    (place : (s.serverNext sink options m).connections[j]? = some d) (going : d.stage ≠ .ended) :
    (∃ c, s.server.connections[j]? = some c ∧ s.Restages m j c.stage d.stage) ∨
      ((∃ frames, m = .connect frames) ∧ d.stage = .queued) := by
  rw [serverNext] at place
  cases is : s.move? m with
  | none =>
    rw [is] at place
    exact .inl ⟨d, place, by simp [Restages, is]⟩
  | some move =>
    rw [is] at place
    rcases Server.stage_of_next (coherent.enabled enabled is) place going with ⟨c, old, restages⟩ | ⟨made, queued⟩
    · exact .inl ⟨c, old, by simpa [Restages, is] using restages⟩
    · refine .inr ⟨?_, queued⟩
      obtain ⟨frames, rfl⟩ := made
      cases m with
      | connect frames => exact ⟨frames, rfl⟩
      | register =>
        obtain ⟨i, holding⟩ := enabled
        simp [move?, holding] at is
      | tellEnd =>
        obtain ⟨results, phase⟩ := enabled
        simp [move?, phase] at is
      | _ => simp [move?] at is

theorem keeps_next (coherent : s.Coherent) (enabled : s.Enabled m) {j : Nat} {d : Connection}
    (place : (s.serverNext sink options m).connections[j]? = some d) :
    (s.next sink options m).Keeps j d.stage := by
  by_cases going : d.stage = .ended
  · rw [going]
    trivial
  rcases (coherent.stage_serverNext enabled place going).symm with ⟨⟨frames, rfl⟩, queued⟩ | ⟨c, old, restages⟩
  · rw [queued]
    exact coherent.isOpen enabled
  have kept := coherent.kept j c old
  -- Behind the last wait no connection goes on, so the moves that are made there have nothing to keep.
  have settled (closing : s.phase.isOpen = false) (joined : s.HaveEnded s.phase.aborted) :
      d.stage ≠ c.stage := by
    rw [coherent.haveEnded closing joined (List.mem_of_getElem? old)]
    exact going
  cases m with
  | connect | send | leave | takeUp | stop | fail | read | act | lose | hangUp | abort | tell | merge =>
    have same : d.stage = c.stage := restages
    rw [same]
    exact kept
  | register =>
    obtain ⟨i, holding⟩ := enabled
    simp only [Restages, move?, holding, Move.Restages] at restages
    rw [restages]
    by_cases here : i = j
    · rw [if_pos here]
      simp [Keeps, next, holding, here]
    · rw [if_neg here]
      refine kept.mono ?_ ?_ ?_ <;> simp only [next, holding]
      · exact id
      · exact Or.imp_left (List.mem_cons_of_mem i)
      · exact id
  | beginWait =>
    have running : s.phase = .running := enabled
    have restages : d.stage = if c.stage = .registered then .awaited else c.stage := restages
    rw [restages]
    cases stage : c.stage with
    | queued => rfl
    | registered =>
      rw [stage, Keeps, running] at kept
      exact kept.resolve_right nofun
    | awaited => simp [stage, Keeps, running, Phase.awaited] at kept
    | ended => trivial
  | endWait =>
    obtain ⟨handlers, waiting, ended⟩ := enabled
    have same : d.stage = c.stage := restages
    rw [same]
    have other := not_mem_of_haveEnded ended old (same ▸ going)
    refine kept.mono (fun _ => rfl) ?_ ?_ <;> rw [waiting]
    · exact Or.imp_right id
    · exact fun awaited => absurd awaited other
  | terminate =>
    rcases enabled with running | closed
    · have attached := coherent.attached.2 (.inl running)
      have same : d.stage = c.stage := restages
      rw [same]
      refine kept.mono ?_ ?_ ?_ <;> simp [next, attached, running, Phase.isOpen, Phase.aborted, Phase.awaited]
    · exact absurd restages (settled (by rw [closed]; rfl) (by rw [closed]; nofun))
  | detach =>
    obtain ⟨stopping, -⟩ := enabled
    obtain ⟨same, other⟩ : d.stage = c.stage ∧ c.stage ≠ .queued := restages
    rw [same]
    cases stage : c.stage with
    | queued => exact absurd stage other
    | registered =>
      rw [stage, Keeps, stopping] at kept
      exact .inr (kept.resolve_right nofun)
    | awaited => simp [stage, Keeps, stopping, Phase.awaited] at kept
    | ended => trivial
  | finish =>
    obtain ⟨handlers, joining, ended⟩ := enabled
    exact absurd restages (settled (by rw [joining]; rfl) (by rw [joining]; exact ended))
  | snapshot =>
    have closed : s.phase = .closed := enabled
    exact absurd restages (settled (by rw [closed]; rfl) (by rw [closed]; nofun))
  | tellEnd =>
    obtain ⟨results, concluding⟩ := enabled
    simp only [Restages, move?, concluding] at restages
    exact absurd restages (settled (by rw [concluding]; rfl) (by rw [concluding]; nofun))
  | flush =>
    have flushing : s.phase = .flushing := enabled
    exact absurd restages (settled (by rw [flushing]; rfl) (by rw [flushing]; nofun))

/-- The accepting task holds a connection until it registers the handler of it. -/
theorem queued_serverNext (coherent : s.Coherent) (enabled : s.Enabled m) (going : s.acceptor.hasEnded ≠ true)
    (other : m ≠ .register) {i : Nat} (held : s.server.Has i fun c => c.stage = .queued) :
    (s.serverNext sink options m).Has i fun c => c.stage = .queued := by
  have listening : (s.serverNext sink options m).listening = _ := (coherent.flags_serverNext enabled).1
  rw [serverNext] at listening ⊢
  cases is : s.move? m with
  | none => exact held
  | some move =>
    rw [is] at listening
    refine Server.queued_of_next (coherent.enabled enabled is) (listening.trans ?_) held fun j accepts => ?_
    · cases m with
      | detach => exact absurd enabled.2 going
      | _ => exact coherent.listening.trans (coherent.isOpen going)
    · subst accepts
      cases m with
      | register => exact absurd rfl other
      | tellEnd =>
        obtain ⟨results, concluding⟩ := enabled
        simp [move?, concluding] at is
      | _ => simp [move?] at is

theorem held_next (coherent : s.Coherent) (enabled : s.Enabled m) {i : Nat}
    (holding : (s.next sink options m).acceptor = .holding i) :
    (s.serverNext sink options m).Has i fun c => c.stage = .queued := by
  have unmoved (same : s.acceptor = .holding i) (other : m ≠ .register) :
      (s.serverNext sink options m).Has i fun c => c.stage = .queued := by
    have going : s.acceptor.hasEnded ≠ true := by simp [same, Acceptor.hasEnded]
    exact coherent.queued_serverNext enabled going other (coherent.held i same)
  cases m with
  | takeUp j =>
    obtain rfl : j = i := Acceptor.holding.inj holding
    exact enabled.2
  | register =>
    obtain ⟨j, held⟩ := enabled
    simp [Closing.next, held] at holding
  | stop | fail => contradiction
  | terminate =>
    refine unmoved ?_ nofun
    unfold Closing.next at holding
    dsimp only at holding
    split at holding <;> exact holding
  | tellEnd =>
    obtain ⟨results, concluding⟩ := enabled
    simp only [Closing.next, concluding] at holding
    exact unmoved holding nofun
  | _ => exact unmoved holding nofun

theorem next (coherent : s.Coherent) (enabled : s.Enabled m) : (s.next sink options m).Coherent := by
  have kept (j : Nat) (d : Connection) (place : (s.serverNext sink options m).connections[j]? = some d) :=
    coherent.keeps_next enabled place
  have held (i : Nat) (holding : (s.next sink options m).acceptor = .holding i) :=
    coherent.held_next enabled holding
  have flags : (s.serverNext sink options m).listening = _ ∧ (s.serverNext sink options m).waiting = _ ∧
      (s.serverNext sink options m).closed = _ := coherent.flags_serverNext enabled
  obtain ⟨listening, waiting, closed⟩ := flags
  cases m with
  | connect | send | leave | read | act | lose | hangUp | abort | tell | merge =>
    exact ⟨listening.trans coherent.listening, waiting.trans coherent.waiting,
      fun opened => closed.trans (coherent.closed opened), fun shut => closed.trans (coherent.shut shut),
      coherent.attached, coherent.ended, held, kept⟩
  | takeUp i =>
    have opened := coherent.isOpen (by simp [enabled.1, Acceptor.hasEnded])
    exact ⟨coherent.listening, coherent.waiting, coherent.closed, coherent.shut, coherent.attached,
      fun closing => absurd (opened.symm.trans closing) nofun, held, kept⟩
  | stop | fail =>
    exact ⟨coherent.listening, coherent.waiting, coherent.closed, coherent.shut, coherent.attached,
      fun closing => ⟨rfl, (coherent.ended closing).2⟩, held, kept⟩
  | register =>
    obtain ⟨i, holding⟩ := enabled
    have opened := coherent.isOpen (by simp [holding, Acceptor.hasEnded])
    have same : (s.next sink options .register).phase = s.phase := by simp only [Closing.next, holding]
    refine ⟨?_, ?_, ?_, ?_, ?_, fun closing => ?_, ?_, ?_⟩
    · rw [server_next, listening, coherent.listening, same]
    · rw [server_next, waiting, coherent.waiting, same]
    · rw [server_next, closed, same]
      exact coherent.closed
    · rw [server_next, closed, same]
      exact coherent.shut
    · simpa only [Closing.next, holding] using coherent.attached
    · rw [same, opened] at closing
      contradiction
    · simpa using held
    · simpa using kept
  | beginWait =>
    have running : s.phase = .running := enabled
    refine ⟨?_, waiting, fun _ => ?_, nofun, ⟨fun _ => .inr rfl, fun _ => ?_⟩, nofun, held, kept⟩
    · exact listening.trans (coherent.listening.trans (by rw [running]; rfl))
    · exact closed.trans (coherent.closed (by rw [running]; rfl))
    · exact coherent.attached.2 (.inl running)
  | endWait =>
    obtain ⟨handlers, awaiting, ended⟩ := enabled
    refine ⟨?_, waiting, fun _ => ?_, nofun, ⟨fun _ => .inl rfl, fun _ => ?_⟩, nofun, held, kept⟩
    · exact listening.trans (coherent.listening.trans (by rw [awaiting]; rfl))
    · exact closed.trans (coherent.closed (by rw [awaiting]; rfl))
    · exact coherent.attached.2 (.inr (by rw [awaiting]; rfl))
  | terminate =>
    rcases enabled with running | shut
    · have attached := coherent.attached.2 (.inl running)
      simp only [Closing.next, attached, if_true] at held kept ⊢
      refine ⟨?_, ?_, fun _ => ?_, nofun, by simp [Phase.isWaiting], nofun, held, kept⟩
      · exact listening.trans (coherent.listening.trans (by rw [running]; rfl))
      · exact waiting.trans (coherent.waiting.trans (by rw [running]; rfl))
      · exact closed.trans (coherent.closed (by rw [running]; rfl))
    · have detached : s.attached = false := by
        simpa [shut, Phase.isWaiting] using coherent.attached
      have closing : s.phase.isOpen = false := by rw [shut]; rfl
      simp only [Closing.next, detached, Bool.false_eq_true, if_false] at held kept ⊢
      refine ⟨?_, ?_, nofun, nofun, by simp [Phase.isWaiting], fun _ => ?_, held, kept⟩
      · exact listening.trans (coherent.listening.trans closing)
      · exact waiting.trans (coherent.waiting.trans (by rw [shut]; rfl))
      · exact ⟨(coherent.ended closing).1, rfl⟩
  | detach =>
    obtain ⟨stopping, ended⟩ := enabled
    refine ⟨listening, ?_, nofun, nofun, ?_, fun _ => ⟨ended, rfl⟩, held, kept⟩
    · exact waiting.trans (coherent.waiting.trans (by rw [stopping]; rfl))
    · simpa [Closing.next, stopping, Phase.isWaiting] using coherent.attached
  | finish =>
    obtain ⟨handlers, joining, ended⟩ := enabled
    have closing : s.phase.isOpen = false := by rw [joining]; rfl
    refine ⟨?_, ?_, nofun, fun _ => closed, ?_, fun _ => coherent.ended closing, held, kept⟩
    · exact listening.trans (coherent.listening.trans closing)
    · exact waiting.trans (coherent.waiting.trans (by rw [joining]; rfl))
    · simpa [Closing.next, joining, Phase.isWaiting] using coherent.attached
  | snapshot =>
    have shut : s.phase = .closed := enabled
    have closing : s.phase.isOpen = false := by rw [shut]; rfl
    refine ⟨?_, ?_, nofun, nofun, ?_, fun _ => coherent.ended closing, held, kept⟩
    · exact listening.trans (coherent.listening.trans closing)
    · exact waiting.trans (coherent.waiting.trans (by rw [shut]; rfl))
    · simpa [Closing.next, shut, Phase.isWaiting] using coherent.attached
  | tellEnd =>
    obtain ⟨results, concluding⟩ := enabled
    have closing : s.phase.isOpen = false := by rw [concluding]; rfl
    have unwaiting := coherent.waiting.trans (by rw [concluding]; rfl : s.phase.isWaiting = false)
    have detached : s.attached = false := by simpa [concluding, Phase.isWaiting] using coherent.attached
    simp only [Closing.next, concluding] at held kept ⊢
    rcases phaseAfter_cases ((Act.tell sink (.runEnd results)).run s.server.world).1 with after | after
    all_goals
      rw [after] at kept ⊢
      refine ⟨?_, waiting.trans unwaiting, nofun, nofun, ?_, fun _ => coherent.ended closing, held, kept⟩
      · exact listening.trans (coherent.listening.trans closing)
      · simp [detached, Phase.isWaiting]
  | flush =>
    have flushing : s.phase = .flushing := enabled
    have closing : s.phase.isOpen = false := by rw [flushing]; rfl
    refine ⟨?_, ?_, nofun, nofun, ?_, fun _ => coherent.ended closing, held, kept⟩
    · exact listening.trans (coherent.listening.trans closing)
    · exact waiting.trans (coherent.waiting.trans (by rw [flushing]; rfl))
    · simpa [Closing.next, flushing, Phase.isWaiting] using coherent.attached

theorem path {ms : List Step} (path : Path sink options s ms t) (coherent : s.Coherent) : t.Coherent := by
  induction path with
  | refl => exact coherent
  | tail _ enabled ih => exact ih.next enabled

end Coherent

/-- Whatever steps are taken until the server is closed, the server makes moves of its own. -/
theorem Path.server {ms : List Step} (path : Path sink options s ms t) (coherent : s.Coherent) :
    ∃ moves, Server.Path sink options s.server moves t.server := by
  induction path with
  | refl => exact ⟨[], .refl _⟩
  | @tail t _ m before enabled ih =>
    obtain ⟨moves, path⟩ := ih
    rw [server_next, serverNext]
    cases is : t.move? m with
    | none => exact ⟨moves, path⟩
    | some move => exact ⟨_, path.tail ((coherent.path before).enabled enabled is)⟩

/-- How far the end of the run is told to the sink, where the server was closed in the world `w`. -/
inductive Concluded (sink : Sink σ) (w : World σ) : Phase → World σ → Prop where
  | closed : Concluded sink w .closed w
  | joining : Concluded sink w (.joining []) w
  | concluding : Concluded sink w (.concluding w.store) w
  | flushing {w' : World σ} (told : (Act.tell sink (.runEnd w.store)).run w = (.ok (), w')) :
      Concluded sink w .flushing w'
  | refused {w' : World σ} {f : Failure} (told : (Act.tell sink (.runEnd w.store)).run w = (.error f, w')) :
      Concluded sink w .done w'
  | done {w' : World σ} (told : (Act.tell sink (.runEnd w.store)).run w = (.ok (), w')) :
      Concluded sink w .done ((Act.tell sink (.call .flush)).run w').2

namespace Concluded

variable {w : World σ}

theorem closing {phase : Phase} {w' : World σ} (concluded : Concluded sink w phase w') :
    phase.isOpen = false ∧ phase.aborted = [] := by
  cases concluded <;> exact ⟨rfl, rfl⟩

/-- What the sink is told behind the end of the server. -/
theorem grown {phase : Phase} {w' : World σ} (concluded : Concluded sink w phase w') :
    ∃ told, w.Grown sink told [] w' ∧ told <+: [.runEnd w'.store, .call .flush] := by
  have ends := World.Grown.tell sink (.runEnd w.store) w
  cases concluded with
  | closed | joining | concluding => exact ⟨[], .refl sink w, List.nil_prefix⟩
  | flushing told | refused told =>
    rw [told] at ends
    have same : w'.store = w.store := ends.store
    refine ⟨_, ends, ?_⟩
    rw [same]
    exact ⟨[.call .flush], rfl⟩
  | @done w₁ told =>
    rw [told] at ends
    have all := ends.trans (.tell sink (.call .flush) w₁)
    have same : ((Act.tell sink (.call .flush)).run w₁).2.store = w.store := all.store
    refine ⟨_, all, ?_⟩
    rw [same]
    exact List.prefix_rfl

/-- Behind the end of the server, only the clients and the parent take steps. -/
theorem party (coherent : s.Coherent) (concluded : Concluded sink w s.phase s.server.world)
    (enabled : s.Enabled m) : m.party = .client ∨ m.party = .parent := by
  obtain ⟨closing, joined⟩ := concluded.closing
  have ended := (coherent.ended closing).1
  have dead {i : Nat} : ¬ s.server.Has i fun c => c.stage.isLive := by
    rintro ⟨c, place, live⟩
    rw [coherent.haveEnded closing (by rw [joined]; nofun) (List.mem_of_getElem? place)] at live
    contradiction
  cases m with
  | takeUp i => simp [enabled.1, Acceptor.hasEnded] at ended
  | stop => simp [enabled.1, Acceptor.hasEnded] at ended
  | fail reason => simp [show s.acceptor = .listening from enabled, Acceptor.hasEnded] at ended
  | register =>
    obtain ⟨i, holding⟩ := enabled
    simp [holding, Acceptor.hasEnded] at ended
  | read i | act i | lose i reason =>
    obtain ⟨⟨c, place, live, -⟩, -⟩ := enabled
    exact absurd ⟨c, place, live⟩ dead
  | hangUp i =>
    obtain ⟨c, place, live, -⟩ := enabled
    exact absurd ⟨c, place, live⟩ dead
  | abort i => exact absurd enabled.2 dead
  | connect | send | leave => exact .inl rfl
  | _ => exact .inr rfl

theorem next (coherent : s.Coherent) (concluded : Concluded sink w s.phase s.server.world)
    (enabled : s.Enabled m) :
    Concluded sink w (s.next sink options m).phase (s.next sink options m).server.world := by
  have party := concluded.party coherent enabled
  cases m with
  | takeUp | register | stop | fail | read | act | lose | hangUp | abort => simp [Step.party] at party
  | connect | send | leave => exact concluded
  | tell | merge | beginWait =>
    have running : s.phase = .running := enabled
    rw [running] at concluded
    contradiction
  | endWait =>
    obtain ⟨handlers, waiting, -⟩ := enabled
    rw [waiting] at concluded
    contradiction
  | terminate =>
    rcases enabled with running | closed
    · rw [running] at concluded
      contradiction
    · have detached : s.attached = false := by
        simpa [closed, Phase.isWaiting] using coherent.attached
      have nothing : s.registry = [] := (coherent.ended (by rw [closed]; rfl)).2
      rw [closed] at concluded
      simp only [Closing.next, detached, nothing, Bool.false_eq_true, if_false]
      generalize world : s.server.world = w' at concluded
      obtain rfl : w' = w := by cases concluded; rfl
      rw [serverNext, move?, world]
      exact .joining
  | detach =>
    rw [enabled.1] at concluded
    contradiction
  | finish =>
    obtain ⟨handlers, joining, -⟩ := enabled
    rw [joining] at concluded
    change Concluded sink w .closed s.server.world
    generalize s.server.world = w' at concluded
    cases concluded
    exact .closed
  | snapshot =>
    rw [show s.phase = .closed from enabled] at concluded
    change Concluded sink w (.concluding s.server.world.store) s.server.world
    generalize s.server.world = w' at concluded
    cases concluded
    exact .concluding
  | tellEnd =>
    obtain ⟨results, concluding⟩ := enabled
    rw [concluding] at concluded
    simp only [Closing.next, serverNext, move?, concluding, Server.next]
    generalize s.server.world = w' at concluded
    cases concluded
    rcases told : (Act.tell sink (.runEnd w.store)).run w with ⟨answer, w'⟩
    cases answer with
    | ok _ => exact .flushing told
    | error f => exact .refused told
  | flush =>
    rw [show s.phase = .flushing from enabled] at concluded
    change Concluded sink w .done ((Act.tell sink (.call .flush)).run s.server.world).2
    generalize s.server.world = w' at concluded
    cases concluded with
    | flushing told => exact .done told

/-- What the end of a run makes of the world in which the server was closed. -/
theorem conclude (h : Harness σ) {w' : World σ} (concluded : Concluded h.sink w .done w')
    (planned : Except Failure Unit) :
    (∃ f, (h.conclude planned).run w = (.error f, w')) ∨
      (h.conclude planned).run w = (h.release planned w'.store).run w' := by
  rw [Harness.conclude, Act.run_get_bind]
  cases concluded with
  | refused told =>
    rw [Act.run_bind_error told]
    exact .inl ⟨_, rfl⟩
  | @done w₁ told =>
    rw [Act.run_bind_ok told]
    obtain ⟨_, grown, -⟩ := (Concluded.done told).grown
    have same : ((Act.tell h.sink (.call .flush)).run w₁).2.store = w.store := grown.store
    rcases flushed : (Act.tell h.sink (.call .flush)).run w₁ with ⟨answer, w₂⟩
    cases answer with
    | error f =>
      rw [Act.run_bind_error flushed]
      exact .inl ⟨f, rfl⟩
    | ok _ =>
      rw [flushed] at same
      rw [Act.run_bind_ok flushed, same]
      exact .inr rfl

/-- From the end of the server on, the run is only concluded. -/
theorem path {ms : List Step} (coherent : s.Coherent) (closed : s.phase = .closed)
    (path : Path sink options s ms t) :
    Concluded sink s.server.world t.phase t.server.world ∧
      ∀ m ∈ ms, m.party = .client ∨ m.party = .parent := by
  induction path with
  | refl =>
    rw [closed]
    exact ⟨.closed, by simp⟩
  | @tail t ms m before enabled ih =>
    obtain ⟨concluded, others⟩ := ih
    have coherent := coherent.path before
    refine ⟨concluded.next coherent enabled, fun m' mem => ?_⟩
    rcases List.mem_append.1 mem with mem | mem
    · exact others m' mem
    · rw [List.mem_singleton.1 mem]
      exact concluded.party coherent enabled

end Concluded

/-- A closed server that is closed again is as it was. -/
theorem Coherent.terminate_finish (coherent : s.Coherent) (closed : s.phase = .closed) :
    s.Enabled .terminate ∧ (s.next sink options .terminate).Enabled .finish ∧
      (s.next sink options .terminate).next sink options .finish = s := by
  have detached : s.attached = false := by
    simpa [closed, Phase.isWaiting] using coherent.attached
  have nothing : s.registry = [] := (coherent.ended (by rw [closed]; rfl)).2
  have shut := coherent.shut closed
  obtain ⟨⟨world, connections, listening, waiting, isClosed⟩, acceptor, attached, registry, reading, phase⟩ := s
  subst detached nothing shut closed
  exact ⟨.inr rfl, ⟨[], rfl, nofun⟩, rfl⟩

/-- Once the server is closed, whatever order led to it, every handler has ended, and what still happens is
done by clients or by the parent. Nothing is merged any more, and the sink is told of the end of the run, with
what the store holds then and from there on, and is flushed. To close the server again changes nothing. -/
theorem quiet_of_closed (h : Harness σ) (initial : σ) {before after : List Step} {s t : Closing σ}
    (reached : Path h.sink h.options (start initial) before s) (closed : s.phase = .closed)
    (since : Path h.sink h.options s after t) :
    (∀ c ∈ t.server.connections, c.stage = .ended) ∧
    (∀ m ∈ after, m.party = .client ∨ m.party = .parent) ∧
    (∃ told, s.server.world.Grown h.sink told [] t.server.world ∧
      told <+: [.runEnd t.server.world.store, .call .flush]) ∧
    (t.phase = .done → ∀ planned,
      (∃ f, (h.conclude planned).run s.server.world = (.error f, t.server.world)) ∨
        (h.conclude planned).run s.server.world =
          (h.release planned t.server.world.store).run t.server.world) ∧
    (t.phase = .closed → t.Enabled .terminate ∧ (t.next h.sink h.options .terminate).Enabled .finish ∧
      (t.next h.sink h.options .terminate).next h.sink h.options .finish = t) := by
  have coherent : s.Coherent := .path reached (.start initial)
  have coherent' : t.Coherent := .path since coherent
  obtain ⟨concluded, parties⟩ := Concluded.path coherent closed since
  obtain ⟨closing, joined⟩ := concluded.closing
  refine ⟨fun c mem => ?_, parties, concluded.grown, fun done planned => ?_, coherent'.terminate_finish⟩
  · exact coherent'.haveEnded closing (by rw [joined]; nofun) mem
  · rw [done] at concluded
    exact concluded.conclude h planned

/-- The handler of connection 0 has read a report when the server is about to be closed. It acts on it when it
was already aborted, and ends with another report read and not acted on. Connection 1 is taken up before the
server is closed, and gets its handler when it is being closed. -/
theorem quiet_of_closed_of_late :
    let h : Harness (Array Event) := { Harness.stopping with options := {} }
    let d : Descriptor := ⟨"parse", .sampleTime, 1⟩
    let a := Run.sampled 7 ⟨0x3ff0000000000000⟩
    let b := Run.sampled 8 ⟨0x7ff8000000000001⟩
    let before : List Step := [.connect [.report d a, .report d b], .takeUp 0, .register, .send 0,
      .connect [.report d b], .takeUp 1, .terminate, .read 0, .send 1, .register, .stop, .detach, .act 0,
      .send 0, .read 0, .abort 0, .abort 1, .finish]
    let after : List Step := [.terminate, .leave 1, .finish, .snapshot, .tellEnd, .flush]
    let s := before.foldl (next h.sink h.options) (start #[])
    let t := after.foldl (next h.sink h.options) s
    Path h.sink h.options (start #[]) before s ∧ s.phase = .closed ∧ Path h.sink h.options s after t ∧
      (∀ c ∈ t.server.connections, c.stage = .ended) ∧ s.server.world.merged = [(d, a)] ∧
      ∃ told, told.length = 2 ∧ s.server.world.Grown h.sink told [] t.server.world ∧
        told <+: [.runEnd t.server.world.store, .call .flush] := by
  intro h d a b before after s t
  have early : (start #[]).Enables h.sink h.options before := by
    refine ⟨Bool.false_ne_true, ⟨rfl, _, rfl, rfl⟩, ⟨0, rfl⟩, ⟨_, rfl, Bool.false_ne_true, _, rfl, rfl⟩,
      Bool.false_ne_true, ⟨rfl, _, rfl, rfl⟩, .inl rfl, ⟨⟨_, rfl, rfl, List.cons_ne_nil _ _⟩, List.not_mem_nil⟩,
      ⟨_, rfl, Bool.false_ne_true, _, rfl, rfl⟩, ⟨1, rfl⟩, ⟨rfl, Bool.false_ne_true⟩, ⟨rfl, rfl⟩,
      ⟨⟨_, rfl, rfl, List.cons_ne_nil _ _⟩, .head _⟩, ⟨_, rfl, Bool.false_ne_true, _, rfl, rfl⟩,
      ⟨⟨_, rfl, rfl, List.cons_ne_nil _ _⟩, List.not_mem_nil⟩, ⟨.tail _ (.head _), _, rfl, rfl⟩,
      ⟨.head _, _, rfl, rfl⟩, ⟨[1, 0], rfl, ?_⟩, trivial⟩
    intro i mem
    rcases List.mem_cons.1 mem with rfl | mem
    · exact ⟨_, rfl, rfl⟩
    · rw [List.mem_singleton.1 mem]
      exact ⟨_, rfl, rfl⟩
  have late : s.Enables h.sink h.options after :=
    ⟨.inr rfl, ⟨_, rfl, Bool.false_ne_true⟩, ⟨[], rfl, by simp [HaveEnded]⟩, rfl, ⟨_, rfl⟩, rfl, trivial⟩
  have reached : Path h.sink h.options (start #[]) before s := .of_enables early
  have since : Path h.sink h.options s after t := .of_enables late
  obtain ⟨ended, -, ⟨told, grown, conclusion⟩, -⟩ := quiet_of_closed h #[] reached rfl since
  have length : (s.server.world.told ++ told).length = 2 := by
    rw [← grown.told]
    rfl
  refine ⟨reached, rfl, since, ended, rfl, told, ?_, grown, conclusion⟩
  have untold : s.server.world.told = [] := rfl
  simpa [untold] using length

end Closing

end Microbench.Link
