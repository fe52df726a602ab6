import Microbench.Proofs.Live.Steps

/-!
What is left of a worker when the parent goes on. It is gone, and its handler has ended, unless it was gone
before its request for the options was answered; so of a worker that has waited for its options everything
was acted on (`Live.settled_of_ready`).
-/

namespace Microbench

open Link

variable {σ α : Type} {sink : Sink σ} {options : Options}

namespace Link

namespace Connection

/-- Nothing of what was sent will be acted on any more, or it is nothing but a request for the options. -/
def Handled (c : Connection) : Prop := c.stage = .ended ∨ c.sent = [] ∨ c.sent = [.optionsRequest]

/-- The worker is gone, and if its request for the options was answered, all that it has sent was acted on. -/
structure Settled (c : Connection) : Prop where
  gone : c.gone = true
  handled : c.Handled
  emptied : c.OfWorker → c.answered = true → c.inbox = []

/-- All that was sent fits frames, and before the request for the options is answered, nothing else was sent. -/
structure Patient (c : Connection) : Prop where
  fits : ∀ f ∈ c.sent, f.Fits
  waits : c.answered = false → c.sent = [] ∨ c.sent = [.optionsRequest]

variable {c d : Connection} {f : Frame} {rest : List Frame}

/-- If its handler goes on, only the request can be left to act on. -/
theorem Handled.eq_of_pending (handled : c.Handled) (live : c.stage.isLive) (pending : c.inbox = f :: rest) :
    f = .optionsRequest ∧ rest = [] := by
  rcases handled with ended | nothing | request
  · simp [ended, Stage.isLive] at live
  · simp [sent, pending] at nothing
  · rw [sent, pending] at request
    cases acted : c.acted <;> simp_all

theorem Handled.becomes (handled : c.Handled) (becomes : c.Becomes d) (gone : c.gone = true) : d.Handled := by
  rw [Handled, (becomes.gone gone).2]
  exact handled.imp_left fun ended => (becomes.ended ended).1

theorem Settled.change (settled : c.Settled) {listening waiting : Bool}
    (change : c.Change options listening waiting d) : d.Settled := by
  have becomes := change.becomes
  refine ⟨(becomes.gone settled.gone).1, settled.handled.becomes becomes settled.gone, fun worker answered => ?_⟩
  have before : c.OfWorker := by
    obtain ⟨work, last, frames, sends⟩ := worker
    exact ⟨work, last, becomes.frames.symm.trans frames, sends⟩
  have empty := settled.emptied before
  cases change with
  | keep | leave | accept | hangUp | await | drop => exact empty answered
  | send present => simp [settled.gone] at present
  | act live pending became => rw [became.inbox, (settled.handled.eq_of_pending live pending).2]
  | lose live pending => exact (settled.handled.eq_of_pending live pending).2

/-- When its handler has ended, all was acted on that a worker has sent that was answered. -/
theorem Handled.inbox_eq_nil (handled : c.Handled) (tracked : c.Tracked options) (worker : c.OfWorker)
    (answered : c.answered = true) : c.inbox = [] := by
  have asked := (tracked.answered answered).2.2
  rcases handled with ended | nothing | request
  · exact worker.inbox_eq_nil tracked answered ended
  · exact (List.append_eq_nil_iff.1 nothing).2
  · -- The request is all that was sent, and it was acted on.
    obtain ⟨first, last, acted⟩ := List.append_of_mem asked
    have one := congrArg List.length request
    simp only [sent, acted, List.length_append, List.length_cons, List.length_nil] at one
    exact List.length_eq_zero_iff.1 (by omega)

end Connection

namespace Server

variable {s : Server σ} {m : Move} {j : Nat} {c d : Connection}

/-- Only to send something takes it from what is to be sent. -/
theorem unsent_of_next (enabled : s.Enabled m) (other : m ≠ .send j) (place : s.connections[j]? = some c)
    (place' : (s.next sink options m).connections[j]? = some d) : d.unsent = c.unsent := by
  have updated {i : Nat} {f : Connection → Connection} (place' : (s.update i f).connections[j]? = some d)
      (same : i = j → (f c).unsent = c.unsent) : d.unsent = c.unsent := by
    rw [getElem?_update, place, Option.map_some] at place'
    obtain rfl := Option.some.inj place'
    split
    · exact same ‹_›
    · rfl
  have mapped {f : Connection → Connection} (place' : (s.connections.map f)[j]? = some d)
      (same : (f c).unsent = c.unsent) : d.unsent = c.unsent := by
    rw [List.getElem?_map, place, Option.map_some] at place'
    obtain rfl := Option.some.inj place'
    exact same
  cases m with
  | connect frames =>
    have inside := (List.getElem?_eq_some_iff.1 place).1
    have new : (s.connections ++ [({ unsent := frames } : Connection)])[j]? = some d := place'
    rw [List.getElem?_append_left inside, place] at new
    rw [Option.some.inj new]
  | send i => exact updated place' fun here => absurd (here ▸ rfl) other
  | leave | accept | lose | hangUp | abort => exact updated place' fun _ => rfl
  | act i =>
    obtain ⟨e, f, rest, e', w, here, -, -, became, -, acts⟩ := next_act sink options enabled
    rw [acts] at place'
    by_cases same : i = j
    · subst same
      obtain rfl : e = c := Option.some.inj (here.symm.trans place)
      obtain rfl : e' = d := Option.some.inj
        ((List.getElem?_set_self (List.getElem?_eq_some_iff.1 here).1).symm.trans place')
      exact became.unsent
    · rw [List.getElem?_set_ne same, place] at place'
      rw [Option.some.inj place']
  | beginWait | stopListening =>
    refine mapped place' ?_
    split <;> rfl
  | endWait | finishClosing | tell | merge => rw [Option.some.inj (place.symm.trans place')]

/-- Only a client that sends adds to what was sent. -/
theorem sent_of_next (enabled : s.Enabled m) (place : s.connections[j]? = some c)
    (place' : (s.next sink options m).connections[j]? = some d) : d.sent = c.sent ∨
      m = .send j ∧ ∃ f, c.unsent.head? = some f ∧ f.Fits ∧ d.sent = c.sent ++ [f] := by
  obtain ⟨d', after, change⟩ := next_connection sink options enabled place
  obtain rfl : d' = d := Option.some.inj (after.symm.trans place')
  cases change with
  | keep | leave | accept | hangUp | await | drop => exact .inl rfl
  | act live pending became => exact .inl (became.sent pending)
  | lose live pending gone => exact .inl (by simp [Connection.sent, pending])
  | @send f rest present pending =>
    by_cases sends : m = .send j
    · subst sends
      obtain ⟨-, f', first, fits⟩ := enabled.apply place
      obtain rfl : f' = f := by simpa [pending] using first.symm
      refine .inr ⟨rfl, f', first, ?_, by simp [Connection.sent]⟩
      rw [Frame.encode_eq] at fits
      by_contra unfit
      simp [unfit, Except.isOk, Except.toBool] at fits
    · have same : rest = c.unsent := unsent_of_next enabled sends place place'
      simp [pending] at same

/-- A handler whose worker was answered is waited for from now on, or has ended. -/
theorem awaited_or_handled (tracked : (s.next sink options .beginWait).Tracked options) (patient : d.Patient)
    (mem : d ∈ (s.next sink options .beginWait).connections) : d.stage = .awaited ∨ d.Handled := by
  cases answered : d.answered with
  | false => exact .inr (.inr (patient.waits answered))
  | true =>
    have served := ((tracked.connections (tracked.listens rfl) d mem).answered answered).1
    obtain ⟨c, -, rfl⟩ := List.mem_map.1 mem
    by_cases registered : c.stage = .registered
    · exact .inl (by rw [if_pos registered])
    · rw [if_neg registered] at served ⊢
      cases stage : c.stage with
      | queued => exact absurd stage served
      | registered => exact absurd stage registered
      | awaited => exact .inl rfl
      | ended => exact .inr (.inl stage)

end Server

end Link

namespace Control

/-- What is known of a connection of the worker that was started last, by where the parent is. -/
def Holds (c : Connection) : Control α → Prop
  | ready _ | closing _ => False
  | hosting _ => True
  | exited .. => c.gone = true
  | waiting .. => c.gone = true ∧ (c.stage = .awaited ∨ c.Handled)

theorem holds_of_isHosting {control : Control α} {c : Connection} (hosting : control.isHosting = true) :
    control.Holds c := by
  cases control with
  | hosting => trivial
  | _ => contradiction

theorem Holds.becomes {control : Control α} {c d : Connection} (holds : control.Holds c)
    (becomes : c.Becomes d) : control.Holds d := by
  cases control with
  | ready | closing => exact holds
  | hosting => trivial
  | exited => exact (becomes.gone holds).1
  | waiting =>
    refine ⟨(becomes.gone holds.1).1, ?_⟩
    rcases holds.2 with awaited | handled
    · exact (becomes.awaited awaited).imp_right .inl
    · exact .inr (handled.becomes becomes holds.1)

end Control

namespace Live

/-- What is known of a connection that the worker number `n` has made, when `attempts` attempts are over. -/
structure Kept (control : Control α) (attempts n : Nat) (c : Connection) : Prop where
  patient : c.Patient
  earlier : n ≤ attempts
  settled : n < attempts → c.Settled
  holds : n = attempts → control.Holds c

namespace Kept

variable {control control' : Control α} {attempts attempts' n : Nat} {c : Connection}

theorem of_settled (patient : c.Patient) (settled : c.Settled) (past : n < attempts) :
    Kept control attempts n c :=
  ⟨patient, Nat.le_of_lt past, fun _ => settled, fun last => absurd last (Nat.ne_of_lt past)⟩

theorem past (kept : Kept control attempts n c) (elsewhere : ¬ control.Holds c) : n < attempts :=
  Nat.lt_of_le_of_ne kept.earlier fun last => elsewhere (kept.holds last)

/-- Where no worker is left, whatever comes next starts from settled connections. -/
theorem onward (kept : Kept control attempts n c) (elsewhere : ¬ control.Holds c) (more : attempts ≤ attempts') :
    Kept control' attempts' n c :=
  .of_settled kept.patient (kept.settled (kept.past elsewhere)) (Nat.lt_of_lt_of_le (kept.past elsewhere) more)

/-- The worker that was started last has come further. -/
theorem proceed (kept : Kept control attempts n c) (holds : control.Holds c → control'.Holds c) :
    Kept control' attempts n c := { kept with holds := fun last => holds (kept.holds last) }

/-- The attempt is over. -/
theorem finish (kept : Kept control attempts n c) (settled : control.Holds c → c.Settled) :
    Kept control' (attempts + 1) n c := by
  refine .of_settled kept.patient ?_ (Nat.lt_succ_of_le kept.earlier)
  rcases Nat.lt_or_eq_of_le kept.earlier with past | last
  · exact kept.settled past
  · exact settled (kept.holds last)

end Kept

structure Orderly (options : Options) (s : Live σ α) : Prop where
  tracked : s.server.Tracked options
  owned : s.owners.length = s.server.connections.length
  kept : ∀ (i n : Nat) (c : Connection), s.server.connections[i]? = some c → s.owners[i]? = some n →
    Kept s.control s.results.length n c

namespace Orderly

variable {s t : Live σ α} {m : Move} {i n : Nat} {c d : Connection}

theorem start (course : Course α) (initial : σ) : (start course initial).Orderly options where
  tracked := .start initial
  owned := rfl
  kept _ _ _ place := by simp [Live.start, Server.start] at place

/-- A move keeps what is known of a connection. -/
theorem kept_next (orderly : s.Orderly options) (enabled : s.server.Enabled m)
    (asks : ∀ i, m = .send i → s.server.Has i Connection.MaySend)
    (place : s.server.connections[i]? = some c)
    (place' : (s.server.next sink options m).connections[i]? = some d) (owner : s.owners[i]? = some n) :
    Kept s.control s.results.length n d := by
  obtain ⟨patient, earlier, settled, holds⟩ := orderly.kept i n c place owner
  obtain ⟨d', after, change⟩ := Server.next_connection sink options enabled place
  obtain rfl : d' = d := Option.some.inj (after.symm.trans place')
  have becomes := change.becomes
  refine ⟨?_, earlier, fun past => (settled past).change change, fun last => (holds last).becomes becomes⟩
  -- An answer is never taken back.
  have unanswered (none : d'.answered = false) : c.answered = false :=
    Bool.eq_false_iff.2 fun answered => by simp [becomes.answered answered] at none
  rcases Server.sent_of_next enabled place place' with same | ⟨sends, f, first, fits, more⟩
  · exact ⟨same ▸ patient.fits, fun none => same ▸ patient.waits (unanswered none)⟩
  · refine ⟨?_, fun none => ?_⟩
    · rw [more]
      simpa [or_imp, forall_and, fits] using patient.fits
    · rcases (asks i sends).apply place with answered | ⟨nothing, request⟩
      · simp [unanswered none] at answered
      · obtain rfl : f = .optionsRequest := Option.some.inj (first.symm.trans request)
        exact .inr (by rw [more, nothing]; rfl)

/-- What happens to a connection leaves things in order. -/
theorem move (orderly : s.Orderly options) (allowed : s.Allows m) (enabled : s.server.Enabled m) :
    (s.next sink options (.move m)).Orderly options := by
  have length : (s.server.next sink options m).connections.length = s.server.connections.length + m.connects :=
    Server.length_of_next enabled
  have asks (i : Nat) (sends : m = .send i) : s.server.Has i Connection.MaySend := by
    subst sends
    exact allowed.2
  refine ⟨orderly.tracked.next enabled, ?_, fun i n d place owner => ?_⟩
  · cases m <;> simpa [Live.next, length, Move.connects] using orderly.owned
  have old (inside : i < s.server.connections.length) (owner : s.owners[i]? = some n) :
      Kept s.control s.results.length n d :=
    orderly.kept_next enabled asks (List.getElem?_eq_getElem inside) place owner
  have inside : i < (s.server.next sink options m).connections.length := (List.getElem?_eq_some_iff.1 place).1
  rw [length] at inside
  cases m with
  | connect frames =>
    rcases Nat.lt_or_ge i s.server.connections.length with inside | beyond
    · exact old inside ((List.getElem?_append_left (orderly.owned ▸ inside)).symm.trans owner)
    · -- The new connection is of the worker that runs, and nothing was sent on it.
      have place : (s.server.connections ++ [({ unsent := frames } : Connection)])[i]? = some d := place
      rw [List.getElem?_append_right beyond] at place
      obtain rfl := List.mem_singleton.1 (List.mem_of_getElem? place)
      have owner : (s.owners ++ [s.results.length])[i]? = some n := owner
      rw [List.getElem?_append_right (orderly.owned ▸ beyond)] at owner
      obtain rfl := List.mem_singleton.1 (List.mem_of_getElem? owner)
      refine ⟨⟨by simp [Connection.sent], fun _ => .inl rfl⟩, Nat.le_refl _, fun past => ?_, fun _ => ?_⟩
      · exact absurd past (Nat.lt_irrefl _)
      · exact Control.holds_of_isHosting allowed
  | _ => exact old inside owner

/-- A step of the parent that is a move of the server leaves things in order, if what is known of each
connection goes on to be known. -/
theorem of_next (orderly : s.Orderly options) (enabled : s.server.Enabled m) (still : m.connects = 0)
    (asks : ∀ i, m ≠ .send i) {control : Control α} {results : List (Except String (Option Int))}
    (kept : ∀ n, ∀ d ∈ (s.server.next sink options m).connections, Kept s.control s.results.length n d →
      Kept control results.length n d) :
    Orderly options ⟨s.server.next sink options m, control, s.owners, results⟩ := by
  have length : (s.server.next sink options m).connections.length = s.server.connections.length + m.connects :=
    Server.length_of_next enabled
  rw [still, Nat.add_zero] at length
  refine ⟨orderly.tracked.next enabled, orderly.owned.trans length.symm, fun i n d place owner => ?_⟩
  refine kept n d (List.mem_of_getElem? place) ?_
  exact orderly.kept_next enabled (fun i sends => absurd sends (asks i))
    (List.getElem?_eq_getElem (length ▸ (List.getElem?_eq_some_iff.1 place).1)) place owner

/-- What is noted is nothing to the connections. -/
theorem of_noted (orderly : s.Orderly options) {w : World σ} {control : Control α}
    {results : List (Except String (Option Int))}
    (kept : ∀ n c, Kept s.control s.results.length n c → Kept control results.length n c) :
    Orderly options ⟨{ s.server with world := w }, control, s.owners, results⟩ where
  tracked := ⟨orderly.tracked.connections, orderly.tracked.listens, orderly.tracked.awaited⟩
  owned := orderly.owned
  kept i n c place owner := kept n c (orderly.kept i n c place owner)

theorem advance (orderly : s.Orderly options) (enabled : s.Enabled .advance) :
    (s.advance sink options).Orderly options := by
  obtain ⟨server, control, owners, results⟩ := s
  cases control with
  | ready p =>
    cases p with
    | done outcome => exact orderly
    | tell e next => exact orderly.of_next (m := .tell e) trivial rfl (by simp) fun n d _ kept => kept.onward id le_rfl
    | note r next => exact orderly.of_noted fun n c kept => kept.onward id le_rfl
    | merge d run next =>
      exact orderly.of_next (m := .merge d run) enabled rfl (by simp) fun n d _ kept => kept.onward id le_rfl
    | look next => exact orderly.of_noted fun n c kept => kept.onward id le_rfl
    | start args next => exact orderly.of_noted fun n c kept => kept.onward id le_rfl
    | close next =>
      exact orderly.of_next (m := .stopListening) enabled rfl (by simp) fun n d _ kept =>
        kept.onward id le_rfl
  | hosting next => exact orderly
  | exited code next =>
    refine orderly.of_next (m := .beginWait) enabled rfl (by simp) fun n d mem kept => ?_
    -- A worker that was answered has a handler in the registry by now, so the wait goes on for it.
    refine kept.proceed fun gone => ⟨gone, ?_⟩
    exact Server.awaited_or_handled (orderly.tracked.next enabled) kept.patient mem
  | waiting code next =>
    refine orderly.of_next (m := .endWait) enabled rfl (by simp) fun n d mem kept => ?_
    rw [List.length_append]
    have tracked := orderly.tracked.connections (orderly.tracked.listens enabled.1) d mem
    refine kept.finish fun holds => ?_
    have handled := holds.2.resolve_left (enabled.2 d mem)
    exact ⟨holds.1, handled, handled.inbox_eq_nil tracked⟩
  | closing next =>
    exact orderly.of_next (m := .finishClosing) enabled rfl (by simp) fun n d _ kept => kept.onward id le_rfl

theorem next {m : Step} (orderly : s.Orderly options) (enabled : s.Enabled m) :
    (s.next sink options m).Orderly options := by
  cases m with
  | advance => exact orderly.advance enabled
  | fail reason =>
    obtain ⟨server, control, owners, results⟩ := s
    cases control with
    | ready p =>
      cases p with
      | start args next => exact orderly.of_noted fun n c kept => kept.onward id (by simp)
      | _ => contradiction
    | _ => contradiction
  | exit code =>
    obtain ⟨server, control, owners, results⟩ := s
    obtain ⟨hosting, gone⟩ := enabled
    cases control with
    | hosting next =>
      refine ⟨orderly.tracked, orderly.owned, fun i n c place owner => ?_⟩
      exact (orderly.kept i n c place owner).proceed fun _ => gone c (List.mem_of_getElem? place)
    | _ => contradiction
  | move m => exact orderly.move enabled.1 enabled.2

theorem kept_of_place (orderly : s.Orderly options) (place : s.server.connections[i]? = some c) :
    ∃ n, s.owners[i]? = some n ∧ Kept s.control s.results.length n c := by
  have inside := (List.getElem?_eq_some_iff.1 place).1
  have owner := List.getElem?_eq_getElem (orderly.owned ▸ inside)
  exact ⟨_, owner, orderly.kept i _ c place owner⟩

/-- Only of the worker that was started last there is more to act on than a request for the options. -/
theorem own_of_pending (orderly : s.Orderly options) (place : s.server.connections[i]? = some c)
    (live : c.stage.isLive) {f : Frame} {rest : List Frame} (pending : c.inbox = f :: rest)
    (other : f ≠ .optionsRequest) : s.owners[i]? = some s.results.length ∧ s.control.Holds c := by
  obtain ⟨n, owner, kept⟩ := orderly.kept_of_place place
  rcases Nat.lt_or_eq_of_le kept.earlier with past | rfl
  · exact absurd ((kept.settled past).handled.eq_of_pending live pending).1 other
  · exact ⟨owner, kept.holds rfl⟩

theorem path {ms : List Step} (path : Path sink options s ms t) (orderly : s.Orderly options) :
    t.Orderly options := by
  induction path with
  | refl => exact orderly
  | tail _ enabled ih => exact ih.next enabled

end Orderly

end Live

end Microbench
