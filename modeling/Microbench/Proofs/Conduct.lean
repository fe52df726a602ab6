import Microbench.Proofs.Trace

/-!
Acts judged by the actions that they add. `Act.Goes` says what an act may do from a world, and what
comes of it, as long as the sink takes what it is told; a refusal of the sink is then what comes of the
act. Acts in a row append their actions, and a traversal goes along a `Chain` that the first failure ends.
-/

namespace Microbench

variable {σ α β : Type}

def Sink.Refuses (sink : Sink σ) (f : Failure) : Prop := ∃ e s, (sink e s).1 = .error f

theorem Sink.not_refuses {sink : Sink σ} (takes : ∀ e, sink.Takes e) (f : Failure) :
    ¬ sink.Refuses f := by
  rintro ⟨e, s, refused⟩
  rw [takes e s] at refused
  contradiction

def World.Has (w : World σ) (past : List Action) : Prop := ∃ s, (World.start s).Continued past w

namespace World.Has

variable {w w' : World σ} {past actions : List Action}

theorem start (s : σ) : (World.start s).Has [] := ⟨s, .refl _⟩

theorem continued (has : w.Has past) (h : w.Continued actions w') : w'.Has (past ++ actions) := by
  obtain ⟨s, before⟩ := has
  exact ⟨s, before.trans h⟩

theorem trace_eq (has : w.Has past) : w.trace.toList = past := by
  obtain ⟨s, before⟩ := has
  exact before.of_start.1

theorem store_eq (has : w.Has past) :
    w.store = Store.empty.mergeReports (past.filterMap Action.report?) := by
  obtain ⟨s, before⟩ := has
  exact before.store

end World.Has

namespace Act

variable {sink : Sink σ} {w : World σ}

/-- The act comes to an outcome by actions that are allowed with it, or to a refusal of the sink. -/
def Goes (sink : Sink σ) (act : Act σ α) (w : World σ)
    (allowed : Except Failure α → List Action → Prop) : Prop :=
  (∃ actions, w.Continued actions (act.run w).2 ∧ allowed (act.run w).1 actions) ∨
    ∃ f, sink.Refuses f ∧ (act.run w).1 = .error f

namespace Goes

variable {allowed allowed' : Except Failure α → List Action → Prop}

theorem of_run {act : Act σ α} {w' : World σ} {outcome : Except Failure α} {actions : List Action}
    (ran : act.run w = (outcome, w')) (continued : w.Continued actions w')
    (h : allowed outcome actions) : Goes sink act w allowed := by
  refine .inl ⟨actions, ?_, ?_⟩
  · rw [ran]
    exact continued
  · rw [ran]
    exact h

theorem mono {act : Act σ α} (goes : Goes sink act w allowed)
    (weaken : ∀ {outcome actions}, allowed outcome actions → allowed' outcome actions) :
    Goes sink act w allowed' := by
  rcases goes with ⟨actions, continued, h⟩ | refused
  · exact .inl ⟨actions, continued, weaken h⟩
  · exact .inr refused

/-- Where the sink takes everything, nothing but the allowed is done. -/
theorem of_takes {act : Act σ α} (goes : Goes sink act w allowed) (takes : ∀ e, sink.Takes e)
    {outcome : Except Failure α} {w' : World σ} (ran : act.run w = (outcome, w')) :
    ∃ actions, w.Continued actions w' ∧ allowed outcome actions := by
  rw [Goes, ran] at goes
  rcases goes with done | ⟨f, refused, -⟩
  · exact done
  · exact absurd refused (Sink.not_refuses takes f)

/-- An act that has succeeded was refused nothing. -/
theorem of_ok {act : Act σ α} (goes : Goes sink act w allowed) {x : α} {w' : World σ}
    (ran : act.run w = (.ok x, w')) : ∃ actions, w.Continued actions w' ∧ allowed (.ok x) actions := by
  rw [Goes, ran] at goes
  rcases goes with done | ⟨f, -, failed⟩
  · exact done
  · contradiction

theorem settle {outcome : Except Failure α} (h : allowed outcome []) :
    Goes sink (Act.settle outcome) w allowed := of_run (run_settle outcome w) (.refl w) h

theorem pure {x : α} (h : allowed (.ok x) []) : Goes sink (Pure.pure x) w allowed :=
  of_run rfl (.refl w) h

theorem throw {f : Failure} (h : allowed (.error f) []) :
    Goes sink (MonadExcept.throw f : Act σ α) w allowed := of_run rfl (.refl w) h

/-- What comes behind a failure is not done. -/
theorem throw_bind {f : Failure} {g : β → Act σ α} (h : allowed (.error f) []) :
    Goes sink ((MonadExcept.throw f : Act σ β) >>= g) w allowed := of_run rfl (.refl w) h

theorem tell {e : Event} {allowed : Except Failure Unit → List Action → Prop}
    (h : allowed (.ok ()) [.told e none]) : Goes sink (Act.tell sink e) w allowed := by
  rcases told : (Act.tell sink e).run w with ⟨answer, w'⟩
  cases answer with
  | ok _ => exact of_run told (.of_tell told) h
  | error f =>
    refine .inr ⟨f, ⟨e, w.sink, congrArg Prod.fst told⟩, ?_⟩
    rw [told]

theorem bind {act : Act σ α} {f : α → Act σ β} {result : Except Failure β → List Action → Prop}
    (first : Goes sink act w allowed)
    (ok : ∀ {x as w'}, w.Continued as w' → allowed (.ok x) as →
      Goes sink (f x) w' fun outcome bs => result outcome (as ++ bs))
    (error : ∀ {e as}, allowed (.error e) as → result (.error e) as) :
    Goes sink (act >>= f) w result := by
  rcases ran : act.run w with ⟨outcome, w'⟩
  rw [Goes, ran] at first
  cases outcome with
  | error e =>
    have failed := run_bind_error (f := f) ran
    rcases first with ⟨as, continued, h⟩ | ⟨e', refused, same⟩
    · exact of_run failed continued (error h)
    · obtain rfl := Except.error.inj same
      exact .inr ⟨e, refused, by rw [failed]⟩
  | ok x =>
    have going := run_bind_ok (f := f) ran
    rcases first with ⟨as, continued, h⟩ | ⟨e', -, same⟩
    · rw [Goes, going]
      rcases ok continued h with ⟨bs, continued', h'⟩ | refused
      · exact .inl ⟨as ++ bs, continued.trans continued', h'⟩
      · exact .inr refused
    · contradiction

/-- An act in front that cannot fail, but for a refusal. -/
theorem after {act : Act σ α} {f : α → Act σ β} {result : Except Failure β → List Action → Prop}
    {x : α} {as : List Action}
    (first : Goes sink act w fun outcome actions => outcome = .ok x ∧ actions = as)
    (rest : ∀ {w'}, w.Continued as w' →
      Goes sink (f x) w' fun outcome bs => result outcome (as ++ bs)) :
    Goes sink (act >>= f) w result := by
  refine first.bind ?_ ?_
  · rintro y bs w' continued ⟨same, rfl⟩
    obtain rfl := Except.ok.inj same
    exact rest continued
  · rintro e bs ⟨failed, -⟩
    contradiction

theorem note {a : Action} (quiet : a.report? = none) :
    Goes sink (Act.note a) w fun outcome actions => outcome = .ok () ∧ actions = [a] :=
  of_run rfl (.note w quiet) ⟨rfl, rfl⟩

theorem log (level : Log.Level) (text : String) : Goes sink (Act.log level text) w
    fun outcome actions => outcome = .ok () ∧ actions = [.logged ⟨level, text, none⟩] := note rfl

theorem notes {f : β → Action} (quiet : ∀ x, (f x).report? = none) (xs : List β) :
    Goes sink (xs.forM fun x => Act.note (f x)) w fun outcome actions =>
      outcome = .ok () ∧ actions = xs.map f := by
  induction xs generalizing w with
  | nil => exact .pure ⟨rfl, rfl⟩
  | cons x xs ih =>
    refine (note (quiet x)).after fun _ => ih.mono ?_
    rintro outcome actions ⟨rfl, rfl⟩
    exact ⟨rfl, rfl⟩

theorem merge (d : Descriptor) (run : Run) : Goes sink (Act.merge d run) w
    fun outcome actions => outcome = .ok () ∧ actions = [.merged d run] :=
  of_run rfl (.merge w d run) ⟨rfl, rfl⟩

theorem get_bind {f : World σ → Act σ α} (h : Goes sink (f w) w allowed) :
    Goes sink (get >>= f) w allowed := h

/-- Where the sink takes everything, whatever fails in an act can be looked at. -/
theorem attempt {act : Act σ α} (goes : Goes sink act w allowed) (takes : ∀ e, sink.Takes e) :
    Goes sink (Act.attempt act) w fun outcome actions => ∃ o, outcome = .ok o ∧ allowed o actions := by
  obtain ⟨actions, continued, h⟩ := goes.of_takes takes rfl
  exact .inl ⟨actions, continued, _, rfl, h⟩

end Goes

end Act

/-- Steps for the elements of a list, each behind what was done before it, up to the first that fails. -/
inductive Chain (step : α → List Action → Except Failure Unit → List Action → Prop) :
    List α → List Action → Except Failure Unit → List Action → Prop where
  | nil {past : List Action} : Chain step [] past (.ok ()) []
  | stop {x : α} {xs : List α} {past as : List Action} {f : Failure}
    (failed : step x past (.error f) as) : Chain step (x :: xs) past (.error f) as
  | cons {x : α} {xs : List α} {past as bs : List Action} {outcome : Except Failure Unit}
    (done : step x past (.ok ()) as) (rest : Chain step xs (past ++ as) outcome bs) :
    Chain step (x :: xs) past outcome (as ++ bs)

namespace Chain

variable {step : α → List Action → Except Failure Unit → List Action → Prop}

/-- A traversal goes along a chain. What its elements need of what was done before them is kept by each
element for those behind it. -/
theorem of_forM {sink : Sink σ} {act : α → Act σ Unit} {needs : List α → List Action → Prop}
    (each : ∀ {x xs past w}, needs (x :: xs) past → w.Has past → (act x).Goes sink w (step x past))
    (keep : ∀ {x xs past as}, needs (x :: xs) past → step x past (.ok ()) as → needs xs (past ++ as))
    {xs : List α} {past : List Action} {w : World σ} (start : needs xs past) (has : w.Has past) :
    (xs.forM act).Goes sink w (Chain step xs past) := by
  induction xs generalizing past w with
  | nil => exact .pure .nil
  | cons x xs ih =>
    -- The first element goes on to the others, whose past is longer by what it has done.
    refine (each start has).bind ?_ .stop
    intro _ as w' continued done
    refine (ih (keep start done) (has.continued continued)).mono ?_
    exact .cons done

/-- What holds of each element's actions, wherever they stand, holds of all of them put together. -/
theorem flatMap_eq {γ : Type} {f : List Action → List γ} {g : α → List γ}
    (nil : f [] = []) (append : ∀ as bs, f (as ++ bs) = f as ++ f bs) {xs : List α}
    (each : ∀ x ∈ xs, ∀ {past as}, step x past (.ok ()) as → f as = g x) {past as : List Action}
    (chain : Chain step xs past (.ok ()) as) : f as = xs.flatMap g := by
  induction xs generalizing past as with
  | nil =>
    cases chain
    exact nil
  | cons x xs ih =>
    cases chain with
    | cons done rest =>
      rw [append, List.flatMap_cons, each x List.mem_cons_self done,
        ih (fun x hx => each x (List.mem_cons_of_mem _ hx)) rest]

/-- A chain that has failed has gone along its list up to an element that failed. -/
theorem exists_of_error {f : Failure} {xs : List α} {past as : List Action}
    (chain : Chain step xs past (.error f) as) : ∃ done x rest first last, xs = done ++ x :: rest ∧
      as = first ++ last ∧ Chain step done past (.ok ()) first ∧
      step x (past ++ first) (.error f) last := by
  induction xs generalizing past as with
  | nil => cases chain
  | cons x xs ih =>
    cases chain with
    | stop failed => exact ⟨[], x, xs, [], as, rfl, rfl, .nil, by rwa [List.append_nil]⟩
    | cons going chain =>
      obtain ⟨done, y, rest, first, last, rfl, rfl, before, failed⟩ := ih chain
      refine ⟨x :: done, y, rest, _ ++ first, last, rfl, (List.append_assoc ..).symm, .cons going before, ?_⟩
      rwa [← List.append_assoc]

/-- What has been gone through was done, element by element. -/
theorem exists_of_ok {xs : List α} {past as : List Action} (chain : Chain step xs past (.ok ()) as) :
    ∀ x ∈ xs, ∃ past as, step x past (.ok ()) as := by
  induction xs generalizing past as with
  | nil => simp
  | cons x xs ih =>
    cases chain with
    | cons done rest =>
      intro y hy
      rcases List.mem_cons.1 hy with rfl | hy
      · exact ⟨_, _, done⟩
      · exact ih rest y hy

theorem ok_of_each {xs : List α} {past as : List Action} {outcome : Except Failure Unit}
    (each : ∀ x ∈ xs, ∀ {past outcome as}, step x past outcome as → outcome = .ok ())
    (chain : Chain step xs past outcome as) : outcome = .ok () := by
  induction chain with
  | nil => rfl
  | stop failed => exact each _ List.mem_cons_self failed
  | cons _ _ ih => exact ih fun x hx => each x (List.mem_cons_of_mem _ hx)

end Chain

end Microbench
