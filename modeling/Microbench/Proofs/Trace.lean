import Microbench.Proofs.Effect

/-!
What kind of actions an act adds to the trace. `Act.Only` says of an act that all of them are of one
kind, whatever world it starts from and however it ends; acts made of such acts are such acts.
-/

namespace Microbench

namespace Act

variable {σ α β : Type} {allowed : Action → Prop}

/-- What is logged first is noted, and the rest goes on from there. -/
theorem log_bind_run {level : Log.Level} {text : String} {f : Unit → Act σ α} {w : World σ}
    {result : Except Failure α × World σ} (ran : (log level text >>= f).run w = result) :
    ∃ w', w.Continued [.logged ⟨level, text, none⟩] w' ∧ (f ()).run w' = result :=
  ⟨_, .log w level text, ran⟩

/-- The act adds allowed actions to the trace and no others. -/
def Only (allowed : Action → Prop) (act : Act σ α) : Prop :=
  ∀ w : World σ, ∃ actions, w.Continued actions (act.run w).2 ∧ ∀ a ∈ actions, allowed a

namespace Only

theorem pure (x : α) : Only allowed (Pure.pure x : Act σ α) := fun w => ⟨[], .refl w, by simp⟩

theorem throw (f : Failure) : Only allowed (MonadExcept.throw f : Act σ α) :=
  fun w => ⟨[], .refl w, by simp⟩

/-- What comes behind a failure is not done. -/
theorem throw_bind (f : Failure) (g : α → Act σ β) :
    Only allowed ((MonadExcept.throw f : Act σ α) >>= g) := fun w => ⟨[], .refl w, by simp⟩

theorem settle (outcome : Except Failure α) : Only allowed (Act.settle outcome : Act σ α) :=
  fun w => ⟨[], .refl w, by simp⟩

theorem note {a : Action} (h : allowed a) (quiet : a.report? = none) :
    Only allowed (Act.note a : Act σ Unit) := fun w => ⟨[a], .note w quiet, by simpa using h⟩

theorem log (h : ∀ entry, allowed (.logged entry)) (level : Log.Level) (text : String) :
    Only allowed (Act.log level text : Act σ Unit) := note (h _) rfl

theorem tell (sink : Sink σ) {e : Event} (h : ∀ refusal, allowed (.told e refusal)) :
    Only allowed (Act.tell sink e) := fun w => ⟨_, .tell sink e w, by simpa using h _⟩

theorem merge {d : Descriptor} {run : Run} (h : allowed (.merged d run)) :
    Only allowed (Act.merge d run : Act σ Unit) := fun w => ⟨_, .merge w d run, by simpa using h⟩

theorem attempt {act : Act σ α} (h : Only allowed act) : Only allowed (Act.attempt act) := h

theorem mono {allowed' : Action → Prop} {act : Act σ α} (h : Only allowed act)
    (weaken : ∀ a, allowed a → allowed' a) : Only allowed' act := by
  intro w
  obtain ⟨actions, continued, all⟩ := h w
  exact ⟨actions, continued, fun a ha => weaken a (all a ha)⟩

theorem get_bind {f : World σ → Act σ α} (h : ∀ w, Only allowed (f w)) : Only allowed (get >>= f) :=
  fun w => h w w

/-- In a world that starts with no trace, all that is in it is allowed. -/
theorem of_start {act : Act σ α} (h : Only allowed act) (s : σ) :
    ∀ a ∈ (act.run (World.start s)).2.trace, allowed a := by
  obtain ⟨actions, continued, all⟩ := h (World.start s)
  intro a mem
  rw [← Array.mem_toList_iff, continued.of_start.1] at mem
  exact all a mem

/-- What stands behind an act is done with something that the act can return. -/
theorem bind_returned {act : Act σ α} {f : α → Act σ β} (first : Only allowed act)
    (second : ∀ w x, (act.run w).1 = .ok x → Only allowed (f x)) : Only allowed (act >>= f) := by
  intro w
  obtain ⟨actions, continued, all⟩ := first w
  cases ran : act.run w with
  | mk outcome w' =>
    rw [ran] at continued
    cases outcome with
    | error e =>
      rw [run_bind_error ran]
      exact ⟨actions, continued, all⟩
    | ok x =>
      obtain ⟨actions', continued', all'⟩ := second w x (congrArg Prod.fst ran) w'
      rw [run_bind_ok ran]
      refine ⟨actions ++ actions', continued.trans continued', fun a ha => ?_⟩
      exact (List.mem_append.1 ha).elim (all a) (all' a)

theorem bind {act : Act σ α} {f : α → Act σ β} (first : Only allowed act)
    (second : ∀ x, Only allowed (f x)) : Only allowed (act >>= f) :=
  first.bind_returned fun _ x _ => second x

theorem settle_bind {outcome : Except Failure α} {f : α → Act σ β}
    (h : ∀ x, outcome = .ok x → Only allowed (f x)) : Only allowed (Act.settle outcome >>= f) :=
  .bind_returned (.settle outcome) fun _ x same => h x same

theorem forM_mem {f : β → Act σ Unit} {xs : List β} (h : ∀ x ∈ xs, Only allowed (f x)) :
    Only allowed (xs.forM f) := by
  induction xs with
  | nil => exact .pure ()
  | cons x xs ih =>
    exact .bind (h x List.mem_cons_self) fun _ => ih fun y mem => h y (List.mem_cons_of_mem x mem)

theorem forM {f : β → Act σ Unit} (h : ∀ x, Only allowed (f x)) (xs : List β) :
    Only allowed (xs.forM f) := forM_mem fun x _ => h x

theorem counted {f : Nat → Act σ Unit} (h : ∀ i, Only allowed (f i)) (first n : Nat) :
    Only allowed (Act.counted f first n) := by
  induction n generalizing first with
  | zero => exact .pure ()
  | succ n ih => exact .bind (h first) fun _ => ih (first + 1)

end Only

end Act

end Microbench
