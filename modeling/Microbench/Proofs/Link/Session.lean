import Microbench.Link.Session
import Microbench.Proofs.Link.Handling

/-!
Clients that come one after another. What is done for each of them depends only on what it has sent, and is
done before the next one comes.
-/

namespace Microbench.Link

variable {σ : Type} (sink : Sink σ) (options : Options)

/-- The frames of a client that are acted on. -/
def heardOf (steps : List Step) : List Frame :=
  Handler.served (⟨Sink.silent, options, 0⟩ : Handler Unit) (Stream.frames .async [.bytes (play options steps).sent]).1

/-- The number of a connection makes no difference to what is acted on, nor does the sink. -/
theorem Handler.serve_sent (number : Nat) (steps : List Step) : ∃ answer,
    Act.Does sink (Handler.serve ⟨sink, options, number⟩ [.bytes (play options steps).sent]) (.ok answer)
      ((heardOf options steps).flatMap Frame.forwarded) ((heardOf options steps).flatMap Frame.reports) :=
  ⟨_, Handler.handle_does ⟨sink, options, number⟩ (Stream.frames .async [.bytes (play options steps).sent]).1
    (Stream.frames .async [.bytes (play options steps).sent]).2⟩

theorem visit_grown (steps : List Step) (w : World σ) : ∃ w',
    (visit sink options steps).run w = (.ok ⟨(play options steps).answers, 1, w'.store.size⟩, w') ∧
      w.Grown sink ((heardOf options steps).flatMap Frame.forwarded)
        ((heardOf options steps).flatMap Frame.reports) w' := by
  have accepts : Act.Does sink (Act.note .accepted) (.ok ()) [] [] := .note rfl rfl
  have accepted := accepts.run_eq w
  obtain ⟨answer, serves⟩ :=
    Handler.serve_sent sink options ((Act.note .accepted).run w).2.connections steps
  refine ⟨_, ?_, (accepts.changes w).trans (serves.changes _)⟩
  rw [visit, Act.run_bind_ok accepted, Act.run_get_bind, Act.run_bind_ok (serves.run_eq _)]
  rfl

/-- A session does what was sent to it, client after client, and each client sees the answers that it would
see alone, one handler, and what the store holds of it and of the clients before it. -/
theorem session_grown (clients : List (List Step)) (w : World σ) : ∃ seen w',
    (session sink options clients).run w = (.ok seen, w') ∧
      w.Grown sink ((clients.flatMap (heardOf options)).flatMap Frame.forwarded)
        ((clients.flatMap (heardOf options)).flatMap Frame.reports) w' ∧
      seen.map Seen.answers = clients.map (fun steps => (play options steps).answers) ∧
      ∀ i s, seen[i]? = some s → s.handlers = 1 ∧ s.stored =
        (w.store.mergeReports (((clients.take (i + 1)).flatMap (heardOf options)).flatMap Frame.reports)).size := by
  induction clients generalizing w with
  | nil => exact ⟨[], w, rfl, .refl sink w, rfl, by simp⟩
  | cons steps clients ih =>
    obtain ⟨w₁, visited, first⟩ := visit_grown sink options steps w
    obtain ⟨seen, w₂, ran, rest, answers, stored⟩ := ih w₁
    refine ⟨⟨(play options steps).answers, 1, w₁.store.size⟩ :: seen, w₂, ?_, ?_, ?_, ?_⟩
    · rw [session] at ran
      rw [session, List.mapM_cons, Act.run_bind_ok visited, Act.run_bind_ok ran]
      rfl
    · simpa only [List.flatMap_cons, List.flatMap_append] using first.trans rest
    · rw [List.map_cons, answers, List.map_cons]
    · rintro (_ | i) s here
      · obtain rfl := Option.some.inj here
        exact ⟨rfl, by simp [first.store]⟩
      · obtain ⟨handlers, size⟩ := stored i s here
        refine ⟨handlers, ?_⟩
        rw [size, first.store, ← Store.mergeReports_append, List.take_succ_cons, List.flatMap_cons,
          List.flatMap_append]

end Microbench.Link
