import SensorHost.Proofs.Session.Rollback
import SensorHost.Proofs.Session.Solo

/-!
# What the creation of a chain keeps

A property of the processors created so far, the host and the transport holds after a chain was
created, or taken back, if it is kept by the creation of one stage and by the removal of one
processor (`Call.kept_commitChain`).
-/

namespace SensorHost.Call

variable {σ : Type} [Transport σ] {Stirs : σ → Option Frame → σ → Prop} {waits : Bool}
  {h h' : Host} {t : List Exchange} {w w' : σ}

/-- The removal of one processor, on the board if it takes the frame and from the roster, keeps the
property. -/
def Removes (Stirs : σ → Option Frame → σ → Prop) (I : Host → σ → Prop) : Prop :=
  ∀ {id : UInt8} {result : Except Fault Unit} {h h₁ : Host} {w w' : σ}, ListenersOnly h h₁ →
    Carries Stirs w [.sent (Processor.removeFrame id) result] w' → I h w →
      I { h₁ with roster := h₁.roster.erase id } w'

/-- The creation of one of these stages keeps the property, whether it succeeds or fails. -/
def Creates (Stirs : σ → Option Frame → σ → Prop) (I : List Processor → Host → σ → Prop)
    (stages : List Stage) : Prop :=
  ∀ stage ∈ stages, ∀ {created : List Processor} {result : Except Fault Processor} {h h' : Host}
    {t : List Exchange} {w w' : σ}, Runs ListenersOnly (createStage stage created) h t result h' →
    Carries Stirs w t w' → I created h w → I created h' w' ∧ ∀ p, result = .ok p →
      I (created ++ [p]) { h' with roster := h'.roster.insert p } w'

theorem kept_rollback {I : Host → σ → Prop} (removes : Removes Stirs I) {ps : List Processor}
    {result : Except Fault Unit}
    (run : Runs ListenersOnly (rollback ps : Call waits Unit) h t result h')
    (carries : Carries Stirs w t w') (holds : I h w) : I h' w' := by
  induction ps generalizing h t w with
  | nil =>
      obtain ⟨rfl, -, rfl⟩ := runs_pure.mp run
      cases carries
      exact holds
  | cons p rest ih =>
      unfold rollback at run
      rw [runs_bind_attempt] at run
      obtain ⟨_, t₁, h₁, t₂, rfl, sent, run⟩ := run
      obtain ⟨rfl, listeners⟩ := runs_transmit.mp sent
      rw [runs_bind_updateRoster] at run
      obtain ⟨w₁, removed, carries⟩ := carries_append.mp carries
      exact ih run carries (removes listeners removed holds)

variable {I : List Processor → Host → σ → Prop}

theorem kept_createStages (removes : ∀ created, Removes Stirs (I created)) {total : Nat}
    {stages : List Stage} (creates : Creates Stirs I stages) {created : List Processor}
    {result : Except Fault (List Processor)}
    (run : Runs ListenersOnly (createStages total stages created) h t result h')
    (carries : Carries Stirs w t w') (holds : I created h w) : ∃ created, I created h' w' := by
  induction stages generalizing created h t w with
  | nil =>
      obtain ⟨rfl, -, rfl⟩ := runs_pure.mp run
      cases carries
      exact ⟨created, holds⟩
  | cons stage rest ih =>
      unfold createStages at run
      rw [runs_bind_attempt] at run
      obtain ⟨outcome, t₁, h₁, t₂, rfl, asked, run⟩ := run
      obtain ⟨w₁, answered, carries⟩ := carries_append.mp carries
      obtain ⟨kept, grown⟩ := creates stage List.mem_cons_self asked answered holds
      cases outcome with
      | ok p =>
          rw [runs_bind_updateRoster] at run
          exact ih (fun stage mem => creates stage (List.mem_cons_of_mem _ mem)) run carries
            (grown p rfl)
      | error fault =>
          -- Everything created so far is removed again.
          refine ⟨created, ?_⟩
          rcases runs_bind.mp run with ⟨_, second, -⟩ | ⟨_, t₃, h₃, t₄, rfl, second, thrown⟩
          · exact kept_rollback (removes created) second carries kept
          · obtain ⟨rfl, -, rfl⟩ := runs_throw.mp thrown
            rw [List.append_nil] at carries
            exact kept_rollback (removes created) second carries kept

theorem kept_commitChain (removes : ∀ created, Removes Stirs (I created)) {stages : List Stage}
    (creates : Creates Stirs I stages) {result : Except Fault (List Processor)}
    (run : Runs ListenersOnly (commitChain stages) h t result h')
    (carries : Carries Stirs w t w') (holds : I [] h w) : ∃ created, I created h' w' := by
  unfold commitChain at run
  rw [runs_bind_check] at run
  rcases run with ⟨_, -, rfl, -, rfl⟩ | ⟨_, -, run⟩
  · cases carries
    exact ⟨[], holds⟩
  · exact kept_createStages removes creates run carries holds

end SensorHost.Call
