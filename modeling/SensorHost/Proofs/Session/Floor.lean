import Mathlib.Logic.Function.Basic
import SensorHost.Proofs.Session.Solo

/-!
# Many calls on one session

Any number of calls take turns on a session, in any order: a call that has the turn goes on up to
where it has to wait, and goes on from there in a later turn, once its answer is there or its pause is
over. Between turns the board and the clock go on by themselves. `Floor.Step` is one turn, or one thing
that happens in between; what the calls did is kept in a log.
-/

namespace SensorHost

/-- What a call did on a session, or what happened there. -/
inductive Deed where
  | sent (owner : Nat) (frame : Frame) (result : Except Fault Unit)
  | asked (owner : Nat) (key : ReplyKey) (frames : List Frame)
  | happened (event : LinkEvent)

namespace Session

variable {σ α β : Type} [Transport σ]

/-- What is done in one turn of a call, in order. -/
def deeds (owner : Nat) : Dialogue true α → Session σ → List Deed
  | .done _, _ => []
  | .look resume, s => deeds owner (resume s.host) s
  | .update change next, s => deeds owner next { s with host := change s.host }
  | .measure resume, s => deeds owner (resume (Transport.frameLimit s.link.wire)) s
  | .transmit frame resume, s =>
    .sent owner frame (s.transmit frame).1 :: (s.link.transmit frame).2.journal.map .happened ++
      deeds owner (resume (s.transmit frame).1) (s.transmit frame).2
  | .ask _ key timeout frames resume, s =>
    .asked owner key frames ::
      (s.link.request key timeout owner frames).journal.map .happened ++
      match (s.request key timeout owner frames).takeOutcome? owner with
      | some (result, s) => deeds owner (resume result) s
      | none => []
  | .pause .., _ => []

theorem deeds_ask {owner timeout : Nat} {s s' : Session σ} {may : true = true} {key : ReplyKey}
    {frames : List Frame} {reply : Except Fault Frame}
    {resume : Except Fault Frame → Dialogue true α}
    (taken : (s.request key timeout owner frames).takeOutcome? owner = some (reply, s')) :
    deeds owner (.ask may key timeout frames resume) s =
      .asked owner key frames ::
        (s.link.request key timeout owner frames).journal.map .happened ++
          deeds owner (resume reply) s' := by
  rw [deeds]
  simp only [taken]

theorem deeds_bind {owner : Nat} {s s₁ : Session σ} {d : Dialogue true α}
    {f : α → Dialogue true β} {a : α} (first : advance owner d s = (.finished a, s₁)) :
    deeds owner (d.bind f) s = deeds owner d s ++ deeds owner (f a) s₁ := by
  induction d generalizing s with
  | done b =>
      obtain ⟨same, rfl⟩ := Prod.mk.inj first
      obtain rfl := Progress.finished.inj same
      rfl
  | look resume ih => exact ih s.host first
  | update change next ih => exact ih first
  | measure resume ih => exact ih _ first
  | transmit frame resume ih =>
      have later := ih (s.transmit frame).1 (s := (s.transmit frame).2) first
      rw [Dialogue.bind, deeds, deeds, later, List.append_assoc]
  | ask may key timeout frames resume ih =>
      rw [advance] at first
      split at first
      · rename_i result s₂ taken
        rw [Dialogue.bind, deeds_ask taken, deeds_ask taken, ih result first, List.append_assoc]
      · cases (Prod.mk.inj first).1
  | pause may milliseconds next => cases (Prod.mk.inj first).1

end Session

/-- A session, what was done on it, and how far each call has come that was begun. -/
structure Floor (σ ρ : Type) where
  session : Session σ
  log : List Deed
  calls : Nat → Option (Progress (Except Fault ρ))

namespace Floor

variable {σ ρ : Type}

/-- A session on which no call was begun yet. -/
def new (session : Session σ) : Floor σ ρ := ⟨session, [], fun _ => none⟩

/-- What a call returned, if it succeeded. -/
def returned? (f : Floor σ ρ) (owner : Nat) : Option ρ :=
  ((f.calls owner).bind Progress.result?).bind Except.toOption

theorem returned?_eq_some_iff {f : Floor σ ρ} {owner : Nat} {a : ρ} :
    f.returned? owner = some a ↔ f.calls owner = some (.finished (.ok a)) := by
  have ok (result : Except Fault ρ) : result.toOption = some a ↔ result = .ok a := by
    cases result <;> simp [Except.toOption]
  simp [returned?, Option.bind_eq_some_iff, ok, Progress.result?_eq_some_iff]

variable [Transport σ]

/-- The call goes on with `d`, on the session `s`. -/
def takeTurn (f : Floor σ ρ) (owner : Nat) (d : Dialogue true (Except Fault ρ)) (s : Session σ) :
    Floor σ ρ where
  session := (s.advance owner d).2
  log := f.log ++ s.deeds owner d
  calls := Function.update f.calls owner (some (s.advance owner d).1)

/-- One turn of a call. -/
inductive Turn (call : Nat → Call true ρ) (owner : Nat) : Floor σ ρ → Floor σ ρ → Prop
  | begins {f : Floor σ ρ} : f.calls owner = none →
    Turn call owner f (f.takeTurn owner (call owner).run f.session)
  | answered {f : Floor σ ρ} {resume : Except Fault Frame → Dialogue true (Except Fault ρ)}
      {reply : Except Fault Frame} {s : Session σ} : f.calls owner = some (.awaiting resume) →
    f.session.takeOutcome? owner = some (reply, s) →
    Turn call owner f (f.takeTurn owner (resume reply) s)
  | resumed {f : Floor σ ρ} {milliseconds : Nat} {next : Dialogue true (Except Fault ρ)} :
    f.calls owner = some (.pausing milliseconds next) →
    Turn call owner f (f.takeTurn owner next f.session)

/-- The turn of a call, if it has not finished and does not wait for an answer. -/
def nextTurn (call : Nat → Call true ρ) (f : Floor σ ρ) (owner : Nat) : Floor σ ρ :=
  match f.calls owner with
  | none => f.takeTurn owner (call owner).run f.session
  | some (.awaiting resume) =>
    match f.session.takeOutcome? owner with
    | some (reply, s) => f.takeTurn owner (resume reply) s
    | none => f
  | some (.pausing _ next) => f.takeTurn owner next f.session
  | some (.finished _) => f

/-- A turn of some call, or what happens between turns, which is left to `Env`: the session before,
what happens on its link, and the session afterwards. -/
inductive Step (call : Nat → Call true ρ) (Env : Session σ → List LinkEvent → Session σ → Prop) :
    Floor σ ρ → Floor σ ρ → Prop
  | turn {f f' : Floor σ ρ} (owner : Nat) : Turn call owner f f' → Step call Env f f'
  | between {f : Floor σ ρ} {events : List LinkEvent} {s : Session σ} : Env f.session events s →
    Step call Env f ⟨s, f.log ++ events.map .happened, f.calls⟩

theorem reaches_nextTurn (call : Nat → Call true ρ)
    (Env : Session σ → List LinkEvent → Session σ → Prop) (f : Floor σ ρ) (owner : Nat) :
    Relation.ReflTransGen (Step call Env) f (f.nextTurn call owner) := by
  unfold nextTurn
  split
  · rename_i unbegun
    exact .single (.turn owner (.begins unbegun))
  · rename_i awaiting
    split
    · rename_i taken
      exact .single (.turn owner (.answered awaiting taken))
    · exact .refl
  · rename_i pausing
    exact .single (.turn owner (.resumed pausing))
  · exact .refl

end Floor

end SensorHost
