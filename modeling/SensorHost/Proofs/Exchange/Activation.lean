import SensorHost.Proofs.Exchange.Weight

/-!
# What every change of a link keeps

While a request is being sent, answers arrive, requests fail and new ones are queued, each of which
may start a further request before the first has returned. No invariant has to be followed through
that recursion more than once: a `Discipline` lists the few primitive changes of a link, and what it
says of them holds of every operation (`Discipline.activate` and what follows), and so of every run
(`Discipline.run`).

Two predicates are needed. `Rest` holds where nothing is under way, or where a request makes its
moves. `Due key` holds for the moment at which a request has left the queue of `key`, or has entered
it as the only one, and the head is still to be started.
-/

namespace SensorHost

/-- Events that neither start nor settle a request. -/
def LinkEvent.isQuiet : LinkEvent → Bool
  | .started .. | .settled .. => false
  | _ => true

variable {σ : Type}

/-- What the primitive changes of a link have to keep. -/
structure Discipline (Rest : Link σ → Prop) (Due : ReplyKey → Link σ → Prop) : Prop where
  started {key : ReplyKey} {l l' : Link σ} {r : Request} {moves : List Move} :
    Due key l → l.startHead? key = some (r, moves, l') → Rest l'
  idle {key : ReplyKey} {l : Link σ} : Due key l → l.startHead? key = none → Rest l
  answered {key : ReplyKey} {l : Link σ} {r : Request} {q : Queue} (reply : Frame) :
    Rest l → (l.queue key).pop? = some (r, q) → r.isStarted = true →
      Due key ((l.setQueue key q).settle key r (.ok reply))
  failed {key : ReplyKey} {l : Link σ} {r : Request} {q : Queue} (fault : Fault) :
    Rest l → (l.queue key).pop? = some (r, q) →
      Due key ((l.setQueue key q).settle key r (.error fault))
  queuedAlone {l : Link σ} (key : ReplyKey) (timeout owner : Nat) (moves : List Move) :
    Rest l → ((l.queue key).push timeout owner moves).pending = 1 →
      Due key (l.setQueue key ((l.queue key).push timeout owner moves))
  queuedBehind {l : Link σ} (key : ReplyKey) (timeout owner : Nat) (moves : List Move) :
    Rest l → ((l.queue key).push timeout owner moves).pending ≠ 1 →
      Rest (l.setQueue key ((l.queue key).push timeout owner moves))
  drained {l : Link σ} (key : ReplyKey) (fault : Fault) : Rest l → Rest (l.failAll key fault)
  noted {l : Link σ} {event : LinkEvent} : Rest l → event.isQuiet = true → Rest (l.note event)
  rewired {l : Link σ} (wire : σ) : Rest l → Rest { l with wire }

namespace Link

/-- A link at rest on which at most `bound` requests may still be started. -/
structure Settled (Rest : Link σ → Prop) (bound : Nat) (l : Link σ) : Prop where
  rest : Rest l
  light : l.weight ≤ bound

/-- What starts the head of a queue brings a link on which it is due to rest, as long as no more than
`fuel` requests may be started. -/
def Resumes (Rest : Link σ → Prop) (Due : ReplyKey → Link σ → Prop) (fuel : Nat)
    (resume : ReplyKey → Link σ → Link σ) : Prop :=
  ∀ key l bound, Due key l → l.weight ≤ bound → bound ≤ fuel → Settled Rest bound (resume key l)

end Link

namespace Discipline

open Link

variable {Rest : Link σ → Prop} {Due : ReplyKey → Link σ → Prop} (d : Discipline Rest Due)
include d

/-! ## The moves of a request -/

section Resuming

variable {fuel bound : Nat} {resume : ReplyKey → Link σ → Link σ} {l : Link σ}
  (resumes : Resumes Rest Due fuel resume)
include resumes

theorem completeThen (h : Settled Rest bound l) (within : bound ≤ fuel) (key : ReplyKey)
    (reply : Frame) : Settled Rest bound (l.completeThen resume key reply).2 := by
  unfold Link.completeThen
  split
  · exact h
  · rename_i r q popped
    obtain ⟨pop, started⟩ := Queue.popStarted?_eq_some_iff.mp popped
    refine resumes key _ bound (d.answered reply h.rest pop started) ?_ within
    exact Nat.le_trans (weight_settle_pop pop _) h.light

theorem failThen (h : Settled Rest bound l) (within : bound ≤ fuel) (key : ReplyKey)
    (fault : Fault) : Settled Rest bound (l.failThen resume key fault).2 := by
  unfold Link.failThen
  split
  · exact h
  · rename_i r q pop
    refine resumes key _ bound (d.failed fault h.rest pop) ?_ within
    exact Nat.le_trans (weight_settle_pop pop _) h.light

theorem submitThen (h : Settled Rest bound l) (key : ReplyKey) (timeout owner : Nat)
    (moves : List Move) (within : bound + (1 + Move.weights moves) ≤ fuel) :
    Settled Rest (bound + (1 + Move.weights moves))
      (l.submitThen resume key timeout owner moves) := by
  have light := h.light
  have heavier := weight_setQueue_push l key timeout owner moves
  unfold Link.submitThen
  simp only
  split
  · rename_i alone
    exact resumes key _ _ (d.queuedAlone key timeout owner moves h.rest alone) (by omega) within
  · rename_i behind
    exact ⟨d.queuedBehind key timeout owner moves h.rest behind, by omega⟩

theorem dispatchThen (h : Settled Rest bound l) (within : bound ≤ fuel) (frame : Frame) :
    Settled Rest bound (l.dispatchThen resume frame).2 := by
  unfold Link.dispatchThen
  split
  · exact h
  · exact d.completeThen resumes h within _ frame

theorem receiveThen (h : Settled Rest bound l) (within : bound ≤ fuel) (frame : Frame) :
    Settled Rest bound (l.receiveThen resume frame) := by
  have dispatched := d.dispatchThen resumes h within frame
  unfold Link.receiveThen
  split <;> rename_i eq <;> rw [eq] at dispatched
  · exact dispatched
  · exact ⟨d.noted dispatched.rest rfl, dispatched.light⟩

theorem receiveAll (frames : List Frame) (h : Settled Rest bound l) (within : bound ≤ fuel) :
    Settled Rest bound (frames.foldl (Link.receiveThen resume) l) := by
  induction frames generalizing l with
  | nil => exact h
  | cons frame rest ih => exact ih (d.receiveThen resumes h within frame)

theorem transmitThen [Transport σ] (h : Settled Rest bound l) (within : bound ≤ fuel)
    (frame : Frame) : Settled Rest bound (l.transmitThen resume frame).2 := by
  unfold Link.transmitThen
  split
  · rename_i fault wire _
    exact ⟨d.rewired wire h.rest, h.light⟩
  · rename_i replies wire _
    exact d.receiveAll resumes replies ⟨d.rewired wire h.rest, h.light⟩ within

theorem perform [Transport σ] (h : Settled Rest bound l) (move : Move)
    (within : bound + move.weight ≤ fuel) :
    Settled Rest (bound + move.weight) (l.perform resume move).2 := by
  cases move with
  | transmit frame => exact d.transmitThen resumes h within frame
  | complete key reply =>
      have done := d.completeThen resumes h within key reply
      exact ⟨d.noted done.rest rfl, done.light⟩
  | fail key fault =>
      have done := d.failThen resumes h within key fault
      exact ⟨d.noted done.rest rfl, done.light⟩
  | failAll key fault =>
      exact ⟨d.drained key fault h.rest, Nat.le_trans (weight_failAll l key fault) h.light⟩
  | submit key timeout owner moves =>
      unfold Move.weight at within ⊢
      have done := d.submitThen resumes h key timeout owner moves within
      exact ⟨d.noted done.rest rfl, done.light⟩
  | hold => exact h
  | refuse fault => exact h

theorem performAll [Transport σ] (moves : List Move) (h : Settled Rest bound l)
    (within : bound + Move.weights moves ≤ fuel) :
    Settled Rest (bound + Move.weights moves) (l.performAll resume moves).2 := by
  induction moves generalizing l bound with
  | nil => exact h
  | cons move rest ih =>
      unfold Move.weights at within ⊢
      have first := d.perform resumes h move (by omega)
      unfold Link.performAll
      split <;> rename_i eq <;> rw [eq] at first
      · exact ⟨first.rest, Nat.le_trans first.light (by omega)⟩
      · have others := ih first (by omega)
        rw [← Nat.add_assoc]
        exact others

end Resuming

/-! ## Starting requests -/

variable [Transport σ]

/-- The induction is on the number of requests that may be started: the moves of a request are made
with what is left once it has been started. -/
theorem activateWithin (fuel : Nat) : Resumes Rest Due fuel (Link.activateWithin fuel) := by
  induction fuel with
  | zero =>
      intro key l bound due light within
      have none := startHead?_of_weight (by omega : l.weight = 0) key
      exact ⟨d.idle due none, light⟩
  | succ fuel ih =>
      intro key l bound due light within
      unfold Link.activateWithin
      split
      · rename_i none
        exact ⟨d.idle due none, light⟩
      · rename_i r moves l₁ start
        have lighter := weight_startHead? start
        have made := d.performAll ih moves
          (⟨d.started due start, Nat.le_refl _⟩ : Settled Rest l₁.weight l₁) (by omega)
        split <;> rename_i eq <;> rw [eq] at made
        · exact ⟨made.rest, Nat.le_trans made.light (by omega)⟩
        · -- It was refused, and fails unless it was settled while it was being sent.
          rename_i fault l₂
          have made : Settled Rest (l₁.weight + Move.weights moves) l₂ := made
          have light₂ := made.light
          split
          · exact ⟨made.rest, by omega⟩
          · rename_i r' q popped
            obtain ⟨pop, -⟩ := Queue.popTicket?_eq_some_iff.mp popped
            have removed := weight_settle_pop pop (.error fault)
            have resumed := ih key _ _ (d.failed fault made.rest pop) (Nat.le_refl _) (by omega)
            have light₃ := resumed.light
            exact ⟨resumed.rest, by omega⟩

theorem resumes_activate (fuel : Nat) : Resumes Rest Due fuel Link.activate := by
  intro key l bound due light _
  have done := d.activateWithin l.weight key l l.weight due (Nat.le_refl _) (Nat.le_refl _)
  exact ⟨done.rest, Nat.le_trans done.light light⟩

theorem activate {key : ReplyKey} {l : Link σ} (due : Due key l) : Rest (l.activate key) :=
  (d.resumes_activate l.weight key l l.weight due (Nat.le_refl _) (Nat.le_refl _)).rest

/-! ## Operations -/

variable {l : Link σ}

theorem complete (h : Rest l) (key : ReplyKey) (reply : Frame) : Rest (l.complete key reply).2 :=
  (d.completeThen (d.resumes_activate l.weight) ⟨h, Nat.le_refl _⟩ (Nat.le_refl _) key reply).rest

theorem fail (h : Rest l) (key : ReplyKey) (fault : Fault) : Rest (l.fail key fault).2 :=
  (d.failThen (d.resumes_activate l.weight) ⟨h, Nat.le_refl _⟩ (Nat.le_refl _) key fault).rest

theorem submit (h : Rest l) (key : ReplyKey) (timeout owner : Nat) (moves : List Move) :
    Rest (l.submit key timeout owner moves) :=
  (d.submitThen (d.resumes_activate _) ⟨h, Nat.le_refl _⟩ key timeout owner moves
    (Nat.le_refl _)).rest

theorem receive (h : Rest l) (frame : Frame) : Rest (l.receive frame) :=
  (d.receiveThen (d.resumes_activate l.weight) ⟨h, Nat.le_refl _⟩ (Nat.le_refl _) frame).rest

theorem transmit (h : Rest l) (frame : Frame) : Rest (l.transmit frame).2 :=
  (d.transmitThen (d.resumes_activate l.weight) ⟨h, Nat.le_refl _⟩ (Nat.le_refl _) frame).rest

theorem expire (h : Rest l) (key : ReplyKey) (ticket : Nat) : Rest (l.expire key ticket) := by
  unfold Link.expire
  split
  · exact h
  · rename_i r q popped
    exact d.activate (d.failed _ h (Queue.popTicket?_eq_some_iff.mp popped).1)

omit [Transport σ] in
theorem failEvery (queues : List (ReplyKey × Queue)) (fault : Fault) (h : Rest l) :
    Rest (queues.foldl (fun l (key, _) => l.failAll key fault) l) := by
  induction queues generalizing l with
  | nil => exact h
  | cons entry rest ih => exact ih (d.drained entry.1 fault h)

omit [Transport σ] in
theorem close (h : Rest l) : Rest l.close := d.failEvery l.queues .closed h

omit [Transport σ] in
theorem giveUp (h : Rest l) : Rest l.giveUp := by
  unfold Link.giveUp
  split
  · exact d.failEvery l.queues .dropped h
  · exact h

theorem expireDue (h : Rest l) : Rest l.expireDue := by
  unfold Link.expireDue
  generalize l.timers.filter (·.due ≤ l.now) = due
  induction due generalizing l with
  | nil => exact h
  | cons timer rest ih => exact ih (d.giveUp (d.expire h timer.key timer.ticket))

end Discipline

/-! ## Time

Nothing but the passing of time moves the clock, and that only forwards. -/

/-- Every operation keeps the clock. -/
theorem Discipline.clock (now : Nat) :
    Discipline (fun l : Link σ => l.now = now) (fun _ l => l.now = now) where
  started := by
    intro key l l' r moves h start
    obtain ⟨q, -, rfl⟩ := Link.startHead?_eq_some start
    exact h
  idle := fun h _ => h
  answered := fun _ h _ _ => h
  failed := fun _ h _ => h
  queuedAlone := fun _ _ _ _ h _ => h
  queuedBehind := fun _ _ _ _ h _ => h
  drained := by
    intro l key fault h
    unfold Link.failAll
    have kept (l : Link σ) (requests : List Request) :
        (requests.foldl (fun l r => l.settle key r (.error fault)) l).now = l.now := by
      induction requests generalizing l with
      | nil => rfl
      | cons r rest ih =>
          rw [List.foldl_cons, ih]
          rfl
    rw [kept]
    exact h
  noted := fun h _ => h
  rewired := fun _ h => h

namespace Discipline

variable [Transport σ] {Rest : Link σ → Prop} {Due : ReplyKey → Link σ → Prop}
  (d : Discipline Rest Due) {l : Link σ}
include d

/-- Where a later clock changes nothing, neither does the passing of time. -/
theorem elapse (later : ∀ (l : Link σ) now, l.now ≤ now → Rest l → Rest { l with now }) (h : Rest l)
    (milliseconds : Nat) : Rest (l.elapse milliseconds) := by
  unfold Link.elapse
  have ahead : l.now ≤ l.now + milliseconds := Nat.le_add_right ..
  generalize l.outstanding + 1 = rounds
  generalize l.now + milliseconds = target at ahead ⊢
  induction rounds generalizing l with
  | zero => exact later l target ahead h
  | succ rounds ih =>
      unfold Link.elapseWithin
      split
      · exact later l target ahead h
      · rename_i due _
        split
        · have moved := later l (max l.now due) (Nat.le_max_left ..) h
          refine ih (d.expireDue moved) ?_
          have kept := (Discipline.clock (max l.now due)).expireDue (l := { l with now := _ }) rfl
          omega
        · exact later l target ahead h

end Discipline

/-! ## Runs -/

namespace Link

/-- What users, boards and the clock do to a link. -/
inductive Step where
  | submit (key : ReplyKey) (timeout owner : Nat) (moves : List Move)
  | complete (key : ReplyKey) (reply : Frame)
  | fail (key : ReplyKey) (fault : Fault)
  | failAll (key : ReplyKey) (fault : Fault)
  /-- A timer fires, even one of a request that was settled. -/
  | expire (key : ReplyKey) (ticket : Nat)
  /-- A frame arrives. -/
  | receive (frame : Frame)
  | transmit (frame : Frame)
  | elapse (milliseconds : Nat)
  | close
  | release

/-- Whether the step leaves the clock alone. -/
def Step.isPrompt : Step → Bool
  | .elapse _ => false
  | _ => true

variable [Transport σ]

def after (l : Link σ) : Step → Link σ
  | .submit key timeout owner moves => l.submit key timeout owner moves
  | .complete key reply => (l.complete key reply).2
  | .fail key fault => (l.fail key fault).2
  | .failAll key fault => l.failAll key fault
  | .expire key ticket => l.expire key ticket
  | .receive frame => l.receive frame
  | .transmit frame => (l.transmit frame).2
  | .elapse milliseconds => l.elapse milliseconds
  | .close => l.close
  | .release => l.release

/-- The link after some steps from when nothing was requested. -/
def run (wire : σ) (now : Nat) (runtime : Runtime) (steps : List Step) : Link σ :=
  steps.foldl after (new wire now runtime)

end Link

namespace Discipline

variable [Transport σ] {Rest : Link σ → Prop} {Due : ReplyKey → Link σ → Prop}
  (d : Discipline Rest Due) {l : Link σ}
include d

/-- What every primitive change keeps holds after every step that leaves the clock alone. -/
theorem atOnce (freed : ∀ l : Link σ, Rest l → Rest { l with isReleased := true }) (h : Rest l)
    (step : Link.Step) (prompt : step.isPrompt = true) : Rest (l.after step) := by
  cases step with
  | submit key timeout owner moves => exact d.submit h key timeout owner moves
  | complete key reply => exact d.complete h key reply
  | fail key fault => exact d.fail h key fault
  | failAll key fault => exact d.drained key fault h
  | expire key ticket => exact d.expire h key ticket
  | receive frame => exact d.receive h frame
  | transmit frame => exact d.transmit h frame
  | elapse milliseconds => contradiction
  | close => exact d.close h
  | release => exact d.giveUp (freed l h)

theorem after (later : ∀ (l : Link σ) now, l.now ≤ now → Rest l → Rest { l with now })
    (freed : ∀ l : Link σ, Rest l → Rest { l with isReleased := true }) (h : Rest l)
    (step : Link.Step) : Rest (l.after step) := by
  cases prompt : step.isPrompt with
  | true => exact d.atOnce freed h step prompt
  | false =>
      cases step with
      | elapse milliseconds => exact d.elapse later h milliseconds
      | _ => contradiction

/-- What every primitive change keeps holds after every run. -/
theorem run (later : ∀ (l : Link σ) now, l.now ≤ now → Rest l → Rest { l with now })
    (freed : ∀ l : Link σ, Rest l → Rest { l with isReleased := true }) {wire : σ} {now : Nat}
    {runtime : Runtime} (fresh : Rest (.new wire now runtime)) (steps : List Link.Step) :
    Rest (Link.run wire now runtime steps) := by
  unfold Link.run
  generalize Link.new wire now runtime = l at fresh
  induction steps generalizing l with
  | nil => exact fresh
  | cons step rest ih => exact ih _ (d.after later freed fresh step)

end Discipline

end SensorHost
