import Mathlib.Logic.Relation
import SensorHost.Proofs.Exchange.Alone
import SensorHost.Proofs.Session.Listeners
import SensorHost.Proofs.Session.Runs

/-!
# One call at a time

A session on which one call is made at a time. While the call waits, the board may change by itself
and hand over frames, timers may fire and the link may be closed (`Session.Meanwhile`).
`Session.Solo` says what such a call does, with everything that it sent and asked and what came
back.

What came back is not left open here, as it is in a run of the dialogue. On an idle session
(`Session.Idle`) a question is answered by the board or by the end of the wait: `carried_of_solo`
says so, frame by frame on the transport (`Carries`), and that the session is idle again afterwards.
-/

namespace SensorHost

/-- What a call ended with, if it has come to its end. -/
def Progress.result? {α : Type} : Progress α → Option α
  | .finished a => some a
  | .awaiting _ | .pausing .. => none

theorem Progress.result?_eq_some_iff {α : Type} {progress : Progress α} {a : α} :
    progress.result? = some a ↔ progress = .finished a := by
  cases progress <;> simp [result?]

/-! ## What a transport does -/

section Traffic

variable {σ : Type} (Stirs : σ → Option Frame → σ → Prop)

/-- The transport changes by itself, and what it hands over on the way goes unnoticed. -/
def Drifts : σ → σ → Prop := Relation.ReflTransGen fun w w' => ∃ frame?, Stirs w frame? w'

/-- What may become of a question whose frames were all taken. -/
inductive Settles (key : ReplyKey) (timeout : Nat) (w w' : σ) : Except Fault Frame → Prop
  | arrived {w₁ w₂ : σ} {frame : Frame} : Drifts Stirs w w₁ → Stirs w₁ (some frame) w₂ →
    Drifts Stirs w₂ w' → ReplyKey.ofFrame? frame = some key → Settles key timeout w w' (.ok frame)
  | timedOut : Drifts Stirs w w' → Settles key timeout w w' (.error (.timeout key.text timeout))
  | closed : Drifts Stirs w w' → Settles key timeout w w' (.error .closed)

namespace Settles

variable {Stirs} {key : ReplyKey} {timeout : Nat} {w w₁ w' : σ} {reply : Except Fault Frame}

theorem after (h : Settles Stirs key timeout w₁ w' reply) (drifts : Drifts Stirs w w₁) :
    Settles Stirs key timeout w w' reply := by
  cases h with
  | arrived first stirs last on => exact .arrived (drifts.trans first) stirs last on
  | timedOut later => exact .timedOut (drifts.trans later)
  | closed later => exact .closed (drifts.trans later)

theorem before (h : Settles Stirs key timeout w w₁ reply) (drifts : Drifts Stirs w₁ w') :
    Settles Stirs key timeout w w' reply := by
  cases h with
  | arrived first stirs last on => exact .arrived first stirs (last.trans drifts) on
  | timedOut earlier => exact .timedOut (earlier.trans drifts)
  | closed earlier => exact .closed (earlier.trans drifts)

end Settles

variable [Transport σ]

/-- How a question is answered: by a frame that came back at once, by the refusal of a frame, or
later. -/
inductive Answers (key : ReplyKey) (timeout : Nat) (frames : List Frame) (w w' : σ) :
    Except Fault Frame → Prop
  | atOnce {frame : Frame} : firstOn key (Transport.sendAll w frames).1 = some frame →
    Drifts Stirs (Transport.sendAll w frames).2.2 w' → Answers key timeout frames w w' (.ok frame)
  | refused {fault : Fault} : firstOn key (Transport.sendAll w frames).1 = none →
    (Transport.sendAll w frames).2.1 = .error fault →
    Drifts Stirs (Transport.sendAll w frames).2.2 w' →
    Answers key timeout frames w w' (.error fault)
  | later {reply : Except Fault Frame} : firstOn key (Transport.sendAll w frames).1 = none →
    (Transport.sendAll w frames).2.1 = .ok () →
    Settles Stirs key timeout (Transport.sendAll w frames).2.2 w' reply →
    Answers key timeout frames w w' reply

/-- A question of one frame: the frame is refused, or the first frame that comes back on the key is
the answer. -/
theorem answers_single {Stirs} {key : ReplyKey} {timeout : Nat} {frame : Frame} {w w' : σ}
    {reply : Except Fault Frame} (answers : Answers Stirs key timeout [frame] w w' reply) :
    (∃ fault w₁, Transport.send w frame = (.error fault, w₁) ∧ reply = .error fault ∧
        Drifts Stirs w₁ w') ∨
      ∃ replies w₁, Transport.send w frame = (.ok replies, w₁) ∧
        ((∃ answer, firstOn key replies = some answer ∧ reply = .ok answer ∧ Drifts Stirs w₁ w') ∨
          firstOn key replies = none ∧ Settles Stirs key timeout w₁ w' reply) := by
  cases sent : Transport.send w frame with
  | mk result w₁ =>
    cases result with
    | error fault =>
        have all : Transport.sendAll w [frame] = ([], .error fault, w₁) := by
          simp only [Transport.sendAll, sent]
        cases answers with
        | atOnce first _ =>
            rw [all] at first
            contradiction
        | refused _ refused drifts =>
            rw [all] at refused drifts
            obtain rfl := Except.error.inj refused
            exact .inl ⟨_, w₁, rfl, rfl, drifts⟩
        | later _ taken _ =>
            rw [all] at taken
            contradiction
    | ok replies =>
        have all : Transport.sendAll w [frame] = (replies, .ok (), w₁) := by
          simp only [Transport.sendAll, sent, List.append_nil]
        refine .inr ⟨replies, w₁, rfl, ?_⟩
        cases answers with
        | atOnce first drifts =>
            rw [all] at first drifts
            exact .inl ⟨_, first, rfl, drifts⟩
        | refused _ refused _ =>
            rw [all] at refused
            contradiction
        | later none _ settles =>
            rw [all] at none settles
            exact .inr ⟨none, settles⟩

/-- What was sent and asked, and what came back, over a transport on which nothing else is sent. -/
inductive Carries : σ → List Exchange → σ → Prop
  | nil {w : σ} : Carries w [] w
  | sent {w w' : σ} {frame : Frame} {t : List Exchange} : Carries (Transport.send w frame).2 t w' →
    Carries w (.sent frame ((Transport.send w frame).1.map fun _ => ()) :: t) w'
  | asked {w w₁ w' : σ} {key : ReplyKey} {timeout : Nat} {frames : List Frame}
      {reply : Except Fault Frame} {t : List Exchange} :
    Answers Stirs key timeout frames w w₁ reply → Carries w₁ t w' →
    Carries w (.asked key timeout frames reply :: t) w'
  | paused {w w₁ w' : σ} {milliseconds : Nat} {t : List Exchange} :
    Drifts Stirs w w₁ → Carries w₁ t w' → Carries w (.paused milliseconds :: t) w'

variable {Stirs}

theorem carries_sent {w w' : σ} {frame : Frame} {result : Except Fault Unit} :
    Carries Stirs w [.sent frame result] w' ↔
      result = (Transport.send w frame).1.map (fun _ => ()) ∧ w' = (Transport.send w frame).2 := by
  constructor
  · intro carries
    generalize one : [Exchange.sent frame result] = t at carries
    cases carries with
    | sent carries =>
        obtain ⟨same, rfl⟩ := List.cons.inj one
        obtain ⟨rfl, rfl⟩ := Exchange.sent.inj same
        cases carries
        exact ⟨rfl, rfl⟩
    | _ => simp at one
  · rintro ⟨rfl, rfl⟩
    exact .sent .nil

theorem carries_asked {w w' : σ} {key : ReplyKey} {timeout : Nat} {frames : List Frame}
    {reply : Except Fault Frame} :
    Carries Stirs w [.asked key timeout frames reply] w' ↔
      Answers Stirs key timeout frames w w' reply := by
  constructor
  · intro carries
    generalize one : [Exchange.asked key timeout frames reply] = t at carries
    cases carries with
    | asked answers carries =>
        obtain ⟨same, rfl⟩ := List.cons.inj one
        obtain ⟨rfl, rfl, rfl, rfl⟩ := Exchange.asked.inj same
        cases carries
        exact answers
    | _ => simp at one
  · exact fun answers => .asked answers .nil

theorem carries_append {w w' : σ} {t t' : List Exchange} :
    Carries Stirs w (t ++ t') w' ↔ ∃ w₁, Carries Stirs w t w₁ ∧ Carries Stirs w₁ t' w' := by
  constructor
  · intro carries
    induction t generalizing w with
    | nil => exact ⟨w, .nil, carries⟩
    | cons exchange rest ih =>
        cases carries with
        | sent carries =>
            obtain ⟨w₁, first, second⟩ := ih carries
            exact ⟨w₁, .sent first, second⟩
        | asked answers carries =>
            obtain ⟨w₁, first, second⟩ := ih carries
            exact ⟨w₁, .asked answers first, second⟩
        | paused drifts carries =>
            obtain ⟨w₁, first, second⟩ := ih carries
            exact ⟨w₁, .paused drifts first, second⟩
  · rintro ⟨w₁, first, second⟩
    induction first with
    | nil => exact second
    | sent _ ih => exact .sent (ih second)
    | asked answers _ ih => exact .asked answers (ih second)
    | paused drifts _ ih => exact .paused drifts (ih second)

end Traffic

namespace Session

variable {σ α : Type} {s s' : Session σ}

/-! ## Idle sessions -/

/-- The link of the session stands at one request at most, and these outcomes were not taken
yet. -/
structure Stands (s : Session σ) (held : Option (ReplyKey × Request))
    (outcomes : List (Nat × Except Fault Frame)) : Prop where
  link : s.link.Stands held []
  outcomes : s.outcomes = outcomes

/-- Nothing waits on the session. -/
def Idle (s : Session σ) : Prop := s.Stands none []

theorem idle_new (settings : Settings) (wire : σ) (now : Nat) (runtime : Runtime) :
    (new settings wire now runtime).Idle :=
  ⟨Link.stands_new wire now runtime, rfl⟩

theorem foldl_absorbEvent (journal : List LinkEvent) (s : Session σ) :
    (journal.foldl absorbEvent s).link = s.link ∧
      (journal.foldl absorbEvent s).outcomes =
        s.outcomes ++ journal.filterMap LinkEvent.outcome? := by
  induction journal generalizing s with
  | nil => exact ⟨rfl, (List.append_nil _).symm⟩
  | cons event rest ih =>
      obtain ⟨link, outcomes⟩ := ih (s.absorbEvent event)
      rw [List.foldl_cons, link, outcomes, List.filterMap_cons]
      cases event <;> simp [absorbEvent, LinkEvent.outcome?]

/-- The results that were given on the link become outcomes. -/
theorem stands_absorb {link : Link σ} {held : Option (ReplyKey × Request)}
    {results outcomes : List (Nat × Except Fault Frame)} (h : link.Stands held results)
    (before : s.outcomes = outcomes) :
    ({ s with link } : Session σ).absorb.Stands held (outcomes ++ results) ∧
      ({ s with link } : Session σ).absorb.link.wire = link.wire := by
  obtain ⟨kept, absorbed⟩ :=
    foldl_absorbEvent link.journal { s with link := { link with journal := [] } }
  have same : ({ s with link } : Session σ).absorb.link = { link with journal := [] } := kept
  refine ⟨⟨?_, ?_⟩, by rw [same]⟩
  · rw [same]
    exact ⟨h.label, h.requests, h.started, rfl⟩
  · rw [← h.results, ← before]
    exact absorbed

/-! ## What happens while a call waits -/

variable [Transport σ]

/-- What may happen on a session while no call has a turn. -/
inductive Meanwhile (Stirs : σ → Option Frame → σ → Prop) : Session σ → Session σ → Prop
  /-- The board changes. -/
  | stirs {s : Session σ} {wire : σ} : Stirs s.link.wire none wire →
    Meanwhile Stirs s (s.withWire wire)
  /-- The board changes and hands over a frame. -/
  | arrives {s : Session σ} {wire : σ} {frame : Frame} : Stirs s.link.wire (some frame) wire →
    Meanwhile Stirs s ((s.withWire wire).receive frame)
  /-- A timer fires, even one of a request that was settled. -/
  | expires {s : Session σ} (key : ReplyKey) (ticket : Nat) :
    Meanwhile Stirs s (s.expire key ticket)
  | closes {s : Session σ} : Meanwhile Stirs s s.close
  /-- Time passes. -/
  | passes {s : Session σ} (now nextTimer : Nat) :
    Meanwhile Stirs s { s with link := { s.link with now, nextTimer } }

/-- The call of `owner`, made on a session on which no other call is made, leaves this trace, ends
with this result and leaves that session. -/
inductive Solo (Stirs : σ → Option Frame → σ → Prop) (owner : Nat) {waits : Bool} :
    Dialogue waits α → Session σ → List Exchange → α → Session σ → Prop
  | done {s : Session σ} {a : α} : Solo Stirs owner (.done a) s [] a s
  | look {resume : Host → Dialogue waits α} {s s' : Session σ} {t : List Exchange} {a : α} :
    Solo Stirs owner (resume s.host) s t a s' → Solo Stirs owner (.look resume) s t a s'
  | update {change : Host → Host} {next : Dialogue waits α} {s s' : Session σ} {t : List Exchange}
      {a : α} :
    Solo Stirs owner next { s with host := change s.host } t a s' →
      Solo Stirs owner (.update change next) s t a s'
  | measure {resume : Nat → Dialogue waits α} {s s' : Session σ} {t : List Exchange} {a : α} :
    Solo Stirs owner (resume (Transport.frameLimit s.link.wire)) s t a s' →
      Solo Stirs owner (.measure resume) s t a s'
  | transmit {frame : Frame} {resume : Except Fault Unit → Dialogue waits α} {s s' : Session σ}
      {t : List Exchange} {a : α} :
    Solo Stirs owner (resume (s.transmit frame).1) (s.transmit frame).2 t a s' →
      Solo Stirs owner (.transmit frame resume) s (.sent frame (s.transmit frame).1 :: t) a s'
  | ask {may : waits = true} {key : ReplyKey} {timeout : Nat} {frames : List Frame}
      {resume : Except Fault Frame → Dialogue waits α} {s s₁ s₂ s' : Session σ}
      {reply : Except Fault Frame} {t : List Exchange} {a : α} :
    Relation.ReflTransGen (Meanwhile Stirs) (s.request key timeout owner frames) s₁ →
      s₁.takeOutcome? owner = some (reply, s₂) → Solo Stirs owner (resume reply) s₂ t a s' →
      Solo Stirs owner (.ask may key timeout frames resume) s
        (.asked key timeout frames reply :: t) a s'
  | pause {may : waits = true} {milliseconds : Nat} {next : Dialogue waits α} {s s₁ s' : Session σ}
      {t : List Exchange} {a : α} :
    Relation.ReflTransGen (Meanwhile Stirs) s s₁ → Solo Stirs owner next s₁ t a s' →
      Solo Stirs owner (.pause may milliseconds next) s (.paused milliseconds :: t) a s'

variable {Stirs : σ → Option Frame → σ → Prop}

/-! ## Calls made piece by piece -/

/-- A call goes on at once with an answer that is there. -/
theorem advance_ask {owner timeout : Nat} {may : true = true} {key : ReplyKey}
    {frames : List Frame} {reply : Except Fault Frame}
    {resume : Except Fault Frame → Dialogue true α}
    (taken : (s.request key timeout owner frames).takeOutcome? owner = some (reply, s')) :
    advance owner (.ask may key timeout frames resume) s = advance owner (resume reply) s' := by
  rw [advance]
  simp only [taken]

/-- A call that has come this far ends with this result and leaves that session. -/
inductive Concludes (Stirs : σ → Option Frame → σ → Prop) (owner : Nat) :
    Progress α × Session σ → α → Session σ → Prop
  | finished {s : Session σ} {a : α} : Concludes Stirs owner (.finished a, s) a s
  | awaiting {s s₁ s₂ s' : Session σ} {resume : Except Fault Frame → Dialogue true α}
      {reply : Except Fault Frame} {a : α} :
    Relation.ReflTransGen (Meanwhile Stirs) s s₁ → s₁.takeOutcome? owner = some (reply, s₂) →
      Concludes Stirs owner (advance owner (resume reply) s₂) a s' →
      Concludes Stirs owner (.awaiting resume, s) a s'
  | pausing {s s₁ s' : Session σ} {milliseconds : Nat} {next : Dialogue true α} {a : α} :
    Relation.ReflTransGen (Meanwhile Stirs) s s₁ →
      Concludes Stirs owner (advance owner next s₁) a s' →
      Concludes Stirs owner (.pausing milliseconds next, s) a s'

theorem concludes_of_finished {owner : Nat} {d : Dialogue true α} {a : α}
    (h : advance owner d s = (.finished a, s')) :
    Concludes Stirs owner (advance owner d s) a s' := by
  rw [h]
  exact .finished

/-- What is left of a call after its first piece. -/
def Remains (Stirs : σ → Option Frame → σ → Prop) (owner : Nat) (a : α) (s' : Session σ) :
    Progress α × Session σ → Prop
  | (.finished b, s) => b = a ∧ s = s'
  | (.awaiting resume, s) => ∃ s₁ s₂ reply t, Relation.ReflTransGen (Meanwhile Stirs) s s₁ ∧
    s₁.takeOutcome? owner = some (reply, s₂) ∧ Solo Stirs owner (resume reply) s₂ t a s'
  | (.pausing _ next, s) => ∃ s₁ t, Relation.ReflTransGen (Meanwhile Stirs) s s₁ ∧
    Solo Stirs owner next s₁ t a s'

theorem solo_of_remains {owner : Nat} {d : Dialogue true α} {a : α}
    (h : Remains Stirs owner a s' (advance owner d s)) : ∃ t, Solo Stirs owner d s t a s' := by
  induction d generalizing s with
  | done b =>
      obtain ⟨rfl, rfl⟩ := h
      exact ⟨[], .done⟩
  | look resume ih =>
      obtain ⟨t, solo⟩ := ih s.host h
      exact ⟨t, .look solo⟩
  | update change next ih =>
      obtain ⟨t, solo⟩ := ih h
      exact ⟨t, .update solo⟩
  | measure resume ih =>
      obtain ⟨t, solo⟩ := ih _ h
      exact ⟨t, .measure solo⟩
  | transmit frame resume ih =>
      obtain ⟨t, solo⟩ := ih _ h
      exact ⟨_, .transmit solo⟩
  | ask may key timeout frames resume ih =>
      unfold advance at h
      simp only at h
      split at h
      · -- The answer was there at once.
        rename_i reply s₁ taken
        obtain ⟨t, solo⟩ := ih reply h
        exact ⟨_, .ask .refl taken solo⟩
      · obtain ⟨s₁, s₂, reply, t, meanwhile, taken, solo⟩ := h
        exact ⟨_, .ask meanwhile taken solo⟩
  | pause may milliseconds next ih =>
      obtain ⟨s₁, t, meanwhile, solo⟩ := h
      exact ⟨_, .pause meanwhile solo⟩

/-- The pieces of a call make one. -/
theorem solo_of_concludes {owner : Nat} {d : Dialogue true α} {a : α}
    (h : Concludes Stirs owner (advance owner d s) a s') : ∃ t, Solo Stirs owner d s t a s' := by
  apply solo_of_remains
  generalize advance owner d s = piece at h
  induction h with
  | finished => exact ⟨rfl, rfl⟩
  | awaiting meanwhile taken _ ih =>
      obtain ⟨t, solo⟩ := solo_of_remains ih
      exact ⟨_, _, _, t, meanwhile, taken, solo⟩
  | pausing meanwhile _ ih =>
      obtain ⟨t, solo⟩ := solo_of_remains ih
      exact ⟨_, t, meanwhile, solo⟩

theorem solo_of_perform {owner : Nat} {d : Dialogue false α} {a : α}
    (h : perform d s = (a, s')) : ∃ t, Solo Stirs owner d s t a s' := by
  induction d generalizing s with
  | done b =>
      obtain ⟨rfl, rfl⟩ := Prod.mk.inj h
      exact ⟨[], .done⟩
  | look resume ih =>
      obtain ⟨t, solo⟩ := ih s.host h
      exact ⟨t, .look solo⟩
  | update change next ih =>
      obtain ⟨t, solo⟩ := ih h
      exact ⟨t, .update solo⟩
  | measure resume ih =>
      obtain ⟨t, solo⟩ := ih _ h
      exact ⟨t, .measure solo⟩
  | transmit frame resume ih =>
      obtain ⟨t, solo⟩ := ih _ h
      exact ⟨_, .transmit solo⟩
  | ask may => nomatch may
  | pause may => nomatch may

/-! ## Calls one after the other -/

theorem solo_bind {β : Type} {owner : Nat} {waits : Bool} {d : Dialogue waits α}
    {f : α → Dialogue waits β} {t : List Exchange} {b : β}
    (solo : Solo Stirs owner (d.bind f) s t b s') : ∃ a t₁ s₁ t₂, t = t₁ ++ t₂ ∧
      Solo Stirs owner d s t₁ a s₁ ∧ Solo Stirs owner (f a) s₁ t₂ b s' := by
  induction d generalizing s t with
  | done a => exact ⟨a, [], s, t, rfl, .done, solo⟩
  | look resume ih =>
      cases solo with
      | look solo =>
        obtain ⟨a, t₁, s₁, t₂, eq, first, second⟩ := ih s.host solo
        exact ⟨a, t₁, s₁, t₂, eq, .look first, second⟩
  | update change next ih =>
      cases solo with
      | update solo =>
        obtain ⟨a, t₁, s₁, t₂, eq, first, second⟩ := ih solo
        exact ⟨a, t₁, s₁, t₂, eq, .update first, second⟩
  | measure resume ih =>
      cases solo with
      | measure solo =>
        obtain ⟨a, t₁, s₁, t₂, eq, first, second⟩ := ih _ solo
        exact ⟨a, t₁, s₁, t₂, eq, .measure first, second⟩
  | transmit frame resume ih =>
      cases solo with
      | transmit solo =>
        obtain ⟨a, t₁, s₁, t₂, rfl, first, second⟩ := ih _ solo
        exact ⟨a, _ :: t₁, s₁, t₂, rfl, .transmit first, second⟩
  | ask may key timeout frames resume ih =>
      cases solo with
      | ask meanwhile taken solo =>
        obtain ⟨a, t₁, s₁, t₂, rfl, first, second⟩ := ih _ solo
        exact ⟨a, _ :: t₁, s₁, t₂, rfl, .ask meanwhile taken first, second⟩
  | pause may milliseconds next ih =>
      cases solo with
      | pause meanwhile solo =>
        obtain ⟨a, t₁, s₁, t₂, rfl, first, second⟩ := ih solo
        exact ⟨a, _ :: t₁, s₁, t₂, rfl, .pause meanwhile first, second⟩

/-- A call that goes on after another one and succeeds went on after its success. -/
theorem solo_bind_ok {β : Type} {owner : Nat} {waits : Bool} {call : Call waits α}
    {f : α → Call waits β} {t : List Exchange} {b : β}
    (solo : Solo Stirs owner (call >>= f).run s t (.ok b) s') : ∃ a t₁ s₁ t₂, t = t₁ ++ t₂ ∧
      Solo Stirs owner call.run s t₁ (.ok a) s₁ ∧ Solo Stirs owner (f a).run s₁ t₂ (.ok b) s' := by
  obtain ⟨first, t₁, s₁, t₂, eq, one, two⟩ := solo_bind (f := ExceptT.bindCont f) solo
  cases first with
  | error fault => cases two
  | ok a => exact ⟨a, t₁, s₁, t₂, eq, one, two⟩

/-! ## What a wait comes to -/

/-- What becomes of a request, and of the transport, while a session waits. -/
def Awaits (Stirs : σ → Option Frame → σ → Prop) (held : Option (ReplyKey × Request))
    (outcomes : List (Nat × Except Fault Frame)) (h : Host) (w : σ) (s : Session σ) : Prop :=
  ListenersOnly h s.host ∧
    ((Drifts Stirs w s.link.wire ∧ s.Stands held outcomes) ∨
      ∃ key r reply, held = some (key, r) ∧ Settles Stirs key r.timeout w s.link.wire reply ∧
        s.Stands none (outcomes ++ [(r.owner, reply)]))

variable {held : Option (ReplyKey × Request)} {outcomes : List (Nat × Except Fault Frame)}

omit [Transport σ] in
/-- Something happened on the link, and the session takes note of it. -/
theorem awaits_absorb {w : σ} {link : Link σ} (taken : s.outcomes = outcomes)
    {possible : ReplyKey → Request → Except Fault Frame → Prop}
    (drifts : Drifts Stirs w link.wire) (becomes : Link.Stands.Becomes held [] possible link)
    (settles : ∀ key r reply, possible key r reply →
      Settles Stirs key r.timeout w link.wire reply) :
    Awaits Stirs held outcomes s.host w ({ s with link } : Session σ).absorb := by
  refine ⟨listenersOnly_absorb { s with link }, ?_⟩
  rcases becomes with stands | ⟨key, r, reply, rfl, possible, stands⟩
  · obtain ⟨stands', wire⟩ := stands_absorb stands taken
    rw [List.append_nil] at stands'
    rw [wire]
    exact .inl ⟨drifts, stands'⟩
  · obtain ⟨stands', wire⟩ := stands_absorb stands taken
    rw [wire]
    exact .inr ⟨key, r, reply, rfl, settles key r reply possible, stands'⟩

theorem Meanwhile.awaits (step : Meanwhile Stirs s s') (h : s.Stands held outcomes) :
    Awaits Stirs held outcomes s.host s.link.wire s' := by
  cases step with
  | stirs stirs => exact ⟨.refl _, .inl ⟨.single ⟨none, stirs⟩, h.link.rewire _, h.outcomes⟩⟩
  | @arrives wire frame stirs =>
      obtain ⟨kept, becomes⟩ := Link.Stands.receive (l := (s.withWire wire).link)
        (h.link.rewire wire) frame
      refine awaits_absorb (s := s.withWire wire) h.outcomes ?_ becomes ?_
      · rw [kept]
        exact .single ⟨some frame, stirs⟩
      · rw [kept]
        rintro key r _ ⟨on, rfl⟩
        exact .arrived .refl stirs .refl on
  | expires key ticket =>
      obtain ⟨kept, becomes⟩ := h.link.expire key ticket
      refine awaits_absorb h.outcomes ?_ becomes ?_
      · rw [kept]
        exact .refl
      · rw [kept]
        rintro key r _ rfl
        exact .timedOut .refl
  | closes =>
      obtain ⟨kept, becomes⟩ := h.link.close
      obtain ⟨listeners, rest⟩ : Awaits Stirs held outcomes s.host s.link.wire
          ({ s with link := s.link.close } : Session σ).absorb := by
        refine awaits_absorb h.outcomes ?_ becomes ?_
        · rw [kept]
          exact .refl
        · rw [kept]
          rintro key r _ rfl
          exact .closed .refl
      -- The subscriptions are dropped on top of that.
      refine ⟨listeners.trans ⟨[], rfl⟩, ?_⟩
      rcases rest with ⟨drifts, stands⟩ | ⟨key, r, reply, eq, settles, stands⟩
      · exact .inl ⟨drifts, stands.link, stands.outcomes⟩
      · exact .inr ⟨key, r, reply, eq, settles, stands.link, stands.outcomes⟩
  | passes now nextTimer =>
      exact ⟨.refl _, .inl ⟨.refl, ⟨h.link.label, h.link.requests, h.link.started, h.link.results⟩,
        h.outcomes⟩⟩

omit [Transport σ] in
theorem Awaits.trans {h : Host} {w : σ} (first : Awaits Stirs held outcomes h w s)
    (second : ∀ {held outcomes}, s.Stands held outcomes →
      Awaits Stirs held outcomes s.host s.link.wire s') :
    Awaits Stirs held outcomes h w s' := by
  obtain ⟨listeners, ⟨drifts, stands⟩ | ⟨key, r, reply, rfl, settles, stands⟩⟩ := first
  · obtain ⟨listeners', ⟨drifts', stands'⟩ | ⟨key, r, reply, rfl, settles, stands'⟩⟩ :=
      second stands
    · exact ⟨listeners.trans listeners', .inl ⟨drifts.trans drifts', stands'⟩⟩
    · exact ⟨listeners.trans listeners', .inr ⟨key, r, reply, rfl, settles.after drifts, stands'⟩⟩
  · -- Settled once, it is not settled again.
    obtain ⟨listeners', ⟨drifts', stands'⟩ | ⟨_, _, _, held, _⟩⟩ := second stands
    · exact ⟨listeners.trans listeners', .inr ⟨key, r, reply, rfl, settles.before drifts', stands'⟩⟩
    · contradiction

theorem awaits_meanwhile (steps : Relation.ReflTransGen (Meanwhile Stirs) s s')
    (h : s.Stands held outcomes) : Awaits Stirs held outcomes s.host s.link.wire s' := by
  induction steps with
  | refl => exact ⟨.refl _, .inl ⟨.refl, h⟩⟩
  | tail _ step ih => exact ih.trans step.awaits

omit [Transport σ] in
theorem takeOutcome?_eq_some {owner : Nat} {given : Except Fault Frame}
    (h : s.Stands none [(owner, given)]) :
    s.takeOutcome? owner = some (given, { s with outcomes := [] }) := by
  simp [takeOutcome?, h.outcomes]

omit [Transport σ] in
/-- The outcome that an idle session was given is the one that its call takes. -/
theorem idle_of_takeOutcome? {s₁ : Session σ} {owner : Nat} {given reply : Except Fault Frame}
    (h : s.Stands none [(owner, given)]) (taken : s.takeOutcome? owner = some (reply, s₁)) :
    reply = given ∧ s₁.Idle ∧ s₁.host = s.host ∧ s₁.link = s.link := by
  rw [takeOutcome?_eq_some h] at taken
  obtain ⟨rfl, rfl⟩ := Prod.mk.inj (Option.some.inj taken)
  exact ⟨rfl, ⟨h.link, rfl⟩, rfl, rfl⟩

omit [Transport σ] in
theorem takeOutcome?_eq_none (h : s.Stands held []) (owner : Nat) :
    s.takeOutcome? owner = none := by
  simp [takeOutcome?, h.outcomes]

theorem answers_of_ask {s₁ s₂ : Session σ} {key : ReplyKey} {timeout owner : Nat}
    {frames : List Frame} {reply : Except Fault Frame} (idle : s.Idle)
    (meanwhile : Relation.ReflTransGen (Meanwhile Stirs) (s.request key timeout owner frames) s₁)
    (taken : s₁.takeOutcome? owner = some (reply, s₂)) :
    Answers Stirs key timeout frames s.link.wire s₂.link.wire reply ∧
      ListenersOnly s.host s₂.host ∧ s₂.Idle := by
  have listeners := listenersOnly_request s key timeout owner frames
  obtain ⟨wire, answer⟩ := idle.link.request key timeout owner frames
  -- What was settled while the frames were sent stays settled while the session waits.
  have settled {given : Except Fault Frame}
      (stands : (s.link.request key timeout owner frames).Stands none ([] ++ [(owner, given)])) :
      reply = given ∧ s₂.Idle ∧ ListenersOnly s.host s₂.host ∧
        Drifts Stirs (Transport.sendAll s.link.wire frames).2.2 s₂.link.wire := by
    obtain ⟨stands, wire'⟩ := stands_absorb stands idle.outcomes
    obtain ⟨listeners', ⟨drifts, stands'⟩ | ⟨_, _, _, held, _⟩⟩ := awaits_meanwhile meanwhile stands
    · obtain ⟨rfl, idle', host, link⟩ := idle_of_takeOutcome? stands' taken
      rw [host, link, ← wire, ← wire']
      exact ⟨rfl, idle', listeners.trans listeners', drifts⟩
    · contradiction
  split at answer
  · rename_i frame first
    obtain ⟨rfl, idle', listeners', drifts⟩ := settled answer
    exact ⟨.atOnce first drifts, listeners', idle'⟩
  · rename_i fault first refused
    obtain ⟨rfl, idle', listeners', drifts⟩ := settled answer
    exact ⟨.refused first refused drifts, listeners', idle'⟩
  · -- All frames were taken, and the request waits.
    rename_i first sent
    obtain ⟨r, rfl, rfl, stands⟩ := answer
    obtain ⟨stands, wire'⟩ := stands_absorb stands idle.outcomes
    obtain ⟨listeners', ⟨-, stands'⟩ | ⟨key', r', given, held, settles, stands'⟩⟩ :=
      awaits_meanwhile meanwhile stands
    · rw [takeOutcome?_eq_none stands'] at taken
      contradiction
    · obtain ⟨rfl, rfl⟩ := Prod.mk.inj (Option.some.inj held)
      obtain ⟨rfl, idle', host, link⟩ := idle_of_takeOutcome? stands' taken
      rw [host, link]
      refine ⟨.later first sent ?_, listeners.trans listeners', idle'⟩
      rw [← wire, ← wire']
      exact settles

/-- A call on an idle session is a run of its dialogue whose trace the transport carried, and it
leaves the session idle. -/
theorem carried_of_solo {owner : Nat} {waits : Bool} {d : Dialogue waits α} {t : List Exchange}
    {a : α} (solo : Solo Stirs owner d s t a s') (idle : s.Idle) :
    d.Runs ListenersOnly s.host t a s'.host ∧ Carries Stirs s.link.wire t s'.link.wire ∧
      s'.Idle := by
  induction solo with
  | done => exact ⟨.done, .nil, idle⟩
  | look _ ih =>
      obtain ⟨runs, carries, idle'⟩ := ih idle
      exact ⟨.look runs, carries, idle'⟩
  | update _ ih =>
      obtain ⟨runs, carries, idle'⟩ := ih ⟨idle.link, idle.outcomes⟩
      exact ⟨.update runs, carries, idle'⟩
  | measure _ ih =>
      obtain ⟨runs, carries, idle'⟩ := ih idle
      exact ⟨.measure _ runs, carries, idle'⟩
  | @transmit frame resume s s' t a _ ih =>
      obtain ⟨result, wire, stands⟩ := idle.link.transmit frame
      obtain ⟨stands, wire'⟩ := stands_absorb stands idle.outcomes
      obtain ⟨runs, carries, idle'⟩ := ih stands
      refine ⟨.transmit _ (listenersOnly_transmit s frame) runs, ?_, idle'⟩
      have sent : (s.transmit frame).1 = (Transport.send s.link.wire frame).1.map fun _ => () :=
        result
      rw [sent]
      refine .sent ?_
      rw [← wire, ← wire']
      exact carries
  | ask meanwhile taken _ ih =>
      obtain ⟨answers, listeners, idle'⟩ := answers_of_ask idle meanwhile taken
      obtain ⟨runs, carries, idle''⟩ := ih idle'
      exact ⟨.ask _ listeners runs, .asked answers carries, idle''⟩
  | pause meanwhile _ ih =>
      obtain ⟨listeners, ⟨drifts, stands⟩ | ⟨_, _, _, held, _⟩⟩ := awaits_meanwhile meanwhile idle
      · obtain ⟨runs, carries, idle'⟩ := ih stands
        exact ⟨.pause listeners runs, .paused drifts carries, idle'⟩
      · contradiction

end Session

end SensorHost
