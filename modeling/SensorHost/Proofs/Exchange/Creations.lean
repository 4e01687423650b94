import SensorHost.Proofs.Board.Registrar
import SensorHost.Proofs.Exchange.Alone
import SensorHost.Proofs.Exchange.Order

/-!
# Creations that wait for their turn

A link on which any number of creations were asked for, and nothing else, over a board that answers them
honestly. `Link.Books` says where such a link stands: the creations that have come to their end, with
what became of them on the board and the results that were given; the one that is under way; and those
that wait. Every operation keeps the books (`Link.Rests`): what is given to the caller is what became of
its creation, and the next creation is not handed to the board before the last one has come to its end.
-/

namespace SensorHost

/-- A creation that somebody asked for. -/
structure Ask where
  owner : Nat
  timeout : Nat
  frame : Frame

namespace Ask

/-- The request before it is started. -/
def request (ask : Ask) (ticket : Nat) : Request :=
  ⟨ticket, ask.owner, ask.timeout, some [.transmit ask.frame]⟩

/-- The request once it is started. -/
def started (ask : Ask) (ticket : Nat) : Request := ⟨ticket, ask.owner, ask.timeout, none⟩

/-- The requests of some creations that wait. -/
def queued (ticket : Nat) : List Ask → List Request
  | [] => []
  | ask :: rest => ask.request ticket :: queued (ticket + 1) rest

theorem queued_concat (ticket : Nat) (asks : List Ask) (ask : Ask) :
    queued ticket (asks ++ [ask]) = queued ticket asks ++ [ask.request (ticket + asks.length)] := by
  induction asks generalizing ticket with
  | nil => rfl
  | cons head rest ih =>
      rw [List.cons_append, queued, ih, queued, List.cons_append, List.length_cons]
      rw [Nat.add_right_comm ticket 1, Nat.add_assoc]

theorem length_queued (ticket : Nat) (asks : List Ask) :
    (queued ticket asks).length = asks.length := by
  induction asks generalizing ticket with
  | nil => rfl
  | cons ask rest ih => rw [queued, List.length_cons, ih, List.length_cons]

theorem total_queued (ticket : Nat) (asks : List Ask) :
    total Request.weight (queued ticket asks) = asks.length := by
  induction asks generalizing ticket with
  | nil => rfl
  | cons ask rest ih =>
      rw [queued, total_cons, ih, List.length_cons]
      exact Nat.add_comm 1 _

end Ask

/-- The result that is given is what became of the creation. -/
def Fate.Gives : Fate → Except Fault Frame → Prop
  | answered frame, .ok reply => reply = frame
  | refused, .error _ | overdue, .error _ => True
  | _, _ => False

/-- A creation that has come to its end. -/
structure Closed where
  ask : Ask
  fate : Fate
  result : Except Fault Frame

def Closed.creation (c : Closed) : Creation := ⟨c.ask.frame, c.fate⟩

/-- The creation that is under way. -/
inductive Flight where
  | none
  /-- Its frame was not handed to the board yet. -/
  | started (ask : Ask)
  /-- The board took it and has not answered. -/
  | waits (ask : Ask)
  /-- The board has answered, and the answer is still to be taken in. -/
  | echoed (ask : Ask) (reply : Frame)

namespace Flight

def asks : Flight → List Ask
  | none => []
  | started ask | waits ask | echoed ask _ => [ask]

/-- What the ledger of the board says, if it says this of the creations before. -/
def Pends (creations done : List Creation) : Flight → Prop
  | none | started _ => SensorHost.Pends creations done .none
  | waits ask => SensorHost.Pends creations done (some ask.frame)
  | echoed ask reply => SensorHost.Pends creations (done ++ [⟨ask.frame, .answered reply⟩]) .none

end Flight

/-- The owners of the creations that were started, in order. -/
def startedBy (events : List LinkEvent) : List Nat := (starts .creation events).map (·.2)

theorem startedBy_append (events events' : List LinkEvent) :
    startedBy (events ++ events') = startedBy events ++ startedBy events' := by
  simp [startedBy, starts]

namespace Link

theorem queue_setQueue_self {σ : Type} (l : Link σ) (key : ReplyKey) (q : Queue) :
    (l.setQueue key q).queue key = q := by
  rw [queue_setQueue, if_pos rfl]

theorem queue_setQueue_of_ne {σ : Type} (l : Link σ) {key key' : ReplyKey} (other : key' ≠ key)
    (q : Queue) : (l.setQueue key q).queue key' = l.queue key' := by
  rw [queue_setQueue, if_neg other]

variable {σ : Type} [Registrar σ] {l : Link σ} {past : List LinkEvent} {closed : List Closed}
  {flight : Flight} {waiting : List Ask} {ask : Ask}

/-- Where a link stands on which these creations were asked for; `past` is what happened before the
journal was taken last. -/
structure Books (l : Link σ) (past : List LinkEvent) (closed : List Closed) (flight : Flight)
    (waiting : List Ask) : Prop where
  requests : (l.queue .creation).requests = flight.asks.map (·.started closed.length) ++
    Ask.queued (closed.length + flight.asks.length) waiting
  nextTicket : (l.queue .creation).nextTicket =
    closed.length + flight.asks.length + waiting.length
  others : ∀ key, key ≠ .creation → (l.queue key).requests = []
  onKey : ∀ ask ∈ flight.asks ++ waiting, ReplyKey.ofFrame? ask.frame = some .creation
  ends : flight.Pends (ledger (Registrar.notes l.wire)) (closed.map Closed.creation)
  serial : Serial (Registrar.notes l.wire)
  gives : ∀ c ∈ closed, c.fate.Gives c.result
  results : (past ++ l.journal).filterMap LinkEvent.outcome? =
    closed.map fun c => (c.ask.owner, c.result)
  owners : startedBy (past ++ l.journal) =
    closed.map (·.ask.owner) ++ flight.asks.map (·.owner)

namespace Books

theorem note (h : l.Books past closed flight waiting) {event : LinkEvent}
    (quiet : event.isQuiet = true) : (l.note event).Books past closed flight waiting := by
  have outcome : event.outcome? = none := by
    cases event <;> first | rfl | contradiction
  have unstarted : startedBy [event] = [] := by
    cases event <;> first | rfl | contradiction
  refine { h with results := ?_, owners := ?_ }
  · show (past ++ (l.journal ++ [event])).filterMap _ = _
    rw [← List.append_assoc, List.filterMap_append, h.results]
    simp [outcome]
  · show startedBy (past ++ (l.journal ++ [event])) = _
    rw [← List.append_assoc, startedBy_append, unstarted, List.append_nil, h.owners]

/-- The board changes in a way that its notes allow. -/
theorem rewire (h : l.Books past closed flight waiting) {w : σ} {flight' : Flight}
    (asks : flight'.asks = flight.asks)
    (ends : flight'.Pends (ledger (Registrar.notes w)) (closed.map Closed.creation))
    (serial : Serial (Registrar.notes w)) :
    ({ l with wire := w } : Link σ).Books past closed flight' waiting where
  requests := by rw [asks]; exact h.requests
  nextTicket := by rw [asks]; exact h.nextTicket
  others := h.others
  onKey := by rw [asks]; exact h.onKey
  ends := ends
  serial := serial
  gives := h.gives
  results := h.results
  owners := by rw [asks]; exact h.owners

/-- Nothing changes for the creations if the board notes nothing. -/
theorem unnoted (h : l.Books past closed flight waiting) {w : σ}
    (same : Registrar.notes w = Registrar.notes l.wire) :
    ({ l with wire := w } : Link σ).Books past closed flight waiting :=
  h.rewire rfl (same ▸ h.ends) (same ▸ h.serial)

/-! ## Starting and closing -/

theorem startHead?_none (h : l.Books past closed .none []) : l.startHead? .creation = none := by
  rw [startHead?_eq_none_iff, Queue.start?_eq_none_iff]
  intro head rest requests
  rw [h.requests] at requests
  contradiction

theorem startHead? (h : l.Books past closed .none (ask :: waiting)) : ∃ l',
    l.startHead? .creation = some (ask.request closed.length, [.transmit ask.frame], l') ∧
      l'.Books past closed (.started ask) waiting := by
  let q : Queue := { l.queue .creation with
    requests := ask.started closed.length :: Ask.queued (closed.length + 1) waiting }
  have start : (l.queue .creation).start? =
      some (ask.request closed.length, [.transmit ask.frame], q) := by
    rw [Queue.start?_eq_some_iff]
    exact ⟨_, h.requests, rfl, rfl⟩
  refine ⟨_, by rw [Link.startHead?, start], ?_⟩
  refine ⟨?_, ?_, fun key other => ?_, h.onKey, h.ends, h.serial, h.gives, ?_, ?_⟩
  · show ((l.setQueue .creation q).queue .creation).requests = _
    rw [queue_setQueue_self]
    rfl
  · show ((l.setQueue .creation q).queue .creation).nextTicket = _
    have next := h.nextTicket
    rw [queue_setQueue_self]
    simp only [Flight.asks, List.length_nil, List.length_cons] at next ⊢
    exact next.trans (by omega)
  · show ((l.setQueue .creation q).queue key).requests = _
    rw [queue_setQueue_of_ne l other]
    exact h.others key other
  · show (past ++ (l.journal ++ [_])).filterMap _ = _
    rw [← List.append_assoc, List.filterMap_append, h.results]
    exact List.append_nil _
  · show startedBy (past ++ (l.journal ++ [_])) = _
    rw [← List.append_assoc, startedBy_append, h.owners]
    simp [Flight.asks, startedBy, starts, LinkEvent.start?, Ask.request]

theorem pop? (h : l.Books past closed flight waiting) (asks : flight.asks = [ask]) :
    (l.queue .creation).pop? = some (ask.started closed.length,
      { l.queue .creation with requests := Ask.queued (closed.length + 1) waiting }) := by
  rw [Queue.pop?_eq_some_iff]
  refine ⟨_, ?_, rfl⟩
  rw [h.requests, asks]
  rfl

/-- The creation that is under way comes to its end, on the board and for its owner. -/
theorem close (h : l.Books past closed flight waiting) (asks : flight.asks = [ask]) {w : σ}
    {fate : Fate} {result : Except Fault Frame} (ends : Pends (ledger (Registrar.notes w))
      (closed.map Closed.creation ++ [⟨ask.frame, fate⟩]) none)
    (serial : Serial (Registrar.notes w)) (gives : fate.Gives result) :
    ((({ l with wire := w } : Link σ).setQueue .creation
      { l.queue .creation with requests := Ask.queued (closed.length + 1) waiting }).settle .creation
        (ask.started closed.length) result).Books past (closed ++ [⟨ask, fate, result⟩]) .none
          waiting := by
  let q : Queue := { l.queue .creation with
    requests := Ask.queued (closed.length + 1) waiting }
  refine ⟨?_, ?_, fun key other => ?_, fun a mem => h.onKey a (List.mem_append_right _ mem), ?_,
    serial, ?_, ?_, ?_⟩
  · show ((Link.setQueue _ .creation q).queue .creation).requests = _
    rw [queue_setQueue_self, List.length_append]
    rfl
  · show ((Link.setQueue _ .creation q).queue .creation).nextTicket = _
    have next := h.nextTicket
    rw [asks] at next
    rw [queue_setQueue_self, List.length_append]
    exact next
  · show ((Link.setQueue _ .creation q).queue key).requests = _
    rw [queue_setQueue_of_ne _ other]
    exact h.others key other
  · show Pends _ ((closed ++ [_]).map Closed.creation) none
    rw [List.map_append]
    exact ends
  · intro c mem
    rcases List.mem_append.mp mem with mem | mem
    · exact h.gives c mem
    · obtain rfl := List.mem_singleton.mp mem
      exact gives
  · show (past ++ (l.journal ++ [_])).filterMap _ = _
    rw [← List.append_assoc, List.filterMap_append, h.results, List.map_append]
    rfl
  · show startedBy (past ++ (l.journal ++ [_])) = _
    rw [← List.append_assoc, startedBy_append, h.owners, asks]
    simp [Flight.asks, startedBy, starts, LinkEvent.start?]

end Books

/-! ## Coming to rest -/

/-- Nothing is left to be started: these creations were asked for, and the first that has not come to
its end waits for its answer. -/
def Rests (l : Link σ) (past : List LinkEvent) (asks : List Ask) : Prop :=
  ∃ closed flight waiting, l.Books past closed flight waiting ∧
    closed.map (·.ask) ++ flight.asks ++ waiting = asks ∧
    (flight = .none ∧ waiting = [] ∨ ∃ ask, flight = .waits ask)

/-- The ledger has an entry for every creation that was started. -/
theorem Books.entries (h : l.Books past closed flight waiting)
    (rest : flight = .none ∧ waiting = [] ∨ ∃ ask, flight = .waits ask) :
    ledger (Registrar.notes l.wire) =
      closed.map Closed.creation ++ flight.asks.map fun ask => ⟨ask.frame, .pending⟩ := by
  have ends := h.ends
  rcases rest with ⟨rfl, -⟩ | ⟨ask, rfl⟩ <;> exact ends.1

/-- What starts the next of these creations brings the link to rest. -/
def Turns (resume : ReplyKey → Link σ → Link σ) (past : List LinkEvent) (waiting : List Ask) : Prop :=
  ∀ l closed, l.Books past closed .none waiting →
    (resume .creation l).Rests past (closed.map (·.ask) ++ waiting)

namespace Books

variable {resume : ReplyKey → Link σ → Link σ}

/-- A frame on another key is for no request. -/
theorem receiveThen_other (h : l.Books past closed flight waiting) {frame : Frame}
    (other : ReplyKey.ofFrame? frame ≠ some .creation) :
    l.receiveThen resume frame = l.note (.unclaimed frame) := by
  unfold receiveThen dispatchThen
  cases on : ReplyKey.ofFrame? frame with
  | none => rfl
  | some key =>
      rw [on] at other
      have empty := h.others key fun same => other (congrArg some same)
      have none : (l.queue key).popStarted? = none := by
        simp [Queue.popStarted?, Queue.pop?, empty]
      simp only [completeThen, none]

theorem receiveAll_others (frames : List Frame)
    (others : ∀ frame ∈ frames, ReplyKey.ofFrame? frame ≠ some .creation)
    (h : l.Books past closed flight waiting) :
    (frames.foldl (receiveThen resume) l).Books past closed flight waiting := by
  induction frames generalizing l with
  | nil => exact h
  | cons frame rest ih =>
      obtain ⟨other, others⟩ := List.forall_mem_cons.mp others
      rw [List.foldl_cons, h.receiveThen_other other]
      exact ih others (h.note rfl)

/-- The answer goes to the owner of the creation that is under way, and the next one is started. -/
theorem receiveThen_echo {reply : Frame} (h : l.Books past closed (.echoed ask reply) waiting)
    (onKey : ReplyKey.ofFrame? reply = some .creation) (turns : Turns resume past waiting) :
    (l.receiveThen resume reply).Rests past (closed.map (·.ask) ++ [ask] ++ waiting) := by
  have popped : (l.queue .creation).popStarted? = some (ask.started closed.length,
      { l.queue .creation with requests := Ask.queued (closed.length + 1) waiting }) :=
    Queue.popStarted?_eq_some_iff.mpr ⟨h.pop? rfl, rfl⟩
  unfold receiveThen dispatchThen
  simp only [onKey, completeThen, popped]
  have gives : (Fate.answered reply).Gives (.ok reply) := rfl
  have closes := h.close rfl h.ends h.serial gives
  have rests := turns _ _ closes
  rw [List.map_append] at rests
  exact rests

/-- What comes back from the board settles the creation that is under way, if it answers it. -/
theorem hears (h : l.Books past closed flight waiting) {pending : Flight}
    (rest : pending = .none ∧ waiting = [] ∨ ∃ ask, pending = .waits ask)
    (asks : pending.asks = flight.asks) {notes : List Note}
    (ends : pending.Pends (ledger notes) (closed.map Closed.creation)) (serial : Serial notes)
    {w : σ} {frames : List Frame} (tells : Tells notes (Registrar.notes w) frames)
    (turns : Turns resume past waiting) :
    (frames.foldl (receiveThen resume) { l with wire := w }).Rests past
      (closed.map (·.ask) ++ flight.asks ++ waiting) := by
  rcases rest with ⟨rfl, rfl⟩ | ⟨ask, rfl⟩
  · obtain ⟨same, others⟩ | ⟨_, _, _, _, none, -⟩ :=
      SensorHost.Pends.tells ends serial (Registrar.honest w) tells
    · rw [← same] at ends serial
      exact ⟨closed, .none, [], (h.rewire asks ends serial).receiveAll_others frames others,
        by rw [asks], .inl ⟨rfl, rfl⟩⟩
    · contradiction
  · obtain ⟨same, others⟩ | ⟨_, reply, before, after, ⟨rfl⟩, ended, serial, rfl, onKey, early, late⟩ :=
      SensorHost.Pends.tells ends serial (Registrar.honest w) tells
    · rw [← same] at ends serial
      exact ⟨closed, .waits ask, waiting, (h.rewire asks ends serial).receiveAll_others frames others,
        by rw [asks], .inr ⟨ask, rfl⟩⟩
    · have echoed : ({ l with wire := w } : Link σ).Books past closed (.echoed ask reply) waiting :=
        h.rewire asks ended serial
      rw [List.foldl_append, List.foldl_cons]
      obtain ⟨closed', flight', waiting', books, all, rest⟩ :=
        (echoed.receiveAll_others before early).receiveThen_echo onKey turns
      refine ⟨closed', flight', waiting', books.receiveAll_others after late, ?_, rest⟩
      rw [all, ← asks]
      rfl

end Books

/-- The induction is on the number of creations that wait: what answers one of them while it is sent
starts the next one. -/
theorem Books.activateWithin (fuel : Nat) (h : l.Books past closed .none waiting)
    (enough : waiting.length ≤ fuel) :
    (Link.activateWithin fuel .creation l).Rests past (closed.map (·.ask) ++ waiting) := by
  induction fuel generalizing l closed waiting with
  | zero =>
      obtain rfl := List.eq_nil_of_length_eq_zero (Nat.le_zero.mp enough)
      exact ⟨closed, .none, [], h, by simp [Flight.asks], .inl ⟨rfl, rfl⟩⟩
  | succ fuel ih =>
      unfold Link.activateWithin
      cases waiting with
      | nil =>
          rw [h.startHead?_none]
          exact ⟨closed, .none, [], h, by simp [Flight.asks], .inl ⟨rfl, rfl⟩⟩
      | cons ask waiting =>
          have enough : waiting.length ≤ fuel := Nat.le_of_succ_le_succ enough
          have turns : Turns (Link.activateWithin fuel) past waiting :=
            fun l closed books => ih books enough
          obtain ⟨l₁, start, started⟩ := h.startHead?
          have onKey := h.onKey ask List.mem_cons_self
          simp only [start, performAll, perform, transmitThen]
          cases sent : Transport.send l₁.wire ask.frame with
          | mk outcome w =>
            cases outcome with
            | error fault =>
                have noted := Registrar.refuses sent
                rw [noteOf, if_pos onKey] at noted
                have ends := SensorHost.Pends.refused started.ends ask.frame
                have serial := started.serial.concat ends
                rw [← noted] at ends serial
                have popped : (({ l₁ with wire := w } : Link σ).queue .creation).popTicket?
                    (ask.request closed.length).ticket = some (ask.started closed.length,
                      { l₁.queue .creation with
                        requests := Ask.queued (closed.length + 1) waiting }) :=
                  Queue.popTicket?_eq_some_iff.mpr ⟨started.pop? rfl, rfl⟩
                simp only [popped]
                have gives : Fate.refused.Gives (.error fault) := trivial
                have rests := ih (started.close rfl ends serial gives) enough
                rw [List.map_append, List.append_assoc] at rests
                exact rests
            | ok replies =>
                have told := Registrar.takes sent
                rw [noteOf, if_pos onKey] at told
                have ends := SensorHost.Pends.taken started.ends ask.frame
                have rests := started.hears (.inr ⟨ask, rfl⟩) rfl ends (started.serial.concat ends)
                  told turns
                rw [List.append_assoc] at rests
                exact rests

omit [Registrar σ] in
theorem weight_queue_le (l : Link σ) (key : ReplyKey) : (l.queue key).weight ≤ l.weight := by
  have := weight_setQueue l key (.new "")
  have : (Queue.new "").weight = 0 := rfl
  omega

theorem turns_activate (past : List LinkEvent) (waiting : List Ask) :
    Turns (σ := σ) activate past waiting := by
  intro l closed h
  refine h.activateWithin l.weight ?_
  have light := weight_queue_le l .creation
  rw [Queue.weight, h.requests, total_append] at light
  simpa [Flight.asks, Ask.total_queued] using light

/-! ## Operations -/

theorem rests_new {w : σ} (fresh : Registrar.notes w = []) (now : Nat)
    (runtime : Runtime) : (new w now runtime).Rests [] [] := by
  have ends : SensorHost.Pends (ledger []) [] none := ⟨rfl, nofun⟩
  refine ⟨[], .none, [], ⟨rfl, rfl, fun _ _ => rfl, nofun, ?_, ?_, nofun, rfl, rfl⟩, rfl,
    .inl ⟨rfl, rfl⟩⟩
  · show SensorHost.Pends (ledger (Registrar.notes w)) [] none
    rw [fresh]
    exact ends
  · show Serial (Registrar.notes w)
    rw [fresh]
    exact serial_nil

namespace Rests

variable {asks : List Ask}

theorem takeJournal (h : l.Rests past asks) :
    l.takeJournal.2.Rests (past ++ l.takeJournal.1) asks := by
  obtain ⟨closed, flight, waiting, books, all, rest⟩ := h
  have results := books.results
  have owners := books.owners
  refine ⟨closed, flight, waiting, { books with results := ?_, owners := ?_ }, all, rest⟩
  · rw [← results]
    exact congrArg _ (List.append_nil _)
  · rw [← owners]
    exact congrArg _ (List.append_nil _)

/-- Time passes. -/
theorem pass (h : l.Rests past asks) (now nextTimer : Nat) :
    ({ l with now, nextTimer } : Link σ).Rests past asks := by
  obtain ⟨closed, flight, waiting, books, all, rest⟩ := h
  exact ⟨closed, flight, waiting, { books with }, all, rest⟩

/-- The board does something that it does not note. -/
theorem unnoted (h : l.Rests past asks) {w : σ}
    (same : Registrar.notes w = Registrar.notes l.wire) :
    ({ l with wire := w } : Link σ).Rests past asks := by
  obtain ⟨closed, flight, waiting, books, all, rest⟩ := h
  exact ⟨closed, flight, waiting, books.unnoted same, all, rest⟩

/-- A frame that creates nothing is sent. -/
theorem transmit (h : l.Rests past asks) {frame : Frame}
    (other : ReplyKey.ofFrame? frame ≠ some .creation) :
    (l.transmit frame).2.Rests past asks := by
  obtain ⟨closed, flight, waiting, books, rfl, rest⟩ := h
  unfold Link.transmit transmitThen
  cases sent : Transport.send l.wire frame with
  | mk outcome w =>
    cases outcome with
    | error fault =>
        have same := Registrar.refuses sent
        rw [noteOf, if_neg other, List.append_nil] at same
        exact ⟨closed, flight, waiting, books.unnoted same, rfl, rest⟩
    | ok replies =>
        have told := Registrar.takes sent
        rw [noteOf, if_neg other, List.append_nil] at told
        exact books.hears rest rfl books.ends books.serial told (turns_activate past waiting)

/-- A frame arrives from the board. -/
theorem receive (h : l.Rests past asks) {w : σ} {frame : Frame}
    (tells : Tells (Registrar.notes l.wire) (Registrar.notes w) [frame]) :
    (({ l with wire := w } : Link σ).receive frame).Rests past asks := by
  obtain ⟨closed, flight, waiting, books, rfl, rest⟩ := h
  exact books.hears rest rfl books.ends books.serial tells (turns_activate past waiting)

/-- A creation is asked for. -/
theorem request (h : l.Rests past asks) {frame : Frame}
    (onKey : ReplyKey.ofFrame? frame = some .creation) (timeout owner : Nat) :
    (l.request .creation timeout owner [frame]).Rests past (asks ++ [⟨owner, timeout, frame⟩]) := by
  obtain ⟨closed, flight, waiting, books, rfl, rest⟩ := h
  let ask : Ask := ⟨owner, timeout, frame⟩
  let q := (l.queue .creation).push timeout owner [.transmit frame]
  have requests : q.requests = flight.asks.map (·.started closed.length) ++
      Ask.queued (closed.length + flight.asks.length) (waiting ++ [ask]) := by
    show (l.queue .creation).requests ++ [⟨(l.queue .creation).nextTicket, _, _, _⟩] = _
    rw [books.requests, books.nextTicket, Ask.queued_concat, List.append_assoc]
    rfl
  have pushed : (l.setQueue .creation q).Books past closed flight (waiting ++ [ask]) := by
    refine { books with requests := ?_, nextTicket := ?_, others := ?_, onKey := ?_ }
    · rw [queue_setQueue_self]
      exact requests
    · rw [queue_setQueue_self, List.length_append, ← Nat.add_assoc, ← books.nextTicket]
      rfl
    · intro key other
      rw [queue_setQueue_of_ne l other]
      exact books.others key other
    · intro a mem
      rw [← List.append_assoc] at mem
      rcases List.mem_append.mp mem with mem | mem
      · exact books.onKey a mem
      · obtain rfl := List.mem_singleton.mp mem
        exact onKey
  have pending : q.pending = flight.asks.length + waiting.length + 1 := by
    rw [Queue.pending, requests, List.length_append, List.length_map, Ask.length_queued,
      List.length_append]
    rfl
  unfold Link.request submit submitThen
  show (if q.pending = 1 then activate .creation (l.setQueue .creation q)
    else l.setQueue .creation q).Rests _ _
  rw [pending, List.append_assoc]
  rcases rest with ⟨rfl, rfl⟩ | ⟨a, rfl⟩
  · have rests := turns_activate past [ask] _ closed pushed
    have alone : Flight.none.asks.length + ([] : List Ask).length + 1 = 1 := rfl
    rw [if_pos alone, Flight.asks, List.append_nil]
    exact rests
  · rw [if_neg (by simp [Flight.asks])]
    exact ⟨closed, .waits a, waiting ++ [ask], pushed, by rw [List.append_assoc],
      .inr ⟨a, rfl⟩⟩

/-- Nothing waits on any other key. -/
theorem expire_other (h : l.Rests past asks) {key : ReplyKey} (other : key ≠ .creation)
    (ticket : Nat) : l.expire key ticket = l := by
  obtain ⟨closed, flight, waiting, books, -, -⟩ := h
  have none : (l.queue key).popTicket? ticket = none := by
    simp [Queue.popTicket?, Queue.pop?, books.others key other]
  rw [Link.expire]
  simp only [none]

/-- The timer of a creation fires, and the board learns of it. -/
theorem expire (h : l.Rests past asks) (ticket : Nat) :
    (({ l with wire := Registrar.giveUp ticket l.wire } : Link σ).expire .creation ticket).Rests past
      asks := by
  obtain ⟨closed, flight, waiting, books, rfl, rest⟩ := h
  have noted := Registrar.gives ticket l.wire
  have length : (closed.map Closed.creation).length = closed.length := List.length_map _
  -- A timer that is not the one of the creation that is under way changes nothing.
  have stale {pending? : Option Frame} (none : (l.queue .creation).popTicket? ticket = none)
      (ends : SensorHost.Pends (ledger (Registrar.notes l.wire)) (closed.map Closed.creation) pending?)
      (same : ∀ creations, SensorHost.Pends creations (closed.map Closed.creation) pending? →
        flight.Pends creations (closed.map Closed.creation))
      (other : pending? = .none ∨ ticket ≠ (closed.map Closed.creation).length) :
      (({ l with wire := Registrar.giveUp ticket l.wire } : Link σ).expire .creation ticket).Rests
        past (closed.map (·.ask) ++ flight.asks ++ waiting) := by
    have left := ends.given_up other
    have serial := books.serial.concat left
    rw [← noted] at left serial
    have popped : (({ l with wire := Registrar.giveUp ticket l.wire } : Link σ).queue
        .creation).popTicket? ticket = .none := none
    rw [Link.expire]
    simp only [popped]
    exact ⟨closed, flight, waiting, books.rewire rfl (same _ left) serial, rfl, rest⟩
  rcases rest with ⟨rfl, rfl⟩ | ⟨ask, rfl⟩
  · have requests := books.requests
    refine stale ?_ books.ends (fun _ ends => ends) (.inl rfl)
    simp [Queue.popTicket?, Queue.pop?, requests, Flight.asks, Ask.queued]
  · by_cases current : ticket = closed.length
    · subst current
      have ends := SensorHost.Pends.overdue books.ends
      have serial := books.serial.concat ends
      rw [length, ← noted] at ends serial
      have popped : (({ l with wire := Registrar.giveUp closed.length l.wire } : Link σ).queue
          .creation).popTicket? closed.length = some (ask.started closed.length,
            { l.queue .creation with requests := Ask.queued (closed.length + 1) waiting }) :=
        Queue.popTicket?_eq_some_iff.mpr ⟨books.pop? rfl, rfl⟩
      rw [Link.expire]
      simp only [popped]
      have gives : Fate.overdue.Gives
          (.error (.timeout (l.queue .creation).label ask.timeout)) := trivial
      have rests := turns_activate past waiting _ _ (books.close rfl ends serial gives)
      rw [List.map_append] at rests
      exact rests
    · refine stale ?_ books.ends (fun _ ends => ends) (.inr (length ▸ current))
      rw [Queue.popTicket?, books.pop? rfl]
      simp [Ask.started, Ne.symm current]

end Rests

end Link

end SensorHost
