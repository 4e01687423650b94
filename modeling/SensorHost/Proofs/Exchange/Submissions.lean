import SensorHost.Proofs.Exchange.Accounts

/-!
# Submissions

The tickets of a key number what was submitted on it, from outside and by the moves of other requests.
A `Discipline` tells what a link keeps, but not what followed from what. So the account of a link is
carried on through every nesting of answers, failures and new requests once more: whatever starts the
head of a queue only adds what ensues (`carriesOn_activateWithin`), and a step adds what `Recounts` says
of it. The main result is `requests_in_order`.
-/

namespace SensorHost

variable {σ : Type} [Transport σ]

/-- What has happened on a link since this account was complete ensued from what had happened. -/
def Continued (account : List Happening) (l : Link σ) : Prop :=
  ∃ more, Ensues σ more ∧ Booked (account ++ more) l

/-- What starts the head of a queue adds to the account only what ensues. -/
def CarriesOn (resume : ReplyKey → Link σ → Link σ) : Prop :=
  ∀ key l account, Booked account l → Continued account (resume key l)

variable {account more : List Happening} {l : Link σ}

theorem Ensues.continued (h : Ensues σ more) (later : Continued (account ++ more) l) :
    Continued account l := by
  obtain ⟨others, ensues, booked⟩ := later
  refine ⟨more ++ others, .both h ensues, ?_⟩
  rwa [← List.append_assoc]

theorem Ensues.notes_of_isQuiet {event : LinkEvent} (quiet : event.isQuiet = true) :
    Ensues σ [.notes event] := by
  refine .notes ?_
  cases event <;> first | rfl | contradiction

theorem Ensues.failures (key : ReplyKey) (fault : Fault) (requests : List Request) :
    Ensues σ (failures key fault requests) := by
  induction requests with
  | nil => exact .nothing
  | cons r rest ih =>
      have first : Ensues σ [.notes (.settled key r.ticket r.owner (.error fault))] := .notes rfl
      exact first.both ih

theorem Booked.continued (h : Booked account l) : Continued account l := ⟨[], .nothing, h.nothing⟩

namespace Continued

theorem trans {l' : Link σ} (h : Continued account l)
    (step : ∀ account, Booked account l → Continued account l') : Continued account l' := by
  obtain ⟨first, ensues, booked⟩ := h
  exact ensues.continued (step _ booked)

theorem note (h : Continued account l) {event : LinkEvent} (quiet : event.isQuiet = true) :
    Continued account (l.note event) :=
  h.trans fun _ booked => (Ensues.notes_of_isQuiet quiet).continued (booked.note quiet).continued

end Continued

namespace Booked

theorem drained (h : Booked account l) (key : ReplyKey) (fault : Fault) :
    Continued account (l.failAll key fault) :=
  (Ensues.failures key fault _).continued (h.failAll key fault).continued

/-! ## The moves of a request -/

section Resuming

variable {resume : ReplyKey → Link σ → Link σ} (resumes : CarriesOn resume)
include resumes

theorem completeThen (h : Booked account l) (key : ReplyKey) (reply : Frame) :
    Continued account (l.completeThen resume key reply).2 := by
  unfold Link.completeThen
  split
  · exact h.continued
  · rename_i r q popped
    obtain ⟨pop, started⟩ := Queue.popStarted?_eq_some_iff.mp popped
    have settled := h.settle pop (.ok reply) fun _ _ => started
    exact (Ensues.notes rfl).continued (resumes key _ _ settled)

theorem failThen (h : Booked account l) (key : ReplyKey) (fault : Fault) :
    Continued account (l.failThen resume key fault).2 := by
  unfold Link.failThen
  split
  · exact h.continued
  · rename_i r q pop
    have settled := h.fails pop fault
    exact (Ensues.notes rfl).continued (resumes key _ _ settled)

theorem submitThen (h : Booked account l) (key : ReplyKey) (timeout owner : Nat)
    (moves : List Move) : Continued (account ++ [.submits key ⟨owner, timeout, moves⟩])
      (l.submitThen resume key timeout owner moves) := by
  have pushed := h.push key timeout owner moves
  unfold Link.submitThen
  simp only
  split
  · exact resumes key _ _ pushed
  · exact pushed.continued

theorem receiveThen (h : Booked account l) (frame : Frame) :
    Continued account (l.receiveThen resume frame) := by
  have dispatched : Continued account (l.dispatchThen resume frame).2 := by
    unfold Link.dispatchThen
    split
    · exact h.continued
    · exact h.completeThen resumes _ frame
  unfold Link.receiveThen
  split <;> rename_i eq <;> rw [eq] at dispatched
  · exact dispatched
  · exact dispatched.note rfl

theorem receiveAll (h : Booked account l) (frames : List Frame) :
    Continued account (frames.foldl (Link.receiveThen resume) l) := by
  induction frames generalizing l account with
  | nil => exact h.continued
  | cons frame rest ih => exact (h.receiveThen resumes frame).trans fun _ booked => ih booked

/-- Where the transport does not take a frame, nothing happens. -/
theorem transmitThen (h : Booked account l) (frame : Frame) :
    (∃ (fault : Fault) (wire wire' : σ) (l' : Link σ),
        l.transmitThen resume frame = (.error fault, l') ∧
          Transport.send wire frame = (.error fault, wire') ∧ Booked account l') ∨
      ∃ l', l.transmitThen resume frame = (.ok (), l') ∧ Continued account l' := by
  unfold Link.transmitThen
  split
  · rename_i fault wire refused
    exact .inl ⟨fault, l.wire, wire, _, rfl, refused, h.same rfl rfl⟩
  · rename_i replies wire _
    have rewired : Booked account { l with wire } := h.same rfl rfl
    exact .inr ⟨_, rfl, rewired.receiveAll resumes replies⟩

/-- Moves are made in order, up to the first that is refused. -/
theorem performAll (moves : List Move) (h : Booked account l) :
    ∃ more, Makes σ moves (l.performAll resume moves).1 more ∧
      Booked (account ++ more) (l.performAll resume moves).2 := by
  induction moves generalizing l account with
  | nil => exact ⟨[], .done, h.nothing⟩
  | cons move rest ih =>
      -- What is made of the moves behind one that was made.
      have behind {l' : Link σ} (plain : move.isPlain = true) (made : Continued account l') :
          ∃ more, Makes σ (move :: rest) (l'.performAll resume rest).1 more ∧
            Booked (account ++ more) (l'.performAll resume rest).2 := by
        obtain ⟨now, ensues, booked⟩ := made
        obtain ⟨later, makes, done⟩ := ih booked
        refine ⟨now ++ later, .plain plain ensues makes, ?_⟩
        rwa [← List.append_assoc]
      cases move with
      | transmit frame =>
          simp only [Link.performAll, Link.perform]
          rcases h.transmitThen resumes frame with
            ⟨fault, _, _, l', sent, refused, kept⟩ | ⟨l', sent, followed⟩
          · rw [sent]
            exact ⟨[], .unsent refused, kept.nothing⟩
          · rw [sent]
            exact behind rfl followed
      | complete key reply => exact behind rfl ((h.completeThen resumes key reply).note rfl)
      | fail key fault => exact behind rfl ((h.failThen resumes key fault).note rfl)
      | failAll key fault => exact behind rfl (h.drained key fault)
      | submit key timeout owner moves =>
          have submitted : Continued _ (Link.note _ (.submitted key owner)) :=
            (h.submitThen resumes key timeout owner moves).note rfl
          obtain ⟨now, ensues, booked⟩ := submitted
          obtain ⟨later, makes, done⟩ := ih booked
          refine ⟨_, .submits ensues makes, ?_⟩
          rw [List.append_assoc, List.append_assoc] at done
          exact done
      | hold => exact behind rfl h.continued
      | refuse fault => exact ⟨[], .refuses, h.nothing⟩

end Resuming

/-! ## Starting requests -/

theorem carriesOn_activateWithin (fuel : Nat) :
    CarriesOn (Link.activateWithin (σ := σ) fuel) := by
  induction fuel with
  | zero => exact fun _ _ _ h => h.continued
  | succ fuel ih =>
      intro key l account h
      unfold Link.activateWithin
      split
      · exact h.continued
      · rename_i r moves l₁ start
        obtain ⟨asked, -, rfl, started⟩ := h.start start
        obtain ⟨more, makes, done⟩ := started.performAll ih asked.moves
        rw [List.append_assoc, List.singleton_append] at done
        split <;> rename_i eq <;> rw [eq] at makes done
        · exact ⟨_, .sent makes, done⟩
        · rename_i fault l₂
          have done : Booked (account ++ .starts key r.ticket asked :: more) l₂ := done
          split
          · rename_i gone
            exact ⟨_, .overtaken makes (done.settled_of_started gone), done⟩
          · rename_i r' q popped
            obtain ⟨pop, ticket⟩ := Queue.popTicket?_eq_some_iff.mp popped
            have isHead : r' ∈ (l₂.queue key).requests := by
              obtain ⟨rest, requests, -⟩ := Queue.pop?_eq_some_iff.mp pop
              rw [requests]
              exact List.mem_cons_self
            have settled := done.fails pop fault
            rw [ticket, (done.numbered key).owner_of_started isHead ticket, List.append_assoc]
              at settled
            exact (Ensues.refused makes).continued (ih key _ _ settled)

theorem carriesOn_activate : CarriesOn (Link.activate (σ := σ)) :=
  fun key l account h => carriesOn_activateWithin l.weight key l account h

/-! ## Operations -/

theorem expire (h : Booked account l) (key : ReplyKey) (ticket : Nat) :
    Continued account (l.expire key ticket) := by
  unfold Link.expire
  split
  · exact h.continued
  · rename_i r q popped
    obtain ⟨pop, -⟩ := Queue.popTicket?_eq_some_iff.mp popped
    have settled := h.fails pop (.timeout q.label r.timeout)
    exact (Ensues.notes rfl).continued (carriesOn_activate key _ _ settled)

theorem drainedAll (h : Booked account l) (queues : List (ReplyKey × Queue)) (fault : Fault) :
    Continued account (queues.foldl (fun l (key, _) => l.failAll key fault) l) := by
  induction queues generalizing l account with
  | nil => exact h.continued
  | cons entry rest ih => exact (h.drained entry.1 fault).trans fun _ booked => ih booked

theorem giveUp (h : Booked account l) : Continued account l.giveUp := by
  unfold Link.giveUp
  split
  · exact h.drainedAll l.queues .dropped
  · exact h.continued

theorem expireDue (h : Booked account l) : Continued account l.expireDue := by
  unfold Link.expireDue
  generalize l.timers.filter (·.due ≤ l.now) = due
  induction due generalizing l account with
  | nil => exact h.continued
  | cons timer rest ih =>
      have expired := (h.expire timer.key timer.ticket).trans fun _ booked => booked.giveUp
      exact expired.trans fun _ booked => ih booked

theorem elapse (h : Booked account l) (milliseconds : Nat) :
    Continued account (l.elapse milliseconds) := by
  unfold Link.elapse
  generalize l.outstanding + 1 = rounds
  generalize l.now + milliseconds = target
  have arrived {account : List Happening} {l : Link σ} (h : Booked account l) :
      Continued account { l with now := target } := by
    have moved : Booked account { l with now := target } := h.same rfl rfl
    exact moved.continued
  induction rounds generalizing l account with
  | zero => exact arrived h
  | succ rounds ih =>
      unfold Link.elapseWithin
      split
      · exact arrived h
      · rename_i due _
        split
        · have moved : Booked account { l with now := max l.now due } := h.same rfl rfl
          exact moved.expireDue.trans fun _ booked => ih booked
        · exact arrived h

/-- A step that submits nothing from outside only lets things ensue. -/
theorem after (h : Booked account l) {step : Link.Step} (other : step.isSubmission = false) :
    Continued account (l.after step) := by
  cases step with
  | submit key timeout owner moves => contradiction
  | complete key reply => exact h.completeThen carriesOn_activate key reply
  | fail key fault => exact h.failThen carriesOn_activate key fault
  | failAll key fault => exact h.drained key fault
  | expire key ticket => exact h.expire key ticket
  | receive frame => exact h.receiveThen carriesOn_activate frame
  | transmit frame =>
      show Continued account (l.transmitThen Link.activate frame).2
      rcases h.transmitThen carriesOn_activate frame with
        ⟨_, _, _, _, sent, -, kept⟩ | ⟨_, sent, followed⟩
      · rw [sent]
        exact kept.continued
      · rw [sent]
        exact followed
  | elapse milliseconds => exact h.elapse milliseconds
  | close => exact h.drainedAll l.queues .closed
  | release =>
      have released : Booked account { l with isReleased := true } := h.same rfl rfl
      exact released.giveUp

/-! ## Runs -/

theorem afterAll (h : Booked account l) (steps : List Link.Step) :
    ∃ more, Recounts σ steps more ∧ Booked (account ++ more) (steps.foldl Link.after l) := by
  induction steps generalizing l account with
  | nil => exact ⟨[], .nothing, h.nothing⟩
  | cons step rest ih =>
      cases other : step.isSubmission with
      | true =>
          cases step with
          | submit key timeout owner moves =>
              obtain ⟨now, ensues, booked⟩ :=
                h.submitThen carriesOn_activate key timeout owner moves
              obtain ⟨later, recounts, done⟩ := ih booked
              refine ⟨_, .submits ensues recounts, ?_⟩
              rw [List.append_assoc, List.append_assoc] at done
              exact done
          | _ => contradiction
      | false =>
          obtain ⟨now, ensues, booked⟩ := h.after other
          obtain ⟨later, recounts, done⟩ := ih booked
          refine ⟨now ++ later, .others other ensues recounts, ?_⟩
          rwa [← List.append_assoc]

end Booked

/-- The tickets of a key number what was submitted on it: by the steps of the run and by the moves of
the requests that were started, in the order of an account that has nothing else in it. Each request
has the owner, the timeout and the moves it was submitted with. The requests on a key are settled once
each and in the order of their submission; those that are not settled wait in that order. A request is
started at most once, when all earlier ones have been settled, and an answer goes to the request that
was started last. -/
theorem requests_in_order (wire : σ) (now : Nat) (runtime : Runtime)
    (steps : List Link.Step) :
    let l := Link.run wire now runtime steps
    ∃ account, Recounts σ steps account ∧ journalOf account = l.journal ∧
      ∀ key, Numbered key account (l.queue key) ∧
        settlements key l.journal ++ (l.queue key).requests.map (·.ticket) =
          List.range (submissions key account).length ∧
        ((starts key l.journal).map (·.1)).Pairwise (· < ·) ∧
        (∀ before ticket owner after, l.journal = before ++ .started key ticket owner :: after →
          settlements key before = List.range ticket) ∧
        (∀ before ticket owner reply after,
          l.journal = before ++ .settled key ticket owner (.ok reply) :: after →
            (starts key before).getLast? = some (ticket, owner)) := by
  intro l
  obtain ⟨account, recounts, booked⟩ := (Booked.new wire now runtime).afterAll steps
  refine ⟨account, recounts, booked.journal, ?_⟩
  intro key
  have numbered : Numbered key account (l.queue key) := booked.numbered key
  have inOrder := booked.inOrder key
  refine ⟨numbered, ?_, List.pairwise_map.mpr inOrder.increasing, ?_, ?_⟩
  · rw [← numbered.next]
    exact inOrder.tickets
  · intro before ticket owner after split
    exact inOrder.inTurn before _ after split rfl
  · intro before ticket owner reply after split
    exact inOrder.inTurn before _ after split rfl

end SensorHost
