import SensorHost.Proofs.Exchange.OneWay

/-!
# Requests that are answered while they are sent

A board may answer a request while it takes the frames of it. Such a request, on a key that no other
request waits on, starts when it is queued and is settled by that answer before anything else can
happen, whatever waits on other keys (`Link.request_at_once`).
-/

namespace SensorHost.Link

variable {σ : Type} [Transport σ] {l : Link σ} {key : ReplyKey} {r : Request} {answer : Frame}
  {wire : σ}

omit [Transport σ] in
/-- An answer settles the request that is alone on its key. -/
theorem receiveThen_answer {resume : ReplyKey → Link σ → Link σ} (inert : Inert resume)
    (on : ReplyKey.ofFrame? answer = some key) (requests : (l.queue key).requests = [r])
    (started : r.isStarted = true) :
    (l.receiveThen resume answer).wire = l.wire ∧
      Served key l [(r.owner, .ok answer)] [] (l.receiveThen resume answer) := by
  have popped : (l.queue key).popStarted? = some (r, { l.queue key with requests := [] }) :=
    Queue.popStarted?_eq_some_iff.mpr ⟨Queue.pop?_eq_some_iff.mpr ⟨[], requests, rfl⟩, started⟩
  have served := served_settle l key r [] (.ok answer)
  have nothing : ((l.setQueue key { l.queue key with requests := [] }).settle key r
      (.ok answer)).startHead? key = none := by
    rw [startHead?_eq_none_iff, Queue.start?_eq_none_iff, served.queue]
    nofun
  simp only [receiveThen, dispatchThen, on, completeThen, popped, inert _ _ nothing]
  exact ⟨rfl, served⟩

/-- The frames of a request that is alone on its key are sent, and all that comes back is its
answer. -/
theorem performAll_answered {resume : ReplyKey → Link σ → Link σ} (inert : Inert resume)
    {frames : List Frame} (sent : Transport.sendAll l.wire frames = ([answer], .ok (), wire))
    (on : ReplyKey.ofFrame? answer = some key) (requests : (l.queue key).requests = [r])
    (started : r.isStarted = true) :
    ∃ l', l.performAll resume (frames.map .transmit) = (.ok (), l') ∧ l'.wire = wire ∧
      Served key l [(r.owner, .ok answer)] [] l' := by
  induction frames generalizing l with
  | nil => cases (Prod.mk.inj sent).1
  | cons frame rest ih =>
      rw [Transport.sendAll] at sent
      rw [List.map_cons, performAll, perform, transmitThen]
      cases first : Transport.send l.wire frame with
      | mk result wire₁ =>
        cases result with
        | error fault =>
            rw [first] at sent
            cases (Prod.mk.inj sent).1
        | ok replies =>
            rcases others : Transport.sendAll wire₁ rest with ⟨more, taken, wire₂⟩
            simp only [first, others] at sent
            obtain ⟨split, sent⟩ := Prod.mk.inj sent
            obtain ⟨rfl, rfl⟩ := Prod.mk.inj sent
            have rewired := (Served.refl l key).rewire wire₁
            rcases List.append_eq_singleton_iff.mp split with ⟨rfl, rfl⟩ | ⟨rfl, rfl⟩
            · -- Nothing came back yet.
              obtain ⟨l', performed, kept, served⟩ :=
                ih (l := { l with wire := wire₁ }) others requests
              rw [requests] at rewired
              exact ⟨l', performed, kept, rewired.trans served⟩
            · -- The answer came back, and nothing after it.
              obtain ⟨kept, served⟩ :=
                receiveThen_answer (l := { l with wire := wire₁ }) inert on requests started
              have all : Transport.sendAll
                  (receiveThen resume { l with wire := wire₁ } answer).wire rest =
                    ([], .ok (), wire₂) := by
                rw [kept]
                exact others
              have silent := performAll_unanswered resume (congrArg Prod.fst all)
              rw [all] at silent
              exact ⟨_, silent, rfl, rewired.trans (served.rewire wire₂)⟩

/-- A request on a key that nothing waits on, to whose frames nothing comes back but its answer, is
settled by this answer. -/
theorem request_at_once (timeout owner : Nat) {frames : List Frame}
    (sent : Transport.sendAll l.wire frames = ([answer], .ok (), wire))
    (on : ReplyKey.ofFrame? answer = some key) (free : (l.queue key).requests = []) :
    (l.request key timeout owner frames).wire = wire ∧
      Served key (l.setQueue key ((l.queue key).push timeout owner (frames.map .transmit)))
        [(owner, .ok answer)] [] (l.request key timeout owner frames) := by
  let r : Request := ⟨(l.queue key).nextTicket, owner, timeout, some (frames.map .transmit)⟩
  have alone : ((l.queue key).push timeout owner (frames.map .transmit)).requests = [r] := by
    simp only [Queue.push, free, List.nil_append, r]
  have pushed : ((l.setQueue key ((l.queue key).push timeout owner
      (frames.map .transmit))).queue key).requests = [r] := by
    rw [queue_setQueue, if_pos rfl, alone]
  have weight := weight_setQueue_push l key timeout owner (frames.map .transmit)
  rw [Nat.add_comm 1, ← Nat.add_assoc] at weight
  obtain ⟨l₁, start, wired, begun⟩ := served_startHead? pushed rfl
  have sent' : Transport.sendAll l₁.wire frames = ([answer], .ok (), wire) := by
    rw [wired]
    exact sent
  obtain ⟨l₂, performed, kept, served⟩ :=
    performAll_answered (inert_activateWithin (l.weight + Move.weights (frames.map .transmit)))
      sent' on (congrArg Queue.requests begun.queue) r.isStarted_begun
  unfold request submit submitThen
  simp only [Queue.pending, alone, List.length_singleton, if_true]
  rw [activate, weight, activateWithin_taken start performed]
  exact ⟨kept, begun.trans served⟩

end SensorHost.Link
