import SensorHost.Session.Basic

/-!
# Traffic and the host

Whatever comes and goes on the link of a session, of the host it changes nothing but who listens:
subscriptions end when nobody listens any more (`ListenersOnly`).
-/

namespace SensorHost

/-- Hosts that differ in nothing but who listens. -/
def ListenersOnly (h h' : Host) : Prop := ∃ subscriptions, h' = { h with subscriptions }

theorem ListenersOnly.refl (h : Host) : ListenersOnly h h := ⟨h.subscriptions, rfl⟩

theorem ListenersOnly.trans {h h₁ h' : Host} (first : ListenersOnly h h₁)
    (second : ListenersOnly h₁ h') : ListenersOnly h h' := by
  obtain ⟨_, rfl⟩ := first
  obtain ⟨subscriptions, rfl⟩ := second
  exact ⟨subscriptions, rfl⟩

namespace Session

variable {σ : Type}

theorem listenersOnly_absorbEvent (s : Session σ) (event : LinkEvent) :
    ListenersOnly s.host (s.absorbEvent event).host := by
  cases event with
  | unclaimed frame => exact ⟨_, rfl⟩
  | _ => exact .refl s.host

theorem listenersOnly_foldl (journal : List LinkEvent) (s : Session σ) :
    ListenersOnly s.host (journal.foldl absorbEvent s).host := by
  induction journal generalizing s with
  | nil => exact .refl s.host
  | cons event rest ih => exact (listenersOnly_absorbEvent s event).trans (ih _)

theorem listenersOnly_absorb (s : Session σ) : ListenersOnly s.host s.absorb.host :=
  listenersOnly_foldl s.link.journal { s with link := s.link.takeJournal.2 }

variable [Transport σ]

theorem listenersOnly_transmit (s : Session σ) (frame : Frame) :
    ListenersOnly s.host (s.transmit frame).2.host :=
  listenersOnly_absorb { s with link := (s.link.transmit frame).2 }

theorem listenersOnly_request (s : Session σ) (key : ReplyKey) (timeout owner : Nat)
    (frames : List Frame) : ListenersOnly s.host (s.request key timeout owner frames).host :=
  listenersOnly_absorb { s with link := s.link.request key timeout owner frames }

theorem listenersOnly_expire (s : Session σ) (key : ReplyKey) (ticket : Nat) :
    ListenersOnly s.host (s.expire key ticket).host :=
  listenersOnly_absorb { s with link := s.link.expire key ticket }

end Session

end SensorHost
