import SensorHost.Session.Call

/-!
# Runs of a dialogue

`Dialogue.Runs` says what a dialogue can do against any board: every frame may be taken or refused,
every question may get any answer, and while the dialogue waits or sends, the host may change in
the ways that `Between` allows. A run leaves a trace of what was sent and asked, in order, with what
came back.

The second half takes the runs of a `Call` apart, one lemma for each thing that a call can do, so
that a call is followed without opening its tree.
-/

namespace SensorHost

/-- What a dialogue did with the board, and what came back. -/
inductive Exchange where
  | sent (frame : Frame) (result : Except Fault Unit)
  | asked (key : ReplyKey) (timeout : Nat) (frames : List Frame) (reply : Except Fault Frame)
  | paused (milliseconds : Nat)

/-- The dialogue, begun on one host, leaves this trace, ends with this result and leaves that
host. -/
inductive Dialogue.Runs {waits : Bool} {α : Type} (Between : Host → Host → Prop) :
    Dialogue waits α → Host → List Exchange → α → Host → Prop
  | done {a : α} {h : Host} : Runs Between (.done a) h [] a h
  | look {resume : Host → Dialogue waits α} {h h' : Host} {t : List Exchange} {a : α} :
    Runs Between (resume h) h t a h' → Runs Between (.look resume) h t a h'
  | update {change : Host → Host} {next : Dialogue waits α} {h h' : Host} {t : List Exchange}
      {a : α} :
    Runs Between next (change h) t a h' → Runs Between (.update change next) h t a h'
  | measure {resume : Nat → Dialogue waits α} {h h' : Host} {t : List Exchange} {a : α}
      (limit : Nat) :
    Runs Between (resume limit) h t a h' → Runs Between (.measure resume) h t a h'
  | transmit {frame : Frame} {resume : Except Fault Unit → Dialogue waits α} {h h₁ h' : Host}
      {t : List Exchange} {a : α} (result : Except Fault Unit) :
    Between h h₁ → Runs Between (resume result) h₁ t a h' →
      Runs Between (.transmit frame resume) h (.sent frame result :: t) a h'
  | ask {may : waits = true} {key : ReplyKey} {timeout : Nat} {frames : List Frame}
      {resume : Except Fault Frame → Dialogue waits α} {h h₁ h' : Host} {t : List Exchange} {a : α}
      (reply : Except Fault Frame) :
    Between h h₁ → Runs Between (resume reply) h₁ t a h' →
      Runs Between (.ask may key timeout frames resume) h (.asked key timeout frames reply :: t) a h'
  | pause {may : waits = true} {milliseconds : Nat} {next : Dialogue waits α} {h h₁ h' : Host}
      {t : List Exchange} {a : α} :
    Between h h₁ → Runs Between next h₁ t a h' →
      Runs Between (.pause may milliseconds next) h (.paused milliseconds :: t) a h'

/-- The call, made on one host, leaves this trace, ends with this result and leaves that host. -/
def Call.Runs {waits : Bool} {α : Type} (Between : Host → Host → Prop) (call : Call waits α)
    (h : Host) (t : List Exchange) (result : Except Fault α) (h' : Host) : Prop :=
  Dialogue.Runs Between call.run h t result h'

variable {waits : Bool} {α β : Type} {Between : Host → Host → Prop} {h h' : Host}
  {t : List Exchange}

theorem Dialogue.Runs.mono {Between' : Host → Host → Prop} {d : Dialogue waits α} {a : α}
    (run : d.Runs Between h t a h') (weaker : ∀ h h', Between h h' → Between' h h') :
    d.Runs Between' h t a h' := by
  induction run with
  | done => exact .done
  | look _ ih => exact .look ih
  | update _ ih => exact .update ih
  | measure limit _ ih => exact .measure limit ih
  | transmit result kept _ ih => exact .transmit result (weaker _ _ kept) ih
  | ask reply kept _ ih => exact .ask reply (weaker _ _ kept) ih
  | pause kept _ ih => exact .pause (weaker _ _ kept) ih

/-- A run of two dialogues one after the other is a run of the first and then one of the second. -/
theorem Dialogue.runs_bind {d : Dialogue waits α} {f : α → Dialogue waits β} {b : β} :
    Runs Between (d.bind f) h t b h' ↔ ∃ a t₁ h₁ t₂, t = t₁ ++ t₂ ∧
      Runs Between d h t₁ a h₁ ∧ Runs Between (f a) h₁ t₂ b h' := by
  constructor
  · -- The induction is on the first dialogue: each case moves what it did into the first trace.
    intro run
    induction d generalizing h t with
    | done a => exact ⟨a, [], h, t, rfl, .done, run⟩
    | look resume ih =>
        cases run with
        | look run =>
          obtain ⟨a, t₁, h₁, t₂, eq, first, second⟩ := ih h run
          exact ⟨a, t₁, h₁, t₂, eq, .look first, second⟩
    | update change next ih =>
        cases run with
        | update run =>
          obtain ⟨a, t₁, h₁, t₂, eq, first, second⟩ := ih run
          exact ⟨a, t₁, h₁, t₂, eq, .update first, second⟩
    | measure resume ih =>
        cases run with
        | measure limit run =>
          obtain ⟨a, t₁, h₁, t₂, eq, first, second⟩ := ih limit run
          exact ⟨a, t₁, h₁, t₂, eq, .measure limit first, second⟩
    | transmit frame resume ih =>
        cases run with
        | transmit result between run =>
          obtain ⟨a, t₁, h₁, t₂, rfl, first, second⟩ := ih result run
          exact ⟨a, _ :: t₁, h₁, t₂, rfl, .transmit result between first, second⟩
    | ask may key timeout frames resume ih =>
        cases run with
        | ask reply between run =>
          obtain ⟨a, t₁, h₁, t₂, rfl, first, second⟩ := ih reply run
          exact ⟨a, _ :: t₁, h₁, t₂, rfl, .ask reply between first, second⟩
    | pause may milliseconds next ih =>
        cases run with
        | pause between run =>
          obtain ⟨a, t₁, h₁, t₂, rfl, first, second⟩ := ih run
          exact ⟨a, _ :: t₁, h₁, t₂, rfl, .pause between first, second⟩
  · rintro ⟨a, t₁, h₁, t₂, rfl, first, second⟩
    induction first with
    | done => exact second
    | look _ ih => exact .look (ih second)
    | update _ ih => exact .update (ih second)
    | measure limit _ ih => exact .measure limit (ih second)
    | transmit result between _ ih => exact .transmit result between (ih second)
    | ask reply between _ ih => exact .ask reply between (ih second)
    | pause between _ ih => exact .pause between (ih second)

namespace Call

/-! ## What a call can do -/

theorem runs_pure {a : α} {result : Except Fault α} :
    Runs Between (pure a : Call waits α) h t result h' ↔ t = [] ∧ result = .ok a ∧ h' = h := by
  constructor
  · intro run
    cases run
    exact ⟨rfl, rfl, rfl⟩
  · rintro ⟨rfl, rfl, rfl⟩
    exact .done

theorem runs_throw {fault : Fault} {result : Except Fault α} :
    Runs Between (throw fault : Call waits α) h t result h' ↔
      t = [] ∧ result = .error fault ∧ h' = h := by
  constructor
  · intro run
    cases run
    exact ⟨rfl, rfl, rfl⟩
  · rintro ⟨rfl, rfl, rfl⟩
    exact .done

/-- A call that begins with another one fails with it, or goes on after it. -/
theorem runs_bind {call : Call waits α} {f : α → Call waits β} {result : Except Fault β} :
    Runs Between (call >>= f) h t result h' ↔
      (∃ fault, Runs Between call h t (.error fault) h' ∧ result = .error fault) ∨
        ∃ a t₁ h₁ t₂, t = t₁ ++ t₂ ∧ Runs Between call h t₁ (.ok a) h₁ ∧
          Runs Between (f a) h₁ t₂ result h' := by
  have split := @Dialogue.runs_bind waits _ _ Between h h' t call.run (ExceptT.bindCont f) result
  constructor
  · intro run
    obtain ⟨first, t₁, h₁, t₂, eq, one, two⟩ := split.mp run
    cases first with
    | error fault =>
        cases two
        rw [eq, List.append_nil]
        exact .inl ⟨fault, one, rfl⟩
    | ok a => exact .inr ⟨a, t₁, h₁, t₂, eq, one, two⟩
  · rintro (⟨fault, one, rfl⟩ | ⟨a, t₁, h₁, t₂, eq, one, two⟩)
    · exact split.mpr ⟨_, t, h', [], (List.append_nil t).symm, one, .done⟩
    · exact split.mpr ⟨_, t₁, h₁, t₂, eq, one, two⟩

theorem runs_host {result : Except Fault Host} :
    Runs Between (host : Call waits Host) h t result h' ↔ t = [] ∧ result = .ok h ∧ h' = h := by
  constructor
  · intro run
    cases run with
    | look run =>
      cases run
      exact ⟨rfl, rfl, rfl⟩
  · rintro ⟨rfl, rfl, rfl⟩
    exact .look .done

theorem runs_update {change : Host → Host} {result : Except Fault Unit} :
    Runs Between (update change : Call waits Unit) h t result h' ↔
      t = [] ∧ result = .ok () ∧ h' = change h := by
  constructor
  · intro run
    cases run with
    | update run =>
      cases run
      exact ⟨rfl, rfl, rfl⟩
  · rintro ⟨rfl, rfl, rfl⟩
    exact .update .done

theorem runs_transmit {frame : Frame} {result : Except Fault Unit} :
    Runs Between (transmit frame : Call waits Unit) h t result h' ↔
      t = [.sent frame result] ∧ Between h h' := by
  constructor
  · intro run
    cases run with
    | transmit _ between run =>
      cases run
      exact ⟨rfl, between⟩
  · rintro ⟨rfl, between⟩
    exact .transmit result between .done

theorem runs_ask {key : ReplyKey} {timeout : Nat} {frames : List Frame}
    {result : Except Fault Frame} :
    Runs Between (ask key timeout frames) h t result h' ↔
      t = [.asked key timeout frames result] ∧ Between h h' := by
  constructor
  · intro run
    cases run with
    | ask _ between run =>
      cases run
      exact ⟨rfl, between⟩
  · rintro ⟨rfl, between⟩
    exact .ask result between .done

/-- An attempt always succeeds, with what the call ended with. -/
theorem runs_attempt {call : Call waits α} {result : Except Fault (Except Fault α)} :
    Runs Between (attempt call) h t result h' ↔
      ∃ inner, result = .ok inner ∧ Runs Between call h t inner h' := by
  have split := @Dialogue.runs_bind waits _ _ Between h h' t call.run
    (fun r => .done (Except.ok r)) result
  constructor
  · intro run
    obtain ⟨inner, t₁, h₁, t₂, eq, one, two⟩ := split.mp run
    cases two
    rw [eq, List.append_nil]
    exact ⟨inner, rfl, one⟩
  · rintro ⟨inner, rfl, one⟩
    exact split.mpr ⟨inner, t, h', [], (List.append_nil t).symm, one, .done⟩

theorem runs_check {checked result : Except Fault α} :
    Runs Between (check checked : Call waits α) h t result h' ↔
      t = [] ∧ result = checked ∧ h' = h := by
  constructor
  · intro run
    cases run
    exact ⟨rfl, rfl, rfl⟩
  · rintro ⟨rfl, rfl, rfl⟩
    exact .done

theorem orFail_eq_check (fault : Fault) (value : Option α) :
    (orFail fault value : Call waits α) = check (value.elim (.error fault) .ok) := by
  cases value <;> rfl

/-! ## What a call can do before it goes on -/

section Bind

variable {result : Except Fault β}

theorem runs_bind_check {checked : Except Fault α} {f : α → Call waits β} :
    Runs Between (check checked >>= f) h t result h' ↔
      (∃ fault, checked = .error fault ∧ t = [] ∧ result = .error fault ∧ h' = h) ∨
        ∃ a, checked = .ok a ∧ Runs Between (f a) h t result h' := by
  rw [runs_bind]
  constructor
  · rintro (⟨fault, first, rfl⟩ | ⟨a, t₁, h₁, t₂, rfl, first, run⟩)
    · obtain ⟨rfl, failed, rfl⟩ := runs_check.mp first
      exact .inl ⟨fault, failed.symm, rfl, rfl, rfl⟩
    · obtain ⟨rfl, passed, rfl⟩ := runs_check.mp first
      exact .inr ⟨a, passed.symm, run⟩
  · rintro (⟨fault, failed, rfl, rfl, rfl⟩ | ⟨a, passed, run⟩)
    · exact .inl ⟨fault, runs_check.mpr ⟨rfl, failed.symm, rfl⟩, rfl⟩
    · exact .inr ⟨a, [], h, t, rfl, runs_check.mpr ⟨rfl, passed.symm, rfl⟩, run⟩

theorem runs_bind_host {f : Host → Call waits β} :
    Runs Between (host >>= f) h t result h' ↔ Runs Between (f h) h t result h' := by
  rw [runs_bind]
  constructor
  · rintro (⟨fault, first, rfl⟩ | ⟨known, t₁, h₁, t₂, rfl, first, run⟩)
    · exact absurd (runs_host.mp first).2.1 nofun
    · obtain ⟨rfl, eq, rfl⟩ := runs_host.mp first
      rw [Except.ok.inj eq] at run
      exact run
  · intro run
    exact .inr ⟨h, [], h, t, rfl, runs_host.mpr ⟨rfl, rfl, rfl⟩, run⟩

/-- What goes on after something was looked up at the host goes on if it was found. -/
theorem runs_bind_lookUp {fault : Fault} {value : Host → Option α} {f : α → Call waits β} :
    Runs Between ((do orFail fault (value (← host)) : Call waits α) >>= f) h t result h' ↔
      (value h = none ∧ t = [] ∧ result = .error fault ∧ h' = h) ∨
        ∃ a, value h = some a ∧ Runs Between (f a) h t result h' := by
  show Runs Between (host >>= fun h => orFail fault (value h) >>= f) h t result h' ↔ _
  rw [runs_bind_host]
  cases value h with
  | none =>
      show Runs Between (throw fault) h t result h' ↔ _
      rw [runs_throw]
      simp
  | some a =>
      show Runs Between (f a) h t result h' ↔ _
      simp

theorem runs_bind_update {change : Host → Host} {f : Unit → Call waits β} :
    Runs Between (update change >>= f) h t result h' ↔
      Runs Between (f ()) (change h) t result h' := by
  rw [runs_bind]
  constructor
  · rintro (⟨fault, first, rfl⟩ | ⟨⟨⟩, t₁, h₁, t₂, rfl, first, run⟩)
    · exact absurd (runs_update.mp first).2.1 nofun
    · obtain ⟨rfl, -, rfl⟩ := runs_update.mp first
      exact run
  · intro run
    exact .inr ⟨(), [], _, t, rfl, runs_update.mpr ⟨rfl, rfl, rfl⟩, run⟩

theorem runs_bind_updateRoster {change : Roster → Roster} {f : Unit → Call waits β} :
    Runs Between (updateRoster change >>= f) h t result h' ↔
      Runs Between (f ()) { h with roster := change h.roster } t result h' :=
  runs_bind_update

theorem runs_bind_attempt {call : Call waits α} {f : Except Fault α → Call waits β} :
    Runs Between (attempt call >>= f) h t result h' ↔ ∃ inner t₁ h₁ t₂, t = t₁ ++ t₂ ∧
      Runs Between call h t₁ inner h₁ ∧ Runs Between (f inner) h₁ t₂ result h' := by
  rw [runs_bind]
  constructor
  · rintro (⟨fault, first, rfl⟩ | ⟨inner, t₁, h₁, t₂, rfl, first, run⟩)
    · obtain ⟨_, eq, -⟩ := runs_attempt.mp first
      contradiction
    · obtain ⟨_, eq, first⟩ := runs_attempt.mp first
      rw [← Except.ok.inj eq] at first
      exact ⟨inner, t₁, h₁, t₂, rfl, first, run⟩
  · rintro ⟨inner, t₁, h₁, t₂, rfl, first, run⟩
    exact .inr ⟨inner, t₁, h₁, t₂, rfl, runs_attempt.mpr ⟨inner, rfl, first⟩, run⟩

/-- What goes on after a question goes on if the answer is a frame. -/
theorem runs_bind_ask {key : ReplyKey} {timeout : Nat} {frames : List Frame}
    {f : Frame → Call true β} :
    Runs Between (ask key timeout frames >>= f) h t result h' ↔ ∃ reply h₁ t₂,
      t = .asked key timeout frames reply :: t₂ ∧ Between h h₁ ∧
        Runs Between (check reply >>= f) h₁ t₂ result h' := by
  rw [runs_bind]
  constructor
  · rintro (⟨fault, first, rfl⟩ | ⟨frame, t₁, h₁, t₂, rfl, first, run⟩)
    · obtain ⟨rfl, between⟩ := runs_ask.mp first
      exact ⟨.error fault, h', [], rfl, between, .done⟩
    · obtain ⟨rfl, between⟩ := runs_ask.mp first
      exact ⟨.ok frame, h₁, t₂, rfl, between, run⟩
  · rintro ⟨reply, h₁, t₂, rfl, between, run⟩
    rcases runs_bind_check.mp run with ⟨fault, rfl, rfl, rfl, rfl⟩ | ⟨frame, rfl, run⟩
    · exact .inl ⟨fault, runs_ask.mpr ⟨rfl, between⟩, rfl⟩
    · exact .inr ⟨frame, [_], h₁, t₂, rfl, runs_ask.mpr ⟨rfl, between⟩, run⟩

end Bind

/-- A call within a context ends like the call itself, and says what was attempted if it fails. -/
theorem runs_within {context : String} {call : Call waits α} {result : Except Fault α} :
    Runs Between (within context call) h t result h' ↔
      ∃ inner, Runs Between call h t inner h' ∧ result = inner.mapError (.inContext context) := by
  unfold within
  rw [runs_bind_attempt]
  constructor
  · rintro ⟨inner, t₁, h₁, t₂, rfl, made, rest⟩
    refine ⟨inner, ?_⟩
    cases inner with
    | error fault =>
        obtain ⟨rfl, rfl, rfl⟩ := runs_throw.mp rest
        rw [List.append_nil]
        exact ⟨made, rfl⟩
    | ok a =>
        obtain ⟨rfl, rfl, rfl⟩ := runs_pure.mp rest
        rw [List.append_nil]
        exact ⟨made, rfl⟩
  · rintro ⟨inner, made, rfl⟩
    refine ⟨inner, t, h', [], (List.append_nil t).symm, made, ?_⟩
    cases inner with
    | error fault => exact runs_throw.mpr ⟨rfl, rfl, rfl⟩
    | ok a => exact runs_pure.mpr ⟨rfl, rfl, rfl⟩

/-- A call within a context succeeds like the call itself. -/
theorem runs_within_ok {context : String} {call : Call waits α} {a : α} :
    Runs Between (within context call) h t (.ok a) h' ↔ Runs Between call h t (.ok a) h' := by
  rw [runs_within]
  constructor
  · rintro ⟨inner, made, same⟩
    cases inner with
    | error fault => contradiction
    | ok b =>
        obtain rfl := Except.ok.inj same
        exact made
  · intro made
    exact ⟨.ok a, made, rfl⟩

end Call

end SensorHost
