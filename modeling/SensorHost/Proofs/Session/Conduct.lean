import SensorHost.Proofs.Board.Processors
import SensorHost.Proofs.Board.Registrar
import SensorHost.Proofs.Processor.Roster
import SensorHost.Proofs.Session.Runs
import SensorHost.Session.Processors

/-!
# How a chain is created

A call that creates a chain asks for one creation at a time, and for nothing else. What it sends besides
removes processors whose creation was answered to itself, and in the roster it changes nothing but the
entries of these processors. `Dialogue.Conducts` says so of every point that a dialogue can come to,
whatever was answered before, and says with what it ends.
-/

namespace SensorHost

/-- The creations that a call asked for, in order, with what came back. -/
abbrev Answered := List (Frame × Except Fault Frame)

/-- The id in an answer. -/
def answeredId? : Except Fault Frame → Option UInt8
  | .ok frame => frame[2]?
  | .error _ => none

/-- The ids that a call was answered. -/
def answeredIds (made : Answered) : List UInt8 := made.filterMap fun m => answeredId? m.2

variable {α β : Type} {made made' : Answered}

theorem mem_answeredIds_mono (grows : made <+: made') {id : UInt8}
    (mem : id ∈ answeredIds made) : id ∈ answeredIds made' :=
  (grows.filterMap _).subset mem

/-- From the point at which these creations were answered, the dialogue asks for single creations, removes
what was answered to it, keeps the other entries of the roster, and ends as `Q` says. -/
def Dialogue.Conducts (Q : Answered → α → Prop) : Dialogue true α → Answered → Prop
  | .done a, made => Q made a
  | .look resume, made => ∀ h, (resume h).Conducts Q made
  | .update change next, made =>
    (∀ h, ∀ id ∉ answeredIds made, (change h).roster.get? id = h.roster.get? id) ∧
      next.Conducts Q made
  | .measure resume, made => ∀ limit, (resume limit).Conducts Q made
  | .transmit frame resume, made =>
    (∃ id ∈ answeredIds made, frame = Processor.removeFrame id) ∧
      ∀ result, (resume result).Conducts Q made
  | .ask _ key _ frames resume, made =>
    key = .creation ∧ ∃ frame, frames = [frame] ∧ ReplyKey.ofFrame? frame = some .creation ∧
      ∀ reply, (resume reply).Conducts Q (made ++ [(frame, reply)])
  | .pause .., _ => False

theorem Dialogue.conducts_bind {d : Dialogue true α} {f : α → Dialogue true β}
    {Q : Answered → β → Prop} (conducts : d.Conducts (fun made a => (f a).Conducts Q made) made) :
    (d.bind f).Conducts Q made := by
  induction d generalizing made with
  | done a => exact conducts
  | look resume ih => exact fun h => ih h (conducts h)
  | update change next ih => exact ⟨conducts.1, ih conducts.2⟩
  | measure resume ih => exact fun limit => ih limit (conducts limit)
  | transmit frame resume ih => exact ⟨conducts.1, fun result => ih result (conducts.2 result)⟩
  | ask may key timeout frames resume ih =>
      obtain ⟨onKey, frame, single, creates, answered⟩ := conducts
      exact ⟨onKey, frame, single, creates, fun reply => ih reply (answered reply)⟩
  | pause may milliseconds next ih => exact conducts

namespace Call

def Conducts (Q : Answered → Except Fault α → Prop) (call : Call true α) (made : Answered) : Prop :=
  Dialogue.Conducts Q call.run made

section

variable {Q : Answered → Except Fault β → Prop} {call : Call true α} {f : α → Call true β}

/-- A call that goes on after another one goes on from where that one ends. -/
theorem conducts_bind (conducts : call.Conducts (fun made result =>
      match result with
      | .ok a => (f a).Conducts Q made
      | .error fault => Q made (.error fault)) made) : (call >>= f).Conducts Q made := by
  refine Dialogue.conducts_bind (f := ExceptT.bindCont f) ?_
  have same : (fun (made : Answered) (result : Except Fault α) =>
      (ExceptT.bindCont f result).Conducts Q made) = fun made result =>
        match result with
        | .ok a => (f a).Conducts Q made
        | .error fault => Q made (.error fault) := by
    funext made result
    cases result <;> rfl
  rw [same]
  exact conducts

theorem conducts_attempt {Q : Answered → Except Fault (Except Fault α) → Prop}
    (conducts : call.Conducts (fun made result => Q made (.ok result)) made) :
    (attempt call).Conducts Q made :=
  Dialogue.conducts_bind (f := fun result => .done (Except.ok result)) conducts

theorem conducts_bind_check {checked : Except Fault α}
    (failed : ∀ fault, checked = .error fault → Q made (.error fault))
    (passed : ∀ a, checked = .ok a → (f a).Conducts Q made) :
    (check checked >>= f).Conducts Q made := by
  cases checked with
  | error fault => exact failed fault rfl
  | ok a => exact passed a rfl

end

/-! ## Chains -/

/-- The creation of the processor was asked for, and this is what came back. -/
def Acknowledges (m : Frame × Except Fault Frame) (p : Processor) : Prop :=
  m.1 = ModuleId.processor :: Register.Processor.create :: p.record ∧
    ∃ reply, m.2 = .ok reply ∧ reply[2]? = some p.id

/-- The processor was created for the stage. -/
def Realizes (stage : Stage) (p : Processor) : Prop :=
  p.name = stage.name ∧ p.operator = stage.operator

theorem answeredIds_of_acknowledged {ps : List Processor} (answered : List.Forall₂ Acknowledges made ps) :
    answeredIds made = ps.map (·.id) := by
  induction answered with
  | nil => rfl
  | cons acknowledges _ ih =>
      obtain ⟨-, reply, replied, named⟩ := acknowledges
      rw [answeredIds, List.filterMap_cons, replied, answeredId?, named]
      exact congrArg _ ih

/-- A stage whose creation is answered with an id becomes the processor that was asked for. -/
theorem conducts_createStage {stage : Stage} {created : List Processor}
    {Q : Answered → Except Fault Processor → Prop}
    (failed : ∀ more fault, Q (made ++ more) (.error fault))
    (succeeded : ∀ m p, Acknowledges m p → Realizes stage p → Q (made ++ [m]) (.ok p)) :
    (createStage stage created).Conducts Q made := by
  have unasked (fault : Fault) : Q made (.error fault) := by
    have := failed [] fault
    rwa [List.append_nil] at this
  refine conducts_bind_check (fun fault _ => unasked fault) fun input resolved => ?_
  refine conducts_bind_check (fun fault _ => unasked fault) fun product produced => ?_
  intro h
  refine ⟨rfl, _, rfl, rfl, fun reply => ?_⟩
  cases reply with
  | error fault => exact failed _ fault
  | ok frame =>
      show Conducts Q (do
        let id ← orFail (.protocol "processor create echo carries no id") frame[2]?
        return .created id stage.name stage.operator input product) _
      cases named : frame[2]? with
      | none => exact failed _ _
      | some id =>
          refine succeeded _ (.created id stage.name stage.operator input product) ?_ ⟨rfl, rfl⟩
          refine ⟨?_, frame, rfl, named⟩
          rw [Processor.record_created]
          rfl

/-- What was created is removed again, and nothing else. -/
theorem conducts_rollback {ps : List Processor} {Q : Answered → Except Fault Unit → Prop}
    (own : ∀ p ∈ ps, p.id ∈ answeredIds made) (ended : ∀ result, Q made result) :
    (rollback ps).Conducts Q made := by
  induction ps with
  | nil => exact ended _
  | cons p rest ih =>
      obtain ⟨mine, own⟩ := List.forall_mem_cons.mp own
      refine conducts_bind (conducts_attempt ⟨⟨p.id, mine, rfl⟩, fun result => ?_⟩)
      refine conducts_bind ⟨fun h id other => ?_, ih own⟩
      have differs : id ≠ p.id := by
        rintro rfl
        exact other mine
      exact (Roster.get?_erase ..).trans (if_neg differs)

/-- A chain that was created is answered stage by stage. The induction is on the stages that are left;
what was created before them is what was answered before. -/
theorem conducts_createStages {total : Nat} {stages : List Stage} {created : List Processor}
    {Q : Answered → Except Fault (List Processor) → Prop}
    (answered : List.Forall₂ Acknowledges made created)
    (failed : ∀ more fault, Q (made ++ more) (.error fault))
    (succeeded : ∀ more ps, List.Forall₂ Acknowledges more ps → List.Forall₂ Realizes stages ps →
      Q (made ++ more) (.ok (created ++ ps))) :
    (createStages total stages created).Conducts Q made := by
  induction stages generalizing created made with
  | nil =>
      have ended := succeeded [] [] .nil .nil
      rwa [List.append_nil, List.append_nil] at ended
  | cons stage rest ih =>
      refine conducts_bind (conducts_attempt (conducts_createStage ?_ ?_))
      · intro more fault
        refine conducts_bind (conducts_rollback ?_ ?_)
        · intro p mem
          refine mem_answeredIds_mono (List.prefix_append ..) ?_
          rw [answeredIds_of_acknowledged answered]
          exact List.mem_map_of_mem (List.mem_reverse.mp mem)
        · intro result
          cases result with
          | ok done => exact failed more _
          | error fault => exact failed more _
      · intro m p acknowledges realizes
        have grown : List.Forall₂ Acknowledges (made ++ [m]) (created ++ [p]) :=
          List.rel_append answered (.cons acknowledges .nil)
        refine conducts_bind ⟨fun h id other => ?_, ?_⟩
        · have differs : id ≠ p.id := by
            rintro rfl
            refine other ?_
            rw [answeredIds_of_acknowledged grown]
            simp
          exact (Roster.get?_insert ..).trans (if_neg differs)
        · refine ih grown ?_ ?_
          · intro more fault
            rw [List.append_assoc]
            exact failed _ fault
          · intro more ps others realized
            rw [List.append_assoc, List.append_assoc]
            exact succeeded _ _ (.cons acknowledges others) (.cons realizes realized)

/-- What a call that creates these stages ends with. -/
def Yields (stages : List Stage) (made : Answered) : Except Fault (List Processor) → Prop
  | .ok ps => List.Forall₂ Acknowledges made ps ∧ List.Forall₂ Realizes stages ps
  | .error _ => True

theorem conducts_commitChain (stages : List Stage) :
    (commitChain stages).Conducts (Yields stages) [] := by
  refine conducts_bind_check (fun _ _ => trivial) fun outputs _ => ?_
  refine conducts_createStages .nil (fun _ _ => trivial) ?_
  exact fun more ps answered realized => ⟨answered, realized⟩

end Call

end SensorHost
