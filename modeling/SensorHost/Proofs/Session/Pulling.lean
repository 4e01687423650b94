import SensorHost.Proofs.Board.Processors
import SensorHost.Proofs.Processor.Links
import SensorHost.Proofs.Session.Batch
import SensorHost.Proofs.Session.Prompt

/-!
# What pulling a chain comes to

Pulling reads one processor after the other, each the one that feeds the one before. It comes to
what the stored links lead to (`Call.Comes`): to a producer, to a processor that is not stored or is
stored too short, or to the end of its reads. There are as many reads as there are ids, so that only
a circle uses them up, and the result says exactly where the links lead (`Call.pullChain_complete`).

The answers to the reads are what is stored (`ReadsBack`); how a board comes to give them is left
open. A simulated board gives them (`Session.solo_pullFrom`).
-/

namespace SensorHost

open Relation (ReflTransGen TransGen)

namespace Processor

/-- The key of the answers to reads of processors. -/
def readKey : ReplyKey := ⟨ModuleId.processor, Register.read Register.Processor.create⟩

/-- The frame that reads a processor. -/
def readFrame (id : UInt8) : Frame :=
  [ModuleId.processor, Register.read Register.Processor.create, id]

end Processor

open Processor (readKey readFrame)

/-- What a read of a processor comes to: the bytes stored of it, or a timeout if there are none. -/
def readResult (stored : Configurations) (id : UInt8) (timeout : Nat) : Except Fault Frame :=
  match stored.get? id with
  | some bytes => .ok (ModuleId.processor :: Register.read Register.Processor.create :: bytes)
  | none => .error (.timeout readKey.text timeout)

/-- Every read in the trace came to what is stored. -/
def ReadsBack (stored : Configurations) (t : List Exchange) : Prop :=
  ∀ id timeout reply, .asked readKey timeout [readFrame id] reply ∈ t →
    reply = readResult stored id timeout

/-- What is between the exchanges of a call leaves the settings as they are. -/
def SameSettings (h h' : Host) : Prop := h'.settings = h.settings

theorem SameSettings.of_listenersOnly {h h' : Host} (kept : ListenersOnly h h') :
    SameSettings h h' := by
  obtain ⟨subscriptions, rfl⟩ := kept
  rfl

namespace ReadsBack

variable {stored : Configurations} {id : UInt8} {timeout : Nat} {t t' : List Exchange}

theorem append (first : ReadsBack stored t) (second : ReadsBack stored t') :
    ReadsBack stored (t ++ t') := by
  intro id timeout reply mem
  rcases List.mem_append.mp mem with mem | mem
  · exact first id timeout reply mem
  · exact second id timeout reply mem

/-- A read that came to what is stored. -/
theorem single (stored : Configurations) (id : UInt8) (timeout : Nat) : ReadsBack stored
    [.asked readKey timeout [readFrame id] (readResult stored id timeout)] := by
  intro id' timeout' reply mem
  simp only [List.mem_singleton, Exchange.asked.injEq] at mem
  obtain ⟨-, rfl, same, rfl⟩ := mem
  obtain rfl : id' = id := by simpa [readFrame] using same
  rfl

theorem tail {exchange : Exchange} (reads : ReadsBack stored (exchange :: t)) :
    ReadsBack stored t :=
  fun id timeout reply mem => reads id timeout reply (List.mem_cons_of_mem _ mem)

theorem missing {fault : Fault}
    (reads : ReadsBack stored (.asked readKey timeout [readFrame id] (.error fault) :: t)) :
    stored.get? id = none ∧ fault = .timeout readKey.text timeout := by
  have back := reads id timeout _ List.mem_cons_self
  unfold readResult at back
  split at back
  · contradiction
  · exact ⟨‹_›, Except.error.inj back⟩

theorem known {frame : Frame}
    (reads : ReadsBack stored (.asked readKey timeout [readFrame id] (.ok frame) :: t)) :
    ∃ bytes, stored.get? id = some bytes ∧
      frame = ModuleId.processor :: Register.read Register.Processor.create :: bytes := by
  have back := reads id timeout _ List.mem_cons_self
  unfold readResult at back
  split at back
  · exact ⟨_, ‹_›, Except.ok.inj back⟩
  · contradiction

/-- What is read as a hop is stored as this hop. -/
theorem stores {frame : Frame} {hop : Hop}
    (reads : ReadsBack stored (.asked readKey timeout [readFrame id] (.ok frame) :: t))
    (read : Hop.ofReply id frame = .ok hop) : hop.id = id ∧ Stores stored hop := by
  obtain ⟨bytes, found, rfl⟩ := reads.known
  rcases Hop.ofReply_cases id ModuleId.processor (Register.read Register.Processor.create) bytes
    with ⟨hop', read', rfl, rfl, operator⟩ | ⟨-, refused⟩
  · obtain rfl := Except.ok.inj (read.symm.trans read')
    exact ⟨rfl, found, operator⟩
  · exact absurd (read.symm.trans refused) nofun

theorem short {frame : Frame} {fault : Fault}
    (reads : ReadsBack stored (.asked readKey timeout [readFrame id] (.ok frame) :: t))
    (refused : Hop.ofReply id frame = .error fault) :
    ∃ bytes, stored.get? id = some bytes ∧ bytes.length < 5 ∧ fault =
      .protocol s!"processor {id} config reply too short ({bytes.length + 2} bytes)" := by
  obtain ⟨bytes, found, rfl⟩ := reads.known
  rcases Hop.ofReply_cases id ModuleId.processor (Register.read Register.Processor.create) bytes
    with ⟨_, read, -⟩ | ⟨few, refused'⟩
  · exact absurd (refused.symm.trans read) nofun
  · exact ⟨bytes, found, few, Except.error.inj (refused.symm.trans refused')⟩

end ReadsBack

/-! ## What the end of the links says -/

section

variable {stored : Configurations} {timeout : Nat} {id : UInt8}

/-- What the processor at which the links end makes of the call. -/
def Verdict (stored : Configurations) (timeout : Nat) (id n : UInt8)
    (result : Except Fault (List Hop)) : Prop :=
  match stored.get? n with
  | none =>
    result = .error
      (.inContext s!"reading config of processor {n}" (.timeout readKey.text timeout))
  | some bytes =>
    if bytes.length < 5 then
      result = .error
        (.protocol s!"processor {n} config reply too short ({bytes.length + 2} bytes)")
    else ∃ route, Route stored id route ∧ result = .ok route

/-- A route ends at a processor that makes it the result. -/
theorem Route.verdict {route : List Hop} (toProducer : Route stored id route) :
    ∃ n, ReflTransGen (FedBy stored) id n ∧ Ends stored n ∧
      ∀ result, Verdict stored timeout id n result ↔ result = .ok route := by
  obtain ⟨hop, stores, leads, ends⟩ := toProducer.leads
  refine ⟨hop.id, leads, ends, fun result => ?_⟩
  have long : ¬ hop.bytes.length < 5 := fun few => stores.not_short ⟨_, stores.1, few⟩
  simp only [Verdict, stores.1, if_neg long]
  constructor
  · rintro ⟨route', toProducer', rfl⟩
    rw [toProducer.unique toProducer']
  · rintro rfl
    exact ⟨route, toProducer, rfl⟩

end

namespace Call

variable {stored : Configurations} {last id source : UInt8} {count timeout : Nat}
  {hops : List Hop} {h h' : Host} {t : List Exchange} {result : Except Fault (List Hop)}

/-- What is left of pulling a chain comes to, when `count` reads are left and the hops behind `id`
were read already. -/
inductive Comes (stored : Configurations) (timeout : Nat) (last : UInt8) (count : Nat) (id : UInt8)
    (hops : List Hop) : Except Fault (List Hop) → Prop
  | producer {route : List Hop} : Route stored id route →
    Comes stored timeout last count id hops (.ok (route ++ hops))
  | missing {n : UInt8} : ReflTransGen (FedBy stored) id n → stored.get? n = none →
    Comes stored timeout last count id hops
      (.error (.inContext s!"reading config of processor {n}" (.timeout readKey.text timeout)))
  | short {n : UInt8} {bytes : Frame} : ReflTransGen (FedBy stored) id n →
    stored.get? n = some bytes → bytes.length < 5 →
    Comes stored timeout last count id hops
      (.error (.protocol s!"processor {n} config reply too short ({bytes.length + 2} bytes)"))
  | endless {way : List UInt8} : (id :: way).IsChain (FedBy stored) → way.length = count →
    Comes stored timeout last count id hops
      (.error (.protocol s!"processor chain ending at {last} does not reach a producer"))

/-- A processor that is fed by another one was read, and the other one is read next. -/
theorem Comes.step {hop : Hop} (stores : Stores stored hop) (fed : hop.source = .processorOutput source)
    (later : Comes stored timeout last count source (hop :: hops) result) :
    Comes stored timeout last (count + 1) hop.id hops result := by
  have link : FedBy stored hop.id source := ⟨hop, stores, rfl, fed⟩
  cases later with
  | @producer route onward =>
      rw [List.append_cons]
      exact .producer (.fed stores fed onward)
  | missing leads unknown => exact .missing (.head link leads) unknown
  | short leads known few => exact .short (.head link leads) known few
  | @endless way links full =>
      exact .endless (List.isChain_cons_cons.mpr ⟨link, links⟩) (congrArg Nat.succ full)

/-- One of the reads, and what is done with its result. -/
theorem runs_pullFrom_succ (run : Runs SameSettings (pullFrom last (count + 1) id hops) h t result h') :
    ∃ reply t₁, t = .asked readKey h.settings.readTimeout [readFrame id] reply :: t₁ ∧
      match reply with
      | .error fault =>
        t₁ = [] ∧ result = .error (.inContext s!"reading config of processor {id}" fault)
      | .ok frame =>
        match Hop.ofReply id frame with
        | .error fault => t₁ = [] ∧ result = .error fault
        | .ok hop =>
          if hop.source.isProcessorOutput then
            ∃ h₁, SameSettings h h₁ ∧
              Runs SameSettings (pullFrom last count hop.source.id (hop :: hops)) h₁ t₁ result h'
          else t₁ = [] ∧ result = .ok (hop :: hops) := by
  unfold pullFrom at run
  rw [runs_bind_host] at run
  dsimp only at run
  rcases runs_bind.mp run with ⟨fault, asked, rfl⟩ | ⟨frame, t₁, h₁, t₂, rfl, asked, more⟩
  · obtain ⟨reply, asked, failed⟩ := runs_within.mp asked
    obtain ⟨rfl, -⟩ := runs_ask.mp asked
    refine ⟨reply, [], rfl, ?_⟩
    cases reply with
    | error fault' => exact ⟨rfl, congrArg Except.error (Except.error.inj failed)⟩
    | ok frame => contradiction
  · obtain ⟨rfl, same⟩ := runs_ask.mp (runs_within_ok.mp asked)
    refine ⟨.ok frame, t₂, rfl, ?_⟩
    rw [runs_bind_check] at more
    rcases more with ⟨fault, refused, rfl, rfl, rfl⟩ | ⟨hop, read, rest⟩
    · simp only [refused, and_self]
    · simp only [read]
      split at rest
      · rename_i putOut
        rw [if_pos putOut]
        exact ⟨h₁, same, rest⟩
      · rename_i producer
        obtain ⟨rfl, rfl, -⟩ := runs_pure.mp rest
        rw [if_neg producer]
        exact ⟨rfl, rfl⟩

/-- Pulling sends reads only, as many as are left at most. If they come to what is stored, it comes
to what the links lead to. -/
theorem runs_pullFrom (run : Runs SameSettings (pullFrom last count id hops) h t result h') :
    (∃ ids : List UInt8, handedIn t = ids.map readFrame ∧ ids.length ≤ count) ∧
      (ReadsBack stored t → Comes stored h.settings.readTimeout last count id hops result) := by
  -- The induction is on the reads that are left; `hops` grows as they become fewer.
  induction count generalizing id hops h t with
  | zero =>
      obtain ⟨rfl, rfl, -⟩ := runs_throw.mp run
      exact ⟨⟨[], rfl, Nat.le_refl 0⟩, fun _ => .endless (.singleton id) rfl⟩
  | succ count ih =>
      obtain ⟨reply, t₁, rfl, rest⟩ := runs_pullFrom_succ run
      -- Where the call ends with this read, it was the only one.
      have last (ended : t₁ = []) : ∃ ids : List UInt8,
          handedIn (.asked readKey h.settings.readTimeout [readFrame id] reply :: t₁) =
            ids.map readFrame ∧ ids.length ≤ count + 1 :=
        ⟨[id], by rw [ended]; rfl, Nat.succ_le_succ (Nat.zero_le count)⟩
      cases reply with
      | error fault =>
          obtain ⟨ended, rfl⟩ := rest
          refine ⟨last ended, fun reads => ?_⟩
          obtain ⟨unknown, rfl⟩ := reads.missing
          exact .missing .refl unknown
      | ok frame =>
          simp only at rest
          split at rest
          · rename_i fault refused
            obtain ⟨ended, rfl⟩ := rest
            refine ⟨last ended, fun reads => ?_⟩
            obtain ⟨bytes, known, few, rfl⟩ := reads.short refused
            exact .short .refl known few
          · rename_i hop read
            split at rest
            · rename_i putOut
              obtain ⟨h₁, same, rest⟩ := rest
              obtain ⟨⟨ids, handed, bound⟩, comes⟩ := ih rest
              refine ⟨⟨id :: ids, congrArg (_ :: ·) handed, Nat.succ_le_succ bound⟩, ?_⟩
              intro reads
              obtain ⟨rfl, stores⟩ := reads.stores read
              have later := comes reads.tail
              rw [same] at later
              exact .step stores (Address.eq_processorOutput putOut) later
            · rename_i producer
              obtain ⟨ended, rfl⟩ := rest
              refine ⟨last ended, fun reads => ?_⟩
              obtain ⟨rfl, stores⟩ := reads.stores read
              exact .producer (.root stores (by simpa using producer))

/-! ## Where the links lead -/

/-- With a read for every id, only a circle uses up the reads. -/
theorem Comes.ends (comes : Comes stored timeout last processorLimit id [] result) :
    (Circles stored id ∧ result =
        .error (.protocol s!"processor chain ending at {last} does not reach a producer")) ∨
      ∃ n, ReflTransGen (FedBy stored) id n ∧ Ends stored n ∧ Verdict stored timeout id n result := by
  cases comes with
  | endless links full => exact .inl ⟨circles_of_isChain links (Nat.le_of_eq full.symm), rfl⟩
  | producer route =>
      obtain ⟨n, leads, ends, verdict⟩ := route.verdict
      exact .inr ⟨n, leads, ends, (verdict _).mpr (by rw [List.append_nil])⟩
  | @missing n leads unknown =>
      refine .inr ⟨n, leads, ends_of_missing unknown, ?_⟩
      simp only [Verdict, unknown]
  | @short n bytes leads known few =>
      refine .inr ⟨n, leads, ends_of_short ⟨bytes, known, few⟩, ?_⟩
      simp only [Verdict, known, if_pos few]

/-- Where the links end, the result is what the last processor makes of the call. -/
theorem Comes.verdict (comes : Comes stored timeout last processorLimit id [] result) {n : UInt8}
    (leads : ReflTransGen (FedBy stored) id n) (ends : Ends stored n) :
    Verdict stored timeout id n result := by
  rcases comes.ends with ⟨circles, -⟩ | ⟨m, leads', ends', verdict⟩
  · exact absurd circles (not_circles_of_ends leads ends)
  · rw [eq_of_ends leads ends leads' ends']
    exact verdict

theorem Comes.eq_ok_iff (comes : Comes stored timeout last processorLimit id [] result) :
    result = .ok hops ↔ Route stored id hops := by
  constructor
  · rintro rfl
    rcases comes.ends with ⟨-, failed⟩ | ⟨n, -, -, verdict⟩
    · contradiction
    · unfold Verdict at verdict
      split at verdict
      · contradiction
      · split at verdict
        · contradiction
        · obtain ⟨route, toProducer, same⟩ := verdict
          rw [Except.ok.inj same]
          exact toProducer
  · intro toProducer
    obtain ⟨n, leads, ends, verdict⟩ := toProducer.verdict
    exact (verdict result).mp (comes.verdict leads ends)

theorem Comes.eq_of_circles (comes : Comes stored timeout last processorLimit id [] result)
    (circles : Circles stored id) : result =
      .error (.protocol s!"processor chain ending at {last} does not reach a producer") := by
  rcases comes.ends with ⟨-, failed⟩ | ⟨n, leads, ends, -⟩
  · exact failed
  · exact absurd circles (not_circles_of_ends leads ends)

theorem Comes.eq_of_missing (comes : Comes stored timeout last processorLimit id [] result)
    {n : UInt8} (leads : ReflTransGen (FedBy stored) id n) (unknown : stored.get? n = none) :
    result = .error
      (.inContext s!"reading config of processor {n}" (.timeout readKey.text timeout)) := by
  have verdict := comes.verdict leads (ends_of_missing unknown)
  simpa only [Verdict, unknown] using verdict

end Call

/-! ## Simulated boards -/

/-- The board answers reads of processors. -/
structure Board.Readable (b : Board) : Prop where
  answers : b.silent = false
  takes : b.rejected ≠ some readKey

theorem Board.Readable.receive {b : Board} (readable : b.Readable) (id : UInt8) :
    ∃ replies, Transport.send b (readFrame id) =
        (.ok replies, { b with sent := b.sent ++ [readFrame id] }) ∧
      firstOn readKey replies = (b.processors.get? id).map fun bytes =>
        ModuleId.processor :: Register.read Register.Processor.create :: bytes := by
  have received : Transport.send b (readFrame id) = b.receive (readFrame id) := rfl
  have takes : b.rejected ≠ some ⟨ModuleId.processor, Register.read Register.Processor.create⟩ :=
    readable.takes
  rw [received, readFrame, Board.receive, if_neg takes, obey_read]
  cases b.processors.get? id with
  | none => exact ⟨_, rfl, by simp [readable.answers, firstOn]⟩
  | some bytes =>
      simp only [readable.answers, Bool.false_eq_true, if_false]
      exact ⟨_, rfl, rfl⟩

namespace Session

variable {s : Session Board} {owner : Nat}

/-- A read of a processor comes to what the board stores. -/
theorem Idle.read_settles (idle : s.Idle) (readable : s.link.wire.Readable) (owner timeout : Nat)
    (id : UInt8) : ∃ s₁ s₂,
      ReflTransGen (Meanwhile Board.Injects) (s.request readKey timeout owner [readFrame id]) s₁ ∧
      s₁.takeOutcome? owner = some (readResult s.link.wire.processors id timeout, s₂) ∧
      s₂.Idle ∧ s₂.link.wire.Readable ∧ s₂.link.wire.processors = s.link.wire.processors ∧
      ListenersOnly s.host s₂.host := by
  obtain ⟨replies, sent, first⟩ := readable.receive id
  unfold readResult
  cases known : s.link.wire.processors.get? id with
  | some bytes =>
      rw [known] at first
      obtain ⟨s₂, taken, idle', wire, listeners⟩ :=
        idle.taken_at_once owner readKey timeout sent first
      refine ⟨_, s₂, .refl, taken, idle', ?_, ?_, listeners⟩
      · rw [wire]
        exact ⟨readable.answers, readable.takes⟩
      · rw [wire]
  | none =>
      rw [known] at first
      obtain ⟨s₁, s₂, expires, taken, idle', wire, listeners⟩ :=
        idle.times_out owner readKey timeout sent first
      refine ⟨s₁, s₂, .single expires, taken, idle', ?_, ?_, listeners⟩
      · rw [wire]
        exact ⟨readable.answers, readable.takes⟩
      · rw [wire]

/-- A board that answers reads of processors lets every pull come to an end. -/
theorem solo_pullFrom (idle : s.Idle) (readable : s.link.wire.Readable) (owner : Nat) (last : UInt8)
    (count : Nat) (id : UInt8) (hops : List Hop) : ∃ t result s',
      Solo Board.Injects owner (Call.pullFrom last count id hops).run s t result s' ∧
      ReadsBack s.link.wire.processors t := by
  induction count generalizing s id hops with
  | zero => exact ⟨[], _, s, .done, nofun⟩
  | succ count ih =>
      obtain ⟨s₁, s₂, meanwhile, taken, idle₂, readable₂, kept, -⟩ :=
        idle.read_settles readable owner s.host.settings.readTimeout id
      have first := ReadsBack.single s.link.wire.processors id s.host.settings.readTimeout
      cases came : readResult s.link.wire.processors id s.host.settings.readTimeout with
      | error fault =>
          rw [came] at taken first
          exact ⟨_, _, s₂, .look (.ask meanwhile taken .done), first⟩
      | ok frame =>
          rw [came] at taken first
          -- What is left of the call once the read came to a frame.
          obtain ⟨t, result, s', solo, later⟩ : ∃ t result s', Solo Board.Injects owner
              (Call.check (Hop.ofReply id frame) >>= fun hop =>
                if hop.source.isProcessorOutput then
                  Call.pullFrom last count hop.source.id (hop :: hops)
                else return hop :: hops).run s₂ t result s' ∧
              ReadsBack s.link.wire.processors t := by
            cases Hop.ofReply id frame with
            | error fault => exact ⟨[], _, s₂, .done, nofun⟩
            | ok hop =>
                show ∃ t result s', Solo Board.Injects owner (if hop.source.isProcessorOutput then
                  Call.pullFrom last count hop.source.id (hop :: hops)
                  else return hop :: hops).run s₂ t result s' ∧ _
                split
                · rw [← kept]
                  exact ih idle₂ readable₂ hop.source.id (hop :: hops)
                · exact ⟨[], _, s₂, .done, nofun⟩
          exact ⟨_, result, s', .look (.ask meanwhile taken solo), first.append later⟩

/-- Whatever is stored of the processors, pulling a chain sends reads only, at most 256 of them. If
they come to what is stored, it returns hops exactly if the stored links lead from the processor to a
producer, and then the hops on this route; on a circle it ends with a protocol error, and at a
processor that is not stored with a timeout. A simulated board that stores this, and answers reads,
lets it come to such an end. -/
theorem pullChain_complete (stored : Configurations) (id : UInt8) :
    (∀ {h h' : Host} {t : List Exchange} {result : Except Fault (List Hop)},
      Call.Runs SameSettings (Call.pullChain id) h t result h' →
        (∃ ids : List UInt8, handedIn t = ids.map readFrame ∧ ids.length ≤ 256) ∧
        (ReadsBack stored t →
          (∀ hops, result = .ok hops ↔ Route stored id hops) ∧
          (Circles stored id → result =
            .error (.protocol s!"processor chain ending at {id} does not reach a producer")) ∧
          ∀ n, ReflTransGen (FedBy stored) id n → stored.get? n = none → result =
            .error (.inContext s!"reading config of processor {n}"
              (.timeout readKey.text h.settings.readTimeout)))) ∧
      ∀ {s : Session Board} (owner : Nat), s.Idle → s.link.wire.Readable →
        s.link.wire.processors = stored → ∃ t result s',
          Solo Board.Injects owner (Call.pullChain id).run s t result s' ∧ ReadsBack stored t := by
  constructor
  · intro h h' t result run
    obtain ⟨reads, comes⟩ := Call.runs_pullFrom run
    refine ⟨reads, fun back => ?_⟩
    have comes : Call.Comes stored _ id Call.processorLimit id [] result := comes back
    exact ⟨fun _ => comes.eq_ok_iff, comes.eq_of_circles, fun _ => comes.eq_of_missing⟩
  · rintro s owner idle readable rfl
    exact solo_pullFrom idle readable owner id Call.processorLimit id []

/-- Two processors that a producer feeds, and two that feed each other. -/
def linkedProcessors : Configurations :=
  (((SortedMap.empty.insert 0 [3, 4, 255, 160, 1]).insert 1 [9, 3, 0, 32, 2]).insert 2
    [9, 3, 3, 0, 2]).insert 3 [9, 3, 2, 0, 2]

def linkedSession : Session Board :=
  .new default { Board.new 18 with processors := linkedProcessors } 0 .virtual

theorem route_linked : Route linkedProcessors 1
    [⟨0, ⟨3, 4, 255⟩, 160, [1]⟩, ⟨1, .processorOutput 0, 32, [2]⟩] :=
  have first : Stores linkedProcessors ⟨0, ⟨3, 4, 255⟩, 160, [1]⟩ := ⟨rfl, List.cons_ne_nil _ _⟩
  have second : Stores linkedProcessors ⟨1, .processorOutput 0, 32, [2]⟩ :=
    ⟨rfl, List.cons_ne_nil _ _⟩
  .fed second rfl (.root first rfl)

theorem circles_linked : Circles linkedProcessors 2 := by
  have there : FedBy linkedProcessors 2 3 :=
    ⟨⟨2, .processorOutput 3, 0, [2]⟩, ⟨rfl, List.cons_ne_nil _ _⟩, rfl, rfl⟩
  have back : FedBy linkedProcessors 3 2 :=
    ⟨⟨3, .processorOutput 2, 0, [2]⟩, ⟨rfl, List.cons_ne_nil _ _⟩, rfl, rfl⟩
  exact ⟨2, .refl, .head there (.single back)⟩

theorem pullChain_complete_linked :
    (∃ t s', Solo Board.Injects 0 (Call.pullChain 1).run linkedSession t
      (.ok [⟨0, ⟨3, 4, 255⟩, 160, [1]⟩, ⟨1, .processorOutput 0, 32, [2]⟩]) s') ∧
      ∃ t s', Solo Board.Injects 0 (Call.pullChain 2).run linkedSession t
        (.error (.protocol "processor chain ending at 2 does not reach a producer")) s' := by
  have idle : linkedSession.Idle := idle_new ..
  have readable : linkedSession.link.wire.Readable := ⟨rfl, nofun⟩
  constructor
  · obtain ⟨pulled, ends⟩ := pullChain_complete linkedProcessors 1
    obtain ⟨t, result, s', solo, back⟩ := ends 0 idle readable rfl
    have run := (carried_of_solo solo idle).1.mono fun _ _ => SameSettings.of_listenersOnly
    obtain rfl := (((pulled run).2 back).1 _).mpr route_linked
    exact ⟨t, s', solo⟩
  · obtain ⟨pulled, ends⟩ := pullChain_complete linkedProcessors 2
    obtain ⟨t, result, s', solo, back⟩ := ends 0 idle readable rfl
    have run := (carried_of_solo solo idle).1.mono fun _ _ => SameSettings.of_listenersOnly
    obtain rfl := ((pulled run).2 back).2.1 circles_linked
    exact ⟨t, s', solo⟩

end Session

end SensorHost
