import Mathlib.Data.List.Pairwise
import SensorHost.Proofs.Session.Desk

/-!
# Chains that several calls create

Calls that create chains take turns on one session, over a board that answers creations honestly but
whenever it likes. An answer names no request, so all that tells the calls' processors apart is that
creations are handed to the board one at a time, in the order in which they were asked for. So the board
and the calls agree about whose creation was answered with which id (`Floor.Unmixed`).
-/

namespace SensorHost

/-! ## Whose creations they are -/

/-- The creations that the board was handed for a call, in order, with what became of them. -/
def creationsOf (owner : Nat) (owners : List Nat) (creations : List Creation) : List Creation :=
  ((owners.zip creations).filter (·.1 = owner)).map (·.2)

theorem sublist_map_zip (owners : List Nat) (creations : List Creation) :
    ((owners.zip creations).map (·.2)).Sublist creations := by
  induction owners generalizing creations with
  | nil => exact List.nil_sublist _
  | cons owner owners ih =>
      cases creations with
      | nil => exact .slnil
      | cons c creations => exact (ih creations).cons_cons c

theorem nodup_creationsOf {notes : List Note} (honest : Honest notes) (owner : Nat)
    (owners : List Nat) :
    ((creationsOf owner owners (ledger notes)).filterMap Creation.id?).Nodup := by
  have sub : (creationsOf owner owners (ledger notes)).Sublist (ledger notes) :=
    (List.filter_sublist.map _).trans (sublist_map_zip owners _)
  exact (nodup_ids honest).sublist (sub.filterMap _)

/-- The board assigned no id to two calls. -/
theorem eq_of_id? {notes : List Note} (honest : Honest notes) {owners : List Nat} {o p : Nat}
    {c c' : Creation} (mem : c ∈ creationsOf o owners (ledger notes))
    (mem' : c' ∈ creationsOf p owners (ledger notes)) {id : UInt8} (named : c.id? = some id)
    (named' : c'.id? = some id) : o = p := by
  have pairs {o : Nat} {c : Creation} (mem : c ∈ creationsOf o owners (ledger notes)) :
      (o, c) ∈ owners.zip (ledger notes) := by
    obtain ⟨⟨o', c'⟩, kept, rfl⟩ := List.mem_map.mp mem
    obtain ⟨member, own⟩ := List.mem_filter.mp kept
    rwa [← of_decide_eq_true own]
  have distinct : ((owners.zip (ledger notes)).filterMap fun x => x.2.id?).Nodup := by
    have sub := (sublist_map_zip owners (ledger notes)).filterMap Creation.id?
    rw [List.filterMap_map] at sub
    exact (nodup_ids honest).sublist sub
  have symmetric : Std.Symm fun x y : Nat × Creation =>
      ∀ id, x.2.id? = some id → ∀ id', y.2.id? = some id' → id ≠ id' :=
    ⟨fun x y differ id named id' named' => (differ id' named' id named).symm⟩
  by_contra other
  have differ : (o, c) ≠ (p, c') := fun same => other (Prod.mk.inj same).1
  have apart := (List.pairwise_filterMap.mp distinct).forall (pairs mem) (pairs mem') differ
  exact apart id named id named' rfl

/-- A list of pairs is a prefix of another one if its first and its second parts are. -/
theorem prefix_of_parts {α β : Type} {xs ys : List (α × β)} {more : List α}
    (first : xs.map (·.1) <+: ys.map (·.1) ++ more) (second : xs.map (·.2) <+: ys.map (·.2)) :
    xs <+: ys := by
  induction xs generalizing ys with
  | nil => exact List.nil_prefix
  | cons x xs ih =>
      cases ys with
      | nil => simp at second
      | cons y ys =>
          rw [List.map_cons, List.map_cons, List.cons_append, List.cons_prefix_cons] at first
          rw [List.map_cons, List.map_cons, List.cons_prefix_cons] at second
          obtain rfl : x = y := Prod.ext first.1 second.1
          exact List.cons_prefix_cons.mpr ⟨rfl, ih first.2 second.2⟩

/-- The board made this processor. -/
def Creation.Made (c : Creation) (p : Processor) : Prop :=
  c.frame = ModuleId.processor :: Register.Processor.create :: p.record ∧ c.id? = some p.id

theorem ids_of_made {creations : List Creation} {ps : List Processor}
    (made : List.Forall₂ Creation.Made creations ps) :
    creations.filterMap Creation.id? = ps.map (·.id) := by
  induction made with
  | nil => rfl
  | cons made _ ih => rw [List.filterMap_cons, made.2, List.map_cons, ih]

theorem exists_of_made {creations : List Creation} {ps : List Processor}
    (made : List.Forall₂ Creation.Made creations ps) {p : Processor} (mem : p ∈ ps) :
    ∃ c ∈ creations, c.id? = some p.id := by
  have assigned : p.id ∈ creations.filterMap Creation.id? := by
    rw [ids_of_made made]
    exact List.mem_map_of_mem mem
  exact List.mem_filterMap.mp assigned

theorem Fate.Gives.id? {c : Closed} (gives : c.fate.Gives c.result) {id : UInt8}
    (named : answeredId? c.result = some id) : c.creation.id? = some id := by
  obtain ⟨ask, fate, result⟩ := c
  cases result with
  | error fault => contradiction
  | ok reply =>
      cases fate with
      | answered frame =>
          obtain rfl : reply = frame := gives
          exact named
      | _ => exact gives.elim

namespace Link.Books

variable {σ : Type} [Registrar σ] {l : Link σ} {past : List LinkEvent} {closed : List Closed}
  {flight : Flight} {waiting : List Ask}

theorem given (h : l.Books past closed flight waiting) (quiet : l.journal = []) (owner : Nat) :
    SensorHost.given owner past = (closed.filter (·.ask.owner = owner)).map (·.result) := by
  have results := h.results
  rw [quiet, List.append_nil] at results
  rw [SensorHost.given, results, List.filter_map, List.map_map]
  rfl

theorem creationsOf (h : l.Books past closed flight waiting) (quiet : l.journal = [])
    (rest : flight = .none ∧ waiting = [] ∨ ∃ ask, flight = .waits ask) (owner : Nat) :
    SensorHost.creationsOf owner (startedBy past) (ledger (Registrar.notes l.wire)) =
      (closed.filter (·.ask.owner = owner)).map Closed.creation ++
        (flight.asks.filter (·.owner = owner)).map fun ask => ⟨ask.frame, .pending⟩ := by
  have owners := h.owners
  rw [quiet, List.append_nil] at owners
  rw [SensorHost.creationsOf, owners, h.entries rest, List.zip_append (by simp), List.filter_append,
    List.map_append, List.zip_map', List.zip_map', List.filter_map, List.filter_map, List.map_map,
    List.map_map]
  rfl

end Link.Books

namespace Session

variable {σ : Type} [Registrar σ] {s : Session σ} {past : List LinkEvent}
  {made : Nat → Answered} {awaited : Nat → List Frame}

theorem Desk.serial (h : s.Desk past made awaited) : Serial (Registrar.notes s.link.wire) := by
  obtain ⟨_, ⟨_, _, _, books, -⟩, -⟩ := h.rests
  exact books.serial

/-- Every creation that the board was handed was handed for some call. -/
theorem Desk.attributed (h : s.Desk past made awaited) :
    (startedBy past).length = (ledger (Registrar.notes s.link.wire)).length := by
  obtain ⟨_, ⟨closed, flight, waiting, books, -, rest⟩, -⟩ := h.rests
  have owners := books.owners
  rw [h.quiet, List.append_nil] at owners
  rw [owners, books.entries rest, List.length_append, List.length_append, List.length_map,
    List.length_map, List.length_map, List.length_map]

/-- The creations of a call that have come to their end are those that it was answered, and possibly one
whose result it has not taken yet. -/
theorem Desk.closed (h : s.Desk past made awaited) (owner : Nat) : ∃ closed : List Closed,
    (∀ c ∈ closed, c.fate.Gives c.result) ∧
    made owner <+: closed.map (fun c => (c.ask.frame, c.result)) ∧
    closed.map Closed.creation <+:
      creationsOf owner (startedBy past) (ledger (Registrar.notes s.link.wire)) ∧
    (awaited owner = [] → made owner = closed.map (fun c => (c.ask.frame, c.result)) ∧
      creationsOf owner (startedBy past) (ledger (Registrar.notes s.link.wire)) =
        closed.map Closed.creation) := by
  obtain ⟨asks, ⟨closed, flight, waiting, books, rfl, rest⟩, asked⟩ := h.rests
  have balance := h.given owner
  rw [books.given h.quiet] at balance
  have creations := books.creationsOf h.quiet rest owner
  have all : (made owner).map (·.1) ++ awaited owner =
      (closed.filter (·.ask.owner = owner)).map (·.ask.frame) ++
        askedBy owner (flight.asks ++ waiting) := by
    rw [← asked owner, List.append_assoc, askedBy, List.filter_append, List.map_append,
      List.filter_map, List.map_map]
    rfl
  have gives : ∀ c ∈ closed.filter (·.ask.owner = owner), c.fate.Gives c.result := by
    intro c mem
    exact books.gives c (List.mem_of_mem_filter mem)
  generalize closed.filter (·.ask.owner = owner) = mine at balance creations all gives
  have grows : made owner <+: mine.map (fun c => (c.ask.frame, c.result)) := by
    have first : (made owner).map (·.1) <+:
        (mine.map fun c => (c.ask.frame, c.result)).map (·.1) ++
          askedBy owner (flight.asks ++ waiting) := by
      rw [List.map_map]
      exact ⟨_, all⟩
    refine prefix_of_parts first ?_
    rw [List.map_map]
    exact ⟨_, balance.symm⟩
  refine ⟨mine, gives, grows, creations ▸ List.prefix_append .., ?_⟩
  intro idle
  -- Nothing of the call is under way, so everything that was started for it has ended.
  have lengths := congrArg List.length all
  rw [idle, List.append_nil, List.length_append, List.length_map, List.length_map] at lengths
  have short := grows.length_le
  rw [List.length_map] at short
  have none : askedBy owner (flight.asks ++ waiting) = [] :=
    List.eq_nil_of_length_eq_zero (by omega)
  rw [askedBy, List.filter_append, List.map_append] at none
  have landed : flight.asks.filter (·.owner = owner) = [] :=
    List.map_eq_nil_iff.mp (List.append_eq_nil_iff.mp none).1
  rw [landed, List.map_nil, List.append_nil] at creations
  refine ⟨grows.eq_of_length ?_, creations⟩
  rw [List.length_map]
  omega

/-- The board assigned the ids that a call was answered to creations of that call. -/
theorem Desk.assigned (h : s.Desk past made awaited) {owner : Nat} {id : UInt8}
    (mem : id ∈ answeredIds (made owner)) :
    ∃ c ∈ creationsOf owner (startedBy past) (ledger (Registrar.notes s.link.wire)),
      c.id? = some id := by
  obtain ⟨closed, gives, grows, ended, -⟩ := h.closed owner
  obtain ⟨m, answered, named⟩ := List.mem_filterMap.mp mem
  obtain ⟨c, closed, rfl⟩ := List.mem_map.mp (grows.subset answered)
  exact ⟨c.creation, ended.subset (List.mem_map_of_mem closed), (gives c closed).id? named⟩

/-- What a call that waits for nothing made of the answers, it made of its creations. -/
theorem Desk.acknowledged (h : s.Desk past made awaited) {owner : Nat} (idle : awaited owner = [])
    {ps : List Processor} (acknowledged : List.Forall₂ Call.Acknowledges (made owner) ps) :
    List.Forall₂ Creation.Made
      (creationsOf owner (startedBy past) (ledger (Registrar.notes s.link.wire))) ps := by
  obtain ⟨closed, gives, -, -, ended⟩ := h.closed owner
  obtain ⟨answers, creations⟩ := ended idle
  rw [answers, List.forall₂_map_left_iff] at acknowledged
  rw [creations, List.forall₂_map_left_iff]
  refine List.Forall₂.imp ?_ ((List.forall₂_and_left _ _).mpr ⟨gives, acknowledged⟩)
  rintro ⟨ask, fate, result⟩ p ⟨gives, asked, reply, rfl, named⟩
  exact ⟨asked, gives.id? named⟩

end Session

/-! ## Calls that take turns -/

namespace Floor

variable {σ : Type} [Registrar σ] {stages : Nat → List Stage}
  {f f' : Floor σ (List Processor)} {made : Nat → Answered} {awaited : Nat → List Frame}

/-- The creations that the board was handed for a call. -/
def creations {ρ : Type} (f : Floor σ ρ) (owner : Nat) : List Creation :=
  creationsOf owner (startedBy (eventsOf f.log)) (ledger (Registrar.notes f.session.link.wire))

/-- What happens while no call has a turn: the board does something that is no answer to a creation, it
sends a frame, a timer fires, time passes, or others change what the host knows. The ticket of a request
that creates is the place of its creation among all that the board was handed. -/
inductive Serving : Session σ → List LinkEvent → Session σ → Prop
  | stirs {s : Session σ} {w : σ} : Registrar.notes w = Registrar.notes s.link.wire →
    Serving s [] (s.withWire w)
  | arrives {s : Session σ} {w : σ} {frame : Frame} :
    Tells (Registrar.notes s.link.wire) (Registrar.notes w) [frame] →
    Serving s ((s.withWire w).link.receive frame).journal ((s.withWire w).receive frame)
  | expires {s s₁ : Session σ} (key : ReplyKey) (ticket : Nat) :
    s₁ = s.withWire (if key = .creation then Registrar.giveUp ticket s.link.wire
      else s.link.wire) →
    Serving s (s₁.link.expire key ticket).journal (s₁.expire key ticket)
  | passes {s : Session σ} (now nextTimer : Nat) :
    Serving s [] { s with link := { s.link with now, nextTimer } }
  | others {s : Session σ} (host : Host) : Serving s [] { s with host }

theorem Serving.desk {s s' : Session σ} {events past : List LinkEvent} (serving : Serving s events s')
    (h : s.Desk past made awaited) : s'.Desk (past ++ events) made awaited := by
  cases serving with
  | stirs same =>
      rw [List.append_nil]
      exact h.stir same
  | arrives tells => exact h.receive tells
  | expires key ticket again =>
      subst again
      exact h.expire key ticket
  | passes now nextTimer =>
      rw [List.append_nil]
      exact h.pass now nextTimer
  | others host =>
      rw [List.append_nil]
      exact h.rehost host

/-- Where the calls stand that create these stages. -/
structure Manned (stages : Nat → List Stage) (f : Floor σ (List Processor)) (made : Nat → Answered)
    (awaited : Nat → List Frame) : Prop where
  desk : f.session.Desk (eventsOf f.log) made awaited
  unbegun : ∀ owner, f.calls owner = none → made owner = [] ∧ awaited owner = []
  begun : ∀ owner progress, f.calls owner = some progress →
    Session.Desk.Comes (Call.Yields (stages owner)) (made owner) (awaited owner) progress
  sent : ∀ owner frame result, .sent owner frame result ∈ f.log →
    ∃ id ∈ answeredIds (made owner), frame = Processor.removeFrame id

theorem manned_new {wire : σ} (fresh : Registrar.notes wire = []) (settings : Settings) (now : Nat)
    (runtime : Runtime) : (new (.new settings wire now runtime)).Manned stages (fun _ => []) (fun _ => []) where
  desk := ⟨⟨[], Link.rests_new fresh now runtime, fun _ => rfl⟩, rfl, fun _ => rfl⟩
  unbegun _ _ := ⟨rfl, rfl⟩
  begun := nofun
  sent := nofun

namespace Manned

/-- A call that was answered `made₀` goes on. -/
theorem takeTurn (h : f.Manned stages made awaited) {owner : Nat} {s : Session σ} {made₀ : Answered}
    {d : Dialogue true (Except Fault (List Processor))}
    (desk : s.Desk (eventsOf f.log) (Function.update made owner made₀)
      (Function.update awaited owner []))
    (grows : made owner <+: made₀) (conducts : d.Conducts (Call.Yields (stages owner)) made₀) :
    ∃ made' awaited', (f.takeTurn owner d s).Manned stages made' awaited' ∧
      ∀ id ∉ answeredIds (made' owner),
        (f.takeTurn owner d s).session.host.roster.get? id = s.host.roster.get? id := by
  obtain ⟨made', awaited', turned⟩ := desk.advance (Function.update_self ..)
    (by rw [Function.update_self]; exact conducts)
  have left := turned.desk
  rw [Function.update_idem, Function.update_idem, ← eventsOf_append] at left
  have later := turned.grows
  rw [Function.update_self] at later
  -- Everything is said of each call by itself, and only of this one it changes.
  have calls : (f.takeTurn owner d s).calls =
      Function.update f.calls owner (some (s.advance owner d).1) := rfl
  refine ⟨_, _, ⟨left, fun o unbegun => ?_, fun o progress begun => ?_, fun o frame result mem => ?_⟩,
    fun id foreign => turned.roster id ?_⟩
  · have other : o ≠ owner := by
      rintro rfl
      rw [calls, Function.update_self] at unbegun
      contradiction
    rw [calls, Function.update_of_ne other] at unbegun
    rw [Function.update_of_ne other, Function.update_of_ne other]
    exact h.unbegun o unbegun
  · by_cases own : o = owner
    · subst own
      rw [calls, Function.update_self] at begun
      obtain rfl := Option.some.inj begun
      rw [Function.update_self, Function.update_self]
      exact turned.comes
    · rw [calls, Function.update_of_ne own] at begun
      rw [Function.update_of_ne own, Function.update_of_ne own]
      exact h.begun o progress begun
  · rcases List.mem_append.mp mem with mem | mem
    · obtain ⟨id, mine, removes⟩ := h.sent o frame result mem
      refine ⟨id, ?_, removes⟩
      by_cases own : o = owner
      · subst own
        rw [Function.update_self]
        exact mem_answeredIds_mono (grows.trans later) mine
      · rw [Function.update_of_ne own]
        exact mine
    · obtain ⟨rfl, mine⟩ := turned.sent o frame result mem
      rw [Function.update_self]
      exact mine
  · rwa [Function.update_self] at foreign

theorem turn (h : f.Manned stages made awaited) {owner : Nat}
    (turn : Turn (fun o => Call.commitChain (stages o)) owner f f') :
    ∃ made' awaited', f'.Manned stages made' awaited' ∧ ∀ id ∉ answeredIds (made' owner),
      f'.session.host.roster.get? id = f.session.host.roster.get? id := by
  cases turn with
  | begins unbegun =>
      obtain ⟨none, idle⟩ := h.unbegun owner unbegun
      have desk : f.session.Desk (eventsOf f.log) (Function.update made owner [])
          (Function.update awaited owner []) := by
        rw [← none, ← idle, Function.update_eq_self, Function.update_eq_self]
        exact h.desk
      exact h.takeTurn desk (none ▸ List.nil_prefix) (Call.conducts_commitChain _)
  | answered awaiting taken =>
      obtain ⟨frame, waits, answered⟩ := h.begun owner _ awaiting
      obtain ⟨-, host, -⟩ := Session.untaken_takeOutcome? taken
      rw [← host]
      exact h.takeTurn (h.desk.take waits taken) (List.prefix_append ..) (answered _)
  | resumed pausing => exact (h.begun owner _ pausing).elim

theorem step (h : f.Manned stages made awaited)
    (step : Step (fun o => Call.commitChain (stages o)) Serving f f') :
    ∃ made' awaited', f'.Manned stages made' awaited' := by
  cases step with
  | turn owner turn =>
      obtain ⟨made', awaited', manned, -⟩ := h.turn turn
      exact ⟨made', awaited', manned⟩
  | between serving =>
      refine ⟨made, awaited, ⟨?_, h.unbegun, h.begun, fun owner frame result mem => ?_⟩⟩
      · rw [eventsOf_append, eventsOf_happened]
        exact serving.desk h.desk
      · rcases List.mem_append.mp mem with mem | mem
        · exact h.sent owner frame result mem
        · exact absurd mem sent_notMem_happened

end Manned

/-- Every run is manned, by induction on its steps. -/
theorem manned {wire : σ} {settings : Settings} {now : Nat} {runtime : Runtime}
    (fresh : Registrar.notes wire = [])
    (reached : Relation.ReflTransGen (Step (fun o => Call.commitChain (stages o)) Serving)
      (.new (.new settings wire now runtime)) f) :
    ∃ made awaited, f.Manned stages made awaited := by
  induction reached with
  | refl => exact ⟨_, _, manned_new fresh settings now runtime⟩
  | tail _ step ih =>
      obtain ⟨made, awaited, manned⟩ := ih
      exact manned.step step

/-- The calls that create these stages and the board agree about whose creations are whose. -/
structure Unmixed (stages : Nat → List Stage) (f : Floor σ (List Processor)) : Prop where
  /-- A call that succeeded returns a processor for every stage, under the id that the board assigned to
  the creation of this stage. -/
  own : ∀ owner ps, f.calls owner = some (.finished (.ok ps)) →
    List.Forall₂ Creation.Made (f.creations owner) ps ∧
      List.Forall₂ Call.Realizes (stages owner) ps
  /-- No two processors that were returned have the same id. -/
  distinct : ∀ owner ps, f.calls owner = some (.finished (.ok ps)) → (ps.map (·.id)).Nodup
  apart : ∀ o p ps qs, o ≠ p → f.calls o = some (.finished (.ok ps)) →
    f.calls p = some (.finished (.ok qs)) → ∀ x ∈ ps, ∀ y ∈ qs, x.id ≠ y.id
  /-- At no time the board had taken more than one creation that was neither answered nor given up. -/
  serial : Serial (Registrar.notes f.session.link.wire)
  /-- Every creation that the board was handed belongs to some call. -/
  attributed : (startedBy (eventsOf f.log)).length =
    (ledger (Registrar.notes f.session.link.wire)).length
  /-- Whatever a call sends besides creations removes what was created for it. -/
  removes : ∀ owner frame result, .sent owner frame result ∈ f.log →
    ∃ c ∈ f.creations owner, ∃ id, c.id? = some id ∧ frame = Processor.removeFrame id
  /-- A turn of a call leaves in place what was created for another one. -/
  leaves : ∀ owner f', Turn (fun o => Call.commitChain (stages o)) owner f f' →
    ∀ other, other ≠ owner → ∀ c ∈ f'.creations other, ∀ id, c.id? = some id →
      f'.session.host.roster.get? id = f.session.host.roster.get? id

namespace Manned

theorem own (h : f.Manned stages made awaited) {owner : Nat} {ps : List Processor}
    (succeeded : f.calls owner = some (.finished (.ok ps))) :
    List.Forall₂ Creation.Made (f.creations owner) ps ∧
      List.Forall₂ Call.Realizes (stages owner) ps := by
  obtain ⟨idle, acknowledged, realized⟩ := h.begun owner _ succeeded
  exact ⟨h.desk.acknowledged idle acknowledged, realized⟩

theorem unmixed (h : f.Manned stages made awaited) : f.Unmixed stages where
  own _ _ := h.own
  distinct owner ps succeeded := by
    have nodup := nodup_creationsOf (Registrar.honest f.session.link.wire) owner
      (startedBy (eventsOf f.log))
    rwa [← creations, ids_of_made (h.own succeeded).1] at nodup
  apart o p ps qs other succeeded succeeded' x mem y mem' same := by
    obtain ⟨c, creation, named⟩ := exists_of_made (h.own succeeded).1 mem
    obtain ⟨c', creation', named'⟩ := exists_of_made (h.own succeeded').1 mem'
    rw [← same] at named'
    exact other (eq_of_id? (Registrar.honest _) creation creation' named named')
  serial := h.desk.serial
  attributed := h.desk.attributed
  removes owner frame result mem := by
    obtain ⟨id, answered, removes⟩ := h.sent owner frame result mem
    obtain ⟨c, creation, named⟩ := h.desk.assigned answered
    exact ⟨c, creation, id, named, removes⟩
  leaves owner f' turn other foreign c creation id named := by
    obtain ⟨made', awaited', manned, kept⟩ := h.turn turn
    -- The turn changes entries of answered ids only, and this id was assigned to another call.
    refine kept id fun answered => foreign ?_
    obtain ⟨c', creation', named'⟩ := manned.desk.assigned answered
    exact eq_of_id? (Registrar.honest _) creation creation' named named'

end Manned

/-- No id is mixed up, however the calls take turns, and whenever the board answers or a timer fires. -/
theorem creations_unmixed {wire : σ} {settings : Settings} {now : Nat} {runtime : Runtime}
    (fresh : Registrar.notes wire = [])
    (reached : Relation.ReflTransGen (Step (fun o => Call.commitChain (stages o)) Serving)
      (.new (.new settings wire now runtime)) f) :
    f.Unmixed stages := by
  obtain ⟨made, awaited, manned⟩ := manned fresh reached
  exact manned.unmixed

end Floor

/-! ## A run

The first of two calls loses an answer and removes what it created, while the second one waits between
its two creations. -/

/-- A board that takes every creation and answers it when it is told to. -/
structure Clerk where
  notes : List Note
  isHonest : Honest notes

namespace Clerk

def new : Clerk := ⟨[], honest_nil⟩

def write (w : Clerk) (note : Note) (h : note.IsHonest (ledger w.notes)) : Clerk :=
  ⟨w.notes ++ [note], honest_concat.mpr ⟨w.isHonest, h⟩⟩

/-- A frame is taken, and nothing comes back at once. -/
def take (w : Clerk) (frame : Frame) : Clerk :=
  if ReplyKey.ofFrame? frame = some .creation then w.write (.handed frame true) trivial else w

theorem notes_take (w : Clerk) (frame : Frame) :
    (w.take frame).notes = w.notes ++ noteOf frame true := by
  unfold take noteOf
  split
  · rfl
  · exact (List.append_nil _).symm

instance : Registrar Clerk where
  send w frame := (.ok [], w.take frame)
  frameLimit _ := 18
  notes := notes
  giveUp creation w := w.write (.overdue creation) trivial
  honest := isHonest
  refuses sent := nomatch (Prod.mk.inj sent).1
  takes sent := by
    obtain ⟨same, rfl⟩ := Prod.mk.inj sent
    obtain rfl := Except.ok.inj same
    exact ⟨[], by rw [notes_take]; exact (List.append_nil _).symm, rfl⟩
  gives _ _ := rfl

/-- The creation that is pending is answered with an id that was not assigned yet. -/
def MayAnswer (w : Clerk) (creation : Nat) (id : UInt8) : Bool :=
  (ledger w.notes)[creation]?.any Creation.isPending && (ledger w.notes).all (·.id? ≠ some id)

def echo (id : UInt8) : Frame := [ModuleId.processor, Register.Processor.create, id]

theorem honest_of_mayAnswer {w : Clerk} {creation : Nat} {id : UInt8}
    (may : w.MayAnswer creation id) :
    (Note.echoed creation (echo id)).IsHonest (ledger w.notes) := by
  obtain ⟨pending, fresh⟩ := Bool.and_eq_true_iff.mp may
  exact ⟨(Option.any_eq_true ..).mp pending, rfl, id, rfl, by simpa using fresh⟩

def answer (w : Clerk) (creation : Nat) (id : UInt8) : Clerk :=
  if may : w.MayAnswer creation id then w.write (.echoed creation (echo id)) (honest_of_mayAnswer may)
  else w

theorem tells_answer {w : Clerk} {creation : Nat} {id : UInt8} (may : w.MayAnswer creation id) :
    Tells w.notes (w.answer creation id).notes [echo id] := by
  refine ⟨[(creation, echo id)], ?_, rfl⟩
  rw [answer, dif_pos may]
  rfl

end Clerk

namespace Floor

variable {ρ : Type}

/-- The answer to a creation arrives. -/
def answered (f : Floor Clerk ρ) (creation : Nat) (id : UInt8) : Floor Clerk ρ :=
  let s := f.session.withWire (f.session.link.wire.answer creation id)
  ⟨s.receive (Clerk.echo id), f.log ++ (s.link.receive (Clerk.echo id)).journal.map .happened,
    f.calls⟩

/-- The timer of a creation fires. -/
def timedOut (f : Floor Clerk ρ) (creation : Nat) : Floor Clerk ρ :=
  let s := f.session.withWire (Registrar.giveUp creation f.session.link.wire)
  ⟨s.expire .creation creation, f.log ++ (s.link.expire .creation creation).journal.map .happened,
    f.calls⟩

theorem step_answered {call : Nat → Call true ρ} {f : Floor Clerk ρ} {creation : Nat} {id : UInt8}
    (may : f.session.link.wire.MayAnswer creation id) :
    Step call Serving f (f.answered creation id) :=
  .between (.arrives (Clerk.tells_answer may))

theorem step_timedOut {call : Nat → Call true ρ} {f : Floor Clerk ρ} (creation : Nat) :
    Step call Serving f (f.timedOut creation) :=
  .between (.expires .creation creation rfl)

/-- A processor that passes its input on. -/
def relay : Stage :=
  ⟨none, .signal (.root .uint ⟨1, 1, 255⟩
    { widths := [1], units := 1, offset := 0, signed := false }), .passthrough .all 0⟩

/-- Every call creates two processors, the second fed by the first. -/
def pair (_ : Nat) : List Stage := [relay, ⟨none, .stage 0, .delay 4⟩]

abbrev pairs (owner : Nat) : Call true (List Processor) := Call.commitChain (pair owner)

/-- The first creation of each call was answered, and the second one of the first call is pending. -/
def halfway : Floor Clerk (List Processor) :=
  let begun := ((new (.new default .new 0 .virtual)).nextTurn pairs 0).nextTurn pairs 1
  (((begun.answered 0 5).nextTurn pairs 0).answered 1 7).nextTurn pairs 1

/-- Its answer is lost, and the one to the second creation of the other call arrives. -/
def settled : Floor Clerk (List Processor) :=
  (((halfway.timedOut 2).nextTurn pairs 0).answered 3 6).nextTurn pairs 1

theorem reaches_settled : Relation.ReflTransGen (Step pairs Serving) (.new (.new default .new 0 .virtual))
    settled := by
  have first : Relation.ReflTransGen (Step pairs Serving) (.new (.new default .new 0 .virtual)) halfway :=
    ((((reaches_nextTurn ..).trans (reaches_nextTurn ..)).tail (step_answered
      (by decide +kernel))).trans (reaches_nextTurn ..)).tail (step_answered (by decide +kernel))
        |>.trans (reaches_nextTurn ..)
  exact ((((first.tail (step_timedOut 2)).trans (reaches_nextTurn ..)).tail (step_answered
    (by decide +kernel))).trans (reaches_nextTurn ..))

/-- The second call returns what was created for it, and the first one has removed only what was created
for itself. -/
theorem creations_unmixed_settled : ∃ ps, settled.Unmixed pair ∧
    settled.calls 1 = some (.finished (.ok ps)) ∧ ps.map (·.id) = [7, 6] ∧
    ∃ result, .sent 0 (Processor.removeFrame 5) result ∈ settled.log := by
  have unmixed : settled.Unmixed pair := creations_unmixed rfl reaches_settled
  have ids : (settled.returned? 1).map (·.map (·.id)) = some [7, 6] := by decide +kernel
  obtain ⟨ps, returned, same⟩ := Option.map_eq_some_iff.mp ids
  refine ⟨ps, unmixed, returned?_eq_some_iff.mp returned, same, ?_⟩
  have removed : (settled.log.any fun
      | .sent 0 frame _ => frame = Processor.removeFrame 5
      | _ => false) = true := by decide +kernel
  obtain ⟨deed, mem, sent⟩ := List.any_eq_true.mp removed
  split at sent
  · rename_i frame result
    obtain rfl := of_decide_eq_true sent
    exact ⟨result, mem⟩
  · contradiction

end Floor

end SensorHost
