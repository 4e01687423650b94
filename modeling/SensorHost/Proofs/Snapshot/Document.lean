import SensorHost.Proofs.Session.Routing
import SensorHost.Proofs.Snapshot.Reading

/-!
# Snapshots as documents

A snapshot that was written as a document is read back from it as it was, unless the document nests
deeper than a reader allows (`Snapshot.ofText_toText`). A signal is written with the signal that
feeds it inside, so that documents nest as deep as chains are long: a session that knows a signal
behind 123 processors writes a snapshot that nobody can read (`Session.deep_snapshot_unread`).
-/

namespace SensorHost

open Json

variable {s : Snapshot}

namespace Snapshot

/-- What is read from the document of a snapshot, where it may nest up to a depth. -/
theorem read?_toText (exact : ∀ x ∈ s.singles, PrintsExactly x) (depth : Nat) (t : Snapshot) :
    (Json.ofText? s.toText).bind (read? depth) = some t ↔ s.toJson.levels ≤ depth ∧ s = t := by
  have saves := Snapshot.saves exact
  rw [toText, ofText?_render saves.written, Option.bind_some]
  exact saves.reads depth t

theorem ofText_of_levels_le (exact : ∀ x ∈ s.singles, PrintsExactly x)
    (fits : s.toJson.levels ≤ nestingLimit) : ofText s.toText = .ok s := by
  rw [ofText, (read?_toText exact nestingLimit s).mpr ⟨fits, rfl⟩]

theorem ofText_of_lt_levels (exact : ∀ x ∈ s.singles, PrintsExactly x)
    (deep : nestingLimit < s.toJson.levels) :
    ofText s.toText = .error (.serialization "Failed to parse snapshot") := by
  unfold ofText
  split
  · rename_i t read
    have fits := ((read?_toText exact nestingLimit t).mp read).1
    omega
  · rfl

/-- A snapshot is read back from its document as it was if that does not nest too deep, and is
refused otherwise. -/
theorem ofText_toText (exact : ∀ x ∈ s.singles, PrintsExactly x) :
    ofText s.toText = if s.toJson.levels ≤ nestingLimit then .ok s
      else .error (.serialization "Failed to parse snapshot") := by
  split
  · exact ofText_of_levels_le exact ‹_›
  · exact ofText_of_lt_levels exact (Nat.lt_of_not_le ‹_›)

end Snapshot

namespace Session

/-! A component of a scaled vector is multiplied by a fraction. -/

def accelerometer : Signal :=
  (Signal.root .vector ⟨3, 4, 255⟩
    { widths := [2, 2, 2], units := 1, offset := 0, signed := true }).withScale 1000

def measuringChain : List Stage :=
  [⟨some "g", .signal accelerometer.axes[0], .math .multiply 2.5 false⟩]

def measuringSession : Session Board :=
  (advance 0 (Call.commitChain measuringChain).run
    ((new default (.new 18) 0 .virtual).run (Call.register "a" accelerometer)).2).2

theorem ofText_toText_measured :
    (∀ x ∈ measuringSession.host.snapshot.singles, PrintsExactly x) ∧
    Snapshot.ofText measuringSession.host.snapshot.toText = .ok measuringSession.host.snapshot := by
  have exact : ∀ x ∈ measuringSession.host.snapshot.singles, PrintsExactly x := by
    have thousand : PrintsExactly 1000 := ⟨by decide +kernel, by decide +kernel⟩
    have fraction : PrintsExactly 2.5 := ⟨by decide +kernel, by decide +kernel⟩
    have all : ∀ x ∈ measuringSession.host.snapshot.singles, x = 1000 ∨ x = 2.5 := by
      decide +kernel
    intro x mem
    rcases all x mem with rfl | rfl
    · exact thousand
    · exact fraction
  refine ⟨exact, ?_⟩
  rw [Snapshot.ofText_toText exact, if_pos (by decide +kernel)]

end Session

/-! ## Deep signals -/

/-- A signal is written with every signal that it goes back to inside of it. -/
theorem Signal.depth_add_le_levels : (s : Signal) → s.depth + 3 ≤ s.toJson.levels
  | ⟨_, _, _, _, none, _, _⟩ => by
    simp only [depth, toJson, Geometry.toJson, frameJson, list, record, levels, List.map_cons,
      memberLevels]
    omega
  | ⟨_, _, _, _, some feed, _, _⟩ => by
    have inner := feed.depth_add_le_levels
    simp only [depth, toJson, feedJson, record, levels, List.map_cons, memberLevels]
    omega

namespace Snapshot

variable {depth : Nat}

/-- A document that nests no deeper than a depth has no producer that goes back that far. -/
theorem producer_depth_le {name : String} {signal : Signal}
    (known : s.producers.get? name = some signal) (fits : s.toJson.levels ≤ depth + 2) :
    signal.depth + 3 ≤ depth := by
  rw [toJson, levels_record_le_iff] at fits
  have producers := fits _ (List.mem_cons_self ..)
  rw [levels_record_le_iff, List.forall_mem_map] at producers
  have mem := s.producers.get?_eq_some_iff.mp known
  exact Nat.le_trans signal.depth_add_le_levels (producers _ mem)

/-- A document that nests no deeper than a depth has no output of a processor that goes back that
far. -/
theorem output_depth_le {id : UInt8} {p : Processor} (known : s.roster.get? id = some p)
    (fits : s.toJson.levels ≤ depth + 4) : p.output.depth + 3 ≤ depth := by
  rw [toJson, levels_record_le_iff] at fits
  have roster := fits ("processors", s.roster.toJson) (by simp)
  rw [Roster.toJson, levels_record_le_iff] at roster
  have active := roster _ (List.mem_cons_self ..)
  rw [levels_record_le_iff, List.forall_mem_map] at active
  have mem := s.roster.active.get?_eq_some_iff.mp known
  have processor : p.toJson.levels ≤ depth + 1 := active (id, p) mem
  rw [Processor.toJson, levels_record_le_iff] at processor
  have output := processor ("output", p.output.toJson) (by simp)
  exact Nat.le_trans p.output.depth_add_le_levels output

/-- A snapshot is not read back if a producer goes back to 123 signals or more, or the output of a
processor to 121 or more. -/
theorem ofText_of_deep (exact : ∀ x ∈ s.singles, PrintsExactly x)
    (deep : (∃ name signal, s.producers.get? name = some signal ∧ 123 ≤ signal.depth) ∨
      ∃ id p, s.roster.get? id = some p ∧ 121 ≤ p.output.depth) :
    ofText s.toText = .error (.serialization "Failed to parse snapshot") := by
  apply ofText_of_lt_levels exact
  apply Nat.lt_of_not_le
  intro fits
  rcases deep with ⟨_, signal, known, deep⟩ | ⟨_, p, known, deep⟩
  · have shallow : signal.depth + 3 ≤ 125 := producer_depth_le known fits
    omega
  · have shallow : p.output.depth + 3 ≤ 123 := output_depth_le known fits
    omega

end Snapshot

/-! A byte that was passed through many processors, one after the other. -/

def passedOn : Nat → Signal
  | 0 => .root .uint ⟨1, 1, 255⟩ { widths := [1], units := 1, offset := 0, signed := false }
  | n + 1 => (passedOn n).outputLike (passedOn n).geometry.fromStart

theorem depth_passedOn (n : Nat) : (passedOn n).depth = n := by
  induction n with
  | zero => rfl
  | succ n ih =>
      show (passedOn n).depth + 1 = n + 1
      rw [ih]

theorem kind_and_members_passedOn (n : Nat) :
    (passedOn n).kind = .uint ∧ (passedOn n).members = [] := by
  induction n with
  | zero => exact ⟨rfl, rfl⟩
  | succ n ih => exact ih

theorem singles_passedOn (n : Nat) : (passedOn n).singles = [] := by
  induction n with
  | zero => rfl
  | succ n ih =>
      obtain ⟨kind, members⟩ := kind_and_members_passedOn n
      show Signal.singles (Signal.withAxes _) = []
      simp [Signal.withAxes, Signal.singles, Signal.feedSingles, Signal.listSingles, kind, members,
        ih]

namespace Session

theorem singles_registered (name : String) (signal : Signal) :
    ((new default (Board.new 18) 0 .virtual).run (Call.register name signal)).2.host.snapshot.singles =
      signal.singles := by
  show (signal.singles ++ []) ++ [] = _
  rw [List.append_nil, List.append_nil]

/-- A session in which such a byte is a producer. -/
def deepSession : Session Board :=
  ((new default (.new 18) 0 .virtual).run (Call.register "deep" (passedOn 123))).2

/-- There is no number in the way, but what is written for the session is not read back. -/
theorem deep_snapshot_unread : deepSession.Reachable ∧ deepSession.host.snapshot.singles = [] ∧
    Snapshot.ofText deepSession.host.snapshot.toText =
      .error (.serialization "Failed to parse snapshot") := by
  have numbers : deepSession.host.snapshot.singles = [] :=
    (singles_registered "deep" (passedOn 123)).trans (singles_passedOn 123)
  refine ⟨.perform _ (.new ..), numbers, ?_⟩
  apply Snapshot.ofText_of_deep
  · rw [numbers]
    nofun
  · exact .inl ⟨"deep", passedOn 123, rfl, Nat.le_of_eq (depth_passedOn 123).symm⟩

end Session

end SensorHost
