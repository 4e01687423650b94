import SensorHost.Proofs.Json.Typed
import SensorHost.Snapshot.Reading

/-!
# Snapshots that were written

Each part of a snapshot is saved by the tree that it is written as (`Json.Saves`), from bytes and
addresses up to the whole (`Snapshot.saves`), as long as every number in it is printed to a decimal
that has it as its value. A signal is written with the signal that feeds it and with its parts inside,
so its case is by recursion on the signal and its lists (`Signal.saves`).
-/

namespace SensorHost

open Json

/-! ## Bytes, addresses and geometries -/

theorem saves_byte (b : UInt8) : Saves readByte? (byteJson b) b := by
  obtain ⟨written, reads⟩ := saves_nat b.toNat_lt (by decide)
  refine ⟨written, ?_⟩
  intro n c
  rw [readByte?, Option.map_eq_some_iff]
  simp only [byteJson, reads]
  constructor
  · rintro ⟨_, ⟨deep, rfl⟩, rfl⟩
    exact ⟨deep, UInt8.ofNat_toNat.symm⟩
  · rintro ⟨deep, rfl⟩
    exact ⟨b.toNat, ⟨deep, rfl⟩, UInt8.ofNat_toNat⟩

theorem saves_frame (frame : Frame) : Saves readFrame? (frameJson frame) frame :=
  saves_list fun b _ => saves_byte b

theorem saves_address (a : Address) : Saves Address.read? a.toJson a :=
  saves_record₃ (by decide) (saves_byte _) (saves_byte _) (saves_byte _) rfl

theorem saves_geometry (g : Geometry) : Saves Geometry.read? g.toJson g := by
  refine saves_record rfl (by decide) ?_ ?_
  · simp [(saves_byte _).written, (saves_frame _).written, (saves_bool _).written]
  · intro n b
    simp [Option.bind_eq_some_iff, (saves_byte _).reads, (saves_frame _).reads,
      (saves_bool _).reads, and_assoc]

/-! ## Words -/

theorem saves_kind (kind : Kind) : Saves (readName? Kind.words) (.name Kind.words kind) kind :=
  saves_name (by cases kind <;> rfl)

theorem saves_passthroughMode (mode : PassthroughMode) :
    Saves (readName? PassthroughMode.words) (.name PassthroughMode.words mode) mode :=
  saves_name (by cases mode <;> rfl)

theorem saves_timeMode (mode : TimeMode) :
    Saves (readName? TimeMode.words) (.name TimeMode.words mode) mode :=
  saves_name (by cases mode <;> rfl)

theorem saves_mathOp (op : MathOp) : Saves (readName? MathOp.words) (.name MathOp.words op) op :=
  saves_name (by cases op <;> rfl)

theorem saves_pulseMode (mode : PulseMode) :
    Saves (readName? PulseMode.words) (.name PulseMode.words mode) mode :=
  saves_name (by cases mode <;> rfl)

theorem saves_comparisonOp (op : ComparisonOp) :
    Saves (readName? ComparisonOp.words) (.name ComparisonOp.words op) op :=
  saves_name (by cases op <;> rfl)

theorem saves_comparisonOutput (output : ComparisonOutput) :
    Saves (readName? ComparisonOutput.words) (.name ComparisonOutput.words output) output :=
  saves_name (by cases output <;> rfl)

theorem saves_thresholdMode (mode : ThresholdMode) :
    Saves (readName? ThresholdMode.words) (.name ThresholdMode.words mode) mode :=
  saves_name (by cases mode <;> rfl)

theorem saves_differentialMode (mode : DifferentialMode) :
    Saves (readName? DifferentialMode.words) (.name DifferentialMode.words mode) mode :=
  saves_name (by cases mode <;> rfl)

theorem saves_accounterMode (mode : AccounterMode) :
    Saves (readName? AccounterMode.words) (.name AccounterMode.words mode) mode :=
  saves_name (by cases mode <;> rfl)

theorem saves_combineMode (mode : CombineMode) :
    Saves (readName? CombineMode.words) (.name CombineMode.words mode) mode :=
  saves_name (by cases mode <;> rfl)

/-! ## Signals -/

namespace Signal

mutual

/-- The numbers of a signal: the scales of all signals in it. -/
def singles : Signal → List Float32
  | ⟨_, _, _, ownScale, feed, axes, members⟩ =>
    ownScale.toList ++ (feedSingles feed ++ (listSingles axes ++ listSingles members))

def feedSingles : Option Signal → List Float32
  | none => []
  | some s => singles s

def listSingles : List Signal → List Float32
  | [] => []
  | s :: rest => singles s ++ listSingles rest

end

theorem listJson_eq (signals : List Signal) : listJson signals = signals.map toJson := by
  induction signals with
  | nil => rfl
  | cons s rest ih => rw [listJson, ih, List.map_cons]

theorem toJson_ne_null (s : Signal) : s.toJson ≠ .null := by
  obtain ⟨_, _, _, _, _, _, _⟩ := s
  rw [toJson]
  nofun

theorem optionalOf?_feedJson {feed : Option Signal} (saves : ∀ s ∈ feed, Saves read? s.toJson s)
    (n : Nat) (b : Option Signal) :
    optionalOf? (read? n) (some (feedJson feed)) = some b ↔
      (feedJson feed).levels ≤ n ∧ feed = b := by
  have field : feedJson feed = .optional toJson feed := by
    cases feed <;> rw [feedJson] <;> rfl
  have same : ∀ j, optionalOf? (read? n) (some j) = readOptional? read? n j := by
    intro j
    cases j <;> rfl
  rw [field, same]
  exact (saves_optional saves fun s _ => s.toJson_ne_null).reads n b

theorem itemsOf?_listJson {signals : List Signal} (saves : ∀ s ∈ signals, Saves read? s.toJson s)
    (n : Nat) (b : List Signal) :
    itemsOf? (read? n) (some (.array (listJson signals))) = some b ↔
      (Json.array (listJson signals)).levels ≤ n + 1 ∧ signals = b := by
  rw [listJson_eq]
  exact (saves_list saves).reads (n + 1) b

/-- A signal is saved if the signals in it are. -/
theorem saves_of_parts {s : Signal} (scale : ∀ x ∈ s.ownScale, PrintsExactly x)
    (feed : ∀ t ∈ s.feed, Saves read? t.toJson t) (axes : ∀ t ∈ s.axes, Saves read? t.toJson t)
    (members : ∀ t ∈ s.members, Saves read? t.toJson t) : Saves read? s.toJson s := by
  obtain ⟨kind, address, geometry, ownScale, feed', axes', members'⟩ := s
  have number : Saves (readOptional? readSingle?) (.optional .single ownScale) ownScale := by
    refine saves_optional (fun x mem => saves_single (scale x mem)) ?_
    intro x mem
    rw [single, if_pos (scale x mem).1]
    nofun
  have list {signals : List Signal} (saves : ∀ t ∈ signals, Saves read? t.toJson t) :
      Written (.array (listJson signals)) := by
    rw [listJson_eq]
    exact (saves_list saves).written
  have given : Written (feedJson feed') := by
    cases feed' with
    | none => exact .null
    | some t => exact (feed t rfl).written
  rw [toJson]
  refine ⟨written_record ?_, ?_⟩
  · simp [(saves_kind _).written, (saves_address _).written, (saves_geometry _).written,
      number.written, given, list axes, list members]
  · intro n b
    match n with
    | 0 => exact iff_of_false nofun fun fits => not_levels_record_le _ fits.1
    | 1 =>
        refine iff_of_false nofun fun fits => ?_
        have split := levels_record_le_iff.mp fits.1 ("split", .array (listJson axes')) (by simp)
        exact not_levels_array_le _ split
    | n + 2 =>
        rw [levels_record_le_iff, read?, fields?_record (by rfl) (by decide)]
        simp [Option.bind_eq_some_iff, (saves_kind _).reads, (saves_address _).reads,
          (saves_geometry _).reads, number.reads, optionalOf?_feedJson feed, itemsOf?_listJson axes,
          itemsOf?_listJson members, and_assoc]

mutual

/-- A signal is saved if its numbers are. -/
theorem saves : (s : Signal) → (∀ x ∈ s.singles, PrintsExactly x) → Saves read? s.toJson s
  | ⟨kind, address, geometry, ownScale, feed, axes, members⟩, exact => by
    rw [singles, List.forall_mem_append, List.forall_mem_append, List.forall_mem_append] at exact
    obtain ⟨scale, feeds, views, parts⟩ := exact
    refine saves_of_parts ?_ (saves_feed feed feeds) (saves_all axes views)
      (saves_all members parts)
    exact fun x mem => scale x (Option.mem_toList.mpr mem)

theorem saves_feed : (feed : Option Signal) → (∀ x ∈ feedSingles feed, PrintsExactly x) →
    ∀ s ∈ feed, Saves read? s.toJson s
  | none, _ => nofun
  | some s, exact => by
    rintro _ ⟨rfl⟩
    rw [feedSingles] at exact
    exact saves s exact

theorem saves_all : (signals : List Signal) → (∀ x ∈ listSingles signals, PrintsExactly x) →
    ∀ s ∈ signals, Saves read? s.toJson s
  | [], _ => nofun
  | s :: rest, exact => by
    rw [listSingles, List.forall_mem_append] at exact
    exact List.forall_mem_cons.mpr ⟨saves s exact.1, saves_all rest exact.2⟩

end

end Signal

/-! ## Operators -/

/-- The numbers of an operator: its operands and references, and those of the states that it
joins. -/
def Operator.singles : Operator → List Float32
  | math _ operand _ => [operand]
  | pulse _ level _ => [level]
  | compareOne _ reference => [reference]
  | compareMany _ _ references => references
  | threshold _ boundary hysteresis => [boundary, hysteresis]
  | differential _ distance => [distance]
  | fuser sources => sources.flatMap fun source => source.state.singles
  | _ => []

theorem FusedSource.saves {source : FusedSource}
    (exact : ∀ x ∈ source.state.singles, PrintsExactly x) : Saves read? source.toJson source :=
  saves_record₂ (by decide) (saves_byte _) (source.state.saves exact) rfl

namespace Operator

theorem read?_choice {name : String} (buffer : name ≠ "Buffer") (comparison : name ≠ "Comparison")
    (n : Nat) (j : Json) : read? (n + 1) (record [(name, j)]) = readFields? name n j := by
  simp [read?, choice?_record]

/-- An operator with fields is saved if they are. -/
theorem saves_fields {key : String} {fields : List (String × Json)} {op : Operator}
    (buffer : key ≠ "Buffer") (comparison : key ≠ "Comparison")
    (saves : Saves (readFields? key) (record fields) op) : Saves read? (choiceJson key fields) op :=
  saves_choice rfl (read?_choice buffer comparison · _) saves

/-- A comparison is saved if its fields are. -/
theorem saves_comparison {key : String} {fields : List (String × Json)} {op : Operator}
    {content : Reader Operator}
    (opened : ∀ n, readComparison? (n + 1) (record [(key, record fields)]) =
      content n (record fields)) (saves : Saves content (record fields) op) :
    Saves read? (record [("Comparison", choiceJson key fields)]) op := by
  refine saves_choice rfl (fun n => ?_) (saves_choice rfl opened saves)
  simp [read?, choice?_record, choiceJson]

/-- An operator is saved if its numbers are. -/
theorem saves {op : Operator} (exact : ∀ x ∈ op.singles, PrintsExactly x) :
    Saves read? op.toJson op := by
  cases op with
  | passthrough mode count =>
      apply saves_fields (by decide) (by decide)
      exact saves_record₂ (by decide) (saves_passthroughMode mode)
        (saves_nat count.toNat_lt (by decide)) (by simp)
  | accumulate counting width =>
      apply saves_fields (by decide) (by decide)
      exact saves_record₂ (by decide) (saves_bool counting) (saves_byte width) rfl
  | average samples highPass =>
      apply saves_fields (by decide) (by decide)
      exact saves_record₂ (by decide) (saves_byte samples) (saves_bool highPass) rfl
  | delay samples =>
      apply saves_fields (by decide) (by decide)
      exact saves_record₁ (saves_byte samples) rfl
  | time mode period =>
      apply saves_fields (by decide) (by decide)
      exact saves_record₂ (by decide) (saves_timeMode mode) (saves_nat period.toNat_lt (by decide))
        (by simp)
  | buffer =>
      refine ⟨.string _, ?_⟩
      intro n b
      have read : read? n buffer.toJson = some buffer := by
        rw [toJson, read?, choice?_text]
        rfl
      rw [read]
      simp [toJson, text, levels]
  | math op operand everyField =>
      have number := saves_single (exact operand (by simp [singles]))
      apply saves_fields (by decide) (by decide)
      exact saves_record₃ (by decide) (saves_mathOp op) number (saves_bool everyField) rfl
  | pulse mode level width =>
      have number := saves_single (exact level (by simp [singles]))
      apply saves_fields (by decide) (by decide)
      exact saves_record₃ (by decide) (saves_pulseMode mode) number
        (saves_nat width.toNat_lt (by decide)) (by simp)
  | compareOne op reference =>
      have number := saves_single (exact reference (by simp [singles]))
      have fields : Saves readCompareOne? (record [("op", .name ComparisonOp.words op),
          ("reference", .single reference)]) (.compareOne op reference) :=
        saves_record₂ (by decide) (saves_comparisonOp op) number rfl
      refine saves_comparison (fun n => ?_) fields
      simp [readComparison?, choice?_record]
  | compareMany op output references =>
      have numbers : Saves (readList? readSingle?) (.list .single references) references :=
        saves_list fun x mem => saves_single (exact x mem)
      have fields : Saves readCompareMany? (record [("op", .name ComparisonOp.words op),
          ("mode", .name ComparisonOutput.words output), ("references", .list .single references)])
            (.compareMany op output references) :=
        saves_record₃ (by decide) (saves_comparisonOp op) (saves_comparisonOutput output) numbers
          rfl
      refine saves_comparison (fun n => ?_) fields
      simp [readComparison?, choice?_record]
  | threshold mode boundary hysteresis =>
      have upper := saves_single (exact boundary (by simp [singles]))
      have width := saves_single (exact hysteresis (by simp [singles]))
      apply saves_fields (by decide) (by decide)
      exact saves_record₃ (by decide) (saves_thresholdMode mode) upper width rfl
  | differential mode distance =>
      have number := saves_single (exact distance (by simp [singles]))
      apply saves_fields (by decide) (by decide)
      exact saves_record₂ (by decide) (saves_differentialMode mode) number rfl
  | packer count =>
      apply saves_fields (by decide) (by decide)
      exact saves_record₁ (saves_byte count) rfl
  | accounter mode length =>
      apply saves_fields (by decide) (by decide)
      exact saves_record₂ (by decide) (saves_accounterMode mode) (saves_byte length) rfl
  | fuser sources =>
      have states :
          Saves (readList? FusedSource.read?) (.list FusedSource.toJson sources) sources := by
        refine saves_list fun source mem => FusedSource.saves fun x number => ?_
        exact exact x (List.mem_flatMap.mpr ⟨source, mem, number⟩)
      apply saves_fields (by decide) (by decide)
      exact saves_record₁ states rfl
  | combine mode =>
      apply saves_fields (by decide) (by decide)
      exact saves_record₁ (saves_combineMode mode) rfl

end Operator

/-! ## Processors, modules, events and scripts -/

/-- The numbers of a processor: those of its operator and of its signals. -/
def Processor.singles (p : Processor) : List Float32 :=
  p.operator.singles ++ (p.input.singles ++ (p.output.singles ++
    p.state.toList.flatMap Signal.singles))

theorem Processor.saves {p : Processor} (exact : ∀ x ∈ p.singles, PrintsExactly x) :
    Saves read? p.toJson p := by
  rw [singles, List.forall_mem_append, List.forall_mem_append, List.forall_mem_append] at exact
  obtain ⟨numbers, inputs, outputs, states⟩ := exact
  have operator := Operator.saves numbers
  have input := p.input.saves inputs
  have output := p.output.saves outputs
  have name : Saves (readOptional? readText?) (.optional .text p.name) p.name :=
    saves_optional (fun s _ => saves_text s) nofun
  have state : Saves (readOptional? Signal.read?) (.optional Signal.toJson p.state) p.state := by
    refine saves_optional (fun s kept => s.saves fun x mem => ?_) fun s _ => s.toJson_ne_null
    exact states x (List.mem_flatMap.mpr ⟨s, Option.mem_toList.mpr kept, mem⟩)
  refine saves_record rfl (by decide) ?_ ?_
  · simp [(saves_byte _).written, name.written, operator.written, input.written, output.written,
      state.written]
  · intro n b
    simp [Option.bind_eq_some_iff, (saves_byte _).reads, name.reads, operator.reads, input.reads,
      output.reads, state.reads, and_assoc]

theorem saves_optionalByte (b : Option UInt8) :
    Saves (readOptional? readByte?) (.optional byteJson b) b :=
  saves_optional (fun b _ => saves_byte b) nofun

theorem ModuleInfo.saves (info : ModuleInfo) : Saves read? info.toJson info := by
  refine saves_record rfl (by decide) ?_ ?_
  · simp [(saves_byte _).written, (saves_optionalByte _).written, (saves_frame _).written]
  · intro n b
    simp [Option.bind_eq_some_iff, (saves_byte _).reads, (saves_optionalByte _).reads,
      (saves_frame _).reads, and_assoc]

theorem ByteRange.saves (range : ByteRange) : Saves read? range.toJson range :=
  saves_record₃ (by decide) (saves_address _) (saves_byte _) (saves_byte _) rfl

theorem PayloadCopy.saves (copy : PayloadCopy) : Saves read? copy.toJson copy :=
  saves_record₂ (by decide) (ByteRange.saves _) (saves_byte _) rfl

theorem Event.saves (event : Event) : Saves read? event.toJson event := by
  have copy : Saves (readOptional? PayloadCopy.read?) (.optional PayloadCopy.toJson event.copy)
      event.copy := saves_optional (fun copy _ => copy.saves) nofun
  refine saves_record rfl (by decide) ?_ ?_
  · simp [(saves_byte _).written, (saves_address _).written, (saves_frame _).written, copy.written]
  · intro n b
    simp [Option.bind_eq_some_iff, (saves_byte _).reads, (saves_address _).reads,
      (saves_frame _).reads, copy.reads, and_assoc]

theorem Script.saves (script : Script) : Saves read? script.toJson script :=
  saves_record₃ (by decide) (saves_byte _) (saves_bool _) (saves_list fun c _ => saves_frame c) rfl

/-! ## Snapshots -/

/-- The id of a processor is read back from its decimal. -/
theorem byteKey?_encode (id : UInt8) :
    byteKey? (Quoted.encode (toString id.toNat).toList) = some id := by
  have digits : (toString id.toNat).toList = Nat.toDigits 10 id.toNat :=
    Nat.toList_repr
  have numeral : (Numeral.ofNat id.toNat).text.toList = Nat.toDigits 10 id.toNat := by
    rw [Numeral.toList_text]
    simp [Numeral.ofNat, Numeral.fractionChars, Numeral.exponentChars]
  have read :
      readNumeral? ((Numeral.ofNat id.toNat).text.toList ++ []) = some (.ofNat id.toNat, []) :=
    readNumeral?_text (Numeral.wellFormed_ofNat id.toNat) Numeral.ends_nil
  rw [List.append_nil, numeral] at read
  have value := Numeral.nat?_ofNat id.toNat_lt (by decide)
  rw [digits, Quoted.encode_digits (isDigit_toDigits _), byteKey?, read]
  show (Numeral.nat? 256 (.ofNat id.toNat)).map UInt8.ofNat = some id
  rw [value, Option.map_some, UInt8.ofNat_toNat]

/-- The numbers of a roster. -/
def Roster.singles (r : Roster) : List Float32 := r.processors.flatMap Processor.singles

theorem Roster.saves {r : Roster} (exact : ∀ x ∈ r.singles, PrintsExactly x) :
    Saves read? r.toJson r := by
  refine saves_record₂ (by decide) (saves_map byteKey?_encode ?_)
    (saves_map decoded?_encode fun entry _ => saves_byte entry.2) rfl
  intro entry mem
  refine Processor.saves fun x number => exact x ?_
  exact List.mem_flatMap.mpr ⟨entry.2, List.mem_map_of_mem mem, number⟩

namespace Snapshot

/-- The numbers of a snapshot: the scales of its signals, and the operands and references of its
operators. -/
def singles (s : Snapshot) : List Float32 :=
  s.producers.values.flatMap Signal.singles ++ s.roster.singles

/-- A snapshot is saved if its numbers are. -/
theorem saves {s : Snapshot} (exact : ∀ x ∈ s.singles, PrintsExactly x) :
    Saves read? s.toJson s := by
  rw [singles, List.forall_mem_append] at exact
  obtain ⟨scales, numbers⟩ := exact
  have signals : ∀ entry ∈ s.producers.entries, Saves Signal.read? entry.2.toJson entry.2 := by
    intro entry mem
    refine entry.2.saves fun x number => scales x ?_
    exact List.mem_flatMap.mpr ⟨entry.2, List.mem_map_of_mem mem, number⟩
  have producers := saves_map decoded?_encode signals
  have modules : Saves (readList? ModuleInfo.read?) (.list ModuleInfo.toJson s.modules) s.modules :=
    saves_list fun info _ => info.saves
  have roster := Roster.saves numbers
  have events : Saves (readList? Event.read?) (.list Event.toJson s.events) s.events :=
    saves_list fun event _ => event.saves
  have scripts : Saves (readList? Script.read?) (.list Script.toJson s.scripts) s.scripts :=
    saves_list fun script _ => script.saves
  refine saves_record rfl (by decide) ?_ ?_
  · simp [producers.written, modules.written, roster.written, events.written, scripts.written]
  · intro n b
    simp [Option.bind_eq_some_iff, producers.reads, modules.reads, roster.reads, events.reads,
      scripts.reads, and_assoc]

end Snapshot

end SensorHost
