import SensorHost.Proofs.Signal.Axes

/-!
# Signals but for their ids

An id says where a signal is found among many of a kind. `Signal.anonymous` takes the ids out of a
signal and of everything that it goes back to, so that what is left of two signals can be compared
(`Signal.Alike`). `Signal.surface` takes them out of what is behind a signal only, and leaves the
place of the signal itself and of its axes.
-/

namespace SensorHost.Signal

/-! ## Without ids -/

mutual

/-- The signal with no ids in it. -/
def anonymous : Signal → Signal
  | ⟨kind, address, geometry, ownScale, feed, axes, members⟩ =>
    ⟨kind, address.withId noId, geometry, ownScale, anonymousOption feed, anonymousList axes,
      anonymousList members⟩

def anonymousOption : Option Signal → Option Signal
  | none => none
  | some s => some s.anonymous

def anonymousList : List Signal → List Signal
  | [] => []
  | s :: rest => s.anonymous :: anonymousList rest

end

theorem anonymousOption_eq (s? : Option Signal) : anonymousOption s? = s?.map anonymous := by
  cases s? with
  | none => rw [anonymousOption, Option.map_none]
  | some s => rw [anonymousOption, Option.map_some]

theorem anonymousList_eq (ss : List Signal) : anonymousList ss = ss.map anonymous := by
  induction ss with
  | nil => rw [anonymousList, List.map_nil]
  | cons s rest ih => rw [anonymousList, List.map_cons, ih]

theorem anonymous_eq (s : Signal) : s.anonymous =
    { kind := s.kind, address := s.address.withId noId, geometry := s.geometry
      ownScale := s.ownScale, feed := s.feed.map anonymous, axes := s.axes.map anonymous
      members := s.members.map anonymous } := by
  obtain ⟨kind, address, geometry, ownScale, feed, axes, members⟩ := s
  rw [anonymous, anonymousOption_eq, anonymousList_eq, anonymousList_eq]

/-- No scale depends on an id. -/
theorem scale_anonymous : ∀ s : Signal, s.anonymous.scale = s.scale
  | ⟨_, _, _, some _, _, _, _⟩ => by rw [anonymous, scale, scale]
  | ⟨_, _, _, none, none, _, _⟩ => by rw [anonymous, anonymousOption, scale, scale]
  | ⟨_, _, _, none, some feed, _, _⟩ => by
      rw [anonymous, anonymousOption, scale, scale, scale_anonymous feed]

theorem anonymous_withId (s : Signal) (id : UInt8) : (s.withId id).anonymous = s.anonymous := by
  have axis (s : Signal) (a : Address) :
      { s with address := s.address.withId id }.anonymous = s.anonymous := by
    rw [anonymous_eq, anonymous_eq]
    rfl
  rw [anonymous_eq, anonymous_eq]
  simp only [withId, List.map_map]
  congr 1
  refine List.map_congr_left fun s _ => ?_
  exact axis s s.address

/-- The signals are the same but for the ids in them. -/
def Alike (a b : Signal) : Prop := a.anonymous = b.anonymous

namespace Alike

variable {a b : Signal}

theorem kind (h : a.Alike b) : a.kind = b.kind := by
  have same := congrArg Signal.kind h
  rwa [anonymous_eq, anonymous_eq b] at same

theorem geometry (h : a.Alike b) : a.geometry = b.geometry := by
  have same := congrArg Signal.geometry h
  rwa [anonymous_eq, anonymous_eq b] at same

theorem members (h : a.Alike b) : a.members.map anonymous = b.members.map anonymous := by
  have same := congrArg Signal.members h
  rwa [anonymous_eq, anonymous_eq b] at same

theorem scale (h : a.Alike b) : a.scale = b.scale := by
  rw [← scale_anonymous a, ← scale_anonymous b, h]

end Alike

/-! ## With ids in front only -/

/-- The signal with no ids in what is behind it. -/
def surface (s : Signal) : Signal :=
  { s with feed := s.feed.map anonymous, members := s.members.map anonymous }

theorem alike_of_surface {a b : Signal} (same : a.surface = b.surface) : a.Alike b := by
  unfold Alike
  rw [anonymous_eq, anonymous_eq b]
  exact congrArg (fun s : Signal =>
    { s with address := s.address.withId noId, axes := s.axes.map anonymous : Signal }) same

theorem surface_withAxes {a b : Signal} (same : a.surface = b.surface) :
    a.withAxes.surface = b.withAxes.surface := by
  have scale := (alike_of_surface same).scale
  have axes : a.withAxes.axes = b.withAxes.axes := by
    obtain ⟨kind, address, geometry, ownScale, feed, axes, members⟩ := a
    obtain ⟨kind', address', geometry', ownScale', feed', axes', members'⟩ := b
    obtain ⟨rfl, rfl, rfl, rfl, -, -, -⟩ := Signal.mk.inj same
    simp only [withAxes, scale]
  have rest := congrArg (fun s : Signal => { s with axes := a.withAxes.axes : Signal }) same
  exact rest.trans (congrArg (fun axes => { b.surface with axes : Signal }) axes)

/-- What was created is what was planned, at the id that the board gave out: the address and the axes
carry that id, and nothing else differs but the ids of what is behind the signal and of its parts,
which were planned without any. -/
structure Stamped (planned : Signal) (id : UInt8) (created : Signal) : Prop where
  kind : created.kind = planned.kind
  geometry : created.geometry = planned.geometry
  scale : created.scale = planned.scale
  address : created.address = planned.address.withId id
  axes : created.axes = planned.axes.map fun axis =>
    { axis with address := axis.address.withId id }
  parts : created.members.map (·.geometry) = planned.members.map (·.geometry)
  members : created.members.map anonymous = planned.members.map anonymous
  feed : created.feed.map anonymous = planned.feed.map anonymous

theorem geometry_of_map_anonymous {as bs : List Signal}
    (same : as.map anonymous = bs.map anonymous) :
    as.map (·.geometry) = bs.map (·.geometry) := by
  have geometry (s : Signal) : s.anonymous.geometry = s.geometry := by rw [anonymous_eq]
  have read := congrArg (List.map Signal.geometry) same
  simpa only [List.map_map, Function.comp_def, geometry] using read

theorem stamped_of_surface {planned made : Signal} (same : made.surface = planned.surface)
    (id : UInt8) : planned.Stamped id (made.withId id) := by
  have alike : (made.withId id).Alike planned :=
    (anonymous_withId made id).trans (alike_of_surface same)
  obtain ⟨kind, address, geometry, -, feed, axes, members⟩ := Signal.mk.inj same
  exact
    { kind, geometry
      scale := alike.scale
      address := congrArg (Address.withId · id) address
      axes := congrArg (List.map _) axes
      parts := geometry_of_map_anonymous members
      members, feed }

end SensorHost.Signal
