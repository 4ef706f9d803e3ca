import HybridX509.Adapters.Container
import HybridX509.Lib.LexicalPath

/-! # Mount destinations

What the checks of `isolated_arguments` say about the destinations as paths. They compare
text: a destination starts with `/input/` and no two destinations are spelled alike.
-/

namespace HybridX509.Adapters

open Lib

/-! ## Accepted mounts -/

/-- What the checks ask of a mount by itself. -/
structure Mountable {Path : Type} (canonicalize : Path → Except String OsString)
    (mount : Path × String) : Prop where
  starts : "/input/".toList <+: mount.2.toList
  plain : ∀ c ∈ mount.2.toList, c.toNat < 128 ∧ isDestinationByte (.ofNat c.toNat) = true
  source : ∃ source, canonicalize mount.1 = .ok (.utf8 source) ∧
    (bytes source).any isDelimiter = false

section Accepted

variable {Path : Type} {canonicalize : Path → Except String OsString}

theorem ascii_of_isDestinationByte (byte : UInt8) (destination : isDestinationByte byte = true) :
    byte.toNat < 128 := by
  simp only [isDestinationByte, Bool.or_eq_true, Bool.and_eq_true, decide_eq_true_eq, beq_iff_eq,
    UInt8.le_iff_toNat_le, ← UInt8.toNat_inj] at destination
  simp at destination
  omega

theorem isDestination_iff {destination : String} :
    (bytes destination).all isDestinationByte = true ↔
      ∀ c ∈ destination.toList, c.toNat < 128 ∧ isDestinationByte (.ofNat c.toNat) = true :=
  List.all_eq_true.trans (forall_bytes_iff ascii_of_isDestinationByte destination)

theorem startsWith_input_iff {destination : String}
    (plain : (bytes destination).all isDestinationByte = true) :
    (bytes "/input/").isPrefixOf (bytes destination) = true ↔
      "/input/".toList <+: destination.toList := by
  have ascii := fun c member => (isDestination_iff.mp plain c member).1
  rw [List.isPrefixOf_iff_prefix, isPrefix_bytes_iff (by simp) ascii]

theorem mountArguments_returns {state : List OsString × List String} {mount : Path × String}
    (mountable : Mountable canonicalize mount) (fresh : mount.2 ∉ state.2) :
    ∃ state', mountArguments canonicalize state mount = .ok state' := by
  obtain ⟨path, destination⟩ := mount
  obtain ⟨starts, plain, source, canonical, clean⟩ := mountable
  have plain := isDestination_iff.mpr plain
  have starts := (startsWith_input_iff plain).mpr starts
  simp only [mountArguments, bind_ok_iff, exists_unit_iff, failIf_ok_iff, orFail_ok_iff,
    pure_ok_iff, not_or, Bool.not_eq_false, Bool.not_eq_true]
  exact ⟨_, ⟨starts, plain, fresh⟩, _, canonical, source, rfl, clean, rfl⟩

theorem mountArguments_mountable {state state' : List OsString × List String}
    {mount : Path × String} (mounted : mountArguments canonicalize state mount = .ok state') :
    Mountable canonicalize mount ∧ mount.2 ∉ state.2 ∧ state'.2 = mount.2 :: state.2 := by
  obtain ⟨path, destination⟩ := mount
  simp only [mountArguments, bind_ok_iff, exists_unit_iff, failIf_ok_iff, orFail_ok_iff,
    pure_ok_iff, not_or, Bool.not_eq_false, Bool.not_eq_true] at mounted
  obtain ⟨⟨starts, plain, fresh⟩, found, canonical, source, text, clean, rfl⟩ := mounted
  refine ⟨⟨(startsWith_input_iff plain).mp starts, isDestination_iff.mp plain, source, ?_, clean⟩,
    fresh, rfl⟩
  cases found with
  | utf8 text' => rw [canonical, Option.some.inj text]
  | other bytes => cases text

/-- The loop accepts mounts that are accepted alone and spelled differently. -/
theorem mounts_return_iff {mounts : List (Path × String)} {state : List OsString × List String} :
    (∃ state', mounts.foldlM (mountArguments canonicalize) state = .ok state') ↔
      (∀ mount ∈ mounts, Mountable canonicalize mount ∧ mount.2 ∉ state.2) ∧
        (mounts.map (·.2)).Nodup := by
  induction mounts generalizing state with
  | nil => simp [pure, Except.pure]
  | cons mount rest ih =>
      rw [List.foldlM_cons, List.map_cons, List.forall_mem_cons, List.nodup_cons]
      constructor
      · rintro ⟨state', mounted⟩
        obtain ⟨next, first, others⟩ := bind_ok_iff.mp mounted
        obtain ⟨mountable, fresh, seen⟩ := mountArguments_mountable first
        obtain ⟨admitted, distinct⟩ := ih.mp ⟨state', others⟩
        simp only [seen, List.mem_cons, not_or] at admitted
        refine ⟨⟨⟨mountable, fresh⟩, ?_⟩, ?_, distinct⟩
        · intro other member
          exact ⟨(admitted other member).1, (admitted other member).2.2⟩
        · intro member
          obtain ⟨other, otherMember, same⟩ := List.mem_map.mp member
          exact (admitted other otherMember).2.1 same
      · rintro ⟨⟨⟨mountable, fresh⟩, admitted⟩, absent, distinct⟩
        obtain ⟨next, first⟩ := mountArguments_returns mountable fresh
        have seen := (mountArguments_mountable first).2.2
        have further : ∀ other ∈ rest, Mountable canonicalize other ∧ other.2 ∉ next.2 := by
          intro other member
          rw [seen, List.mem_cons, not_or]
          refine ⟨(admitted other member).1, ?_, (admitted other member).2⟩
          intro same
          exact absent (List.mem_map.mpr ⟨other, member, same⟩)
        obtain ⟨state', others⟩ := ih.mpr ⟨further, distinct⟩
        exact ⟨state', bind_ok_iff.mpr ⟨next, first, others⟩⟩

theorem isolatedArguments_returns_iff {image : String} {mounts : List (Path × String)}
    {command : List OsString} :
    (∃ arguments, isolatedArguments canonicalize image mounts command = .ok arguments) ↔
      image ≠ "" ∧ (∀ mount ∈ mounts, Mountable canonicalize mount) ∧
        (mounts.map (·.2)).Nodup := by
  have looped : (∃ state', mounts.foldlM (mountArguments canonicalize) (runFlags, []) = .ok state')
      ↔ (∀ mount ∈ mounts, Mountable canonicalize mount) ∧ (mounts.map (·.2)).Nodup := by
    rw [mounts_return_iff]
    simp only [List.not_mem_nil, not_false_eq_true, and_true]
  rw [← looped]
  simp only [isolatedArguments, bind_ok_iff, exists_unit_iff, failIf_ok_iff, pure_ok_iff]
  constructor
  · rintro ⟨arguments, named, state', mounted, _⟩
    exact ⟨named, state', mounted⟩
  · rintro ⟨named, state', mounted⟩
    exact ⟨_, named, state', mounted, rfl⟩

end Accepted

/-! ## Destinations as paths -/

/-- A path strictly below `/input`, given by the names that lead to it. -/
def BelowInput (path : List (List Char)) : Prop :=
  ∃ first rest, path = "input".toList :: first :: rest

/-- The destinations are different paths below `/input` once they are normalised. -/
structure DistinctBelowInput (destinations : List String) : Prop where
  distinct : (destinations.map fun destination => normalize (components destination)).Nodup
  below : ∀ destination ∈ destinations, BelowInput (normalize (components destination))

/-- After its leading slash the destination has no empty and no dotted component. -/
def Regular (destination : String) : Prop :=
  ∀ component ∈ (components destination).tail, isName component = true

theorem components_of_input {destination : String}
    (starts : "/input/".toList <+: destination.toList) :
    ∃ first rest, components destination = [] :: "input".toList :: first :: rest := by
  obtain ⟨rest, whole⟩ := starts
  have split : components destination = [] :: "input".toList :: rest.splitOn '/' := by
    have spelled : destination.toList = [] ++ '/' :: ("input".toList ++ '/' :: rest) := by
      rw [← whole]
      simp
    rw [components, spelled, List.splitOn_append_cons_self_of_not_mem (by simp),
      List.splitOn_append_cons_self_of_not_mem (by simp)]
  cases pieces : rest.splitOn '/' with
  | nil => exact absurd pieces (List.splitOn_ne_nil _ _)
  | cons first further => exact ⟨first, further, by rw [split, pieces]⟩

/-- A regular destination is its own normal form, apart from the leading slash. -/
theorem components_of_regular {destination : String}
    (starts : "/input/".toList <+: destination.toList) (regular : Regular destination) :
    components destination = [] :: normalize (components destination) ∧
      BelowInput (normalize (components destination)) := by
  obtain ⟨first, rest, split⟩ := components_of_input starts
  rw [Regular, split, List.tail_cons] at regular
  rw [split, normalize_nil_cons, normalize_of_names regular]
  exact ⟨rfl, first, rest, rfl⟩

/-- For regular destinations it is enough to compare text. -/
theorem distinctBelowInput_of_regular {destinations : List String}
    (starts : ∀ destination ∈ destinations, "/input/".toList <+: destination.toList)
    (distinct : destinations.Nodup) (regular : ∀ destination ∈ destinations, Regular destination) :
    DistinctBelowInput destinations := by
  constructor
  · refine List.Nodup.map_on ?_ distinct
    intro left leftMember right rightMember same
    have leftSplit := (components_of_regular (starts left leftMember) (regular left leftMember)).1
    have rightSplit :=
      (components_of_regular (starts right rightMember) (regular right rightMember)).1
    rw [same] at leftSplit
    exact components_injective (leftSplit.trans rightSplit.symm)
  · intro destination member
    exact (components_of_regular (starts destination member) (regular destination member)).2

/-! ## Spelling a destination by its names -/

section Renamed

variable {Path : Type} {canonicalize : Path → Except String OsString}

theorem regular_spell_normalize (destination : String) :
    Regular (spell (normalize (components destination))) := by
  intro component member
  rw [components_spell_normalize, List.tail_cons] at member
  exact (mem_normalize member).2

theorem normalize_spell_normalize (destination : String) :
    normalize (components (spell (normalize (components destination)))) =
      normalize (components destination) := by
  rw [components_spell_normalize, normalize_nil_cons]
  exact normalize_of_names fun _ member => (mem_normalize member).2

/-- A destination below `/input` may be spelled by its names alone. -/
theorem Mountable.renamed {mount : Path × String} (mountable : Mountable canonicalize mount)
    (below : BelowInput (normalize (components mount.2))) :
    Mountable canonicalize (mount.1, spell (normalize (components mount.2))) := by
  refine ⟨?_, ?_, mountable.source⟩
  · obtain ⟨first, rest, names⟩ := below
    rw [names, toList_spell]
    simp
  · intro c member
    rw [toList_spell, List.mem_flatMap] at member
    obtain ⟨name, nameMember, inside⟩ := member
    rcases List.mem_cons.mp inside with rfl | inName
    · decide
    · have inText := (mem_splitOn name (mem_normalize nameMember).1).2 inName
      exact mountable.plain c inText

end Renamed

/-- Regular destinations the checks accept are different paths below `/input`. They let
    through empty and dotted components as well: a mount of any such destination is
    accepted together with regular ones in a list that is not of that kind, because the
    destination leaves `/input` or is the second spelling of a path. -/
theorem isolatedArguments_distinctBelowInput {Path : Type}
    {canonicalize : Path → Except String OsString} {image : String}
    {mounts : List (Path × String)} {command arguments : List OsString}
    (isolated : isolatedArguments canonicalize image mounts command = .ok arguments) :
    ((∀ mount ∈ mounts, Regular mount.2) → DistinctBelowInput (mounts.map (·.2))) ∧
      ∀ mount ∈ mounts, ¬ Regular mount.2 → ∃ others : List (Path × String),
        (∀ other ∈ others, Regular other.2) ∧
        (∃ arguments, isolatedArguments canonicalize image (mount :: others) command =
          .ok arguments) ∧
        ¬ DistinctBelowInput ((mount :: others).map (·.2)) := by
  obtain ⟨named, mountable, distinct⟩ := isolatedArguments_returns_iff.mp ⟨arguments, isolated⟩
  constructor
  · intro regular
    refine distinctBelowInput_of_regular ?_ distinct ?_
    · intro destination member
      obtain ⟨mount, mountMember, rfl⟩ := List.mem_map.mp member
      exact (mountable mount mountMember).starts
    · intro destination member
      obtain ⟨mount, mountMember, rfl⟩ := List.mem_map.mp member
      exact regular mount mountMember
  · intro mount member irregular
    have alone := mountable mount member
    by_cases below : BelowInput (normalize (components mount.2))
    · -- it is a second spelling of the path its names spell
      have regular := regular_spell_normalize mount.2
      refine ⟨[(mount.1, spell (normalize (components mount.2)))], by simpa using regular, ?_, ?_⟩
      · refine isolatedArguments_returns_iff.mpr ⟨named, ?_, ?_⟩
        · simpa using And.intro alone (alone.renamed below)
        · have different : mount.2 ≠ spell (normalize (components mount.2)) := by
            intro same
            exact irregular (same ▸ regular)
          simpa using different
      · intro sound
        simpa [normalize_spell_normalize] using sound.distinct
    · refine ⟨[], by simp, ?_, ?_⟩
      · exact isolatedArguments_returns_iff.mpr ⟨named, by simpa using alone, by simp⟩
      · intro sound
        exact below (sound.below mount.2 (by simp))

/-- Two inputs, one of them in a directory. -/
theorem isolatedArguments_distinctBelowInput_chain :
    DistinctBelowInput ["/input/leaf.pem", "/input/chain/ica.pem"] := by
  have isolated : ∃ arguments, isolatedArguments
      (fun path : String => .ok (.utf8 ("/data/" ++ path))) "image"
      [("leaf.pem", "/input/leaf.pem"), ("ica.pem", "/input/chain/ica.pem")] [] =
        .ok arguments := by
    decide +kernel
  obtain ⟨arguments, isolated⟩ := isolated
  refine (isolatedArguments_distinctBelowInput isolated).1 ?_
  unfold Regular
  decide +kernel

/-- Two spellings of one path, and a path outside `/input`, are accepted. -/
theorem isolatedArguments_accepts_alias_and_escape :
    (∃ arguments, isolatedArguments (fun path : String => .ok (.utf8 ("/data/" ++ path))) "image"
        [("leaf.pem", "/input/leaf.pem"), ("key.pem", "/input//leaf.pem")] [] = .ok arguments ∧
      ¬ DistinctBelowInput ["/input/leaf.pem", "/input//leaf.pem"]) ∧
    ∃ arguments, isolatedArguments (fun path : String => .ok (.utf8 ("/data/" ++ path))) "image"
        [("passwd", "/input/../etc/passwd")] [] = .ok arguments ∧
      ¬ DistinctBelowInput ["/input/../etc/passwd"] := by
  constructor
  · have isolated : ∃ arguments, isolatedArguments
        (fun path : String => .ok (.utf8 ("/data/" ++ path))) "image"
        [("leaf.pem", "/input/leaf.pem"), ("key.pem", "/input//leaf.pem")] [] =
          .ok arguments := by
      decide +kernel
    have same : normalize (components "/input/leaf.pem") =
        normalize (components "/input//leaf.pem") := by
      decide +kernel
    obtain ⟨arguments, isolated⟩ := isolated
    exact ⟨arguments, isolated, fun sound => by simpa [same] using sound.distinct⟩
  · have isolated : ∃ arguments, isolatedArguments
        (fun path : String => .ok (.utf8 ("/data/" ++ path))) "image"
        [("passwd", "/input/../etc/passwd")] [] = .ok arguments := by
      decide +kernel
    have outside : normalize (components "/input/../etc/passwd") =
        ["etc".toList, "passwd".toList] := by
      decide +kernel
    obtain ⟨arguments, isolated⟩ := isolated
    refine ⟨arguments, isolated, fun sound => ?_⟩
    obtain ⟨first, rest, below⟩ := sound.below _ List.mem_cons_self
    rw [outside] at below
    simp at below

end HybridX509.Adapters
