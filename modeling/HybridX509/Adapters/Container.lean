import HybridX509.Adapters.Execution
import HybridX509.Lib.Ascii

/-! # Container arguments

`adapters/container.rs`: the fixed confinement flags, a read-only mount for each
input, and the command.
-/

namespace HybridX509.Adapters

open Lib

/-- The arguments before the first mount. -/
def runFlags : List OsString :=
  ["run", "--rm", "--pull=never", "--network=none", "--ipc=none", "--read-only", "--cap-drop=ALL",
    "--security-opt=no-new-privileges", "--user=65532:65532", "--pids-limit=64", "--memory=768m",
    "--cpus=2", "--ulimit=nofile=64:64", "--tmpfs=/tmp:rw,noexec,nosuid,size=16m"].map .utf8

/-- `byte.is_ascii_alphanumeric() || b"/_-.".contains(&byte)`. -/
def isDestinationByte (byte : UInt8) : Bool :=
  (48 ≤ byte && byte ≤ 57) || (65 ≤ byte && byte ≤ 90) || (97 ≤ byte && byte ≤ 122)
    || byte == 47 || byte == 95 || byte == 45 || byte == 46

/-- `contains([',', '\n', '\r'])`, byte by byte. -/
def isDelimiter (byte : UInt8) : Bool := byte == 44 || byte == 10 || byte == 13

/-- One pass over the mounts: the arguments so far, and `destinations`. -/
def mountArguments {Path : Type} (canonicalize : Path → Except String OsString)
    (state : List OsString × List String) (mount : Path × String) :
    Except String (List OsString × List String) := do
  let (source, destination) := mount
  failIf ((bytes "/input/").isPrefixOf (bytes destination) = false
      ∨ (bytes destination).all isDestinationByte = false ∨ destination ∈ state.2)
    "container mount destination is not a unique /input path"
  let source ← canonicalize source
  let source ← orFail source.toStr "container mount path is not UTF-8"
  failIf ((bytes source).any isDelimiter)
    "container mount path contains an unsafe delimiter"
  return (state.1 ++ [.utf8 "--mount",
      .utf8 ("type=bind,src=" ++ source ++ ",dst=" ++ destination ++ ",readonly")],
    destination :: state.2)

def isolatedArguments {Path : Type} (canonicalize : Path → Except String OsString)
    (image : String) (mounts : List (Path × String)) (command : List OsString) :
    Except String (List OsString) := do
  failIf (image = "") "container image must not be empty"
  let (arguments, _) ← mounts.foldlM (mountArguments canonicalize) (runFlags, [])
  return arguments ++ [.utf8 "--", .utf8 image] ++ command

/-! ## Confinement -/

/-- A mount whose source was found, with nothing in its value that Docker splits at. -/
structure MountedFrom {Path : Type} (canonicalize : Path → Except String OsString)
    (mount : Path × String) (source : String) : Prop where
  canonical : canonicalize mount.1 = .ok (.utf8 source)
  sourceComma : ',' ∉ source.toList
  destinationComma : ',' ∉ mount.2.toList

/-- The value after `--mount`. -/
def mountValue (source destination : String) : String :=
  "type=bind,src=" ++ source ++ ",dst=" ++ destination ++ ",readonly"

/-- The options of mounts with their canonical sources. -/
def mountOptions {Path : Type} (mounts : List (Path × String)) (sources : List String) :
    List OsString :=
  (mounts.zip sources).flatMap fun (mount, source) =>
    [.utf8 "--mount", .utf8 (mountValue source mount.2)]

section Confinement

variable {Path : Type} {canonicalize : Path → Except String OsString}

theorem mountArguments_ok {state state' : List OsString × List String} {mount : Path × String}
    (mounted : mountArguments canonicalize state mount = .ok state') :
    ∃ source, MountedFrom canonicalize mount source ∧
      state'.1 = state.1 ++ [.utf8 "--mount", .utf8 (mountValue source mount.2)] := by
  obtain ⟨path, destination⟩ := mount
  simp only [mountArguments, bind_ok_iff, exists_unit_iff, failIf_ok_iff, orFail_ok_iff,
    pure_ok_iff, not_or, Bool.not_eq_false, Bool.not_eq_true] at mounted
  obtain ⟨⟨_, plain, _⟩, found, canonical, source, text, clean, rfl⟩ := mounted
  have comma : (',' : Char).toNat < 128 := by decide
  refine ⟨source, ⟨?_, ?_, ?_⟩, rfl⟩
  · cases found with
    | utf8 text' => rw [canonical, Option.some.inj text]
    | other bytes => cases text
  · intro member
    have inside := mem_bytes_of_ascii comma member
    exact absurd (List.any_eq_false.mp clean _ inside) (by decide)
  · intro member
    have inside := mem_bytes_of_ascii comma member
    exact absurd (List.all_eq_true.mp plain _ inside) (by decide)

/-- The loop over the mounts appends two arguments for each of them, in order. -/
theorem mounts_ok {mounts : List (Path × String)} {state state' : List OsString × List String}
    (mounted : mounts.foldlM (mountArguments canonicalize) state = .ok state') :
    ∃ sources, List.Forall₂ (MountedFrom canonicalize) mounts sources ∧
      state'.1 = state.1 ++ mountOptions mounts sources := by
  induction mounts generalizing state with
  | nil =>
      obtain rfl : state = state' := by simpa [pure, Except.pure] using mounted
      exact ⟨[], .nil, by simp [mountOptions]⟩
  | cons mount rest ih =>
      rw [List.foldlM_cons] at mounted
      obtain ⟨next, first, others⟩ := bind_ok_iff.mp mounted
      obtain ⟨source, mountedFrom, appended⟩ := mountArguments_ok first
      obtain ⟨sources, restMounted, appended'⟩ := ih others
      refine ⟨source :: sources, .cons mountedFrom restMounted, ?_⟩
      rw [appended', appended]
      simp [mountOptions]

/-- A value without further commas splits into its four fields. -/
theorem splitOn_mountValue {mount : Path × String} {source : String}
    (mounted : MountedFrom canonicalize mount source) :
    (mountValue source mount.2).toList.splitOn ',' =
      ["type=bind".toList, ("src=" ++ source).toList, ("dst=" ++ mount.2).toList,
        "readonly".toList] := by
  have fields : (mountValue source mount.2).toList = "type=bind".toList ++ ',' ::
      (("src=" ++ source).toList ++ ',' :: (("dst=" ++ mount.2).toList ++ ',' ::
        "readonly".toList)) := by
    unfold mountValue
    simp
  have sourcePlain : ',' ∉ ("src=" ++ source).toList := by simp [mounted.sourceComma]
  have destinationPlain : ',' ∉ ("dst=" ++ mount.2).toList := by simp [mounted.destinationComma]
  rw [fields, List.splitOn_append_cons_self_of_not_mem (by simp),
    List.splitOn_append_cons_self_of_not_mem sourcePlain,
    List.splitOn_append_cons_self_of_not_mem destinationPlain,
    List.splitOn_eq_singleton (by simp)]

/-- No option ends the options: the flags are fixed, and a mount value starts with its
    type. -/
theorem separator_notMem (mounts : List (Path × String)) (sources : List String) :
    OsString.utf8 "--" ∉ runFlags ++ mountOptions mounts sources := by
  intro member
  rcases List.mem_append.mp member with flag | option
  · revert flag
    decide
  · obtain ⟨⟨mount, source⟩, _, either⟩ := List.mem_flatMap.mp option
    rcases List.mem_pair.mp either with same | same
    · revert same
      decide
    · have start := congrArg (fun text => text.toStr.map fun text => text.toList.head?) same
      unfold mountValue at start
      simp [OsString.toStr] at start

/-- What `isolated_arguments` returns: the fourteen flags, two arguments for each mount,
    and the image after the first `--`, where no option is read any more. Each mount
    value has the four fields it was written with, whatever the paths are. -/
theorem isolatedArguments_confined {image : String} {mounts : List (Path × String)}
    {command arguments : List OsString}
    (isolated : isolatedArguments canonicalize image mounts command = .ok arguments) :
    ∃ sources, List.Forall₂ (fun mount source => canonicalize mount.1 = .ok (.utf8 source) ∧
        (mountValue source mount.2).toList.splitOn ',' =
          ["type=bind".toList, ("src=" ++ source).toList, ("dst=" ++ mount.2).toList,
            "readonly".toList]) mounts sources ∧
      arguments =
        [.utf8 "run", .utf8 "--rm", .utf8 "--pull=never", .utf8 "--network=none",
          .utf8 "--ipc=none", .utf8 "--read-only", .utf8 "--cap-drop=ALL",
          .utf8 "--security-opt=no-new-privileges", .utf8 "--user=65532:65532",
          .utf8 "--pids-limit=64", .utf8 "--memory=768m", .utf8 "--cpus=2",
          .utf8 "--ulimit=nofile=64:64", .utf8 "--tmpfs=/tmp:rw,noexec,nosuid,size=16m"] ++
        mountOptions mounts sources ++ [.utf8 "--", .utf8 image] ++ command ∧
      arguments.idxOf (.utf8 "--") = 14 + (mountOptions mounts sources).length := by
  simp only [isolatedArguments, bind_ok_iff, exists_unit_iff, failIf_ok_iff, pure_ok_iff,
    Prod.exists] at isolated
  obtain ⟨_, options, destinations, looped, rfl⟩ := isolated
  obtain ⟨sources, mounted, appended⟩ := mounts_ok looped
  obtain rfl : options = runFlags ++ mountOptions mounts sources := appended
  refine ⟨sources, mounted.imp fun mount source mountedFrom =>
    ⟨mountedFrom.canonical, splitOn_mountValue mountedFrom⟩, rfl, ?_⟩
  have flags : runFlags.length = 14 := rfl
  rw [List.append_assoc, List.idxOf_append_of_notMem (separator_notMem mounts sources),
    List.length_append, flags]
  simp

/-- A mount of a relative path, with an image and a command that look like options. -/
theorem isolatedArguments_confined_leaf :
    ∃ arguments, isolatedArguments (fun path : String => .ok (.utf8 ("/data/" ++ path)))
        "--privileged" [("leaf.pem", "/input/leaf.pem")] [.utf8 "--network=host"] =
          .ok arguments ∧
      ∃ sources, arguments =
        [.utf8 "run", .utf8 "--rm", .utf8 "--pull=never", .utf8 "--network=none",
          .utf8 "--ipc=none", .utf8 "--read-only", .utf8 "--cap-drop=ALL",
          .utf8 "--security-opt=no-new-privileges", .utf8 "--user=65532:65532",
          .utf8 "--pids-limit=64", .utf8 "--memory=768m", .utf8 "--cpus=2",
          .utf8 "--ulimit=nofile=64:64", .utf8 "--tmpfs=/tmp:rw,noexec,nosuid,size=16m"] ++
        mountOptions [("leaf.pem", "/input/leaf.pem")] sources ++
        [.utf8 "--", .utf8 "--privileged"] ++ [.utf8 "--network=host"] := by
  have isolated : ∃ arguments, isolatedArguments
      (fun path : String => .ok (.utf8 ("/data/" ++ path))) "--privileged"
      [("leaf.pem", "/input/leaf.pem")] [.utf8 "--network=host"] = .ok arguments := by
    decide +kernel
  obtain ⟨arguments, isolated⟩ := isolated
  obtain ⟨sources, _, layout, _⟩ := isolatedArguments_confined isolated
  exact ⟨arguments, isolated, sources, layout⟩

end Confinement

end HybridX509.Adapters
