import Registrar.Proofs.Workspace.Below

/-!
# Long names of a directory

Slashes at the end of the path to a directory lead nowhere, so that one directory has paths of any
length. A path that leads on from a long one may be too long to be opened.
-/

namespace Registrar

namespace FileName

variable {Name : Type} [FileName Name]

theorem length_joinTo_le (path : List UInt8) (name : Name) :
    (joinTo path name).length ≤ path.length + (bytes name).length + 1 := by
  rw [joinTo]
  split <;> simp only [List.length_append, List.length_cons] <;> omega

end FileName

theorem FilePath.le_utf8ByteSize_join {base path : FilePath} (relative : path.isAbsolute = false) :
    base.text.utf8ByteSize + path.text.utf8ByteSize ≤ (base.join path).text.utf8ByteSize := by
  rw [FilePath.join, if_neg (by simp [relative])]
  split
  · exact Nat.le_of_eq String.utf8ByteSize_append.symm
  · simp only [String.utf8ByteSize_append]
    omega

namespace Sample

/-- The current directory under a name of the given length, which ends in slashes. -/
def slashedDirectory (slashes : Nat) : FilePath :=
  ⟨String.ofList ('.' :: List.replicate slashes '/')⟩

theorem splitOn_slashes (slashes : Nat) :
    (List.replicate slashes '/').splitOn '/' = List.replicate (slashes + 1) [] := by
  induction slashes with
  | zero => rfl
  | succ slashes ih =>
    rw [List.replicate_succ, List.splitOn_cons_eq_if_modifyHead, if_pos (beq_self_eq_true _), ih]
    rfl

theorem splitOn_slashedDirectory (slashes : Nat) :
    (slashedDirectory slashes).text.toList.splitOn '/' =
      ['.'] :: List.replicate slashes [] := by
  rw [slashedDirectory, String.toList_ofList, List.splitOn_cons_eq_if_modifyHead,
    if_neg (by decide), splitOn_slashes]
  rfl

theorem components_slashedDirectory (slashes : Nat) :
    (slashedDirectory slashes).components = [.current] := by
  have idle : (List.replicate slashes ([] : List Char)).filterMap FilePath.componentOfSegment? =
      [] := by
    simp [FilePath.componentOfSegment?]
  rw [FilePath.components, splitOn_slashedDirectory, FilePath.componentsOfSegments, idle]

theorem utf8ByteSize_slashes (slashes : Nat) :
    (String.ofList (List.replicate slashes '/')).utf8ByteSize = slashes := by
  induction slashes with
  | zero => rfl
  | succ slashes ih =>
    have single : (String.ofList ['/']).utf8ByteSize = 1 := by decide
    rw [List.replicate_succ, ← List.singleton_append, String.ofList_append,
      String.utf8ByteSize_append, ih, single, Nat.add_comm]

theorem utf8ByteSize_slashedDirectory (slashes : Nat) :
    (slashedDirectory slashes).text.utf8ByteSize = slashes + 1 := by
  have point : (String.ofList ['.']).utf8ByteSize = 1 := by decide
  rw [slashedDirectory, ← List.singleton_append, String.ofList_append, String.utf8ByteSize_append,
    utf8ByteSize_slashes, point, Nat.add_comm]

theorem isOpenable_slashedDirectory {slashes : Nat} (short : slashes + 1 < Workspace.pathLimit) :
    (slashedDirectory slashes).IsOpenable := by
  have size := utf8ByteSize_slashedDirectory slashes
  refine ⟨?_, ?_, ?_⟩
  · intro empty
    rw [empty, String.utf8ByteSize_empty] at size
    omega
  · rw [slashedDirectory, String.toList_ofList, List.mem_cons, List.mem_replicate]
    simp
  · rwa [size]

/-- The slashes lead nowhere. -/
theorem locate_slashedDirectory {slashes : Nat} (short : slashes + 1 < Workspace.pathLimit)
    {workspace : Workspace} (atRoot : workspace.directory = []) :
    workspace.locate (slashedDirectory slashes) true = .ok [] := by
  have segments : (slashedDirectory slashes).segments = "." :: List.replicate slashes "" := by
    rw [FilePath.segments, splitOn_slashedDirectory, List.map_cons, List.map_replicate]
  have stays : workspace.tree.Leads 0 [] (slashedDirectory slashes).segments [] := by
    refine FileTree.Leads.of_filter_isIdle ?_ rfl
    have idle : (slashedDirectory slashes).segments.filter
        (fun segment => !FilePath.isIdle segment.toList) = [] := by
      rw [segments, List.filter_eq_nil_iff]
      intro segment member
      rcases List.mem_cons.1 member with rfl | later
      · decide
      · rw [(List.mem_replicate.1 later).2]
        decide
    rw [idle]
    exact .stop
  have start : workspace.startOf (slashedDirectory slashes) = [] := by
    rw [Workspace.startOf, atRoot, ite_self]
  rw [Workspace.locate_of_isOpenable (isOpenable_slashedDirectory short), start,
    FileTree.follow_of_leads stays, if_pos (Nat.zero_le _)]

theorem length_bytes_slashedDirectory (slashes : Nat) :
    (slashedDirectory slashes).bytes.length = slashes + 1 := by
  rw [FilePath.bytes, Text.length_bytes, utf8ByteSize_slashedDirectory]

/-- The path to the directory with the sources may be short enough. -/
theorem length_joinTo_source_lt {slashes : Nat} (opens : slashes + 5 < Workspace.pathLimit) :
    (Location.joinTo (slashedDirectory slashes).bytes ["src"]).length < Workspace.pathLimit := by
  have added := FileName.length_joinTo_le (slashedDirectory slashes).bytes "src"
  have sourceSize : (FileName.bytes "src").length = 3 := by decide
  rw [length_bytes_slashedDirectory, sourceSize] at added
  exact Nat.lt_of_le_of_lt added opens

end Sample

end Registrar
