import Mathlib.Data.List.Induction
import Registrar.Survey

/-!
# What an aggregation holds

An aggregation holds a candidate for every identity among the candidates of its files, and no two of
one identity. Its other parts are lists of what the files add, one file after the other, and the
override of a kind is the last one that is added.
-/

namespace Registrar

namespace ExaminedFile

/-- The candidates of a file. -/
def candidates (examined : ExaminedFile) : List Candidate :=
  match examined.examination with
  | .scanned findings => findings.candidates
  | _ => []

/-- The overrides of a kind that a file adds. -/
def overrides (kind : OverrideKind) (examined : ExaminedFile) : List OverrideBinding :=
  match examined.examination, kind with
  | .scanned findings, .serializer =>
    findings.serializers.map fun name => ⟨.serializer, name, findings.module⟩
  | .scanned findings, .deserializer =>
    findings.deserializers.map fun name => ⟨.deserializer, name, findings.module⟩
  | _, _ => []

/-- The records of the declarations in a file that are rejected. -/
def rejections (examined : ExaminedFile) : List RejectionRecord :=
  match examined.examination with
  | .scanned findings => findings.rejections.map (Aggregation.recordOf examined.file)
  | _ => []

/-- What is recorded of a file that cannot be read. -/
def failures (examined : ExaminedFile) : List FileFailure :=
  match examined.examination with
  | .failed error => [⟨examined.file, error⟩]
  | _ => []

end ExaminedFile

namespace Aggregation

/-- The override of a kind that an aggregation holds. -/
def override? (kind : OverrideKind) (aggregation : Aggregation) : Option OverrideBinding :=
  match kind with
  | .serializer => aggregation.serializer
  | .deserializer => aggregation.deserializer

variable {candidates added : List Candidate} {candidate : Candidate} {id : DeclarationId}

theorem mem_id_insertCandidate :
    id ∈ (insertCandidate candidates candidate).map Candidate.id ↔
      id ∈ candidates.map Candidate.id ∨ id = candidate.id := by
  induction candidates with
  | nil => simp [insertCandidate]
  | cons first others ih =>
    rw [insertCandidate]
    split
    · rename_i same
      simp only [List.map_cons, List.mem_cons, same]
      grind
    · rw [List.map_cons, List.mem_cons, ih, List.map_cons, List.mem_cons, or_assoc]

theorem nodup_id_insertCandidate (distinct : (candidates.map Candidate.id).Nodup) :
    ((insertCandidate candidates candidate).map Candidate.id).Nodup := by
  induction candidates with
  | nil => simp [insertCandidate]
  | cons first others ih =>
    rw [insertCandidate]
    rw [List.map_cons, List.nodup_cons] at distinct
    split
    · rename_i same
      rw [List.map_cons, List.nodup_cons, ← same]
      exact distinct
    · rename_i differs
      rw [List.map_cons, List.nodup_cons, mem_id_insertCandidate, not_or]
      exact ⟨⟨distinct.1, differs⟩, ih distinct.2⟩

theorem mem_id_foldl_insertCandidate :
    id ∈ (added.foldl insertCandidate candidates).map Candidate.id ↔
      id ∈ candidates.map Candidate.id ∨ id ∈ added.map Candidate.id := by
  induction added generalizing candidates with
  | nil => simp
  | cons first others ih =>
    rw [List.foldl_cons, ih, mem_id_insertCandidate, List.map_cons, List.mem_cons, or_assoc]

theorem nodup_id_foldl_insertCandidate (distinct : (candidates.map Candidate.id).Nodup) :
    ((added.foldl insertCandidate candidates).map Candidate.id).Nodup := by
  induction added generalizing candidates with
  | nil => exact distinct
  | cons first others ih => exact ih (nodup_id_insertCandidate distinct)

theorem candidates_record (aggregation : Aggregation) (examined : ExaminedFile) :
    (aggregation.record examined).candidates =
      examined.candidates.foldl insertCandidate aggregation.candidates := by
  rw [record, ExaminedFile.candidates]
  cases examined.examination <;> rfl

theorem mem_id_foldl_record {files : List ExaminedFile} {aggregation : Aggregation} :
    id ∈ (files.foldl record aggregation).candidates.map Candidate.id ↔
      id ∈ aggregation.candidates.map Candidate.id ∨
        ∃ examined ∈ files, id ∈ examined.candidates.map Candidate.id := by
  induction files generalizing aggregation with
  | nil => simp
  | cons first others ih =>
    rw [List.foldl_cons, ih, candidates_record, mem_id_foldl_insertCandidate, or_assoc]
    simp only [List.mem_cons, exists_eq_or_imp]

theorem nodup_id_foldl_record {files : List ExaminedFile} {aggregation : Aggregation}
    (distinct : (aggregation.candidates.map Candidate.id).Nodup) :
    ((files.foldl record aggregation).candidates.map Candidate.id).Nodup := by
  induction files generalizing aggregation with
  | nil => exact distinct
  | cons first others ih =>
    apply ih
    rw [candidates_record]
    exact nodup_id_foldl_insertCandidate distinct

/-- The identities in an aggregation are those of the candidates of its files. -/
theorem mem_id_ofFiles {files : List ExaminedFile} :
    id ∈ (ofFiles files).candidates.map Candidate.id ↔
      ∃ examined ∈ files, id ∈ examined.candidates.map Candidate.id := by
  rw [ofFiles, mem_id_foldl_record]
  simp [empty]

/-- No two candidates of an aggregation have the same identity. -/
theorem nodup_id_ofFiles (files : List ExaminedFile) :
    ((ofFiles files).candidates.map Candidate.id).Nodup :=
  nodup_id_foldl_record List.nodup_nil

theorem insertCandidate_append_of_not_mem (isNew : candidate.id ∉ candidates.map Candidate.id)
    (others : List Candidate) :
    insertCandidate (candidates ++ others) candidate =
      candidates ++ insertCandidate others candidate := by
  induction candidates with
  | nil => rfl
  | cons first rest ih =>
    rw [List.map_cons, List.mem_cons, not_or] at isNew
    rw [List.cons_append, insertCandidate, if_neg (Ne.symm isNew.1), ih isNew.2, List.cons_append]

/-- A candidate of a new identity comes last. -/
theorem insertCandidate_of_not_mem (isNew : candidate.id ∉ candidates.map Candidate.id) :
    insertCandidate candidates candidate = candidates ++ [candidate] := by
  have last := insertCandidate_append_of_not_mem isNew []
  rwa [List.append_nil] at last

theorem foldl_insertCandidate_of_nodup
    (distinct : ((candidates ++ added).map Candidate.id).Nodup) :
    added.foldl insertCandidate candidates = candidates ++ added := by
  induction added generalizing candidates with
  | nil => rw [List.foldl_nil, List.append_nil]
  | cons first others ih =>
    have isNew : first.id ∉ candidates.map Candidate.id := by
      rw [List.map_append, List.map_cons] at distinct
      exact fun member => (List.nodup_append.1 distinct).2.2 _ member _ List.mem_cons_self rfl
    rw [List.append_cons] at distinct
    rw [List.foldl_cons, insertCandidate_of_not_mem isNew, ih distinct, ← List.append_cons]

/-- The candidates of an aggregation are put in one after the other. -/
theorem candidates_ofFiles (files : List ExaminedFile) :
    (ofFiles files).candidates =
      (files.flatMap ExaminedFile.candidates).foldl insertCandidate [] := by
  rw [List.foldl_flatMap]
  change (files.foldl record empty).candidates = files.foldl _ empty.candidates
  generalize empty = aggregation
  induction files generalizing aggregation with
  | nil => rfl
  | cons first others ih => rw [List.foldl_cons, ih, candidates_record, List.foldl_cons]

section Filter

variable {keeps : Candidate → Bool} (sameId : ∀ left right, left.id = right.id →
  keeps left = keeps right)

include sameId

theorem filter_insertCandidate :
    (insertCandidate candidates candidate).filter keeps =
      if keeps candidate then insertCandidate (candidates.filter keeps) candidate
      else candidates.filter keeps := by
  induction candidates with
  | nil =>
    cases kept : keeps candidate <;> simp [insertCandidate, kept]
  | cons first others ih =>
    rw [insertCandidate]
    split
    · rename_i same
      have keptAlike := sameId first candidate same
      cases kept : keeps candidate with
      | true => simp [keptAlike, kept, insertCandidate, same]
      | false => simp [keptAlike, kept]
    · rename_i differs
      rw [List.filter_cons, ih, List.filter_cons]
      cases keptFirst : keeps first with
      | true => cases kept : keeps candidate <;> simp [insertCandidate, differs]
      | false => simp

/-- Candidates of some identities are put in as if there were no other ones. -/
theorem filter_foldl_insertCandidate :
    (added.foldl insertCandidate candidates).filter keeps =
      (added.filter keeps).foldl insertCandidate (candidates.filter keeps) := by
  induction added generalizing candidates with
  | nil => rfl
  | cons first others ih =>
    rw [List.foldl_cons, ih, filter_insertCandidate sameId]
    cases kept : keeps first <;> simp [kept]

end Filter

theorem lastOverride_eq (kind : OverrideKind) (module : String) (held : Option OverrideBinding)
    (names : List String) :
    lastOverride kind module held names =
      (names.map fun name => OverrideBinding.mk kind name module).getLast?.or held := by
  rw [lastOverride]
  induction names generalizing held with
  | nil => rfl
  | cons first others ih =>
    rw [List.foldl_cons, ih, List.map_cons, List.getLast?_cons]
    cases (others.map fun name => OverrideBinding.mk kind name module).getLast? <;> rfl

theorem override?_record (kind : OverrideKind) (aggregation : Aggregation)
    (examined : ExaminedFile) :
    (aggregation.record examined).override? kind =
      (examined.overrides kind).getLast?.or (aggregation.override? kind) := by
  rcases examined with ⟨file, examination⟩
  cases kind <;> cases examination <;>
    simp [record, absorb, override?, ExaminedFile.overrides, lastOverride_eq]

/-- The override of a kind is the last one that the files add. -/
theorem override?_ofFiles (kind : OverrideKind) (files : List ExaminedFile) :
    (ofFiles files).override? kind = (files.flatMap (ExaminedFile.overrides kind)).getLast? := by
  induction files using List.reverseRecOn with
  | nil => cases kind <;> rfl
  | append_singleton earlier last ih =>
    rw [ofFiles, List.foldl_append, List.foldl_cons, List.foldl_nil, override?_record, ← ofFiles,
      ih, List.flatMap_append, List.flatMap_singleton, List.getLast?_append]

/-- The rejections are those of the files, one file after the other. -/
theorem rejections_ofFiles (files : List ExaminedFile) :
    (ofFiles files).statistics.rejections = files.flatMap ExaminedFile.rejections := by
  induction files using List.reverseRecOn with
  | nil => rfl
  | append_singleton earlier last ih =>
    rw [ofFiles, List.foldl_append, List.foldl_cons, List.foldl_nil, ← ofFiles,
      List.flatMap_append, List.flatMap_singleton, ← ih, record, ExaminedFile.rejections]
    cases last.examination <;> simp [absorb]

/-- The failures are those of the files, one file after the other. -/
theorem failures_ofFiles (files : List ExaminedFile) :
    (ofFiles files).statistics.failures = files.flatMap ExaminedFile.failures := by
  induction files using List.reverseRecOn with
  | nil => rfl
  | append_singleton earlier last ih =>
    rw [ofFiles, List.foldl_append, List.foldl_cons, List.foldl_nil, ← ofFiles,
      List.flatMap_append, List.flatMap_singleton, ← ih, record, ExaminedFile.failures]
    cases last.examination <;> simp [absorb]

end Aggregation

end Registrar
