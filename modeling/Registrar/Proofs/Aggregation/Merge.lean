import Mathlib.Data.List.Nodup
import Registrar.Proofs.Aggregation

/-!
# Aggregations of joined file lists

The aggregation of two lists of files, one after the other, follows from those of the two lists: it
is their merge, in which the later one prevails. The invariant that carries this through the files
is that no two candidates of an aggregation have one identity. Without it, a candidate that is found
again would take the place of only the first of those with its identity.
-/

namespace Registrar

namespace Aggregation

/-- The candidate of a later list that has the identity of a given one, else the given one. -/
def latest (later : List Candidate) (candidate : Candidate) : Candidate :=
  (later.find? fun other => other.id = candidate.id).getD candidate

/-- Candidates, each replaced by the later one of its identity, before the later ones of other
identities. -/
def mergeCandidates (earlier later : List Candidate) : List Candidate :=
  earlier.map (latest later) ++
    later.filter fun candidate => candidate.id ∉ earlier.map Candidate.id

/-- The merge of two aggregations, in which the later one prevails. -/
def merge (earlier later : Aggregation) : Aggregation where
  candidates := mergeCandidates earlier.candidates later.candidates
  serializer := later.serializer.or earlier.serializer
  deserializer := later.deserializer.or earlier.deserializer
  statistics := {
    filesScanned := earlier.statistics.filesScanned + later.statistics.filesScanned
    filesNotApplicable :=
      earlier.statistics.filesNotApplicable + later.statistics.filesNotApplicable
    priorOutputsSkipped :=
      earlier.statistics.priorOutputsSkipped + later.statistics.priorOutputsSkipped
    failures := earlier.statistics.failures ++ later.statistics.failures
    rejections := earlier.statistics.rejections ++ later.statistics.rejections }

section Candidates

variable {candidates earlier later added : List Candidate} {candidate : Candidate}

theorem latest_cons (first : Candidate) (others : List Candidate) (candidate : Candidate) :
    latest (first :: others) candidate =
      if first.id = candidate.id then first else latest others candidate := by
  rw [latest, List.find?_cons]
  by_cases same : first.id = candidate.id <;> simp [same, latest]

theorem id_latest (later : List Candidate) (candidate : Candidate) :
    (latest later candidate).id = candidate.id := by
  induction later with
  | nil => rfl
  | cons first others ih =>
    rw [latest_cons]
    split
    · assumption
    · exact ih

theorem map_id_map_latest (earlier later : List Candidate) :
    (earlier.map (latest later)).map Candidate.id = earlier.map Candidate.id := by
  rw [List.map_map]
  exact List.map_congr_left fun candidate _ => id_latest later candidate

theorem latest_of_not_mem (isNew : candidate.id ∉ later.map Candidate.id) :
    latest later candidate = candidate := by
  induction later with
  | nil => rfl
  | cons first others ih =>
    rw [List.map_cons, List.mem_cons, not_or] at isNew
    rw [latest_cons, if_neg (Ne.symm isNew.1), ih isNew.2]

/-- The only candidate of an identity is the one that prevails. -/
theorem latest_of_mem (distinct : (later.map Candidate.id).Nodup) (member : candidate ∈ later) :
    latest later candidate = candidate := by
  induction later with
  | nil => cases member
  | cons first others ih =>
    rw [List.map_cons, List.nodup_cons] at distinct
    rw [latest_cons]
    rcases List.mem_cons.1 member with rfl | member
    · rw [if_pos rfl]
    · rw [if_neg, ih distinct.2 member]
      intro same
      exact distinct.1 (same ▸ List.mem_map_of_mem member)

/-- What is put into a list prevails over what is in it. -/
theorem latest_insertCandidate (later : List Candidate) (candidate other : Candidate) :
    latest (insertCandidate later candidate) other = latest [candidate] (latest later other) := by
  induction later with
  | nil => rfl
  | cons first others ih =>
    have single : ∀ found : Candidate, latest [candidate] found =
        if candidate.id = found.id then candidate else found := latest_cons candidate []
    rw [single, id_latest] at ih ⊢
    rw [insertCandidate, latest_cons]
    split
    · rename_i same
      rw [latest_cons, same]
      split <;> rfl
    · rename_i differs
      rw [latest_cons, ih]
      by_cases found : first.id = other.id
      · have isOther : candidate.id ≠ other.id := fun same => differs (found.trans same.symm)
        rw [if_pos found, if_pos found, if_neg isOther]
      · rw [if_neg found, if_neg found]

/-- Where its identity is new, a candidate replaces none. -/
theorem map_latest_of_not_mem (isNew : candidate.id ∉ candidates.map Candidate.id) :
    candidates.map (latest [candidate]) = candidates := by
  have unchanged : ∀ other ∈ candidates, latest [candidate] other = other := by
    intro other member
    apply latest_of_not_mem
    intro same
    exact isNew (List.mem_singleton.1 same ▸ List.mem_map_of_mem member)
  rw [List.map_congr_left unchanged, List.map_id']

/-- A candidate of a known identity takes the place of the one that has it. -/
theorem insertCandidate_of_mem (distinct : (candidates.map Candidate.id).Nodup)
    (known : candidate.id ∈ candidates.map Candidate.id) :
    insertCandidate candidates candidate = candidates.map (latest [candidate]) := by
  induction candidates with
  | nil => cases known
  | cons first others ih =>
    rw [List.map_cons, List.nodup_cons] at distinct
    rw [insertCandidate, List.map_cons, latest_cons]
    by_cases same : first.id = candidate.id
    · rw [if_pos same, if_pos same.symm, map_latest_of_not_mem (same ▸ distinct.1)]
    · rw [List.map_cons, List.mem_cons] at known
      rw [if_neg same, if_neg (Ne.symm same), ih distinct.2 (known.resolve_left (Ne.symm same))]
      rfl

theorem insertCandidate_append_of_mem (known : candidate.id ∈ candidates.map Candidate.id)
    (others : List Candidate) :
    insertCandidate (candidates ++ others) candidate =
      insertCandidate candidates candidate ++ others := by
  induction candidates with
  | nil => cases known
  | cons first rest ih =>
    rw [List.cons_append, insertCandidate, insertCandidate]
    split
    · rfl
    · rename_i differs
      rw [List.map_cons, List.mem_cons] at known
      rw [ih (known.resolve_left (Ne.symm differs)), List.cons_append]

/-- What is put into a merge might as well have been put into its later part. -/
theorem insertCandidate_mergeCandidates (distinct : (earlier.map Candidate.id).Nodup)
    (later : List Candidate) (candidate : Candidate) :
    insertCandidate (mergeCandidates earlier later) candidate =
      mergeCandidates earlier (insertCandidate later candidate) := by
  have sameId : ∀ left right : Candidate, left.id = right.id →
      decide (left.id ∉ earlier.map Candidate.id) =
        decide (right.id ∉ earlier.map Candidate.id) := by
    intro left right same
    rw [same]
  have replaced : earlier.map (latest (insertCandidate later candidate)) =
      (earlier.map (latest later)).map (latest [candidate]) := by
    rw [List.map_map]
    exact List.map_congr_left fun other _ => latest_insertCandidate later candidate other
  have sameIds := map_id_map_latest earlier later
  rw [mergeCandidates, mergeCandidates, filter_insertCandidate sameId, replaced]
  by_cases known : candidate.id ∈ earlier.map Candidate.id
  · rw [if_neg (by simpa using known)]
    rw [← sameIds] at known distinct
    rw [insertCandidate_append_of_mem known, insertCandidate_of_mem distinct known]
  · rw [if_pos (decide_eq_true known)]
    rw [← sameIds] at known
    rw [insertCandidate_append_of_not_mem known, map_latest_of_not_mem known]

theorem foldl_insertCandidate_mergeCandidates (distinct : (earlier.map Candidate.id).Nodup) :
    added.foldl insertCandidate (mergeCandidates earlier later) =
      mergeCandidates earlier (added.foldl insertCandidate later) := by
  induction added generalizing later with
  | nil => rfl
  | cons first others ih =>
    rw [List.foldl_cons, insertCandidate_mergeCandidates distinct, ih, List.foldl_cons]

theorem mergeCandidates_nil (earlier : List Candidate) : mergeCandidates earlier [] = earlier := by
  rw [mergeCandidates, List.filter_nil, List.append_nil]
  exact List.map_id earlier

/-- Candidates that are found once more are the same ones. -/
theorem mergeCandidates_self (distinct : (candidates.map Candidate.id).Nodup) :
    mergeCandidates candidates candidates = candidates := by
  have noneNew : candidates.filter (fun candidate =>
      candidate.id ∉ candidates.map Candidate.id) = [] := by
    rw [List.filter_eq_nil_iff]
    intro candidate member
    simpa using ⟨candidate, member, rfl⟩
  have unchanged : ∀ candidate ∈ candidates, latest candidates candidate = candidate :=
    fun candidate member => latest_of_mem distinct member
  rw [mergeCandidates, noneNew, List.append_nil, List.map_congr_left unchanged, List.map_id']

end Candidates

variable {earlier later : Aggregation}

theorem merge_empty (earlier : Aggregation) : earlier.merge empty = earlier := by
  simp [merge, empty, mergeCandidates_nil]

/-- What comes of a file might as well have been taken into the later part of a merge. -/
theorem record_merge (distinct : (earlier.candidates.map Candidate.id).Nodup)
    (later : Aggregation) (examined : ExaminedFile) :
    (earlier.merge later).record examined = earlier.merge (later.record examined) := by
  rcases examined with ⟨file, examination⟩
  cases examination with
  | scanned findings =>
    have candidates := @foldl_insertCandidate_mergeCandidates earlier.candidates later.candidates
      findings.candidates distinct
    simp [record, absorb, merge, candidates, lastOverride_eq, Option.or_assoc, Nat.add_assoc]
  | notApplicable reason => simp [record, merge, Nat.add_assoc]
  | priorOutput => simp [record, merge, Nat.add_assoc]
  | failed error => simp [record, merge]

/-- The files of a later list are taken into the later part of a merge, one after the other. -/
theorem foldl_record_merge (distinct : (earlier.candidates.map Candidate.id).Nodup)
    (later : Aggregation) (files : List ExaminedFile) :
    files.foldl record (earlier.merge later) = earlier.merge (files.foldl record later) := by
  induction files generalizing later with
  | nil => rfl
  | cons first others ih => rw [List.foldl_cons, record_merge distinct, ih, List.foldl_cons]

theorem ofFiles_append (earlier later : List ExaminedFile) :
    ofFiles (earlier ++ later) = (ofFiles earlier).merge (ofFiles later) :=
  calc ofFiles (earlier ++ later)
    _ = later.foldl record ((ofFiles earlier).merge empty) := by
      rw [merge_empty, ofFiles, List.foldl_append, ofFiles]
    _ = (ofFiles earlier).merge (ofFiles later) :=
      foldl_record_merge (nodup_id_ofFiles earlier) empty later

end Aggregation

/-- Aggregation makes a merge of joined file lists, in which the later one prevails. So no identity
has two candidates, and files that are examined once more change neither candidates nor
overrides. -/
theorem Scope.aggregate_append (scope : Scope) (workspace : Workspace)
    (earlier later : List FoundFile) :
    scope.aggregate workspace (earlier ++ later) =
        (scope.aggregate workspace earlier).merge (scope.aggregate workspace later) ∧
      ((scope.aggregate workspace earlier).candidates.map Candidate.id).Nodup ∧
      (scope.aggregate workspace (earlier ++ earlier)).candidates =
        (scope.aggregate workspace earlier).candidates ∧
      (scope.aggregate workspace (earlier ++ earlier)).serializer =
        (scope.aggregate workspace earlier).serializer ∧
      (scope.aggregate workspace (earlier ++ earlier)).deserializer =
        (scope.aggregate workspace earlier).deserializer := by
  have merges : ∀ earlier later, scope.aggregate workspace (earlier ++ later) =
      (scope.aggregate workspace earlier).merge (scope.aggregate workspace later) := by
    intro earlier later
    rw [aggregate, examineAll, List.map_append, Aggregation.ofFiles_append]
    rfl
  have distinct := Aggregation.nodup_id_ofFiles (scope.examineAll workspace earlier)
  refine ⟨merges earlier later, distinct, ?_, ?_, ?_⟩
  · rw [merges]
    exact Aggregation.mergeCandidates_self distinct
  · rw [merges]
    exact Option.or_self
  · rw [merges]
    exact Option.or_self

end Registrar
