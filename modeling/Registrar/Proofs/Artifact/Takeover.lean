import Registrar.Proofs.Artifact.ScanOrder

/-!
# Takeovers of keys

The collisions among candidates tell which candidate takes over a key from which other one. The
takeovers of one key form a chain through all candidates that have it, in the order in which they
are registered: every one of these but the last is shadowed once, by the next one.
-/

namespace Registrar

/-- A candidate that takes over its key from the one that was registered under it before. -/
structure Takeover where
  shadowed : Candidate
  kept : Candidate
  deriving DecidableEq, Repr

/-- The collision that a takeover is reported as. -/
def Takeover.collision (takeover : Takeover) : KeyCollision :=
  ⟨takeover.kept.key, takeover.kept.qualifiedName, takeover.shadowed.qualifiedName⟩

namespace Candidate

variable {candidates registered : List Candidate} {candidate : Candidate} {takeover : Takeover}
  {key : String}

/-- The takeovers among candidates that are registered in the given order after others, of which
the last one comes first. -/
def takeoversAfter (registered : List Candidate) : List Candidate → List Takeover
  | [] => []
  | candidate :: others =>
    ((registered.find? fun earlier => earlier.key = candidate.key).map fun earlier =>
      ⟨earlier, candidate⟩).toList ++ takeoversAfter (candidate :: registered) others

/-- The takeovers among candidates that are registered in the given order. -/
def takeovers (candidates : List Candidate) : List Takeover :=
  takeoversAfter [] candidates

/-- The candidates that have a key. -/
def sharing (key : String) (candidates : List Candidate) : List Candidate :=
  candidates.filter fun candidate => candidate.key = key

/-- The last candidate that has a key. -/
def lastOf? (key : String) (candidates : List Candidate) : Option Candidate :=
  (sharing key candidates).getLast?

theorem mem_sharing :
    candidate ∈ sharing key candidates ↔ candidate ∈ candidates ∧ candidate.key = key := by
  rw [sharing, List.mem_filter, decide_eq_true_eq]

theorem isSome_lastOf? :
    (lastOf? key candidates).isSome = true ↔ key ∈ candidates.map Candidate.key := by
  rw [lastOf?, Option.isSome_iff_ne_none, Ne, List.getLast?_eq_none_iff,
    List.eq_nil_iff_forall_not_mem]
  simp [mem_sharing]

/-- The takeovers in which every candidate takes over from the one before it. -/
def chain (candidates : List Candidate) : List Takeover :=
  List.zipWith Takeover.mk candidates candidates.tail

theorem collisionsAfter_eq (registered candidates : List Candidate) :
    collisionsAfter registered candidates =
      (takeoversAfter registered candidates).map Takeover.collision := by
  induction candidates generalizing registered with
  | nil => rfl
  | cons candidate others ih =>
    rw [collisionsAfter, takeoversAfter, List.map_append, ih]
    cases registered.find? fun earlier => earlier.key = candidate.key <;> rfl

/-- Collisions report takeovers. -/
theorem collisions_eq (candidates : List Candidate) :
    collisions candidates = (takeovers candidates).map Takeover.collision :=
  collisionsAfter_eq [] candidates

/-- Takeovers come in the order of registration. -/
theorem map_kept_takeoversAfter_sublist (registered candidates : List Candidate) :
    ((takeoversAfter registered candidates).map Takeover.kept).Sublist candidates := by
  induction candidates generalizing registered with
  | nil => exact List.Sublist.slnil
  | cons candidate others ih =>
    rw [takeoversAfter, List.map_append]
    cases registered.find? fun earlier => earlier.key = candidate.key with
    | none => exact (ih _).cons candidate
    | some earlier => exact (ih _).cons_cons candidate

theorem map_kept_takeovers_sublist (candidates : List Candidate) :
    ((takeovers candidates).map Takeover.kept).Sublist candidates :=
  map_kept_takeoversAfter_sublist [] candidates

theorem key_shadowed_of_mem_takeoversAfter
    (member : takeover ∈ takeoversAfter registered candidates) :
    takeover.shadowed.key = takeover.kept.key := by
  induction candidates generalizing registered with
  | nil => cases member
  | cons candidate others ih =>
    rw [takeoversAfter, List.mem_append, Option.mem_toList, Option.map_eq_some_iff] at member
    rcases member with ⟨earlier, found, rfl⟩ | later
    · simpa using List.find?_some found
    · exact ih later

theorem filter_takeoversAfter (registered candidates : List Candidate) (key : String) :
    (takeoversAfter registered candidates).filter (fun takeover => takeover.kept.key = key) =
      chain ((registered.find? fun earlier => earlier.key = key).toList ++
        sharing key candidates) := by
  induction candidates generalizing registered with
  | nil => cases registered.find? fun earlier => earlier.key = key <;> rfl
  | cons candidate others ih =>
    rw [takeoversAfter, List.filter_append, ih, sharing, sharing]
    by_cases same : candidate.key = key
    · subst same
      cases registered.find? fun earlier => earlier.key = candidate.key <;> simp [chain]
    · -- A candidate of another key neither takes the key over nor hides who had it.
      have unchanged : (((registered.find? fun earlier => earlier.key = candidate.key).map
          fun earlier => Takeover.mk earlier candidate).toList.filter
            fun takeover => takeover.kept.key = key) = [] := by
        cases registered.find? fun earlier => earlier.key = candidate.key <;> simp [same]
      rw [unchanged]
      simp [same]

/-- The takeovers of a key are the chain through all candidates that have it. -/
theorem filter_takeovers (candidates : List Candidate) (key : String) :
    (takeovers candidates).filter (fun takeover => takeover.kept.key = key) =
      chain (sharing key candidates) :=
  filter_takeoversAfter [] candidates key

theorem length_chain (candidates : List Candidate) :
    (chain candidates).length = candidates.length - 1 := by
  rw [chain, List.length_zipWith, List.length_tail]
  omega

theorem map_shadowed_chain (candidates : List Candidate) :
    (chain candidates).map Takeover.shadowed = candidates.dropLast := by
  induction candidates with
  | nil => rfl
  | cons first others ih =>
    cases others with
    | nil => rfl
    | cons second others => exact congrArg (first :: ·) ih

theorem map_kept_chain (candidates : List Candidate) :
    (chain candidates).map Takeover.kept = candidates.tail := by
  induction candidates with
  | nil => rfl
  | cons first others ih =>
    cases others with
    | nil => rfl
    | cons second others => exact congrArg (second :: ·) ih

/-- A key is taken over as often as there are further candidates that have it. -/
theorem length_filter_collisions (candidates : List Candidate) (key : String) :
    ((collisions candidates).filter fun collision => collision.key = key).length =
      (sharing key candidates).length - 1 := by
  rw [collisions_eq, List.filter_map, List.length_map, ← length_chain, ← filter_takeovers]
  rfl

/-- The last takeover of a key is that by the last candidate that has the key. -/
theorem lastOf?_of_takeover
    (last : ((takeovers candidates).filter fun takeover => takeover.kept.key = key).getLast? =
      some takeover) :
    lastOf? key candidates = some takeover.kept := by
  have lastKept := congrArg (Option.map Takeover.kept) last
  rw [filter_takeovers, ← List.getLast?_map, map_kept_chain, Option.map_some] at lastKept
  rw [lastOf?]
  rcases shared : sharing key candidates with _ | ⟨first, others⟩
  · rw [shared] at lastKept
    cases lastKept
  · rw [shared, List.tail_cons] at lastKept
    rw [List.getLast?_cons, lastKept, Option.getD_some]

theorem count_dropLast_of_nodup (distinct : candidates.Nodup) (member : candidate ∈ candidates) :
    candidates.dropLast.count candidate =
      if candidates.getLast? = some candidate then 0 else 1 := by
  rcases List.eq_nil_or_concat' candidates with rfl | ⟨earlier, last, rfl⟩
  · cases member
  · rw [List.nodup_append] at distinct
    simp only [List.dropLast_concat, List.getLast?_concat, Option.some.injEq]
    split
    · rename_i same
      subst same
      exact List.count_eq_zero.2 fun again => distinct.2.2 _ again _ (List.mem_singleton_self _) rfl
    · rename_i differs
      apply List.count_eq_one_of_mem distinct.1
      exact (List.mem_append.1 member).resolve_right fun isLast =>
        differs (List.mem_singleton.1 isLast).symm

/-- A candidate is shadowed once, unless it is the last one that has its key. -/
theorem count_map_shadowed (distinct : candidates.Nodup) (member : candidate ∈ candidates) :
    ((takeovers candidates).map Takeover.shadowed).count candidate =
      if lastOf? candidate.key candidates = some candidate then 0 else 1 := by
  have sameKey : ∀ takeover ∈ takeovers candidates, takeover.shadowed = candidate →
      takeover.kept.key = candidate.key := by
    rintro takeover found rfl
    exact (key_shadowed_of_mem_takeoversAfter found).symm
  -- Only takeovers of its own key can shadow the candidate, and these form a chain.
  have ofKey : ((takeovers candidates).map Takeover.shadowed).count candidate =
      (sharing candidate.key candidates).dropLast.count candidate := by
    rw [← map_shadowed_chain, ← filter_takeovers, List.count_eq_countP, List.countP_map,
      List.count_eq_countP, List.countP_map, List.countP_filter]
    apply List.countP_congr
    intro takeover found
    have := sameKey takeover found
    simp only [Function.comp_apply, beq_iff_eq, Bool.and_eq_true, decide_eq_true_eq]
    exact ⟨fun same => ⟨same, this same⟩, And.left⟩
  have shares : candidate ∈ sharing candidate.key candidates :=
    mem_sharing.2 ⟨member, rfl⟩
  have sharersDistinct : (sharing candidate.key candidates).Nodup := distinct.filter _
  rw [ofKey, count_dropLast_of_nodup sharersDistinct shares, lastOf?]

end Candidate

end Registrar
