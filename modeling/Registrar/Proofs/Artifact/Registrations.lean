import Mathlib.Logic.Function.Basic
import Registrar.Proofs.Artifact.Lines
import Registrar.Proofs.Artifact.Rendering
import Registrar.Proofs.Artifact.Takeover
import Registrar.Proofs.Text.Occurrence
import Registrar.Proofs.Text.Quoted

/-!
# What the text of an artifact registers

The text of an artifact has a function that puts the factories of all candidates into a map, one
statement after the other. Its statements are read here without regard to how they were written, and
what the map holds in the end is compared with the collisions that are reported beside the text.
-/

namespace Registrar

/-- What a statement of the text registers: the path of a function, under a key. -/
structure Registration where
  key : String
  factory : String
  deriving DecidableEq, Repr

namespace Registration

/-- Reads a statement that registers. Its key is what the string literal in it denotes. -/
def read? (statement : List Char) : Option Registration := do
  let argument ← statement.dropPrefix? "    factories.insert(".toList
  let literal ← argument.dropPrefix? ['"']
  let (key, arguments) ← Source.Literal.stringBody .text literal
  let call ← arguments.dropPrefix? ", |map| Box::new(".toList
  let factory ← call.dropSuffix? "(map)) as Box<dyn Any + Send>);".toList
  some ⟨String.ofList key, String.ofList factory⟩

/-- The registration of a candidate: the function of its type that makes values from maps. -/
def ofCandidate (settings : ArtifactSettings) (candidate : Candidate) : Registration :=
  ⟨candidate.key, candidate.name ++ "::" ++ settings.deserializeConstructor⟩

/-- The statement that is written for a candidate is read as its registration, whatever characters
are in its key. -/
theorem read?_insertStatement (settings : ArtifactSettings) (candidate : Candidate) :
    read? (ArtifactSource.insertStatement settings candidate) =
      some (ofCandidate settings candidate) := by
  have written : ArtifactSource.insertStatement settings candidate =
      "    factories.insert(".toList ++ (['"'] ++
        (candidate.key.toList.flatMap (Text.escapeCharacter false) ++
          '"' :: (", |map| Box::new(".toList ++
            ((ofCandidate settings candidate).factory.toList ++
              "(map)) as Box<dyn Any + Send>);".toList)))) := by
    unfold ArtifactSource.insertStatement Text.quotedCharacters ofCandidate
    simp only [String.toList_append, List.append_assoc, List.cons_append, List.nil_append]
  rw [read?, written, Text.dropPrefix?_append, Option.bind_eq_bind, Option.bind_some,
    Text.dropPrefix?_append, Option.bind_eq_bind, Option.bind_some,
    Source.Literal.stringBody_quoted, Option.bind_some]
  simp only
  rw [Text.dropPrefix?_append, Option.bind_some, Text.dropSuffix?_append,
    Option.bind_some, String.ofList_toList, String.ofList_toList, ofCandidate]

end Registration

/-- What a map holds under its keys after entries are put in one after the other. An entry replaces
the one that is there under its key. -/
def heldAfter {Entry : Type} (key : Entry → String) (entries : List Entry) :
    String → Option Entry :=
  entries.foldl (fun held entry => Function.update held (key entry) (some entry)) fun _ => none

/-- The last entry of a key is held. -/
theorem heldAfter_eq {Entry : Type} (key : Entry → String) (entries : List Entry)
    (asked : String) :
    heldAfter key entries asked = (entries.filter fun entry => key entry = asked).getLast? := by
  induction entries using List.reverseRecOn with
  | nil => rfl
  | append_singleton earlier last ih =>
    rw [heldAfter, List.foldl_append, List.foldl_cons, List.foldl_nil, ← heldAfter,
      Function.update_apply, ih, List.filter_append, List.getLast?_append]
    by_cases same : key last = asked
    · simp [same]
    · simp [same, Ne.symm same]

/-- Entries that are changed but for their keys are held in the place of the others. -/
theorem heldAfter_map {Entry Other : Type} {key : Entry → String} {otherKey : Other → String}
    {change : Entry → Other} (sameKey : ∀ entry, otherKey (change entry) = key entry)
    (entries : List Entry) (asked : String) :
    heldAfter otherKey (entries.map change) asked = (heldAfter key entries asked).map change := by
  rw [heldAfter_eq, heldAfter_eq, List.filter_map, List.getLast?_map]
  simp only [Function.comp_def, sameKey]

namespace Candidate

variable {candidates registered : List Candidate} {candidate left right : Candidate} {key : String}

/-- Whether a candidate is registered before another one: by the names, then by the modules. -/
def Before (left right : Candidate) : Prop :=
  left.name < right.name ∨ left.name = right.name ∧ left.module < right.module

/-- Whether a candidate has a key and every other one that has the key comes before. -/
structure IsLastOf (candidates : List Candidate) (key : String) (candidate : Candidate) :
    Prop where
  member : candidate ∈ candidates
  hasKey : candidate.key = key
  last : ∀ other ∈ candidates, other.key = key → other = candidate ∨ other.Before candidate

theorem before_of_precedes (first : precedes left right = true) (differs : left.id ≠ right.id) :
    Before left right := by
  rw [precedes_iff] at first
  rcases first with less | ⟨same, noLater⟩
  · exact Or.inl less
  · refine Or.inr ⟨same, ?_⟩
    rw [← String.not_le]
    intro noSooner
    apply differs
    rw [id, id, same, String.le_antisymm noLater noSooner]

theorem Before.asymm (before : Before left right) : ¬Before right left := by
  rcases before with less | ⟨same, less⟩
  · rintro (greater | ⟨sameName, _⟩)
    · exact String.lt_asymm less greater
    · exact String.lt_irrefl _ (sameName ▸ less)
  · rintro (greater | ⟨_, greater⟩)
    · exact String.lt_irrefl _ (same ▸ greater)
    · exact String.lt_asymm less greater

/-- Candidates of distinct identities are registered in a strict order. -/
theorem pairwise_before_sorted (distinct : (candidates.map Candidate.id).Nodup) :
    (sorted candidates).Pairwise Before := by
  have sortedDistinct : ((sorted candidates).map Candidate.id).Nodup :=
    (((List.mergeSort_perm _ _).map Candidate.id).nodup_iff).2 distinct
  have differ : (sorted candidates).Pairwise fun left right => left.id ≠ right.id :=
    List.pairwise_map.1 sortedDistinct
  exact (pairwise_sorted candidates).imp₂ (fun _ _ => before_of_precedes) differ

theorem isLastOf_congr {others : List Candidate} (perm : candidates.Perm others) :
    IsLastOf candidates key candidate ↔ IsLastOf others key candidate := by
  constructor
  · intro isLast
    exact ⟨perm.mem_iff.1 isLast.member, isLast.hasKey, fun other member =>
      isLast.last other (perm.mem_iff.2 member)⟩
  · intro isLast
    exact ⟨perm.mem_iff.2 isLast.member, isLast.hasKey, fun other member =>
      isLast.last other (perm.mem_iff.1 member)⟩

/-- In a strict order, the last candidate of a key is the one that all others of the key come
before. -/
theorem lastOf?_eq_some (increasing : registered.Pairwise Before) :
    lastOf? key registered = some candidate ↔ IsLastOf registered key candidate := by
  have sharersIncrease : (sharing key registered).Pairwise Before := increasing.filter _
  have before_last : ∀ last, lastOf? key registered = some last →
      ∀ other ∈ sharing key registered, other = last ∨ Before other last := by
    intro last found other member
    rcases List.getLast?_eq_some_iff.1 found with ⟨earlier, split⟩
    rw [split] at sharersIncrease member
    rcases List.mem_append.1 member with sooner | isLast
    · exact Or.inr ((List.pairwise_append.1 sharersIncrease).2.2 _ sooner _
        (List.mem_singleton_self _))
    · exact Or.inl (List.mem_singleton.1 isLast)
  constructor
  · intro found
    rcases mem_sharing.1 (List.mem_of_getLast? found) with ⟨member, hasKey⟩
    exact ⟨member, hasKey, fun other otherMember otherKey =>
      before_last candidate found other (mem_sharing.2 ⟨otherMember, otherKey⟩)⟩
  · intro isLast
    -- Of the candidate and the last one of the key, neither comes after the other.
    have shares := mem_sharing.2 ⟨isLast.member, isLast.hasKey⟩
    rcases found : lastOf? key registered with _ | last
    · rw [lastOf?, List.getLast?_eq_none_iff] at found
      rw [found] at shares
      cases shares
    · rcases mem_sharing.1 (List.mem_of_getLast? found) with ⟨member, hasKey⟩
      rcases before_last last found candidate shares with same | before
      · rw [same]
      · rcases isLast.last last member hasKey with same | after
        · rw [same]
        · exact absurd after before.asymm

end Candidate

namespace ArtifactSource

/-- The function of the text that puts factories into a map, with the given statements. -/
def factoryFunction (statements : List (List Char)) : List Char :=
  block ["pub fn encodable_factories() -> HashMap<&'static str, EncodableFactory> \x7b"] ++
    ("    let mut factories: HashMap<&'static str, EncodableFactory> = " ++
      "HashMap::new();").toList ++
    statements.flatMap ('\n' :: ·) ++
    block ["", "    factories", "\x7d", ""]

/-- The text has the function, with a statement for every candidate. -/
theorem factoryFunction_infix_text (settings : ArtifactSettings) (aggregation : Aggregation)
    (instant : Instant) :
    factoryFunction ((Candidate.sorted aggregation.candidates).map (insertStatement settings)) <:+:
      text settings aggregation instant := by
  have isSection : factoryFunction
      ((Candidate.sorted aggregation.candidates).map (insertStatement settings)) ∈
        sections settings aggregation := by
    unfold factoryFunction
    rw [List.flatMap_map]
    simp [sections, factorySection]
  exact infix_text List.infix_rfl isSection

end ArtifactSource

/-- Whether the text of an artifact and the collisions that are reported beside it tell the same
about candidates, which are registered in the given order and with the given takeovers, so that each
key is held by its owner in the end. -/
structure Artifact.RegistersAsReported (artifact : Artifact) (settings : ArtifactSettings)
    (candidates registered : List Candidate) (takeovers : List Takeover)
    (owner : String → Option Candidate) : Prop where
  complete : registered.Perm candidates
  increasing : registered.Pairwise Candidate.Before
  /-- The text has the registrations of the candidates, in order and without any others. -/
  statements : ∃ before statements after,
    artifact.source.toList = before ++ ArtifactSource.factoryFunction statements ++ after ∧
      statements.map Registration.read? =
        (registered.map (Registration.ofCandidate settings)).map some
  /-- Put in one after the other, these make a map that holds the registrations of the owners. -/
  executed : ∀ key,
    heldAfter Registration.key (registered.map (Registration.ofCandidate settings)) key =
      (owner key).map (Registration.ofCandidate settings)
  /-- Candidates of one name have the same registration: it is that of the owner which is held. -/
  heldByOwner : ∀ key, heldAfter Candidate.key registered key = owner key
  owned : ∀ key, (owner key).isSome ↔ key ∈ candidates.map Candidate.key
  ownerIsLast : ∀ key candidate,
    owner key = some candidate ↔ Candidate.IsLastOf candidates key candidate
  reported : artifact.collisions = takeovers.map Takeover.collision
  sorted : (takeovers.map Takeover.kept).Sublist registered
  /-- The takeovers of a key link each candidate that has it to the next one. -/
  linked : ∀ key, takeovers.filter (fun takeover => takeover.kept.key = key) =
    Candidate.chain (Candidate.sharing key registered)
  counted : ∀ key, (artifact.collisions.filter fun collision => collision.key = key).length =
    (Candidate.sharing key candidates).length - 1
  /-- Every candidate that does not hold its key is shadowed once, and no other one ever is. -/
  shadowed : ∀ candidate ∈ candidates, (takeovers.map Takeover.shadowed).count candidate =
    if owner candidate.key = some candidate then 0 else 1
  lastByOwner : ∀ key takeover,
    (takeovers.filter fun takeover => takeover.kept.key = key).getLast? = some takeover →
      owner key = some takeover.kept

/-- An artifact registers what its collisions report. For whatever is found in files, the text has
one statement for every candidate, in a strict order of names and modules; the map that these make
holds exactly the keys of the candidates, each for the last candidate that has it; and the
collisions of a key link each candidate that has it to the next one, up to the one that holds it. -/
theorem Artifact.registers_as_reported {settings : ArtifactSettings} {files : List ExaminedFile}
    {instant : Instant} {artifact : Artifact}
    (rendered : render settings (Aggregation.ofFiles files) instant = .ok artifact) :
    ∃ registered takeovers owner, artifact.RegistersAsReported settings
      (Aggregation.ofFiles files).candidates registered takeovers owner := by
  rcases render_eq_ok.1 rendered with ⟨_, _, rfl⟩
  have distinct := Aggregation.nodup_id_ofFiles files
  generalize Aggregation.ofFiles files = aggregation at distinct
  rcases ArtifactSource.factoryFunction_infix_text settings aggregation instant with
    ⟨before, after, split⟩
  have perm : (Candidate.sorted aggregation.candidates).Perm aggregation.candidates :=
    List.mergeSort_perm _ _
  have increasing := Candidate.pairwise_before_sorted distinct
  have nodup := perm.nodup_iff.2 (List.Nodup.of_map _ distinct)
  generalize Candidate.sorted aggregation.candidates = registered at *
  exact ⟨registered, Candidate.takeovers registered, fun key => Candidate.lastOf? key registered, {
    complete := perm
    increasing := increasing
    statements := by
      refine ⟨before, registered.map (ArtifactSource.insertStatement settings), after, ?_, ?_⟩
      · rw [split, String.toList_ofList]
      · rw [List.map_map, List.map_map]
        exact List.map_congr_left fun candidate _ =>
          Registration.read?_insertStatement settings candidate
    executed := fun key =>
      (heldAfter_map (fun _ => rfl) registered key).trans
        (congrArg _ (heldAfter_eq Candidate.key registered key))
    heldByOwner := heldAfter_eq Candidate.key registered
    owned := fun key => Candidate.isSome_lastOf?.trans (perm.map Candidate.key).mem_iff
    ownerIsLast := fun key candidate =>
      (Candidate.lastOf?_eq_some increasing).trans (Candidate.isLastOf_congr perm)
    reported := Candidate.collisions_eq registered
    sorted := Candidate.map_kept_takeovers_sublist registered
    linked := Candidate.filter_takeovers registered
    counted := fun key =>
      (Candidate.length_filter_collisions registered key).trans
        (congrArg (· - 1) (perm.filter _).length_eq)
    shadowed := fun candidate member =>
      Candidate.count_map_shadowed nodup (perm.mem_iff.2 member)
    lastByOwner := fun key takeover => Candidate.lastOf?_of_takeover }⟩

namespace Sample

/-- A file with three declarations that have one key. Two of these are given the name of the first
one as their key. -/
def contested : List ExaminedFile :=
  [⟨⟨"src/lib.rs"⟩, .scanned ⟨"crate", [.qualifies ⟨"Gamma", "crate", ""⟩,
    .qualifies ⟨"Alpha", "crate", "Gamma"⟩, .qualifies ⟨"Beta", "crate", "Gamma"⟩], [], []⟩⟩]

/-- The three candidates in the order in which they are registered. -/
def contestants : List Candidate :=
  [⟨"Alpha", "crate", "Gamma"⟩, ⟨"Beta", "crate", "Gamma"⟩, ⟨"Gamma", "crate", ""⟩]

theorem sorted_contested :
    Candidate.sorted (Aggregation.ofFiles contested).candidates = contestants := by
  have perm : (Aggregation.ofFiles contested).candidates.Perm contestants := by decide
  rw [Candidate.sorted_eq_of_perm perm (Aggregation.nodup_id_ofFiles _)]
  exact List.mergeSort_of_pairwise (by decide)

theorem render_contested :
    Artifact.render .standard (Aggregation.ofFiles contested) ⟨0, 0⟩ =
      .ok ⟨String.ofList (ArtifactSource.text .standard (Aggregation.ofFiles contested) ⟨0, 0⟩),
        [⟨"Gamma", "crate::Beta", "crate::Alpha"⟩, ⟨"Gamma", "crate::Gamma", "crate::Beta"⟩]⟩ := by
  apply Artifact.render_eq_ok.2
  refine ⟨by decide, ?_, ?_⟩
  · unfold ArtifactSource.text ArtifactSource.body
    rw [sorted_contested]
    decide +kernel
  · rw [sorted_contested]
    congr 1

/-- The three declarations are registered as the two collisions among them tell. -/
theorem registers_as_reported_contested :
    ∃ artifact, Artifact.render .standard (Aggregation.ofFiles contested) ⟨0, 0⟩ = .ok artifact ∧
      ∃ registered takeovers owner, artifact.RegistersAsReported .standard
        (Aggregation.ofFiles contested).candidates registered takeovers owner :=
  ⟨_, render_contested, Artifact.registers_as_reported render_contested⟩

end Sample

end Registrar
