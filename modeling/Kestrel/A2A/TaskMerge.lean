import Kestrel.A2A.TaskOutcome
import Kestrel.Base.Rows
import Kestrel.Base.ThreeWay
import Mathlib.Data.List.Perm.Subperm
import Mathlib.Data.Option.Basic

/-!
# What the merge keeps, and when it refuses

A merge extends the history and the artifact list of the row it is applied to. It decides every
artifact, message and metadata key by itself, as a three-way choice, so that it can be repeated and two
handlers whose changes agree can be merged in either order. It refuses an outcome that extends its own
baseline only where the row disagrees with both.
-/

namespace Kestrel.A2A

open Except List Artifact Message

section Index

variable {Item : Type} {name : String} {identity : Item → String}

theorem Identified.nil : Identified identity [] :=
  ⟨fun _ impossible => (nomatch impossible), nodup_nil⟩

theorem Identified.append_singleton {items : List Item} {item : Item}
    (identified : Identified identity items) (present : identity item ≠ "")
    (fresh : identity item ∉ items.map identity) : Identified identity (items ++ [item]) := by
  refine ⟨?_, ?_⟩
  · intro other member
    obtain member | last := mem_append.mp member
    · exact identified.present other member
    · rw [mem_singleton.mp last]
      exact present
  · refine Rows.nodup_append identified.nodup ?_
    intro other member same
    exact fresh (mem_map.mpr ⟨other, member, same⟩)

theorem lookup_indexed (items : List Item) (key : String) :
    (items.map fun item => (identity item, item)).lookup key =
      items.find? fun item => identity item = key := by
  induction items with
  | nil => rfl
  | cons item items ih =>
    rw [map_cons, lookup_cons, find?_cons, ih]
    by_cases same : identity item = key
    · simp [same]
    · have other : (key == identity item) = false := beq_false_of_ne (Ne.symm same)
      simp [same, other]

theorem find?_identity_eq_none {items : List Item} {key : String} :
    items.find? (fun item => identity item = key) = none ↔ key ∉ items.map identity := by
  simp [find?_eq_none]

theorem index_eq_ok {items : List Item} {indexed : List (String × Item)} :
    index name identity items = .ok indexed ↔
      Identified identity items ∧ indexed = items.map fun item => (identity item, item) := by
  constructor
  · intro folded
    refine @foldlM_induction _ _ _ _ (fun processed indexed =>
      Identified identity processed ∧ indexed = processed.map fun item => (identity item, item))
      _ _ ?_ ⟨.nil, rfl⟩ _ folded
    intro processed item _ middle after _ _ held stepped
    obtain ⟨identified, rfl⟩ := held
    split_ifs at stepped with refused
    · rw [not_or, lookup_indexed, Option.not_isSome_iff_eq_none, find?_identity_eq_none] at refused
      obtain rfl := ok.inj stepped
      exact ⟨identified.append_singleton refused.1 refused.2, by simp⟩
  · intro valid
    obtain ⟨identified, rfl⟩ := valid
    refine foldlM_collects ?_
    intro before item after split
    have present := identified.present item (by simp [split])
    have fresh : identity item ∉ before.map identity := by
      have nodup := identified.nodup
      rw [split, map_append, nodup_append] at nodup
      exact fun member => nodup.2.2 _ member _ mem_cons_self rfl
    rw [if_neg]
    · simp
    · rw [lookup_indexed, not_or, Option.not_isSome_iff_eq_none, find?_identity_eq_none]
      exact ⟨present, fresh⟩

end Index

/-! ## Artifacts -/

def TaskRecord.artifact (task : TaskRecord) (artifactId : String) : Option Artifact :=
  task.artifacts.find? fun artifact => artifact.artifactId = artifactId

/-- The merged artifacts after some of the outcome's: the row's identities come first, and each
artifact is one of the row's or one of those. -/
structure ArtifactsMerged (current processed merged : List Artifact) : Prop where
  extended : current.map Artifact.artifactId <+: merged.map Artifact.artifactId
  nodup : (merged.map Artifact.artifactId).Nodup
  known : ∀ artifact ∈ merged, artifact ∈ current ∨ artifact ∈ processed

/-- The index that the merge reads. -/
def indexedArtifacts (artifacts : List Artifact) : List (String × Artifact) :=
  artifacts.map fun artifact => (artifact.artifactId, artifact)

section Artifacts

variable {current baseline processed merged after : List Artifact} {wanted : Artifact}

theorem map_artifactId_replace (merged : List Artifact) (wanted : Artifact) :
    (merged.map fun artifact =>
        if artifact.artifactId = wanted.artifactId then wanted else artifact).map
      artifactId = merged.map artifactId := by
  rw [map_map]
  refine map_congr_left ?_
  intro artifact _
  by_cases same : artifact.artifactId = wanted.artifactId
  · simp [same]
  · simp [same]

theorem ArtifactsMerged.step (held : ArtifactsMerged current processed merged)
    (fresh : wanted.artifactId ∉ processed.map artifactId)
    (stepped : mergeArtifact (indexedArtifacts baseline) (indexedArtifacts current) merged wanted =
      .ok after) : ArtifactsMerged current (processed ++ [wanted]) after := by
  unfold mergeArtifact indexedArtifacts at stepped
  simp only [lookup_indexed] at stepped
  have widened : ∀ artifact ∈ merged, artifact ∈ current ∨ artifact ∈ processed ++ [wanted] :=
    fun artifact member =>
      (held.known artifact member).imp_right fun known => mem_append_left _ known
  split_ifs at stepped with unchanged conflict present
  · obtain rfl := ok.inj stepped
    exact ⟨held.extended, held.nodup, widened⟩
  · obtain rfl := ok.inj stepped
    refine ⟨?_, ?_, ?_⟩
    · rw [map_artifactId_replace]
      exact held.extended
    · rw [map_artifactId_replace]
      exact held.nodup
    · intro artifact member
      obtain ⟨old, stored, rfl⟩ := mem_map.mp member
      split_ifs
      · exact .inr (by simp)
      · exact widened old stored
  · obtain rfl := ok.inj stepped
    rw [Option.not_isSome_iff_eq_none, find?_identity_eq_none] at present
    refine ⟨?_, Rows.nodup_append held.nodup ?_, ?_⟩
    · rw [map_append]
      exact held.extended.trans (prefix_append _ _)
    · intro artifact member same
      obtain stored | stored := held.known artifact member
      · exact present (mem_map.mpr ⟨artifact, stored, same⟩)
      · exact fresh (mem_map.mpr ⟨artifact, stored, same⟩)
    · intro artifact member
      obtain member | last := mem_append.mp member
      · exact widened artifact member
      · exact .inr (mem_append_right _ last)

theorem ArtifactsMerged.pass {wanted : List Artifact}
    (currentNodup : (current.map artifactId).Nodup)
    (wantedNodup : (wanted.map artifactId).Nodup)
    (folded : wanted.foldlM (mergeArtifact (indexedArtifacts baseline) (indexedArtifacts current))
      current = .ok after) : ArtifactsMerged current wanted after := by
  refine @foldlM_induction _ _ _ _ (ArtifactsMerged current) _ _ ?_
    ⟨prefix_rfl, currentNodup, fun _ member => .inl member⟩ _ folded
  intro processed value rest middle after split _ held stepped
  refine held.step ?_ stepped
  rw [split, map_append, nodup_append] at wantedNodup
  exact fun member => wantedNodup.2.2 _ member _ mem_cons_self rfl

theorem exists_mergeArtifact
    (agrees : baseline.find? (fun artifact => artifact.artifactId = wanted.artifactId) =
        some wanted ∨
      current.find? (fun artifact => artifact.artifactId = wanted.artifactId) =
        baseline.find? (fun artifact => artifact.artifactId = wanted.artifactId) ∨
      current.find? (fun artifact => artifact.artifactId = wanted.artifactId) = some wanted) :
    ∃ next, mergeArtifact (indexedArtifacts baseline) (indexedArtifacts current) merged wanted =
      .ok next := by
  unfold mergeArtifact indexedArtifacts
  simp only [lookup_indexed]
  split_ifs with unchanged conflict present
  · exact ⟨merged, rfl⟩
  · obtain agrees | agrees | agrees := agrees
    · exact absurd agrees unchanged
    · exact absurd agrees conflict.1
    · exact absurd agrees conflict.2
  · exact ⟨_, rfl⟩
  · exact ⟨_, rfl⟩

end Artifacts

/-! ## Messages -/

structure HistoryMerged (current processed : List Message)
    (merged : List Message × List (String × Message)) : Prop where
  indexed : merged.2 = merged.1.map fun message => (message.messageId, message)
  extended : current <+: merged.1
  identified : Identified Message.messageId merged.1
  known : ∀ message ∈ merged.1, message ∈ current ∨ message ∈ processed

section History

variable {current processed : List Message} {message : Message}
  {merged after : List Message × List (String × Message)}

theorem HistoryMerged.initial (identified : Identified messageId current) :
    HistoryMerged current [] (current, current.map fun message => (message.messageId, message)) :=
  ⟨rfl, prefix_rfl, identified, fun _ member => .inl member⟩

theorem HistoryMerged.step (held : HistoryMerged current processed merged)
    (present : message.messageId ≠ "") (stepped : mergeMessage merged message = .ok after) :
    HistoryMerged current (processed ++ [message]) after := by
  unfold mergeMessage at stepped
  simp only [held.indexed, lookup_indexed] at stepped
  have widened : ∀ other ∈ merged.1, other ∈ current ∨ other ∈ processed ++ [message] :=
    fun other member =>
      (held.known other member).imp_right fun known => mem_append_left _ known
  split_ifs at stepped with conflict fresh
  · obtain rfl := ok.inj stepped
    rw [find?_identity_eq_none] at fresh
    refine ⟨by simp, held.extended.trans (prefix_append _ _),
      held.identified.append_singleton present fresh, ?_⟩
    intro other member
    obtain member | last := mem_append.mp member
    · exact widened other member
    · exact .inr (mem_append_right _ last)
  · obtain rfl := ok.inj stepped
    exact ⟨held.indexed, held.extended, held.identified, widened⟩

theorem HistoryMerged.pass {added : List Message}
    (identified : Identified messageId current)
    (present : ∀ message ∈ added, message.messageId ≠ "")
    (folded : added.foldlM mergeMessage
      (current, current.map fun message => (message.messageId, message)) = .ok after) :
    HistoryMerged current added after := by
  refine @foldlM_induction _ _ _ _ (HistoryMerged current) _ _ ?_ (.initial identified) _ folded
  intro processed value rest middle after split _ held stepped
  exact held.step (present value (by simp [split])) stepped

theorem HistoryMerged.exists_step (held : HistoryMerged current processed merged)
    (present : message.messageId ≠ "")
    (fresh : message.messageId ∉ processed.map messageId)
    (uncrossed : ∀ other ∈ current, other.messageId = message.messageId → other = message) :
    ∃ next, mergeMessage merged message = .ok next ∧
      HistoryMerged current (processed ++ [message]) next := by
  have merges : ∃ next, mergeMessage merged message = .ok next := by
    unfold mergeMessage
    simp only [held.indexed, lookup_indexed]
    split_ifs with conflict
    · obtain ⟨other, found⟩ := Option.ne_none_iff_exists'.mp conflict.1
      have same : other.messageId = message.messageId := by simpa using find?_some found
      obtain stored | stored := held.known other (mem_of_find?_eq_some found)
      · exact absurd (found.trans (congrArg some (uncrossed other stored same))) conflict.2
      · exact absurd (mem_map.mpr ⟨other, stored, same⟩) fresh
    · exact ⟨_, rfl⟩
    · exact ⟨_, rfl⟩
  obtain ⟨next, stepped⟩ := merges
  exact ⟨next, stepped, held.step present stepped⟩

end History

theorem exists_mergeField {current baseline outcome : Metadata} {merged : Option Metadata}
    {key : String}
    (agrees : baseline.lookup key = outcome.lookup key ∨
      current.lookup key = baseline.lookup key ∨ current.lookup key = outcome.lookup key) :
    ∃ next, mergeField current baseline outcome merged key = .ok next := by
  unfold mergeField
  dsimp only
  split_ifs with unchanged conflict
  · exact ⟨merged, rfl⟩
  · obtain agrees | agrees | agrees := agrees
    · exact absurd agrees unchanged
    · exact absurd agrees conflict.1
    · exact absurd agrees conflict.2
  · cases outcome.lookup key with
    | none | some value => exact ⟨_, rfl⟩

/-! ## The whole merge -/

/-- What a merge keeps of the row it is applied to. -/
structure Merged (current outcome after : TaskRecord) : Prop where
  id : after.id = current.id
  contextId : after.contextId = current.contextId
  status : after.status = outcome.status
  history : current.history <+: after.history
  messages : Identified Message.messageId after.history
  messagesKnown : ∀ message ∈ after.history,
    message ∈ current.history ∨ message ∈ outcome.history
  artifacts : ArtifactsMerged current.artifacts outcome.artifacts after.artifacts

theorem map_snd_indexed {Item : Type} (identity : Item → String) (items : List Item) :
    (items.map fun item => (identity item, item)).map Prod.snd = items := by
  rw [map_map]
  exact map_id items

theorem map_fst_indexed {Item : Type} (identity : Item → String) (items : List Item) :
    (items.map fun item => (identity item, item)).map Prod.fst = items.map identity := by
  simp

theorem Merged.of_merge {current baseline outcome after : TaskRecord}
    (merged : mergeTaskOutcome current baseline outcome = .ok after) :
    Merged current outcome after := by
  unfold mergeTaskOutcome at merged
  obtain ⟨_, merged⟩ := require_bind_eq_ok.mp merged
  obtain ⟨baselineArtifacts, baselineIndexed, merged⟩ := bind_eq_ok.mp merged
  obtain ⟨currentArtifacts, currentIndexed, merged⟩ := bind_eq_ok.mp merged
  obtain ⟨outcomeArtifacts, outcomeIndexed, merged⟩ := bind_eq_ok.mp merged
  obtain ⟨_, merged⟩ := require_bind_eq_ok.mp merged
  obtain ⟨artifacts, artifactsFolded, merged⟩ := bind_eq_ok.mp merged
  obtain ⟨_, merged⟩ := require_bind_eq_ok.mp merged
  obtain ⟨messages, messagesIndexed, merged⟩ := bind_eq_ok.mp merged
  obtain ⟨outcomeMessages, outcomeMessagesIndexed, merged⟩ := bind_eq_ok.mp merged
  obtain ⟨history, historyFolded, merged⟩ := bind_eq_ok.mp merged
  obtain ⟨metadata, _, merged⟩ := bind_eq_ok.mp merged
  obtain rfl := ok.inj merged
  obtain ⟨_, rfl⟩ := index_eq_ok.mp baselineIndexed
  obtain ⟨currentIdentified, rfl⟩ := index_eq_ok.mp currentIndexed
  obtain ⟨outcomeIdentified, rfl⟩ := index_eq_ok.mp outcomeIndexed
  obtain ⟨messagesIdentified, rfl⟩ := index_eq_ok.mp messagesIndexed
  obtain ⟨outcomeMessagesIdentified, _⟩ := index_eq_ok.mp outcomeMessagesIndexed
  rw [map_snd_indexed] at artifactsFolded
  have histories := HistoryMerged.pass messagesIdentified (fun message member =>
      outcomeMessagesIdentified.present message (mem_of_mem_drop member)) historyFolded
  exact {
    id := rfl
    contextId := rfl
    status := rfl
    history := histories.extended
    messages := histories.identified
    messagesKnown := fun message member =>
      (histories.known message member).imp_right mem_of_mem_drop
    artifacts := .pass currentIdentified.nodup outcomeIdentified.nodup artifactsFolded }

/-- An outcome that adds to its baseline and removes nothing. -/
structure TaskRecord.Extends (baseline outcome : TaskRecord) : Prop where
  id : outcome.id = baseline.id
  contextId : outcome.contextId = baseline.contextId
  history : baseline.history <+: outcome.history
  artifacts : ∀ artifact ∈ baseline.artifacts,
    artifact.artifactId ∈ outcome.artifacts.map Artifact.artifactId
  messagesIdentified : Identified Message.messageId outcome.history
  artifactsIdentified : Identified Artifact.artifactId outcome.artifacts

/-- The messages of an outcome share no identity with another message of the row. -/
def Uncrossed (current outcome : TaskRecord) : Prop :=
  ∀ message ∈ outcome.history, ∀ other ∈ current.history,
    other.messageId = message.messageId → other = message

/-- The row and the outcome each changed an artifact or a metadata key of the baseline, and not to
the same value. -/
def Contested (current baseline outcome : TaskRecord) : Prop :=
  (∃ artifactId, outcome.artifact artifactId ≠ baseline.artifact artifactId ∧
    current.artifact artifactId ≠ baseline.artifact artifactId ∧
    current.artifact artifactId ≠ outcome.artifact artifactId) ∨
  ∃ key, outcome.fields.lookup key ≠ baseline.fields.lookup key ∧
    current.fields.lookup key ≠ baseline.fields.lookup key ∧
    current.fields.lookup key ≠ outcome.fields.lookup key

/-- An outcome that extends an earlier state of a row is merged into it, unless it is contested. -/
theorem TaskRecord.Extends.merge_or_contested {current baseline outcome : TaskRecord}
    (extension : TaskRecord.Extends baseline outcome) (sameId : current.id = baseline.id)
    (sameContext : current.contextId = baseline.contextId)
    (continued : baseline.history <+: current.history)
    (messages : Identified messageId current.history)
    (currentArtifacts : Identified artifactId current.artifacts)
    (baselineArtifacts : Identified artifactId baseline.artifacts)
    (uncrossed : Uncrossed current outcome) :
    (∃ after, mergeTaskOutcome current baseline outcome = .ok after) ∨
      Contested current baseline outcome := by
  by_cases contested : Contested current baseline outcome
  · exact .inr contested
  left
  obtain ⟨noArtifact, noField⟩ := not_or.mp contested
  have artifactAgrees : ∀ wanted ∈ outcome.artifacts, ∀ merged, ∃ next,
      mergeArtifact (indexedArtifacts baseline.artifacts) (indexedArtifacts current.artifacts)
        merged wanted = .ok next := by
    intro wanted member merged
    have proposed : outcome.artifact wanted.artifactId = some wanted :=
      (Rows.find?_eq_some_iff extension.artifactsIdentified.nodup).mpr ⟨member, rfl⟩
    refine exists_mergeArtifact ?_
    by_contra disagrees
    obtain ⟨changed, disagrees⟩ := not_or.mp disagrees
    obtain ⟨moved, other⟩ := not_or.mp disagrees
    refine noArtifact ⟨wanted.artifactId, ?_, moved, ?_⟩
    · rw [proposed]
      exact Ne.symm changed
    · rw [proposed]
      exact other
  have fieldAgrees : ∀ key merged, ∃ next,
      mergeField current.fields baseline.fields outcome.fields merged key = .ok next := by
    intro key merged
    refine exists_mergeField ?_
    by_contra disagrees
    obtain ⟨changed, disagrees⟩ := not_or.mp disagrees
    obtain ⟨moved, other⟩ := not_or.mp disagrees
    exact noField ⟨key, Ne.symm changed, moved, other⟩
  obtain ⟨artifacts, artifactsFolded, _⟩ : ∃ artifacts, outcome.artifacts.foldlM
      (mergeArtifact (indexedArtifacts baseline.artifacts) (indexedArtifacts current.artifacts))
      current.artifacts = .ok artifacts ∧ True := by
    refine exists_foldlM_eq_ok (fun _ _ => True) _ trivial ?_
    intro processed wanted rest state split _
    obtain ⟨next, stepped⟩ := artifactAgrees wanted (by simp [split]) state
    exact ⟨next, stepped, trivial⟩
  obtain ⟨metadata, metadataFolded, _⟩ : ∃ metadata,
      (baseline.fields.map Prod.fst ++ outcome.fields.map Prod.fst).dedup.foldlM
        (mergeField current.fields baseline.fields outcome.fields) current.metadata =
          .ok metadata ∧ True := by
    refine exists_foldlM_eq_ok (fun _ _ => True) _ trivial ?_
    intro _ key _ state _ _
    obtain ⟨next, stepped⟩ := fieldAgrees key state
    exact ⟨next, stepped, trivial⟩
  have addedFresh : ∀ processed message rest,
      outcome.history.drop baseline.history.length = processed ++ message :: rest →
      message.messageId ∉ processed.map messageId := by
    intro processed message rest split member
    have nodup := extension.messagesIdentified.nodup
    rw [← take_append_drop baseline.history.length outcome.history, map_append, split,
      map_append] at nodup
    exact (nodup_append.mp (nodup_append.mp nodup).2.1).2.2 _ member _ mem_cons_self rfl
  obtain ⟨history, historyFolded, _⟩ :=
    exists_foldlM_eq_ok (HistoryMerged current.history)
      (outcome.history.drop baseline.history.length) (.initial messages)
      fun processed message rest state split held => by
        have added : message ∈ outcome.history.drop baseline.history.length := by
          rw [split]
          exact mem_append_right processed mem_cons_self
        have member := mem_of_mem_drop added
        exact held.exists_step (extension.messagesIdentified.present message member)
          (addedFresh processed message rest split) (uncrossed message member)
  refine ⟨{ current with
    status := outcome.status
    artifacts
    history := history.1
    metadata := mergePresence baseline.metadata outcome.metadata metadata }, ?_⟩
  unfold mergeTaskOutcome
  rw [require_bind_eq_ok]
  refine ⟨⟨by rw [sameId, sameContext], by rw [extension.id, extension.contextId]⟩, ?_⟩
  rw [bind_eq_ok]
  refine ⟨_, index_eq_ok.mpr ⟨baselineArtifacts, rfl⟩, bind_eq_ok.mpr
    ⟨_, index_eq_ok.mpr ⟨currentArtifacts, rfl⟩, bind_eq_ok.mpr
      ⟨_, index_eq_ok.mpr ⟨extension.artifactsIdentified, rfl⟩,
        require_bind_eq_ok.mpr ⟨?_, bind_eq_ok.mpr ⟨artifacts, ?_,
          require_bind_eq_ok.mpr ⟨?_, bind_eq_ok.mpr
            ⟨_, index_eq_ok.mpr ⟨messages, rfl⟩, bind_eq_ok.mpr
              ⟨_, index_eq_ok.mpr ⟨extension.messagesIdentified, rfl⟩, bind_eq_ok.mpr
                ⟨history, historyFolded, bind_eq_ok.mpr ⟨metadata, metadataFolded, rfl⟩⟩⟩⟩⟩⟩⟩⟩⟩⟩
  · intro indexed member
    obtain ⟨artifact, stored, rfl⟩ := mem_map.mp member
    rw [map_fst_indexed]
    exact extension.artifacts artifact stored
  · rw [map_snd_indexed]
    exact artifactsFolded
  · exact ⟨(prefix_iff_eq_take.mp continued).symm, (prefix_iff_eq_take.mp extension.history).symm⟩

/-! ## Merging by key -/

section Delta

open ThreeWay

variable {current baseline outcome first second merged after one two : TaskRecord}

/-- No artifact or metadata key was changed on both sides to different values, and no two messages
share an identity. -/
structure Uncontested (current baseline outcome : TaskRecord) : Prop where
  artifacts : ∀ artifactId, ¬ Conflict (current.artifact artifactId)
    (baseline.artifact artifactId) (outcome.artifact artifactId)
  messages : Uncrossed current outcome
  fields : ∀ key, ¬ Conflict (current.fields.lookup key)
    (baseline.fields.lookup key) (outcome.fields.lookup key)

/-- The row and the outcome extend the baseline, and neither undoes what the other did. -/
structure Mergeable (current baseline outcome : TaskRecord) : Prop where
  sameId : current.id = baseline.id
  sameContext : current.contextId = baseline.contextId
  continued : baseline.history <+: current.history
  messages : Identified messageId current.history
  currentArtifacts : Identified artifactId current.artifacts
  baselineArtifacts : Identified artifactId baseline.artifacts
  extension : TaskRecord.Extends baseline outcome
  uncontested : Uncontested current baseline outcome

/-- Every key has the value of the three-way choice, and no message is lost. -/
structure Chosen (current baseline outcome after : TaskRecord) : Prop where
  artifacts : ∀ artifactId, after.artifact artifactId = choice (current.artifact artifactId)
    (baseline.artifact artifactId) (outcome.artifact artifactId)
  messages : ∀ message, message ∈ after.history ↔
    message ∈ current.history ∨ message ∈ outcome.history
  fields : ∀ key, after.fields.lookup key = choice (current.fields.lookup key)
    (baseline.fields.lookup key) (outcome.fields.lookup key)

section Lookup

variable {Item : Type} {identity : Item → String} {items shorter longer : List Item} {key : String}

theorem find?_replaced {wanted : Item} (stored : identity wanted ∈ items.map identity) :
    (items.map fun item => if identity item = identity wanted then wanted else item).find?
        (fun item => identity item = key) =
      if key = identity wanted then some wanted
      else items.find? fun item => identity item = key := by
  have same : ((fun item => decide (identity item = key)) ∘ fun item =>
      if identity item = identity wanted then wanted else item) =
        fun item => decide (identity item = key) := by
    funext item
    by_cases replaced : identity item = identity wanted
    · simp [replaced]
    · simp [replaced]
  rw [find?_map, same]
  split_ifs with replaced
  · subst replaced
    obtain ⟨item, found⟩ :=
      Option.ne_none_iff_exists'.mp (mt find?_identity_eq_none.mp (not_not.mpr stored))
    have named : identity item = identity wanted := by simpa using find?_some found
    rw [found, Option.map_some, if_pos named]
  · cases found : items.find? fun item => identity item = key with
    | none => rfl
    | some item =>
      have named : identity item = key := by simpa using find?_some found
      rw [Option.map_some, if_neg (named ▸ replaced)]

theorem find?_added {wanted : Item} (fresh : identity wanted ∉ items.map identity) :
    (items ++ [wanted]).find? (fun item => identity item = key) =
      if key = identity wanted then some wanted
      else items.find? fun item => identity item = key := by
  rw [find?_append]
  split_ifs with added
  · subst added
    rw [find?_identity_eq_none.mpr fresh]
    simp
  · simp [Ne.symm added]

theorem lookup_filter {Value : Type} (fields : List (String × Value)) (removed : String) :
    (fields.filter fun field => field.1 ≠ removed).lookup key =
      if key = removed then none else fields.lookup key := by
  induction fields with
  | nil => simp
  | cons field fields ih =>
    obtain ⟨name, value⟩ := field
    by_cases dropped : name = removed
    · subst dropped
      rw [filter_cons_of_neg (by simp), ih, lookup_cons]
      by_cases same : key = name
      · simp [same]
      · simp [same, beq_false_of_ne same]
    · rw [filter_cons_of_pos (by simpa using dropped), lookup_cons, lookup_cons, ih]
      by_cases same : key = name
      · simp [same, dropped]
      · simp [beq_false_of_ne same]

/-- Items that extend others by no new key are the same items. -/
theorem eq_of_extended (extended : shorter.map identity <+: longer.map identity)
    (nodup : (longer.map identity).Nodup)
    (same : ∀ key, longer.find? (fun item => identity item = key) =
      shorter.find? fun item => identity item = key) : longer = shorter := by
  have found {listed : List Item} (distinct : (listed.map identity).Nodup) :
      listed.map some = (listed.map identity).map fun key =>
        listed.find? fun item => identity item = key := by
    rw [map_map]
    refine map_congr_left ?_
    intro item member
    exact ((Rows.find?_eq_some_iff distinct).mpr ⟨member, rfl⟩).symm
  obtain ⟨added, split⟩ := extended
  have none : added = [] := by
    refine eq_nil_iff_forall_not_mem.mpr ?_
    intro key member
    have present : key ∈ longer.map identity := split ▸ mem_append_right _ member
    refine mt find?_identity_eq_none.mp (not_not.mpr present) ?_
    rw [same, find?_identity_eq_none]
    rw [← split, nodup_append] at nodup
    exact fun stored => nodup.2.2 _ stored _ member rfl
  rw [none, append_nil] at split
  refine map_injective_iff.mpr (Option.some_injective Item) ?_
  rw [found nodup, found (split ▸ nodup), split]
  exact map_congr_left fun key _ => same key

end Lookup

section Passes

theorem choose_artifacts {current baseline outcome after : List Artifact}
    (nodup : (outcome.map artifactId).Nodup)
    (kept : ∀ artifact ∈ baseline, artifact.artifactId ∈ outcome.map artifactId)
    (folded : outcome.foldlM
      (mergeArtifact (indexedArtifacts baseline) (indexedArtifacts current)) current = .ok after)
    (key : String) :
    let find := fun (artifacts : List Artifact) =>
      artifacts.find? fun artifact => artifact.artifactId = key
    ¬ Conflict (find current) (find baseline) (find outcome) ∧
      find after = choice (find current) (find baseline) (find outcome) := by
  let find := fun (artifacts : List Artifact) key =>
    artifacts.find? fun artifact => artifact.artifactId = key
  refine fold artifactId find (find current) (find baseline) (find outcome) ?_ nodup ?_
    (fun _ => rfl) folded key
  · intro wanted member state next unsettled stepped
    have proposed : find outcome wanted.artifactId = some wanted :=
      (Rows.find?_eq_some_iff nodup).mpr ⟨member, rfl⟩
    unfold mergeArtifact indexedArtifacts at stepped
    simp only [lookup_indexed] at stepped
    split_ifs at stepped with unchanged clash present
    · obtain rfl := ok.inj stepped
      have same := proposed.trans unchanged.symm
      refine ⟨fun conflict => conflict.1 same, ?_⟩
      intro other
      split_ifs with here
      · subst here
        exact unsettled.trans (if_pos same).symm
      · rfl
    all_goals
      obtain rfl := ok.inj stepped
      have chosen : choice (find current wanted.artifactId) (find baseline wanted.artifactId)
          (find outcome wanted.artifactId) = some wanted := by
        rw [choice, proposed, if_neg (Ne.symm unchanged)]
      refine ⟨fun conflict => clash ⟨conflict.2.1, proposed ▸ conflict.2.2⟩, ?_⟩
      intro other
    · have stored : wanted.artifactId ∈ state.map artifactId := by
        by_contra absent
        have missing := unsettled.symm.trans (find?_identity_eq_none.mpr absent)
        exact Option.not_isSome_iff_eq_none.mpr missing present
      refine (find?_replaced stored).trans ?_
      split_ifs with here
      · rw [here, chosen]
      · rfl
    · have fresh : wanted.artifactId ∉ state.map artifactId := by
        rw [← find?_identity_eq_none]
        exact unsettled.trans (Option.not_isSome_iff_eq_none.mp present)
      refine (find?_added fresh).trans ?_
      split_ifs with here
      · rw [here, chosen]
      · rfl
  · intro other unnamed
    refine (find?_identity_eq_none.mpr unnamed).trans (find?_identity_eq_none.mpr ?_).symm
    intro stored
    obtain ⟨artifact, member, rfl⟩ := mem_map.mp stored
    exact unnamed (kept artifact member)

/-- Every message that the pass goes through is in the merged history. -/
theorem HistoryMerged.takes {current added : List Message}
    {after : List Message × List (String × Message)} (identified : Identified messageId current)
    (present : ∀ message ∈ added, message.messageId ≠ "")
    (folded : added.foldlM mergeMessage
      (current, current.map fun message => (message.messageId, message)) = .ok after) :
    ∀ message ∈ added, message ∈ after.1 := by
  refine (@foldlM_induction _ _ _ _ (fun processed merged => HistoryMerged current processed merged ∧
    ∀ message ∈ processed, message ∈ merged.1) _ _ ?_ ⟨.initial identified, by simp⟩ _ folded).2
  intro processed message rest merged next split _ held stepped
  obtain ⟨held, taken⟩ := held
  refine ⟨held.step (present message (by simp [split])) stepped, ?_⟩
  unfold mergeMessage at stepped
  simp only [held.indexed, lookup_indexed] at stepped
  intro other member
  rw [mem_append, mem_singleton] at member
  split_ifs at stepped with clash fresh
  · obtain rfl := ok.inj stepped
    exact mem_append.mpr (member.imp (taken other) mem_singleton.mpr)
  · obtain rfl := ok.inj stepped
    obtain earlier | rfl := member
    · exact taken other earlier
    · exact mem_of_find?_eq_some (not_not.mp fun distinct => clash ⟨fresh, distinct⟩)

theorem choose_fields {current baseline outcome : Metadata} {before after : Option Metadata}
    (started : before.getD [] = current)
    (folded : (baseline.map Prod.fst ++ outcome.map Prod.fst).dedup.foldlM
      (mergeField current baseline outcome) before = .ok after) (key : String) :
    ¬ Conflict (current.lookup key) (baseline.lookup key) (outcome.lookup key) ∧
      (after.getD []).lookup key =
        choice (current.lookup key) (baseline.lookup key) (outcome.lookup key) := by
  refine fold id (fun (state : Option Metadata) key => (state.getD []).lookup key)
    (fun key => current.lookup key) (fun key => baseline.lookup key)
    (fun key => outcome.lookup key) ?_ (by simpa using nodup_dedup _) ?_
    (fun _ => by rw [started]) folded key
  · intro name _ state next unsettled stepped
    unfold mergeField at stepped
    dsimp only [id] at stepped unsettled ⊢
    split_ifs at stepped with unchanged clash
    · obtain rfl := ok.inj stepped
      refine ⟨fun conflict => conflict.1 unchanged.symm, ?_⟩
      intro other
      split_ifs with here
      · rw [here, unsettled, choice, if_pos unchanged.symm]
      · rfl
    · refine ⟨fun conflict => clash conflict.2, ?_⟩
      intro other
      have chosen : choice (current.lookup name) (baseline.lookup name) (outcome.lookup name) =
          outcome.lookup name := if_neg (Ne.symm unchanged)
      cases wanted : outcome.lookup name with
      | none =>
        rw [wanted] at stepped chosen
        obtain rfl := ok.inj stepped
        have emptied : ((state.map fun fields => fields.filter fun field => field.1 ≠ name).getD
            []) = (state.getD []).filter fun field => field.1 ≠ name := by
          cases state <;> rfl
        rw [emptied, lookup_filter]
        split_ifs with here
        · rw [here, wanted, chosen]
        · rfl
      | some value =>
        rw [wanted] at stepped chosen
        obtain rfl := ok.inj stepped
        rw [Option.getD_some, lookup_append, lookup_filter]
        split_ifs with here
        · rw [here, wanted, chosen]
          simp
        · simp [lookup_cons, beq_false_of_ne here]
  · intro other unnamed
    rw [List.map_id, mem_dedup, mem_append, not_or] at unnamed
    rw [lookup_eq_none_iff.mpr, lookup_eq_none_iff.mpr]
    · intro field member
      exact bne_iff_ne.mpr fun same => unnamed.1 (mem_map.mpr ⟨field, member, same.symm⟩)
    · intro field member
      exact bne_iff_ne.mpr fun same => unnamed.2 (mem_map.mpr ⟨field, member, same.symm⟩)

end Passes

theorem getD_mergePresence (before wanted after : Option Metadata) :
    (mergePresence before wanted after).getD [] = after.getD [] := by
  unfold mergePresence
  split_ifs with empty
  · exact empty.1.symm
  · exact empty.1.symm
  · rfl

theorem Chosen.of_merge (merges : mergeTaskOutcome current baseline outcome = .ok after) :
    Mergeable current baseline outcome ∧ Chosen current baseline outcome after := by
  unfold mergeTaskOutcome at merges
  obtain ⟨ids, merges⟩ := require_bind_eq_ok.mp merges
  obtain ⟨_, baselineIndexed, merges⟩ := bind_eq_ok.mp merges
  obtain ⟨_, currentIndexed, merges⟩ := bind_eq_ok.mp merges
  obtain ⟨_, outcomeIndexed, merges⟩ := bind_eq_ok.mp merges
  obtain ⟨kept, merges⟩ := require_bind_eq_ok.mp merges
  obtain ⟨artifacts, artifactsFolded, merges⟩ := bind_eq_ok.mp merges
  obtain ⟨continued, merges⟩ := require_bind_eq_ok.mp merges
  obtain ⟨_, messagesIndexed, merges⟩ := bind_eq_ok.mp merges
  obtain ⟨_, proposedIndexed, merges⟩ := bind_eq_ok.mp merges
  obtain ⟨history, historyFolded, merges⟩ := bind_eq_ok.mp merges
  obtain ⟨metadata, metadataFolded, merges⟩ := bind_eq_ok.mp merges
  obtain rfl := ok.inj merges
  obtain ⟨baselineArtifacts, rfl⟩ := index_eq_ok.mp baselineIndexed
  obtain ⟨currentArtifacts, rfl⟩ := index_eq_ok.mp currentIndexed
  obtain ⟨outcomeArtifacts, rfl⟩ := index_eq_ok.mp outcomeIndexed
  obtain ⟨messages, rfl⟩ := index_eq_ok.mp messagesIndexed
  obtain ⟨proposed, _⟩ := index_eq_ok.mp proposedIndexed
  rw [map_snd_indexed] at artifactsFolded
  rw [map_fst_indexed] at kept
  obtain ⟨currentExtends, outcomeExtends⟩ := continued
  have extension : TaskRecord.Extends baseline outcome :=
    { id := congrArg Prod.fst ids.2
      contextId := congrArg Prod.snd ids.2
      history := prefix_iff_eq_take.mpr outcomeExtends.symm
      artifacts := fun artifact member => kept _ (mem_map.mpr ⟨artifact, member, rfl⟩)
      messagesIdentified := proposed
      artifactsIdentified := outcomeArtifacts }
  have chosenArtifacts := choose_artifacts outcomeArtifacts.nodup extension.artifacts
    artifactsFolded
  have chosenFields := choose_fields rfl metadataFolded
  have present : ∀ message ∈ outcome.history.drop baseline.history.length,
      message.messageId ≠ "" :=
    fun message member => proposed.present message (mem_of_mem_drop member)
  have histories := HistoryMerged.pass messages present historyFolded
  have takes : ∀ message ∈ outcome.history, message ∈ history.1 := by
    intro message member
    obtain earlier | added := mem_append.mp
      ((take_append_drop baseline.history.length outcome.history).symm ▸ member)
    · exact histories.extended.subset
        (mem_of_mem_take ((currentExtends.trans outcomeExtends.symm).symm ▸ earlier))
    · exact HistoryMerged.takes messages present historyFolded message added
  refine ⟨⟨congrArg Prod.fst ids.1, congrArg Prod.snd ids.1,
    prefix_iff_eq_take.mpr currentExtends.symm, messages, currentArtifacts, baselineArtifacts,
    extension, ⟨?_, ?_, ?_⟩⟩, ⟨?_, ?_, ?_⟩⟩
  · exact fun artifactId => (chosenArtifacts artifactId).1
  · intro message member other stored same
    exact inj_on_of_nodup_map histories.identified.nodup (histories.extended.subset stored)
      (takes message member) same
  · exact fun key => (chosenFields key).1
  · exact fun artifactId => (chosenArtifacts artifactId).2
  · intro message
    refine ⟨?_, Or.rec (fun stored => histories.extended.subset stored) (takes message)⟩
    exact fun member => (histories.known message member).imp_right mem_of_mem_drop
  · intro key
    unfold TaskRecord.fields
    rw [getD_mergePresence]
    exact (chosenFields key).2

/-- Tasks that extend their baseline and do not contest it are merged. -/
theorem Mergeable.merges (mergeable : Mergeable current baseline outcome) :
    ∃ after, mergeTaskOutcome current baseline outcome = .ok after := by
  obtain merges | contested := mergeable.extension.merge_or_contested mergeable.sameId
    mergeable.sameContext mergeable.continued mergeable.messages mergeable.currentArtifacts
    mergeable.baselineArtifacts mergeable.uncontested.messages
  · exact merges
  · obtain ⟨artifactId, conflict⟩ | ⟨key, conflict⟩ := contested
    · exact absurd conflict (mergeable.uncontested.artifacts artifactId)
    · exact absurd conflict (mergeable.uncontested.fields key)

/-- **A merge refuses exactly what is contested, and decides every key by a three-way choice.** -/
theorem mergeTaskOutcome_exact :
    ((∃ after, mergeTaskOutcome current baseline outcome = .ok after) ↔
      Mergeable current baseline outcome) ∧
    ∀ after, mergeTaskOutcome current baseline outcome = .ok after →
      Merged current outcome after ∧ Chosen current baseline outcome after := by
  refine ⟨⟨?_, Mergeable.merges⟩, ?_⟩
  · intro merges
    obtain ⟨after, merges⟩ := merges
    exact (Chosen.of_merge merges).1
  · exact fun after merges => ⟨.of_merge merges, (Chosen.of_merge merges).2⟩

theorem Uncontested.symm (free : Uncontested first baseline second) :
    Uncontested second baseline first where
  artifacts artifactId := fun conflict => free.artifacts artifactId conflict.symm
  messages message member other stored same :=
    (free.messages other stored message member same.symm).symm
  fields key := fun conflict => free.fields key conflict.symm

/-- The row that a merge leaves takes up another outcome that the row did and the first one does not
contest. -/
theorem exists_merge_onto (merges : mergeTaskOutcome current baseline first = .ok one)
    (mergeable : Mergeable current baseline second) (free : Uncontested first baseline second) :
    ∃ two, mergeTaskOutcome one baseline second = .ok two ∧ Merged one second two ∧
      Chosen one baseline second two := by
  obtain ⟨earlier, chosen⟩ := Chosen.of_merge merges
  have merged := Merged.of_merge merges
  have onward : Mergeable one baseline second := by
    refine ⟨merged.id.trans earlier.sameId, merged.contextId.trans earlier.sameContext,
      earlier.continued.trans merged.history, merged.messages, ⟨?_, merged.artifacts.nodup⟩,
      earlier.baselineArtifacts, mergeable.extension, ⟨?_, ?_, ?_⟩⟩
    · intro artifact member
      obtain stored | proposed := merged.artifacts.known artifact member
      · exact earlier.currentArtifacts.present artifact stored
      · exact earlier.extension.artifactsIdentified.present artifact proposed
    · exact fun artifactId => chosen.artifacts artifactId ▸ not_conflict_of_choice
        (mergeable.uncontested.artifacts artifactId) (free.artifacts artifactId)
    · intro message member other stored same
      obtain earlier | proposed := (chosen.messages other).mp stored
      · exact mergeable.uncontested.messages message member other earlier same
      · exact free.messages message member other proposed same
    · exact fun key => chosen.fields key ▸ not_conflict_of_choice
        (mergeable.uncontested.fields key) (free.fields key)
  obtain ⟨two, merges⟩ := onward.merges
  exact ⟨two, merges, .of_merge merges, (Chosen.of_merge merges).2⟩

theorem Merged.artifacts_eq (merged : Merged current outcome after)
    (same : ∀ artifactId, after.artifact artifactId = current.artifact artifactId) :
    after.artifacts = current.artifacts :=
  eq_of_extended merged.artifacts.extended merged.artifacts.nodup same

/-- **A merge can be repeated**: the same outcome, merged again, changes nothing. -/
theorem merge_again (merges : mergeTaskOutcome current baseline outcome = .ok one) :
    ∃ two, mergeTaskOutcome one baseline outcome = .ok two ∧ two.id = one.id ∧
      two.contextId = one.contextId ∧ two.status = one.status ∧
      two.artifacts = one.artifacts ∧ two.history = one.history ∧
      ∀ key, two.fields.lookup key = one.fields.lookup key := by
  obtain ⟨mergeable, chosen⟩ := Chosen.of_merge merges
  have free : Uncontested outcome baseline outcome :=
    ⟨fun _ => not_conflict_self, fun _ member _ stored same => inj_on_of_nodup_map
      mergeable.extension.messagesIdentified.nodup stored member same, fun _ => not_conflict_self⟩
  obtain ⟨two, again, merged, chosenAgain⟩ := exists_merge_onto merges mergeable free
  refine ⟨two, again, merged.id, merged.contextId,
    merged.status.trans (Merged.of_merge merges).status.symm, merged.artifacts_eq ?_, ?_, ?_⟩
  · intro artifactId
    rw [chosenAgain.artifacts, chosen.artifacts, choice_choice]
  · have known : two.history ⊆ one.history := by
      intro message member
      obtain earlier | proposed := (chosenAgain.messages message).mp member
      · exact earlier
      · exact (chosen.messages message).mpr (.inr proposed)
    have whole := (Nodup.of_map _ merged.messages.nodup).subperm known
    exact (merged.history.eq_of_length_le whole.length_le).symm
  · intro key
    rw [chosenAgain.fields, chosen.fields, choice_choice]

/-- A task before its handlers add to it. -/
def newTask : TaskRecord := ⟨"task", "context", ⟨.working, none, none⟩, [], [], none⟩

def reportedTask : TaskRecord := { newTask with artifacts := [⟨"report", "text"⟩] }

theorem merge_again_report :
    ∃ two, mergeTaskOutcome reportedTask newTask reportedTask = .ok two ∧
      two.artifacts = reportedTask.artifacts := by
  obtain ⟨two, again, _, _, _, artifacts, _⟩ :=
    @merge_again newTask newTask reportedTask reportedTask rfl
  exact ⟨two, again, artifacts⟩

/-- **Two handlers of one baseline are merged in either order**, unless they contest each other. -/
theorem merge_comm (merges : mergeTaskOutcome current baseline first = .ok one)
    (merges' : mergeTaskOutcome current baseline second = .ok two)
    (free : Uncontested first baseline second) :
    ∃ left right, mergeTaskOutcome one baseline second = .ok left ∧
      mergeTaskOutcome two baseline first = .ok right ∧
      (∀ artifactId, left.artifact artifactId = right.artifact artifactId) ∧
      (∀ message, message ∈ left.history ↔ message ∈ right.history) ∧
      ∀ key, left.fields.lookup key = right.fields.lookup key := by
  obtain ⟨mergeable, chosen⟩ := Chosen.of_merge merges
  obtain ⟨mergeable', chosen'⟩ := Chosen.of_merge merges'
  obtain ⟨left, leftMerges, _, chosenLeft⟩ := exists_merge_onto merges mergeable' free
  obtain ⟨right, rightMerges, _, chosenRight⟩ := exists_merge_onto merges' mergeable free.symm
  refine ⟨left, right, leftMerges, rightMerges, ?_, ?_, ?_⟩
  · intro artifactId
    rw [chosenLeft.artifacts, chosenRight.artifacts, chosen.artifacts, chosen'.artifacts,
      choice_comm (free.artifacts artifactId)]
  · intro message
    rw [chosenLeft.messages, chosenRight.messages, chosen.messages, chosen'.messages]
    exact or_right_comm
  · intro key
    rw [chosenLeft.fields, chosenRight.fields, chosen.fields, chosen'.fields,
      choice_comm (free.fields key)]

def answeredTask : TaskRecord := { newTask with metadata := some [("answer", .other "42")] }

theorem merge_comm_report :
    ∃ left right, mergeTaskOutcome reportedTask newTask answeredTask = .ok left ∧
      mergeTaskOutcome answeredTask newTask reportedTask = .ok right ∧
      ∀ artifactId, left.artifact artifactId = right.artifact artifactId := by
  have free : Uncontested reportedTask newTask answeredTask :=
    ⟨fun _ conflict => conflict.1 rfl, fun _ impossible => (by cases impossible),
      fun _ conflict => conflict.2.1 rfl⟩
  obtain ⟨left, right, leftMerges, rightMerges, same, _⟩ :=
    @merge_comm newTask newTask reportedTask answeredTask reportedTask answeredTask rfl rfl free
  exact ⟨left, right, leftMerges, rightMerges, same⟩

end Delta

end Kestrel.A2A
