import Kestrel.Base.DepthFirst
import Mathlib.Data.List.Sort

/-!
# The nesting budget of a structural graph

The importer searches the edges that the structural predicates draw between IRIs, from each subject
in the order in which the triples name them.
-/

namespace Kestrel.Rdf

open List Dependency DepthFirst

/-- `RdfTerm`. The structural graph looks into IRIs only. -/
inductive RdfTerm (Iri : Type*) where
  | iri (value : Iri)
  | blankNode
  | literal
  | tripleTerm

structure RdfTriple (Iri : Type*) where
  subject : RdfTerm Iri
  predicate : Iri
  object : RdfTerm Iri

/-- `RdfImportLimits`: its constructor refuses a limit below one. -/
structure RdfImportLimits where
  maxNesting : ℕ
  positive : 0 < maxNesting

variable {Iri : Type*} [DecidableEq Iri]

variable (Iri) in
structure SetOrder where
  list : List Iri → List Iri
  perm : ∀ added, (list added).Perm added.dedup

variable (structuralPredicates : List Iri)

def structuralEdge (triple : RdfTriple Iri) : Option (Iri × Iri) :=
  match triple.subject, triple.object with
  | .iri subject, .iri object =>
    if triple.predicate ∈ structuralPredicates then some (subject, object) else none
  | _, _ => none

def structuralEdges (triples : List (RdfTriple Iri)) : List (Iri × Iri) :=
  triples.filterMap (structuralEdge structuralPredicates)

/-- The keys of `edges`: a subject stays where it was first added. -/
def subjects (edges : List (Iri × Iri)) : List Iri := (edges.map Prod.fst).reverse.dedup.reverse

theorem mem_subjects {edges : List (Iri × Iri)} {subject : Iri} :
    subject ∈ subjects edges ↔ ∃ object, (subject, object) ∈ edges := by
  simp [subjects]

/-- The sets that `edges` holds. -/
def structuralGraph (order : SetOrder Iri) (edges : List (Iri × Iri)) : Graph Iri where
  nodes := subjects edges
  children subject := order.list ((edges.filter fun edge => edge.1 = subject).map Prod.snd)
  leaf subject absent := by
    have none : edges.filter (fun edge => edge.1 = subject) = [] := by
      refine filter_eq_nil_iff.mpr fun edge member same => absent (mem_subjects.mpr ⟨edge.2, ?_⟩)
      rwa [← of_decide_eq_true same]
    rw [none, map_nil]
    exact (order.perm []).eq_nil

def budgetMessage : Refusal → String
  | .tooDeep => "RDF structural graph exceeds the nesting budget"
  | .cycle => "RDF structural graph contains a cycle"

def validateStructuralGraph (order : SetOrder Iri) (triples : List (RdfTriple Iri))
    (limits : RdfImportLimits) : Except String Unit :=
  let edges := structuralEdges structuralPredicates triples
  match search (structuralGraph order edges) limits.maxNesting (subjects edges) ⟨[], []⟩ with
  | .ok _ => .ok ()
  | .error refusal => .error (budgetMessage refusal)

def Structural (triples : List (RdfTriple Iri)) (subject object : Iri) : Prop :=
  ∃ triple ∈ triples, structuralEdge structuralPredicates triple = some (subject, object)

/-- No structural path is longer than the limit. -/
def Within (triples : List (RdfTriple Iri)) (limits : RdfImportLimits) : Prop :=
  ∀ length node, PathFrom (Structural structuralPredicates triples) length node →
    length ≤ limits.maxNesting

variable {structuralPredicates} {order : SetOrder Iri} {triples permuted : List (RdfTriple Iri)}
  {limits : RdfImportLimits}

theorem edge_structuralGraph (order : SetOrder Iri) :
    (structuralGraph order (structuralEdges structuralPredicates triples)).Edge =
      Structural structuralPredicates triples := by
  funext subject object
  simp [Graph.Edge, structuralGraph, structuralEdges, (order.perm _).mem_iff, Structural]

theorem Structural.perm (same : permuted.Perm triples) :
    Structural structuralPredicates permuted = Structural structuralPredicates triples := by
  funext subject object
  simp only [Structural, same.mem_iff]

theorem validateStructuralGraph_eq_ok :
    validateStructuralGraph structuralPredicates order triples limits = .ok () ↔
      ∃ marks, search (structuralGraph order
        (structuralEdges structuralPredicates triples)) limits.maxNesting
          (subjects (structuralEdges structuralPredicates triples)) ⟨[], []⟩ = .ok marks := by
  simp only [validateStructuralGraph]
  split
  · next marks searched => simp [searched]
  · next refusal searched => simp [searched]

theorem acyclic_of_accepted
    (accepted : validateStructuralGraph structuralPredicates order triples limits = .ok ()) :
    Acyclic (Structural structuralPredicates triples) := by
  obtain ⟨_, searched⟩ := validateStructuralGraph_eq_ok.mp accepted
  rw [← edge_structuralGraph order]
  refine search_acyclic (fun subject object edge => ?_) searched
  rw [edge_structuralGraph order] at edge
  exact mem_subjects.mpr ⟨object, mem_filterMap.mpr edge⟩

theorem accepted_of_within (acyclic : Acyclic (Structural structuralPredicates triples))
    (within : Within structuralPredicates triples limits) :
    validateStructuralGraph structuralPredicates order triples limits = .ok () := by
  rw [← edge_structuralGraph order] at acyclic
  obtain ⟨_, searched⟩ := search_accepts acyclic fun _ root _ _ _ _ length path =>
    within length root (path.mono fun _ _ edge => (edge_structuralGraph order).le _ _ edge.1)
  exact validateStructuralGraph_eq_ok.mpr ⟨_, searched⟩

/-- Triples whose subjects come after the subjects they lead to are accepted, however long their
paths are. -/
theorem exists_accepted (order : SetOrder Iri) (limits : RdfImportLimits)
    (acyclic : Acyclic (Structural structuralPredicates triples)) :
    ∃ permuted : List (RdfTriple Iri), permuted.Perm triples ∧
      validateStructuralGraph structuralPredicates order permuted limits = .ok () := by
  let targets := ((structuralEdges structuralPredicates triples).map Prod.snd).toFinset
  let rank := reach (Structural structuralPredicates triples) targets
  let place (triple : RdfTriple Iri) : ℕ :=
    ((structuralEdge structuralPredicates triple).map fun edge => rank edge.1).getD 0
  let permuted := triples.mergeSort fun first last => place first ≤ place last
  have same : permuted.Perm triples := mergeSort_perm _ _
  have lower {subject object : Iri}
      (edge : Structural structuralPredicates triples subject object) : rank object < rank subject := by
    refine acyclic.reach_lt edge (mem_toFinset.mpr (mem_map.mpr ⟨(subject, object), ?_, rfl⟩))
    exact mem_filterMap.mpr edge
  have sorted : (subjects (structuralEdges structuralPredicates permuted)).Pairwise
      fun first last => rank first ≤ rank last := by
    have places : permuted.Pairwise fun first last => place first ≤ place last := by
      simpa using @pairwise_mergeSort _ (fun first last => place first ≤ place last)
        (fun _ _ _ => by simpa using Nat.le_trans) (fun _ _ => by simpa using Nat.le_total _ _)
        triples
    have edges : (structuralEdges structuralPredicates permuted).Pairwise
        fun first last => rank first.1 ≤ rank last.1 := by
      refine places.filterMap _ fun first last ordered edge found edge' found' => ?_
      simpa [place, found, found'] using ordered
    refine (edges.map Prod.fst fun _ _ => id).sublist ?_
    rw [subjects, ← sublist_reverse_iff]
    exact dedup_sublist _
  refine ⟨permuted, same, ?_⟩
  have drawn : (structuralGraph order (structuralEdges structuralPredicates permuted)).Edge =
      Structural structuralPredicates triples :=
    (edge_structuralGraph order).trans (Structural.perm same)
  refine validateStructuralGraph_eq_ok.mpr
    ((search_accepts (drawn ▸ acyclic) ?_).imp' _ fun _ => id)
  intro earlier root later split before entered length path
  rcases length with _ | _ | length
  · exact Nat.zero_le _
  · exact limits.positive
  -- a child with children of its own is an earlier root
  obtain ⟨next, ⟨edge, _⟩, last, ⟨edge', incomplete⟩, _⟩ := path
  have listed : next ∈ earlier ++ root :: later := by
    rw [← split, mem_subjects]
    rw [edge_structuralGraph order] at edge'
    exact ⟨last, mem_filterMap.mpr edge'⟩
  have below := lower (drawn ▸ edge)
  rw [split] at sorted
  rcases mem_append.mp listed with listed | listed
  · exact absurd (entered next listed) incomplete
  · rcases mem_cons.mp listed with rfl | listed
    · exact absurd below (Nat.lt_irrefl _)
    · have later := (pairwise_cons.mp (pairwise_append.mp sorted).2.1).1 next listed
      exact absurd below (Nat.not_lt.mpr later)

/-- The nesting budget is decided as it is stated, whatever the order of the triples, exactly for
the graphs with a cycle and for those without a path longer than the limit. -/
theorem nesting_budget_iff (triples : List (RdfTriple Iri)) (limits : RdfImportLimits) :
    (∀ permuted, permuted.Perm triples → ∀ order : SetOrder Iri,
      (validateStructuralGraph structuralPredicates order permuted limits = .ok () ↔
        Acyclic (Structural structuralPredicates permuted) ∧
          Within structuralPredicates permuted limits)) ↔
      ¬ Acyclic (Structural structuralPredicates triples) ∨
        Within structuralPredicates triples limits := by
  constructor
  · intro decided
    by_contra neither
    obtain ⟨acyclic, long⟩ := not_or.mp neither
    let order : SetOrder Iri := ⟨dedup, fun _ => .rfl⟩
    obtain ⟨permuted, same, accepted⟩ := exists_accepted order limits (not_not.mp acyclic)
    have within := ((decided permuted same order).mp accepted).2
    rw [Within, Structural.perm same] at within
    exact long within
  · intro either permuted same order
    refine ⟨fun accepted => ⟨acyclic_of_accepted accepted, ?_⟩,
      fun ⟨acyclic, within⟩ => accepted_of_within acyclic within⟩
    have acyclic := acyclic_of_accepted accepted
    rw [Structural.perm same] at acyclic
    rw [Within, Structural.perm same]
    exact either.resolve_left (not_not_intro acyclic)

/-- A path of three edges passes a limit of one when its last edge comes first. -/
theorem tail_first_accepted : ∃ (structuralPredicates : List String)
    (triples : List (RdfTriple String)) (limits : RdfImportLimits) (order : SetOrder String),
    validateStructuralGraph structuralPredicates order triples limits = .ok () ∧
      ¬ Within structuralPredicates triples limits := by
  let edge (subject object : String) : RdfTriple String :=
    ⟨.iri subject, "urn:derivation", .iri object⟩
  refine ⟨["urn:derivation"], [edge "urn:c" "urn:d", edge "urn:b" "urn:c", edge "urn:a" "urn:b"],
    ⟨1, Nat.one_pos⟩, ⟨dedup, fun _ => .rfl⟩, ?_, fun within => ?_⟩
  · simp [edge, validateStructuralGraph, search, visit, walk, structuralEdges, structuralEdge,
      structuralGraph, subjects, Graph.expand, Marks.enter, Marks.leave, Except.ok_bind]
  · refine absurd (within 3 "urn:a" ?_) (by decide)
    exact ⟨_, ⟨edge "urn:a" "urn:b", by simp, rfl⟩, _, ⟨edge "urn:b" "urn:c", by simp, rfl⟩, _,
      ⟨edge "urn:c" "urn:d", by simp, rfl⟩, trivial⟩

end Kestrel.Rdf
