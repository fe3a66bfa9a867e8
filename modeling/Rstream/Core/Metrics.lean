import Mathlib.Algebra.Order.Ring.Nat
import Mathlib.Data.Finmap
import Mathlib.Data.Finset.Sort
import Mathlib.Data.String.Basic
import Rstream.Library.Results

/-!
# Labels of metrics

A metric has base labels and a table of children, one for each set of further labels
that was asked for. `labels` of the metric finds the child of the given labels or creates
it; `labels` of a child is meant to extend the labels of the child.

What a child really asks its parent for are its own labels and the base labels of the
parent, without the labels it was given. A parent without base labels finds the child
itself again, and a parent with base labels refuses them as duplicates, so a chain of
more than one call composes only when nothing is added after the first call and the
metric has no base labels.
-/

namespace Rstream.Core.Metrics

open Library List

/-- `std::map<std::string, std::string>`. -/
abbrev Labels := Finmap fun _ : String => String

/-- `[a-zA-Z0-9_]`. -/
def isLabelChar (char : Char) : Bool := char.isAlphanum || char == '_'

/-- `[a-zA-Z_][a-zA-Z0-9_]*`. -/
def isLabelName (name : String) : Bool :=
  match name.toList with
  | [] => false
  | first :: rest => isLabelChar first && !first.isDigit && rest.all isLabelChar

/-- `[a-zA-Z_:][a-zA-Z0-9_:]*`. -/
def isMetricName (name : String) : Bool :=
  match name.toList with
  | [] => false
  | first :: rest =>
    (isLabelChar first || first == ':') && !first.isDigit &&
      rest.all fun char => isLabelChar char || char == ':'

def checkMetricName (name : String) : Except String Unit :=
  if isMetricName name then .ok () else .error ("invalid metric name '" ++ name ++ "'")

def checkLabelName (name : String) : Except String Unit :=
  if isLabelName name then .ok () else .error ("invalid label name '" ++ name ++ "'")

/-- `check_label_name` of labels, in the order of the map. -/
def checkLabelNames (labels : Labels) : Except String Unit :=
  forM labels.keys.sort checkLabelName

def checkLabelNameOverlap (first second : Labels) : Except String Unit :=
  forM first.keys.sort fun name =>
    if name ∈ second then .error ("duplicate label name '" ++ name ++ "'") else .ok ()

/-- The labels in the order of the map. -/
def labelPairs (labels : Labels) : List (String × String) :=
  labels.keys.sort.map fun name => (name, (labels.lookup name).getD "")

/-- Every name passes `check_label_name`. -/
def Valid (labels : Labels) : Prop := ∀ name ∈ labels, isLabelName name = true

theorem checkLabelNames_eq_ok {labels : Labels} :
    checkLabelNames labels = .ok () ↔ Valid labels := by
  rw [checkLabelNames, forM_eq_ok]
  apply forall_congr'
  intro name
  rw [Finset.mem_sort, Finmap.mem_keys, checkLabelName]
  apply imp_congr_right
  intro _
  by_cases valid : isLabelName name = true
  · rw [if_pos valid]
    exact ⟨fun _ => valid, fun _ => rfl⟩
  · rw [if_neg valid]
    exact ⟨nofun, fun claimed => absurd claimed valid⟩

theorem checkLabelNameOverlap_eq_ok {first second : Labels} :
    checkLabelNameOverlap first second = .ok () ↔ Finmap.Disjoint first second := by
  rw [checkLabelNameOverlap, forM_eq_ok]
  apply forall_congr'
  intro name
  rw [Finset.mem_sort, Finmap.mem_keys]
  apply imp_congr_right
  intro _
  by_cases shared : name ∈ second
  · rw [if_pos shared]
    exact ⟨nofun, fun absent => absurd shared absent⟩
  · rw [if_neg shared]
    exact ⟨fun _ => shared, fun _ => rfl⟩

/-- `handle::child`; `id` tells the children of a metric apart, as their addresses do. -/
structure Child where
  id : Nat
  /-- `m_labels`. -/
  ownLabels : Labels
  deriving DecidableEq

/-- `handle::parent`: no two children have the same labels, and no child repeats a name of
the base labels. -/
structure Parent where
  name : String
  /-- `m_labels`. -/
  ownLabels : Labels
  childs : List Child
  metricName : isMetricName name = true
  valid : Valid ownLabels
  childValid : ∀ child ∈ childs, Valid child.ownLabels
  childDisjoint : ∀ child ∈ childs, Finmap.Disjoint child.ownLabels ownLabels
  distinct : (childs.map (·.ownLabels)).Nodup

namespace Parent

/-- `get_labels`: the base labels are inserted into the given ones. -/
def getLabels (parent : Parent) (labels : Labels) : Labels := labels ∪ parent.ownLabels

/-- A new child at the end of the table. -/
def addChild (parent : Parent) (labels : Labels)
    (absent : parent.childs.find? (fun child => child.ownLabels = labels) = none)
    (disjoint : Finmap.Disjoint labels parent.ownLabels) (valid : Valid labels) : Parent :=
  { parent with
    childs := parent.childs ++ [⟨parent.childs.length, labels⟩]
    childValid := by
      intro child mem
      obtain old | ⟨⟨⟩⟩ := (List.mem_append.mp mem).imp_right List.mem_singleton.mp
      · exact parent.childValid child old
      · exact valid
    childDisjoint := by
      intro child mem
      obtain old | ⟨⟨⟩⟩ := (List.mem_append.mp mem).imp_right List.mem_singleton.mp
      · exact parent.childDisjoint child old
      · exact disjoint
    distinct := by
      rw [List.map_append, List.nodup_append]
      refine ⟨parent.distinct, List.nodup_singleton _, ?_⟩
      intro old mem new memNew
      obtain ⟨child, present, rfl⟩ := List.mem_map.mp mem
      rw [List.mem_singleton.mp memNew]
      have other := List.find?_eq_none.mp absent child present
      simpa using other }

/-- `labels`: the child of these labels, created when there is none. -/
def labels (parent : Parent) (labels : Labels) : Except String (Parent × Child) :=
  match absent : parent.childs.find? (fun child => child.ownLabels = labels) with
  | some child => .ok (parent, child)
  | none =>
    match disjoint : checkLabelNameOverlap labels parent.ownLabels with
    | .error text => .error text
    | .ok _ =>
      match valid : checkLabelNames labels with
      | .error text => .error text
      | .ok _ =>
        .ok (parent.addChild labels absent (checkLabelNameOverlap_eq_ok.mp disjoint)
          (checkLabelNames_eq_ok.mp valid), ⟨parent.childs.length, labels⟩)

end Parent

namespace Child

/-- `get_labels`, with the labels of the parent. -/
def getLabels (child : Child) (parent : Parent) : Labels :=
  parent.getLabels ∅ ∪ child.ownLabels

def labels (child : Child) (parent : Parent) (labels : Labels) :
    Except String (Parent × Child) := do
  checkLabelNameOverlap labels child.ownLabels
  -- The given labels are not part of what the parent is asked for.
  parent.labels (parent.getLabels child.ownLabels)

end Child

/-! ## One call -/

namespace Parent

theorem labels_of_found {parent : Parent} {labels : Labels} {child : Child}
    (found : parent.childs.find? (fun child => child.ownLabels = labels) = some child) :
    parent.labels labels = .ok (parent, child) := by
  rw [Parent.labels]
  split
  · rename_i other present
    rw [Option.some.inj (present.symm.trans found)]
  · rename_i absent
    rw [found] at absent
    cases absent

/-- Labels that share no name with the base labels have a child from then on. -/
theorem labels_of_disjoint (parent : Parent) {labels : Labels} (valid : Valid labels)
    (disjoint : Finmap.Disjoint labels parent.ownLabels) :
    ∃ after child, parent.labels labels = .ok (after, child) ∧ child.ownLabels = labels ∧
      after.ownLabels = parent.ownLabels ∧
      after.childs.find? (fun child => child.ownLabels = labels) = some child := by
  cases found : parent.childs.find? (fun child => child.ownLabels = labels) with
  | some child =>
    refine ⟨parent, child, labels_of_found found, ?_, rfl, found⟩
    simpa using find?_some found
  | none =>
    refine ⟨parent.addChild labels found disjoint valid, ⟨parent.childs.length, labels⟩,
      ?_, rfl, rfl, ?_⟩
    · rw [Parent.labels]
      split
      · rename_i child present
        rw [found] at present
        cases present
      · split
        · rename_i text overlapping
          rw [checkLabelNameOverlap_eq_ok.mpr disjoint] at overlapping
          cases overlapping
        · split
          · rename_i text invalid
            rw [checkLabelNames_eq_ok.mpr valid] at invalid
            cases invalid
          · rfl
    · rw [addChild, find?_append, found]
      simp

/-- Labels that repeat a name of the base labels are refused. -/
theorem labels_of_overlap (parent : Parent) {labels : Labels}
    (overlap : ¬ Finmap.Disjoint labels parent.ownLabels) :
    ∃ text, parent.labels labels = .error text := by
  rw [Parent.labels]
  split
  · rename_i child found
    have same : child.ownLabels = labels := by simpa using find?_some found
    rw [← same] at overlap
    exact absurd (parent.childDisjoint child (mem_of_find?_eq_some found)) overlap
  · split
    · exact ⟨_, rfl⟩
    · rename_i passed
      exact absurd (checkLabelNameOverlap_eq_ok.mp passed) overlap

end Parent

/-! ## Chains of calls -/

/-- `metric.labels(first).labels(…)…`, with the metric after the calls. -/
def labelsChain (parent : Parent) (first : Labels) (rest : List Labels) :
    Except String (Parent × Child) := do
  let start ← parent.labels first
  rest.foldlM (fun reached labels => reached.2.labels reached.1 labels) start

/-- The union of label sets. -/
def unionAll (sets : List Labels) : Labels := sets.foldr (· ∪ ·) ∅

/-- The chain returns the child that all labels together denote. -/
def Composes (parent : Parent) (first : Labels) (rest : List Labels) : Prop :=
  ∃ after child, labelsChain parent first rest = .ok (after, child) ∧
    child.getLabels after = parent.ownLabels ∪ unionAll (first :: rest) ∧
    after.labels (unionAll (first :: rest)) = .ok (after, child)

/-- Label sets with valid names that share no name with each other or with the base
labels. -/
def Composable (parent : Parent) (sets : List Labels) : Prop :=
  (∀ labels ∈ sets, Valid labels ∧ Finmap.Disjoint labels parent.ownLabels) ∧
    sets.Pairwise Finmap.Disjoint

theorem eq_empty_of_forall_notMem {labels : Labels} (absent : ∀ name, name ∉ labels) :
    labels = ∅ := by
  apply Finmap.ext_lookup
  intro name
  rw [Finmap.lookup_eq_none.mpr (absent name), Finmap.lookup_empty]

theorem mem_unionAll_of_mem {sets : List Labels} {labels : Labels} {name : String}
    (mem : labels ∈ sets) (named : name ∈ labels) : name ∈ unionAll sets := by
  induction sets with
  | nil => exact absurd mem not_mem_nil
  | cons first rest ih =>
    rw [unionAll, foldr_cons, Finmap.mem_union]
    obtain rfl | behind := mem_cons.mp mem
    · exact .inl named
    · exact .inr (ih behind)

theorem unionAll_of_empty {sets : List Labels} (empty : ∀ labels ∈ sets, labels = ∅) :
    unionAll sets = ∅ := by
  induction sets with
  | nil => rfl
  | cons first rest ih =>
    obtain ⟨rfl, behind⟩ := forall_mem_cons.mp empty
    rw [unionAll, foldr_cons, Finmap.empty_union]
    exact ih behind

/-- Under a metric without base labels a child returns itself, whatever it is given. -/
theorem labels_child_of_bare {parent : Parent} {child : Child} {labels : Labels}
    (bare : parent.ownLabels = ∅) (disjoint : Finmap.Disjoint labels child.ownLabels)
    (found : parent.childs.find? (fun other => other.ownLabels = child.ownLabels) = some child) :
    child.labels parent labels = .ok (parent, child) := by
  rw [Child.labels, checkLabelNameOverlap_eq_ok.mpr disjoint, ok_bind, Parent.getLabels,
    bare, Finmap.union_empty]
  exact Parent.labels_of_found found

/-- Under a metric with base labels a child refuses everything. -/
theorem labels_child_of_based {parent : Parent} (child : Child) (labels : Labels)
    (based : parent.ownLabels ≠ ∅) : ∃ text, child.labels parent labels = .error text := by
  have overlap : ¬ Finmap.Disjoint (parent.getLabels child.ownLabels) parent.ownLabels := by
    intro disjoint
    apply based
    apply eq_empty_of_forall_notMem
    intro name named
    exact disjoint name (Finmap.mem_union.mpr (.inr named)) named
  obtain ⟨text, refused⟩ := parent.labels_of_overlap overlap
  rw [Child.labels]
  cases checkLabelNameOverlap labels child.ownLabels with
  | error duplicate => exact ⟨duplicate, rfl⟩
  | ok _ => exact ⟨text, refused⟩

/-- Without base labels a chain returns the child of its first set. -/
theorem foldlM_labels_of_bare {parent : Parent} {child : Child} (bare : parent.ownLabels = ∅)
    (found : parent.childs.find? (fun other => other.ownLabels = child.ownLabels) = some child)
    {rest : List Labels} (disjoint : ∀ labels ∈ rest, Finmap.Disjoint labels child.ownLabels) :
    rest.foldlM (fun (reached : Parent × Child) labels => reached.2.labels reached.1 labels)
      (parent, child) = .ok (parent, child) := by
  induction rest with
  | nil => rfl
  | cons labels rest ih =>
    obtain ⟨next, behind⟩ := forall_mem_cons.mp disjoint
    rw [foldlM_cons, labels_child_of_bare bare next found]
    exact ih behind

/-- What the first call of a chain returns, and what the later calls start from. -/
theorem labelsChain_eq {parent : Parent} {first : Labels} {rest : List Labels}
    (composable : Composable parent (first :: rest)) :
    ∃ after child, labelsChain parent first rest = rest.foldlM
        (fun (reached : Parent × Child) labels => reached.2.labels reached.1 labels)
        (after, child) ∧
      child.ownLabels = first ∧ after.ownLabels = parent.ownLabels ∧
      child.getLabels after = parent.ownLabels ∪ first ∧
      after.childs.find? (fun other => other.ownLabels = first) = some child := by
  obtain ⟨each, -⟩ := composable
  obtain ⟨⟨valid, clear⟩, -⟩ := forall_mem_cons.mp each
  obtain ⟨after, child, called, own, base, found⟩ := parent.labels_of_disjoint valid clear
  refine ⟨after, child, ?_, own, base, ?_, found⟩
  · rw [labelsChain, called, ok_bind]
  · rw [Child.getLabels, Parent.getLabels, Finmap.empty_union, base, own]

theorem Composable.disjoint_first {parent : Parent} {first : Labels} {rest : List Labels}
    (composable : Composable parent (first :: rest)) :
    ∀ labels ∈ rest, Finmap.Disjoint labels first := by
  intro labels mem
  exact ((pairwise_cons.mp composable.2).1 labels mem).symm

/-- A chain of more than one call that composes adds nothing after the first call. -/
theorem bare_of_composes {parent : Parent} {first next : Labels} {more : List Labels}
    (composable : Composable parent (first :: next :: more))
    (composes : Composes parent first (next :: more)) :
    parent.ownLabels = ∅ ∧ ∀ labels ∈ next :: more, labels = ∅ := by
  have disjoint := composable.disjoint_first
  obtain ⟨after, child, chain, rfl, base, shown, found⟩ := labelsChain_eq composable
  obtain ⟨last, reached, returned, series, -⟩ := composes
  rw [chain] at returned
  by_cases based : parent.ownLabels = ∅
  · refine ⟨based, ?_⟩
    rw [foldlM_labels_of_bare (base.trans based) found disjoint] at returned
    cases returned
    intro labels mem
    apply eq_empty_of_forall_notMem
    intro name named
    -- The name would be one of the child, which only has those of the first set.
    have member : name ∈ child.getLabels after := by
      rw [series]
      exact Finmap.mem_union.mpr (.inr (mem_unionAll_of_mem (mem_cons_of_mem _ mem) named))
    rw [shown, based, Finmap.empty_union] at member
    exact disjoint labels mem name named member
  · obtain ⟨text, refused⟩ := labels_child_of_based child next (base ▸ based)
    rw [foldlM_cons, refused] at returned
    cases returned

/-- A chain of calls composes exactly when it is one call, or when the metric has no base
labels and no later call adds a label. -/
theorem composes_iff (parent : Parent) (first : Labels) (rest : List Labels)
    (composable : Composable parent (first :: rest)) :
    Composes parent first rest ↔
      rest = [] ∨ (parent.ownLabels = ∅ ∧ ∀ labels ∈ rest, labels = ∅) := by
  constructor
  · intro composes
    cases rest with
    | nil => exact .inl rfl
    | cons next more => exact .inr (bare_of_composes composable composes)
  · intro condition
    have empty : ∀ labels ∈ rest, labels = ∅ := by
      obtain rfl | ⟨-, empty⟩ := condition
      · exact fun _ mem => absurd mem not_mem_nil
      · exact empty
    have union : unionAll (first :: rest) = first := by
      rw [unionAll, foldr_cons]
      show first ∪ unionAll rest = first
      rw [unionAll_of_empty empty, Finmap.union_empty]
    obtain ⟨after, child, chain, rfl, base, shown, found⟩ := labelsChain_eq composable
    refine ⟨after, child, ?_, ?_, ?_⟩
    · rw [chain]
      obtain rfl | ⟨bare, -⟩ := condition
      · rfl
      · exact foldlM_labels_of_bare (base.trans bare) found composable.disjoint_first
    · rw [shown, union]
    · rw [union]
      exact Parent.labels_of_found found

/-- A counter without base labels. -/
def requests : Parent where
  name := "requests"
  ownLabels := ∅
  childs := []
  metricName := by decide
  valid := fun _ mem => absurd mem Finmap.notMem_empty
  childValid := fun _ mem => absurd mem List.not_mem_nil
  childDisjoint := fun _ mem => absurd mem List.not_mem_nil
  distinct := List.nodup_nil

theorem composable_requests :
    Composable requests [Finmap.singleton "method" "GET", Finmap.singleton "code" "200"] := by
  constructor
  · intro labels mem
    refine ⟨?_, (Finmap.disjoint_empty labels).symm⟩
    intro name named
    obtain rfl | mem := mem_cons.mp mem
    · rw [(Finmap.mem_singleton _ _ _).mp named]
      decide
    · rw [mem_singleton.mp mem] at named
      rw [(Finmap.mem_singleton _ _ _).mp named]
      decide
  · rw [pairwise_pair]
    intro name named other
    rw [Finmap.mem_singleton] at named other
    exact absurd (named.symm.trans other) (by decide)

theorem composes_requests_iff :
    Composes requests (Finmap.singleton "method" "GET") [Finmap.singleton "code" "200"] ↔
      ([Finmap.singleton "code" "200"] : List Labels) = [] ∨ (requests.ownLabels = ∅ ∧
        ∀ labels ∈ ([Finmap.singleton "code" "200"] : List Labels), labels = ∅) :=
  composes_iff requests _ _ composable_requests

/-- `requests.labels({{"method", "GET"}}).labels({{"code", "200"}})` is not the series of
both labels. -/
theorem not_composes_requests :
    Composable requests [Finmap.singleton "method" "GET", Finmap.singleton "code" "200"] ∧
      ¬ Composes requests (Finmap.singleton "method" "GET") [Finmap.singleton "code" "200"] := by
  refine ⟨composable_requests, ?_⟩
  intro composes
  have empty := (bare_of_composes composable_requests composes).2 _ (mem_singleton.mpr rfl)
  have named : "code" ∈ (Finmap.singleton "code" "200" : Labels) :=
    (Finmap.mem_singleton _ _ _).mpr rfl
  rw [empty] at named
  exact Finmap.notMem_empty named

end Rstream.Core.Metrics
