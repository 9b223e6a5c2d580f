import Criteria.Proofs.Filter.Joining
/-!
# Leaves — what a filter of leaves accepts

A program that only adds leaves leaves a chain of all their conditions, a
refused leaf having none. `Leaf.accepts` is what its filter says of an item,
and `accepts_eq` what that comes to: all conditions of all leaves hold. So
two ways to write a test in leaves are compared by their conditions alone.
-/

namespace Criteria

namespace Leaf

variable {α : Type} {config : Config} {leaf : Leaf α}

/-- The conditions that a leaf brings to a filter: none if it is refused. -/
def brings (config : Config) (leaf : Leaf α) : List (Condition α) :=
  match leaf.conditions config with
  | .ok cs => cs
  | .error _ => []

theorem brings_of_ok {cs : List (Condition α)} (h : leaf.conditions config = .ok cs) :
    leaf.brings config = cs := by
  rw [brings, h]

theorem brings_of_error {e : Error} (h : leaf.conditions config = .error e) :
    leaf.brings config = [] := by
  rw [brings, h]

end Leaf

namespace Filter

variable {α : Type} {f : Filter α} {leaf : Leaf α}

theorem pushAll_append (f : Filter α) (cs ds : List (Condition α)) :
    f.pushAll (cs ++ ds) = (f.pushAll cs).pushAll ds :=
  List.foldl_append

/-- A leaf with nothing wrong pushes its conditions, and none of them is
refused. -/
theorem addLeaf_of_ok {cs : List (Condition α)} (h : leaf.conditions f.config = .ok cs) :
    f.addLeaf leaf = ⟨f.pushAll cs, none⟩ := by
  rw [addLeaf, h]
  exact addAll_of_discerning (Leaf.discerning_of_mem_conditions h) f

theorem addLeaf_of_error {e : Error} (h : leaf.conditions f.config = .error e) :
    f.addLeaf leaf = ⟨f, some e⟩ := by
  rw [addLeaf, h]

/-- Refused or not, a leaf pushes what it brings. -/
theorem filter_addLeaf (f : Filter α) (leaf : Leaf α) :
    (f.addLeaf leaf).filter = f.pushAll (leaf.brings f.config) := by
  cases h : leaf.conditions f.config with
  | error e => rw [addLeaf_of_error h, Leaf.brings_of_error h, pushAll_nil]
  | ok cs => rw [addLeaf_of_ok h, Leaf.brings_of_ok h]

end Filter

namespace Step

variable {α : Type}

/-- A row of leaves pushes all that they bring. -/
theorem filter_runAll_addLeaf (leaves : List (Leaf α)) (s : Session α) :
    (runAll true s (leaves.map .addLeaf)).session.filter =
      s.filter.pushAll (leaves.flatMap (·.brings s.filter.config)) := by
  induction leaves generalizing s with
  | nil => rfl
  | cons leaf rest ih =>
      have hrun : ((Step.addLeaf leaf).run s).session.filter =
          s.filter.pushAll (leaf.brings s.filter.config) := s.filter.filter_addLeaf leaf
      rw [List.map_cons, runAll_cons (Or.inl rfl)]
      refine (ih _).trans ?_
      rw [hrun, Filter.pushAll_config, List.flatMap_cons, Filter.pushAll_append]

end Step

namespace Leaf

variable {α : Type} {config : Config} {leaf : Leaf α}

/-- What a filter that nothing but some leaves was added to says of an
item. -/
def accepts (config : Config) (leaves : List (Leaf α)) (r : Clock.Readings) (item : α) : Bool :=
  (Step.program config (leaves.map .addLeaf)).session.filter.build.test r item

/-- **It accepts what all conditions of all leaves hold of.** -/
theorem accepts_eq (config : Config) (leaves : List (Leaf α)) (r : Clock.Readings) (item : α) :
    accepts config leaves r item =
      leaves.all fun leaf => (leaf.brings config).all fun c => c.holds r item := by
  have hempty : (Filter.ofConfig config : Filter α).Normal := Filter.normal_ofConfig config
  rw [accepts, Step.program, Step.filter_runAll_addLeaf]
  refine (hempty.test_build_pushAll rfl r item).trans ?_
  exact List.all_flatMap

/-- A leaf of one condition accepts what it holds of. -/
theorem accepts_of_ok {c : Condition α} (h : leaf.conditions config = .ok [c])
    (r : Clock.Readings) (item : α) : accepts config [leaf] r item = c.holds r item := by
  simp [accepts_eq, brings_of_ok h]

/-- A leaf of texts accepts what its test checks. -/
theorem accepts_text {t : TextTest} {holds : String → Bool} (h : t.check config = .ok holds)
    (read : α → String) (r : Clock.Readings) (item : α) :
    accepts config [text read t] r item = holds (read item) := by
  have hconditions : (text read t).conditions config = .ok [(Condition.ofTest holds).via read] := by
    rw [conditions, TextTest.condition, h]
    rfl
  rw [accepts_of_ok hconditions]
  rfl

end Leaf

end Criteria
