import Criteria.Proofs.Leaf.Named
import Criteria.Proofs.Step.Reading
/-!
# Programs — leaves by name

In a program any of the leaves may be written as clauses on named fields,
inside groups and attempts too, and the program stays in step with what it
was.
-/

namespace Criteria

namespace Step

variable {α : Type} [Fields α] {config : Config}

/-- The same step but for leaves that are written as clauses on fields. -/
inductive Respelled (config : Config) : Step α → Step α → Prop
  | refl (step : Step α) : Respelled config step step
  | leaf {a b : Leaf α} : a.Respelled config b → Respelled config (.addLeaf a) (.addLeaf b)
  | group (goesOn : Bool) {steps steps' : List (Step α)} :
      List.Forall₂ (Respelled config) steps steps' →
      Respelled config (.group goesOn steps) (.group goesOn steps')
  | attempt {step step' : Step α} :
      Respelled config step step' → Respelled config (.attempt step) (.attempt step')

mutual

/-- A step reads as the step by name. -/
theorem Respelled.reads : ∀ {step step' : Step α}, step.Respelled config step' →
    step.Reads config id step'
  | step, _, .refl _ => step.reads_refl config
  | .addLeaf _, _, .leaf hleaf => .addLeaf hleaf.reads
  | .group goesOn _, _, .group _ hsteps => .group goesOn (Respelled.readsAll hsteps)
  | .attempt _, _, .attempt hstep => .attempt hstep.reads

theorem Respelled.readsAll : ∀ {steps steps' : List (Step α)},
    List.Forall₂ (Respelled config) steps steps' → List.Forall₂ (Reads config id) steps steps'
  | [], _, .nil => .nil
  | _ :: _, _, .cons hstep hrest => .cons hstep.reads (Respelled.readsAll hrest)

end

/-- **Leaves by name change nothing.** Whichever leaves of a program are
written as clauses on fields that hold what the leaves read, inside groups
too, the two programs are refused at the same steps for the same causes, and
after every step their filters have the same size, joins and compiled
shapes, and their predicates and negations say the same of every item. -/
theorem program_respelled (config : Config) {typed named : List (Step α)}
    (h : List.Forall₂ (Respelled config) typed named) :
    List.Forall₂ (Report.Paired (Report.Alike id)) (program config typed).reports
      (program config named).reports :=
  (runAll_reads (.ofConfig config) true (Respelled.readsAll h)).reports

/-- A title that starts with a letter, and a size that is zero or large; the
zero of the clause is of another kind than the leaf's. -/
theorem program_respelled_three :
    let _ : Fields (String × Number) := ⟨["title", "size"], fun item name =>
      if name = "title" then .text item.1 else .number item.2⟩
    let typed : List (Step (String × Number)) := [.addLeaf (.text Prod.fst (.startsWith "a")),
      .group false [.addLeaf (.number Prod.snd .zero), .or,
        .addLeaf (.number Prod.snd (.above (.signed 9)))]]
    let named : List (Step (String × Number)) :=
      [.addLeaf (.field "title" .startsWith (.text "a")),
        .group false [.addLeaf (.field "size" .eq (.number (.unsigned 0))), .or,
          .addLeaf (.field "size" .gt (.number (.signed 9)))]]
    List.Forall₂ (Respelled .standard) typed named ∧
      List.Forall₂ (Report.Paired (Report.Alike id)) (program .standard typed).reports
        (program .standard named).reports := by
  intro _ typed named
  have htitle : Fields.Names "title" (Prod.fst : String × Number → String) .text :=
    ⟨by decide, fun _ => rfl⟩
  have hsize : Fields.Names "size" (Prod.snd : String × Number → Number) .number :=
    ⟨by decide, fun _ => rfl⟩
  have hnamed : List.Forall₂ (Respelled .standard) typed named :=
    .cons (.leaf (.text htitle (.startsWith "a")))
      (.cons (.group false (.cons (.leaf (.number hsize (.zero (by decide))))
        (.cons (.refl .or) (.cons (.leaf (.number hsize (.above (.signed 9)))) .nil)))) .nil)
  exact ⟨hnamed, program_respelled .standard hnamed⟩

end Step

end Criteria
