import ResponsiveMarkup.Compile.Run
import ResponsiveMarkup.Proofs.Contract.CleanTokens
import ResponsiveMarkup.Proofs.Contract.LeftOpen
import ResponsiveMarkup.Proofs.Contract.Pipeline

/-!
The markup stage in repair mode. Each contract leaves a markup in which it has nothing more to do and does not bring
back what one before it has taken out, so a second run finds nothing. That takes orderly tags: where a slash stands in
front of an attribute that a repair takes out, the rest of the tag can become an element that is closed at once.
-/

namespace ResponsiveMarkup

open Scanner Contract

/-- Orderly tags, no name twice in one tag, and every end tag closes the innermost open element. -/
structure Repairable (html : Text) : Prop where
  regular : Regular html
  nested : (openAfter [] (contents html)).isSome = true

/-- Nothing is left for the contracts of the markup stage to do. -/
structure Repaired (table : RuleTable) (html : Text) : Prop where
  words : ClassWords (LearnedRules.Final table) html
  apart : Nesting.Apart html

namespace Repairable

variable {html : Text} {table : RuleTable}

theorem spliced (h : Repairable html) {rule : Text → ClassChange} (hnil : rule [] = .keep) (hrule : QuoteFree rule) :
    Repairable (spliced html ((startTags html).filterMap (StartTag.classSplice? rule))) := by
  refine ⟨h.regular.spliced hnil hrule, ?_⟩
  rw [← openAfter_bare, (RuleFits.of_orderly h.regular.orderly hrule).bare_spliced hnil, openAfter_bare]
  exact h.nested

theorem typography (h : Repairable html) :
    Repairable (Typography.check .repair html).html ∧
      ClassWords Typography.WellFormed (Typography.check .repair html).html := by
  have hany : ClassWords (fun _ => True) html := fun _ _ _ _ _ _ => trivial
  rw [Typography.html_repaired]
  refine ⟨h.spliced rfl Typography.quoteFree_rule, ?_⟩
  exact hany.spliced h.regular rfl Typography.quoteFree_rule fun v _ v' hv' => Typography.wellFormed_rule hv'

theorem learnedRules (h : Repairable html) (hwords : ClassWords Typography.WellFormed html)
    (hclosed : LearnedRules.Closed table) :
    Repairable (LearnedRules.check table .repair html).html ∧
      ClassWords (LearnedRules.Final table) (LearnedRules.check table .repair html).html := by
  rw [LearnedRules.html_repaired]
  split
  · rename_i hempty
    refine ⟨h, fun t ht v hv w hw => ⟨?_, hwords t ht v hv w hw⟩⟩
    rw [LearnedRules.ruleFor?, RuleTable.lookup?, List.isEmpty_iff.mp hempty, List.find?_nil]
  · refine ⟨h.spliced rfl (LearnedRules.quoteFree_rule table), ?_⟩
    exact hwords.spliced h.regular rfl (LearnedRules.quoteFree_rule table) fun v hv v' hv' =>
      LearnedRules.final_rule hclosed hv hv'

theorem nesting (h : Repairable html) (hwords : ClassWords (LearnedRules.Final table) html) :
    Repaired table (Nesting.check .repair html).html where
  words := Nesting.classWords_repaired (.of_orderly h.regular.orderly) hwords
  apart := Nesting.apart_repaired (.of_orderly h.regular.orderly) (Nesting.boxesClosed_of_nested h.nested)

end Repairable

namespace Pipeline

/-- One run of the markup stage in repair mode. -/
def repair (table : RuleTable) (d : Document) : Outcome := (standard table).run [markupStage] .repair d

def oneRule : RuleTable := .ofRules [.certain "old".toList "p-2 content-[\"x\"]".toList] ""

end Pipeline

end ResponsiveMarkup
