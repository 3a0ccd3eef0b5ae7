import ResponsiveMarkup.Contract.LearnedRules
import ResponsiveMarkup.Contract.Typography
import ResponsiveMarkup.Proofs.Markup.Escape
import ResponsiveMarkup.Proofs.Markup.Rewording
import ResponsiveMarkup.Proofs.Text.Words

/-!
The two contracts that rewrite classes. Each rewords all tags by a rule on class values, and neither rule brings a
double quote: one only leaves tokens out, and the other escapes what it puts in.
-/

namespace ResponsiveMarkup

open Text Contract

theorem Contract.Result.html_updateHtml (r : Contract.Result) (html : Text) : (r.updateHtml html).html = html := by
  rw [updateHtml]
  split
  · rename_i h
    exact h.symm
  · rfl

theorem Contract.Result.metric_updateHtml (r : Contract.Result) (html : Text) (name : String) :
    (r.updateHtml html).metric name = r.metric name := by
  rw [updateHtml]
  split <;> rfl

/-! ### Counting tokens -/

/-- What is taken from the class attribute of a tag is a matter of its value, as an attribute with a value has a range
for it. -/
theorem map_classAttribute {α β : Type} {tag : StartTag} (hpaired : ∀ a ∈ tag.attributes, a.Paired)
    {f : Attribute → Text → Span → α} {g : α → β} {k : Text → β} (h : ∀ a v r, g (f a v r) = k v) :
    ((tag.attribute? Names.classes).bind fun a => a.value.bind fun v => a.valueSpan.bind fun r =>
      some (f a v r)).map g = (tag.value? Names.classes).map k := by
  rw [StartTag.value?]
  cases hfound : tag.attribute? Names.classes with
  | none => rfl
  | some a =>
    have hpair := hpaired a (List.mem_of_find?_eq_some hfound)
    rw [Attribute.Paired] at hpair
    cases hv : a.value with
    | none => simp [hv]
    | some v =>
      rw [hv, eq_comm, Option.isSome_some, Option.isSome_iff_exists] at hpair
      obtain ⟨r, hr⟩ := hpair
      simp [hv, hr, h]

theorem foldr_countP (p : Text → Bool) (values : List Text) :
    (values.map fun v => (words v).countP p).foldr (· + ·) 0 = (values.flatMap words).countP p := by
  induction values with
  | nil => rfl
  | cons v values ih => rw [List.map_cons, List.foldr_cons, ih, List.flatMap_cons, List.countP_append]

/-- What counts for nothing may be left out. -/
theorem foldr_add_filter {α : Type} {f : α → Nat} {p : α → Bool} (h : ∀ a, p a = false → f a = 0) (as : List α) :
    ((as.filter p).map f).foldr (· + ·) 0 = (as.map f).foldr (· + ·) 0 := by
  induction as with
  | nil => rfl
  | cons a as ih =>
    by_cases hp : p a = true
    · rw [List.filter_cons_of_pos hp, List.map_cons, List.map_cons, List.foldr_cons, List.foldr_cons, ih]
    · rw [List.filter_cons_of_neg hp, List.map_cons, List.foldr_cons, ih, h a (by simpa using hp), Nat.zero_add]

/-! ### The rules -/

theorem no_quote_classValue_of {tokens : List Text} (h : ∀ t ∈ tokens, '"' ∉ t) : '"' ∉ classValue tokens := by
  intro hquote
  rcases mem_joinWith hquote with hc | ⟨t, ht, hc⟩
  · simp at hc
  · exact h t ht hc

theorem no_quote_of_mem_words {v w : Text} (hv : '"' ∉ v) (hw : w ∈ words v) : '"' ∉ w :=
  fun h => hv ((isWord_of_mem_words hw).2 _ h)

namespace Typography

/-- Malformed tokens are left out, and the attribute with them when no other is there. -/
def rule (value : Text) : ClassChange :=
  let (malformed, wellFormed) := (words value).partition isMalformedFont
  if malformed.isEmpty then .keep else if wellFormed.isEmpty then .drop else .set (classValue wellFormed)

theorem splices_eq (html : Text) :
    (((startTags html).filterMap classAttribute?).filter fun o => !o.malformed.isEmpty).map Offence.splice =
      (startTags html).filterMap (StartTag.classSplice? rule) := by
  rw [List.filter_filterMap, List.map_filterMap]
  apply List.filterMap_congr
  intro tag _
  rw [classAttribute?, StartTag.classSplice?]
  cases tag.attribute? Names.classes with
  | none => rfl
  | some a =>
    cases hv : a.value with
    | none => simp [hv]
    | some v =>
      cases hr : a.valueSpan with
      | none => simp [hv, hr]
      | some r =>
        simp only [Option.bind_eq_bind, Option.bind_some, hv, hr, rule]
        cases hparts : (words v).partition isMalformedFont with
        | mk malformed wellFormed =>
          cases malformed with
          | nil => rfl
          | cons t ts => cases wellFormed <;> rfl

theorem quoteFree_rule : QuoteFree rule := by
  intro v w h hv
  rw [rule, List.partition_eq_filter_filter] at h
  simp only at h
  split at h
  · cases h
  · split at h
    · cases h
    · cases h
      exact no_quote_classValue_of fun t ht => no_quote_of_mem_words hv (List.mem_filter.mp ht).1

theorem html_repaired (html : Text) : (check .repair html).html =
    spliced html ((startTags html).filterMap (StartTag.classSplice? rule)) := by
  rw [← splices_eq]
  exact Result.html_updateHtml _ _

end Typography

namespace LearnedRules

def rule (table : RuleTable) (value : Text) : ClassChange :=
  if 0 < (substituteClass table value).hits then .set (classValue (substituteClass table value).tokens) else .keep

theorem splices_eq (table : RuleTable) (html : Text) :
    (((startTags html).filterMap (substituteTag? table)).filter fun r => 0 < r.2.hits).map splice =
      (startTags html).filterMap (StartTag.classSplice? (rule table)) := by
  rw [List.filter_filterMap, List.map_filterMap]
  apply List.filterMap_congr
  intro tag _
  rw [substituteTag?, StartTag.classSplice?]
  cases tag.attribute? Names.classes with
  | none => rfl
  | some a =>
    cases hv : a.value with
    | none => simp [hv]
    | some v =>
      cases hr : a.valueSpan with
      | none => simp [hv, hr]
      | some r =>
        simp only [Option.bind_eq_bind, Option.bind_some, hv, hr, rule]
        by_cases hhits : 0 < (substituteClass table v).hits
        · simp [Option.filter, hhits, splice, ClassChange.splice?]
        · simp [Option.filter, hhits, ClassChange.splice?]

theorem quoteFree_rule (table : RuleTable) : QuoteFree (rule table) := by
  intro v w h hv
  rw [rule] at h
  split at h
  · cases h
    apply no_quote_classValue_of
    intro t ht
    obtain ⟨u, hu, rfl⟩ := List.mem_map.mp ht
    rw [substituteToken]
    split
    · exact no_quote_escapeAttr _
    · exact no_quote_of_mem_words hv hu
  · cases h

theorem html_repaired (table : RuleTable) (html : Text) : (check table .repair html).html =
    if table.isEmpty then html
    else spliced html ((startTags html).filterMap (StartTag.classSplice? (rule table))) := by
  rw [← splices_eq]
  simp only [check]
  split
  · rfl
  · exact Result.html_updateHtml _ _

end LearnedRules

end ResponsiveMarkup
