import Mathlib.Data.List.Basic
import ResponsiveMarkup.Proofs.Markup.Rewording

/-!
Markup whose tags can be edited one attribute at a time: orderly tags in which no attribute name occurs twice. Such a
tag has one class value at most, so a rule on class values decides all there is to read in the edited text.
-/

namespace ResponsiveMarkup

open Text Scanner

/-- No attribute name occurs twice, in whatever case. -/
def DistinctNames (parts : List TagPart) : Prop :=
  (((parts.filterMap TagPart.content?).map (·.1)).map asciiLower).Nodup

structure Regular (markup : Text) : Prop where
  orderly : ∀ t, Piece.startTag t ∈ pieces markup → Orderly t.parts
  distinct : ∀ t, Piece.startTag t ∈ pieces markup → DistinctNames t.parts

/-- What holds of all words of all class values. -/
def ClassWords (P : Text → Prop) (markup : Text) : Prop :=
  ∀ t, Piece.startTag t ∈ pieces markup → ∀ v, classOf? t.parts = some v → ∀ w ∈ words v, P w

theorem DistinctNames.reworked {parts parts' : List TagPart} (h : DistinctNames parts) (k : Reworked parts parts') :
    DistinctNames parts' :=
  List.Nodup.sublist (k.names.map asciiLower) h

theorem DistinctNames.tail {part : TagPart} {parts : List TagPart} (h : DistinctNames (part :: parts)) :
    DistinctNames parts := by
  refine List.Nodup.sublist (List.Sublist.map asciiLower ?_) h
  rw [filterMap_cons_toList, List.map_append]
  exact List.sublist_append_right _ _

theorem Regular.spliced {markup : Text} (h : Regular markup) {rule : Text → ClassChange} (hnil : rule [] = .keep)
    (hrule : QuoteFree rule) :
    Regular (spliced markup ((startTags markup).filterMap (StartTag.classSplice? rule))) := by
  have hfits : RuleFits markup rule := .of_orderly h.orderly hrule
  constructor
  · intro t ht
    obtain ⟨u, hu, -, hreworked⟩ := hfits.startTag_of_mem_spliced hnil ht
    exact (h.orderly u hu).reworked hreworked
  · intro t ht
    obtain ⟨u, hu, -, hreworked⟩ := hfits.startTag_of_mem_spliced hnil ht
    exact (h.distinct u hu).reworked hreworked

/-! ### Class values after a change -/

def ClassChange.value? (v : Text) : ClassChange → Option Text
  | keep => some v
  | set w => some w
  | drop => none

theorem classOf?_cons_of_not_class {part : TagPart} (h : part.isClass = false) (parts : List TagPart) :
    classOf? (part :: parts) = classOf? parts := by
  cases part with
  | slash lead => rfl
  | nameless lead indent value => rfl
  | named lead name assigned =>
    have hname : sameName name Names.classes = false := h
    cases assigned <;> simp [classOf?, valueOf?, TagPart.content?, hname]

theorem classOf?_cons_of_class {part : TagPart} (h : part.isClass = true) (parts : List TagPart) :
    classOf? (part :: parts) = part.content?.bind (·.2) := by
  cases part with
  | slash lead => cases h
  | nameless lead indent value => cases h
  | named lead name assigned =>
    have hname : sameName name Names.classes = true := h
    cases assigned <;> simp [classOf?, valueOf?, TagPart.content?, hname]

theorem classOf?_setClass (w : Text) (parts : List TagPart) :
    classOf? (setClass w parts) = (classOf? parts).map fun _ => w := by
  rw [classOf?, classOf?, filterMap_setClass, valueOf?_setClassValue]

theorem classOf?_of_no_class {parts : List TagPart} (h : ∀ part ∈ parts, part.isClass = false) :
    classOf? parts = none := by
  induction parts with
  | nil => rfl
  | cons part parts ih =>
    rw [classOf?_cons_of_not_class (h part List.mem_cons_self)]
    exact ih fun q hq => h q (List.mem_cons_of_mem part hq)

theorem TagPart.isClass_of_content? {part : TagPart} {a : Text × Option Text} (h : part.content? = some a) :
    part.isClass = sameName a.1 Names.classes := by
  cases part with
  | slash lead => cases h
  | nameless lead indent value => cases h
  | named lead name assigned => cases assigned <;> cases h <;> rfl

/-- Behind the class attribute no other follows. -/
theorem DistinctNames.no_class_behind {part : TagPart} {parts : List TagPart} (h : DistinctNames (part :: parts))
    (hclass : part.isClass = true) : ∀ q ∈ parts, q.isClass = false := by
  intro q hq
  by_contra hsame
  rw [Bool.not_eq_false] at hsame
  obtain ⟨a, ha⟩ := Option.ne_none_iff_exists'.mp (part.content?_of_isClass hclass)
  obtain ⟨b, hb⟩ := Option.ne_none_iff_exists'.mp (q.content?_of_isClass hsame)
  rw [TagPart.isClass_of_content? ha, sameName, beq_iff_eq] at hclass
  rw [TagPart.isClass_of_content? hb, sameName, beq_iff_eq] at hsame
  rw [DistinctNames, List.filterMap_cons_some ha, List.map_cons, List.map_cons, List.nodup_cons, hclass, ← hsame,
    List.map_map] at h
  exact h.1 (List.mem_map_of_mem (f := asciiLower ∘ Prod.fst) (List.mem_filterMap.mpr ⟨q, hq, hb⟩))

theorem DistinctNames.no_class_eraseP {parts : List TagPart} (h : DistinctNames parts) :
    ∀ q ∈ parts.eraseP TagPart.isClass, q.isClass = false := by
  induction parts with
  | nil => exact List.forall_mem_nil _
  | cons part parts ih =>
    by_cases hclass : part.isClass = true
    · rw [List.eraseP_cons_of_pos hclass]
      exact h.no_class_behind hclass
    · rw [List.eraseP_cons_of_neg hclass]
      exact List.forall_mem_cons.mpr ⟨by simpa using hclass, ih h.tail⟩

theorem DistinctNames.classOf?_reword {parts : List TagPart} (h : DistinctNames parts) (rule : Text → ClassChange) :
    classOf? (reword rule parts) = (classOf? parts).bind fun v => (rule v).value? v := by
  rw [reword]
  cases hclass : classOf? parts with
  | none => exact hclass
  | some v =>
    rw [Option.map_some, Option.getD_some, Option.bind_some]
    cases rule v with
    | keep => exact hclass
    | set w =>
      show classOf? (setClass w parts) = some w
      rw [classOf?_setClass, hclass]
      rfl
    | drop => exact classOf?_of_no_class h.no_class_eraseP

/-- What a rule makes of each class value it makes of the markup. -/
theorem ClassWords.spliced {P Q : Text → Prop} {markup : Text} (h : ClassWords P markup) (hregular : Regular markup)
    {rule : Text → ClassChange} (hnil : rule [] = .keep) (hrule : QuoteFree rule)
    (hwords : ∀ v, (∀ w ∈ words v, P w) → ∀ v' ∈ (rule v).value? v, ∀ w ∈ words v', Q w) :
    ClassWords Q (spliced markup ((startTags markup).filterMap (StartTag.classSplice? rule))) := by
  intro t ht v' hv'
  obtain ⟨u, hu, rfl, -⟩ := (RuleFits.of_orderly hregular.orderly hrule).startTag_of_mem_spliced hnil ht
  rw [(hregular.distinct u hu).classOf?_reword] at hv'
  obtain ⟨v, hv, hchange⟩ := Option.bind_eq_some_iff.mp hv'
  exact hwords v (h u hu v hv) v' hchange

/-- The tags of a markup and their class values. -/
theorem classOf?_of_mem_startTags {markup : Text} {tag : StartTag} (h : tag ∈ startTags markup) :
    ∃ t, Piece.startTag t ∈ pieces markup ∧ classOf? t.parts = tag.value? Names.classes := by
  obtain ⟨t, ht, start, rfl⟩ := exists_of_mem_startTags h
  exact ⟨t, ht, classOf?_eq start t⟩

theorem ClassWords.of_mem_startTags {P : Text → Prop} {markup : Text} (h : ClassWords P markup) {tag : StartTag}
    (htag : tag ∈ startTags markup) {v : Text} (hv : tag.value? Names.classes = some v) : ∀ w ∈ words v, P w := by
  obtain ⟨t, ht, hvalue⟩ := classOf?_of_mem_startTags htag
  exact h t ht v (by rw [hvalue, hv])

end ResponsiveMarkup
