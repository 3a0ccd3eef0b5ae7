import Mathlib.Data.List.Basic
import ResponsiveMarkup.Proofs.Markup.Resynchronized

/-!
Tags that stay tags when attributes are taken out of them. Every attribute stands behind a blank and in double quotes
that close, and what stands in front of an attribute ends in a quote: it would not run into what comes to stand
behind it. A slash in front of an attribute would, as `/` and `>` together close the element.
-/

namespace ResponsiveMarkup

open Text Scanner

/-- An attribute that stands behind a blank and has its value in double quotes that close. -/
def TagPart.WellQuoted (part : TagPart) : Prop :=
  ∃ c lead name gap indent v, part = .named (c :: lead) name (some ⟨gap, indent, .quoted '"' v true⟩)

def TagPart.EndsInQuote : TagPart → Prop
  | named _ _ (some a) => ∃ q v, a.value = .quoted q v true
  | nameless _ _ value => ∃ q v, value = .quoted q v true
  | _ => False

/-- Slashes and nameless assignments say nothing; all else is an attribute, behind a blank and in double quotes. -/
def AttributesQuoted (parts : List TagPart) : Prop := ∀ part ∈ parts, part.content? ≠ none → part.WellQuoted

/-- What stands in front of an attribute ends in a quote. -/
structure Orderly (parts : List TagPart) : Prop where
  quoted : ∀ part ∈ parts, part.content? ≠ none → part.WellQuoted
  strays_behind : parts.Pairwise fun part later => part.EndsInQuote ∨ later.content? = none

namespace TagPart

variable {part : TagPart}

theorem WellQuoted.classInDoubleQuotes (h : part.WellQuoted) : part.ClassInDoubleQuotes := by
  obtain ⟨c, lead, name, gap, indent, v, rfl⟩ := h
  intro _ w hw
  cases hw
  exact ⟨true, rfl⟩

theorem WellQuoted.endsInQuote (h : part.WellQuoted) : part.EndsInQuote := by
  obtain ⟨c, lead, name, gap, indent, v, rfl⟩ := h
  exact ⟨_, v, rfl⟩

theorem WellQuoted.withValue (h : part.WellQuoted) (w : Text) : (part.withValue w).WellQuoted := by
  obtain ⟨c, lead, name, gap, indent, v, rfl⟩ := h
  exact ⟨c, lead, name, gap, indent, w, rfl⟩

/-- A part that ends in a quote is read back whatever follows it. -/
theorem EndsInQuote.fits (h : part.EndsInQuote) {f : Text} (hfits : part.Fits f) (f' : Text) : part.Fits f' := by
  cases part with
  | slash lead => cases h
  | nameless lead indent value =>
    obtain ⟨q, v, rfl⟩ := h
    obtain ⟨hlead, hindent, hquote, hv, -⟩ := hfits
    exact ⟨hlead, hindent, hquote, hv, fun hc => nomatch hc⟩
  | named lead name assigned =>
    cases assigned with
    | none => cases h
    | some a =>
      obtain ⟨q, v, hvalue⟩ := h
      obtain ⟨hlead, hname, hgap, hindent, hfits⟩ := hfits
      rw [hvalue] at hfits
      refine ⟨hlead, hname, hgap, hindent, ?_⟩
      rw [hvalue]
      exact ⟨hfits.1, hfits.2.1, fun hc => nomatch hc⟩

theorem content?_of_isClass (h : part.isClass = true) : part.content? ≠ none := by
  cases part with
  | slash lead => cases h
  | nameless lead indent value => cases h
  | named lead name assigned => cases assigned <;> exact fun hnone => nomatch hnone

end TagPart

/-- A part ` class="…"`. -/
def classPart (v : Text) : TagPart := .named [' '] Names.classes (some ⟨[], [], .quoted '"' v true⟩)

theorem wellQuoted_classPart (v : Text) : (classPart v).WellQuoted := ⟨' ', [], _, [], [], v, rfl⟩

theorem orderly_of_wellQuoted {parts : List TagPart} (h : ∀ part ∈ parts, part.WellQuoted) : Orderly parts where
  quoted part hpart _ := h part hpart
  strays_behind := List.pairwise_of_forall_mem_list fun part hpart _ _ => Or.inl (h part hpart).endsInQuote

theorem AttributesQuoted.nil : AttributesQuoted [] := by
  intro part hpart
  cases hpart

theorem AttributesQuoted.slash {parts : List TagPart} (h : AttributesQuoted parts) (lead : Text) :
    AttributesQuoted (.slash lead :: parts) := by
  intro part hpart hcontent
  rcases List.mem_cons.mp hpart with rfl | hpart
  · exact absurd rfl hcontent
  · exact h part hpart hcontent

theorem AttributesQuoted.cons {parts : List TagPart} (h : AttributesQuoted parts) {part : TagPart}
    (hquoted : part.WellQuoted) : AttributesQuoted (part :: parts) := by
  intro q hq hcontent
  rcases List.mem_cons.mp hq with rfl | hq
  · exact hquoted
  · exact h q hq hcontent

theorem AttributesQuoted.classInDoubleQuotes {parts : List TagPart} (h : AttributesQuoted parts) :
    ∀ part ∈ parts, part.ClassInDoubleQuotes := by
  intro part hpart
  by_cases hcontent : part.content? = none
  · cases part with
    | slash lead => trivial
    | nameless lead indent value => trivial
    | named lead name assigned => cases assigned <;> cases hcontent
  · exact (h part hpart hcontent).classInDoubleQuotes

theorem Orderly.tail {part : TagPart} {parts : List TagPart} (h : Orderly (part :: parts)) : Orderly parts where
  quoted q hq := h.quoted q (List.mem_cons_of_mem part hq)
  strays_behind := h.strays_behind.of_cons

/-- Parts after attributes have been left out and classes have been given other values. -/
inductive Reworked : List TagPart → List TagPart → Prop where
  | nil : Reworked [] []
  | keep {parts parts' : List TagPart} (part : TagPart) : Reworked parts parts' →
      Reworked (part :: parts) (part :: parts')
  | drop {parts parts' : List TagPart} {part : TagPart} : part.content? ≠ none → Reworked parts parts' →
      Reworked (part :: parts) parts'
  | set {parts parts' : List TagPart} {part : TagPart} {v : Text} : part.isClass = true → '"' ∉ v →
      Reworked parts parts' → Reworked (part :: parts) (part.withValue v :: parts')

namespace Reworked

variable {parts parts' : List TagPart}

theorem refl (parts : List TagPart) : Reworked parts parts := by
  induction parts with
  | nil => exact .nil
  | cons part parts ih => exact .keep part ih

theorem eraseP_class (parts : List TagPart) : Reworked parts (parts.eraseP TagPart.isClass) := by
  induction parts with
  | nil => exact .nil
  | cons part parts ih =>
    by_cases hclass : part.isClass = true
    · rw [List.eraseP_cons_of_pos hclass]
      exact .drop (part.content?_of_isClass hclass) (refl parts)
    · rw [List.eraseP_cons_of_neg hclass]
      exact .keep part ih

theorem setClass {v : Text} (hv : '"' ∉ v) (parts : List TagPart) : Reworked parts (setClass v parts) := by
  induction parts with
  | nil => exact .nil
  | cons part parts ih =>
    rw [ResponsiveMarkup.setClass]
    by_cases hclass : part.isClass = true
    · rw [if_pos hclass]
      exact .set hclass hv (refl parts)
    · rw [if_neg hclass]
      exact .keep part ih

/-- What a new class value leaves true of a part is true of all parts that are left. -/
theorem forall_mem {P : TagPart → Prop}
    (hset : ∀ part v, part.isClass = true → P part → P (TagPart.withValue v part)) (k : Reworked parts parts')
    (h : ∀ part ∈ parts, P part) : ∀ part ∈ parts', P part := by
  induction k with
  | nil => exact h
  | keep part _ ih =>
    intro q hq
    rcases List.mem_cons.mp hq with rfl | hq
    · exact h q List.mem_cons_self
    · exact ih (fun r hr => h r (List.mem_cons_of_mem part hr)) q hq
  | @drop _ _ part _ _ ih => exact ih fun r hr => h r (List.mem_cons_of_mem part hr)
  | @set _ _ part v hclass _ _ ih =>
    intro q hq
    rcases List.mem_cons.mp hq with rfl | hq
    · exact hset part v hclass (h part List.mem_cons_self)
    · exact ih (fun r hr => h r (List.mem_cons_of_mem part hr)) q hq

theorem wellQuoted (k : Reworked parts parts') (h : ∀ part ∈ parts, part.WellQuoted) :
    ∀ part ∈ parts', part.WellQuoted :=
  k.forall_mem (fun _ v _ hwell => hwell.withValue v) h

theorem attributesQuoted (k : Reworked parts parts') (h : AttributesQuoted parts) : AttributesQuoted parts' := by
  refine k.forall_mem (fun part v hclass hwell _ => ?_) h
  exact (hwell (part.content?_of_isClass hclass)).withValue v

/-- Parts of which none is an attribute stay as they are. -/
theorem eq_of_strays (k : Reworked parts parts') (h : ∀ part ∈ parts, part.content? = none) : parts' = parts := by
  induction k with
  | nil => rfl
  | keep part _ ih => rw [ih fun q hq => h q (List.mem_cons_of_mem part hq)]
  | drop hcontent => exact absurd (h _ List.mem_cons_self) hcontent
  | set hclass => exact absurd (h _ List.mem_cons_self) (TagPart.content?_of_isClass hclass)

theorem names (k : Reworked parts parts') :
    ((parts'.filterMap TagPart.content?).map (·.1)).Sublist ((parts.filterMap TagPart.content?).map (·.1)) := by
  induction k with
  | nil => exact List.Sublist.refl _
  | keep part _ ih =>
    rw [filterMap_cons_toList, filterMap_cons_toList, List.map_append, List.map_append]
    exact (List.Sublist.refl _).append ih
  | drop _ _ ih =>
    rw [filterMap_cons_toList, List.map_append]
    exact ih.trans (List.sublist_append_right _ _)
  | @set _ _ part v _ _ _ ih =>
    have hname : ((part.withValue v).content?.toList).map (·.1) = (part.content?.toList).map (·.1) := by
      cases part with
      | slash lead => rfl
      | nameless lead indent value => rfl
      | named lead name assigned => cases assigned <;> rfl
    rw [filterMap_cons_toList, filterMap_cons_toList, List.map_append, List.map_append, hname]
    exact (List.Sublist.refl _).append ih

end Reworked

namespace Orderly

variable {parts parts' : List TagPart}

/-- Either a part runs into nothing, or all that stands behind it are strays and stays as it is. -/
theorem head_cases {part : TagPart} (h : Orderly (part :: parts)) (k : Reworked parts parts') :
    part.EndsInQuote ∨ parts' = parts := by
  by_cases hquote : part.EndsInQuote
  · exact Or.inl hquote
  · refine Or.inr (k.eq_of_strays fun q hq => ?_)
    exact ((List.pairwise_cons.mp h.strays_behind).1 q hq).resolve_left hquote

theorem reworked (h : Orderly parts) (k : Reworked parts parts') : Orderly parts' := by
  refine ⟨k.attributesQuoted h.quoted, ?_⟩
  induction k with
  | nil => exact .nil
  | @keep _ _ part hrest ih =>
    refine .cons (fun q hq => ?_) (ih h.tail)
    rcases h.head_cases hrest with hquote | hsame
    · exact Or.inl hquote
    · rw [hsame] at hq
      exact (List.pairwise_cons.mp h.strays_behind).1 q hq
  | drop _ _ ih => exact ih h.tail
  | @set _ _ part v hclass _ _ ih =>
    have hwell := h.quoted part List.mem_cons_self (part.content?_of_isClass hclass)
    exact .cons (fun q _ => Or.inl (hwell.withValue v).endsInQuote) (ih h.tail)

end Orderly

/-! ### Tags -/

theorem not_nameChar_of_syntaxBlank {c : Char} (h : isSyntaxBlank c = true) : isNameChar c = false := by
  simp only [isSyntaxBlank, Bool.or_eq_true, beq_iff_eq] at h
  rcases h with (((rfl | rfl) | rfl) | rfl) | rfl <;> decide

theorem endsTagName_blanks {lead f : Text} (hlead : Blanks lead) (hf : EndsTagName f) : EndsTagName (lead ++ f) := by
  intro c hc
  cases lead with
  | nil => exact hf c hc
  | cons d lead =>
    cases hc
    exact not_nameChar_of_syntaxBlank (hlead _ List.mem_cons_self)

theorem endsTagName_cons {c : Char} (h : isNameChar c = false) (f : Text) : EndsTagName (c :: f) := by
  intro d hd
  cases hd
  exact h

/-- A blank stands in front of the part if it is an attribute. -/
def TagPart.Spaced : TagPart → Prop
  | named lead _ _ => lead ≠ []
  | _ => True

theorem TagPart.WellQuoted.spaced {part : TagPart} (h : part.WellQuoted) : part.Spaced := by
  obtain ⟨c, lead, name, gap, indent, v, rfl⟩ := h
  exact List.cons_ne_nil c lead

theorem AttributesQuoted.spaced {parts : List TagPart} (h : AttributesQuoted parts) : ∀ part ∈ parts, part.Spaced := by
  intro part hpart
  cases part with
  | slash lead => trivial
  | nameless lead indent value => trivial
  | named lead name assigned =>
    exact (h _ hpart (by cases assigned <;> exact fun hnone => nomatch hnone)).spaced

/-- A tag's name ends before parts with blanks in front and before the end of the tag. -/
theorem endsTagName_of_spaced {parts : List TagPart} (h : ∀ part ∈ parts, part.Spaced) {lead f : Text} {stop : TagStop}
    (hfits : PartsFit parts (lead ++ (stop.source ++ f))) (hlead : Blanks lead) (hstop : stop = .cutOff → f = []) :
    EndsTagName (parts.flatMap TagPart.source ++ (lead ++ (stop.source ++ f))) := by
  have hslash : isNameChar '/' = false := by decide
  have hequals : isNameChar '=' = false := by decide
  have hclose : isNameChar '>' = false := by decide
  cases parts with
  | nil =>
    rw [List.flatMap_nil, List.nil_append]
    refine endsTagName_blanks hlead ?_
    cases stop with
    | close => exact endsTagName_cons hclose _
    | selfClose => exact endsTagName_cons hslash _
    | cutOff =>
      rw [hstop rfl]
      exact fun c hc => nomatch hc
  | cons part parts =>
    obtain ⟨hpart, -⟩ := hfits
    rw [List.flatMap_cons, List.append_assoc]
    cases part with
    | slash lead =>
      rw [TagPart.source, List.append_assoc]
      exact endsTagName_blanks hpart.1 (endsTagName_cons hslash _)
    | nameless lead indent value =>
      rw [TagPart.source, List.append_assoc, List.append_assoc]
      exact endsTagName_blanks hpart.1 (endsTagName_cons hequals _)
    | named lead name assigned =>
      have hspaced := h _ List.mem_cons_self
      have hblanks : Blanks lead := by cases assigned <;> exact hpart.1
      obtain ⟨c, r, rfl⟩ := List.exists_cons_of_ne_nil hspaced
      have hc := not_nameChar_of_syntaxBlank (hblanks c List.mem_cons_self)
      cases assigned <;> exact endsTagName_cons hc _

end ResponsiveMarkup
