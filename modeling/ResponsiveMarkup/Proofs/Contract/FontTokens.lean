import Mathlib.Data.List.Forall2
import ResponsiveMarkup.Proofs.Contract.CleanTokens

/-!
Malformed font tokens, and what a repair makes of the tags that have them. The other tokens stay in their order, and a
class attribute goes when nothing is left in it. What stands in front of such an attribute must end in a quote: a slash
would come to stand at the end of the tag and close the element.
-/

namespace ResponsiveMarkup

open Text Scanner Contract

/-! ### All class attributes -/

def Content.classAttributes : Content → List (Text × Option Text)
  | startTag _ attributes _ => attributes.filter fun a => sameName a.1 Names.classes
  | _ => []

/-- All class attributes of a markup, those that a tag has twice included. -/
def classAttributes (markup : Text) : List (Text × Option Text) := (contents markup).flatMap Content.classAttributes

/-- Where no name occurs twice and all attributes have values, all that is in class attributes is in the first ones. -/
theorem map_classAttributes_tag {parts : List TagPart} (hquoted : AttributesQuoted parts)
    (hdistinct : DistinctNames parts) :
    ((parts.filterMap TagPart.content?).filter fun a => sameName a.1 Names.classes).map (·.2) =
      ((classOf? parts).map some).toList := by
  induction parts with
  | nil => rfl
  | cons part parts ih =>
    have hrest : AttributesQuoted parts := fun q hq => hquoted q (List.mem_cons_of_mem part hq)
    by_cases hclass : part.isClass = true
    · have hnone : (parts.filterMap TagPart.content?).filter (fun a => sameName a.1 Names.classes) = [] := by
        rw [List.filter_eq_nil_iff]
        intro a ha hsame
        obtain ⟨q, hq, hcontent⟩ := List.mem_filterMap.mp ha
        rw [← TagPart.isClass_of_content? hcontent, hdistinct.no_class_behind hclass q hq] at hsame
        cases hsame
      obtain ⟨c, lead, name, gap, indent, v, rfl⟩ := hquoted part List.mem_cons_self (part.content?_of_isClass hclass)
      have hcontent : (TagPart.named (c :: lead) name (some ⟨gap, indent, .quoted '"' v true⟩)).content? =
          some (name, some v) := rfl
      rw [classOf?_cons_of_class hclass, List.filterMap_cons_some hcontent, List.filter_cons_of_pos (by exact hclass),
        hnone]
      rfl
    · rw [Bool.not_eq_true] at hclass
      rw [classOf?_cons_of_not_class hclass, ← ih hrest hdistinct.tail]
      cases hcontent : part.content? with
      | none => rw [List.filterMap_cons_none hcontent]
      | some a =>
        rw [TagPart.isClass_of_content? hcontent] at hclass
        rw [List.filterMap_cons_some hcontent, List.filter_cons_of_neg (by simp [hclass])]

theorem map_classAttributes {markup : Text}
    (hquoted : ∀ t, Piece.startTag t ∈ pieces markup → AttributesQuoted t.parts)
    (hdistinct : ∀ t, Piece.startTag t ∈ pieces markup → DistinctNames t.parts) :
    (classAttributes markup).map (·.2) = ((contents markup).filterMap Content.class?).map some := by
  rw [classAttributes, contents_eq, List.map_flatMap, List.map_filterMap, List.filterMap_eq_flatMap_toList]
  refine List.flatMap_congr fun c hc => ?_
  obtain ⟨p, hp, rfl⟩ := List.mem_map.mp hc
  cases p with
  | startTag t => exact map_classAttributes_tag (hquoted t hp) (hdistinct t hp)
  | endTag name tail => rfl
  | comment body closed => rfl
  | declaration body closed => rfl
  | text body => rfl

namespace Typography

/-- A class value in which every token is malformed, and there is one. -/
def emptied (value : Text) : Bool := !(words value).isEmpty && (words value).all isMalformedFont

/-- A piece before and after a repair. A tag without malformed tokens is the same to the last byte. -/
inductive Cleaned : Piece → Piece → Prop where
  | same {p : Piece} (clean : ∀ v, p.content.class? = some v → ∀ t ∈ words v, isMalformedFont t = false) : Cleaned p p
  | thinned {p : Piece} {v w : Text} (value : p.content.class? = some v)
      (malformed : ∃ t ∈ words v, isMalformedFont t = true) (left : ∃ t ∈ words v, isMalformedFont t = false)
      (tokens : words w = (words v).filter fun t => !isMalformedFont t) : Cleaned p (p.withClass w)
  | dropped {t : TagText} {v : Text} (value : classOf? t.parts = some v) (malformed : emptied v = true)
      (gone : ∀ part ∈ t.parts.eraseP TagPart.isClass, part.isClass = false) :
      Cleaned (.startTag t) (.startTag { t with parts := t.parts.eraseP TagPart.isClass })

theorem Cleaned.of_no_class {p : Piece} (h : p.content.class? = none) : Cleaned p p := by
  refine .same fun v hv => ?_
  rw [h] at hv
  cases hv

/-- A repair takes out the malformed tokens and nothing else, and both modes count what there is. -/
structure OnlyCleans (html : Text) : Prop where
  pieces : List.Forall₂ Cleaned (pieces html) (pieces (check .repair html).html)
  attributes : ∀ mode, (check mode html).metric "classAttributes" = (classAttributes html).length
  malformed : ∀ mode, (check mode html).metric "malformedFontTokens" =
    (((classAttributes html).filterMap (·.2)).flatMap words).countP isMalformedFont
  removed : (classAttributes (check .repair html).html).length + (check .repair html).metric "removedAttributes" =
    (classAttributes html).length
  reported : (check .report html).metric "removedAttributes" = 0

theorem rule_cases (value : Text) :
    (∀ t ∈ words value, isMalformedFont t = false) ∧ rule value = .keep ∨
      emptied value = true ∧ rule value = .drop ∨
      ∃ w, (∃ t ∈ words value, isMalformedFont t = true) ∧ (∃ t ∈ words value, isMalformedFont t = false) ∧
        rule value = .set w ∧ words w = (words value).filter fun t => !isMalformedFont t := by
  have hrule : rule value =
      if ((words value).filter isMalformedFont).isEmpty then .keep
      else if ((words value).filter fun t => !isMalformedFont t).isEmpty then .drop
      else .set (classValue ((words value).filter fun t => !isMalformedFont t)) := by
    rw [rule, List.partition_eq_filter_filter]
    rfl
  by_cases hclean : ∀ t ∈ words value, isMalformedFont t = false
  · left
    have hnone : (words value).filter isMalformedFont = [] :=
      List.filter_eq_nil_iff.mpr fun t ht => by simp [hclean t ht]
    exact ⟨hclean, by rw [hrule, hnone]; rfl⟩
  · right
    have hmalformed : ∃ t ∈ words value, isMalformedFont t = true := by simpa using hclean
    have hsome : ((words value).filter isMalformedFont).isEmpty = false := by
      simpa [List.isEmpty_eq_false_iff, List.filter_eq_nil_iff] using hmalformed
    rw [hsome, if_neg Bool.false_ne_true] at hrule
    by_cases hleft : ∃ t ∈ words value, isMalformedFont t = false
    · right
      have hrest : ((words value).filter fun t => !isMalformedFont t).isEmpty = false := by
        simpa [List.isEmpty_eq_false_iff, List.filter_eq_nil_iff] using hleft
      rw [hrest, if_neg Bool.false_ne_true] at hrule
      refine ⟨_, hmalformed, hleft, hrule, words_rule (v := value) ?_⟩
      rw [hrule]
      rfl
    · left
      have hall : ∀ t ∈ words value, isMalformedFont t = true := by simpa using hleft
      have hrest : (words value).filter (fun t => !isMalformedFont t) = [] :=
        List.filter_eq_nil_iff.mpr fun t ht => by simp [hall t ht]
      obtain ⟨t, ht, -⟩ := hmalformed
      refine ⟨?_, by rw [hrule, hrest]; rfl⟩
      rw [emptied, Bool.and_eq_true, Bool.not_eq_true', List.isEmpty_eq_false_iff, List.all_eq_true]
      exact ⟨List.ne_nil_of_mem ht, hall⟩

theorem emptied_eq_false_of_mem {value t : Text} (ht : t ∈ words value) (h : isMalformedFont t = false) :
    emptied value = false := by
  rw [emptied, Bool.and_eq_false_iff]
  right
  rw [List.all_eq_false]
  exact ⟨t, ht, by simp [h]⟩

theorem emptied_eq (value : Text) :
    emptied value = (((words value).filter fun t => !isMalformedFont t).isEmpty &&
      !((words value).filter isMalformedFont).isEmpty) := by
  cases hwords : words value with
  | nil => simp [emptied, hwords]
  | cons t ts =>
    rw [emptied, hwords, Bool.eq_iff_iff]
    simp only [Bool.and_eq_true, Bool.not_eq_true', List.isEmpty_iff, List.isEmpty_eq_false_iff, List.filter_eq_nil_iff,
      List.all_eq_true]
    constructor
    · rintro ⟨-, hall⟩
      refine ⟨fun u hu => by simp [hall u hu], fun hnone => ?_⟩
      exact List.filter_eq_nil_iff.mp hnone t List.mem_cons_self (hall t List.mem_cons_self)
    · rintro ⟨hall, -⟩
      exact ⟨List.cons_ne_nil t ts, fun u hu => by simpa using hall u hu⟩

/-- A class value goes just when it is emptied. -/
theorem isSome_value?_rule (value : Text) : ((rule value).value? value).isSome = !emptied value := by
  rcases rule_cases value with ⟨hclean, hrule⟩ | ⟨hemptied, hrule⟩ | ⟨w, -, ⟨t, ht, hleft⟩, hrule, -⟩
  · rw [hrule]
    cases hwords : words value with
    | nil => simp [emptied, hwords, ClassChange.value?]
    | cons t ts =>
      have ht : t ∈ words value := by rw [hwords]; exact List.mem_cons_self
      rw [emptied_eq_false_of_mem ht (hclean t ht)]
      rfl
  · rw [hrule, hemptied]
    rfl
  · rw [hrule, emptied_eq_false_of_mem ht hleft]
    rfl

theorem cleaned_reword {p : Piece} (hdistinct : ∀ t, p = .startTag t → DistinctNames t.parts) :
    Cleaned p (p.reword rule) := by
  cases p with
  | startTag t =>
    rw [Piece.reword, reword]
    cases hclass : classOf? t.parts with
    | none => exact .of_no_class hclass
    | some v =>
      rw [Option.map_some, Option.getD_some]
      rcases rule_cases v with ⟨hclean, hrule⟩ | ⟨hemptied, hrule⟩ | ⟨w, hmalformed, hleft, hrule, hwords⟩
      · rw [hrule]
        refine .same fun v' hv' => ?_
        obtain rfl : v = v' := Option.some.inj (hclass.symm.trans hv')
        exact hclean
      · rw [hrule]
        exact .dropped hclass hemptied (hdistinct t rfl).no_class_eraseP
      · rw [hrule]
        exact .thinned (p := .startTag t) hclass hmalformed hleft hwords
  | endTag name tail => exact .of_no_class rfl
  | comment body closed => exact .of_no_class rfl
  | declaration body closed => exact .of_no_class rfl
  | text body => exact .of_no_class rfl

/-! ### Counting -/

/-- The tokens of the class attributes that the contract looks at. -/
theorem map_offences (html : Text) :
    ((startTags html).filterMap classAttribute?).map (fun o => (o.malformed, o.wellFormed)) =
      ((contents html).filterMap Content.class?).map fun v => (words v).partition isMalformedFont := by
  rw [← filterMap_class?, List.map_filterMap, List.map_filterMap]
  refine List.filterMap_congr fun tag htag => ?_
  exact map_classAttribute (paired_of_mem_startTags htag) fun _ v _ => rfl

theorem metric_classAttributes (mode : Mode) (html : Text) :
    (check mode html).metric "classAttributes" = ((contents html).filterMap Content.class?).length := by
  have hlength := congrArg List.length (map_offences html)
  rw [List.length_map, List.length_map] at hlength
  rw [← hlength]
  cases mode with
  | report => rfl
  | repair => exact Result.metric_updateHtml _ _ _

theorem metric_malformedFontTokens (mode : Mode) (html : Text) : (check mode html).metric "malformedFontTokens" =
    (((contents html).filterMap Content.class?).flatMap words).countP isMalformedFont := by
  have hcounts : ((startTags html).filterMap classAttribute?).map (·.malformed.length) =
      ((contents html).filterMap Content.class?).map fun v => (words v).countP isMalformedFont := by
    have hboth := congrArg (List.map fun o => o.1.length) (map_offences html)
    rw [List.map_map, List.map_map] at hboth
    refine hboth.trans (List.map_congr_left fun v _ => ?_)
    rw [Function.comp_apply, List.partition_eq_filter_filter, List.countP_eq_length_filter]
  have hcounted : ((((startTags html).filterMap classAttribute?).filter fun o => !o.malformed.isEmpty).map
      (·.malformed.length)).foldr (· + ·) 0 =
        (((contents html).filterMap Content.class?).flatMap words).countP isMalformedFont := by
    rw [foldr_add_filter (by simp), hcounts, foldr_countP]
  rw [← hcounted]
  cases mode with
  | report => rfl
  | repair => exact Result.metric_updateHtml _ _ _

theorem metric_removedAttributes (html : Text) : (check .repair html).metric "removedAttributes" =
    ((contents html).filterMap Content.class?).countP emptied := by
  have hcounted : ((((startTags html).filterMap classAttribute?).filter fun o => !o.malformed.isEmpty).filter
      fun o => o.wellFormed.isEmpty).length = ((contents html).filterMap Content.class?).countP emptied := by
    have hboth := congrArg (List.countP fun o => o.2.isEmpty && !o.1.isEmpty) (map_offences html)
    rw [List.countP_map, List.countP_map] at hboth
    rw [← List.countP_eq_length_filter, List.countP_filter]
    refine Eq.trans hboth (List.countP_congr fun v _ => ?_)
    rw [Function.comp_apply, List.partition_eq_filter_filter, emptied_eq]
    rfl
  rw [← hcounted]
  exact Result.metric_updateHtml _ _ _

/-! ### The repaired text -/

theorem class?_reword {p : Piece} (hdistinct : ∀ t, p = .startTag t → DistinctNames t.parts) :
    (p.reword rule).content.class? = p.content.class?.bind fun v => (rule v).value? v := by
  cases p with
  | startTag t => exact (hdistinct t rfl).classOf?_reword rule
  | endTag name tail => rfl
  | comment body closed => rfl
  | declaration body closed => rfl
  | text body => rfl

section

variable {html : Text} (hquoted : ∀ t, Piece.startTag t ∈ pieces html → AttributesQuoted t.parts)
  (hdistinct : ∀ t, Piece.startTag t ∈ pieces html → DistinctNames t.parts)
  (hstops : ∀ t, Piece.startTag t ∈ pieces html → ∀ v, classOf? t.parts = some v → emptied v = true →
    Omitted (t.lead ++ t.stop.source) t.parts (t.parts.eraseP TagPart.isClass))

include hquoted hstops

theorem ruleFits : RuleFits html rule := by
  intro t ht v hv
  have hclasses := (hquoted t ht).classInDoubleQuotes
  rcases rule_cases v with ⟨-, hrule⟩ | ⟨hemptied, hrule⟩ | ⟨w, -, -, hrule, -⟩
  · rw [hrule]
    trivial
  · rw [hrule]
    exact ⟨(hquoted t ht).spaced, hstops t ht v hv hemptied⟩
  · obtain ⟨f, hfits⟩ := TagText.Fits.of_mem_pieces ht
    rw [hrule]
    exact ⟨quoteFree_rule v w hrule (no_quote_of_classOf? hfits.parts hclasses hv), hclasses⟩

theorem pieces_repaired : pieces (check .repair html).html = (pieces html).map (Piece.reword rule) := by
  rw [html_repaired]
  exact (ruleFits hquoted hstops).pieces_spliced rfl

include hdistinct

/-- Before and after a repair the values of the first class attributes are those of all. -/
theorem map_classAttributes_repaired : (classAttributes (check .repair html).html).map (·.2) =
    (((contents html).filterMap Content.class?).filterMap fun v => (rule v).value? v).map some := by
  have hreworked : ∀ t, Piece.startTag t ∈ pieces (check .repair html).html →
      ∃ u, Piece.startTag u ∈ pieces html ∧ Reworked u.parts t.parts := by
    intro t ht
    rw [html_repaired] at ht
    obtain ⟨u, hu, -, k⟩ := (ruleFits hquoted hstops).startTag_of_mem_spliced rfl ht
    exact ⟨u, hu, k⟩
  rw [map_classAttributes]
  · rw [contents_eq, contents_eq, pieces_repaired hquoted hstops, List.map_map, List.filterMap_map,
      List.filterMap_filterMap, List.filterMap_map]
    refine congrArg (List.map some) (List.filterMap_congr fun p hp => class?_reword ?_)
    rintro t rfl
    exact hdistinct t hp
  · intro t ht
    obtain ⟨u, hu, k⟩ := hreworked t ht
    exact k.attributesQuoted (hquoted u hu)
  · intro t ht
    obtain ⟨u, hu, k⟩ := hreworked t ht
    exact (hdistinct u hu).reworked k

/-- Where attributes stand in double quotes and no name occurs twice in a tag, a repair takes out the malformed tokens
and nothing else. Only where a class attribute goes must nothing run into what comes to stand behind it. -/
theorem repair_only_cleans : OnlyCleans html := by
  have hvalues := map_classAttributes hquoted hdistinct
  have hlength : (classAttributes html).length = ((contents html).filterMap Content.class?).length := by
    have h := congrArg List.length hvalues
    rwa [List.length_map, List.length_map] at h
  constructor
  · rw [pieces_repaired hquoted hstops, List.forall₂_map_right_iff, List.forall₂_same]
    intro p hp
    refine cleaned_reword ?_
    rintro t rfl
    exact hdistinct t hp
  · intro mode
    rw [metric_classAttributes, hlength]
  · intro mode
    have hsame : (classAttributes html).filterMap (·.2) = (contents html).filterMap Content.class? := by
      have h := congrArg (List.filterMap id) hvalues
      rwa [List.filterMap_map, List.filterMap_map, Function.id_comp, Function.id_comp, List.filterMap_some] at h
    rw [metric_malformedFontTokens, hsame]
  · have hleft := congrArg List.length (map_classAttributes_repaired hquoted hdistinct hstops)
    rw [List.length_map, List.length_map, List.length_filterMap_eq_countP] at hleft
    rw [hleft, metric_removedAttributes, hlength, List.length_eq_countP_add_countP emptied, Nat.add_comm]
    congr 1
    refine List.countP_congr fun v _ => ?_
    rw [isSome_value?_rule]
    simp
  · rfl

end

/-- A heading with two malformed tokens, and an image in it that has nothing but such a token behind a slash. -/
def cutOffFonts : Text :=
  "<h1 class=\"p-2 font-[x md:text-[y m-1\" id=\"t\"><img / class=\"leading-[\" alt=\"\"></h1>".toList

theorem pieces_cutOffFonts : pieces cutOffFonts =
    [.startTag ⟨"h1".toList, [classPart "p-2 font-[x md:text-[y m-1".toList,
        .named [' '] "id".toList (some ⟨[], [], .quoted '"' ['t'] true⟩)], [], .close⟩,
      .startTag ⟨"img".toList, [.slash [' '], classPart "leading-[".toList,
        .named [' '] "alt".toList (some ⟨[], [], .quoted '"' [] true⟩)], [], .close⟩,
      .endTag "h1".toList ['>']] := by
  decide +kernel

theorem repair_only_cleans_cutOffFonts :
    (∀ t, Piece.startTag t ∈ pieces cutOffFonts → AttributesQuoted t.parts) ∧
    (∀ t, Piece.startTag t ∈ pieces cutOffFonts → DistinctNames t.parts) ∧
    (∀ t, Piece.startTag t ∈ pieces cutOffFonts → ∀ v, classOf? t.parts = some v → emptied v = true →
      Omitted (t.lead ++ t.stop.source) t.parts (t.parts.eraseP TagPart.isClass)) ∧
    OnlyCleans cutOffFonts ∧
    (check .repair cutOffFonts).html = "<h1 class=\"p-2 m-1\" id=\"t\"><img / alt=\"\"></h1>".toList := by
  have htags : ∀ t, Piece.startTag t ∈ pieces cutOffFonts →
      t = ⟨"h1".toList, [classPart "p-2 font-[x md:text-[y m-1".toList,
        .named [' '] "id".toList (some ⟨[], [], .quoted '"' ['t'] true⟩)], [], .close⟩ ∨
      t = ⟨"img".toList, [.slash [' '], classPart "leading-[".toList,
        .named [' '] "alt".toList (some ⟨[], [], .quoted '"' [] true⟩)], [], .close⟩ := by
    intro t ht
    simpa [pieces_cutOffFonts] using ht
  have hquoted : ∀ t, Piece.startTag t ∈ pieces cutOffFonts → AttributesQuoted t.parts := by
    intro t ht
    rcases htags t ht with rfl | rfl
    · exact .cons (.cons .nil ⟨' ', [], _, [], [], _, rfl⟩) (wellQuoted_classPart _)
    · exact .slash (.cons (.cons .nil ⟨' ', [], _, [], [], _, rfl⟩) (wellQuoted_classPart _)) [' ']
  have hdistinct : ∀ t, Piece.startTag t ∈ pieces cutOffFonts → DistinctNames t.parts := by
    intro t ht
    rcases htags t ht with rfl | rfl <;> unfold DistinctNames <;> decide +kernel
  have hstops : ∀ t, Piece.startTag t ∈ pieces cutOffFonts → ∀ v, classOf? t.parts = some v → emptied v = true →
      Omitted (t.lead ++ t.stop.source) t.parts (t.parts.eraseP TagPart.isClass) := by
    intro t ht v hv hemptied
    rcases htags t ht with rfl | rfl
    · cases hv
      exact absurd hemptied (by decide +kernel)
    · refine .keep _ (.inr ?_) (.drop _ (.refl _ _))
      exact fun hclose => nomatch hclose
  exact ⟨hquoted, hdistinct, hstops, repair_only_cleans hquoted hdistinct hstops, by decide +kernel⟩

/-- A box that is closed at once when it loses its class. -/
def closedAtOnce : Text := "<div / class=\"font-[\"></div>".toList

theorem pieces_closedAtOnce : pieces closedAtOnce =
    [.startTag ⟨"div".toList, [.slash [' '], classPart "font-[".toList], [], .close⟩, .endTag "div".toList ['>']] := by
  decide +kernel

/-- Attributes in double quotes are not enough: a slash may stand in front of one that goes. -/
theorem slash_before_class_closes :
    ¬ ∀ html, (∀ t, Piece.startTag t ∈ pieces html → AttributesQuoted t.parts) →
      (∀ t, Piece.startTag t ∈ pieces html → DistinctNames t.parts) → OnlyCleans html := by
  intro h
  have htag : ∀ t, Piece.startTag t ∈ pieces closedAtOnce →
      t = ⟨"div".toList, [.slash [' '], classPart "font-[".toList], [], .close⟩ := by
    intro t ht
    simpa [pieces_closedAtOnce] using ht
  have hquoted : ∀ t, Piece.startTag t ∈ pieces closedAtOnce → AttributesQuoted t.parts := by
    intro t ht
    rw [htag t ht]
    exact .slash (.cons .nil (wellQuoted_classPart _)) [' ']
  have hdistinct : ∀ t, Piece.startTag t ∈ pieces closedAtOnce → DistinctNames t.parts := by
    intro t ht
    rw [htag t ht]
    exact List.pairwise_singleton _ _
  have hrepaired : pieces (check .repair closedAtOnce).html =
      [.startTag ⟨"div".toList, [], [' '], .selfClose⟩, .endTag "div".toList ['>']] := by
    decide +kernel
  have hpieces := (h closedAtOnce hquoted hdistinct).pieces
  rw [hrepaired, pieces_closedAtOnce] at hpieces
  cases hpieces with
  | cons hfirst _ => cases hfirst

end Typography

end ResponsiveMarkup
