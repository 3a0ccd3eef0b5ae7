import Mathlib.Data.List.Forall2
import ResponsiveMarkup.Proofs.Contract.CleanTokens

/-!
Learned rules as a substitution on class values. Each token that triggers a rule gives way to the tokens of the
replacement, and all else in the markup stays as it is: whatever a replacement holds, it is written with entities and
cannot leave the value it is put into.
-/

namespace ResponsiveMarkup.LearnedRules

open Text Scanner Contract

/-- Whether a token is a trigger, its entities read. -/
def isTrigger (table : RuleTable) (token : Text) : Bool := table.rules.any fun r => r.trigger == unescapeAttr token

/-- The tokens in place of a token: those of the first rule that it triggers, written with entities. -/
def successors (table : RuleTable) (token : Text) : List Text :=
  match table.rules.find? fun r => r.trigger == unescapeAttr token with
  | some r => (words r.replacement).map escapeQuoted
  | none => [token]

/-- A piece before and after the substitution. A tag in which no token is a trigger is the same to the last byte, and
any other gets a new value for its first class attribute. -/
inductive TokensReplaced (table : RuleTable) : Piece → Piece → Prop where
  | same {p : Piece} (calm : ∀ v, p.content.class? = some v → ∀ t ∈ words v, isTrigger table t = false) :
      TokensReplaced table p p
  | rewritten {p : Piece} {v w : Text} (value : p.content.class? = some v)
      (hit : ∃ t ∈ words v, isTrigger table t = true) (tokens : words w = (words v).flatMap (successors table)) :
      TokensReplaced table p (p.withClass w)

theorem TokensReplaced.of_no_class {table : RuleTable} {p : Piece} (h : p.content.class? = none) :
    TokensReplaced table p p := by
  refine .same fun v hv => ?_
  rw [h] at hv
  cases hv

variable (table : RuleTable)

theorem isSome_ruleFor? (token : Text) : (ruleFor? table token).isSome = isTrigger table token := by
  rw [ruleFor?, RuleTable.lookup?, List.isSome_find?, isTrigger]

theorem words_substituteToken {token : Text} (h : IsWord token) :
    words (substituteToken table token) = successors table token := by
  rw [substituteToken, successors, ruleFor?, RuleTable.lookup?]
  cases table.rules.find? fun r => r.trigger == unescapeAttr token with
  | none => exact h.words_eq
  | some r => exact words_escapeAttr r.replacement

theorem hits_substituteClass (value : Text) :
    (substituteClass table value).hits = (words value).countP (isTrigger table) := by
  rw [substituteClass, ← List.countP_eq_length_filter]
  exact List.countP_congr fun t _ => by rw [isSome_ruleFor?]

theorem rule_cases (value : Text) :
    (∀ t ∈ words value, isTrigger table t = false) ∧ rule table value = .keep ∨
      ∃ w, (∃ t ∈ words value, isTrigger table t = true) ∧ rule table value = .set w ∧
        words w = (words value).flatMap (successors table) := by
  by_cases hhits : 0 < (substituteClass table value).hits
  · right
    have hrule : rule table value = .set (classValue (substituteClass table value).tokens) := if_pos hhits
    refine ⟨classValue (substituteClass table value).tokens, ?_, hrule, ?_⟩
    · rw [hits_substituteClass, List.countP_pos_iff] at hhits
      exact hhits
    · have hset : classValue (substituteClass table value).tokens ∈ (rule table value).value? value := by
        rw [hrule]
        rfl
      rw [words_rule hset]
      exact List.flatMap_congr fun t ht => words_substituteToken table (isWord_of_mem_words ht).1
  · left
    refine ⟨fun t ht => ?_, if_neg hhits⟩
    rw [hits_substituteClass, List.countP_pos_iff] at hhits
    by_contra htrigger
    exact hhits ⟨t, ht, by simpa using htrigger⟩

theorem tokensReplaced_reword (p : Piece) : TokensReplaced table p (p.reword (rule table)) := by
  cases p with
  | startTag t =>
    rw [Piece.reword, reword]
    cases hclass : classOf? t.parts with
    | none => exact .of_no_class hclass
    | some v =>
      rw [Option.map_some, Option.getD_some]
      rcases rule_cases table v with ⟨hcalm, hrule⟩ | ⟨w, hhit, hrule, htokens⟩
      · rw [hrule]
        refine .same fun v' hv' => ?_
        obtain rfl : v = v' := Option.some.inj (hclass.symm.trans hv')
        exact hcalm
      · rw [hrule]
        exact .rewritten (p := .startTag t) hclass hhit htokens
  | endTag name tail => exact .of_no_class rfl
  | comment body closed => exact .of_no_class rfl
  | declaration body closed => exact .of_no_class rfl
  | text body => exact .of_no_class rfl

variable {table} {html : Text}

theorem ruleFits (h : ClassesInDoubleQuotes html) : RuleFits html (rule table) := by
  intro t ht v hv
  rcases rule_cases table v with ⟨-, hrule⟩ | ⟨w, -, hrule, -⟩
  · rw [hrule]
    trivial
  · obtain ⟨f, hfits⟩ := TagText.Fits.of_mem_pieces ht
    rw [hrule]
    exact ⟨quoteFree_rule table v w hrule (no_quote_of_classOf? hfits.parts (h t ht) hv), h t ht⟩

/-- Without rules nothing is reworded, so there is no need to look. -/
theorem reword_of_isEmpty (h : table.isEmpty = true) (p : Piece) : p.reword (rule table) = p := by
  have hkeep (value : Text) : rule table value = .keep := by
    rcases rule_cases table value with ⟨-, hrule⟩ | ⟨w, ⟨t, -, htrigger⟩, -⟩
    · exact hrule
    · rw [isTrigger, List.isEmpty_iff.mp h] at htrigger
      cases htrigger
  cases p with
  | startTag t =>
    rw [Piece.reword, reword]
    cases classOf? t.parts with
    | none => rfl
    | some v =>
      rw [Option.map_some, Option.getD_some, hkeep]
      rfl
  | endTag name tail => rfl
  | comment body closed => rfl
  | declaration body closed => rfl
  | text body => rfl

theorem pieces_repaired (h : ClassesInDoubleQuotes html) :
    pieces (check table .repair html).html = (pieces html).map (Piece.reword (rule table)) := by
  rw [html_repaired]
  split
  · rename_i hempty
    rw [List.map_congr_left fun p _ => reword_of_isEmpty hempty p, List.map_id']
  · exact (ruleFits h).pieces_spliced rfl

theorem metric_ruleHits (table : RuleTable) (mode : Mode) (html : Text) : (check table mode html).metric "ruleHits" =
    (((contents html).filterMap Content.class?).flatMap words).countP (isTrigger table) := by
  have hvalues : ((startTags html).filterMap (substituteTag? table)).map (·.2.hits) =
      ((contents html).filterMap Content.class?).map fun v => (words v).countP (isTrigger table) := by
    rw [← filterMap_class?, List.map_filterMap, List.map_filterMap]
    refine List.filterMap_congr fun tag htag => ?_
    exact map_classAttribute (paired_of_mem_startTags htag) fun _ v _ => hits_substituteClass table v
  have hcounted : ((((startTags html).filterMap (substituteTag? table)).filter fun r => 0 < r.2.hits).map
      (·.2.hits)).foldr (· + ·) 0 =
        (((contents html).filterMap Content.class?).flatMap words).countP (isTrigger table) := by
    rw [foldr_add_filter (by simp), hvalues, foldr_countP]
  rw [← hcounted]
  simp only [check]
  split
  · rfl
  · cases mode with
    | report => rfl
    | repair => exact Result.metric_updateHtml _ _ _

/-- The rules substitute tokens of class values in one step and change nothing else, whatever their triggers and
replacements are, and they count the tokens that give way. -/
theorem repair_substitutes (table : RuleTable) {html : Text} (h : ClassesInDoubleQuotes html) :
    List.Forall₂ (TokensReplaced table) (pieces html) (pieces (check table .repair html).html) ∧
    ∀ mode, (check table mode html).metric "ruleHits" =
      (((contents html).filterMap Content.class?).flatMap words).countP (isTrigger table) := by
  refine ⟨?_, fun mode => metric_ruleHits table mode html⟩
  rw [pieces_repaired h, List.forall₂_map_right_iff, List.forall₂_same]
  exact fun p _ => tokensReplaced_reword table p

/-- A paragraph with a token that holds a quote. -/
def quotedToken : Text := "<p class=\"x gap-[&quot;] y\">Go</p>".toList

/-- Two rules for that token. The first would close the attribute, and brings its own trigger back. -/
def breakout : RuleTable :=
  .ofRules [.certain "gap-[\"]".toList "\"><a>\n&\tgap-[\"]".toList, .certain "gap-[\"]".toList ['z']] ""

theorem pieces_quotedToken : pieces quotedToken =
    [.startTag ⟨['p'], [classPart "x gap-[&quot;] y".toList], [], .close⟩, .text "Go".toList, .endTag ['p'] ['>']] := by
  decide +kernel

theorem repair_substitutes_breakout :
    ClassesInDoubleQuotes quotedToken ∧
    (check breakout .repair quotedToken).html = "<p class=\"x &quot;><a> &amp; gap-[&quot;] y\">Go</p>".toList ∧
    List.Forall₂ (TokensReplaced breakout) (pieces quotedToken)
      (pieces "<p class=\"x &quot;><a> &amp; gap-[&quot;] y\">Go</p>".toList) ∧
    (check breakout .report quotedToken).metric "ruleHits" = 1 := by
  have hquoted : ClassesInDoubleQuotes quotedToken := by
    intro t ht part hpart
    simp only [pieces_quotedToken, List.mem_cons, Piece.startTag.injEq, List.not_mem_nil, or_false,
      reduceCtorEq] at ht
    rw [ht, List.mem_singleton] at hpart
    rw [hpart]
    exact (wellQuoted_classPart _).classInDoubleQuotes
  have hrepaired : (check breakout .repair quotedToken).html =
      "<p class=\"x &quot;><a> &amp; gap-[&quot;] y\">Go</p>".toList := by
    decide +kernel
  obtain ⟨hreplaced, hcount⟩ := repair_substitutes breakout hquoted
  rw [hrepaired] at hreplaced
  refine ⟨hquoted, hrepaired, hreplaced, ?_⟩
  rw [hcount, contents_eq, pieces_quotedToken]
  decide +kernel

end ResponsiveMarkup.LearnedRules
