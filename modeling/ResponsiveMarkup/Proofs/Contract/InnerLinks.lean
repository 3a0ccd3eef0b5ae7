import Mathlib.Data.List.Forall2
import Mathlib.Data.List.Indexes
import ResponsiveMarkup.Proofs.Contract.LeftOpen

/-!
Inner links and buttons where every end tag closes the innermost open element. Which tags a repair changes is then said
by the elements open at each place, and both tags of an element change together: the elements of the repaired text nest
as before.
-/

namespace ResponsiveMarkup.Nesting

open Text Scanner Contract

/-- What a tag or a text does to the open elements, the innermost first. -/
inductive Step : List Text → Content → List Text → Prop where
  | empty {names : List Text} {name : Text} {selfClosing : Bool} (attributes : List (Text × Option Text))
      (h : (selfClosing || isVoidTag name) = true) : Step names (.startTag name attributes selfClosing) names
  | opened {names : List Text} {name : Text} {selfClosing : Bool} (attributes : List (Text × Option Text))
      (h : (selfClosing || isVoidTag name) = false) : Step names (.startTag name attributes selfClosing) (name :: names)
  | closed {innermost name : Text} {outer : List Text} (h : sameName innermost name = true) :
      Step (innermost :: outer) (.endTag name) outer
  | comment {names : List Text} (body : Text) : Step names (.comment body) names
  | text {names : List Text} (body : Text) : Step names (.text body) names

/-- The elements open in front of the content at a place, given those open before all. -/
def openAt (names : List Text) (cs : List Content) (place : Nat) : List Text :=
  (openAfter names (cs.take place)).getD []

/-- Whether a tag belongs to a link or button inside of another one, given the elements open before it. -/
def isInner (names : List Text) : Content → Bool
  | .startTag name _ _ => isInteractiveTag name && names.any isInteractiveTag
  | .endTag _ =>
    match names with
    | [] => false
    | innermost :: outer => isInteractiveTag innermost && outer.any isInteractiveTag
  | _ => false

def isStartTag : Content → Bool
  | .startTag _ _ _ => true
  | _ => false

/-- Open elements by the names that they have in the repaired text. -/
def renamed : List Text → List Text
  | [] => []
  | name :: outer => (if isInteractiveTag name && outer.any isInteractiveTag then plainName else name) :: renamed outer

/-- Open elements as the contract knows them. -/
def stackOf : List Text → List OpenElement
  | [] => []
  | name :: outer =>
    ⟨asciiLower name, isInteractiveTag name, isInteractiveTag name && outer.any isInteractiveTag⟩ :: stackOf outer

/-- A repair gives inner links and buttons another name, takes their attributes from them, and changes nothing else. -/
structure OnlyDemotes (html : Text) : Prop where
  pieces : pieces (check .repair html).html = (pieces html).mapIdx fun place p =>
    if isInner (openAt [] (contents html) place) p.content then p.demoted else p
  nesting : ∀ place, openAfter [] ((contents (check .repair html).html).take place) =
    some (renamed (openAt [] (contents html) place))
  counted : ∀ mode, (check mode html).metric "nestedInteractive" =
    ((contents html).mapIdx fun place c => isStartTag c && isInner (openAt [] (contents html) place) c).count true

/-! ### One piece -/

theorem exists_step {names : List Text} {c : Content} {cs : List Content}
    (h : (openAfter names (c :: cs)).isSome = true) :
    ∃ below, Step names c below ∧ (openAfter below cs).isSome = true := by
  cases c with
  | startTag name attributes selfClosing =>
    rw [openAfter] at h
    cases hempty : selfClosing || isVoidTag name with
    | true =>
      rw [hempty, if_pos rfl] at h
      exact ⟨names, .empty attributes hempty, h⟩
    | false =>
      rw [hempty, if_neg Bool.false_ne_true] at h
      exact ⟨name :: names, .opened attributes hempty, h⟩
  | endTag name =>
    cases names with
    | nil => cases h
    | cons innermost outer =>
      rw [openAfter] at h
      split at h
      · rename_i hsame
        exact ⟨outer, .closed hsame, h⟩
      · cases h
  | comment body => exact ⟨names, .comment body, h⟩
  | text body => exact ⟨names, .text body, h⟩

theorem Step.openAfter_cons {names below : List Text} {c : Content} (h : Step names c below) (cs : List Content) :
    openAfter names (c :: cs) = openAfter below cs := by
  cases h with
  | empty attributes h => rw [openAfter, if_pos h]
  | opened attributes h => rw [openAfter, h, if_neg Bool.false_ne_true]
  | closed h => rw [openAfter, if_pos h]
  | comment body => rfl
  | text body => rfl

theorem Step.openAt_succ {names below : List Text} {c : Content} (h : Step names c below) (cs : List Content)
    (place : Nat) : openAt names (c :: cs) (place + 1) = openAt below cs place := by
  rw [openAt, List.take_succ_cons, h.openAfter_cons, openAt]

theorem any_stackOf (names : List Text) : (stackOf names).any (·.interactive) = names.any isInteractiveTag := by
  induction names with
  | nil => rfl
  | cons name outer ih => rw [stackOf, List.any_cons, List.any_cons, ih]

section

variable {names below : List Text} {p : Piece}

/-- The element that an end tag closes is the innermost. -/
theorem dropWhile_stackOf {innermost name : Text} (h : sameName innermost name = true) (outer : List Text) :
    (stackOf (innermost :: outer)).dropWhile (·.name != asciiLower name) = stackOf (innermost :: outer) := by
  rw [sameName, beq_iff_eq] at h
  rw [stackOf, List.dropWhile_cons_of_neg (by simp [h])]

theorem demotes_stackOf (h : Step names p.content below) : demotes (stackOf names) p = isInner names p.content := by
  cases p with
  | startTag t => rw [demotes, any_stackOf, Piece.content, isInner]
  | endTag name tail =>
    rw [Piece.content] at h
    cases h with
    | closed hsame =>
      rw [demotes, dropWhile_stackOf hsame]
      rfl
  | comment body closed => rfl
  | declaration body closed => rfl
  | text body => rfl

theorem openBehind_stackOf (h : Step names p.content below) : openBehind (stackOf names) p = stackOf below := by
  cases p with
  | startTag t =>
    rw [Piece.content] at h
    rw [openBehind]
    cases h with
    | empty attributes hempty => rw [if_pos hempty]
    | opened attributes hempty =>
      rw [if_neg (by simp [hempty]), demotes, any_stackOf, stackOf]
  | endTag name tail =>
    rw [Piece.content] at h
    cases h with
    | closed hsame =>
      simp only [openBehind, dropWhile_stackOf hsame]
      rfl
  | comment body closed => cases h; rfl
  | declaration body closed => cases h; rfl
  | text body => cases h; rfl

/-- Both tags of an element change their names, or neither does. -/
theorem step_repaired (h : Step names p.content below) :
    Step (renamed names) (repairedPiece (stackOf names) p).content (renamed below) := by
  rw [repairedPiece, demotes_stackOf h]
  cases p with
  | startTag t =>
    rw [Piece.content] at h ⊢
    cases hinner : isInner names (.startTag t.name (t.parts.filterMap TagPart.content?) (t.stop == .selfClose)) with
    | true =>
      have hvoid : isVoidTag t.name = false := by
        rw [isInner, Bool.and_eq_true] at hinner
        exact isVoidTag_of_isInteractiveTag hinner.1
      have hplain : isVoidTag plainName = false := by decide
      rw [isInner] at hinner
      rw [if_pos rfl]
      cases h with
      | empty attributes hempty =>
        refine .empty _ ?_
        rwa [hvoid] at hempty
      | opened attributes hempty =>
        rw [renamed, hinner, if_pos rfl]
        refine .opened _ ?_
        rwa [hvoid] at hempty
    | false =>
      rw [isInner] at hinner
      rw [if_neg Bool.false_ne_true]
      cases h with
      | empty attributes hempty => exact .empty _ hempty
      | opened attributes hempty =>
        rw [renamed, hinner, if_neg Bool.false_ne_true]
        exact .opened _ hempty
  | endTag name tail =>
    rw [Piece.content] at h ⊢
    cases h with
    | @closed innermost _ _ hsame =>
      have hself : sameName plainName plainName = true := by decide
      rw [isInner, renamed]
      by_cases hinner : (isInteractiveTag innermost && below.any isInteractiveTag) = true
      · rw [if_pos hinner, if_pos hinner]
        exact .closed hself
      · rw [if_neg hinner, if_neg hinner]
        exact .closed hsame
  | comment body closed =>
    cases h
    exact .comment body
  | declaration body closed =>
    cases h
    exact .comment body
  | text body =>
    cases h
    exact .text body

theorem length_opening (h : Step names p.content below) (start : Nat) :
    ((if demotes (stackOf names) p then (demotion? start p).toList else []).filter (·.isOpening)).length =
      if isStartTag p.content && isInner names p.content then 1 else 0 := by
  rw [demotes_stackOf h]
  cases hinner : isInner names p.content with
  | true => cases p <;> rfl
  | false => rw [Bool.and_false]; rfl

end

/-! ### The whole text -/

section

variable {names : List Text} {ps : List Piece} (h : (openAfter names (ps.map Piece.content)).isSome = true)

include h

theorem repairedPieces_stackOf : repairedPieces (stackOf names) ps = ps.mapIdx fun place p =>
    if isInner (openAt names (ps.map Piece.content) place) p.content then p.demoted else p := by
  induction ps generalizing names with
  | nil => rfl
  | cons p ps ih =>
    obtain ⟨below, hstep, hrest⟩ := exists_step h
    rw [repairedPieces, repairedPiece, demotes_stackOf hstep, openBehind_stackOf hstep, ih hrest, List.mapIdx_cons]
    simp only [List.map_cons, hstep.openAt_succ]
    rfl

theorem openAfter_repaired (place : Nat) :
    openAfter (renamed names) (((repairedPieces (stackOf names) ps).map Piece.content).take place) =
      some (renamed (openAt names (ps.map Piece.content) place)) := by
  induction ps generalizing names place with
  | nil =>
    rw [repairedPieces, List.map_nil, List.take_nil, openAt, List.take_nil]
    rfl
  | cons p ps ih =>
    obtain ⟨below, hstep, hrest⟩ := exists_step h
    cases place with
    | zero => rfl
    | succ place =>
      rw [List.map_cons, hstep.openAt_succ, repairedPieces, List.map_cons, List.take_succ_cons,
        (step_repaired hstep).openAfter_cons, openBehind_stackOf hstep]
      exact ih hrest place

theorem length_openings (start : Nat) :
    ((demotions (stackOf names) (tokensFrom start ps)).filter (·.isOpening)).length =
      ((ps.map Piece.content).mapIdx fun place c =>
        isStartTag c && isInner (openAt names (ps.map Piece.content) place) c).count true := by
  induction ps generalizing names start with
  | nil => rfl
  | cons p ps ih =>
    obtain ⟨below, hstep, hrest⟩ := exists_step h
    rw [tokensFrom, demotions_cons, List.filter_append, List.length_append, length_opening hstep,
      openBehind_stackOf hstep, ih hrest, List.map_cons, List.mapIdx_cons, List.count_cons, Nat.add_comm]
    simp only [hstep.openAt_succ, beq_true]
    rfl

theorem takesPlace_stackOf (hdemotable : ∀ place t, ps[place]? = some (.startTag t) →
      isInner (openAt names (ps.map Piece.content) place) (Piece.startTag t).content = true → t.Demotable) :
    List.Forall₂ Piece.TakesPlaceOf (repairedPieces (stackOf names) ps) ps := by
  induction ps generalizing names with
  | nil => exact .nil
  | cons p ps ih =>
    obtain ⟨below, hstep, hrest⟩ := exists_step h
    rw [repairedPieces, openBehind_stackOf hstep]
    refine .cons (takesPlace_repairedPiece ?_) (ih hrest fun place t ht hinner => ?_)
    · rintro t rfl hdemotes
      rw [demotes_stackOf hstep] at hdemotes
      exact hdemotable 0 t rfl hdemotes
    · refine hdemotable (place + 1) t ht ?_
      rw [List.map_cons, hstep.openAt_succ]
      exact hinner

end

/-- Where attributes stand in double quotes and every end tag closes the innermost element, a repair only demotes. A
tag that is demoted must be able to do without the attributes that it loses. -/
theorem repair_only_demotes {html : Text}
    (hquoted : ∀ t, Piece.startTag t ∈ pieces html → AttributesQuoted t.parts)
    (hnested : (openAfter [] (contents html)).isSome = true)
    (hstops : ∀ place t, (pieces html)[place]? = some (.startTag t) →
      isInner (openAt [] (contents html) place) (Piece.startTag t).content = true →
      Omitted (t.lead ++ t.stop.source) t.parts (plainParts t.parts)) : OnlyDemotes html := by
  have hcount : ((demotions [] (tokenize html)).filter (·.isOpening)).length = ((contents html).mapIdx fun place c =>
      isStartTag c && isInner (openAt [] (contents html) place) c).count true := by
    rw [contents_eq] at hnested ⊢
    exact length_openings hnested 0
  rw [contents_eq] at hnested
  have hpieces : pieces (check .repair html).html = repairedPieces (stackOf []) (pieces html) := by
    rw [html_repaired]
    refine pieces_of_takesPlace (takesPlace_stackOf hnested fun place t ht hinner => ?_)
    rw [← contents_eq] at hinner
    exact ⟨(hquoted t (List.mem_of_getElem? ht)).spaced, hstops place t ht hinner⟩
  constructor
  · rw [hpieces, repairedPieces_stackOf hnested, contents_eq]
  · intro place
    rw [contents_eq, hpieces, contents_eq]
    exact openAfter_repaired hnested place
  · intro mode
    rw [← hcount]
    cases mode with
    | report => rfl
    | repair => exact Result.metric_updateHtml _ _ _

/-- A button inside a link, with a slash in front of the first attribute that it loses, and a void element in it. -/
def buttonInLink : Text :=
  "<p><a href=\"x\"><button / type=\"submit\" class=\"wide\" Target=\"_top\">Go<br></button></a></p>".toList

theorem pieces_buttonInLink : pieces buttonInLink =
    [.startTag ⟨['p'], [], [], .close⟩,
      .startTag ⟨['a'], [.named [' '] "href".toList (some ⟨[], [], .quoted '"' ['x'] true⟩)], [], .close⟩,
      .startTag ⟨"button".toList,
        [.slash [' '], .named [' '] "type".toList (some ⟨[], [], .quoted '"' "submit".toList true⟩),
          classPart "wide".toList, .named [' '] "Target".toList (some ⟨[], [], .quoted '"' "_top".toList true⟩)],
        [], .close⟩,
      .text "Go".toList, .startTag ⟨"br".toList, [], [], .close⟩, .endTag "button".toList ['>'], .endTag ['a'] ['>'],
      .endTag ['p'] ['>']] := by
  decide +kernel

theorem repair_only_demotes_buttonInLink :
    (∀ t, Piece.startTag t ∈ pieces buttonInLink → AttributesQuoted t.parts) ∧
    (openAfter [] (contents buttonInLink)).isSome = true ∧
    (∀ place t, (pieces buttonInLink)[place]? = some (.startTag t) →
      isInner (openAt [] (contents buttonInLink) place) (Piece.startTag t).content = true →
      Omitted (t.lead ++ t.stop.source) t.parts (plainParts t.parts)) ∧
    OnlyDemotes buttonInLink ∧
    (check .repair buttonInLink).html = "<p><a href=\"x\"><div / class=\"wide\">Go<br></div></a></p>".toList := by
  have htags : ∀ t, Piece.startTag t ∈ pieces buttonInLink →
      t.parts = [] ∨ t.parts = [.named [' '] "href".toList (some ⟨[], [], .quoted '"' ['x'] true⟩)] ∨
      t.parts =
        [.slash [' '], .named [' '] "type".toList (some ⟨[], [], .quoted '"' "submit".toList true⟩),
          classPart "wide".toList, .named [' '] "Target".toList (some ⟨[], [], .quoted '"' "_top".toList true⟩)] := by
    intro t ht
    simp only [pieces_buttonInLink, List.mem_cons, Piece.startTag.injEq, List.not_mem_nil, or_false, false_or,
      reduceCtorEq] at ht
    rcases ht with rfl | rfl | rfl | rfl
    · exact .inl rfl
    · exact .inr (.inl rfl)
    · exact .inr (.inr rfl)
    · exact .inl rfl
  have hquoted : ∀ t, Piece.startTag t ∈ pieces buttonInLink → AttributesQuoted t.parts := by
    intro t ht
    rcases htags t ht with hparts | hparts | hparts
    · rw [hparts]
      exact .nil
    · rw [hparts]
      exact .cons .nil ⟨' ', [], _, [], [], _, rfl⟩
    · rw [hparts]
      refine .slash (.cons (.cons (.cons .nil ?_) (wellQuoted_classPart _)) ?_) [' ']
      · exact ⟨' ', [], _, [], [], _, rfl⟩
      · exact ⟨' ', [], _, [], [], _, rfl⟩
  have hnested : (openAfter [] (contents buttonInLink)).isSome = true := by decide +kernel
  have hstops : ∀ place t, (pieces buttonInLink)[place]? = some (.startTag t) →
      isInner (openAt [] (contents buttonInLink) place) (Piece.startTag t).content = true →
      Omitted (t.lead ++ t.stop.source) t.parts (plainParts t.parts) := by
    intro place t ht _
    rcases htags t (List.mem_of_getElem? ht) with hparts | hparts | hparts
    · rw [hparts]
      exact .nil
    · rw [hparts]
      exact .drop _ .nil
    · rw [hparts]
      refine .keep _ (.inr ?_) (.drop _ (.keep _ (.inr ?_) (.drop _ .nil)))
      · exact fun hclose => nomatch hclose
      · exact (wellQuoted_classPart _).endsInQuote.stopsAt _
  exact ⟨hquoted, hnested, hstops, repair_only_demotes hquoted hnested hstops, by decide +kernel⟩

/-- An inner link that is closed at once when it loses its address. -/
def slashedLink : Text := "<a><a / href=\"x\"></a></a>".toList

theorem pieces_slashedLink : pieces slashedLink =
    [.startTag ⟨['a'], [], [], .close⟩,
      .startTag ⟨['a'], [.slash [' '], .named [' '] "href".toList (some ⟨[], [], .quoted '"' ['x'] true⟩)], [], .close⟩,
      .endTag ['a'] ['>'], .endTag ['a'] ['>']] := by
  decide +kernel

/-- Attributes in double quotes and elements that nest are not enough: a slash may stand in front of an attribute that
is taken out, and the end tag of the demoted link then closes nothing. -/
theorem slash_before_address_closes :
    ¬ ∀ html, (∀ t, Piece.startTag t ∈ pieces html → AttributesQuoted t.parts) →
      (∀ t, Piece.startTag t ∈ pieces html → DistinctNames t.parts) →
      (openAfter [] (contents html)).isSome = true → OnlyDemotes html := by
  intro h
  have htags : ∀ t, Piece.startTag t ∈ pieces slashedLink →
      t.parts = [] ∨
      t.parts = [.slash [' '], .named [' '] "href".toList (some ⟨[], [], .quoted '"' ['x'] true⟩)] := by
    intro t ht
    simp only [pieces_slashedLink, List.mem_cons, Piece.startTag.injEq, List.not_mem_nil, or_false, reduceCtorEq] at ht
    rcases ht with rfl | rfl
    · exact .inl rfl
    · exact .inr rfl
  have hquoted : ∀ t, Piece.startTag t ∈ pieces slashedLink → AttributesQuoted t.parts := by
    intro t ht
    rcases htags t ht with hparts | hparts
    · rw [hparts]
      exact .nil
    · rw [hparts]
      exact .slash (.cons .nil ⟨' ', [], _, [], [], _, rfl⟩) [' ']
  have hdistinct : ∀ t, Piece.startTag t ∈ pieces slashedLink → DistinctNames t.parts := by
    intro t ht
    rcases htags t ht with hparts | hparts
    · rw [hparts]
      exact List.nodup_nil
    · rw [hparts]
      exact List.pairwise_singleton _ _
  have hrepaired : pieces (check .repair slashedLink).html =
      [.startTag ⟨['a'], [], [], .close⟩, .startTag ⟨plainName, [], [' '], .selfClose⟩, .endTag plainName ['>'],
        .endTag ['a'] ['>']] := by
    decide +kernel
  have hpieces := (h slashedLink hquoted hdistinct (by decide +kernel)).pieces
  rw [hrepaired] at hpieces
  exact absurd hpieces (by decide +kernel)

end ResponsiveMarkup.Nesting
