import ResponsiveMarkup.Proofs.Contract.Demotion

/-!
Repairs of a markup that leaves elements open. An end tag closes the innermost element of its name with all that is
open inside, and a repair gives elements and end tags the name of a plain box. So an end tag of a plain box may come to
close another one than it did, and a link may stay open that was closed before. Where that does not happen nothing is
left nested.
-/

namespace ResponsiveMarkup.Nesting

open Text Scanner

/-- The name of an open element in the repaired text, in lower case. -/
def OpenElement.repairedName (e : OpenElement) : Text := if e.demoted then plainName else e.name

/-- The name of an end tag in the repaired text, given the elements open before it. -/
def closingName (stack : List OpenElement) (name : Text) : Text :=
  if demotes stack (.endTag name []) then plainName else name

/-- An end tag that is one of a plain box in the repaired text has no plain box of that text open in front of the
element that it closes. -/
def closesInnermostBox (stack : List OpenElement) : Piece → Bool
  | .endTag name _ =>
    if asciiLower (closingName stack name) == plainName then
      (stack.takeWhile (·.name != asciiLower name)).all (·.repairedName != plainName)
    else true
  | _ => true

/-- All end tags of plain boxes close the innermost one. -/
def boxesClosed : List OpenElement → List Piece → Bool
  | _, [] => true
  | stack, p :: ps => closesInnermostBox stack p && boxesClosed (openBehind stack p) ps

/-- An open element by the name in its start tag. -/
structure Opened where
  name : Text
  demoted : Bool

/-- The element as the contract knows it. -/
def Opened.given (o : Opened) : OpenElement := ⟨asciiLower o.name, isInteractiveTag o.name, o.demoted⟩

/-- The name of the element in the repaired text. -/
def Opened.repaired (o : Opened) : Text := if o.demoted then plainName else o.name

theorem isVoidTag_of_isInteractiveTag {name : Text} (h : isInteractiveTag name = true) : isVoidTag name = false := by
  have hnames : ∀ n ∈ interactiveTags, isVoidTag n = false := by decide
  obtain ⟨n, hn, hsame⟩ := List.any_eq_true.mp h
  rw [isVoidTag, sameName_congr hsame]
  exact hnames n hn

theorem any_repaired {opened : List Opened} (h : (opened.map Opened.given).any (·.interactive) = false) :
    (opened.map Opened.repaired).any isInteractiveTag = false := by
  -- Not the other way round: an element that was demoted is a link or button to the contract only.
  rw [List.any_map, List.any_eq_false] at h ⊢
  intro o ho
  have hplain : isInteractiveTag plainName = false := by decide
  rw [Function.comp_apply, Opened.repaired]
  split
  · rw [hplain]
    exact Bool.false_ne_true
  · exact h o ho

theorem openApart_startTag (opened : List Opened) (t : TagText) (cs : List Content) :
    openApart (opened.map Opened.repaired) ((repairedPiece (opened.map Opened.given) (.startTag t)).content :: cs) =
      openApart ((if t.stop == .selfClose || isVoidTag t.name then opened
        else ⟨t.name, demotes (opened.map Opened.given) (.startTag t)⟩ :: opened).map Opened.repaired) cs := by
  have hplain : isInteractiveTag plainName = false := by decide
  have hfilled : isVoidTag plainName = false := by decide
  rw [repairedPiece]
  cases hdemotes : demotes (opened.map Opened.given) (.startTag t) with
  | true =>
    have hvoid : isVoidTag t.name = false := by
      rw [demotes, Bool.and_eq_true] at hdemotes
      exact isVoidTag_of_isInteractiveTag hdemotes.1
    simp only [if_true, Piece.demoted, Piece.content, openApart, hplain, Bool.false_and, hfilled, hvoid]
    rw [if_neg Bool.false_ne_true]
    split <;> rfl
  | false =>
    have hapart : (isInteractiveTag t.name && (opened.map Opened.repaired).any isInteractiveTag) = false := by
      rw [demotes, Bool.and_eq_false_iff] at hdemotes
      rw [Bool.and_eq_false_iff]
      exact hdemotes.imp_right any_repaired
    simp only [Bool.false_eq_true, if_false, Piece.content, openApart, hapart]
    split <;> rfl

theorem lower_plainName : asciiLower plainName = plainName := by decide

theorem lower_repaired (o : Opened) : asciiLower o.repaired = o.given.repairedName := by
  rw [Opened.repaired, OpenElement.repairedName, Opened.given]
  split
  · exact lower_plainName
  · rfl

section

variable (opened : List Opened) (name : Text)

theorem dropWhile_given : (opened.map Opened.given).dropWhile (·.name != asciiLower name) =
    (opened.dropWhile fun o => !sameName o.name name).map Opened.given := List.dropWhile_map

theorem takeWhile_given : (opened.map Opened.given).takeWhile (·.name != asciiLower name) =
    (opened.takeWhile fun o => !sameName o.name name).map Opened.given := List.takeWhile_map

theorem demotes_endTag (tail : Text) : demotes (opened.map Opened.given) (.endTag name tail) =
    (opened.dropWhile fun o => !sameName o.name name).head?.any (·.demoted) := by
  rw [demotes, dropWhile_given, List.head?_map]
  cases (opened.dropWhile fun o => !sameName o.name name).head? <;> rfl

theorem content_endTag (stack : List OpenElement) (tail : Text) :
    (repairedPiece stack (.endTag name tail)).content = .endTag (closingName stack name) := by
  have hdemotes : demotes stack (.endTag name tail) = demotes stack (.endTag name []) := rfl
  rw [repairedPiece, closingName, hdemotes]
  split <;> rfl

variable {opened name}

/-- What stands open in front of the closed element is passed over in the repaired text as well. -/
theorem passed_repaired {tail : Text}
    (h : closesInnermostBox (opened.map Opened.given) (.endTag name tail) = true) :
    ∀ o ∈ opened.takeWhile fun o => !sameName o.name name,
      sameName o.repaired (closingName (opened.map Opened.given) name) = false := by
  intro o ho
  rw [sameName, lower_repaired, beq_eq_false_iff_ne]
  rw [closesInnermostBox, takeWhile_given] at h
  by_cases hbox : asciiLower (closingName (opened.map Opened.given) name) = plainName
  · rw [hbox, if_pos (beq_self_eq_true plainName), List.all_eq_true] at h
    rw [hbox]
    exact bne_iff_ne.mp (h o.given (List.mem_map_of_mem ho))
  · have hdemotes : demotes (opened.map Opened.given) (.endTag name []) = false := by
      rw [← Bool.not_eq_true]
      intro htrue
      rw [closingName, if_pos htrue] at hbox
      exact hbox lower_plainName
    rw [closingName, hdemotes, if_neg Bool.false_ne_true] at hbox ⊢
    rw [OpenElement.repairedName]
    split
    · exact Ne.symm hbox
    · have hother : sameName o.name name = false := by
        have hpassed := takeWhile_true o ho
        simpa using hpassed
      rw [sameName, beq_eq_false_iff_ne] at hother
      exact hother

/-- Both tags of an element have the same name in the repaired text. -/
theorem closed_repaired : ∀ o ∈ (opened.dropWhile fun o => !sameName o.name name).head?,
    sameName o.repaired (closingName (opened.map Opened.given) name) = true := by
  intro o ho
  have hsame : sameName o.name name = true := by
    have hclosed := head_dropWhile_false o ho
    simpa using hclosed
  rw [closingName, demotes_endTag, Option.mem_def.mp ho, Option.any_some, Opened.repaired]
  cases o.demoted with
  | true => simp [sameName]
  | false => simpa using hsame

theorem dropWhile_repaired {tail : Text}
    (h : closesInnermostBox (opened.map Opened.given) (.endTag name tail) = true) :
    (opened.map Opened.repaired).dropWhile
        (fun n => !sameName n (closingName (opened.map Opened.given) name)) =
      (opened.dropWhile fun o => !sameName o.name name).map Opened.repaired := by
  have hpassed := passed_repaired h
  have hclosed : ∀ o ∈ (opened.dropWhile fun o => !sameName o.name name).head?,
      sameName o.repaired (closingName (opened.map Opened.given) name) = true := closed_repaired
  have hcut := cut_append
    (p := fun o : Opened => !sameName o.repaired (closingName (opened.map Opened.given) name))
    (l := opened.takeWhile fun o => !sameName o.name name) (f := opened.dropWhile fun o => !sameName o.name name)
    (fun o ho => by rw [hpassed o ho]; rfl) (fun o ho => by rw [hclosed o ho]; rfl)
  rw [List.takeWhile_append_dropWhile] at hcut
  rw [List.dropWhile_map]
  exact congrArg (List.map Opened.repaired) hcut.2

/-- An end tag closes the same element to the contract and in the repaired text. -/
theorem openApart_endTag {tail : Text}
    (h : closesInnermostBox (opened.map Opened.given) (.endTag name tail) = true) :
    ∃ outer : List Opened, openBehind (opened.map Opened.given) (.endTag name tail) = outer.map Opened.given ∧
      ∀ cs, openApart (opened.map Opened.repaired)
          ((repairedPiece (opened.map Opened.given) (.endTag name tail)).content :: cs) =
        openApart (outer.map Opened.repaired) cs := by
  have hrepaired := dropWhile_repaired h
  simp only [openBehind, content_endTag, openApart, hrepaired, dropWhile_given]
  cases opened.dropWhile fun o => !sameName o.name name with
  | nil => exact ⟨opened, rfl, fun cs => rfl⟩
  | cons o outer => exact ⟨outer, rfl, fun cs => rfl⟩

end

/-- The same elements are open in the text, to the contract and in the repaired text, each by its own name. -/
theorem openApart_repairedPieces (opened : List Opened) {ps : List Piece}
    (h : boxesClosed (opened.map Opened.given) ps = true) :
    (openApart (opened.map Opened.repaired)
      ((repairedPieces (opened.map Opened.given) ps).map Piece.content)).isSome = true := by
  induction ps generalizing opened with
  | nil => rfl
  | cons p ps ih =>
    rw [boxesClosed, Bool.and_eq_true] at h
    obtain ⟨hfirst, hrest⟩ := h
    rw [repairedPieces, List.map_cons]
    cases p with
    | startTag t =>
      rw [openApart_startTag]
      rw [openBehind] at hrest ⊢
      split at hrest
      · rename_i hempty
        rw [if_pos hempty, if_pos hempty]
        exact ih opened hrest
      · rename_i hempty
        rw [if_neg hempty, if_neg hempty]
        exact ih (_ :: opened) hrest
    | endTag name tail =>
      obtain ⟨outer, hbehind, hsame⟩ := openApart_endTag hfirst
      rw [hbehind] at hrest ⊢
      rw [hsame]
      exact ih outer hrest
    | comment body closed => exact ih opened hrest
    | declaration body closed => exact ih opened hrest
    | text body => exact ih opened hrest

theorem apart_repaired {html : Text} (hseparable : SeparableTags html)
    (hclosed : boxesClosed [] (pieces html) = true) : Apart (check .repair html).html := by
  rw [Apart, contents_eq, pieces_repaired hseparable]
  exact openApart_repairedPieces [] hclosed

/-- After a repair the contract finds nothing more, as long as the attributes of links and buttons can be taken out and
every end tag of a plain box closes the innermost one. Other elements may be left open or closed twice. -/
theorem repair_leaves_nothing_nested {html : Text} (hseparable : SeparableTags html)
    (hclosed : boxesClosed [] (pieces html) = true) (mode : Mode) :
    (check mode (check .repair html).html).metric "nestedInteractive" = 0 ∧
      (check mode (check .repair html).html).changed = false ∧
      (check mode (check .repair html).html).html = (check .repair html).html := by
  rw [(apart_repaired hseparable hclosed).check_eq]
  exact ⟨rfl, rfl, rfl⟩

/-- A button with a paragraph left open in it and a link, both inside a link, and an end tag of no element. -/
def leftOpen : Text :=
  "<p><a href=\"x\"><button type=\"submit\" class=wide><p></button><a>Go</a></i></p>".toList

theorem pieces_leftOpen : pieces leftOpen =
    [.startTag ⟨['p'], [], [], .close⟩,
      .startTag ⟨['a'], [.named [' '] "href".toList (some ⟨[], [], .quoted '"' ['x'] true⟩)], [], .close⟩,
      .startTag ⟨"button".toList,
        [.named [' '] "type".toList (some ⟨[], [], .quoted '"' "submit".toList true⟩),
          .named [' '] "class".toList (some ⟨[], [], .bare "wide".toList⟩)], [], .close⟩,
      .startTag ⟨['p'], [], [], .close⟩, .endTag "button".toList ['>'],
      .startTag ⟨['a'], [], [], .close⟩, .text "Go".toList, .endTag ['a'] ['>'], .endTag ['i'] ['>'],
      .endTag ['p'] ['>']] := by
  decide +kernel

theorem repair_leaves_nothing_nested_leftOpen :
    SeparableTags leftOpen ∧ boxesClosed [] (pieces leftOpen) = true ∧
    (check .repair leftOpen).html = "<p><a href=\"x\"><div class=wide><p></div><div>Go</div></i></p>".toList ∧
    (check .repair "<p><a href=\"x\"><div class=wide><p></div><div>Go</div></i></p>".toList).metric
      "nestedInteractive" = 0 := by
  have hseparable : SeparableTags leftOpen := by
    intro t ht _
    simp only [pieces_leftOpen, List.mem_cons, Piece.startTag.injEq, List.not_mem_nil, or_false, false_or,
      reduceCtorEq] at ht
    rcases ht with rfl | rfl | rfl | rfl | rfl
    · exact ⟨List.forall_mem_nil _, .nil⟩
    · exact ⟨by simp [TagPart.Spaced], List.pairwise_singleton _ _⟩
    · exact ⟨by simp [TagPart.Spaced], List.pairwise_pair.mpr (Or.inl ⟨_, _, rfl⟩)⟩
    · exact ⟨List.forall_mem_nil _, .nil⟩
    · exact ⟨List.forall_mem_nil _, .nil⟩
  have hclosed : boxesClosed [] (pieces leftOpen) = true := by
    rw [pieces_leftOpen]
    decide +kernel
  have hrepaired : (check .repair leftOpen).html =
      "<p><a href=\"x\"><div class=wide><p></div><div>Go</div></i></p>".toList := by
    decide +kernel
  refine ⟨hseparable, hclosed, hrepaired, ?_⟩
  rw [← hrepaired]
  exact (repair_leaves_nothing_nested hseparable hclosed .repair).1

/-- The box left open in the inner link takes the link's end tag to itself, and so the outer link outlives the box
around it. -/
theorem box_left_open_keeps_link_open :
    ¬ ∀ html, (check .repair (check .repair html).html).metric "nestedInteractive" = 0 ∧
      (check .repair (check .repair html).html).changed = false := by
  intro h
  have hcount : (check .repair (check .repair "<div><a><a><div></a></div><a>".toList).html).metric
      "nestedInteractive" = 1 := by
    decide +kernel
  rw [(h _).1] at hcount
  cases hcount

/-! ### Every element closed -/

/-- An end tag that closes the innermost open element has nothing open in front of it. -/
theorem boxesClosed_of_openAfter (opened : List Opened) {ps : List Piece}
    (h : (openAfter (opened.map (·.name)) (ps.map Piece.content)).isSome = true) :
    boxesClosed (opened.map Opened.given) ps = true := by
  induction ps generalizing opened with
  | nil => rfl
  | cons p ps ih =>
    rw [boxesClosed, Bool.and_eq_true]
    cases p with
    | startTag t =>
      refine ⟨rfl, ?_⟩
      rw [List.map_cons, Piece.content, openAfter] at h
      rw [openBehind]
      split at h
      · rename_i hempty
        rw [if_pos hempty]
        exact ih opened h
      · rename_i hempty
        rw [if_neg hempty]
        exact ih (⟨t.name, _⟩ :: opened) h
    | endTag name tail =>
      cases opened with
      | nil => cases h
      | cons o outer =>
        rw [List.map_cons, List.map_cons, Piece.content, openAfter] at h
        by_cases hsame : sameName o.name name = true
        · rw [if_pos hsame] at h
          have hnone : (o :: outer).takeWhile (fun o => !sameName o.name name) = [] :=
            List.takeWhile_cons_of_neg (by simp [hsame])
          have hhead : (o :: outer).dropWhile (fun o => !sameName o.name name) = o :: outer :=
            List.dropWhile_cons_of_neg (by simp [hsame])
          refine ⟨?_, ?_⟩
          · rw [closesInnermostBox, takeWhile_given, hnone]
            split <;> rfl
          · simp only [openBehind, dropWhile_given, hhead]
            exact ih outer h
        · rw [if_neg hsame] at h
          cases h
    | comment body closed => exact ⟨rfl, ih opened h⟩
    | declaration body closed => exact ⟨rfl, ih opened h⟩
    | text body => exact ⟨rfl, ih opened h⟩

theorem boxesClosed_of_nested {html : Text} (h : (openAfter [] (contents html)).isSome = true) :
    boxesClosed [] (pieces html) = true := by
  rw [contents_eq] at h
  exact boxesClosed_of_openAfter [] h

end ResponsiveMarkup.Nesting
