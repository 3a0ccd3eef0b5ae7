import Mathlib.Data.List.Basic
import ResponsiveMarkup.Contract.Nesting
import ResponsiveMarkup.Proofs.Markup.Contents

/-!
Links and buttons that stand apart. A markup in which none begins inside another has no demotions, and whether one
does is a matter of the tags alone, not of their attributes.
-/

namespace ResponsiveMarkup.Nesting

open Text

/-- The elements open after reading on, the innermost first; none if a link or button begins inside another. As in
the contract, an end tag closes the innermost element of its name with all that is open inside. -/
def openApart : List Text → List Content → Option (List Text)
  | stack, [] => some stack
  | stack, .startTag name _ selfClosing :: cs =>
    if isInteractiveTag name && stack.any isInteractiveTag then none
    else openApart (if selfClosing || isVoidTag name then stack else name :: stack) cs
  | stack, .endTag name :: cs =>
    match stack.dropWhile fun n => !sameName n name with
    | [] => openApart stack cs
    | _ :: outer => openApart outer cs
  | stack, .comment _ :: cs => openApart stack cs
  | stack, .text _ :: cs => openApart stack cs

/-- No link or button begins inside another. -/
def Apart (markup : Text) : Prop := (openApart [] (contents markup)).isSome = true

theorem openApart_append (stack : List Text) (cs ds : List Content) :
    openApart stack (cs ++ ds) = (openApart stack cs).bind fun below => openApart below ds := by
  induction cs generalizing stack with
  | nil => rfl
  | cons c cs ih =>
    cases c with
    | startTag name attributes selfClosing =>
      simp only [List.cons_append, openApart]
      split
      · rfl
      · exact ih _
    | endTag name =>
      simp only [List.cons_append, openApart]
      split
      · exact ih stack
      · exact ih _
    | comment body => exact ih stack
    | text body => exact ih stack

theorem openApart_bare (stack : List Text) (cs : List Content) :
    openApart stack (cs.map Content.bare) = openApart stack cs := by
  induction cs generalizing stack with
  | nil => rfl
  | cons c cs ih =>
    cases c with
    | startTag name attributes selfClosing => simp only [List.map_cons, Content.bare, openApart, ih]
    | endTag name => simp only [List.map_cons, Content.bare, openApart, ih]
    | comment body => exact ih stack
    | text body => exact ih stack

theorem Apart.of_bare {markup markup' : Text} (h : Apart markup)
    (hbare : (contents markup').map Content.bare = (contents markup).map Content.bare) : Apart markup' := by
  rw [Apart, ← openApart_bare, hbare, openApart_bare]
  exact h

/-! ### No demotions -/

/-- An open element that has not been demoted. -/
def openElement (name : Text) : OpenElement := ⟨asciiLower name, isInteractiveTag name, false⟩

theorem demotions_eq_nil {names : List Text} {tokens : List Token}
    (h : (openApart names (tokens.map Token.content)).isSome = true) :
    demotions (names.map openElement) tokens = [] := by
  induction tokens generalizing names with
  | nil => rfl
  | cons token tokens ih =>
    obtain ⟨kind, span⟩ := token
    cases kind with
    | startTag tag =>
      simp only [List.map_cons, Token.content, openApart] at h
      have hinside : ((names.map openElement).any (·.interactive)) = names.any isInteractiveTag := by
        rw [List.any_map]
        rfl
      cases hdemoted : isInteractiveTag tag.name && names.any isInteractiveTag with
      | true => rw [hdemoted, if_pos rfl] at h; cases h
      | false =>
        rw [hdemoted, if_neg (by simp)] at h
        simp only [demotions, hinside, hdemoted]
        rw [StartTag.isEmptyElement]
        split at h
        · rename_i hempty
          rw [if_pos hempty]
          exact ih h
        · rename_i hempty
          rw [if_neg hempty]
          exact ih h
    | endTag name nameSpan =>
      simp only [List.map_cons, Token.content, openApart] at h
      have hdrop : (names.map openElement).dropWhile (·.name != asciiLower name) =
          (names.dropWhile fun n => !sameName n name).map openElement := List.dropWhile_map
      simp only [demotions, hdrop]
      split at h
      · rename_i hnone
        rw [hnone]
        exact ih h
      · rename_i n outer hsome
        rw [hsome]
        exact ih h
    | comment body => exact ih h
    | text body => exact ih h

theorem Apart.demotions_eq_nil {markup : Text} (h : Apart markup) : demotions [] (tokenize markup) = [] :=
  Nesting.demotions_eq_nil h

/-- Where no link or button begins inside another the contract finds nothing and leaves the markup alone. -/
theorem Apart.check_eq {markup : Text} (h : Apart markup) (mode : Mode) :
    check mode markup = ⟨markup, [], [], [("nestedInteractive", 0)], false⟩ := by
  have hspliced : spliced markup [] = markup := rfl
  simp only [check, h.demotions_eq_nil]
  cases mode with
  | report => rfl
  | repair =>
    simp only [List.flatMap_nil, hspliced]
    exact if_pos rfl

/-! ### Putting markup together -/

/-- Contents that leave open what was open before and nest no link or button, which they may only hold when they are
not inside of one. -/
def Calm (inside : Bool) (cs : List Content) : Prop :=
  ∀ stack, (stack.any isInteractiveTag = true → inside = true) → openApart stack cs = some stack

section

variable {inside : Bool} {cs ds : List Content}

theorem Calm.nil : Calm inside [] := fun _ _ => rfl

theorem Calm.append (hc : Calm inside cs) (hd : Calm inside ds) : Calm inside (cs ++ ds) := by
  intro stack hstack
  rw [openApart_append, hc stack hstack, Option.bind_some, hd stack hstack]

theorem Calm.comment (body : Text) : Calm inside [.comment body] := fun _ _ => rfl

theorem Calm.text (body : Text) : Calm inside [.text body] := fun _ _ => rfl

theorem Calm.selfClosing {name : Text} (hname : isInteractiveTag name = false)
    (attributes : List (Text × Option Text)) : Calm inside [.startTag name attributes true] := by
  intro stack _
  simp [openApart, hname]

theorem Calm.element {name : Text} (attributes : List (Text × Option Text)) (hvoid : isVoidTag name = false)
    (hname : isInteractiveTag name = true → inside = false) (h : Calm (inside || isInteractiveTag name) cs) :
    Calm inside (.startTag name attributes false :: (cs ++ [.endTag name])) := by
  intro stack hstack
  have hfree : (isInteractiveTag name && stack.any isInteractiveTag) = false := by
    cases hinteractive : isInteractiveTag name with
    | false => rfl
    | true =>
      rw [Bool.true_and, ← Bool.not_eq_true]
      intro hany
      rw [hstack hany] at hname
      exact absurd (hname hinteractive) (by simp)
  have hbody : (name :: stack).any isInteractiveTag = true → (inside || isInteractiveTag name) = true := by
    intro hany
    rw [List.any_cons, Bool.or_eq_true] at hany
    rcases hany with hown | hany
    · rw [hown, Bool.or_true]
    · rw [hstack hany, Bool.true_or]
  have hsame : sameName name name = true := by simp [sameName]
  have hclose : (name :: stack).dropWhile (fun n => !sameName n name) = name :: stack :=
    List.dropWhile_cons_of_neg (by simp [hsame])
  rw [openApart, hfree, if_neg (by simp), hvoid, Bool.or_self, if_neg (by simp), openApart_append,
    h _ hbody, Option.bind_some, openApart, hclose]
  rfl

end

/-- Read from the start, and up to any place, calm contents nest no link or button. -/
theorem Calm.isSome_prefix (h : Calm false (cs ++ ds)) : (openApart [] cs).isSome = true := by
  have hwhole := h [] (by simp)
  rw [openApart_append] at hwhole
  obtain ⟨below, hbelow, -⟩ := Option.bind_eq_some_iff.mp hwhole
  rw [hbelow]
  rfl

end ResponsiveMarkup.Nesting
