import Mathlib.Data.List.Basic
import ResponsiveMarkup.Proofs.Render.Written

/-!
No text breaks out of a comment. A body is made safe by a loop that puts one dash for two until no two are left: every
round takes a dash away, and what is left in the end is the body with each run of dashes as a single one. The end of a
comment cannot begin in such a body, not even at a dash that it ends with, so that the scanner reads the whole body and
goes on right behind the comment.
-/

namespace ResponsiveMarkup

open Text

/-! ### The loop -/

/-- One round of the loop. -/
def dashesHalved (s : Text) : Text := replaceAll "--".toList ['-'] s

/-- The loop that makes a body safe, run from the text it stands at to the one it leaves. -/
inductive DashLoop : Text → Text → Prop where
  | done {s} : hasInside "--".toList s = false → DashLoop s s
  | round {s t} : hasInside "--".toList s = true → DashLoop (dashesHalved s) t → DashLoop s t

/-- Two dashes in front become one, and what follows them is looked at afresh; any other character is passed over. -/
theorem dashesHalved_cases (s : Text) :
    s = [] ∨
    (∃ r, s = '-' :: '-' :: r ∧ dashesHalved s = '-' :: dashesHalved r) ∨
    ∃ c r, s = c :: r ∧ ¬ (c = '-' ∧ r.head? = some '-') ∧ dashesHalved s = c :: dashesHalved r := by
  cases s with
  | nil => exact Or.inl rfl
  | cons c r =>
    by_cases hdashes : c = '-' ∧ r.head? = some '-'
    · obtain ⟨rfl, hnext⟩ := hdashes
      obtain ⟨r, rfl⟩ := List.head?_eq_some_iff.mp hnext
      exact Or.inr (Or.inl ⟨r, rfl, rfl⟩)
    · have hskip : stripStart? "--".toList (c :: r) = none := by
        rw [Option.eq_none_iff_forall_ne_some]
        intro rest hrest
        rw [stripStart?_eq_some] at hrest
        cases hrest
        exact hdashes ⟨rfl, rfl⟩
      refine Or.inr (Or.inr ⟨c, r, rfl, hdashes, ?_⟩)
      rw [dashesHalved, replaceAll, replaceAll.go, hskip]
      rfl

theorem head_dashesHalved (s : Text) : (dashesHalved s).head? = s.head? := by
  rcases dashesHalved_cases s with rfl | ⟨r, rfl, hround⟩ | ⟨c, r, rfl, -, hround⟩
  · rfl
  · rw [hround]
    rfl
  · rw [hround]
    rfl

/-- A round neither adds a run of dashes nor takes one away. -/
theorem collapseDashes_dashesHalved (s : Text) : collapseDashes (dashesHalved s) = collapseDashes s := by
  induction hlength : s.length using Nat.strong_induction_on generalizing s with
  | _ n ih =>
    rcases dashesHalved_cases s with rfl | ⟨r, rfl, hround⟩ | ⟨c, r, rfl, hdashes, hround⟩
    · rfl
    · have hrest : collapseDashes (dashesHalved r) = collapseDashes r :=
        ih r.length (by simp only [List.length_cons] at hlength; omega) r rfl
      have hfirst : collapseDashes ('-' :: '-' :: r) = collapseDashes ('-' :: r) := by
        rw [collapseDashes, if_pos ⟨rfl, rfl⟩]
      rw [hround, hfirst, collapseDashes, collapseDashes, head_dashesHalved, hrest]
    · have hrest : collapseDashes (dashesHalved r) = collapseDashes r :=
        ih r.length (by simp only [List.length_cons] at hlength; omega) r rfl
      rw [hround, collapseDashes, collapseDashes, head_dashesHalved, hrest]

theorem length_dashesHalved_le (s : Text) : (dashesHalved s).length ≤ s.length := by
  induction hlength : s.length using Nat.strong_induction_on generalizing s with
  | _ n ih =>
    rcases dashesHalved_cases s with rfl | ⟨r, rfl, hround⟩ | ⟨c, r, rfl, -, hround⟩
    · exact Nat.zero_le _
    · simp only [List.length_cons] at hlength
      have := ih r.length (by omega) r rfl
      rw [hround, List.length_cons]
      omega
    · simp only [List.length_cons] at hlength
      have := ih r.length (by omega) r rfl
      rw [hround, List.length_cons]
      omega

/-- While two dashes are left in a row, a round takes one away. -/
theorem length_dashesHalved_lt {s : Text} (h : hasInside "--".toList s = true) :
    (dashesHalved s).length < s.length := by
  induction s with
  | nil => cases h
  | cons c r ih =>
    rcases dashesHalved_cases (c :: r) with hnil | ⟨q, hsplit, hround⟩ | ⟨d, q, hsplit, hdashes, hround⟩
    · cases hnil
    · have := length_dashesHalved_le q
      rw [hround, hsplit]
      simp only [List.length_cons]
      omega
    · cases hsplit
      rw [hasInside_iff, List.infix_cons_iff] at h
      rcases h with ⟨rest, hrest⟩ | hbehind
      · cases hrest
        exact absurd ⟨rfl, rfl⟩ hdashes
      · have := ih (hasInside_iff.mpr hbehind)
        rw [hround]
        simp only [List.length_cons]
        omega

theorem dashLoop_collapseDashes (s : Text) : DashLoop s (collapseDashes s) := by
  -- On the length: it falls in every round, while the runs of dashes stay.
  induction hlength : s.length using Nat.strong_induction_on generalizing s with
  | _ n ih =>
    cases hleft : hasInside "--".toList s with
    | false =>
      rw [collapseDashes_eq_self_iff.mpr hleft]
      exact .done hleft
    | true =>
      have hless := length_dashesHalved_lt hleft
      rw [← collapseDashes_dashesHalved]
      exact .round hleft (ih _ (by omega) _ rfl)

theorem DashLoop.eq_collapseDashes {s t : Text} (h : DashLoop s t) : t = collapseDashes s := by
  induction h with
  | done hnone => exact (collapseDashes_eq_self_iff.mpr hnone).symm
  | round _ _ ih => rw [ih, collapseDashes_dashesHalved]

/-- The loop ends, and it ends with the collapsed body. -/
theorem dashLoop_iff {s t : Text} : DashLoop s t ↔ t = collapseDashes s := by
  constructor
  · exact DashLoop.eq_collapseDashes
  · rintro rfl
    exact dashLoop_collapseDashes s

/-! ### Runs of dashes -/

/-- The second text is the first with each run of dashes as a single dash and all else as it was. -/
inductive DashRunsShortened : Text → Text → Prop where
  | nil : DashRunsShortened [] []
  | other {c s t} : c ≠ '-' → DashRunsShortened s t → DashRunsShortened (c :: s) (c :: t)
  | run {s t} (more : Nat) : s.head? ≠ some '-' → DashRunsShortened s t →
      DashRunsShortened (List.replicate (more + 1) '-' ++ s) ('-' :: t)

theorem dashRunsShortened_collapseDashes (s : Text) : DashRunsShortened s (collapseDashes s) := by
  induction s with
  | nil => exact .nil
  | cons c s ih =>
    rw [collapseDashes]
    by_cases hdashes : c = '-' ∧ s.head? = some '-'
    · obtain ⟨rfl, hnext⟩ := hdashes
      rw [if_pos ⟨rfl, hnext⟩]
      generalize collapseDashes s = t at ih
      cases ih with
      | nil => cases hnext
      | other hc _ =>
        cases hnext
        exact absurd rfl hc
      | run more hbehind hrest => exact .run (more + 1) hbehind hrest
    · rw [if_neg hdashes]
      by_cases hc : c = '-'
      · subst hc
        exact .run 0 (fun hnext => hdashes ⟨rfl, hnext⟩) ih
      · exact .other hc ih

/-! ### Reading a comment back -/

namespace Render

theorem pieces_comment (body suffix : Text) :
    Scanner.pieces (comment body ++ suffix) = commentPiece body :: Scanner.pieces suffix := by
  have hscanned : Scanned [commentPiece body] suffix := ⟨fits_commentPiece body _, trivial⟩
  have hpieces := pieces_append hscanned
  rwa [List.flatMap_singleton, source_commentPiece, List.singleton_append] at hpieces

end Render

/-- The loop that makes a comment's body safe ends, whatever the body is, with a body that has no two dashes in a row
and is otherwise the same. Whatever follows the comment, the scanner reads one comment with this body and goes on where
the comment ends. -/
theorem comment_not_broken_out (body suffix : Text) :
    (∀ safe, DashLoop body safe ↔ safe = collapseDashes body) ∧
    ¬ "--".toList <:+: collapseDashes body ∧
    DashRunsShortened body (collapseDashes body) ∧
    tokenize (comment body ++ suffix) =
      ⟨.comment (collapseDashes body), ⟨0, byteLength (comment body)⟩⟩ ::
        tokensFrom (byteLength (comment body)) (Scanner.pieces suffix) := by
  refine ⟨fun safe => dashLoop_iff, ?_, dashRunsShortened_collapseDashes body, ?_⟩
  · intro hdashes
    have hinside := hasInside_iff.mpr hdashes
    rw [hasInside_dashes_collapseDashes] at hinside
    cases hinside
  · rw [tokenize, Render.pieces_comment, tokensFrom, Render.source_commentPiece, Span.of, Nat.zero_add]
    rfl

end ResponsiveMarkup
