import ResponsiveMarkup.Proofs.Compile.ClassTokens
import ResponsiveMarkup.Proofs.Design.Slots
import ResponsiveMarkup.Proofs.Design.Walk
import ResponsiveMarkup.Proofs.Render.Tokens
import ResponsiveMarkup.Proofs.Style.Harmless

/-!
Compilations whose output has no errors. Numbers are always written as digits, so a word for a number that is none can
only come from a text of a design or of a rule.
-/

namespace ResponsiveMarkup

open Text Finalize

namespace Render

open Design Style

theorem harmless_tokensDrawn {c : Context} {l : Layer} (h : ∀ s ∈ l.styleTexts, NumberFree s.toList) :
    ∀ t ∈ tokensDrawn c l, Harmless t := by
  intro t ht
  have htrim : ∀ s, Harmless s → Harmless (trim s) := fun s hs => hs.of_infix (infix_trim s)
  rcases styleToken_tokensDrawn (fun s hs => (h s hs).harmless) htrim t ht with ht | ⟨mode, hmode, ht⟩
  · exact harmless_styleToken ht
  · have hmember : mode ∈ l.styleTexts := by simp [Layer.styleTexts, Option.mem_def.mp hmode]
    exact harmless_blendToken? (h mode hmember) t ht

theorem harmless_render {a : Artboard} (options : Options)
    (h : ∀ n ∈ a.tree.walk, ∀ s ∈ n.layer.styleTexts, NumberFree s.toList) :
    ClassWords Harmless (render a options) := by
  have hframe : ∀ t ∈ frameTokens a.frame, Harmless t :=
    fun t ht => harmless_styleToken (styleToken_frameTokens Harmless a.frame t ht)
  refine classWords_render (fun t ht w hw => ((hframe t ht).of_mem_words hw).escaped) fun r hr t ht w hw => ?_
  have hwalk := (reached_sublist_walk (SlotIndex.ofSlots a.slots) false a.tree).subset (List.mem_map_of_mem hr)
  obtain ⟨n, hn, hlayer⟩ := List.mem_map.mp hwalk
  have htexts := h n hn
  rw [hlayer] at htexts
  exact ((harmless_tokensDrawn htexts t ht).of_mem_words hw).escaped

end Render

namespace Finalize

theorem keptByScopes_harmless : KeptByScopes Harmless := by
  have hsplit : ∀ v : Viewport, ∀ scope ∈ v.scope?, ∃ name, Harmless name ∧ scope = name ++ [':'] := by
    intro v scope hscope
    cases v with
    | mobile => cases hscope
    | tablet =>
      cases hscope
      exact ⟨"md".toList, by decide, rfl⟩
    | desktop =>
      cases hscope
      exact ⟨"lg".toList, by decide, rfl⟩
  intro v scope hscope t ht
  obtain ⟨name, hname, rfl⟩ := hsplit v scope hscope
  rw [scopeToken]
  split
  · exact ht
  · rw [List.append_assoc, List.singleton_append, Harmless.append_cons_iff (by decide)]
    exact ⟨hname, ht⟩

/-- An output has errors just when one of its class tokens carries a number that is none. -/
theorem hasErrors_finalize (html : Text) (slots : NameMap) :
    (finalize html slots).hasErrors = false ↔
      ∀ tag ∈ startTags html, ∀ v, tag.value? Names.classes = some v → ∀ w ∈ words v, isNonFinite w = false := by
  have hnone : (finalize html slots).hasErrors = false ↔ nonFiniteTokens html = [] := by
    rw [Output.hasErrors, finalize]
    cases nonFiniteTokens html <;> simp
  rw [hnone, nonFiniteTokens, List.flatMap_eq_nil_iff]
  refine forall₂_congr fun tag _ => ?_
  rw [List.filter_eq_nil_iff]
  cases tag.value? Names.classes with
  | none =>
    have hempty : words [] = [] := rfl
    simp [hempty]
  | some v => simp

end Finalize

namespace Compile

open Design

/-- Whatever doubles the designs hold, the last look at the output finds nothing. -/
theorem output_without_errors (o : Options) {rules : RuleTable} {i : Input}
    (hdesigns : ∀ v a, i.get? v = some a → ∀ n ∈ a.tree.walk, ∀ s ∈ n.layer.styleTexts, NumberFree s.toList)
    (hrules : ∀ r ∈ rules.rules, NumberFree r.replacement) :
    (run o rules i).output.hasErrors = false ∧
      ∀ tag ∈ startTags (run o rules i).html, ∀ v, tag.value? Names.classes = some v →
        ∀ w ∈ words v, isNonFinite w = false := by
  have hwords : ClassWords Harmless (run o rules i).html :=
    classWords_run keptByScopes_harmless (fun v a ha => Render.harmless_render o.render (hdesigns v a ha))
      fun r hr w hw => ((hrules r hr).harmless.of_mem_words hw).escaped
  have hfinite : ∀ tag ∈ startTags (run o rules i).html, ∀ v, tag.value? Names.classes = some v →
      ∀ w ∈ words v, isNonFinite w = false :=
    fun tag htag v hv w hw => (hwords.of_mem_startTags htag hv w hw).isNonFinite_eq_false
  refine ⟨?_, hfinite⟩
  cases h : (fragments o.render i).merge.stats.baseViewport with
  | none =>
    rw [run_of_none h]
    rfl
  | some base =>
    rw [run_of_base h] at hfinite ⊢
    exact (hasErrors_finalize _ _).mpr hfinite

/-- Numbers that are none wherever there may be numbers, and the word for one as the text to be drawn. -/
def wildLayer (fill : Fill) : Layer :=
  { bareLayer "root" with
    x := 0 / 0, y := 1 / 0, w := 0 / 0, h := -1 / 0
    fills := [fill]
    radius := some (.corners ⟨0 / 0, 1 / 0, 3, -1 / 0⟩)
    stroke := some ⟨1 / 0, some "black"⟩
    opacity := 0 / 0
    blendMode := some "COLOR_DODGE"
    text := some
      { characters := "NaN", fontFamily := some "Inter", fontSize := some (1 / 0), fontWeight := some (0 / 0)
        lineHeight := some (1 / 0), letterSpacing := some (0 / 0), align := .left, color := some "#1A1A1A"
        italic := false, decoration := .none, uppercase := false } }

def wildArtboard (fill : Fill) : Artboard :=
  ⟨⟨0 / 0, -1 / 0, 1 / 0, 0 / 0⟩, .mk (wildLayer fill) [], NameMap.empty⟩

def wildDoubles : Input :=
  ⟨some (wildArtboard (.solid "Red" (some (0 / 0)))), none,
    some (wildArtboard (.linearGradient (0 / 0) [⟨"Red", 1 / 0⟩, ⟨"#FFF", 0 / 0⟩]))⟩

def insetRules : RuleTable := .ofRules [.certain "absolute".toList "fixed inset-0".toList] ""

theorem output_without_errors_wildDoubles :
    (∀ v a, wildDoubles.get? v = some a → ∀ n ∈ a.tree.walk, ∀ s ∈ n.layer.styleTexts, NumberFree s.toList) ∧
    (∀ r ∈ insetRules.rules, NumberFree r.replacement) ∧
    (run Options.standard insetRules wildDoubles).output.hasErrors = false := by
  have hwalk : ∀ fill, (wildArtboard fill).tree.walk = [.mk (wildLayer fill) []] := fun fill => Node.walk_eq _
  have hdesigns : ∀ v a, wildDoubles.get? v = some a →
      ∀ n ∈ a.tree.walk, ∀ s ∈ n.layer.styleTexts, NumberFree s.toList := by
    intro v a ha n hn
    cases v with
    | mobile =>
      cases ha
      rw [hwalk, List.mem_singleton] at hn
      rw [hn]
      decide
    | tablet => cases ha
    | desktop =>
      cases ha
      rw [hwalk, List.mem_singleton] at hn
      rw [hn]
      decide
  have hrules : ∀ r ∈ insetRules.rules, NumberFree r.replacement := by decide
  exact ⟨hdesigns, hrules, (output_without_errors Options.standard hdesigns hrules).1⟩

end Compile

end ResponsiveMarkup
