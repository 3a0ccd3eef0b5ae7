import ResponsiveMarkup.Proofs.Markup.Unescape
import ResponsiveMarkup.Proofs.Render.ReadBack

/-!
Opening tags read back by themselves. Whatever the values of a tag hold and whatever text follows it, the scanner
finds the one tag that was written, stops where that tag ends and goes on with the text behind.
-/

namespace ResponsiveMarkup

/-- What a tag says: the names and values of its attributes, in order. -/
def StartTag.readings (t : StartTag) : List (Text × Option Text) := t.attributes.map fun a => (a.name, a.value)

namespace Render

open Text Scanner

/-- The tags that are written with attributes. -/
def writtenTags : List Text := "img".toList :: bodyTags

theorem isTagName_written {tag : Text} (h : tag ∈ writtenTags) : IsTagName tag := by
  rcases List.mem_cons.mp h with rfl | h
  · decide
  · exact (bodyTags_wellFormed _ h).1

/-- A written tag is the first token of any text that begins with it, and no other token depends on it but by its
length. -/
theorem tokenize_openTag {tag : Text} {attributes : List (Text × Text)} (htag : IsTagName tag)
    (hnames : ∀ a ∈ attributes, IsAttributeName a.1) (selfClosing : Bool) (suffix : Text) :
    ∃ t : StartTag, tokenize (openTag tag attributes selfClosing ++ suffix) =
        ⟨.startTag t, .of 0 (openTag tag attributes selfClosing)⟩ ::
          tokensFrom (byteLength (openTag tag attributes selfClosing)) (pieces suffix) ∧
      t.name = tag ∧ t.selfClosing = selfClosing ∧ t.readings = readAttributes attributes := by
  have hscanned : Scanned [openPiece tag attributes selfClosing] suffix :=
    ⟨fits_openPiece htag hnames selfClosing _, trivial⟩
  have hpieces := pieces_append hscanned
  rw [List.flatMap_singleton, source_openPiece, List.singleton_append] at hpieces
  rw [tokenize, hpieces, tokensFrom, source_openPiece, Nat.zero_add]
  refine ⟨_, rfl, rfl, ?_, ?_⟩
  · cases selfClosing <;> rfl
  · rw [StartTag.readings, TagText.startTag, map_attributesFrom, filterMap_writtenPart]

theorem map_unescapeAttr_readings {t : StartTag} {attributes : List (Text × Text)}
    (h : t.readings = readAttributes attributes) :
    t.attributes.map (fun a => a.value.map unescapeAttr) = attributes.map fun a => some (trim (squeeze a.2)) := by
  have hvalues : t.attributes.map (fun a => a.value.map unescapeAttr) =
      t.readings.map fun reading => reading.2.map unescapeAttr := by
    rw [StartTag.readings, List.map_map]
    rfl
  rw [hvalues, h, readAttributes, List.map_map]
  refine List.map_congr_left fun a _ => ?_
  rw [Function.comp_apply, Option.map_some, unescapeAttr_escapeAttr]

theorem readAttributes_elementAttributes (id : String) (key : Option Text) (tokens : List Text)
    (others : List (Text × Text)) : readAttributes (elementAttributes id key tokens others) =
      (Names.nodeId, some (escapeAttr id.toList)) :: (key.map fun k => (Names.key, some (escapeAttr k))).toList ++
        (if classValue tokens = [] then [] else [(Names.classes, some (escapeAttr (classValue tokens)))]) ++
        others.map fun a => (a.1, some (escapeAttr a.2)) := by
  rw [elementAttributes]
  cases classValue tokens <;> cases key <;> simp [readAttributes]

/-- An element's opening tag is read back as it was written, whatever its id, key, tokens and values hold and whatever
follows it: one tag that ends where the written one does, with its attributes in order and each value escaped, and with
the values that were written, but for their blanks, once the escapes are undone. -/
theorem openTag_reads_back {tag : Text} {others : List (Text × Text)} (htag : tag ∈ writtenTags)
    (hothers : ∀ a ∈ others, a.1 ∈ otherNames) (id : String) (key : Option Text) (tokens : List Text)
    (selfClosing : Bool) (suffix : Text) :
    let written := openTag tag (elementAttributes id key tokens others) selfClosing
    ∃ t : StartTag,
      tokenize (written ++ suffix) =
        ⟨.startTag t, ⟨0, byteLength written⟩⟩ :: tokensFrom (byteLength written) (pieces suffix) ∧
      t.name = tag ∧ t.selfClosing = selfClosing ∧
      t.readings = (Names.nodeId, some (escapeAttr id.toList)) ::
        (key.map fun k => (Names.key, some (escapeAttr k))).toList ++
        (if joinWith [' '] tokens = [] then [] else [(Names.classes, some (escapeAttr (joinWith [' '] tokens)))]) ++
        (others.map fun a => (a.1, some (escapeAttr a.2))) ∧
      t.attributes.map (fun a => a.value.map unescapeAttr) =
        (elementAttributes id key tokens others).map fun a => some (trim (squeeze a.2)) := by
  intro written
  obtain ⟨t, htokens, hname, hself, hreadings⟩ :=
    tokenize_openTag (isTagName_written htag) (isAttributeName_element hothers) selfClosing suffix
  refine ⟨t, ?_, hname, hself, ?_, map_unescapeAttr_readings hreadings⟩
  · rw [htokens, Span.of, Nat.zero_add]
  · rw [hreadings]
    exact readAttributes_elementAttributes id key tokens others

/-- Values that look like the end of a value, of a tag and of the markup, with the start of another tag behind. -/
theorem openTag_reads_back_hostile :
    let others := [("href".toList, "\"><b x=/>".toList), ("alt".toList, "a\n = &quot;".toList)]
    let written := openTag "img".toList (elementAttributes "i>\"" none ["p".toList, "q\"".toList] others) true
    ("img".toList ∈ writtenTags ∧ ∀ a ∈ others, a.1 ∈ otherNames) ∧
    ∃ t : StartTag,
      tokenize (written ++ " href=\"evil\">".toList) =
        ⟨.startTag t, ⟨0, byteLength written⟩⟩ ::
          tokensFrom (byteLength written) (pieces " href=\"evil\">".toList) ∧
      t.readings =
        [(Names.nodeId, some "i>&quot;".toList), (Names.classes, some "p q&quot;".toList),
          ("href".toList, some "&quot;><b x=/>".toList), ("alt".toList, some "a = &amp;quot;".toList)] := by
  intro others written
  have htag : "img".toList ∈ writtenTags := List.mem_cons_self
  have hothers : ∀ a ∈ others, a.1 ∈ otherNames := by decide
  refine ⟨⟨htag, hothers⟩, ?_⟩
  obtain ⟨t, htokens, -, -, hreadings, -⟩ := openTag_reads_back htag hothers "i>\"" none ["p".toList, "q\"".toList] true
    " href=\"evil\">".toList
  refine ⟨t, htokens, hreadings.trans ?_⟩
  decide

end Render

end ResponsiveMarkup
