import Mathlib.Data.List.Forall2
import ResponsiveMarkup.Json.Printer
import ResponsiveMarkup.Json.Schema

/-!
Reading back what was printed. A reader reads a text when it takes it in, gives a value and leaves what follows. It
accepts a text when it reads it wherever a value may stand: with blanks before it, and with a comma, a line break
or nothing after it.
-/

namespace ResponsiveMarkup.Json.Reader

variable {α β σ : Type}

/-- The reader takes `s` to the value `a` and leaves `rest`. -/
def Reads (r : Reader α) (s : Text) (a : α) (rest : Text) : Prop := ∃ le, r s = .ok ⟨a, rest, le⟩

theorem Reads.pure (a : α) (s : Text) : Reads (Pure.pure a) s a s := ⟨Nat.le_refl _, rfl⟩

theorem Reads.bind {x : Reader α} {f : α → Reader β} {s t u : Text} {a : α} {b : β} (hx : Reads x s a t)
    (hf : Reads (f a) t b u) : Reads (x >>= f) s b u := by
  obtain ⟨hle, hx⟩ := hx
  obtain ⟨hle', hf⟩ := hf
  refine ⟨Nat.le_trans hle' hle, ?_⟩
  change Reader.bind x f s = _
  simp only [Reader.bind, hx, hf]

theorem bind_error {x : Reader α} {f : α → Reader β} {s t : Text} {a : α} {e : Fault} (hx : Reads x s a t)
    (hf : f a t = .error e) : (x >>= f) s = .error e := by
  obtain ⟨hle, hx⟩ := hx
  change Reader.bind x f s = _
  simp only [Reader.bind, hx, hf]

theorem reads_front (s : Text) : Reads front s s.head? s := ⟨Nat.le_refl _, rfl⟩

theorem reads_next (c : Char) (s : Text) : Reads next (c :: s) (some c) s := ⟨Nat.le_succ _, rfl⟩

/-- Nothing more of a kind follows. -/
def Stops (p : Char → Bool) (s : Text) : Prop := ∀ c ∈ s.head?, p c = false

theorem Stops.takeWhile {p : Char → Bool} {s : Text} (h : Stops p s) : s.takeWhile p = [] := by
  cases s with
  | nil => rfl
  | cons c s => exact List.takeWhile_cons_of_neg (by simp [h c rfl])

theorem Stops.dropWhile {p : Char → Bool} {s : Text} (h : Stops p s) : s.dropWhile p = s := by
  cases s with
  | nil => rfl
  | cons c s => exact List.dropWhile_cons_of_neg (by simp [h c rfl])

theorem stops_cons {p : Char → Bool} {c : Char} (s : Text) (h : p c = false) : Stops p (c :: s) := by
  rintro _ ⟨⟩
  exact h

theorem reads_takeWhile {p : Char → Bool} {s rest : Text} (hs : ∀ c ∈ s, p c = true) (hrest : Stops p rest) :
    Reads (takeWhile p) (s ++ rest) s rest := by
  refine ⟨by simp, ?_⟩
  have htake : (s ++ rest).takeWhile p = s := by
    rw [List.takeWhile_append_of_pos hs, hrest.takeWhile, List.append_nil]
  have hdrop : (s ++ rest).dropWhile p = rest := by
    rw [List.dropWhile_append_of_pos hs, hrest.dropWhile]
  simp only [takeWhile, htake, hdrop]

/-- Blanks between values. -/
def Blanks (s : Text) : Prop := ∀ c ∈ s, isJsonBlank c = true

theorem blanks_nil : Blanks [] := by simp [Blanks]

theorem Blanks.dropWhile {blanks : Text} (h : Blanks blanks) (s : Text) :
    (blanks ++ s).dropWhile isJsonBlank = s.dropWhile isJsonBlank := List.dropWhile_append_of_pos h

theorem reads_peek {blanks s : Text} (hblanks : Blanks blanks) (hs : Stops isJsonBlank s) :
    Reads peek (blanks ++ s) s.head? s :=
  (reads_takeWhile hblanks hs).bind (reads_front s)

/-- Where a value ends: at a comma, a line break, or the end of the text. -/
def Ended (rest : Text) : Prop := ∀ c ∈ rest.head?, c = ',' ∨ c = '\n'

theorem Ended.stops {rest : Text} (h : Ended rest) {p : Char → Bool} (hcomma : p ',' = false)
    (hline : p '\n' = false) : Stops p rest := by
  intro c hc
  rcases h c hc with rfl | rfl
  · exact hcomma
  · exact hline

/-- The reader takes the text as a value, wherever one may stand. -/
structure Accepts (r : Reader α) (s : Text) (a : α) : Prop where
  /-- The first character tells a value from the end of a list. -/
  opens : ∃ c t, s = c :: t ∧ isJsonBlank c = false ∧ c ≠ ']'
  reads : ∀ blanks rest, Blanks blanks → Ended rest → Reads r (blanks ++ (s ++ rest)) a rest

theorem Accepts.map {r : Reader α} {s : Text} {a : α} (f : α → β) (h : Accepts r s a) :
    Accepts (do return f (← r)) s (f a) where
  opens := h.opens
  reads blanks rest hblanks hrest := (h.reads blanks rest hblanks hrest).bind (Reads.pure _ _)

theorem Accepts.lift {r : Reader α} {s : Text} {a : α} {f : α → Except Fault β} {b : β} (h : Accepts r s a)
    (hf : f a = .ok b) : Accepts (do lift (f (← r))) s b where
  opens := h.opens
  reads blanks rest hblanks hrest := by
    refine (h.reads blanks rest hblanks hrest).bind ?_
    rw [hf]
    exact Reads.pure _ _

/-- A value that is all of a text is its value. -/
theorem Accepts.parse {r : Reader α} {s : Text} {a : α} (h : Accepts r s a) : parse r s = .ok a := by
  have hread : Reads r s a [] := by
    simpa using h.reads [] [] blanks_nil (by simp [Ended])
  have hend : Reads peek [] none [] := reads_peek blanks_nil (by simp [Stops])
  have hfinish : Reads finish [] () [] := hend.bind (Reads.pure _ _)
  have hall : Reads (do let a ← r; finish; return a) s a [] := hread.bind (hfinish.bind (Reads.pure a []))
  obtain ⟨_, hall⟩ := hall
  rw [Reader.parse, hall]

/-! ### Strings -/

theorem hexValue?_hexDigit : ∀ n < 16, hexValue? (hexDigit n) = some n := by decide

theorem utf8Size_hexDigit : ∀ n < 16, (hexDigit n).utf8Size = 1 := by decide

/-- The two digits of a control character, after the zeros that all of them begin with. -/
theorem reads_unicodeEscape {n : Nat} (hn : n < 0x20) (s : Text) :
    Reads unicodeEscape ('0' :: '0' :: hexDigit (n / 16) :: hexDigit (n % 16) :: s) [Char.ofNat n] s := by
  have hhigh := hexValue?_hexDigit (n / 16) (by omega)
  have hlow := hexValue?_hexDigit (n % 16) (by omega)
  have hzero : hexValue? '0' = some 0 := by decide
  have hlong : ¬ Text.byteLength ('0' :: '0' :: hexDigit (n / 16) :: hexDigit (n % 16) :: s) < 4 := by
    have hsize : ('0' : Char).utf8Size = 1 := by decide
    simp only [Text.byteLength, hsize, utf8Size_hexDigit _ (show n / 16 < 16 by omega),
      utf8Size_hexDigit _ (show n % 16 < 16 by omega)]
    omega
  have hvalue : ((0 * 16 + 0) * 16 + n / 16) * 16 + n % 16 = n := by omega
  have hfour : Reads hexFour ('0' :: '0' :: hexDigit (n / 16) :: hexDigit (n % 16) :: s) n s := by
    refine ⟨by simp only [List.length_cons]; omega, ?_⟩
    simp only [hexFour, hlong, if_false, hzero, hhigh, hlow, hvalue]
  refine hfour.bind ?_
  rw [if_neg (by omega), if_pos (by omega)]
  exact Reads.pure _ _

/-- A character inside a string stands for itself, or is written as what a backslash announces. -/
theorem escapeChar_cases (c : Char) :
    (escapeChar c = [c] ∧ c ≠ '"' ∧ c ≠ '\\' ∧ ¬ c.toNat < 0x20) ∨
      ∃ e, escapeChar c = '\\' :: e ∧ ∀ s, Reads (escape true) (e ++ s) [c] s := by
  have letter {c : Char} (d : Char) (h : escapeChar c = ['\\', d])
      (hread : ∀ s, Reads (escape true) (d :: s) [c] s) :
      ∃ e, escapeChar c = '\\' :: e ∧ ∀ s, Reads (escape true) (e ++ s) [c] s := ⟨[d], h, hread⟩
  by_cases hquote : c = '"'
  · subst hquote
    exact .inr (letter '"' rfl fun s => ⟨by simp, rfl⟩)
  by_cases hslash : c = '\\'
  · subst hslash
    exact .inr (letter '\\' rfl fun s => ⟨by simp, rfl⟩)
  by_cases hline : c = '\n'
  · subst hline
    exact .inr (letter 'n' rfl fun s => ⟨by simp, rfl⟩)
  by_cases hreturn : c = '\r'
  · subst hreturn
    exact .inr (letter 'r' rfl fun s => ⟨by simp, rfl⟩)
  by_cases htab : c = '\t'
  · subst htab
    exact .inr (letter 't' rfl fun s => ⟨by simp, rfl⟩)
  by_cases hback : c = '\x08'
  · subst hback
    exact .inr (letter 'b' rfl fun s => ⟨by simp, rfl⟩)
  by_cases hfeed : c = '\x0c'
  · subst hfeed
    exact .inr (letter 'f' rfl fun s => ⟨by simp, rfl⟩)
  by_cases hcontrol : c.toNat < 0x20
  · refine .inr ⟨['u', '0', '0', hexDigit (c.toNat / 16), hexDigit (c.toNat % 16)], ?_, fun s => ?_⟩
    · simp only [escapeChar, hquote, hslash, hline, hreturn, htab, hback, hfeed, hcontrol, if_true, if_false]
      rfl
    · have h := reads_unicodeEscape hcontrol s
      rw [Char.ofNat_toNat] at h
      exact (reads_next 'u' _).bind h
  · refine .inl ⟨?_, hquote, hslash, hcontrol⟩
    simp only [escapeChar, hquote, hslash, hline, hreturn, htab, hback, hfeed, hcontrol, if_false]

/-- What stands for a character inside a string is read as that character. -/
theorem reads_escapeChar {c : Char} {s rest more : Text} (h : Reads (chars true) s more rest) :
    Reads (chars true) (escapeChar c ++ s) (c :: more) rest := by
  obtain ⟨hle, hs⟩ := h
  rcases escapeChar_cases c with ⟨heq, hquote, hslash, hcontrol⟩ | ⟨e, heq, hread⟩
  · rw [heq, List.singleton_append]
    refine ⟨by simp only [List.length_cons]; omega, ?_⟩
    rw [chars.eq_4 true c s hquote hslash]
    simp only [hcontrol, if_false, hs]
  · rw [heq, List.cons_append]
    obtain ⟨hle', he⟩ := hread s
    refine ⟨by simp only [List.length_cons]; omega, ?_⟩
    rw [chars.eq_3]
    simp only [he, hs, List.cons_append, List.nil_append]

theorem reads_chars (s rest : Text) : Reads (chars true) (s.flatMap escapeChar ++ '"' :: rest) s rest := by
  induction s with
  | nil =>
    rw [List.flatMap_nil, List.nil_append]
    exact ⟨Nat.le_succ _, chars.eq_2 true rest⟩
  | cons c s ih =>
    rw [List.flatMap_cons, List.append_assoc]
    exact reads_escapeChar ih

theorem accepts_text (s : Text) : Accepts text (printString s) s where
  opens := ⟨'"', _, rfl, by decide, by decide⟩
  reads blanks rest hblanks _ := by
    have hs : printString s ++ rest = '"' :: (s.flatMap escapeChar ++ '"' :: rest) := by
      simp [printString]
    rw [hs]
    exact (reads_peek hblanks (stops_cons _ (by decide))).bind ((reads_next '"' _).bind (reads_chars s rest))

theorem accepts_string (s : String) : Accepts string (printString s.toList) s := by
  have h := (accepts_text s.toList).map String.ofList
  rwa [String.ofList_toList] at h

/-! ### Lists -/

theorem blanks_lineAt (level : Nat) : Blanks (lineAt level) := by
  intro c hc
  rcases List.mem_cons.mp hc with rfl | hc
  · decide
  · rw [List.eq_of_mem_replicate hc]
    decide

theorem ended_lineAt (level : Nat) (s : Text) : Ended (lineAt level ++ s) := by
  rintro _ ⟨⟩
  exact .inr rfl

/-- What follows an item: the next items, each after a comma, and the closing bracket on a line of its own. -/
def furtherItems (level : Nat) (closing : Char) (items : List Text) (rest : Text) : Text :=
  items.foldr (fun item more => ',' :: (lineAt (level + 1) ++ (item ++ more))) (lineAt level ++ closing :: rest)

theorem ended_furtherItems (level : Nat) (closing : Char) (items : List Text) (rest : Text) :
    Ended (furtherItems level closing items rest) := by
  cases items with
  | nil => exact ended_lineAt level _
  | cons item items =>
    rintro _ ⟨⟩
    exact .inl rfl

/-- Brackets around items, before whatever follows. -/
theorem bracketedLines_cons (level : Nat) (opening closing : Char) (item : Text) (items : List Text) (rest : Text) :
    bracketedLines level opening closing (item :: items) ++ rest =
      opening :: (lineAt (level + 1) ++ (item ++ furtherItems level closing items rest)) := by
  have hjoin : Text.joinWith [','] ((item :: items).map (lineAt (level + 1) ++ ·)) ++
      (lineAt level ++ closing :: rest) =
        lineAt (level + 1) ++ (item ++ furtherItems level closing items rest) := by
    induction items generalizing item with
    | nil => simp [furtherItems]
    | cons next items ih =>
      have hnext := ih next
      simp only [List.map_cons] at hnext
      simp only [List.map_cons, Text.joinWith, List.append_assoc, List.cons_append, List.nil_append, hnext,
        furtherItems, List.foldr_cons]
  have hall : bracketedLines level opening closing (item :: items) ++ rest =
      opening :: (Text.joinWith [','] ((item :: items).map (lineAt (level + 1) ++ ·)) ++
        (lineAt level ++ closing :: rest)) := by
    simp [bracketedLines]
  rw [hall, hjoin]

/-- Before the next item stands a comma, and blanks that are passed over. -/
theorem dropWhile_lineAt (level : Nat) {c : Char} (s : Text) (hc : isJsonBlank c = false) :
    (lineAt level ++ c :: s).dropWhile isJsonBlank = c :: s := by
  rw [(blanks_lineAt level).dropWhile, (stops_cons s hc).dropWhile]

theorem reads_moreElements_close {item : Reader α} {s rest : Text} (h : s.dropWhile isJsonBlank = ']' :: rest) :
    Reads (moreElements item) s [] (']' :: rest) := by
  refine ⟨h ▸ length_dropWhile .., ?_⟩
  rw [moreElements]
  split
  · rename_i hend
    cases h.symm.trans hend
  · rename_i c r hr
    obtain ⟨rfl, rfl⟩ := List.cons.inj (h.symm.trans hr)
    rfl

theorem reads_moreElements_comma {item : Reader α} {s t u v rest : Text} {c : Char} {a : α} {as : List α}
    (hs : s.dropWhile isJsonBlank = ',' :: t) (ht : t.dropWhile isJsonBlank = c :: u) (hc : c ≠ ']')
    (hitem : Reads item (c :: u) a v) (hmore : Reads (moreElements item) v as rest) :
    Reads (moreElements item) s (a :: as) rest := by
  obtain ⟨hle, hitem⟩ := hitem
  obtain ⟨hle', hmore⟩ := hmore
  have hshort := lt_of_dropWhile hs
  have hcut : (c :: u).length ≤ t.length := ht ▸ length_dropWhile ..
  refine ⟨by omega, ?_⟩
  rw [moreElements]
  split
  · rename_i hend
    cases hs.symm.trans hend
  · rename_i d r hr
    obtain ⟨rfl, rfl⟩ := List.cons.inj (hs.symm.trans hr)
    rw [if_neg (by decide), if_pos rfl]
    split
    · rename_i hend
      cases ht.symm.trans hend
    · rename_i e w hw
      obtain ⟨rfl, rfl⟩ := List.cons.inj (ht.symm.trans hw)
      simp only [hc, if_false, hitem, hmore]

theorem reads_moreElements {item : Reader α} {level : Nat} {items : List Text} {as : List α}
    (h : List.Forall₂ (Accepts item) items as) (rest : Text) :
    Reads (moreElements item) (furtherItems level ']' items rest) as (']' :: rest) := by
  induction h with
  | nil => exact reads_moreElements_close (dropWhile_lineAt level rest (by decide))
  | @cons s a items as hitem hitems ih =>
    obtain ⟨c, t, rfl, hblank, hclose⟩ := hitem.opens
    have hread := hitem.reads [] _ blanks_nil (ended_furtherItems level ']' items rest)
    have hcomma := (stops_cons (lineAt (level + 1) ++ (c :: t ++ furtherItems level ']' items rest))
      (show isJsonBlank ',' = false by decide)).dropWhile
    exact reads_moreElements_comma hcomma (dropWhile_lineAt (level + 1) _ hblank) hclose hread ih

theorem reads_endList (rest : Text) : Reads endList (']' :: rest) () rest :=
  (reads_peek blanks_nil (stops_cons rest (by decide))).bind ((reads_next ']' rest).bind (Reads.pure _ _))

/-- A printed list is read by whatever reads its elements. -/
theorem accepts_list {item : Reader α} {items : List Text} {as : List α} (level : Nat)
    (h : List.Forall₂ (Accepts item) items as) :
    Accepts (list (some item)) (bracketedLines level '[' ']' items) as where
  opens := by
    cases items with
    | nil => exact ⟨'[', [']'], rfl, by decide, by decide⟩
    | cons s items =>
      have hopen := bracketedLines_cons level '[' ']' s items []
      rw [List.append_nil] at hopen
      exact ⟨'[', _, hopen, by decide, by decide⟩
  reads blanks rest hblanks _ := by
    cases h with
    | nil =>
      have hpeek : Reads peek (']' :: rest) (some ']') (']' :: rest) :=
        reads_peek blanks_nil (stops_cons rest (by decide))
      have helements : Reads (elements item) (']' :: rest) [] (']' :: rest) := hpeek.bind (Reads.pure _ _)
      refine (reads_peek hblanks (stops_cons _ (by decide))).bind ((reads_next '[' _).bind ?_)
      exact helements.bind ((reads_endList rest).bind (Reads.pure _ _))
    | @cons s a items as hitem hitems =>
      obtain ⟨c, t, hs, hblank, hclose⟩ := hitem.opens
      have hopen := bracketedLines_cons level '[' ']' s items rest
      have hpeek : Reads peek (lineAt (level + 1) ++ (s ++ furtherItems level ']' items rest)) (some c)
          (s ++ furtherItems level ']' items rest) := by
        rw [hs]
        exact reads_peek (blanks_lineAt _) (stops_cons _ hblank)
      have hfirst := hitem.reads [] _ blanks_nil (ended_furtherItems level ']' items rest)
      have helements : Reads (elements item) (lineAt (level + 1) ++ (s ++ furtherItems level ']' items rest))
          (a :: as) (']' :: rest) := by
        refine hpeek.bind ?_
        split
        · rename_i hnone
          exact absurd hnone (by simp)
        · rename_i hbracket
          exact absurd (Option.some.inj hbracket) hclose
        · exact hfirst.bind ((reads_moreElements hitems rest).bind (Reads.pure _ _))
      rw [hopen]
      refine (reads_peek hblanks (stops_cons _ (by decide))).bind ((reads_next '[' _).bind ?_)
      exact helements.bind ((reads_endList rest).bind (Reads.pure _ _))

/-! ### Objects -/

theorem reads_colon (s : Text) : Reads colon (':' :: s) () s :=
  (reads_peek blanks_nil (stops_cons s (by decide))).bind ((reads_next ':' s).bind (Reads.pure _ _))

/-- The members are taken one after another, each from its key on. -/
inductive Taken (step : α → Text → Reader α) : α → List Text → α → Prop
  | nil (acc : α) : Taken step acc [] acc
  | cons {acc next last : α} {s : Text} {items : List Text}
      (first : ∀ rest, Ended rest → Reads (member step acc) (s ++ rest) next rest)
      (further : Taken step next items last) : Taken step acc (('"' :: s) :: items) last

theorem reads_moreMembers_close {step : α → Text → Reader α} {acc : α} {s rest : Text}
    (h : s.dropWhile isJsonBlank = '\x7d' :: rest) : Reads (moreMembers step acc) s acc ('\x7d' :: rest) := by
  refine ⟨h ▸ length_dropWhile .., ?_⟩
  rw [moreMembers]
  split
  · rename_i hend
    cases h.symm.trans hend
  · rename_i c r hr
    obtain ⟨rfl, rfl⟩ := List.cons.inj (h.symm.trans hr)
    rfl

theorem reads_moreMembers_comma {step : α → Text → Reader α} {acc next last : α} {s t u v rest : Text}
    (hs : s.dropWhile isJsonBlank = ',' :: t) (ht : t.dropWhile isJsonBlank = '"' :: u)
    (hfirst : Reads (member step acc) u next v) (hmore : Reads (moreMembers step next) v last rest) :
    Reads (moreMembers step acc) s last rest := by
  obtain ⟨hle, hfirst⟩ := hfirst
  obtain ⟨hle', hmore⟩ := hmore
  have hshort := lt_of_dropWhile hs
  have hcut := lt_of_dropWhile ht
  refine ⟨by omega, ?_⟩
  rw [moreMembers]
  split
  · rename_i hend
    cases hs.symm.trans hend
  · rename_i d r hr
    obtain ⟨rfl, rfl⟩ := List.cons.inj (hs.symm.trans hr)
    rw [if_neg (by decide), if_pos rfl]
    split
    · rename_i hend
      cases ht.symm.trans hend
    · rename_i e w hw
      obtain ⟨rfl, rfl⟩ := List.cons.inj (ht.symm.trans hw)
      simp only [if_true, hfirst, hmore]

theorem reads_moreMembers {step : α → Text → Reader α} {level : Nat} {items : List Text} {acc last : α}
    (h : Taken step acc items last) (rest : Text) :
    Reads (moreMembers step acc) (furtherItems level '\x7d' items rest) last ('\x7d' :: rest) := by
  induction h with
  | nil acc => exact reads_moreMembers_close (dropWhile_lineAt level rest (by decide))
  | @cons acc next last s items hfirst hfurther ih =>
    have hread := hfirst _ (ended_furtherItems level '\x7d' items rest)
    have hcomma := (stops_cons (lineAt (level + 1) ++ ('"' :: s ++ furtherItems level '\x7d' items rest))
      (show isJsonBlank ',' = false by decide)).dropWhile
    exact reads_moreMembers_comma hcomma (dropWhile_lineAt (level + 1) _ (by decide)) hread ih

theorem reads_members {step : α → Text → Reader α} {level : Nat} {s : Text} {items : List Text} {acc last : α}
    (h : Taken step acc (s :: items) last) (rest : Text) :
    Reads (members step acc) (lineAt (level + 1) ++ (s ++ furtherItems level '\x7d' items rest)) last
      ('\x7d' :: rest) := by
  cases h with
  | @cons _ next _ s _ hfirst hfurther =>
    have hpeek : Reads peek (lineAt (level + 1) ++ ('"' :: s ++ furtherItems level '\x7d' items rest)) (some '"')
        ('"' :: (s ++ furtherItems level '\x7d' items rest)) :=
      reads_peek (blanks_lineAt _) (stops_cons _ (by decide))
    refine hpeek.bind ((reads_next '"' _).bind ?_)
    exact (hfirst _ (ended_furtherItems level '\x7d' items rest)).bind (reads_moreMembers hfurther rest)

/-- A member as it is printed. -/
def printedMember (key value : Text) : Text := printString key ++ ": ".toList ++ value

/-- A member of a record is taken by the field that answers to its key, if that field was not seen yet. -/
theorem Taken.recordMember {schema : Schema (Reader (σ → σ)) σ} {f : RecordField (Reader (σ → σ))}
    {key value : Text} {items : List Text} {set : σ → σ} {a : σ} {seen : List String} {last : σ × List String}
    (hfield : schema.field? key = some f) (hnew : seen.contains f.name = false) (hvalue : Accepts f.read value set)
    (further : Taken (recordMember schema) (set a, f.name :: seen) items last) :
    Taken (recordMember schema) (a, seen) (printedMember key value :: items) last := by
  have hprinted : printedMember key value =
      '"' :: (key.flatMap escapeChar ++ '"' :: (": ".toList ++ value)) := by
    simp [printedMember, printString]
  rw [hprinted]
  refine .cons (fun rest hrest => ?_) further
  have hkey := reads_chars key (":".toList ++ ([' '] ++ (value ++ rest)))
  have hblank : Blanks [' '] := by
    intro c hc
    rw [List.mem_singleton.mp hc]
    decide
  have hstep : Reads (Reader.recordMember schema (a, seen) key) (":".toList ++ ([' '] ++ (value ++ rest)))
      (set a, f.name :: seen) rest := by
    rw [Reader.recordMember, hfield]
    simp only [hnew, Bool.false_eq_true, if_false]
    exact (reads_colon _).bind ((hvalue.reads [' '] rest hblank hrest).bind (Reads.pure _ _))
  have hall := hkey.bind (f := Reader.recordMember schema (a, seen)) hstep
  simpa [member] using hall

/-- A printed record is read by its schema, if no required field is left out. -/
theorem accepts_record {schema : Schema (Reader (σ → σ)) σ} {s : Text} {items : List Text} {a : σ}
    {seen : List String} (title : String) (level : Nat)
    (h : Taken (recordMember schema) (schema.start, []) (s :: items) (a, seen)) (hall : schema.missing? seen = none) :
    Accepts (record title (some schema)) (bracketedLines level '\x7b' '\x7d' (s :: items)) a where
  opens := by
    have hopen := bracketedLines_cons level '\x7b' '\x7d' s items []
    rw [List.append_nil] at hopen
    exact ⟨'\x7b', _, hopen, by decide, by decide⟩
  reads blanks rest hblanks _ := by
    rw [bracketedLines_cons]
    refine (reads_peek hblanks (stops_cons _ (by decide))).bind ((reads_next '\x7b' _).bind ?_)
    refine (reads_members h rest).bind ?_
    simp only [hall]
    exact (reads_next '\x7d' rest).bind (Reads.pure _ _)

/-- A field of a record as it is written: the field, the text of its value, and what reading it does. -/
structure Written (σ : Type) where
  field : RecordField (Reader (σ → σ))
  value : Text
  apply : σ → σ

namespace Written

variable (w : Written σ)

def member : Text := printedMember w.field.name.toList w.value

/-- The field's reader takes the value to what it does. -/
def Sound : Prop := Accepts w.field.read w.value w.apply

end Written

/-- A field without aliases is found by its name, if no other field has the name. -/
theorem field?_name {schema : Schema (Reader (σ → σ)) σ} {f : RecordField (Reader (σ → σ))}
    (hnames : (schema.fields.map (·.name)).Nodup) (haliases : ∀ f ∈ schema.fields, f.aliases = [])
    (hf : f ∈ schema.fields) : schema.field? f.name.toList = some f := by
  obtain ⟨before, after, hsplit⟩ := List.append_of_mem hf
  refine List.find?_eq_some_iff_append.mpr ⟨by simp [RecordField.answersTo], before, after, hsplit, fun g hg => ?_⟩
  have hother : g.name ≠ f.name := by
    rw [hsplit, List.map_append, List.nodup_append] at hnames
    exact hnames.2.2 _ (List.mem_map_of_mem hg) _ (by simp)
  have hnone := haliases g (hsplit ▸ List.mem_append_left _ hg)
  simpa [RecordField.answersTo, hnone, String.toList_inj] using hother

theorem taken_fields {schema : Schema (Reader (σ → σ)) σ} (hnames : (schema.fields.map (·.name)).Nodup)
    (haliases : ∀ f ∈ schema.fields, f.aliases = []) (written : List (Written σ)) (a : σ) (seen : List String)
    (hfields : ∀ w ∈ written, w.field ∈ schema.fields) (hdistinct : (written.map (·.field.name)).Nodup)
    (hnew : ∀ w ∈ written, w.field.name ∉ seen) (hsound : ∀ w ∈ written, w.Sound) :
    Taken (recordMember schema) (a, seen) (written.map (·.member))
      (written.foldl (fun a w => w.apply a) a, (written.map (·.field.name)).reverse ++ seen) := by
  induction written generalizing a seen with
  | nil => exact .nil _
  | cons w written ih =>
    rw [List.map_cons, List.nodup_cons] at hdistinct
    rw [List.map_cons, List.map_cons, List.foldl_cons, List.reverse_cons, List.append_assoc]
    refine .recordMember (field?_name hnames haliases (hfields w List.mem_cons_self)) ?_
      (hsound w List.mem_cons_self) (ih (w.apply a) (w.field.name :: seen) ?_ hdistinct.2 ?_ ?_)
    · simpa using hnew w List.mem_cons_self
    · exact fun v hv => hfields v (List.mem_cons_of_mem w hv)
    · intro v hv hseen
      rcases List.mem_cons.mp hseen with hsame | hseen
      · exact hdistinct.1 (hsame ▸ List.mem_map_of_mem hv)
      · exact hnew v (List.mem_cons_of_mem w hv) hseen
    · exact fun v hv => hsound v (List.mem_cons_of_mem w hv)

/-- A record that is printed with all its fields, in their order, is read field by field. -/
theorem accepts_fields (schema : Schema (Reader (σ → σ)) σ) (title : String) (level : Nat) (written : List (Written σ))
    (hnames : (schema.fields.map (·.name)).Nodup) (haliases : ∀ f ∈ schema.fields, f.aliases = [])
    (hall : written.map (·.field) = schema.fields) (hsome : written ≠ []) (hsound : ∀ w ∈ written, w.Sound) :
    Accepts (record title (some schema)) (bracketedLines level '\x7b' '\x7d' (written.map (·.member)))
      (written.foldl (fun a w => w.apply a) schema.start) := by
  have hdistinct : (written.map (·.field.name)).Nodup := by
    rw [← hall, List.map_map] at hnames
    exact hnames
  have htaken := taken_fields hnames haliases written schema.start []
    (fun w hw => hall ▸ List.mem_map_of_mem hw) hdistinct (by simp) hsound
  have hmissing : schema.missing? ((written.map (·.field.name)).reverse ++ []) = none := by
    rw [Schema.missing?, Option.map_eq_none_iff, List.find?_eq_none]
    intro f hf
    obtain ⟨w, hw, rfl⟩ := List.mem_map.mp (hall ▸ hf)
    have hseen : w.field.name ∈ (written.map fun w => w.field.name).reverse ++ [] := by
      rw [List.append_nil, List.mem_reverse]
      exact List.mem_map_of_mem hw
    rw [List.contains_iff_mem.mpr hseen, Bool.not_true, Bool.and_false]
    simp
  cases written with
  | nil => exact absurd rfl hsome
  | cons w written => exact accepts_record title level htaken hmissing

end ResponsiveMarkup.Json.Reader
