import ResponsiveMarkup.Storage

/-!
What was written under a path is read back under the same path. The way to a file only leads over folders and links,
so a file that takes the place it ends at changes no step of the way.
-/

namespace ResponsiveMarkup

open Text

namespace Storage

variable {st : Storage} {p : Path} {e : StorageEntry}

theorem entry?_set (hp : p ≠ []) (q : Path) : Storage.entry? (st.set p e) q = if q = p then some e else st.entry? q := by
  by_cases hq : q = []
  · subst hq
    simp [ entry?, hp.symm]
  · have hother (d : Path × StorageEntry) (hd : d.1 ≠ p) : (d.1 == q) = true → (d.1 != p) = true := by
      simp [hd]
    have hfilter : (st.entries.filter (·.1 != p)).find? (·.1 == q) =
        if q = p then none else st.entries.find? (·.1 == q) := by
      rw [List.find?_filter]
      by_cases hqp : q = p
      · rw [if_pos hqp, List.find?_eq_none]
        intro d _
        simp [hqp]
      · rw [if_neg hqp]
        congr 1
        funext d
        by_cases hd : d.1 = q <;> simp [hd, hqp]
    have hempty : q.isEmpty = false := by simpa using hq
    simp only [ entry?, set, without, hempty, Bool.false_eq_true, if_false, List.find?_append, hfilter,
      List.find?_singleton]
    by_cases hqp : q = p
    · subst hqp
      simp
    · have hne : (p == q) = false := by simpa using Ne.symm hqp
      simp [hqp, hne]

namespace Target

def path : Target → Path
  | .found p => p
  | .free p => p

end Target

/-- A component that names an entry of a folder. -/
structure Names (c : Text) : Prop where
  step : ¬ (c = [] ∨ c = ['.'])
  down : c ≠ ['.', '.']
  short : ¬ maxName < byteLength c

/-- A way from a folder over the components of a path to what it ends at. A link is followed wherever it stands. -/
inductive Way (st : Storage) : Nat → Path → List Text → Target → Prop
  | stop (links : Nat) (here : Path) : Way st links here [] (.found here)
  | stay {links : Nat} {here : Path} {c : Text} {rest : List Text} {t : Target}
      (folder : st.entry? here = some .folder) (hc : c = [] ∨ c = ['.']) (way : Way st links here rest t) :
      Way st links here (c :: rest) t
  | up {links : Nat} {here : Path} {rest : List Text} {t : Target} (folder : st.entry? here = some .folder)
      (way : Way st links here.dropLast rest t) : Way st links here (['.', '.'] :: rest) t
  | fresh {links : Nat} {here : Path} {c : Text} (folder : st.entry? here = some .folder) (names : Names c)
      (none : st.entry? (here ++ [c]) = none) : Way st links here [c] (.free (here ++ [c]))
  | follow {links : Nat} {here : Path} {c target : Text} {rest : List Text} {t : Target}
      (folder : st.entry? here = some .folder) (names : Names c)
      (link : st.entry? (here ++ [c]) = some (.link target))
      (way : Way st links (if target.head? = some '/' then [] else here) (Path.ofText target ++ rest) t) :
      Way st (links + 1) here (c :: rest) t
  | enter {links : Nat} {here : Path} {c : Text} {rest : List Text} {t : Target} {e : StorageEntry}
      (folder : st.entry? here = some .folder) (names : Names c) (entry : st.entry? (here ++ [c]) = some e)
      (notLink : ∀ target, e ≠ .link target) (way : Way st links (here ++ [c]) rest t) :
      Way st links here (c :: rest) t

theorem way_of_resolveFrom {purpose : Purpose} (hpurpose : purpose ≠ .entry) {links : Nat} {here : Path}
    {todo : List Text} {t : Target} (h : st.resolveFrom purpose links here todo = .ok t) :
    Way st links here todo t := by
  fun_induction resolveFrom st purpose links here todo with
  | case1 links here =>
    obtain rfl := Except.ok.inj h
    exact .stop links here
  | case3 links here c rest hfolder hc ih => exact .stay (by simpa using hfolder) hc (ih h)
  | case4 links here rest hfolder _ ih => exact .up (by simpa using hfolder) (ih h)
  | case7 links here c rest hfolder hstep hdown _ hshort hnone hlast =>
    obtain rfl := Except.ok.inj h
    obtain rfl := List.isEmpty_iff.mp hlast
    exact .fresh (by simpa using hfolder) ⟨hstep, hdown, hshort⟩ hnone
  | case9 links here c rest _ _ _ _ _ target _ hentry => simp [hpurpose] at hentry
  | case11 here c rest hfolder hstep hdown _ hshort target hlink _ links ih =>
    exact .follow (by simpa using hfolder) ⟨hstep, hdown, hshort⟩ hlink (ih h)
  | case12 links here c rest hfolder hstep hdown _ hshort e hnotLink hentry ih =>
    exact .enter (by simpa using hfolder) ⟨hstep, hdown, hshort⟩ hentry (fun target => hnotLink target) (ih h)
  | case2 => exact absurd h (by simp)
  | case5 => exact absurd h (by simp)
  | case6 => exact absurd h (by simp)
  | case8 => exact absurd h (by simp)
  | case10 => exact absurd h (by simp)

theorem Way.resolveFrom {links : Nat} {here : Path} {todo : List Text} {t : Target} (h : Way st links here todo t) :
    st.resolveFrom .content links here todo = .ok t := by
  induction h with
  | stop links here => rw [Storage.resolveFrom]
  | stay folder hc _ ih =>
    rw [Storage.resolveFrom]
    simp [folder, hc, ih]
  | up folder _ ih =>
    rw [Storage.resolveFrom]
    simp [folder, ih]
  | fresh folder names hnone =>
    rw [Storage.resolveFrom]
    simp [folder, names.step, names.down, names.short, hnone]
  | follow folder names link _ ih =>
    rw [Storage.resolveFrom]
    simp [folder, names.step, names.down, names.short, link, ih]
  | @enter links here c rest t e folder names entry notLink _ ih =>
    rw [Storage.resolveFrom]
    cases he : e with
    | link target => exact absurd he (notLink target)
    | file bytes => simp [folder, names.step, names.down, names.short, entry, he, ih]
    | folder => simp [folder, names.step, names.down, names.short, entry, he, ih]

/-- What is free has no entry. -/
theorem Way.free {links : Nat} {here : Path} {todo : List Text} (h : Way st links here todo (.free p)) :
    st.entry? p = none := by
  generalize ht : Target.free p = t at h
  induction h with
  | stop => exact absurd ht (by simp)
  | fresh _ _ hnone =>
    obtain rfl := Target.free.inj ht
    exact hnone
  | stay _ _ _ ih => exact ih ht
  | up _ _ ih => exact ih ht
  | follow _ _ _ _ ih => exact ih ht
  | enter _ _ _ _ _ ih => exact ih ht

/-- A way has come this far over folders and does not stand on a link. -/
structure Walked (st : Storage) (here : Path) : Prop where
  folders : ∀ q, q <+: here → q ≠ here → st.entry? q = some .folder
  notLink : ∀ target, st.entry? here ≠ some (.link target)

theorem walked_nil (st : Storage) : Walked st [] where
  folders q hq hne := absurd (List.prefix_nil.mp hq) hne
  notLink target h := by simp [ entry?] at h

theorem Walked.dropLast {here : Path} (h : Walked st here) : Walked st here.dropLast := by
  by_cases hnil : here = []
  · subst hnil
    exact h
  have hshorter (q : Path) (hq : q <+: here.dropLast) : st.entry? q = some .folder := by
    refine h.folders q (hq.trans (List.dropLast_prefix here)) ?_
    rintro rfl
    have hlength := hq.length_le
    rw [List.length_dropLast] at hlength
    have hpos := List.length_pos_iff.mpr hnil
    omega
  refine ⟨fun q hq _ => hshorter q hq, fun target hlink => ?_⟩
  simp [hshorter _ (List.prefix_refl _)] at hlink

/-- Where a link leads on from. -/
theorem Walked.link {here : Path} (h : Walked st here) (target : Text) :
    Walked st (if target.head? = some '/' then [] else here) := by
  split
  · exact walked_nil st
  · exact h

theorem Walked.append {here : Path} (h : Walked st here) (hfolder : st.entry? here = some .folder) {c : Text}
    (hentry : ∀ target, st.entry? (here ++ [c]) ≠ some (.link target)) : Walked st (here ++ [c]) where
  folders q hq hne := by
    rcases List.prefix_concat_iff.mp hq with rfl | hq
    · exact absurd rfl hne
    · by_cases hhere : q = here
      · rw [hhere, hfolder]
      · exact h.folders q hq hhere
  notLink := hentry

/-- No way ends at a link. -/
theorem Way.notLink {links : Nat} {here : Path} {todo : List Text} {t : Target} (h : Way st links here todo t)
    (hwalked : Walked st here) (target : Text) : st.entry? t.path ≠ some (.link target) := by
  induction h with
  | stop links here => exact hwalked.notLink target
  | stay _ _ _ ih => exact ih hwalked
  | up folder _ ih => exact ih hwalked.dropLast
  | fresh _ _ hnone => simp [Target.path, hnone]
  | follow _ _ _ _ ih =>
    exact ih (hwalked.link _)
  | enter folder _ entry notLink _ ih =>
    refine ih (hwalked.append folder fun link hlink => notLink link ?_)
    rw [entry] at hlink
    exact Option.some.inj hlink

/-- A file in the place that a way ends at is where the same way leads. -/
theorem Way.set {links : Nat} {here : Path} {todo : List Text} {t : Target} (h : Way st links here todo t)
    (hwalked : Walked st here) (hpath : t.path ≠ []) (hfile : st.entry? t.path ≠ some .folder) (bytes : List UInt8) :
    Way (st.set t.path (.file bytes)) links here todo (.found t.path) := by
  have hsame (q : Path) : Storage.entry? (st.set t.path (.file bytes)) q =
      if q = t.path then some (.file bytes) else st.entry? q := entry?_set hpath q
  have hlinks := h.notLink hwalked
  have hfolders {q : Path} (hq : st.entry? q = some .folder) :
      Storage.entry? (st.set t.path (.file bytes)) q = some .folder := by
    rw [hsame, if_neg, hq]
    rintro rfl
    exact hfile hq
  generalize hst' : st.set t.path (.file bytes) = st' at hsame hfolders ⊢
  clear hst'
  induction h with
  | stop links here => exact .stop links here
  | stay folder hc _ ih => exact .stay (hfolders folder) hc (ih hwalked hpath hfile hlinks hsame)
  | up folder _ ih =>
    exact .up (hfolders folder) (ih hwalked.dropLast hpath hfile hlinks hsame)
  | @fresh links here c folder names hnone =>
    have hentry : st'.entry? (here ++ [c]) = some (.file bytes) := by
      rw [hsame]
      exact if_pos rfl
    exact .enter (hfolders folder) names hentry (fun target => by simp) (.stop links _)
  | @follow links here c target rest t folder names link _ ih =>
    have hentry : st'.entry? (here ++ [c]) = some (.link target) := by
      rw [hsame, if_neg, link]
      rintro heq
      exact hlinks target (heq ▸ link)
    exact .follow (hfolders folder) names hentry (ih (hwalked.link target) hpath hfile hlinks hsame)
  | @enter links here c rest t e folder names entry notLink _ ih =>
    have hwalked' : Walked st (here ++ [c]) := hwalked.append folder fun link hlink => by
      rw [entry] at hlink
      exact notLink link (Option.some.inj hlink)
    have hway := ih hwalked' hpath hfile hlinks hsame
    by_cases heq : here ++ [c] = t.path
    · have hentry : st'.entry? (here ++ [c]) = some (.file bytes) := by
        rw [hsame, if_pos heq]
      exact .enter (hfolders folder) names hentry (fun target => by simp) hway
    · have hentry : st'.entry? (here ++ [c]) = some e := by
        rw [hsame, if_neg heq, entry]
      exact .enter (hfolders folder) names hentry notLink hway

/-- Only the way can differ between two purposes, not whether the path can be followed at all. -/
theorem resolve_ok {purpose : Purpose} {path : Text} {t : Target} (h : st.resolve purpose path = .ok t) :
    st.resolveFrom purpose maxLinks [] (Path.ofText path) = .ok t ∧
      ∀ st' : Storage, ∀ other, st'.resolve other path = st'.resolveFrom other maxLinks [] (Path.ofText path) := by
  simp only [resolve] at h ⊢
  split at h
  · exact absurd h (by simp)
  · rename_i hempty
    split at h
    · exact absurd h (by simp)
    · rename_i hnull
      split at h
      · exact absurd h (by simp)
      · rename_i hlong
        refine ⟨h, fun st' other => ?_⟩
        rw [if_neg hempty, if_neg hnull, if_neg hlong]

/-- Writing goes a way that does not end at a folder, and sets the file at its end. -/
theorem write_eq {st' : Storage} {path : Text} {bytes : List UInt8} (h : st.write path bytes = .ok st') :
    ∃ t, st.resolve .writing path = .ok t ∧ st.entry? t.path ≠ some .folder ∧
      st' = st.set t.path (.file bytes) := by
  rw [write] at h
  cases ht : st.resolve .writing path with
  | error e =>
    rw [ht] at h
    exact absurd h (by simp [bind, Except.bind])
  | ok t =>
    rw [ht] at h
    cases t with
    | free p =>
      have hfree := (way_of_resolveFrom (by decide) (resolve_ok ht).1).free
      refine ⟨.free p, rfl, ?_, (Except.ok.inj h).symm⟩
      rw [Target.path, hfree]
      simp
    | found p =>
      change (if st.entry? p = some .folder then Except.error StorageFault.isFolder
        else .ok (st.set p (.file bytes))) = .ok st' at h
      split at h
      · exact absurd h (by simp)
      · rename_i hfile
        exact ⟨.found p, rfl, hfile, (Except.ok.inj h).symm⟩

/-- What was written is read. -/
theorem read_write {st' : Storage} {path : Text} {bytes : List UInt8} (h : st.write path bytes = .ok st') :
    st'.read path = .ok bytes := by
  obtain ⟨t, hresolve, hfile, rfl⟩ := write_eq h
  obtain ⟨hfrom, hother⟩ := resolve_ok hresolve
  have hway := way_of_resolveFrom (by decide) hfrom
  have hpath : t.path ≠ [] := by
    intro hnil
    exact hfile (by rw [hnil]; rfl)
  have hread : (st.set t.path (.file bytes)).resolve .content path = .ok (.found t.path) := by
    rw [hother, (hway.set (walked_nil st) hpath hfile bytes).resolveFrom]
  have hentry : Storage.entry? (st.set t.path (.file bytes)) t.path = some (.file bytes) := by
    rw [entry?_set hpath, if_pos rfl]
  simp only [read, hread, bind, Except.bind, hentry]

/-- The bytes of a text are its text. -/
theorem decode?_utf8 (s : Text) : decode? (utf8 s) = some s := by
  have hbytes : (⟨(utf8 s).toArray⟩ : ByteArray) = (String.ofList s).toByteArray := by
    ext1
    simp [utf8, List.utf8Encode]
  have hvalid : (String.ofList s).toByteArray.IsValidUTF8 := (String.ofList s).isValidUTF8
  rw [decode?, hbytes, String.fromUTF8?, dif_pos hvalid, Option.map_some]
  exact congrArg some String.toList_ofList

theorem readText_of_read {path s : Text} (h : st.read path = .ok (utf8 s)) : st.readText path = .ok s := by
  simp only [readText, h, bind, Except.bind, decode?_utf8]

theorem readText_of_noText {path : Text} {bytes : List UInt8} (h : st.read path = .ok bytes)
    (hbytes : decode? bytes = none) : st.readText path = .error .noText := by
  simp only [readText, h, bind, Except.bind, hbytes]

theorem readText_write {st' : Storage} {path s : Text} (h : st.write path (utf8 s) = .ok st') :
    st'.readText path = .ok s := readText_of_read (read_write h)

end Storage

end ResponsiveMarkup
