-- What the programs that write files leave alone: no directory goes, and no file changes but the
-- one that is written, whether the program succeeds or is refused half way. And what they bring
-- about: a file that is written is read back.
import Mathlib
import BoundaryGen.Proofs.Files.Destination

namespace BoundaryGen

namespace FileTree

/-! ## Changes of a tree -/

/-- Every directory stays, and the files away from some places stay as they are. -/
structure ChangesAt (places : Set Trail) (t t' : FileTree) : Prop where
  directory : ∀ {trail}, t.get? trail = some .directory → t'.get? trail = some .directory
  file : ∀ {trail}, trail ∉ places → ∀ content,
    t'.get? trail = some (.file content) ↔ t.get? trail = some (.file content)

variable {places places' : Set Trail} {t t' t'' : FileTree}

namespace ChangesAt

theorem refl (places : Set Trail) (t : FileTree) : ChangesAt places t t :=
  ⟨id, fun _ _ => Iff.rfl⟩

theorem trans (h : ChangesAt places t t') (h' : ChangesAt places t' t'') :
    ChangesAt places t t'' where
  directory hd := h'.directory (h.directory hd)
  file hp content := (h'.file hp content).trans (h.file hp content)

theorem mono (h : ChangesAt places t t') (hp : places ⊆ places') : ChangesAt places' t t' where
  directory := h.directory
  file hnot := h.file fun hmem => hnot (hp hmem)

end ChangesAt

/-- A new directory changes no file. -/
theorem changesAt_put_directory {trail : Trail} (hne : trail ≠ []) (h : t.get? trail = none) :
    ChangesAt ∅ t (t.put trail .directory) where
  directory {other} hd := by
    rw [get?_put t trail .directory other hne]
    split
    · rfl
    · exact hd
  file {other} _ content := by
    rw [get?_put t trail .directory other hne]
    split
    · rename_i heq
      rw [heq, h]
      simp
    · exact Iff.rfl

/-- A file that is put changes no other file. -/
theorem changesAt_put_file {trail : Trail} (hne : trail ≠ []) (content : ByteArray)
    (h : t.get? trail ≠ some .directory) :
    ChangesAt {trail} t (t.put trail (.file content)) where
  directory {other} hd := by
    rw [get?_put t trail (.file content) other hne]
    split
    · rename_i heq
      rw [heq] at hd
      exact absurd hd h
    · exact hd
  file {other} hp content' := by
    have hother : other ≠ trail := hp
    rw [get?_put t trail (.file content) other hne, if_neg hother]

/-! ## Reading -/

variable {path : String} {content : ByteArray}

/-- A file is read where its path leads. -/
theorem read_eq_ok : t.read path = .ok content ↔
    t.resolve path = .ok (destination path) ∧
      t.get? (destination path) = some (.file content) := by
  unfold read find
  constructor
  · intro h
    rcases hresolve : t.resolve path with e | trail
    · rw [hresolve] at h
      cases h
    · obtain rfl := resolve_eq_ok hresolve
      refine ⟨rfl, ?_⟩
      rcases hget : t.get? (destination path) with _ | _ | content'
      · simp only [hresolve, hget, bind, Except.bind] at h
        cases h
      · simp only [hresolve, hget, bind, Except.bind] at h
        cases h
      · simp only [hresolve, hget, bind, Except.bind] at h
        cases h
        rfl
  · rintro ⟨hresolve, hget⟩
    simp only [hresolve, hget, bind, Except.bind]
    rfl

theorem ChangesAt.resolve (h : ChangesAt places t t') {trail : Trail}
    (hr : t.resolve path = .ok trail) : t'.resolve path = .ok trail := by
  unfold FileTree.resolve at hr ⊢
  split at hr
  · cases hr
  · rename_i hempty
    rw [if_neg hempty]
    exact follow_mono (fun _ => h.directory) hr

/-- A file away from the places of a change is read as before. -/
theorem ChangesAt.read (h : ChangesAt places t t') (hp : destination path ∉ places)
    (hr : t.read path = .ok content) : t'.read path = .ok content := by
  obtain ⟨hresolve, hget⟩ := read_eq_ok.mp hr
  exact read_eq_ok.mpr ⟨h.resolve hresolve, (h.file hp content).mpr hget⟩

/-- Two paths that lead to one place have one file. -/
theorem read_of_destination_eq {path' : String} (hr : t.read path = .ok content)
    (hr' : t.resolve path' = .ok (destination path'))
    (heq : destination path' = destination path) : t.read path' = .ok content := by
  obtain ⟨-, hget⟩ := read_eq_ok.mp hr
  apply read_eq_ok.mpr
  refine ⟨hr', ?_⟩
  rw [heq]
  exact hget

/-! ## Operations -/

/-- A directory is made under a name in another one, where nothing stands. -/
theorem exists_of_makeDirectory (h : t.makeDirectory path = .ok t') :
    ∃ parent name, Path.IsName name ∧ t.get? parent = some .directory ∧
      destination path = parent ++ [name] ∧ t.get? (parent ++ [name]) = none ∧
      t' = t.put (parent ++ [name]) .directory := by
  unfold makeDirectory at h
  rcases hplace : t.place path with e | place
  · rw [hplace] at h
    cases h
  simp only [hplace, bind, Except.bind] at h
  have hput : ∀ {trail : Trail}, place = .any trail ∨ place = .directoryOnly trail →
      (if (t.get? trail).isSome then throw IoError.alreadyExists
        else pure (t.put trail .directory) : Except IoError FileTree) = .ok t' →
      ∃ parent name, Path.IsName name ∧ t.get? parent = some .directory ∧
        destination path = parent ++ [name] ∧ t.get? (parent ++ [name]) = none ∧
        t' = t.put (parent ++ [name]) .directory := by
    intro trail htrail hput
    obtain ⟨parent, name, hname, hdir, rfl, hdestination⟩ := exists_of_place_eq hplace htrail
    split at hput
    · cases hput
    · rename_i hnone
      cases hput
      exact ⟨parent, name, hname, hdir, hdestination.symm,
        Option.not_isSome_iff_eq_none.mp hnone, rfl⟩
  cases place with
  | standing => cases h
  | directoryOnly trail => exact hput (Or.inr rfl) h
  | any trail => exact hput (Or.inl rfl) h

/-- A file is put under a name in a directory, where no directory stands. -/
theorem exists_of_write (h : t.write path content = .ok t') :
    t.resolve path = .ok (destination path) ∧
      ∃ parent name, Path.IsName name ∧ t.get? parent = some .directory ∧
        destination path = parent ++ [name] ∧ t.get? (parent ++ [name]) ≠ some .directory ∧
        t' = t.put (parent ++ [name]) (.file content) := by
  unfold write at h
  rcases hplace : t.place path with e | place
  · rw [hplace] at h
    cases h
  simp only [hplace, bind, Except.bind] at h
  cases place with
  | standing => cases h
  | directoryOnly trail => cases h
  | any trail =>
    have hresolve := resolve_of_place hplace
    obtain ⟨parent, name, hname, hdir, rfl, hdestination⟩ := exists_of_place_eq hplace (Or.inl rfl)
    dsimp only at h
    split at h
    · cases h
    · rename_i hfree
      cases h
      exact ⟨hdestination ▸ hresolve, parent, name, hname, hdir, hdestination.symm, hfree, rfl⟩

theorem changesAt_makeDirectory (h : t.makeDirectory path = .ok t') : ChangesAt ∅ t t' := by
  obtain ⟨parent, name, -, -, -, hnone, rfl⟩ := exists_of_makeDirectory h
  exact changesAt_put_directory (List.append_ne_nil_of_right_ne_nil _ (List.cons_ne_nil _ _)) hnone

/-- A file that is written is read back, and no other file changes. -/
theorem changesAt_write (h : t.write path content = .ok t') :
    ChangesAt {destination path} t t' ∧ t'.read path = .ok content := by
  obtain ⟨hresolve, parent, name, -, -, hdestination, hfree, rfl⟩ := exists_of_write h
  have hne : parent ++ [name] ≠ [] :=
    List.append_ne_nil_of_right_ne_nil _ (List.cons_ne_nil _ _)
  rw [hdestination]
  have hchanges := changesAt_put_file hne content hfree
  refine ⟨hchanges, read_eq_ok.mpr ⟨hchanges.resolve hresolve, ?_⟩⟩
  rw [hdestination, get?_put t _ (.file content) _ hne, if_pos rfl]

/-! ## Programs -/

section Programs

variable {ε α β : Type}

/-- A program that changes files at some places only, whether it succeeds or not. -/
def Confined (places : Set Trail) (x : ExceptT ε (StateM FileTree) α) : Prop :=
  ∀ t, ChangesAt places t (x.run t).2

/-- What a program does whose first part succeeds. -/
theorem run_bind_of_ok {x : ExceptT ε (StateM FileTree) α}
    {f : α → ExceptT ε (StateM FileTree) β} {t t₁ : FileTree} {a : α}
    (h : x.run t = (.ok a, t₁)) : (x >>= f).run t = (f a).run t₁ := by
  show (match x.run t with | (r, t₁) => ExceptT.bindCont f r t₁) = (f a).run t₁
  rw [h]
  rfl

/-- A program stops where its first part is refused. -/
theorem run_bind_of_error {x : ExceptT ε (StateM FileTree) α}
    {f : α → ExceptT ε (StateM FileTree) β} {t t₁ : FileTree} {e : ε}
    (h : x.run t = (.error e, t₁)) : (x >>= f).run t = (.error e, t₁) := by
  show (match x.run t with | (r, t₁) => ExceptT.bindCont f r t₁) = (.error e, t₁)
  rw [h]
  rfl

/-- What a program does that cannot fail. -/
theorem run_liftM {x : StateM FileTree α} {t t' : FileTree} {a : α} (h : x.run t = (a, t')) :
    (liftM x : ExceptT ε (StateM FileTree) α).run t = (.ok a, t') :=
  congrArg (fun r : α × FileTree => ((.ok r.1 : Except ε α), r.2)) h

/-- A program that succeeds in two parts. -/
theorem exists_of_run_bind {x : ExceptT ε (StateM FileTree) α}
    {f : α → ExceptT ε (StateM FileTree) β} {t t' : FileTree} {b : β}
    (h : (x >>= f).run t = (.ok b, t')) :
    ∃ a t₁, x.run t = (.ok a, t₁) ∧ (f a).run t₁ = (.ok b, t') := by
  have h : (match x.run t with | (r, t₁) => ExceptT.bindCont f r t₁) = (.ok b, t') := h
  rcases hx : x.run t with ⟨e | a, t₁⟩
  · rw [hx] at h
    cases h
  · rw [hx] at h
    exact ⟨a, t₁, rfl, h⟩

/-- A change is refused, or it is made. -/
theorem changing_cases (f : FileTree → Except IoError FileTree) (t : FileTree) :
    (∃ e, (changing f).run t = (.error e, t)) ∨
      ∃ t', (changing f).run t = (.ok (), t') ∧ f t = .ok t' := by
  rw [changing, ExceptT.run_mk]
  cases f t with
  | error e => exact Or.inl ⟨e, rfl⟩
  | ok t' => exact Or.inr ⟨t', rfl, rfl⟩

/-! ## What programs preserve -/

/-- A program keeps what holds of the tree, whether it succeeds or not. -/
def Preserves (I : FileTree → Prop) (x : ExceptT ε (StateM FileTree) α) : Prop :=
  ∀ t, I t → I (x.run t).2

namespace Preserves

variable {I : FileTree → Prop}

theorem pure (I : FileTree → Prop) (a : α) :
    Preserves I (Pure.pure a : ExceptT ε (StateM FileTree) α) :=
  fun _ h => h

theorem throw (I : FileTree → Prop) (e : ε) :
    Preserves I (throwThe ε e : ExceptT ε (StateM FileTree) α) :=
  fun _ h => h

theorem bind {x : ExceptT ε (StateM FileTree) α} {f : α → ExceptT ε (StateM FileTree) β}
    (hx : Preserves I x) (hf : ∀ a, Preserves I (f a)) : Preserves I (x >>= f) := by
  intro t ht
  show I (match x.run t with | (r, t₁) => ExceptT.bindCont f r t₁).2
  have hkept := hx t ht
  rcases h : x.run t with ⟨e | a, t₁⟩
  · rw [h] at hkept
    exact hkept
  · rw [h] at hkept
    exact hf a t₁ hkept

theorem tryCatch {x : ExceptT ε (StateM FileTree) α} {handle : ε → ExceptT ε (StateM FileTree) α}
    (hx : Preserves I x) (hh : ∀ e, Preserves I (handle e)) :
    Preserves I (tryCatchThe ε x handle) := by
  intro t ht
  show I (match x.run t with
    | (r, t₁) => (match r with
      | .ok a => Pure.pure (Except.ok a)
      | .error e => (handle e).run : StateM FileTree (Except ε α)) t₁).2
  have hkept := hx t ht
  rcases h : x.run t with ⟨e | a, t₁⟩
  · rw [h] at hkept
    exact hh e t₁ hkept
  · rw [h] at hkept
    exact hkept

/-- A part that cannot fail. -/
theorem lift {x : StateM FileTree α} (h : ∀ t, I t → I (x.run t).2) :
    Preserves I (liftM x : ExceptT ε (StateM FileTree) α) :=
  h

/-- Asking a tree changes nothing. -/
theorem ask (I : FileTree → Prop) (f : FileTree → α) :
    Preserves I (liftM (f <$> get : StateM FileTree α) : ExceptT ε (StateM FileTree) α) :=
  .lift fun _ h => h

theorem mapM {list : List α} {f : α → ExceptT ε (StateM FileTree) β}
    (h : ∀ a ∈ list, Preserves I (f a)) : Preserves I (list.mapM f) := by
  induction list with
  | nil => exact .pure I []
  | cons a list ih =>
    rw [List.mapM_cons]
    have hrest := ih fun b hb => h b (List.mem_cons_of_mem a hb)
    exact (h a List.mem_cons_self).bind fun _ => hrest.bind fun _ => .pure I _

/-- What every change from a tree preserves that is not refused. -/
theorem changing {change : FileTree → Except IoError FileTree}
    (h : ∀ t t', I t → change t = .ok t' → I t') : Preserves I (FileTree.changing change) := by
  intro t ht
  rcases changing_cases change t with ⟨e, hrun⟩ | ⟨t', hrun, hchange⟩
  · rw [hrun]
    exact ht
  · rw [hrun]
    exact h t t' ht hchange

/-- Directories are made one by one, and not all of them when one is refused. -/
theorem makeEach {paths : List String}
    (h : ∀ path ∈ paths, Preserves I
      (Disk.makeDirectory path : ExceptT IoError (StateM FileTree) Unit)) :
    Preserves I (Disk.makeEach paths : ExceptT IoError (StateM FileTree) Unit) := by
  induction paths with
  | nil => exact .throw I _
  | cons path around ih =>
    have hmake : Preserves I
        (tryCatchThe IoError (Disk.makeDirectory path : ExceptT IoError (StateM FileTree) Unit)
          fun e => do
            unless ← (Disk.isDirectory path : StateM FileTree Bool) do
              throwThe IoError e) := by
      apply Preserves.tryCatch (h path List.mem_cons_self)
      intro e
      apply Preserves.bind (Preserves.ask I fun t => decide (t.kind? path = some .directory))
      intro isDirectory
      cases isDirectory with
      | true => exact .pure I ()
      | false => exact .throw I e
    rw [Disk.makeEach]
    split
    · exact .pure I ()
    · apply Preserves.tryCatch hmake
      intro e
      cases e with
      | notFound =>
        have haround := ih fun path' hpath => h path' (List.mem_cons_of_mem path hpath)
        exact haround.bind fun _ => hmake
      | _ => exact .throw I _

end Preserves

/-- Changes at some places are what a program preserves from every tree on. -/
theorem confined_iff {places : Set Trail} {x : ExceptT ε (StateM FileTree) α} :
    Confined places x ↔ ∀ t, Preserves (ChangesAt places t) x := by
  constructor
  · intro h t t₁ ht
    exact ht.trans (h t₁)
  · intro h t
    exact h t t (.refl places t)

namespace Confined

variable {places : Set Trail}

theorem pure (places : Set Trail) (a : α) :
    Confined places (Pure.pure a : ExceptT ε (StateM FileTree) α) :=
  fun t => .refl places t

theorem makeDirectory (path : String) :
    Confined ∅ (Disk.makeDirectory path : ExceptT IoError (StateM FileTree) Unit) :=
  confined_iff.mpr fun _ => .changing fun _ _ hchanges h =>
    hchanges.trans (changesAt_makeDirectory h)

/-- Directories that are made change no file, even when not all of them can be made. -/
theorem makeEach (paths : List String) :
    Confined ∅ (Disk.makeEach paths : ExceptT IoError (StateM FileTree) Unit) :=
  confined_iff.mpr fun t => .makeEach fun path _ =>
    confined_iff.mp (Confined.makeDirectory path) t

end Confined

end Programs

/-! ## Writing -/

/-- The directories around a path are made. -/
def makeAround (path : String) : ExceptT IoError (StateM FileTree) Unit :=
  match Path.parent? path with
  | some around => Disk.makeDirectories around
  | none => pure ()

theorem writeWithin_eq (path : String) (content : ByteArray) :
    (Disk.writeWithin path content : ExceptT IoError (StateM FileTree) Unit) =
      makeAround path >>= fun _ => Disk.write path content := by
  unfold Disk.writeWithin makeAround
  cases Path.parent? path <;> rfl

theorem Preserves.makeAround {I : FileTree → Prop} {path : String}
    (h : ∀ around ∈ Path.parent? path, ∀ directory ∈ Path.withParents around, Preserves I
      (Disk.makeDirectory directory : ExceptT IoError (StateM FileTree) Unit)) :
    Preserves I (makeAround path) := by
  unfold FileTree.makeAround
  split
  · rename_i around haround
    exact .makeEach (h around haround)
  · exact .pure I ()

theorem Preserves.writeWithin {I : FileTree → Prop} {path : String} {content : ByteArray}
    (haround : Preserves I (FileTree.makeAround path))
    (hwrite : Preserves I (Disk.write path content : ExceptT IoError (StateM FileTree) Unit)) :
    Preserves I (Disk.writeWithin path content : ExceptT IoError (StateM FileTree) Unit) := by
  rw [writeWithin_eq]
  exact haround.bind fun _ => hwrite

theorem Confined.makeAround (path : String) : Confined ∅ (makeAround path) := by
  unfold FileTree.makeAround
  split
  · exact Confined.makeEach _
  · exact Confined.pure ∅ ()

theorem write_cases {r : Except IoError Unit}
    (h : (Disk.write path content : ExceptT IoError (StateM FileTree) Unit).run t = (r, t')) :
    (∃ e, r = .error e ∧ t' = t) ∨ (r = .ok () ∧ t.write path content = .ok t') := by
  rcases changing_cases (·.write path content) t with ⟨e, hrun⟩ | ⟨t₁, hrun, hwrite⟩
  · cases h.symm.trans hrun
    exact Or.inl ⟨e, rfl, rfl⟩
  · cases h.symm.trans hrun
    exact Or.inr ⟨rfl, hwrite⟩

/-- A file is written into directories that are made first. When the program is refused, no file is
written. -/
theorem writeWithin_cases {r : Except IoError Unit}
    (h : (Disk.writeWithin path content : ExceptT IoError (StateM FileTree) Unit).run t = (r, t')) :
    (∃ e, r = .error e ∧ ChangesAt ∅ t t') ∨
      (r = .ok () ∧ ChangesAt {destination path} t t' ∧ t'.read path = .ok content) := by
  have hmade := Confined.makeAround path t
  rw [writeWithin_eq] at h
  have h : (match (makeAround path).run t with
    | (r, t₁) => (ExceptT.bindCont (fun _ => Disk.write path content) r :
        StateM FileTree (Except IoError Unit)) t₁) = (r, t') := h
  rcases hrun : (makeAround path).run t with ⟨e | _, t₁⟩
  · rw [hrun] at h hmade
    cases h
    exact Or.inl ⟨e, rfl, hmade⟩
  · rw [hrun] at h hmade
    rcases write_cases h with ⟨e, rfl, rfl⟩ | ⟨rfl, hwrite⟩
    · exact Or.inl ⟨e, rfl, hmade⟩
    · obtain ⟨hchanges, hread⟩ := changesAt_write hwrite
      exact Or.inr ⟨rfl, (hmade.mono (Set.empty_subset _)).trans hchanges, hread⟩

/-- A tree is asked for the content of a file. -/
theorem run_read? (path : String) (t : FileTree) :
    (Disk.read? path : StateM FileTree (Option ByteArray)).run t =
      ((t.read path).toOption, t) := by
  have hread : StateT.run (Disk.read path : ExceptT IoError (StateM FileTree) ByteArray).run t =
      (t.read path, t) := rfl
  rw [Disk.read?, StateT.run_bind, hread]
  cases t.read path <;> rfl

theorem read_of_toOption (h : (t.read path).toOption = some content) :
    t.read path = .ok content := by
  rcases hread : t.read path with e | content'
  · rw [hread] at h
    cases h
  · rw [hread] at h
    cases h
    rfl

theorem toOption_eq_some : (t.read path).toOption = some content ↔ t.read path = .ok content := by
  constructor
  · exact read_of_toOption
  · intro h
    rw [h]
    rfl

/-- A text that is read already is not written. -/
theorem run_writeIfChanged_of_read {text : String} (h : t.read path = .ok text.toUTF8) :
    (Disk.writeIfChanged path text : ExceptT IoError (StateM FileTree) Bool).run t =
      (.ok false, t) := by
  unfold Disk.writeIfChanged
  rw [run_bind_of_ok (run_liftM (run_read? path t)), if_pos (toOption_eq_some.mpr h)]
  rfl

/-- A text that is not read yet is written. -/
theorem run_writeIfChanged_of_not_read {text : String} (h : t.read path ≠ .ok text.toUTF8) :
    (Disk.writeIfChanged path text : ExceptT IoError (StateM FileTree) Bool).run t =
      (do
        Disk.writeWithin path text.toUTF8
        return true : ExceptT IoError (StateM FileTree) Bool).run t := by
  unfold Disk.writeIfChanged
  rw [run_bind_of_ok (run_liftM (run_read? path t)),
    if_neg fun hsame => h (toOption_eq_some.mp hsame)]

/-- A text is read where it was put or stood before, and no other file changes. It is put when it
was not read before. -/
theorem run_writeIfChanged {text : String} {changed : Bool}
    (h : (Disk.writeIfChanged path text : ExceptT IoError (StateM FileTree) Bool).run t =
      (.ok changed, t')) :
    ChangesAt {destination path} t t' ∧ t'.read path = .ok text.toUTF8 ∧
      (changed = true ↔ t.read path ≠ .ok text.toUTF8) := by
  by_cases hsame : t.read path = .ok text.toUTF8
  · rw [run_writeIfChanged_of_read hsame] at h
    cases h
    exact ⟨.refl _ t, hsame, iff_of_false Bool.false_ne_true (not_not.mpr hsame)⟩
  · rw [run_writeIfChanged_of_not_read hsame] at h
    obtain ⟨_, t₁, hwrite, h⟩ := exists_of_run_bind h
    cases h
    rcases writeWithin_cases hwrite with ⟨e, he, -⟩ | ⟨-, hchanges, hread⟩
    · cases he
    · exact ⟨hchanges, hread, iff_of_true rfl hsame⟩

theorem Confined.writeWithin (path : String) (content : ByteArray) :
    Confined {destination path}
      (Disk.writeWithin path content : ExceptT IoError (StateM FileTree) Unit) := by
  intro t
  rcases hrun : (Disk.writeWithin path content : ExceptT IoError (StateM FileTree) Unit).run t
    with ⟨r, t'⟩
  rcases writeWithin_cases hrun with ⟨-, -, hchanges⟩ | ⟨-, hchanges, -⟩
  · exact hchanges.mono (Set.empty_subset _)
  · exact hchanges

theorem Preserves.writeIfChanged {I : FileTree → Prop} {path text : String}
    (h : Preserves I
      (Disk.writeWithin path text.toUTF8 : ExceptT IoError (StateM FileTree) Unit)) :
    Preserves I (Disk.writeIfChanged path text : ExceptT IoError (StateM FileTree) Bool) := by
  intro t ht
  by_cases hsame : t.read path = .ok text.toUTF8
  · rw [run_writeIfChanged_of_read hsame]
    exact ht
  · rw [run_writeIfChanged_of_not_read hsame]
    exact (h.bind fun _ => .pure I true) t ht

end FileTree

end BoundaryGen
