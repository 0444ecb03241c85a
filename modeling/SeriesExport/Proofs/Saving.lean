import SeriesExport.Output.FileTree

/-!
# What saving a file changes

Making the folders of a path adds folders and nothing else (`FileTree.Grown`), and writing a file changes that file and
no other. So a file that is saved can be read under the path that is reported, in a folder that is there, and all other
files are as they were (`FileTree.saved_of_save`).
-/

namespace SeriesExport.FileTree

/-! ## Making folders -/

/-- `t'` is `t` with more folders. -/
structure Grown (t t' : FileTree) : Prop where
  home : t'.home = t.home
  files : t'.files = t.files
  folders : t.folders <+: t'.folders

theorem Grown.refl (t : FileTree) : t.Grown t := ⟨rfl, rfl, List.prefix_rfl⟩

theorem Grown.trans {t t' t'' : FileTree} (h : t.Grown t') (h' : t'.Grown t'') : t.Grown t'' :=
  ⟨h'.home.trans h.home, h'.files.trans h.files, h.folders.trans h'.folders⟩

theorem grown_stepMaking (t : FileTree) (p : Place) (piece : String) : t.Grown (t.stepMaking p piece).2 := by
  unfold stepMaking
  split
  · exact .refl t
  · dsimp only
    split
    · exact ⟨rfl, rfl, List.prefix_append _ _⟩
    · exact .refl t

theorem grown_makeFolders : ∀ (t : FileTree) (p : Place) (pieces : List String), t.Grown (t.makeFolders p pieces).2
  | t, _, [] => .refl t
  | t, p, piece :: pieces => by
    have hstep := grown_stepMaking t p piece
    rw [makeFolders]
    split
    · next q t' heq =>
      rw [heq] at hstep
      exact hstep.trans (grown_makeFolders t' q pieces)
    · next t' heq =>
      rw [heq] at hstep
      exact hstep

theorem grown_openFolder (t : FileTree) (path : String) : t.Grown (t.openFolder path).2 := by
  have hmade := grown_makeFolders t (t.origin path) (Path.made (Path.pieces path))
  unfold openFolder
  split
  · split
    · next heq =>
      rw [heq] at hmade
      exact hmade
    · next heq =>
      rw [heq] at hmade
      exact hmade
  · exact .refl t

/-- A folder that is opened can be reached. -/
theorem walk_of_openFolder {t t' : FileTree} {path : String} {p : Place} (h : t.openFolder path = (some p, t')) :
    t'.walk (t'.origin path) (Path.pieces path) = some p := by
  unfold openFolder at h
  split at h
  · split at h
    · obtain ⟨hwalk, rfl⟩ := Prod.mk.inj h
      exact hwalk
    · cases h
  · cases h

/-! ## Writing a file -/

theorem file?_put_of_ne (t : FileTree) {p q : Place} (h : q ≠ p) (content : Content) :
    (t.put p content).file? q = t.file? q := by
  simp only [put, file?]
  induction t.files with
  | nil => simp [List.lookup_cons, beq_false_of_ne h]
  | cons f fs ih =>
    by_cases hf : f.1 = p
    · rw [List.filter_cons_of_neg (by simpa using hf), ih, List.lookup_cons, hf, beq_false_of_ne h]
    · rw [List.filter_cons_of_pos (by simpa using hf), List.cons_append, List.lookup_cons, List.lookup_cons, ih]

/-- `t'` is `t` with an export file in a folder, under a path. -/
structure Saved (t : FileTree) (folder : String) (a : Artifact) (path : String) (t' : FileTree) : Prop where
  path_eq : path = Path.append folder a.filename
  /-- the folder is there -/
  isFolder : (t'.walk (t'.origin folder) (Path.pieces folder)).isSome
  content : t'.read? path = some a.content
  others : ∀ p, t'.target? path ≠ some p → t'.file? p = t.file? p
  folders : t.folders <+: t'.folders

theorem saved_of_save {t t' : FileTree} {folder path : String} {a : Artifact}
    (h : t.save folder a = (.ok path, t')) : t.Saved folder a path t' := by
  unfold save at h
  split at h
  · cases h
  · next place opened hopen =>
    have hgrown := grown_openFolder t folder
    rw [hopen] at hgrown
    dsimp only at h
    split at h
    · next written hwrite =>
      obtain ⟨p, htarget, hput⟩ := Option.bind_eq_some_iff.mp hwrite
      obtain rfl := Option.some.inj hput
      obtain ⟨hpath, rfl⟩ := Prod.mk.inj h
      obtain rfl := Except.ok.inj hpath
      -- the way to a place does not depend on files
      have htarget : (opened.put p a.content).target? (Path.append folder a.filename) = some p := htarget
      have hwalk := walk_of_openFolder hopen
      refine ⟨rfl, Option.isSome_iff_exists.mpr ⟨place, hwalk⟩, ?_, fun q hq => ?_, hgrown.folders⟩
      · rw [read?, htarget]
        exact file?_put_self opened p a.content
      · rw [file?_put_of_ne opened (fun heq => hq (by rw [htarget, heq])), file?, hgrown.files]
        rfl
    · cases h

end SeriesExport.FileTree
