import Snapweb.Packages.Icons

/-!
# The names of icon files

An icon's file is called `name_filename`, after the snap and snapd's name for the file.  Names of
snaps have no underscore, so the first one ends the name: as long as file names have no slash, an
icon's path tells whose it is, and the pattern that looks for a snap's icons finds only them.

* `iconDstPath_inj` and `iconURL_inj` — the path of an icon, on disk or as it is served, tells the
  snap and the file name.
* `servedFile_iconURL` — the file served under the path is the icon's.
* `mem_glob_iconDstPath` — which icon files the lookup's pattern finds.
-/

namespace Snapweb

/-- Lower-case letters, digits and hyphens. -/
def IsSnapName (name : String) : Prop :=
  ∀ c ∈ name.toList, c.isLower = true ∨ c.isDigit = true ∨ c = '-'

/-- The file that is served under a path: the parent of the icon directory is served whole. -/
def servedFile (sv : Server) (path : String) : String :=
  Filepath.join [Filepath.join [iconDirPath sv, ".."], path]

section
variable {sv : Server} {name name' : String} {icon icon' : Icon}

lemma IsSnapName.not_mem {c : Char} (h : IsSnapName name)
    (hc : (c.isLower || c.isDigit || c == '-') = false) : c ∉ name.toList := by
  intro hmem
  rw [Bool.or_eq_false_iff, Bool.or_eq_false_iff, beq_eq_false_iff_ne] at hc
  rcases h c hmem with hlower | hdigit | hhyphen
  · exact absurd hlower (by rw [hc.1.1]; decide)
  · exact absurd hdigit (by rw [hc.1.2]; decide)
  · exact hc.2 hhyphen

/-- The name and an underscore are no pattern. -/
lemma IsSnapName.isLiteral (h : IsSnapName name) :
    ∀ c ∈ (name ++ "_").toList, Filepath.IsLiteral c := by
  intro c hc
  rw [String.toList_append, List.mem_append] at hc
  rcases hc with hc | hc
  · have hne : ∀ d : Char, (d.isLower || d.isDigit || d == '-') = false → c ≠ d := by
      rintro d hd rfl
      exact h.not_mem hd hc
    exact ⟨hne _ (by decide), hne _ (by decide), hne _ (by decide), hne _ (by decide)⟩
  · have hc : c = '_' := by simpa using hc
    subst hc
    exact ⟨by decide, by decide, by decide, by decide⟩

/-- What begins with a name and an underscore is a file name, if it has no slash. -/
lemma IsSnapName.isPlain (h : IsSnapName name) {rest : String} (hrest : '/' ∉ rest.toList) :
    Filepath.IsPlain (name ++ "_" ++ rest).toList := by
  have hmem : '_' ∈ (name ++ "_" ++ rest).toList := by simp
  refine ⟨fun hnil => ?_, fun hdot => ?_, fun hdots => ?_, fun hslash => ?_⟩
  · rw [hnil] at hmem
    exact List.not_mem_nil hmem
  · rw [hdot] at hmem
    exact absurd hmem (by decide)
  · rw [hdots] at hmem
    exact absurd hmem (by decide)
  · have hname := h.not_mem (c := '/') (by decide)
    simp [hname, hrest] at hslash

/-- The first underscore ends the name. -/
lemma name_append_inj (h : IsSnapName name) (h' : IsSnapName name') {rest rest' : String}
    (heq : name ++ "_" ++ rest = name' ++ "_" ++ rest') : name = name' ∧ rest = rest' := by
  have hlist : name.toList ++ '_' :: rest.toList = name'.toList ++ '_' :: rest'.toList := by
    simpa using congrArg String.toList heq
  have hname := h.not_mem (c := '_') (by decide)
  have hname' := h'.not_mem (c := '_') (by decide)
  have hsplit := congrArg (List.splitOn '_') hlist
  rw [List.splitOn_append_cons_self_of_not_mem hname,
    List.splitOn_append_cons_self_of_not_mem hname'] at hsplit
  have hnames : name.toList = name'.toList := (List.cons.inj hsplit).1
  rw [hnames, List.append_cancel_left_eq, List.cons.injEq] at hlist
  exact ⟨String.toList_inj.mp hnames, String.toList_inj.mp hlist.2⟩

lemma snapDataDir_ne_empty (sv : Server) : snapDataDir sv ≠ "" := by
  rw [snapDataDir]
  split_ifs with h
  · decide
  · exact h

lemma iconDirPath_ne_empty (sv : Server) : iconDirPath sv ≠ "" := by
  rw [iconDirPath, Filepath.join_pair (snapDataDir_ne_empty sv)]
  exact Filepath.clean_ne_empty _

/-- The icon directory's path is clean. -/
lemma clean_iconDirPath (sv : Server) : Filepath.clean (iconDirPath sv) = iconDirPath sv := by
  rw [iconDirPath, Filepath.join_pair (snapDataDir_ne_empty sv), Filepath.clean_clean]

lemma isPlain_baseIcon (h : IsSnapName name) (hfile : '/' ∉ icon.filename.toList) :
    Filepath.IsPlain (baseIcon name icon).toList :=
  h.isPlain hfile

/-! ## Paths -/

/-- The path on disk tells the snap and the file name. -/
lemma iconDstPath_inj (h : IsSnapName name) (h' : IsSnapName name')
    (hfile : '/' ∉ icon.filename.toList) (hfile' : '/' ∉ icon'.filename.toList)
    (heq : iconDstPath sv name icon = iconDstPath sv name' icon') :
    name = name' ∧ icon.filename = icon'.filename :=
  name_append_inj h h' <| Filepath.join_name_inj (iconDirPath_ne_empty sv)
    (isPlain_baseIcon h hfile) (isPlain_baseIcon h' hfile') heq

lemma dir_iconDstPath (h : IsSnapName name) (hfile : '/' ∉ icon.filename.toList) :
    Filepath.dir (iconDstPath sv name icon) = iconDirPath sv := by
  have hdir := Filepath.dir_join_name (iconDirPath_ne_empty sv) (isPlain_baseIcon h hfile)
  rw [clean_iconDirPath] at hdir
  exact hdir

lemma base_iconDstPath (h : IsSnapName name) (hfile : '/' ∉ icon.filename.toList) :
    Filepath.base (iconDstPath sv name icon) = baseIcon name icon :=
  Filepath.base_join_name (iconDirPath_ne_empty sv) (isPlain_baseIcon h hfile)

/-- An icon's file is not a directory that the icon directory lies in. -/
lemma not_under_iconDstPath (h : IsSnapName name) (hfile : '/' ∉ icon.filename.toList) :
    ¬ Filepath.Under (iconDstPath sv name icon) (iconDirPath sv) :=
  Filepath.not_under_join_name (iconDirPath_ne_empty sv) (isPlain_baseIcon h hfile)

/-- The path an icon is served under. -/
lemma iconURL_eq (h : IsSnapName name) (hfile : '/' ∉ icon.filename.toList) :
    iconURL name icon = Filepath.within true ["icons".toList] (baseIcon name icon).toList := by
  have hplain := isPlain_baseIcon h hfile
  have hicons : ∀ seg ∈ ["icons".toList], Filepath.IsPlain seg := by
    intro seg hseg
    rw [List.mem_singleton.mp hseg]
    exact ⟨by decide, by decide, by decide, by decide⟩
  rw [iconURL, Filepath.join_name (by decide) hplain]
  exact Filepath.join_within (by decide) false hicons hplain

/-- The path an icon is served under tells the snap and the file name. -/
lemma iconURL_inj (h : IsSnapName name) (h' : IsSnapName name')
    (hfile : '/' ∉ icon.filename.toList) (hfile' : '/' ∉ icon'.filename.toList)
    (heq : iconURL name icon = iconURL name' icon') :
    name = name' ∧ icon.filename = icon'.filename := by
  rw [iconURL_eq h hfile, iconURL_eq h' hfile', Filepath.within_inj] at heq
  exact name_append_inj h h' (String.toList_inj.mp heq)

/-- The file served under an icon's path is the icon's. -/
lemma servedFile_iconURL (h : IsSnapName name) (hfile : '/' ∉ icon.filename.toList) :
    servedFile sv (iconURL name icon) = iconDstPath sv name icon := by
  have hplain := isPlain_baseIcon h hfile
  have hicons : Filepath.IsPlain "icons".toList := ⟨by decide, by decide, by decide, by decide⟩
  have hdata := snapDataDir_ne_empty sv
  obtain ⟨hroot, hsegs⟩ := Filepath.parts_join_name hdata hicons
  obtain ⟨hroot', hsegs'⟩ := Filepath.parts_clean (snapDataDir sv)
  have hdst : iconDstPath sv name icon
      = Filepath.within (Filepath.isRooted (snapDataDir sv))
        (Filepath.segments (snapDataDir sv) ++ ["icons".toList]) (baseIcon name icon).toList := by
    rw [← hroot, ← hsegs]
    exact Filepath.join_name (iconDirPath_ne_empty sv) hplain
  rw [servedFile, iconDirPath, Filepath.join_name_up hdata hicons, iconURL_eq h hfile,
    Filepath.join_within (Filepath.clean_ne_empty _) true (by simpa using hicons) hplain, hroot',
    hsegs', hdst]

/-! ## Looking an icon up -/

lemma mem_glob {files : Files} {pattern p : String} :
    p ∈ glob files pattern ↔ files.Has p ∧ Filepath.dir p = Filepath.dir pattern ∧
      Filepath.matchName (Filepath.base pattern) (Filepath.base p) = true := by
  rw [glob, sortStrings, Finset.mem_sort, Finset.mem_filter, Finmap.mem_keys]
  rfl

/-- The pattern of a snap's icons. -/
def iconPattern (sv : Server) (name : String) : String :=
  Filepath.join [iconDirPath sv, name ++ "_*.*"]

lemma iconPattern_eq (sv : Server) (name : String) :
    iconPattern sv name = Filepath.join [iconDirPath sv, name ++ "_" ++ "*.*"] := by
  rw [iconPattern, String.append_assoc]
  rfl

lemma dir_iconPattern (h : IsSnapName name) :
    Filepath.dir (iconPattern sv name) = iconDirPath sv := by
  have hplain : Filepath.IsPlain (name ++ "_" ++ "*.*").toList := h.isPlain (by decide)
  rw [iconPattern_eq, Filepath.dir_join_name (iconDirPath_ne_empty sv) hplain, clean_iconDirPath]

/-- The pattern finds the icons of the snap that have a dot in their file names. -/
lemma mem_glob_iconDstPath {files : Files} (h : IsSnapName name) (h' : IsSnapName name')
    (hfile : '/' ∉ icon.filename.toList) :
    iconDstPath sv name icon ∈ glob files (iconPattern sv name') ↔
      files.Has (iconDstPath sv name icon) ∧ name = name' ∧ '.' ∈ icon.filename.toList := by
  have hplain : Filepath.IsPlain (name' ++ "_" ++ "*.*").toList := h'.isPlain (by decide)
  have hbase : Filepath.base (iconPattern sv name') = name' ++ "_" ++ "*.*" := by
    rw [iconPattern_eq]
    exact Filepath.base_join_name (iconDirPath_ne_empty sv) hplain
  rw [mem_glob, dir_iconDstPath h hfile, dir_iconPattern h', hbase, base_iconDstPath h hfile,
    Filepath.matchName_dotted h'.isLiteral (isPlain_baseIcon h hfile).no_slash]
  refine and_congr_right fun _ => ?_
  rw [and_iff_right rfl]
  constructor
  · rintro ⟨rest, hrest, hdot⟩
    obtain ⟨hname, hfilename⟩ := name_append_inj h h' hrest
    rw [hfilename]
    exact ⟨hname, hdot⟩
  · rintro ⟨rfl, hdot⟩
    exact ⟨icon.filename, rfl, hdot⟩

end

end Snapweb
