import Snapweb.Packages.IconCache

/-!
# Looking icons up

`tryLocateCachedIconForSnap` looks for a snap's icon among the files, whatever its file name.  Where
names are snapd's and file names have no slash, the files in the icon directory are those of the
icons that calls got, and the lookup finds the icons of the snap that have a dot in their names.

* `cached_icons_found` — after calls without an error, no file belongs to two snaps, and a lookup
  finds an icon exactly if one with a dot was cached for the snap, and then one of the snap's.
-/

namespace Snapweb

/-- One of the calls got this icon for the snap. -/
def Cached (calls : List IconCall) (name : String) (icon : Icon) : Prop :=
  ∃ call ∈ calls, call.name = name ∧ call.env.client.icon name = .ok icon

section
variable {sv : Server} {s s' t : IconCache} {call : IconCall} {calls : List IconCall}
  {name name' path : String} {icon icon' : Icon}

lemma Cached.wellNamed (h : Cached calls name icon) (hcalls : ∀ call ∈ calls, call.WellNamed) :
    IsSnapName name ∧ '/' ∉ icon.filename.toList := by
  obtain ⟨call, hcall, rfl, hicon⟩ := h
  exact ⟨(hcalls call hcall).1, (hcalls call hcall).2 icon hicon⟩

/-! ## Files and calls -/

/-- The run's calls are those it started with and those of the list. -/
lemma calls_of_exec (h : (iconMachine sv).exec s calls = some t) : t.calls = s.calls ++ calls := by
  induction calls generalizing s with
  | nil =>
      cases h
      rw [List.append_nil]
  | cons call calls ih =>
      obtain ⟨s', hs', ht⟩ := Machine.exec_cons_eq_some.mp h
      rw [ih ht, ← Option.some.inj hs', List.append_assoc]
      rfl

/-- The call returns no error. -/
def Succeeds (sv : Server) (s : IconCache) (call : IconCall) (_ : IconCache) : Prop :=
  (call.result sv s.files).err = none

/-- The places of the icons that were cached are taken. -/
def CachedFiles (sv : Server) (s : IconCache) : Prop :=
  ∀ name icon, Cached s.calls name icon → IconThere { sv with files := s.files } name icon

lemma there_result_of_succeeds {files : Files} (hicon : call.env.client.icon call.name = .ok icon)
    (hok : (call.result sv files).err = none) :
    IconThere { sv with files := (call.result sv files).files } call.name icon := by
  obtain ⟨icon', hicon', hdir, hfile⟩ := err_eq_none_iff.mp hok
  rw [hicon, Except.ok.injEq] at hicon'
  subst hicon'
  by_cases hthere : IconThere { sv with files := files } call.name icon
  · exact hthere.imp_left has_localIconPath
  · have hcopies : CopiesIcon call.env { sv with files := files } call.name := by
      refine ⟨icon, hicon, hdir, hthere, fun hrefused => ?_⟩
      have hdone := hfile.resolve_left hthere
      exact absurd (hdone.symm.trans hrefused) (by decide)
    exact .inl (has_localIconPath_of_copies hicon hcopies)

lemma CachedFiles.next (h : CachedFiles sv s) (hnext : (iconMachine sv).next s call = some s')
    (hok : Succeeds sv s call s') : CachedFiles sv s' := by
  rw [← Option.some.inj hnext]
  rintro name icon ⟨call', hcall', rfl, hicon⟩
  rcases List.mem_append.mp hcall' with hcall' | hcall'
  · exact (h call'.name icon ⟨call', hcall', rfl, hicon⟩).imp_left has_localIconPath
  · rw [List.mem_singleton] at hcall'
    subst hcall'
    exact there_result_of_succeeds hicon hok

/-- With snapd's names, it is their files that are there. -/
lemma CachedFiles.has (h : CachedFiles sv t) (hcalls : ∀ call ∈ t.calls, call.WellNamed)
    (hcached : Cached t.calls name icon) : t.files.Has (iconDstPath sv name icon) := by
  obtain ⟨hname, hfile⟩ := hcached.wellNamed hcalls
  exact (h name icon hcached).resolve_right (not_under_iconDstPath hname hfile)

/-- A file in the icon directory is that of an icon that was cached. -/
lemma FilesLeft.exists_cached (h : FilesLeft sv t) (hempty : EmptyIconDir sv)
    (hhas : t.files.Has path) (hpath : Filepath.dir path = iconDirPath sv) :
    ∃ name icon, Cached t.calls name icon ∧ iconDstPath sv name icon = path := by
  obtain ⟨content, hcontent⟩ := Option.isSome_iff_exists.mp (Files.has_iff_lookup.mp hhas)
  rw [h path] at hcontent
  obtain ⟨call, hcall, hleaves⟩ := leftAt_eq_some hempty hpath hcontent
  obtain ⟨icon, -, hicon, hdst, -⟩ := leaves_eq_some hleaves
  exact ⟨call.name, icon, ⟨call, hcall, rfl, hicon⟩, hdst⟩

/-! ## The lookup -/

/-- The files that the lookup finds. -/
lemma mem_glob_cached (hleft : FilesLeft sv t) (hfiles : CachedFiles sv t)
    (hempty : EmptyIconDir sv) (hcalls : ∀ call ∈ t.calls, call.WellNamed) (hname : IsSnapName name) :
    path ∈ glob t.files (iconPattern sv name) ↔
      ∃ icon, Cached t.calls name icon ∧ '.' ∈ icon.filename.toList ∧
        iconDstPath sv name icon = path := by
  constructor
  · intro hmem
    obtain ⟨hhas, hdir, -⟩ := mem_glob.mp hmem
    rw [dir_iconPattern hname] at hdir
    obtain ⟨name', icon, hcached, rfl⟩ := hleft.exists_cached hempty hhas hdir
    obtain ⟨hname', hfile⟩ := hcached.wellNamed hcalls
    obtain ⟨-, rfl, hdot⟩ := (mem_glob_iconDstPath hname' hname hfile).mp hmem
    exact ⟨icon, hcached, hdot, rfl⟩
  · rintro ⟨icon, hcached, hdot, rfl⟩
    exact (mem_glob_iconDstPath hname hname (hcached.wellNamed hcalls).2).mpr
      ⟨hfiles.has hcalls hcached, rfl, hdot⟩

/-- The path that a file found is served under. -/
lemma join_base_iconDstPath (hname : IsSnapName name) (hfile : '/' ∉ icon.filename.toList) :
    Filepath.join ["/", "icons", Filepath.base (iconDstPath sv name icon)] = iconURL name icon := by
  have hjoin : Filepath.join ["/", "icons", baseIcon name icon]
      = Filepath.clean ("//icons" ++ "/" ++ baseIcon name icon) := by
    simp [Filepath.join]
  rw [base_iconDstPath hname hfile, hjoin, iconURL_eq hname hfile,
    Filepath.clean_append_name (by decide) (isPlain_baseIcon hname hfile)]
  rfl

lemma tryLocate_eq {env : Surroundings} (hdir : env.mkdirAll = true) :
    tryLocateCachedIconForSnap env sv name =
      match glob sv.files (iconPattern sv name) with
      | [] => .error .iconNotExist
      | found :: _ => .ok (Filepath.join ["/", "icons", Filepath.base found]) := by
  simp only [tryLocateCachedIconForSnap, iconDir, hdir, if_true]
  rfl

lemma mkdirAll_of_tryLocate {env : Surroundings}
    (h : tryLocateCachedIconForSnap env sv name = .ok path) : env.mkdirAll = true := by
  by_contra hdir
  simp only [tryLocateCachedIconForSnap, iconDir, if_neg hdir] at h
  exact absurd h (by simp)

/-- What the lookup returns. -/
lemma tryLocate_eq_ok {env : Surroundings}
    (h : tryLocateCachedIconForSnap env sv name = .ok path) :
    ∃ found ∈ glob sv.files (iconPattern sv name),
      Filepath.join ["/", "icons", Filepath.base found] = path := by
  rw [tryLocate_eq (mkdirAll_of_tryLocate h)] at h
  rcases hglob : glob sv.files (iconPattern sv name) with - | ⟨found, more⟩
  · rw [hglob] at h
    exact absurd h (by simp)
  · rw [hglob] at h
    exact ⟨found, List.mem_cons_self, Except.ok.inj h⟩

/-- The lookup succeeds where there is something to find. -/
lemma exists_tryLocate_iff {env : Surroundings} (hdir : env.mkdirAll = true) :
    (∃ path, tryLocateCachedIconForSnap env sv name = .ok path) ↔
      ∃ found, found ∈ glob sv.files (iconPattern sv name) := by
  rw [tryLocate_eq hdir]
  rcases glob sv.files (iconPattern sv name) with - | ⟨found, more⟩
  · simp
  · simp

/-- The lookup finds an icon if one with a dot was cached; nothing was, where no call could make the
directory. -/
lemma exists_icon_iff {env : Surroundings} (hmade : calls ≠ [] → env.mkdirAll = true)
    (hfound : ∀ path, path ∈ glob sv.files (iconPattern sv name) ↔
      ∃ icon, Cached calls name icon ∧ '.' ∈ icon.filename.toList ∧ iconDstPath sv name icon = path) :
    (∃ path, tryLocateCachedIconForSnap env sv name = .ok path) ↔
      ∃ icon, Cached calls name icon ∧ '.' ∈ icon.filename.toList := by
  constructor
  · rintro ⟨path, h⟩
    obtain ⟨found, hmem⟩ := (exists_tryLocate_iff (mkdirAll_of_tryLocate h)).mp ⟨path, h⟩
    obtain ⟨icon, hcached, hdot, -⟩ := (hfound found).mp hmem
    exact ⟨icon, hcached, hdot⟩
  · rintro ⟨icon, hcached, hdot⟩
    have hdir : env.mkdirAll = true := by
      obtain ⟨call, hcall, -⟩ := hcached
      exact hmade (List.ne_nil_of_mem hcall)
    exact (exists_tryLocate_iff hdir).mpr ⟨_, (hfound _).mpr ⟨icon, hcached, hdot, rfl⟩⟩

/-- A path found is that of an icon of the snap, and of no other snap's. -/
lemma icon_of_tryLocate {env : Surroundings} (hcalls : ∀ call ∈ calls, call.WellNamed)
    (hname : IsSnapName name)
    (hfound : ∀ path, path ∈ glob sv.files (iconPattern sv name) ↔
      ∃ icon, Cached calls name icon ∧ '.' ∈ icon.filename.toList ∧ iconDstPath sv name icon = path)
    (h : tryLocateCachedIconForSnap env sv name = .ok path) :
    (∃ icon, Cached calls name icon ∧ iconURL name icon = path) ∧
      ∀ name' icon', Cached calls name' icon' → iconURL name' icon' = path → name' = name := by
  obtain ⟨found, hmem, hpath⟩ := tryLocate_eq_ok h
  obtain ⟨icon, hcached, -, rfl⟩ := (hfound found).mp hmem
  have hfile := (hcached.wellNamed hcalls).2
  rw [join_base_iconDstPath hname hfile] at hpath
  refine ⟨⟨icon, hcached, hpath⟩, fun name' icon' hcached' hpath' => ?_⟩
  obtain ⟨hname', hfile'⟩ := hcached'.wellNamed hcalls
  exact (iconURL_inj hname' hname hfile' hfile (hpath'.trans hpath.symm)).1

/-- After calls without an error the files are what they left, and all their icons are there. -/
lemma files_of_exec (hok : (iconMachine sv).Along (Succeeds sv) ⟨sv.files, []⟩ calls)
    (ht : (iconMachine sv).exec ⟨sv.files, []⟩ calls = some t) :
    FilesLeft sv t ∧ CachedFiles sv t := by
  have hnone : CachedFiles sv ⟨sv.files, []⟩ := by
    rintro name icon ⟨call, hcall, -⟩
    exact absurd hcall List.not_mem_nil
  exact Machine.exec_invariant (I := fun s => FilesLeft sv s ∧ CachedFiles sv s)
    (fun _ _ _ h hnext hsucceeds => ⟨h.1.next hnext, h.2.next hnext hsucceeds⟩)
    ⟨filesLeft_start sv, hnone⟩ hok ht

end

/-- **Looking cached icons up.**  After calls that return no error, from an empty icon directory and
with snapd's names and file names without a slash: no file belongs to two snaps; and a lookup finds an
icon exactly if one with a dot in its file name was cached for the snap, and then it returns the path
of a file cached for the snap, which is that of no other snap's.  (A directory that is there is made
again without an error.) -/
theorem cached_icons_found (sv : Server) (hempty : EmptyIconDir sv) (calls : List IconCall)
    (hcalls : ∀ call ∈ calls, call.WellNamed)
    (hok : (iconMachine sv).Along (Succeeds sv) ⟨sv.files, []⟩ calls) (t : IconCache)
    (ht : (iconMachine sv).exec ⟨sv.files, []⟩ calls = some t) :
    (∀ name icon name' icon', Cached calls name icon → Cached calls name' icon' →
      iconDstPath sv name icon = iconDstPath sv name' icon' → name = name') ∧
    ∀ (env : Surroundings) (name : String), IsSnapName name → (calls ≠ [] → env.mkdirAll = true) →
      ((∃ path, tryLocateCachedIconForSnap env { sv with files := t.files } name = .ok path) ↔
        ∃ icon, Cached calls name icon ∧ '.' ∈ icon.filename.toList) ∧
      ∀ path, tryLocateCachedIconForSnap env { sv with files := t.files } name = .ok path →
        (∃ icon, Cached calls name icon ∧ iconURL name icon = path ∧
          t.files.Has (iconDstPath sv name icon)) ∧
        ∀ name' icon', Cached calls name' icon' → iconURL name' icon' = path → name' = name := by
  obtain rfl : t.calls = calls := calls_of_exec ht
  obtain ⟨hleft, hfiles⟩ := files_of_exec hok ht
  refine ⟨fun name icon name' icon' h h' heq => ?_, fun env name hname hmade => ?_⟩
  · obtain ⟨hname, hfile⟩ := h.wellNamed hcalls
    obtain ⟨hname', hfile'⟩ := h'.wellNamed hcalls
    exact (iconDstPath_inj hname hname' hfile hfile' heq).1
  · have hfound : ∀ path, path ∈ glob t.files (iconPattern sv name) ↔ ∃ icon,
        Cached t.calls name icon ∧ '.' ∈ icon.filename.toList ∧ iconDstPath sv name icon = path :=
      fun path => mem_glob_cached hleft hfiles hempty hcalls hname
    refine ⟨exists_icon_iff hmade hfound, fun path h => ?_⟩
    obtain ⟨⟨icon, hcached, hpath⟩, honly⟩ := icon_of_tryLocate hcalls hname hfound h
    exact ⟨⟨icon, hcached, hpath, hfiles.has hcalls hcached⟩, honly⟩

/-- Calls for two snaps, the name of one the beginning of the other's, whose icon has no dot. -/
def twoIcons : List IconCall :=
  [⟨.withIcon pngIcon .done, "hello"⟩,
    ⟨.withIcon { filename := "logo", content := [1] } .done, "hello-world"⟩]

/-- The icon of `hello` is found after both were cached, and none of `hello-world`. -/
theorem hello_world_icon_found :
    ∃ t, (iconMachine bareServer).exec ⟨∅, []⟩ twoIcons = some t ∧
      (∃ path, tryLocateCachedIconForSnap (.withIcon pngIcon .done)
        { bareServer with files := t.files } "hello" = .ok path) ∧
      ¬ ∃ path, tryLocateCachedIconForSnap (.withIcon pngIcon .done)
        { bareServer with files := t.files } "hello-world" = .ok path := by
  have hname : IsSnapName "hello" := by simp [IsSnapName]
  have hname' : IsSnapName "hello-world" := by simp [IsSnapName]
  have hnamed : ∀ call ∈ twoIcons, call.WellNamed := by
    intro call hcall
    rcases List.mem_pair.mp hcall with rfl | rfl
    · refine ⟨hname, fun icon hicon => ?_⟩
      rw [← Except.ok.inj hicon]
      decide
    · refine ⟨hname', fun icon hicon => ?_⟩
      rw [← Except.ok.inj hicon]
      decide
  have hok : (iconMachine bareServer).Along (Succeeds bareServer) ⟨∅, []⟩ twoIcons :=
    fun _ _ => ⟨err_eq_none_iff.mpr ⟨_, rfl, rfl, .inr rfl⟩,
      fun _ _ => ⟨err_eq_none_iff.mpr ⟨_, rfl, rfl, .inr rfl⟩, trivial⟩⟩
  have hfound := (cached_icons_found bareServer emptyIconDir_bareServer twoIcons hnamed hok _ rfl).2
    (.withIcon pngIcon .done)
  refine ⟨_, rfl, ?_, fun h => ?_⟩
  · exact (hfound "hello" hname fun _ => rfl).1.mpr
      ⟨pngIcon, ⟨_, List.mem_cons_self, rfl, rfl⟩, by decide⟩
  · obtain ⟨icon, ⟨call, hcall, hsnap, hicon⟩, hdot⟩ :=
      (hfound "hello-world" hname' fun _ => rfl).1.mp h
    rcases List.mem_pair.mp hcall with rfl | rfl
    · exact absurd hsnap (by decide)
    · rw [← Except.ok.inj hicon] at hdot
      exact absurd hdot (by decide)

end Snapweb
