import Snapweb.Core.Machine
import Snapweb.Packages.IconNames

/-!
# The cache of icons

Calls of `localIconPath`, one after the other.  The first one that finds no file for its icon writes
it; the later ones take a file that is there for the icon.

* `lookup_localIconPath` — one call: a file that is there stays as it is, and a file that is not is
  what the call leaves.
* `FilesLeft` — so, along a run, a file is what the first call left that could open it.
* `icons_served_iff` — when each path that is returned serves a whole icon of the snap; with snapd's
  names, file names without a slash, and whole writes it always does.
-/

namespace Snapweb

/-- A call of `localIconPath`, with what it meets outside the process. -/
structure IconCall where
  env : Surroundings
  name : String

/-- The files, and the calls so far. -/
structure IconCache where
  files : Files
  calls : List IconCall

/-- What the call leaves at the path, if it opens a file there. -/
def IconCall.leaves (sv : Server) (path : String) (call : IconCall) : Option FileNode :=
  match call.env.client.icon call.name with
  | .error _ => none
  | .ok icon =>
      if call.env.mkdirAll = true ∧ iconDstPath sv call.name icon = path ∧
          ¬ Filepath.Under path (iconDirPath sv) then
        ((call.env.write path).leaves icon.content).map .file
      else none

/-- What is at the path after the calls: what was there, or what the first call left that opened a
file there. -/
def leftAt (sv : Server) (calls : List IconCall) (path : String) : Option FileNode :=
  (sv.files.lookup path).or (calls.findSome? (IconCall.leaves sv path))

/-- One of the calls got this content from snapd for the snap. -/
def IconReturned (calls : List IconCall) (name : String) (content : List UInt8) : Prop :=
  ∃ call ∈ calls, call.name = name ∧
    ∃ icon, call.env.client.icon name = .ok icon ∧ icon.content = content

/-! ## What a file holds -/

section
variable {sv : Server} {call : IconCall} {icon : Icon} {path : String}

lemma leaves_of_icon (hicon : call.env.client.icon call.name = .ok icon)
    (hdir : call.env.mkdirAll = true)
    (hfile : ¬ Filepath.Under (iconDstPath sv call.name icon) (iconDirPath sv)) :
    call.leaves sv (iconDstPath sv call.name icon)
      = ((call.env.write (iconDstPath sv call.name icon)).leaves icon.content).map .file := by
  simp only [IconCall.leaves, hicon]
  exact if_pos ⟨hdir, trivial, hfile⟩

lemma leaves_of_ne (hicon : call.env.client.icon call.name = .ok icon)
    (hpath : path ≠ iconDstPath sv call.name icon) : call.leaves sv path = none := by
  simp only [IconCall.leaves, hicon]
  rw [if_neg fun h => hpath h.2.1.symm]

/-- Nothing is left at a directory. -/
lemma leaves_of_under (h : Filepath.Under path (iconDirPath sv)) : call.leaves sv path = none := by
  rw [IconCall.leaves]
  rcases call.env.client.icon call.name with err | icon
  · rfl
  · exact if_neg fun h' => h'.2.2 h

/-- What a call leaves at a path: a content or its beginning, at the icon's place. -/
lemma leaves_eq_some {node : FileNode} (h : call.leaves sv path = some node) :
    ∃ icon content, call.env.client.icon call.name = .ok icon ∧
      iconDstPath sv call.name icon = path ∧
      (call.env.write path).leaves icon.content = some content ∧ node = .file content := by
  rw [IconCall.leaves] at h
  rcases hicon : call.env.client.icon call.name with err | icon
  · rw [hicon] at h
    exact absurd h (by simp)
  · simp only [hicon] at h
    split_ifs at h with hat
    obtain ⟨content, hcontent, rfl⟩ := Option.map_eq_some_iff.mp h
    exact ⟨icon, content, rfl, hat.2.1, hcontent, rfl⟩

/-- One call: what is there stays as it is, and where nothing is, it is as the call leaves it. -/
lemma lookup_localIconPath (sv : Server) (call : IconCall) (path : String) :
    (localIconPath call.env sv call.name).files.lookup path
      = (sv.files.lookup path).or (call.leaves sv path) := by
  rcases hicon : call.env.client.icon call.name with err | icon
  · simp only [localIconPath, IconCall.leaves, hicon, Option.or_none]
  by_cases hdir : call.env.mkdirAll = true
  · by_cases hthere : IconThere sv call.name icon
    · rw [localIconPath_of_present hicon hdir hthere]
      by_cases hpath : path = iconDstPath sv call.name icon
      · rcases hthere with hhas | hunder
        · obtain ⟨node, hnode⟩ := Option.isSome_iff_exists.mp (Files.has_iff_lookup.mp hhas)
          rw [hpath, hnode, Option.some_or]
        · rw [hpath, leaves_of_under hunder, Option.or_none]
      · rw [leaves_of_ne hicon hpath, Option.or_none]
    · obtain ⟨hno, hfile⟩ := not_or.mp hthere
      have hnone : sv.files.lookup (iconDstPath sv call.name icon) = none :=
        Option.not_isSome_iff_eq_none.mp fun h => hno (Files.has_iff_lookup.mpr h)
      rw [localIconPath_files hicon hdir hthere]
      by_cases hpath : path = iconDstPath sv call.name icon
      · rw [hpath, Files.lookup_writeFile_self, leaves_of_icon hicon hdir hfile, hnone,
          Option.or_none, Option.none_or]
      · rw [Files.lookup_writeFile_of_ne hpath, leaves_of_ne hicon hpath, Option.or_none]
  · have hstop : localIconPath call.env sv call.name
        = ⟨"", some .onIconDataPathSet, sv.files⟩ := by
      simp only [localIconPath, hicon, iconDir, if_neg hdir]
    have hnone : call.leaves sv path = none := by
      simp only [IconCall.leaves, hicon]
      rw [if_neg fun h => hdir h.1]
    rw [hstop, hnone, Option.or_none]

lemma leftAt_append (sv : Server) (calls : List IconCall) (call : IconCall) (path : String) :
    leftAt sv (calls ++ [call]) path = (leftAt sv calls path).or (call.leaves sv path) := by
  rw [leftAt, leftAt, List.findSome?_append, Option.or_assoc, List.findSome?_singleton]

end

/-! ## Runs of calls -/

/-- What the call returns, and the files it leaves, where it finds these files. -/
def IconCall.result (sv : Server) (files : Files) (call : IconCall) : IconResult :=
  localIconPath call.env { sv with files := files } call.name

/-- Calls of `localIconPath`, from the files of a server. -/
def iconMachine (sv : Server) : Machine IconCache IconCall where
  next s call := some
    { files := (call.result sv s.files).files
      calls := s.calls ++ [call] }

/-- The files hold what the calls left. -/
def FilesLeft (sv : Server) (s : IconCache) : Prop :=
  ∀ path, s.files.lookup path = leftAt sv s.calls path

section
variable {sv : Server} {s s' : IconCache} {call : IconCall}

lemma err_eq_none_iff {files : Files} :
    (call.result sv files).err = none ↔
      ∃ icon, call.env.client.icon call.name = .ok icon ∧ call.env.mkdirAll = true ∧
        (IconThere { sv with files := files } call.name icon ∨
          call.env.write (iconDstPath sv call.name icon) = .done) :=
  localIconPath_err_eq_none

lemma filesLeft_start (sv : Server) : FilesLeft sv ⟨sv.files, []⟩ := by
  intro path
  simp [leftAt]

lemma calls_next (h : (iconMachine sv).next s call = some s') : s'.calls = s.calls ++ [call] := by
  rw [← Option.some.inj h]

lemma FilesLeft.next (h : FilesLeft sv s) (hnext : (iconMachine sv).next s call = some s') :
    FilesLeft sv s' := by
  intro path
  have hs' := Option.some.inj hnext
  rw [← hs', leftAt_append, ← h path]
  exact lookup_localIconPath { sv with files := s.files } call path

/-! ## What is served -/

/-- The path that a call returns without an error serves an icon that snapd has returned for the
snap. -/
def ServesIcon (sv : Server) (s : IconCache) (call : IconCall) (s' : IconCache) : Prop :=
  (call.result sv s.files).err = none →
    ∃ content, s'.files.lookup (servedFile sv (call.result sv s.files).relativePath)
        = some (.file content) ∧ IconReturned s'.calls call.name content

/-- What is to be right where the call comes through, because its place is taken or is written. -/
structure RightFiles (sv : Server) (calls : List IconCall) (call : IconCall) (icon : Icon) : Prop where
  /-- What is there is such an icon. -/
  own : servedFile sv (iconURL call.name icon) = iconDstPath sv call.name icon →
    ∀ node, leftAt sv calls (iconDstPath sv call.name icon) = some node →
      ∃ content, node = .file content ∧ IconReturned (calls ++ [call]) call.name content
  /-- It is not a directory that the icon directory lies in, or that one itself. -/
  file : servedFile sv (iconURL call.name icon) = iconDstPath sv call.name icon →
    leftAt sv calls (iconDstPath sv call.name icon) = none →
      ¬ Filepath.Under (iconDstPath sv call.name icon) (iconDirPath sv)
  /-- Where the path serves another file, that one is such an icon. -/
  other : servedFile sv (iconURL call.name icon) ≠ iconDstPath sv call.name icon →
    ((leftAt sv calls (iconDstPath sv call.name icon)).isSome = true ∨
      Filepath.Under (iconDstPath sv call.name icon) (iconDirPath sv) ∨
      call.env.write (iconDstPath sv call.name icon) = .done) →
    ∃ content, leftAt sv calls (servedFile sv (iconURL call.name icon)) = some (.file content) ∧
      IconReturned (calls ++ [call]) call.name content

/-- A call that has an icon and a directory for it meets files that are right. -/
def FindsRight (sv : Server) (s : IconCache) (call : IconCall) (_ : IconCache) : Prop :=
  ∀ icon, call.env.client.icon call.name = .ok icon → call.env.mkdirAll = true →
    RightFiles sv s.calls call icon

lemma FilesLeft.there_iff (h : FilesLeft sv s) (name : String) (icon : Icon) :
    IconThere { sv with files := s.files } name icon ↔
      (leftAt sv s.calls (iconDstPath sv name icon)).isSome = true ∨
        Filepath.Under (iconDstPath sv name icon) (iconDirPath sv) := by
  rw [← h (iconDstPath sv name icon), ← Files.has_iff_lookup]
  exact Iff.rfl

/-- What a path holds after a call. -/
lemma FilesLeft.lookup_next (h : FilesLeft sv s)
    (hnext : (iconMachine sv).next s call = some s') (path : String) :
    s'.files.lookup path = (leftAt sv s.calls path).or (call.leaves sv path) := by
  rw [h.next hnext path, calls_next hnext, leftAt_append]

/-- A call that serves an icon serves a file that was there before, or its own. -/
lemma ServesIcon.findsRight (h : FilesLeft sv s)
    (hnext : (iconMachine sv).next s call = some s') (hserves : ServesIcon sv s call s') :
    FindsRight sv s call s' := by
  rintro icon hicon hdir
  have hserved : (IconThere { sv with files := s.files } call.name icon ∨
      call.env.write (iconDstPath sv call.name icon) = .done) →
      ∃ content, s'.files.lookup (servedFile sv (iconURL call.name icon)) = some (.file content) ∧
        IconReturned (s.calls ++ [call]) call.name content := by
    intro hfile
    have herr := err_eq_none_iff.mpr ⟨icon, hicon, hdir, hfile⟩
    have hicons := hserves herr
    rwa [IconCall.result, localIconPath_relativePath hicon herr, calls_next hnext] at hicons
  rw [h.there_iff] at hserved
  refine ⟨fun hown node hnode => ?_, fun hown hnone hunder => ?_, fun hother hfile => ?_⟩
  · obtain ⟨content, hlookup, hreturned⟩ := hserved (.inl (.inl (by rw [hnode]; rfl)))
    rw [h.lookup_next hnext, hown, hnode, Option.some_or, Option.some.injEq] at hlookup
    exact ⟨content, hlookup, hreturned⟩
  · -- the directory is found, and no file is written there
    obtain ⟨content, hlookup, -⟩ := hserved (.inl (.inr hunder))
    rw [h.lookup_next hnext, hown, hnone, Option.none_or, leaves_of_under hunder] at hlookup
    cases hlookup
  · obtain ⟨content, hlookup, hreturned⟩ := hserved (or_assoc.mpr hfile)
    rw [h.lookup_next hnext, leaves_of_ne hicon hother, Option.or_none] at hlookup
    exact ⟨content, hlookup, hreturned⟩

lemma FindsRight.servesIcon (h : FilesLeft sv s)
    (hnext : (iconMachine sv).next s call = some s') (hright : FindsRight sv s call s') :
    ServesIcon sv s call s' := by
  intro herr
  obtain ⟨icon, hicon, hdir, hfile⟩ := err_eq_none_iff.mp herr
  have hleft := hright icon hicon hdir
  rw [h.there_iff, or_assoc] at hfile
  rw [IconCall.result, localIconPath_relativePath hicon herr, calls_next hnext, h.lookup_next hnext]
  by_cases hown : servedFile sv (iconURL call.name icon) = iconDstPath sv call.name icon
  · rw [hown]
    rcases hnode : leftAt sv s.calls (iconDstPath sv call.name icon) with - | node
    · -- nothing was there, and the icon is written now
      have hplace := hleft.file hown hnode
      have hdone : call.env.write (iconDstPath sv call.name icon) = .done := by
        simpa [hnode, hplace] using hfile
      rw [leaves_of_icon hicon hdir hplace, hdone, Option.none_or]
      exact ⟨icon.content, rfl, call, by simp, rfl, icon, hicon, rfl⟩
    · obtain ⟨content, rfl, hreturned⟩ := hleft.own hown node hnode
      exact ⟨content, rfl, hreturned⟩
  · rw [leaves_of_ne hicon hown, Option.or_none]
    exact hleft.other hown hfile

lemma servesIcon_iff (h : FilesLeft sv s) (hnext : (iconMachine sv).next s call = some s') :
    ServesIcon sv s call s' ↔ FindsRight sv s call s' :=
  ⟨ServesIcon.findsRight h hnext, FindsRight.servesIcon h hnext⟩

end

/-! ## Whole writes -/

/-- Nothing is in the icon directory. -/
def EmptyIconDir (sv : Server) : Prop :=
  ∀ path, sv.files.Has path → Filepath.dir path ≠ iconDirPath sv

/-- A call for a snap's name, where snapd's file name has no slash. -/
def IconCall.WellNamed (call : IconCall) : Prop :=
  IsSnapName call.name ∧
    ∀ icon, call.env.client.icon call.name = .ok icon → '/' ∉ icon.filename.toList

/-- No write of the call is cut short. -/
def IconCall.WritesWhole (call : IconCall) : Prop :=
  ∀ path written, call.env.write path ≠ .short written

section
variable {sv : Server} {s s' : IconCache} {call : IconCall} {calls : List IconCall} {path : String}

/-- What is in an icon directory that was empty is what a call left. -/
lemma leftAt_eq_some (hempty : EmptyIconDir sv) (hpath : Filepath.dir path = iconDirPath sv)
    {node : FileNode} (h : leftAt sv calls path = some node) :
    ∃ call ∈ calls, call.leaves sv path = some node := by
  have hnone : sv.files.lookup path = none :=
    Option.not_isSome_iff_eq_none.mp fun hsome => hempty path (Files.has_iff_lookup.mpr hsome) hpath
  rw [leftAt, hnone, Option.none_or] at h
  exact List.exists_of_findSome?_eq_some h

/-- A write that succeeds or is refused leaves the whole content. -/
lemma leaves_of_whole {r : WriteResult} (h : ∀ written, r ≠ .short written)
    {content left : List UInt8} (hleft : r.leaves content = some left) : left = content := by
  cases r with
  | done => exact (Option.some.inj hleft).symm
  | refused => exact absurd hleft (by simp [WriteResult.leaves])
  | short written => exact absurd rfl (h written)

/-- A call after well-named ones with whole writes meets files that are right. -/
lemma findsRight_of_whole (hempty : EmptyIconDir sv)
    (hcalls : ∀ call ∈ s.calls, call.WellNamed ∧ call.WritesWhole) (hcall : call.WellNamed) :
    FindsRight sv s call s' := by
  intro icon hicon hdir
  have hfile := hcall.2 icon hicon
  refine ⟨fun _ node hnode => ?_, fun _ _ => not_under_iconDstPath hcall.1 hfile, fun hother => ?_⟩
  · obtain ⟨first, hfirst, hleaves⟩ :=
      leftAt_eq_some hempty (dir_iconDstPath hcall.1 hfile) hnode
    obtain ⟨icon', content, hicon', hpath, hleft, rfl⟩ := leaves_eq_some hleaves
    obtain ⟨hnamed, hwhole⟩ := hcalls first hfirst
    have hname := (iconDstPath_inj hnamed.1 hcall.1 (hnamed.2 icon' hicon') hfile hpath).1
    refine ⟨content, rfl, first, List.mem_append_left _ hfirst, hname, icon', ?_, ?_⟩
    · rw [← hname]
      exact hicon'
    · exact (leaves_of_whole (hwhole _) hleft).symm
  · exact absurd (servedFile_iconURL hcall.1 hfile) hother

/-- Where nothing is in the icon directory at first, with snapd's names and file names without a slash,
and where no write is cut short, all paths serve icons of their snaps. -/
lemma servesIcon_of_whole (hempty : EmptyIconDir sv)
    (hcalls : ∀ call ∈ calls, call.WellNamed ∧ call.WritesWhole) :
    (iconMachine sv).Along (ServesIcon sv) ⟨sv.files, []⟩ calls := by
  refine Machine.Along.of_invariant
    (I := fun s => FilesLeft sv s ∧ ∀ call ∈ s.calls, call.WellNamed ∧ call.WritesWhole)
    ?_ ?_ ⟨filesLeft_start sv, by simp⟩ (Machine.along_of_forall _ hcalls)
  · rintro s call s' ⟨hleft, hbefore⟩ hnext hcall
    refine ⟨hleft.next hnext, ?_⟩
    rw [← Option.some.inj hnext]
    intro call' hcall'
    rcases List.mem_append.mp hcall' with hcall' | hcall'
    · exact hbefore call' hcall'
    · rw [List.mem_singleton.mp hcall']
      exact hcall
  · rintro s call s' ⟨hleft, hbefore⟩ hnext hcall
    exact (servesIcon_iff hleft hnext).mpr (findsRight_of_whole hempty hbefore hcall.1)

end

/-- **Icons are served whole.**  Along calls from any files, each path that is returned without an
error serves an icon that snapd has returned for the snap, exactly if each call that has an icon and
a directory for it meets files that are right: the first call that could open its file left such an
icon there, or none could and no directory is there.  It is always so from an empty icon directory, with
snapd's names and file names without a slash, where no write is cut short. -/
theorem icons_served_iff (sv : Server) (calls : List IconCall) :
    ((iconMachine sv).Along (ServesIcon sv) ⟨sv.files, []⟩ calls ↔
        (iconMachine sv).Along (FindsRight sv) ⟨sv.files, []⟩ calls) ∧
      (EmptyIconDir sv → (∀ call ∈ calls, call.WellNamed ∧ call.WritesWhole) →
        (iconMachine sv).Along (ServesIcon sv) ⟨sv.files, []⟩ calls) :=
  ⟨Machine.along_congr (I := FilesLeft sv) (fun _ _ _ h hnext => servesIcon_iff h hnext)
      (fun _ _ _ h hnext _ => h.next hnext) (filesLeft_start sv) calls,
    servesIcon_of_whole⟩

/-- A snapd with one icon for each snap, and how writes end. -/
def Surroundings.withIcon (icon : Icon) (write : WriteResult) : Surroundings :=
  { client :=
      { SnapdClient.knowing { name := "hello-world", status := clientStatusActive } "1" with
        icon := fun _ => .ok icon }
    mkdirAll := true
    write := fun _ => write }

/-- An icon of three bytes. -/
def pngIcon : Icon := { filename := "icon.png", content := [112, 110, 103] }

/-- A server without files. -/
def bareServer : Server := { stateTracker := .new, snapData := "", files := ∅ }

lemma emptyIconDir_bareServer : EmptyIconDir bareServer :=
  fun _ hpath => absurd hpath Finmap.notMem_empty

/-- The write of an icon fails after its first byte, and the next call serves that byte. -/
theorem part_of_icon_served :
    ¬ ∀ (sv : Server) (calls : List IconCall), EmptyIconDir sv →
      (iconMachine sv).Along (ServesIcon sv) ⟨sv.files, []⟩ calls := by
  intro h
  let failing : IconCall := ⟨.withIcon pngIcon (.short 1), "hello-world"⟩
  let later : IconCall := ⟨.withIcon pngIcon .done, "hello-world"⟩
  have hrun := h bareServer ([failing] ++ [later]) emptyIconDir_bareServer
  obtain ⟨content, hlookup, call, hcall, -, icon, hicon, hcontent⟩ :=
    Machine.Along.last hrun rfl rfl (by decide +kernel)
  have hpart : some (FileNode.file content) = some (.file [112]) :=
    hlookup.symm.trans (by decide +kernel)
  have hwhole : content = [112, 110, 103] := by
    rcases List.mem_append.mp hcall with hcall | hcall
    · obtain rfl := List.mem_singleton.mp hcall
      cases hicon
      exact hcontent.symm
    · obtain rfl := List.mem_singleton.mp hcall
      cases hicon
      exact hcontent.symm
  rw [hwhole] at hpart
  exact absurd hpart (by decide)

end Snapweb
