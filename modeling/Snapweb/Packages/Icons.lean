import Mathlib.Data.Finset.Sort
import Mathlib.Data.String.Basic
import Snapweb.Core.Files
import Snapweb.Core.Filepath
import Snapweb.StateTracker.StateTracker

/-!
# Icons

`icon.go`: the icons of snaps are copied from snapd into `$SNAP_DATA/icons`, one file for each
snap and icon file name, and served from there.

The functions take what the request meets outside the process (`Surroundings`) and the server's
state, and return the files they leave.  Nothing removes an icon file.

* `localIconPath_of_present` and `localIconPath_of_written` — it finds the file, or writes it.
* `has_localIconPath` — the icon files that are there stay there.
-/

namespace Snapweb

/-- What a request meets outside the process: snapd's answers, whether the icon directory can be
made, and how the write of a file ends. -/
structure Surroundings where
  client : SnapdClient
  mkdirAll : Bool
  write : String → WriteResult

/-- The server: its tracker, `$SNAP_DATA`, and the icon files. -/
structure Server where
  stateTracker : StateTracker
  snapData : String
  files : Files

/-- The errors of `icon.go`; `write` stands for those of `ioutil.WriteFile`. -/
inductive IconError
  | iconNotExist
  | onIconDataPathSet
  | write
  deriving DecidableEq, Repr

/-- `IconDir`: where icons are kept, and the path they are served under. -/
def iconDir (env : Surroundings) (sv : Server) : Except IconError (String × String) :=
  let dataPath := if sv.snapData = "" then "." else sv.snapData
  let dataPath := Filepath.join [dataPath, "icons"]
  if env.mkdirAll then .ok (dataPath, "icons") else .error .onIconDataPathSet

/-- What `localIconPath` returns, and the files it leaves. -/
structure IconResult where
  relativePath : String
  err : Option IconError
  files : Files

/-- The file name of a snap's icon. -/
def baseIcon (name : String) (icon : Icon) : String := name ++ "_" ++ icon.filename

/-- The path of the snap's icon, which is fetched from snapd and copied if it is not there. -/
def localIconPath (env : Surroundings) (sv : Server) (name : String) : IconResult :=
  match env.client.icon name with
  | .error err => ⟨err, some .iconNotExist, sv.files⟩
  | .ok icon =>
      match iconDir env sv with
      | .error err => ⟨"", some err, sv.files⟩
      | .ok (dataPath, relativePath) =>
          let relativePath := Filepath.join [relativePath, baseIcon name icon]
          let iconDstPath := Filepath.join [dataPath, baseIcon name icon]
          -- the directory is there, and those that it lies in: `MkdirAll` has just made them
          if sv.files.Has iconDstPath ∨ Filepath.Under iconDstPath dataPath then
            ⟨Filepath.join ["/", relativePath], none, sv.files⟩
          else
            let files := sv.files.writeFile iconDstPath icon.content (env.write iconDstPath)
            if env.write iconDstPath = .done then
              ⟨Filepath.join ["/", relativePath], none, files⟩
            else ⟨"", some .write, files⟩

/-- `sort.Strings`, of strings that differ. -/
def sortStrings (names : Finset String) : List String := names.sort (· ≤ ·)

/-- `filepath.Glob`, for a pattern that is plain up to its last slash: the files of that directory
whose names match what follows, in order. -/
def glob (files : Files) (pattern : String) : List String :=
  sortStrings <| files.keys.filter fun p =>
    Filepath.dir p = Filepath.dir pattern ∧
      Filepath.matchName (Filepath.base pattern) (Filepath.base p) = true

/-- Look for an icon file of the snap, whatever its name. -/
def tryLocateCachedIconForSnap (env : Surroundings) (sv : Server) (snapName : String) :
    Except IconError String :=
  match iconDir env sv with
  | .error err => .error err
  | .ok (dataPath, relativePath) =>
      match glob sv.files (Filepath.join [dataPath, snapName ++ "_*.*"]) with
      | [] => .error .iconNotExist
      | found :: _ => .ok (Filepath.join ["/", relativePath, Filepath.base found])

/-- Where the program keeps its data. -/
def snapDataDir (sv : Server) : String := if sv.snapData = "" then "." else sv.snapData

/-- The directory of the icons. -/
def iconDirPath (sv : Server) : String := Filepath.join [snapDataDir sv, "icons"]

/-- Where the snap's icon is kept. -/
def iconDstPath (sv : Server) (name : String) (icon : Icon) : String :=
  Filepath.join
    [Filepath.join [if sv.snapData = "" then "." else sv.snapData, "icons"], baseIcon name icon]

/-- The path that the snap's icon is served under. -/
def iconURL (name : String) (icon : Icon) : String :=
  Filepath.join ["/", Filepath.join ["icons", baseIcon name icon]]

/-- There is something where the snap's icon is to be kept: a file, or a directory. -/
def IconThere (sv : Server) (name : String) (icon : Icon) : Prop :=
  sv.files.Has (iconDstPath sv name icon) ∨
    Filepath.Under (iconDstPath sv name icon) (iconDirPath sv)

lemma iconURL_ne_empty (name : String) (icon : Icon) : iconURL name icon ≠ "" :=
  Filepath.join_root_ne_empty _

/-! ## What `localIconPath` does -/

section
variable {env : Surroundings} {sv : Server} {name : String} {icon : Icon}

lemma localIconPath_of_present (hicon : env.client.icon name = .ok icon)
    (hdir : env.mkdirAll = true) (hthere : IconThere sv name icon) :
    localIconPath env sv name = ⟨iconURL name icon, none, sv.files⟩ := by
  simp only [localIconPath, hicon, iconDir, hdir, if_true]
  exact if_pos hthere

lemma localIconPath_of_written (hicon : env.client.icon name = .ok icon)
    (hdir : env.mkdirAll = true) (hno : ¬ IconThere sv name icon) :
    localIconPath env sv name =
      if env.write (iconDstPath sv name icon) = .done then
        ⟨iconURL name icon, none, sv.files.writeFile (iconDstPath sv name icon) icon.content .done⟩
      else
        ⟨"", some .write, sv.files.writeFile (iconDstPath sv name icon) icon.content
          (env.write (iconDstPath sv name icon))⟩ := by
  simp only [localIconPath, hicon, iconDir, hdir, if_true]
  rw [if_neg (by exact hno)]
  by_cases hw : env.write (iconDstPath sv name icon) = .done
  · rw [if_pos hw, if_pos (by exact hw), ← hw]
    rfl
  · rw [if_neg hw, if_neg (by exact hw)]
    rfl

lemma localIconPath_files (hicon : env.client.icon name = .ok icon)
    (hdir : env.mkdirAll = true) (hno : ¬ IconThere sv name icon) :
    (localIconPath env sv name).files
      = sv.files.writeFile (iconDstPath sv name icon) icon.content
          (env.write (iconDstPath sv name icon)) := by
  rw [localIconPath_of_written hicon hdir hno]
  split_ifs with hw
  · rw [hw]
  · rfl

/-- Without an error there is an icon and a directory for it, and its place is taken or it is written. -/
lemma localIconPath_err_eq_none :
    (localIconPath env sv name).err = none ↔
      ∃ icon, env.client.icon name = .ok icon ∧ env.mkdirAll = true ∧
        (IconThere sv name icon ∨ env.write (iconDstPath sv name icon) = .done) := by
  rcases hicon : env.client.icon name with err | icon
  · simp [localIconPath, hicon]
  by_cases hdir : env.mkdirAll = true
  · by_cases hhas : IconThere sv name icon
    · simp [localIconPath_of_present hicon hdir hhas, hdir, hhas]
    · rw [localIconPath_of_written hicon hdir hhas]
      split_ifs with hw
      · simp [hdir, hw]
      · simp [hhas, hw]
  · simp [localIconPath, hicon, iconDir, hdir]

/-- The path returned without an error. -/
lemma localIconPath_relativePath (hicon : env.client.icon name = .ok icon)
    (herr : (localIconPath env sv name).err = none) :
    (localIconPath env sv name).relativePath = iconURL name icon := by
  obtain ⟨icon', hicon', hdir, hfile⟩ := localIconPath_err_eq_none.mp herr
  by_cases hhas : IconThere sv name icon
  · rw [localIconPath_of_present hicon hdir hhas]
  · rw [hicon, Except.ok.injEq] at hicon'
    subst hicon'
    rw [localIconPath_of_written hicon hdir hhas, if_pos (hfile.resolve_left hhas)]

/-- The icon is copied, in whole or in part: snapd has it, the directory can be made, and nothing is in
its place, where the file can be opened. -/
def CopiesIcon (env : Surroundings) (sv : Server) (name : String) : Prop :=
  ∃ icon, env.client.icon name = .ok icon ∧ env.mkdirAll = true ∧
    ¬ IconThere sv name icon ∧ env.write (iconDstPath sv name icon) ≠ .refused

/-- Without a copy, the files are as they were. -/
lemma localIconPath_files_of_not_copies (h : ¬ CopiesIcon env sv name) :
    (localIconPath env sv name).files = sv.files := by
  rcases hicon : env.client.icon name with err | icon
  · simp only [localIconPath, hicon]
  · by_cases hdir : env.mkdirAll = true
    · by_cases hhas : IconThere sv name icon
      · rw [localIconPath_of_present hicon hdir hhas]
      · have hw : env.write (iconDstPath sv name icon) = .refused := by
          by_contra hw
          exact h ⟨icon, hicon, hdir, hhas, hw⟩
        rw [localIconPath_of_written hicon hdir hhas, hw]
        rfl
    · simp only [localIconPath, hicon, iconDir, hdir]
      rfl

/-- With a copy, the icon's file is there. -/
lemma has_localIconPath_of_copies (hicon : env.client.icon name = .ok icon)
    (h : CopiesIcon env sv name) :
    (localIconPath env sv name).files.Has (iconDstPath sv name icon) := by
  obtain ⟨icon', hicon', hdir, hno, hw⟩ := h
  obtain rfl : icon = icon' := by
    rw [hicon] at hicon'
    exact Except.ok.inj hicon'
  rw [localIconPath_of_written hicon hdir hno]
  split_ifs with hdone
  · exact Files.has_writeFile_self (by decide)
  · exact Files.has_writeFile_self hw

/-- The files that are there stay there. -/
lemma has_localIconPath {p : String} (h : sv.files.Has p) :
    (localIconPath env sv name).files.Has p := by
  by_cases hcopy : CopiesIcon env sv name
  · obtain ⟨icon, hicon, hdir, hno, -⟩ := hcopy
    rw [localIconPath_of_written hicon hdir hno]
    split_ifs
    · exact Files.has_writeFile h
    · exact Files.has_writeFile h
  · rw [localIconPath_files_of_not_copies hcopy]
    exact h

end

end Snapweb
