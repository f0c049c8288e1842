import Mathlib.Data.List.Basic
import Mathlib.Data.Nat.Notation

/-!
# Slash-separated paths

The part of Go's `path/filepath` that joins and cleans paths and matches file names against shell
patterns, on Unix.  Paths are strings; the work is done on their segments.

* `clean`, `join`, `base`, `dir` — `filepath.Clean`, `filepath.Join`, `filepath.Base`,
  `filepath.Dir`.
* `matchName` — `filepath.Match`, in two stages: a pattern is read into terms, or found malformed;
  the terms are matched against a name.
* `clean_clean` — a clean path is kept; its segments are file names, after those that go up.
* `join_name` and `join_name_inj` — a file name in a directory stands behind the directory's clean
  path, so that different names have different paths; `dir_join_name` and `base_join_name` take
  such a path apart.
* `Under` — a path is that of a directory or of something in it; a file is not a directory that its
  own directory lies in (`not_under_join_name`).
* `matchName_dotted` — which names match `text*.*`.
-/

namespace Filepath

/-! ## Cleaning and joining -/

/-- Resolve `.`, `..` and empty segments; `out` holds the segments kept so far, the last first. -/
def cleanSegments (rooted : Bool) : List (List Char) → List (List Char) → List (List Char)
  | out, [] => out.reverse
  | out, seg :: rest =>
      if seg = [] ∨ seg = ['.'] then cleanSegments rooted out rest
      else if seg = ['.', '.'] then
        match out with
        | [] => cleanSegments rooted (if rooted then [] else [seg]) rest
        | top :: below =>
            if top = ['.', '.'] then cleanSegments rooted (seg :: out) rest
            else cleanSegments rooted below rest
      else cleanSegments rooted (seg :: out) rest

/-- `filepath.Clean`. -/
def clean (path : String) : String :=
  let rooted := path.toList.head? = some '/'
  let body := List.intercalate ['/'] (cleanSegments rooted [] (path.toList.splitOn '/'))
  if rooted then String.ofList ('/' :: body)
  else if body = [] then "."
  else String.ofList body

/-- `filepath.Join`: empty elements in front are left out, and the result is clean. -/
def join (elems : List String) : String :=
  match elems.dropWhile (· = "") with
  | [] => ""
  | first :: more => clean (more.foldl (fun path elem => path ++ "/" ++ elem) first)

/-- `filepath.Base`. -/
def base (path : String) : String :=
  if path = "" then "."
  else
    match (path.toList.reverse.dropWhile (· = '/')).takeWhile (· ≠ '/') with
    | [] => "/"
    | rev => String.ofList rev.reverse

/-- `filepath.Dir`, for a path with a slash: what stands in front of the last one. -/
def dir (path : String) : String :=
  clean (String.ofList (path.toList.reverse.dropWhile (· ≠ '/')).reverse)

/-! ## What cleaning leaves -/

/-- A file name: a segment that cleaning keeps. -/
structure IsPlain (seg : List Char) : Prop where
  ne_nil : seg ≠ []
  ne_dot : seg ≠ ['.']
  ne_dotdot : seg ≠ ['.', '.']
  no_slash : '/' ∉ seg

/-- The segments kept, after one more. -/
def pushSegment (rooted : Bool) (out : List (List Char)) (seg : List Char) : List (List Char) :=
  if seg = [] ∨ seg = ['.'] then out
  else if seg = ['.', '.'] then
    match out with
    | [] => if rooted then [] else [seg]
    | top :: below => if top = ['.', '.'] then seg :: out else below
  else seg :: out

lemma cleanSegments_eq_foldl (rooted : Bool) (out segs : List (List Char)) :
    cleanSegments rooted out segs = (segs.foldl (pushSegment rooted) out).reverse := by
  induction segs generalizing out with
  | nil => rfl
  | cons seg segs ih =>
      rw [List.foldl_cons, ← ih, cleanSegments.eq_def, pushSegment.eq_def]
      by_cases hdots : seg = [] ∨ seg = ['.']
      · simp only [if_pos hdots]
      by_cases hup : seg = ['.', '.']
      · simp only [if_neg hdots, if_pos hup]
        cases out with
        | nil => rfl
        | cons top below =>
            dsimp only
            split_ifs
            · rfl
            · rfl
      · simp only [if_neg hdots, if_neg hup]

lemma pushSegment_nil (rooted : Bool) (out : List (List Char)) : pushSegment rooted out [] = out :=
  if_pos (.inl rfl)

lemma pushSegment_plain {seg : List Char} (h : IsPlain seg) (rooted : Bool)
    (out : List (List Char)) : pushSegment rooted out seg = seg :: out := by
  rw [pushSegment.eq_def, if_neg (not_or.mpr ⟨h.ne_nil, h.ne_dot⟩), if_neg h.ne_dotdot]

lemma foldl_pushSegment_plain {rooted : Bool} {segs : List (List Char)}
    (h : ∀ seg ∈ segs, IsPlain seg) (out : List (List Char)) :
    segs.foldl (pushSegment rooted) out = segs.reverse ++ out := by
  induction segs generalizing out with
  | nil => rfl
  | cons seg segs ih =>
      rw [List.foldl_cons, pushSegment_plain (h seg List.mem_cons_self),
        ih fun s hs => h s (List.mem_cons_of_mem seg hs), List.reverse_cons, List.append_assoc]
      rfl

/-- A segment that goes up takes the plain one before it away. -/
lemma pushSegment_up {seg : List Char} (h : IsPlain seg) (rooted : Bool) (out : List (List Char)) :
    pushSegment rooted (seg :: out) ['.', '.'] = out := by
  rw [pushSegment.eq_def, if_neg (by decide), if_pos rfl]
  exact if_neg h.ne_dotdot

/-- The segments of a clean path, the last first: file names, after segments that go up, if the path
has no root. -/
def IsClean (rooted : Bool) (out : List (List Char)) : Prop :=
  ∃ names ups, out = names ++ List.replicate ups ['.', '.'] ∧ (∀ seg ∈ names, IsPlain seg) ∧
    (rooted = true → ups = 0)

lemma isClean_pushSegment {rooted : Bool} {out : List (List Char)} {seg : List Char}
    (h : IsClean rooted out) (hseg : '/' ∉ seg) : IsClean rooted (pushSegment rooted out seg) := by
  obtain ⟨names, ups, rfl, hnames, hups⟩ := h
  by_cases hdots : seg = [] ∨ seg = ['.']
  · rw [pushSegment.eq_def, if_pos hdots]
    exact ⟨names, ups, rfl, hnames, hups⟩
  by_cases hup : seg = ['.', '.']
  · subst hup
    cases names with
    | nil => 
      cases rooted with
      | true =>
        rw [hups rfl]
        exact ⟨[], 0, rfl, by simp, fun _ => rfl⟩
      | false =>
        refine ⟨[], ups + 1, ?_, by simp, by simp⟩
        cases ups with
        | zero => rfl
        | succ k => rfl
    | cons name names =>
      rw [List.cons_append, pushSegment_up (hnames name List.mem_cons_self)]
      exact ⟨names, ups, rfl, fun seg hmem => hnames seg (List.mem_cons_of_mem _ hmem), hups⟩
  · have hplain : IsPlain seg := ⟨fun h => hdots (.inl h), fun h => hdots (.inr h), hup, hseg⟩
    rw [pushSegment_plain hplain]
    refine ⟨seg :: names, ups, rfl, ?_, hups⟩
    rintro seg' hmem
    rcases List.mem_cons.mp hmem with rfl | hmem
    · exact hplain
    · exact hnames seg' hmem

lemma isClean_foldl {rooted : Bool} {out segs : List (List Char)} (h : IsClean rooted out)
    (hsegs : ∀ seg ∈ segs, '/' ∉ seg) : IsClean rooted (segs.foldl (pushSegment rooted) out) := by
  induction segs generalizing out with
  | nil => exact h
  | cons seg segs ih =>
      exact ih (isClean_pushSegment h (hsegs seg List.mem_cons_self))
        fun s hs => hsegs s (List.mem_cons_of_mem seg hs)

/-- What is clean is kept. -/
lemma foldl_pushSegment_reverse {rooted : Bool} {out : List (List Char)} (h : IsClean rooted out) :
    out.reverse.foldl (pushSegment rooted) [] = out := by
  obtain ⟨names, ups, rfl, hnames, hups⟩ := h
  have hstart : (List.replicate ups ['.', '.']).foldl (pushSegment rooted) []
      = List.replicate ups ['.', '.'] := by
    cases rooted with
    | true =>
        rw [hups rfl]
        rfl
    | false =>
        clear hups
        induction ups with
        | zero => rfl
        | succ ups ih =>
            rw [List.replicate_succ', List.foldl_append, ih, ← List.replicate_succ']
            cases ups <;> rfl
  rw [List.reverse_append, List.foldl_append, List.reverse_replicate, hstart,
    foldl_pushSegment_plain fun seg hseg => hnames seg (List.mem_reverse.mp hseg),
    List.reverse_reverse]

/-- The path starts at the root. -/
def isRooted (path : String) : Bool := path.toList.head? = some '/'

/-- The segments of a path after cleaning. -/
def segments (path : String) : List (List Char) :=
  cleanSegments (isRooted path) [] (path.toList.splitOn '/')

lemma notMem_of_mem_splitOn {c : Char} {cs seg : List Char} (h : seg ∈ cs.splitOn c) : c ∉ seg := by
  induction cs generalizing seg with
  | nil =>
      rw [List.splitOn_nil, List.mem_singleton] at h
      rw [h]
      exact List.not_mem_nil
  | cons d cs ih =>
      rw [List.splitOn_cons_eq_if_modifyHead] at h
      split_ifs at h with hd
      · rcases List.mem_cons.mp h with rfl | h
        · exact List.not_mem_nil
        · exact ih h
      · obtain ⟨first, rest, hsplit⟩ := List.exists_cons_of_ne_nil (List.splitOn_ne_nil c cs)
        rw [hsplit, List.modifyHead_cons] at h
        rw [hsplit] at ih
        rcases List.mem_cons.mp h with rfl | h
        · rw [List.mem_cons, not_or]
          exact ⟨fun heq => hd (by rw [heq, beq_self_eq_true]), ih List.mem_cons_self⟩
        · exact ih (List.mem_cons_of_mem first h)

lemma isClean_segments (path : String) : IsClean (isRooted path) (segments path).reverse := by
  rw [segments, cleanSegments_eq_foldl, List.reverse_reverse]
  exact isClean_foldl ⟨[], 0, rfl, by simp, fun _ => rfl⟩ fun _ hseg => notMem_of_mem_splitOn hseg

lemma no_slash_of_isClean {rooted : Bool} {out : List (List Char)} (h : IsClean rooted out)
    {seg : List Char} (hseg : seg ∈ out) : '/' ∉ seg ∧ seg ≠ [] := by
  obtain ⟨names, ups, rfl, hnames, -⟩ := h
  rcases List.mem_append.mp hseg with hseg | hseg
  · exact ⟨(hnames seg hseg).no_slash, (hnames seg hseg).ne_nil⟩
  · rw [List.eq_of_mem_replicate hseg]
    exact ⟨by decide, by decide⟩

lemma intercalate_append_name (segs : List (List Char)) (name : List Char) :
    List.intercalate ['/'] (segs ++ [name]) = segs.flatMap (· ++ ['/']) ++ name := by
  induction segs with
  | nil => exact List.intercalate_singleton
  | cons seg segs ih =>
      rw [List.cons_append, List.intercalate_cons_of_ne_nil (by simp), ih, List.flatMap_cons,
        List.append_assoc, List.append_assoc, List.append_assoc]

lemma splitOn_flatMap {segs : List (List Char)} (h : ∀ seg ∈ segs, '/' ∉ seg) (rest : List Char) :
    (segs.flatMap (· ++ ['/']) ++ rest).splitOn '/' = segs ++ rest.splitOn '/' := by
  induction segs with
  | nil => rfl
  | cons seg segs ih =>
      rw [List.flatMap_cons, List.append_assoc, List.append_assoc, List.singleton_append,
        List.splitOn_append_cons_self_of_not_mem (h seg List.mem_cons_self),
        ih fun s hs => h s (List.mem_cons_of_mem seg hs), List.cons_append]

/-- The clean path with these segments. -/
def render (rooted : Bool) (segs : List (List Char)) : String :=
  let body := List.intercalate ['/'] segs
  if rooted then String.ofList ('/' :: body)
  else if body = [] then "."
  else String.ofList body

lemma clean_eq (path : String) : clean path = render (isRooted path) (segments path) := by
  by_cases hroot : path.toList.head? = some '/'
  · simp [clean, render, segments, isRooted, hroot]
  · simp [clean, render, segments, isRooted, hroot]

/-- A path in the directory with these segments. -/
def within (rooted : Bool) (segs : List (List Char)) (rest : List Char) : String :=
  String.ofList ((if rooted then ['/'] else []) ++ (segs.flatMap (· ++ ['/']) ++ rest))

lemma render_append_name {name : List Char} (hname : name ≠ []) (rooted : Bool)
    (segs : List (List Char)) : render rooted (segs ++ [name]) = within rooted segs name := by
  have hne : segs.flatMap (· ++ ['/']) ++ name ≠ [] := by simp [hname]
  cases rooted with
  | true => simp only [render, within, intercalate_append_name, if_true, List.singleton_append]
  | false => simp [render, within, intercalate_append_name, hne]

lemma splitOn_within {segs : List (List Char)} (hsegs : ∀ seg ∈ segs, '/' ∉ seg) (rooted : Bool)
    (rest : List Char) :
    (within rooted segs rest).toList.splitOn '/'
      = (if rooted then [[]] else []) ++ (segs ++ rest.splitOn '/') := by
  rw [within, String.toList_ofList, ← splitOn_flatMap hsegs]
  cases rooted with
  | true =>
      rw [if_pos rfl, if_pos rfl, List.singleton_append, List.splitOn_cons_eq_if_modifyHead,
        if_pos (beq_self_eq_true '/')]
      rfl
  | false => rfl

/-- The parts of a path in a directory. -/
lemma parts_within (rooted : Bool) {segs : List (List Char)}
    (hsegs : ∀ seg ∈ segs, '/' ∉ seg ∧ seg ≠ []) {rest : List Char} (hrest : rest.head? ≠ some '/') :
    isRooted (within rooted segs rest) = rooted ∧
      segments (within rooted segs rest)
        = ((segs ++ rest.splitOn '/').foldl (pushSegment rooted) []).reverse := by
  have hroot : isRooted (within rooted segs rest) = rooted := by
    cases rooted with
    | true => simp [isRooted, within]
    | false =>
        rcases segs with - | ⟨seg, segs⟩
        · simpa [isRooted, within] using hrest
        · obtain ⟨hslash, hne⟩ := hsegs seg List.mem_cons_self
          obtain ⟨c, cs, rfl⟩ := List.exists_cons_of_ne_nil hne
          have hc : c ≠ '/' := fun hc => hslash (by rw [hc]; exact List.mem_cons_self)
          simp [isRooted, within, hc]
  refine ⟨hroot, ?_⟩
  rw [segments, cleanSegments_eq_foldl, hroot, splitOn_within fun seg hs => (hsegs seg hs).1,
    List.foldl_append]
  cases rooted with
  | true => rfl
  | false => rfl

/-- The parts of a clean path. -/
lemma parts_render {rooted : Bool} {segs : List (List Char)} (h : IsClean rooted segs.reverse) :
    isRooted (render rooted segs) = rooted ∧ segments (render rooted segs) = segs := by
  have hsegs : ∀ seg ∈ segs, '/' ∉ seg ∧ seg ≠ [] :=
    fun seg hseg => no_slash_of_isClean h (List.mem_reverse.mpr hseg)
  rcases List.eq_nil_or_concat' segs with rfl | ⟨init, last, rfl⟩
  · cases rooted with
    | true => decide
    | false => decide
  · obtain ⟨hslash, hne⟩ := hsegs last List.mem_concat_self
    obtain ⟨hroot, hparts⟩ := parts_within rooted
      (fun seg hseg => hsegs seg (List.mem_append_left [last] hseg))
      (fun hc => hslash (List.mem_of_mem_head? hc))
    rw [render_append_name hne]
    refine ⟨hroot, ?_⟩
    have hfold := foldl_pushSegment_reverse h
    rw [List.reverse_reverse] at hfold
    rw [hparts, List.splitOn_eq_singleton hslash, hfold, List.reverse_reverse]

lemma parts_clean (path : String) :
    isRooted (clean path) = isRooted path ∧ segments (clean path) = segments path := by
  rw [clean_eq]
  exact parts_render (isClean_segments path)

/-- Cleaning leaves a clean path alone. -/
lemma clean_clean (path : String) : clean (clean path) = clean path := by
  rw [clean_eq (clean path), (parts_clean path).1, (parts_clean path).2, ← clean_eq]

lemma clean_ne_empty (path : String) : clean path ≠ "" := by
  rw [clean_eq, render]
  by_cases hbody : List.intercalate ['/'] (segments path) = []
  · cases isRooted path <;> simp [hbody]
  · cases isRooted path <;> simp [hbody]

/-- The parts of a path behind another. -/
lemma parts_append {path : String} (hpath : path ≠ "") (more : String) :
    isRooted (path ++ "/" ++ more) = isRooted path ∧
      segments (path ++ "/" ++ more) = ((more.toList.splitOn '/').foldl
        (pushSegment (isRooted path)) (segments path).reverse).reverse := by
  have hlist : (path ++ "/" ++ more).toList = path.toList ++ '/' :: more.toList := by
    simp
  have hroot : isRooted (path ++ "/" ++ more) = isRooted path := by
    obtain ⟨c, cs, hcs⟩ := List.exists_cons_of_ne_nil (String.toList_eq_nil_iff.not.mpr hpath)
    rw [isRooted, isRooted, hlist, hcs]
    rfl
  refine ⟨hroot, ?_⟩
  rw [segments, segments, hroot, cleanSegments_eq_foldl, cleanSegments_eq_foldl, hlist,
    List.splitOn_append_cons_self, List.foldl_append, List.reverse_reverse]

/-- The parts of a name behind a path. -/
lemma parts_append_name {path name : String} (hpath : path ≠ "") (hname : IsPlain name.toList) :
    isRooted (path ++ "/" ++ name) = isRooted path ∧
      segments (path ++ "/" ++ name) = segments path ++ [name.toList] := by
  obtain ⟨hroot, hsegs⟩ := parts_append hpath name
  rw [hroot, hsegs, List.splitOn_eq_singleton hname.no_slash, List.foldl_cons, List.foldl_nil,
    pushSegment_plain hname, List.reverse_cons, List.reverse_reverse]
  exact ⟨rfl, rfl⟩

/-- Two elements, the first of which is not empty. -/
lemma join_pair {path : String} (hpath : path ≠ "") (more : String) :
    join [path, more] = clean (path ++ "/" ++ more) := by
  simp [join, hpath]

lemma join_root_ne_empty (path : String) : join ["/", path] ≠ "" := by
  rw [join_pair (by decide)]
  exact clean_ne_empty _

/-! ## A name in a directory -/

lemma clean_append_name {path name : String} (hpath : path ≠ "") (hname : IsPlain name.toList) :
    clean (path ++ "/" ++ name) = within (isRooted path) (segments path) name.toList := by
  obtain ⟨hroot, hsegs⟩ := parts_append hpath name
  rw [clean_eq, hroot, hsegs, List.splitOn_eq_singleton hname.no_slash, List.foldl_cons,
    List.foldl_nil, pushSegment_plain hname, List.reverse_cons, List.reverse_reverse,
    render_append_name hname.ne_nil]

lemma join_name {path name : String} (hpath : path ≠ "") (hname : IsPlain name.toList) :
    join [path, name] = within (isRooted path) (segments path) name.toList := by
  rw [join_pair hpath, clean_append_name hpath hname]

/-- The parts of a file name's path. -/
lemma parts_join_name {path name : String} (hpath : path ≠ "") (hname : IsPlain name.toList) :
    isRooted (join [path, name]) = isRooted path ∧
      segments (join [path, name]) = segments path ++ [name.toList] := by
  obtain ⟨hroot, hsegs⟩ := parts_append hpath name
  rw [join_pair hpath, (parts_clean _).1, (parts_clean _).2, hroot, hsegs,
    List.splitOn_eq_singleton hname.no_slash, List.foldl_cons, List.foldl_nil,
    pushSegment_plain hname, List.reverse_cons, List.reverse_reverse]
  exact ⟨rfl, rfl⟩

/-- Up again from a name in a directory. -/
lemma join_name_up {path name : String} (hpath : path ≠ "") (hname : IsPlain name.toList) :
    join [join [path, name], ".."] = clean path := by
  have hne : join [path, name] ≠ "" := by
    rw [join_pair hpath]
    exact clean_ne_empty _
  obtain ⟨hroot, hsegs⟩ := parts_append hne ".."
  obtain ⟨hroot', hsegs'⟩ := parts_join_name hpath hname
  have hup : "..".toList.splitOn '/' = [['.', '.']] := by decide
  rw [join_pair hne, clean_eq, hroot, hsegs, hroot', hsegs', hup, List.reverse_append,
    List.reverse_singleton, List.singleton_append, List.foldl_cons, List.foldl_nil,
    pushSegment_up hname, List.reverse_reverse, ← clean_eq]

/-- The path is that of a directory, or of something in it. -/
def Under (dir path : String) : Prop :=
  isRooted path = isRooted dir ∧ segments dir <+: segments path

instance (dir path : String) : Decidable (Under dir path) := instDecidableAnd

/-- A directory is not under a file in it. -/
lemma not_under_join_name {path name : String} (hpath : path ≠ "") (hname : IsPlain name.toList) :
    ¬ Under (join [path, name]) path := by
  intro h
  have hlength := h.2.length_le
  rw [(parts_join_name hpath hname).2, List.length_append, List.length_singleton] at hlength
  omega

/-- A path under a directory. -/
lemma join_within {path : String} (hpath : path ≠ "") (rooted : Bool) {segs : List (List Char)}
    (hsegs : ∀ seg ∈ segs, IsPlain seg) {name : List Char} (hname : IsPlain name) :
    join [path, within rooted segs name] = within (isRooted path) (segments path ++ segs) name := by
  have hkept : ∀ out : List (List Char), (segs ++ [name]).foldl (pushSegment (isRooted path)) out
      = (segs ++ [name]).reverse ++ out := by
    have hplain : ∀ seg ∈ segs ++ [name], IsPlain seg := by
      intro seg hseg
      rcases List.mem_append.mp hseg with hseg | hseg
      · exact hsegs seg hseg
      · rw [List.mem_singleton.mp hseg]
        exact hname
    exact foldl_pushSegment_plain hplain
  have hskip : ∀ out, (if rooted then [[]] else []).foldl (pushSegment (isRooted path)) out
      = out := by
    intro out
    cases rooted with
    | true => rfl
    | false => rfl
  obtain ⟨hroot, hparts⟩ := parts_append hpath (within rooted segs name)
  rw [splitOn_within fun seg hs => (hsegs seg hs).no_slash,
    List.splitOn_eq_singleton hname.no_slash, List.foldl_append, hskip, hkept, List.reverse_append,
    List.reverse_reverse, List.reverse_reverse, ← List.append_assoc] at hparts
  rw [join_pair hpath, clean_eq, hroot, hparts, render_append_name hname.ne_nil]

/-! ## Rooted paths -/

/-- The segments of a rooted path are file names. -/
lemma plain_segments {path : String} (h : isRooted path = true) :
    ∀ seg ∈ segments path, IsPlain seg := by
  obtain ⟨names, ups, hsegs, hnames, hups⟩ := isClean_segments path
  rw [hups h, List.replicate_zero, List.append_nil] at hsegs
  intro seg hseg
  exact hnames seg (hsegs ▸ List.mem_reverse.mpr hseg)

/-- A clean rooted path, split at its slashes. -/
lemma splitOn_clean {path : String} (h : isRooted path = true) :
    (clean path).toList.splitOn '/'
      = [] :: if segments path = [] then [[]] else segments path := by
  rw [clean_eq, h]
  rcases List.eq_nil_or_concat' (segments path) with hsegs | ⟨init, last, hsegs⟩
  · rw [hsegs]
    decide
  · have hplain := plain_segments h
    rw [hsegs] at hplain ⊢
    rw [render_append_name (hplain last List.mem_concat_self).ne_nil,
      splitOn_within fun seg hseg => (hplain seg (List.mem_append_left _ hseg)).no_slash,
      List.splitOn_eq_singleton (hplain last List.mem_concat_self).no_slash, if_pos rfl]
    exact congrArg (List.cons []) (if_neg (List.append_ne_nil_of_right_ne_nil _ (by simp))).symm

lemma foldl_pushSegment_splitOn_clean {path : String} (h : isRooted path = true) (rooted : Bool)
    (out : List (List Char)) :
    ((clean path).toList.splitOn '/').foldl (pushSegment rooted) out
      = (segments path).reverse ++ out := by
  rw [splitOn_clean h, List.foldl_cons, pushSegment_nil]
  split_ifs with hsegs
  · rw [hsegs, List.foldl_cons, pushSegment_nil]
    rfl
  · exact foldl_pushSegment_plain (plain_segments h) out

/-- A rooted path, taken under another path: its segments come behind. -/
lemma parts_join_rooted {root path : String} (hroot : root ≠ "") (hpath : isRooted path = true) :
    isRooted (join [root, clean path]) = isRooted root ∧
      segments (join [root, clean path]) = segments root ++ segments path := by
  obtain ⟨hrooted, hsegs⟩ := parts_append hroot (clean path)
  rw [join_pair hroot, (parts_clean _).1, (parts_clean _).2, hrooted, hsegs,
    foldl_pushSegment_splitOn_clean hpath, List.reverse_append, List.reverse_reverse,
    List.reverse_reverse]
  exact ⟨rfl, rfl⟩

/-- Clean paths with the same parts are the same. -/
lemma clean_eq_clean_iff {path path' : String} :
    clean path = clean path' ↔ isRooted path = isRooted path' ∧ segments path = segments path' := by
  constructor
  · intro h
    rw [← (parts_clean path).1, ← (parts_clean path).2, h, (parts_clean path').1,
      (parts_clean path').2]
    exact ⟨rfl, rfl⟩
  · rintro ⟨hroot, hsegs⟩
    rw [clean_eq, clean_eq, hroot, hsegs]

lemma clean_join {path : String} (hpath : path ≠ "") (more : String) :
    clean (join [path, more]) = join [path, more] := by
  rw [join_pair hpath, clean_clean]

/-- A rooted path comes to a name at the root exactly if the name is its only segment. -/
lemma clean_eq_slash_iff {path name : String} (hroot : isRooted path = true)
    (hname : IsPlain name.toList) : clean path = "/" ++ name ↔ segments path = [name.toList] := by
  have hrender : "/" ++ name = render true [name.toList] := by
    apply String.toList_inj.mp
    rw [render, if_pos rfl, List.intercalate_singleton]
    simp
  have hone : IsClean true [name.toList].reverse :=
    ⟨[name.toList], 0, rfl, by simpa using hname, fun _ => rfl⟩
  constructor
  · intro h
    rw [← (parts_clean path).2, h, hrender, (parts_render hone).2]
  · intro h
    rw [clean_eq, hroot, h, hrender]

lemma within_inj {rooted : Bool} {segs : List (List Char)} {a b : List Char} :
    within rooted segs a = within rooted segs b ↔ a = b := by
  rw [within, within, String.ofList_inj, List.append_cancel_left_eq, List.append_cancel_left_eq]

lemma join_name_inj {path a b : String} (hpath : path ≠ "") (ha : IsPlain a.toList)
    (hb : IsPlain b.toList) (h : join [path, a] = join [path, b]) : a = b := by
  rw [join_name hpath ha, join_name hpath hb, within_inj] at h
  exact String.toList_inj.mp h

lemma toList_within (rooted : Bool) (segs : List (List Char)) (name : List Char) :
    (within rooted segs name).toList = (within rooted segs []).toList ++ name := by
  simp [within]

/-- What stands in front of a name is empty or ends in a slash. -/
lemma within_stops (rooted : Bool) (segs : List (List Char)) :
    (within rooted segs []).toList.reverse.dropWhile (· ≠ '/')
        = (within rooted segs []).toList.reverse ∧
      (within rooted segs []).toList.reverse.takeWhile (· ≠ '/') = [] := by
  rcases List.eq_nil_or_concat' segs with rfl | ⟨init, last, rfl⟩
  · cases rooted with
    | true => decide
    | false => decide
  · simp [within]

lemma IsPlain.reverse_ne_slash {name : List Char} (h : IsPlain name) :
    ∀ c ∈ name.reverse, decide (c ≠ '/') = true := by
  intro c hc
  rw [decide_eq_true_eq]
  rintro rfl
  exact h.no_slash (List.mem_reverse.mp hc)

/-- The directory of a name in a directory. -/
lemma dir_join_name {path name : String} (hpath : path ≠ "") (hname : IsPlain name.toList) :
    dir (join [path, name]) = clean path := by
  have hdir : dir (join [path, name]) = clean (within (isRooted path) (segments path) []) := by
    rw [join_name hpath hname, dir, toList_within, List.reverse_append,
      List.dropWhile_append_of_pos hname.reverse_ne_slash, (within_stops _ _).1,
      List.reverse_reverse, String.ofList_toList]
  obtain ⟨hroot, hsegs⟩ := parts_within (isRooted path)
    (fun seg hseg => no_slash_of_isClean (isClean_segments path) (List.mem_reverse.mpr hseg))
    (by simp : ([] : List Char).head? ≠ some '/')
  have hkept := foldl_pushSegment_reverse (isClean_segments path)
  rw [List.reverse_reverse] at hkept
  rw [hdir, clean_eq, hroot, hsegs, List.splitOn_nil, List.foldl_append, hkept, List.foldl_cons,
    List.foldl_nil, pushSegment_nil, List.reverse_reverse, ← clean_eq]

/-- The base of a name in a directory. -/
lemma base_join_name {path name : String} (hpath : path ≠ "") (hname : IsPlain name.toList) :
    base (join [path, name]) = name := by
  obtain ⟨c, cs, hcs⟩ := List.exists_cons_of_ne_nil (List.reverse_ne_nil_iff.mpr hname.ne_nil)
  have hc : c ≠ '/' := by
    simpa using hname.reverse_ne_slash c (by rw [hcs]; exact List.mem_cons_self)
  have hne : join [path, name] ≠ "" := by
    rw [join_pair hpath]
    exact clean_ne_empty _
  have hrev : (join [path, name]).toList.reverse
      = name.toList.reverse ++ (within (isRooted path) (segments path) []).toList.reverse := by
    rw [join_name hpath hname, toList_within, List.reverse_append]
  have htake : ((join [path, name]).toList.reverse.dropWhile (· = '/')).takeWhile (· ≠ '/')
      = c :: cs := by
    rw [hrev, ← hcs, List.dropWhile_append, hcs, List.dropWhile_cons_of_neg (by simpa using hc),
      if_neg (by simp), ← hcs, List.takeWhile_append_of_pos hname.reverse_ne_slash,
      (within_stops _ _).2, List.append_nil]
  rw [base, if_neg hne, htake]
  show String.ofList (c :: cs).reverse = name
  rw [← hcs, List.reverse_reverse, String.ofList_toList]

/-! ## Patterns -/

/-- A term of a pattern. -/
inductive Term
  | star
  | any
  | lit (c : Char)
  | cls (negated : Bool) (ranges : List (Char × Char))
  deriving DecidableEq, Repr

/-- Where the reader of a pattern is. -/
inductive Mode
  | plain
  | escape
  | opened
  | cls (negated : Bool) (ranges : List (Char × Char))
  | clsEscape (negated : Bool) (ranges : List (Char × Char)) (lo : Option Char)
  | low (negated : Bool) (ranges : List (Char × Char)) (lo : Char)
  | high (negated : Bool) (ranges : List (Char × Char)) (lo : Char)

/-- A character class goes on with the character `c`, unless that is malformed. -/
def Mode.element (negated : Bool) (ranges : List (Char × Char)) (c : Char) : Option Mode :=
  if c = '-' ∨ c = ']' then none
  else if c = '\\' then some (.clsEscape negated ranges none)
  else some (.low negated ranges c)

/-- Read a pattern; `none` for a malformed one. -/
def readPattern : Mode → List Char → Option (List Term)
  | .plain, [] => some []
  | _, [] => none
  | .plain, c :: cs =>
      if c = '*' then (readPattern .plain cs).map (.star :: ·)
      else if c = '?' then (readPattern .plain cs).map (.any :: ·)
      else if c = '\\' then readPattern .escape cs
      else if c = '[' then readPattern .opened cs
      else (readPattern .plain cs).map (.lit c :: ·)
  | .escape, c :: cs => (readPattern .plain cs).map (.lit c :: ·)
  | .opened, c :: cs =>
      if c = '^' then readPattern (.cls true []) cs
      else (Mode.element false [] c).bind fun mode => readPattern mode cs
  | .cls negated ranges, c :: cs =>
      if c = ']' ∧ ranges ≠ [] then (readPattern .plain cs).map (.cls negated ranges :: ·)
      else (Mode.element negated ranges c).bind fun mode => readPattern mode cs
  | .clsEscape negated ranges none, c :: cs => readPattern (.low negated ranges c) cs
  | .clsEscape negated ranges (some lo), c :: cs => readPattern (.cls negated ((lo, c) :: ranges)) cs
  | .low negated ranges lo, c :: cs =>
      if c = '-' then readPattern (.high negated ranges lo) cs
      else if c = ']' then (readPattern .plain cs).map (.cls negated ((lo, lo) :: ranges) :: ·)
      else (Mode.element negated ((lo, lo) :: ranges) c).bind fun mode => readPattern mode cs
  | .high negated ranges lo, c :: cs =>
      if c = '-' ∨ c = ']' then none
      else if c = '\\' then readPattern (.clsEscape negated ranges (some lo)) cs
      else readPattern (.cls negated ((lo, c) :: ranges)) cs

/-- A star takes any characters but slashes, and the rest of the pattern takes what follows. -/
def matchStar (rest : List Char → Bool) : List Char → Bool
  | [] => rest []
  | c :: cs => rest (c :: cs) || (c != '/' && matchStar rest cs)

/-- Match the terms of a pattern against the whole of a name. -/
def matchTerms : List Term → List Char → Bool
  | [], cs => cs.isEmpty
  | .star :: ts, cs => matchStar (matchTerms ts) cs
  | _ :: _, [] => false
  | .any :: ts, c :: cs => c != '/' && matchTerms ts cs
  | .lit d :: ts, c :: cs => c == d && matchTerms ts cs
  | .cls negated ranges :: ts, c :: cs =>
      (ranges.any (fun r => decide (r.1 ≤ c) && decide (c ≤ r.2)) != negated) && matchTerms ts cs

/-- `filepath.Match`; a malformed pattern matches nothing. -/
def matchName (pattern name : String) : Bool :=
  match readPattern .plain pattern.toList with
  | none => false
  | some terms => matchTerms terms name.toList

example : matchName "hello_*.*" "hello_icon.png" = true := by decide

/-! ## What patterns match -/

/-- The character stands for itself in a pattern. -/
def IsLiteral (c : Char) : Prop := c ≠ '*' ∧ c ≠ '?' ∧ c ≠ '\\' ∧ c ≠ '['

lemma readPattern_literals {cs : List Char} (h : ∀ c ∈ cs, IsLiteral c) (rest : List Char) :
    readPattern .plain (cs ++ rest) = (readPattern .plain rest).map (cs.map Term.lit ++ ·) := by
  induction cs with
  | nil => simp
  | cons c cs ih =>
      obtain ⟨hstar, hany, hescape, hclass⟩ := h c List.mem_cons_self
      rw [List.cons_append, readPattern, if_neg hstar, if_neg hany, if_neg hescape, if_neg hclass,
        ih fun d hd => h d (List.mem_cons_of_mem c hd), Option.map_map]
      rfl

/-- Literals take themselves. -/
lemma matchTerms_literals {cs name : List Char} {ts : List Term} :
    matchTerms (cs.map Term.lit ++ ts) name = true ↔
      ∃ rest, name = cs ++ rest ∧ matchTerms ts rest = true := by
  induction cs generalizing name with
  | nil => simp
  | cons c cs ih =>
      cases name with
      | nil => simp [matchTerms]
      | cons d name =>
          rw [List.map_cons, List.cons_append, matchTerms, Bool.and_eq_true, beq_iff_eq, ih]
          simp only [List.cons_append, List.cons.injEq, and_assoc, exists_and_left]

/-- A star takes characters that are no slashes. -/
lemma matchStar_eq_true_iff {rest : List Char → Bool} {cs : List Char} :
    matchStar rest cs = true ↔ ∃ taken left, cs = taken ++ left ∧ '/' ∉ taken ∧ rest left = true := by
  induction cs with
  | nil => simp [matchStar]
  | cons c cs ih =>
      rw [matchStar, Bool.or_eq_true, Bool.and_eq_true, bne_iff_ne, ih]
      constructor
      · rintro (hrest | ⟨hc, taken, left, rfl, htaken, hrest⟩)
        · exact ⟨[], c :: cs, rfl, List.not_mem_nil, hrest⟩
        · refine ⟨c :: taken, left, rfl, ?_, hrest⟩
          rw [List.mem_cons, not_or]
          exact ⟨hc.symm, htaken⟩
      · rintro ⟨taken, left, hcs, htaken, hrest⟩
        cases taken with
        | nil => exact .inl (by rw [hcs]; exact hrest)
        | cons d taken =>
            rw [List.cons_append, List.cons.injEq] at hcs
            obtain ⟨rfl, rfl⟩ := hcs
            rw [List.mem_cons, not_or] at htaken
            exact .inr ⟨Ne.symm htaken.1, taken, left, rfl, htaken.2, hrest⟩

lemma matchTerms_star_dot_star {cs : List Char} (hcs : '/' ∉ cs) :
    matchTerms [.star, .lit '.', .star] cs = true ↔ '.' ∈ cs := by
  rw [matchTerms, matchStar_eq_true_iff]
  constructor
  · rintro ⟨taken, left, rfl, -, hleft⟩
    cases left with
    | nil => simp [matchTerms] at hleft
    | cons c left =>
        simp only [matchTerms, Bool.and_eq_true, beq_iff_eq] at hleft
        simp [hleft.1]
  · intro hdot
    obtain ⟨before, after, rfl⟩ := List.append_of_mem hdot
    simp only [List.mem_append, List.mem_cons, not_or] at hcs
    refine ⟨before, '.' :: after, rfl, hcs.1, ?_⟩
    simp only [matchTerms, beq_self_eq_true, Bool.true_and]
    exact matchStar_eq_true_iff.mpr ⟨after, [], by simp, hcs.2.2, rfl⟩

/-- A name matches `text*.*` exactly if it begins with the text and has a dot after it. -/
lemma matchName_dotted {text name : String} (htext : ∀ c ∈ text.toList, IsLiteral c)
    (hname : '/' ∉ name.toList) :
    matchName (text ++ "*.*") name = true ↔
      ∃ rest, name = text ++ rest ∧ '.' ∈ rest.toList := by
  have hread : readPattern .plain (text ++ "*.*").toList
      = some (text.toList.map Term.lit ++ [.star, .lit '.', .star]) := by
    rw [String.toList_append, readPattern_literals htext]
    rfl
  simp only [matchName, hread, matchTerms_literals]
  constructor
  · rintro ⟨rest, hrest, hdot⟩
    have hslash : '/' ∉ rest := fun hmem => hname (by rw [hrest]; exact List.mem_append_right _ hmem)
    refine ⟨String.ofList rest, ?_, ?_⟩
    · apply String.toList_inj.mp
      rw [hrest, String.toList_append, String.toList_ofList]
    · rw [String.toList_ofList]
      exact (matchTerms_star_dot_star hslash).mp hdot
  · rintro ⟨rest, rfl, hdot⟩
    rw [String.toList_append] at hname ⊢
    have hslash : '/' ∉ rest.toList := fun hmem => hname (List.mem_append_right _ hmem)
    exact ⟨rest.toList, rfl, (matchTerms_star_dot_star hslash).mpr hdot⟩

end Filepath
