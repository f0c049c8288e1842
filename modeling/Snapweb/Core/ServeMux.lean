import Mathlib.Data.List.Nodup
import Snapweb.Core.Filepath

/-!
# Serving by path

The part of Go's `net/http` that finds a handler by the path of a request (`ServeMux`), and the one
that serves files (`FileServer`).  A path that is not in its canonical form is answered by sending
the client to the canonical one, except in a `CONNECT` request; the file server cleans whatever it
is given, and opens that under its root.

* `dispatch_eq_handler_iff` — which requests a handler gets.
* `segments_of_canonical` — in a canonical path, what a subtree's pattern shows is the path's first
  segment; without the form it may not be.
* `reads_fileServer` — the files that an answer shows lie where the path says, under the root.
-/

namespace HTTP

open Filepath

/-- The text ends with a slash. -/
def endsWithSlash (path : String) : Bool := path.toList.getLast? = some '/'

/-! ## `ServeMux` -/

/-- `cleanPath`: the canonical form of a path, where a slash at the end stays. -/
def cleanPath (p : String) : String :=
  if p = "" then "/"
  else
    let p := if isRooted p then p else "/" ++ p
    let np := clean p
    if endsWithSlash p ∧ np ≠ "/" then np ++ "/" else np

/-- `pathMatch`: a pattern with a slash at its end names a subtree. -/
def pathMatch (pattern path : String) : Bool :=
  if pattern = "" then false
  else if endsWithSlash pattern then pattern.toList.isPrefixOf path.toList
  else pattern = path

/-- What a registered pattern leads to: its handler, or the subtree that it lacks the slash of. -/
inductive Target (α : Type*)
  | handler (h : α)
  | subtree (path : String)
  deriving DecidableEq

section
variable {α : Type*}

/-- `Handle`, for each of the patterns: where it names a subtree, the subtree without its slash is
registered as well, unless it is one of the patterns. -/
def register (patterns : List (String × α)) : List (String × Target α) :=
  patterns.map (fun entry => (entry.1, .handler entry.2)) ++
    patterns.filterMap fun entry =>
      let bare := String.ofList entry.1.toList.dropLast
      if endsWithSlash entry.1 ∧ bare ∉ patterns.map (·.1) then some (bare, .subtree entry.1)
      else none

/-- `match`: the longest of the patterns that match. -/
def longestMatch {β : Type*} (path : String) : List (String × β) → Option (String × β)
  | [] => none
  | entry :: entries =>
      match longestMatch path entries with
      | none => if pathMatch entry.1 path then some entry else none
      | some best =>
          if pathMatch entry.1 path ∧ best.1.length < entry.1.length then some entry else some best

/-- What becomes of a request. -/
inductive Dispatched (α : Type*)
  | handler (h : α)
  | moved (path : String)
  | badRequest
  | notFound
  deriving DecidableEq

/-- `ServeMux.ServeHTTP`, from the method and the path of a request; the path is `*` where the whole
request target is. -/
def dispatch (patterns : List (String × α)) (method path : String) : Dispatched α :=
  if path = "*" then .badRequest
  else if method ≠ "CONNECT" ∧ cleanPath path ≠ path then .moved (cleanPath path)
  else
    match longestMatch path (register patterns) with
    | some (_, .handler h) => .handler h
    | some (_, .subtree path) => .moved path
    | none => .notFound

/-- The path is handed on as it is. -/
def Admitted (method path : String) : Prop :=
  path ≠ "*" ∧ (method = "CONNECT" ∨ cleanPath path = path)

instance (method path : String) : Decidable (Admitted method path) :=
  inferInstanceAs (Decidable (_ ∧ _))

/-! ## Which handler it is -/

/-- Of the patterns that match, the one found is the longest. -/
lemma longestMatch_spec {β : Type*} (path : String) (entries : List (String × β)) :
    match longestMatch path entries with
    | none => ∀ entry ∈ entries, pathMatch entry.1 path = false
    | some best => best ∈ entries ∧ pathMatch best.1 path = true ∧
        ∀ other ∈ entries, pathMatch other.1 path = true → other.1.length ≤ best.1.length := by
  induction entries with
  | nil => exact fun _ h => absurd h List.not_mem_nil
  | cons entry entries ih =>
      rw [longestMatch]
      rcases hrest : longestMatch path entries with - | best <;> rw [hrest] at ih <;> dsimp only at ih ⊢
      · split_ifs with hmatch
        · refine ⟨List.mem_cons_self, hmatch, fun other hother hmatches => ?_⟩
          rcases List.mem_cons.mp hother with rfl | hother
          · exact Nat.le_refl _
          · rw [ih other hother] at hmatches
            cases hmatches
        · intro other hother
          rcases List.mem_cons.mp hother with rfl | hother
          · simpa using hmatch
          · exact ih other hother
      · obtain ⟨hmem, hbest, hmax⟩ := ih
        split_ifs with hlonger
        · refine ⟨List.mem_cons_self, hlonger.1, fun other hother hmatches => ?_⟩
          rcases List.mem_cons.mp hother with rfl | hother
          · exact Nat.le_refl _
          · exact Nat.le_trans (hmax other hother hmatches) (Nat.le_of_lt hlonger.2)
        · refine ⟨List.mem_cons_of_mem _ hmem, hbest, fun other hother hmatches => ?_⟩
          rcases List.mem_cons.mp hother with rfl | hother
          · exact Nat.not_lt.mp fun hlt => hlonger ⟨hmatches, hlt⟩
          · exact hmax other hother hmatches

/-- A handler gets the requests whose path is handed on as it is and has a pattern of the handler as
the longest one that matches. -/
lemma dispatch_eq_handler_iff {patterns : List (String × α)} {method path : String} {h : α} :
    dispatch patterns method path = .handler h ↔
      Admitted method path ∧ ∃ pattern, longestMatch path (register patterns)
        = some (pattern, .handler h) := by
  rw [dispatch, Admitted]
  by_cases hstar : path = "*"
  · rw [if_pos hstar]
    exact iff_of_false (fun h => nomatch h) fun h => h.1.1 hstar
  · rw [if_neg hstar]
    by_cases hmoved : method ≠ "CONNECT" ∧ cleanPath path ≠ path
    · rw [if_pos hmoved]
      refine iff_of_false (fun h => nomatch h) fun h => ?_
      exact h.1.2.elim hmoved.1 hmoved.2
    · rw [if_neg hmoved]
      have hadmitted : method = "CONNECT" ∨ cleanPath path = path := by
        by_cases hconnect : method = "CONNECT"
        · exact .inl hconnect
        · exact .inr (not_not.mp fun hne => hmoved ⟨hconnect, hne⟩)
      rw [and_iff_right ⟨hstar, hadmitted⟩]
      rcases longestMatch path (register patterns) with - | ⟨pattern, h' | subtree⟩ <;> simp

end

/-! ## Subtrees with a name -/

/-- The pattern of a subtree with a name. -/
def subtreeOf (name : String) : String := "/" ++ name ++ "/"

lemma toList_subtreeOf (name : String) : (subtreeOf name).toList = '/' :: (name.toList ++ ['/']) := by
  simp [subtreeOf]

/-- The path is in the subtree. -/
def InSubtree (name path : String) : Prop := (subtreeOf name).toList <+: path.toList

instance (name path : String) : Decidable (InSubtree name path) :=
  inferInstanceAs (Decidable (_ <+: _))

lemma inSubtree_iff {name path : String} :
    InSubtree name path ↔ ∃ rest, path.toList = '/' :: (name.toList ++ '/' :: rest) := by
  rw [InSubtree, toList_subtreeOf]
  constructor
  · rintro ⟨rest, hrest⟩
    exact ⟨rest, by rw [← hrest]; simp⟩
  · rintro ⟨rest, hrest⟩
    exact ⟨rest, by rw [hrest]; simp⟩

lemma pathMatch_subtreeOf (name path : String) :
    pathMatch (subtreeOf name) path = true ↔ InSubtree name path := by
  have hne : subtreeOf name ≠ "" := by
    rw [← String.toList_inj.ne, toList_subtreeOf]
    exact List.cons_ne_nil _ _
  have hslash : endsWithSlash (subtreeOf name) = true := by
    rw [endsWithSlash, toList_subtreeOf, ← List.cons_append, List.getLast?_concat]
    rfl
  rw [pathMatch, if_neg hne, if_pos hslash, InSubtree, List.isPrefixOf_iff_prefix]

section
variable {α : Type*} {names : List (String × α)} {rest : α}

/-- Patterns of subtrees with names, and one for everything else. -/
def subtrees (names : List (String × α)) (rest : α) : List (String × α) :=
  names.map (fun entry => (subtreeOf entry.1, entry.2)) ++ [("/", rest)]

/-- A pattern that is registered, with a name that leads to it: it is that of the name's subtree, or
the subtree without its slash, or the one for everything else. -/
lemma mem_register_subtrees {entry : String × Target α}
    (h : entry ∈ register (subtrees names rest)) :
    (∃ name h, (name, h) ∈ names ∧ entry = (subtreeOf name, .handler h)) ∨
      entry = ("/", .handler rest) ∨
      (∃ name h, (name, h) ∈ names ∧ entry = ("/" ++ name, .subtree (subtreeOf name))) ∨
      entry.1 = "" := by
  rw [register, List.mem_append] at h
  rcases h with h | h
  · obtain ⟨⟨pattern, handler⟩, hmem, rfl⟩ := List.mem_map.mp h
    rcases List.mem_append.mp hmem with hmem | hmem
    · obtain ⟨⟨name, handler⟩, hname, heq⟩ := List.mem_map.mp hmem
      cases heq
      exact .inl ⟨name, _, hname, rfl⟩
    · cases List.mem_singleton.mp hmem
      exact .inr (.inl rfl)
  · obtain ⟨⟨pattern, handler⟩, hmem, hentry⟩ := List.mem_filterMap.mp h
    dsimp only at hentry
    split_ifs at hentry
    cases hentry
    rcases List.mem_append.mp hmem with hmem | hmem
    · obtain ⟨⟨name, handler⟩, hname, heq⟩ := List.mem_map.mp hmem
      cases heq
      have hbare : String.ofList (subtreeOf name).toList.dropLast = "/" ++ name := by
        rw [toList_subtreeOf, ← List.cons_append, List.dropLast_concat]
        apply String.toList_inj.mp
        simp
      exact .inr (.inr (.inl ⟨name, _, hname, by rw [hbare]⟩))
    · cases List.mem_singleton.mp hmem
      exact .inr (.inr (.inr rfl))

/-- Where names have no slash, a path is in the subtree of one name at most. -/
lemma InSubtree.unique {name name' path : String} (hslash : '/' ∉ name.toList)
    (hslash' : '/' ∉ name'.toList) (h : InSubtree name path) (h' : InSubtree name' path) :
    name = name' := by
  obtain ⟨rest, hrest⟩ := inSubtree_iff.mp h
  obtain ⟨rest', hrest'⟩ := inSubtree_iff.mp h'
  rw [hrest] at hrest'
  injection hrest' with _ hrest'
  have hsplit := congrArg (List.splitOn '/') hrest'
  rw [List.splitOn_append_cons_self_of_not_mem hslash,
    List.splitOn_append_cons_self_of_not_mem hslash'] at hsplit
  injection hsplit with hname _
  exact String.toList_inj.mp hname

/-- What a handler other than that for everything else gets is in a subtree of the handler. -/
lemma inSubtree_of_dispatch {method path : String} {h : α}
    (hdispatch : dispatch (subtrees names rest) method path = .handler h) :
    Admitted method path ∧ ((∃ name, (name, h) ∈ names ∧ InSubtree name path) ∨ h = rest) := by
  obtain ⟨hadmitted, pattern, hfound⟩ := dispatch_eq_handler_iff.mp hdispatch
  have hspec := longestMatch_spec path (register (subtrees names rest))
  rw [hfound] at hspec
  obtain ⟨hmem, hmatches, -⟩ := hspec
  refine ⟨hadmitted, ?_⟩
  rcases mem_register_subtrees hmem with ⟨name, h', hname, heq⟩ | heq | ⟨name, h', hname, heq⟩ | hempty
  · cases heq
    exact .inl ⟨name, hname, (pathMatch_subtreeOf name path).mp hmatches⟩
  · cases heq
    exact .inr rfl
  · cases heq
  · rw [pathMatch, if_pos hempty] at hmatches
    cases hmatches

/-- A path that is a name without its slash is in no subtree. -/
lemma not_inSubtree_of_bare {name name' path : String} (hname : IsPlain name'.toList)
    (hmatch : pathMatch ("/" ++ name') path = true) : ¬ InSubtree name path := by
  have hlist : ("/" ++ name').toList = '/' :: name'.toList := by simp
  have hlast : endsWithSlash ("/" ++ name') = false := by
    obtain ⟨init, last, hinit⟩ := List.eq_nil_or_concat' name'.toList |>.resolve_left hname.ne_nil
    have hne : last ≠ '/' := fun hslash => hname.no_slash (by rw [hinit, hslash]; simp)
    rw [endsWithSlash, hlist, hinit, ← List.cons_append, List.getLast?_concat]
    simpa using hne
  have hne : "/" ++ name' ≠ "" := by
    rw [← String.toList_inj.ne, hlist]
    exact List.cons_ne_nil _ _
  rw [pathMatch, if_neg hne, hlast, if_neg (by decide), decide_eq_true_eq] at hmatch
  intro hin
  obtain ⟨rest, hrest⟩ := inSubtree_iff.mp hin
  rw [← hmatch, hlist] at hrest
  injection hrest with _ hrest
  exact hname.no_slash (by rw [hrest]; simp)

/-- **Which requests a subtree's handler gets.**  Let the names be file names, each of them there
once.  The handler of a name gets the requests whose path is handed on as it is and is in the
subtree. -/
lemma dispatch_of_inSubtree (hplain : ∀ entry ∈ names, IsPlain entry.1.toList)
    (hnodup : (names.map (·.1)).Nodup) {method path name : String} {h : α} (hmem : (name, h) ∈ names)
    (hadmitted : Admitted method path) (hin : InSubtree name path) :
    dispatch (subtrees names rest) method path = .handler h := by
  refine dispatch_eq_handler_iff.mpr ⟨hadmitted, subtreeOf name, ?_⟩
  have hregistered : (subtreeOf name, Target.handler h) ∈ register (subtrees names rest) :=
    List.mem_append_left _ (List.mem_map_of_mem
      (List.mem_append_left _ (List.mem_map_of_mem hmem)))
  have hmatch := (pathMatch_subtreeOf name path).mpr hin
  have hspec := longestMatch_spec path (register (subtrees names rest))
  rcases hfound : longestMatch path (register (subtrees names rest)) with - | best <;>
    rw [hfound] at hspec <;> dsimp only at hspec
  · rw [hspec _ hregistered] at hmatch
    cases hmatch
  · obtain ⟨hbest, hmatches, hmax⟩ := hspec
    have hlength := hmax _ hregistered hmatch
    rcases mem_register_subtrees hbest with
      ⟨name', h', hmem', rfl⟩ | rfl | ⟨name', h', hmem', rfl⟩ | hempty
    · -- another subtree that the path is in is the same one
      obtain rfl := InSubtree.unique (hplain _ hmem').no_slash (hplain _ hmem).no_slash
        ((pathMatch_subtreeOf name' path).mp hmatches) hin
      rw [(Prod.mk.inj (List.inj_on_of_nodup_map hnodup hmem' hmem rfl)).2]
    · -- what matches everything is shorter
      have hlong : 2 ≤ (subtreeOf name).length := by
        rw [← String.length_toList, toList_subtreeOf]
        simp
      have hshort : "/".length = 1 := rfl
      dsimp only at hlength
      omega
    · exact absurd hin (not_inSubtree_of_bare (hplain _ hmem') hmatches)
    · rw [pathMatch, if_pos hempty] at hmatches
      cases hmatches

end

/-! ## Canonical paths -/

/-- A path in a subtree, split at its slashes. -/
lemma InSubtree.splitOn {name path : String} (hname : IsPlain name.toList)
    (h : InSubtree name path) :
    isRooted path = true ∧
      ∃ parts, path.toList.splitOn '/' = [] :: name.toList :: parts := by
  obtain ⟨rest, hrest⟩ := inSubtree_iff.mp h
  refine ⟨by rw [isRooted, hrest]; rfl, rest.splitOn '/', ?_⟩
  rw [hrest, List.splitOn_cons_eq_if_modifyHead, if_pos (beq_self_eq_true '/'),
    List.splitOn_append_cons_self_of_not_mem hname.no_slash]

/-- A canonical rooted path, split at its slashes. -/
lemma splitOn_of_canonical {path : String} (hroot : isRooted path = true)
    (hcanonical : cleanPath path = path) :
    path.toList.splitOn '/' = [[], []] ∨
      ∃ seg segs tail, segments path = seg :: segs ∧
        path.toList.splitOn '/' = [] :: seg :: (segs ++ tail) ∧ (tail = [] ∨ tail = [[]]) := by
  have hne : path ≠ "" := by
    rintro rfl
    cases hroot
  rw [cleanPath, if_neg hne, if_pos hroot] at hcanonical
  dsimp only at hcanonical
  have hclean := splitOn_clean hroot
  split_ifs at hcanonical with hslash
  · rcases hsegs : segments path with - | ⟨seg, segs⟩
    · refine absurd ?_ hslash.2
      rw [clean_eq, hroot, hsegs]
      rfl
    · refine .inr ⟨seg, segs, [[]], rfl, ?_, .inr rfl⟩
      rw [hsegs, if_neg (List.cons_ne_nil _ _)] at hclean
      have hlist := congrArg String.toList hcanonical
      rw [String.toList_append] at hlist
      have hsplit : ((clean path).toList ++ '/' :: []).splitOn '/'
          = (clean path).toList.splitOn '/' ++ [].splitOn '/' := List.splitOn_append_cons_self ..
      rw [hclean] at hsplit
      rw [← hlist]
      exact hsplit
  · rcases hsegs : segments path with - | ⟨seg, segs⟩
    · rw [hcanonical, hsegs, if_pos rfl] at hclean
      exact .inl hclean
    · rw [hcanonical, hsegs, if_neg (List.cons_ne_nil _ _)] at hclean
      exact .inr ⟨seg, segs, [], rfl, by rw [hclean, List.append_nil], .inl rfl⟩

/-- **Canonical paths.**  In a canonical path, the subtree that its beginning shows is its first
segment. -/
lemma segments_of_canonical {name path : String} (hname : IsPlain name.toList)
    (h : InSubtree name path) (hcanonical : cleanPath path = path) :
    ∃ segs, segments path = name.toList :: segs := by
  obtain ⟨hroot, parts, hsplit⟩ := h.splitOn hname
  rcases splitOn_of_canonical hroot hcanonical with hnone | ⟨seg, segs, tail, hsegs, hparts, -⟩
  · rw [hsplit] at hnone
    injection hnone with _ hnone
    injection hnone with hnil _
    exact absurd hnil hname.ne_nil
  · rw [hsplit] at hparts
    injection hparts with _ hparts
    injection hparts with hseg _
    exact ⟨segs, by rw [hsegs, hseg]⟩

/-- The segments of a canonical path are plain, but for an empty one at its end. -/
lemma isPlain_of_canonical {path : String} (hroot : isRooted path = true)
    (hcanonical : cleanPath path = path) {seg : List Char} (hseg : seg ∈ path.toList.splitOn '/')
    (hne : seg ≠ []) : IsPlain seg := by
  rcases splitOn_of_canonical hroot hcanonical with hnone | ⟨first, segs, tail, hsegs, hparts, htail⟩
  · rw [hnone] at hseg
    simp only [List.mem_cons, List.not_mem_nil, or_false, or_self] at hseg
    exact absurd hseg hne
  · rw [hparts, List.mem_cons, ← List.cons_append, List.mem_append] at hseg
    rcases hseg with hseg | hseg | hseg
    · exact absurd hseg hne
    · exact plain_segments hroot seg (hsegs ▸ hseg)
    · rcases htail with rfl | rfl
      · cases hseg
      · exact absurd (List.mem_singleton.mp hseg) hne

/-- A path of plain segments is canonical. -/
lemma cleanPath_of_plain {path : String} {segs : List (List Char)} (hne : segs ≠ [])
    (hsplit : path.toList.splitOn '/' = [] :: segs) (hplain : ∀ seg ∈ segs, IsPlain seg) :
    cleanPath path = path := by
  have hpath : path.toList = '/' :: List.intercalate ['/'] segs := by
    have hjoin : ['/'].intercalate (path.toList.splitOn '/') = path.toList :=
      List.intercalate_splitOn '/'
    rw [hsplit, List.intercalate_cons_of_ne_nil hne] at hjoin
    exact hjoin.symm
  have hroot : isRooted path = true := by
    rw [isRooted, hpath]
    rfl
  have hsegs : segments path = segs := by
    have hempty : pushSegment true [] [] = [] := pushSegment_nil true []
    rw [segments, hsplit, hroot, cleanSegments_eq_foldl, List.foldl_cons, hempty,
      foldl_pushSegment_plain hplain, List.append_nil, List.reverse_reverse]
  have hclean : clean path = path := by
    rw [clean_eq, hroot, hsegs, render, if_pos rfl, ← hpath, String.ofList_toList]
  have hne' : path ≠ "" := by
    rintro rfl
    cases hroot
  rw [cleanPath, if_neg hne', if_pos hroot]
  simp only [hclean]
  rw [if_neg]
  rintro ⟨hslash, -⟩
  rw [endsWithSlash, decide_eq_true_eq, List.getLast?_eq_some_iff] at hslash
  obtain ⟨init, hinit⟩ := hslash
  have hlast : ([] :: segs).getLast? = some [] := by
    rw [← hsplit, hinit, List.splitOn_append_cons_self, List.splitOn_nil, List.getLast?_concat]
  rw [List.getLast?_cons_of_ne_nil hne] at hlast
  exact (hplain [] (List.mem_of_getLast? hlast)).ne_nil rfl

/-! ## `FileServer` -/

/-- What is under a path. -/
inductive Node
  | file (content : List UInt8)
  | dir (names : List String)
  deriving DecidableEq

/-- What the file server answers.  A content and a listing go with the path that was opened for
them. -/
inductive FileAnswer
  | content (opened : String) (content : List UInt8)
  | listing (opened : String) (names : List String)
  | moved (location : String)
  | failed
  deriving DecidableEq

/-- `Dir.Open`: the path that is opened for a name. -/
def openPath (root name : String) : String :=
  join [if root = "" then "." else root, clean ("/" ++ name)]

/-- `strings.TrimSuffix(name, "/") + "/index.html"`. -/
def indexOf (name : String) : String :=
  (if endsWithSlash name then String.ofList name.toList.dropLast else name) ++ "/index.html"

/-- `FileServer`, over a root. -/
def fileServer (disk : String → Option Node) (root path : String) : FileAnswer :=
  let upath := if isRooted path then path else "/" ++ path
  let name := clean upath
  if "/index.html".toList.isSuffixOf upath.toList then .moved "./"
  else if Char.ofNat 0 ∈ name.toList then .failed
  else
    match disk (openPath root name) with
    | none => .failed
    | some (.file content) =>
        if endsWithSlash upath then .moved ("../" ++ base upath)
        else .content (openPath root name) content
    | some (.dir names) =>
        if ¬ endsWithSlash upath then .moved (base upath ++ "/")
        else
          match disk (openPath root (indexOf name)) with
          | some (.file content) => .content (openPath root (indexOf name)) content
          | some (.dir names) => .listing (openPath root (indexOf name)) names
          | none => .listing (openPath root name) names

/-- The path of what an answer shows. -/
def FileAnswer.reads : FileAnswer → Option String
  | content opened _ | listing opened _ => some opened
  | moved _ | failed => none

/-- The directory that a root names. -/
def rootDir (root : String) : String := if root = "" then "." else root

lemma rootDir_ne_empty (root : String) : rootDir root ≠ "" := by
  rw [rootDir]
  split_ifs with hroot
  · decide
  · exact hroot

/-- A slash in front of a rooted path changes nothing. -/
lemma parts_slash {name : String} (h : isRooted name = true) :
    isRooted ("/" ++ name) = true ∧ segments ("/" ++ name) = segments name := by
  have hlist : ("/" ++ name).toList = '/' :: name.toList := by simp
  have hroot : isRooted ("/" ++ name) = true := by
    rw [isRooted, hlist]
    rfl
  refine ⟨hroot, ?_⟩
  rw [segments, segments, hroot, h, cleanSegments_eq_foldl, cleanSegments_eq_foldl, hlist,
    List.splitOn_cons_eq_if_modifyHead, if_pos (beq_self_eq_true '/'), List.foldl_cons,
    pushSegment_nil]

lemma parts_openPath {name : String} (h : isRooted name = true) (root : String) :
    isRooted (openPath root name) = isRooted (rootDir root) ∧
      segments (openPath root name) = segments (rootDir root) ++ segments name := by
  rw [← (parts_slash h).2]
  exact parts_join_rooted (rootDir_ne_empty root) (parts_slash h).1

lemma clean_openPath (root name : String) : clean (openPath root name) = openPath root name :=
  clean_join (rootDir_ne_empty root) _

/-- The index of a directory is in it. -/
lemma parts_indexOf {name : String} (h : isRooted name = true) :
    isRooted (indexOf name) = true ∧
      segments (indexOf name) = segments name ++ ["index.html".toList] := by
  have hindex : IsPlain "index.html".toList := ⟨by decide, by decide, by decide, by decide⟩
  have hbehind : ∀ init : String, init ≠ "" → isRooted init = true →
      isRooted (init ++ "/index.html") = true ∧
        segments (init ++ "/index.html") = segments init ++ ["index.html".toList] := by
    intro init hne hroot
    have happend : init ++ "/index.html" = init ++ "/" ++ "index.html" := by
      rw [String.append_assoc]
      rfl
    obtain ⟨hroot', hsegs⟩ := parts_append hne "index.html"
    rw [happend, hroot', hsegs, List.splitOn_eq_singleton hindex.no_slash, List.foldl_cons,
      List.foldl_nil, pushSegment_plain hindex, List.reverse_cons, List.reverse_reverse]
    exact ⟨hroot, rfl⟩
  rw [indexOf]
  split_ifs with hslash
  · -- the slash at the end is taken off, and put in front of the index again
    obtain ⟨init, hinit⟩ : ∃ init, name = init ++ "/" := by
      rw [endsWithSlash, decide_eq_true_eq, List.getLast?_eq_some_iff] at hslash
      obtain ⟨chars, hchars⟩ := hslash
      refine ⟨String.ofList chars, String.toList_inj.mp ?_⟩
      rw [hchars, String.toList_append, String.toList_ofList]
      rfl
    have hdrop : String.ofList name.toList.dropLast = init := by
      have hone : "/".toList = ['/'] := rfl
      rw [hinit, String.toList_append, hone, List.dropLast_concat, String.ofList_toList]
    rw [hdrop]
    by_cases hempty : init = ""
    · rw [hinit, hempty]
      decide
    · obtain ⟨hroot', hsegs⟩ := parts_append hempty ""
      have hsame : name = init ++ "/" ++ "" := by rw [hinit, String.append_empty]
      rw [← hsame] at hroot' hsegs
      have hkept : segments name = segments init := by
        have hnil : (pushSegment (isRooted init) (segments init).reverse []).reverse
            = segments init := by rw [pushSegment_nil, List.reverse_reverse]
        exact hsegs.trans hnil
      rw [hkept]
      exact hbehind init hempty (hroot'.symm.trans h)
  · refine hbehind name ?_ h
    rintro rfl
    cases h

/-- The index is not what a path with another last segment names. -/
lemma segments_of_index {path : String} (hroot : isRooted path = true)
    (h : "/index.html".toList <:+ path.toList) :
    ∃ segs, segments path = segs ++ ["index.html".toList] := by
  have hindex : IsPlain "index.html".toList := ⟨by decide, by decide, by decide, by decide⟩
  obtain ⟨front, hfront⟩ := h
  have hsplit : path.toList.splitOn '/' = front.splitOn '/' ++ ["index.html".toList] := by
    have hslash : "/index.html".toList = '/' :: "index.html".toList := rfl
    rw [← hfront, hslash, List.splitOn_append_cons_self,
      List.splitOn_eq_singleton hindex.no_slash]
  rw [segments, cleanSegments_eq_foldl, hroot, hsplit, List.foldl_append, List.foldl_cons,
    List.foldl_nil, pushSegment_plain hindex, List.reverse_cons]
  exact ⟨_, rfl⟩

/-- Which content the file server shows, of a path whose last segment is not `index.html`. -/
lemma fileServer_eq_content_iff {disk : String → Option Node} {root path : String}
    (hroot : isRooted path = true) (hlast : ∀ segs, segments path ≠ segs ++ ["index.html".toList])
    (hnul : Char.ofNat 0 ∉ (clean path).toList) (content : List UInt8) :
    fileServer disk root path = .content (openPath root (clean path)) content ↔
      endsWithSlash path = false ∧ disk (openPath root (clean path)) = some (.file content) := by
  have hclean : isRooted (clean path) = true := (parts_clean path).1.trans hroot
  have hsuffix : "/index.html".toList.isSuffixOf path.toList = false := by
    rw [← Bool.not_eq_true, List.isSuffixOf_iff_suffix]
    intro h
    obtain ⟨segs, hsegs⟩ := segments_of_index hroot h
    exact hlast segs hsegs
  have hne : openPath root (indexOf (clean path)) ≠ openPath root (clean path) := by
    intro heq
    have hsegs := (parts_openPath (parts_indexOf hclean).1 root).2
    rw [heq, (parts_openPath hclean root).2, (parts_indexOf hclean).2, List.append_cancel_left_eq]
      at hsegs
    simp at hsegs
  simp only [fileServer, if_pos hroot, hsuffix, if_neg hnul, Bool.false_eq_true, if_false]
  cases hslash : endsWithSlash path with
  | false =>
      rcases disk (openPath root (clean path)) with - | ⟨content' | names⟩ <;> simp
  | true =>
      refine iff_of_false (fun h => ?_) (fun h => nomatch h.1)
      simp only [not_true_eq_false, if_true, if_false] at h
      split at h
      · cases h
      · cases h
      · split at h
        · injection h with hopened _
          exact hne hopened
        · cases h
        · cases h

/-- The file server looks at two paths of the disk at most. -/
lemma fileServer_congr {disk disk' : String → Option Node} {root path : String}
    (hroot : isRooted path = true)
    (hfile : disk (openPath root (clean path)) = disk' (openPath root (clean path)))
    (hindex : disk (openPath root (indexOf (clean path)))
      = disk' (openPath root (indexOf (clean path)))) :
    fileServer disk root path = fileServer disk' root path := by
  simp only [fileServer, if_pos hroot, hfile, hindex]

/-- What the file server opens for what it shows: what the path says, or the index there. -/
lemma opened_fileServer {disk : String → Option Node} {root path opened : String}
    (hroot : isRooted path = true) (h : (fileServer disk root path).reads = some opened) :
    opened = openPath root (clean path) ∨ opened = openPath root (indexOf (clean path)) := by
  simp only [fileServer, if_pos hroot] at h
  split_ifs at h with hsuffix hnull hslash
  · cases h
  · cases h
  · split at h
    · cases h
    · cases h
    · split at h
      · exact .inr (Option.some.inj h).symm
      · exact .inr (Option.some.inj h).symm
      · exact .inl (Option.some.inj h).symm
  · split at h
    · cases h
    · exact .inl (Option.some.inj h).symm
    · cases h

/-- **What the file server shows.**  It lies under the root, where the segments of the path say: what
shows there is a file, or the directory, or the directory's index. -/
lemma reads_fileServer {disk : String → Option Node} {root path opened : String}
    (hroot : isRooted path = true) (h : (fileServer disk root path).reads = some opened) :
    isRooted opened = isRooted (rootDir root) ∧
      (segments (rootDir root) ++ segments path) <+: segments opened := by
  have hclean : isRooted (clean path) = true := (parts_clean path).1.trans hroot
  have hfile := parts_openPath hclean root
  have hindex := parts_openPath (parts_indexOf hclean).1 root
  rw [(parts_clean path).2] at hfile
  rw [(parts_indexOf hclean).2, (parts_clean path).2, ← List.append_assoc] at hindex
  rcases opened_fileServer hroot h with rfl | rfl
  · exact ⟨hfile.1, hfile.2 ▸ List.prefix_rfl⟩
  · exact ⟨hindex.1, hindex.2 ▸ List.prefix_append _ _⟩

end HTTP
