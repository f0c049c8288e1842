import Snapweb.AccessToken.Token
import Snapweb.Core.ServeMux
import Snapweb.Core.UTF8
import Snapweb.NetFilter.Redirect
import Snapweb.Packages.IconNames

/-!
# The site

`main.go` and `initURLHandlers`: the two listeners, the filter in front of them, and the paths behind
it.  The API is behind the check of the access token; what is under `/public/` and `/icons/` is served
as files, and everything else is the main page.  What is behind the token is a parameter: a state,
and a router that serves requests over it.

The file server of `/icons/` has `$SNAP_DATA` as its root, not the directory of the icons.  What keeps
a request in that directory is the path's canonical form, which `CONNECT` requests need not have.

* `shown_files_confined` — what other requests are shown.
* `data_file_shown_iff` — which requests are shown a file of `$SNAP_DATA`.
-/

namespace Snapweb

/-! ## The handlers -/

/-- The handlers that `initURLHandlers` registers; a file server is given by its root. -/
inductive URLHandler
  | api
  | files (root : String)
  | mainPage
  deriving DecidableEq, Repr

/-- `initURLHandlers`: the patterns and their handlers, in order; `snap` is `$SNAP`. -/
def initURLHandlers (env : Surroundings) (snap : String) (sv : Server) : List (String × URLHandler) :=
  [("/api/", .api), ("/public/", .files (Filepath.join [snap, "www"]))] ++
    (match iconDir env sv with
      | .ok (iconDir, relativePath) =>
          [("/" ++ relativePath ++ "/", .files (Filepath.join [iconDir, ".."]))]
      | .error _ => []) ++
    [("/", .mainPage)]

/-- `tokenFilename`. -/
def tokenFilename (snapData : String) : String := Filepath.join [snapData, "token.txt"]

/-- The file of the main page (`renderLayout`). -/
def htmlPath (snap : String) : String := Filepath.join [snap, "www", "templates", "index.html"]

/-- A request, as far as it decides which handler it gets; `body` is for the router. -/
structure HTTPRequest where
  method : String
  /-- `URL.Path` -/
  path : String
  host : String
  cookies : List (String × List Char)
  remote : RemoteRequest
  body : List UInt8
  /-- `URL.RawQuery` -/
  rawQuery : List Char := []
  /-- the header `Content-Type` -/
  contentType : String := ""

/-- What a client gets. -/
inductive Answer (ρ : Type)
  | redir (answer : RedirAnswer)
  | badRequest
  | notFound
  | moved (path : String)
  /-- `401`, with `/access-control` as the location -/
  | unauthorized
  | api (reply : ρ)
  | file (answer : HTTP.FileAnswer)
  /-- the main page, from its template; `none` where that is not to be had -/
  | page (template : Option (List UInt8))

/-- What a server is started with, and what is behind the token: the router, and the files as they
are but for the token's. -/
structure Site (σ ρ : Type) where
  text : AddressText
  config : Config
  snap : String
  /-- What `IconDir` meets, and the packages API with its `$SNAP_DATA`, at the start. -/
  env : Surroundings
  server : Server
  router : HTTPRequest → σ → ρ × σ
  disk : σ → String → Option HTTP.Node

/-- The server and its surroundings: the filters of the two listeners, the file of the token (which
token, and how many of its characters have been written), and what is behind the token. -/
structure SiteState (σ : Type) where
  filter : Option NetFilter
  redirFilter : Option NetFilter
  token : Option (ℕ × ℕ)
  inside : σ

namespace Site

variable {σ ρ : Type} (site : Site σ ρ) (tokens : ℕ → List Char)

/-- What the file of the token holds. -/
def tokenContent (s : SiteState σ) : Option (List Char) :=
  s.token.map fun (k, written) => (tokens k).take written

/-- The patterns and the handlers. -/
def handlers : List (String × URLHandler) := initURLHandlers site.env site.snap site.server

/-- What is under a path. -/
def files (s : SiteState σ) (path : String) : Option HTTP.Node :=
  if path = tokenFilename site.server.snapData then
    (tokenContent tokens s).map fun content => .file (UTF8.encode content)
  else site.disk s.inside path

/-- The main page. -/
def mainPage (s : SiteState σ) : Answer ρ :=
  match site.files tokens s (htmlPath site.snap) with
  | some (.file template) => .page (some template)
  | _ => .page none

/-- What is behind the filter. -/
def serveMux (s : SiteState σ) (r : HTTPRequest) : Answer ρ × SiteState σ :=
  match HTTP.dispatch site.handlers r.method r.path with
  | .badRequest => (.badRequest, s)
  | .notFound => (.notFound, s)
  | .moved path => (.moved path, s)
  | .handler (.files root) => (.file (HTTP.fileServer (site.files tokens s) root r.path), s)
  | .handler .mainPage => (site.mainPage tokens s, s)
  | .handler .api =>
      if entersRouter site.config (tokenContent tokens s) r.cookies then
        (.api (site.router r s.inside).1, { s with inside := (site.router r s.inside).2 })
      else (.unauthorized, s)

/-- The main handler. -/
def mainHandler (s : SiteState σ) (r : HTTPRequest) : Answer ρ × SiteState σ :=
  match NetFilter.serve site.text s.filter r.remote with
  | (.passed, f) => site.serveMux tokens { s with filter := f } r
  | (.forbidden, f) => (.redir .forbidden, { s with filter := f })

/-- The handler of the plain listener, where there is an HTTPS one. -/
def baseHandler (s : SiteState σ) (r : HTTPRequest) : Answer ρ × SiteState σ :=
  let (answer, f) := redirHandler site.text s.redirFilter r.remote r.host
  (.redir answer, { s with redirFilter := f })

/-- The listeners. -/
inductive Listener
  | plain
  | tls
  deriving DecidableEq, Repr

/-- What happens: a request comes in, the file of the token is written, or something else goes on. -/
inductive Event (σ : Type)
  | request (listener : Listener) (r : HTTPRequest)
  | token (k written : ℕ)
  | other (change : σ → σ)

/-- A request that is answered. -/
def answered (served : Answer ρ × SiteState σ) : Option (Answer ρ) × SiteState σ :=
  (some served.1, served.2)

/-- The site as a responder: `none` where nothing is asked, or nobody listens. -/
def serve (s : SiteState σ) : Event σ → Option (Answer ρ) × SiteState σ
  | .request .tls r =>
      if site.config.disableHTTPS then (none, s) else answered (site.mainHandler tokens s r)
  | .request .plain r =>
      answered (if site.config.disableHTTPS then site.mainHandler tokens s r else site.baseHandler s r)
  | .token k written => (none, { s with token := some (k, written) })
  | .other change => (none, { s with inside := change s.inside })

/-- The state at the start: each of the two handlers has a filter of its own. -/
def start (ifs : Interfaces) (token : Option (ℕ × ℕ)) (inside : σ) : SiteState σ where
  filter := NetFilter.newFilterHandlerFromConfig site.text site.config ifs
  redirFilter := NetFilter.newFilterHandlerFromConfig site.text site.config ifs
  token
  inside

/-! ## Where a request goes -/

/-- The names of the subtrees, with their handlers. -/
def subtreeNames : List (String × URLHandler) :=
  [("api", .api), ("public", .files (Filepath.join [site.snap, "www"]))] ++
    if site.env.mkdirAll then [("icons", .files (Filepath.join [iconDirPath site.server, ".."]))]
    else []

/-- The patterns are those of the subtrees. -/
lemma handlers_eq : site.handlers = HTTP.subtrees site.subtreeNames .mainPage := by
  cases hdir : site.env.mkdirAll with
  | true =>
      simp only [handlers, initURLHandlers, iconDir, subtreeNames, hdir, if_true]
      rfl
  | false =>
      simp only [handlers, initURLHandlers, iconDir, subtreeNames, hdir]
      rfl

/-- The directory of the files that are served under `/public/`. -/
def publicDir (snap : String) : String :=
  Filepath.join [Filepath.join [snap, "www"], "public"]

lemma isPlain_icons : Filepath.IsPlain "icons".toList := ⟨by decide, by decide, by decide, by decide⟩

lemma isPlain_public : Filepath.IsPlain "public".toList :=
  ⟨by decide, by decide, by decide, by decide⟩

lemma isPlain_api : Filepath.IsPlain "api".toList := ⟨by decide, by decide, by decide, by decide⟩

lemma mem_subtreeNames {name : String} {h : URLHandler} :
    (name, h) ∈ site.subtreeNames ↔ (name = "api" ∧ h = .api) ∨
      (name = "public" ∧ h = .files (Filepath.join [site.snap, "www"])) ∨
      (site.env.mkdirAll = true ∧ name = "icons" ∧
        h = .files (Filepath.join [iconDirPath site.server, ".."])) := by
  rw [subtreeNames]
  split_ifs with hdir <;> simp [hdir]

lemma plain_subtreeNames :
    ∀ entry ∈ site.subtreeNames, Filepath.IsPlain entry.1.toList := by
  rintro ⟨name, h⟩ hmem
  rcases site.mem_subtreeNames.mp hmem with ⟨rfl, -⟩ | ⟨rfl, -⟩ | ⟨-, rfl, -⟩
  · exact isPlain_api
  · exact isPlain_public
  · exact isPlain_icons

lemma nodup_subtreeNames : (site.subtreeNames.map (·.1)).Nodup := by
  rw [subtreeNames]
  split_ifs
  · exact (by decide : ["api", "public", "icons"].Nodup)
  · exact (by decide : ["api", "public"].Nodup)

/-- A path joined from a name is not empty. -/
lemma join_name_ne_empty (dir : String) {name : String} (hname : name ≠ "") :
    Filepath.join [dir, name] ≠ "" := by
  by_cases hdir : dir = ""
  · have hjoin : Filepath.join [dir, name] = Filepath.clean name := by
      simp [Filepath.join, hdir, hname]
    rw [hjoin]
    exact Filepath.clean_ne_empty _
  · rw [Filepath.join_pair hdir]
    exact Filepath.clean_ne_empty _

/-- The root of the icons' file server is `$SNAP_DATA`. -/
lemma parts_iconRoot (sv : Server) :
    HTTP.rootDir (Filepath.join [iconDirPath sv, ".."]) = Filepath.clean (snapDataDir sv) := by
  rw [iconDirPath, Filepath.join_name_up (snapDataDir_ne_empty sv) isPlain_icons, HTTP.rootDir,
    if_neg (Filepath.clean_ne_empty _)]

/-- A file that a file server shows, with the subtree that its request is in. -/
lemma subtree_of_shown {s s' : SiteState σ} {r : HTTPRequest} {a : HTTP.FileAnswer}
    (h : site.serveMux tokens s r = (.file a, s')) :
    HTTP.Admitted r.method r.path ∧
      ((HTTP.InSubtree "public" r.path ∧
          a = HTTP.fileServer (site.files tokens s) (Filepath.join [site.snap, "www"]) r.path) ∨
        (HTTP.InSubtree "icons" r.path ∧ a = HTTP.fileServer (site.files tokens s)
          (Filepath.join [iconDirPath site.server, ".."]) r.path)) := by
  rw [serveMux, handlers_eq] at h
  split at h
  · cases h
  · cases h
  · cases h
  · next root hdispatch =>
      obtain ⟨hadmitted, hin⟩ := HTTP.inSubtree_of_dispatch hdispatch
      refine ⟨hadmitted, ?_⟩
      rcases hin with ⟨name, hmem, hin⟩ | hrest
      · rcases site.mem_subtreeNames.mp hmem with ⟨-, heq⟩ | ⟨rfl, heq⟩ | ⟨-, rfl, heq⟩
        · cases heq
        · cases heq
          exact .inl ⟨hin, by cases h; rfl⟩
        · cases heq
          exact .inr ⟨hin, by cases h; rfl⟩
      · cases hrest
  · next =>
      rw [mainPage] at h
      split at h <;> cases h
  · split_ifs at h <;> cases h

/-- **What requests are shown.**  Whatever the state is, and whether the filter or the token is there
or not: a file that a request other than `CONNECT` is shown, or a listing, is in `$SNAP/www/public`
or in the directory of the icons. -/
theorem shown_files_confined (s : SiteState σ) (r : HTTPRequest)
    (hconnect : r.method ≠ "CONNECT") {a : HTTP.FileAnswer}
    (h : (site.mainHandler tokens s r).1 = .file a) {opened : String}
    (hopened : a.reads = some opened) :
    Filepath.Under (publicDir site.snap) opened ∨ Filepath.Under (iconDirPath site.server) opened := by
  rw [mainHandler] at h
  split at h
  · next f _ =>
      obtain ⟨hadmitted, hin⟩ := site.subtree_of_shown tokens (Prod.ext h rfl)
      have hcanonical := hadmitted.2.resolve_left hconnect
      rcases hin with ⟨hin, rfl⟩ | ⟨hin, rfl⟩
      · obtain ⟨segs, hsegs⟩ := HTTP.segments_of_canonical isPlain_public hin hcanonical
        obtain ⟨hroot, hunder⟩ := HTTP.reads_fileServer (hin.splitOn isPlain_public).1 hopened
        have hwww := join_name_ne_empty site.snap (by decide : "www" ≠ "")
        obtain ⟨hroot', hsegs'⟩ := Filepath.parts_join_name hwww isPlain_public
        refine .inl ⟨?_, ?_⟩
        · rw [publicDir, hroot', hroot, HTTP.rootDir, if_neg hwww]
        · rw [HTTP.rootDir, if_neg hwww, hsegs] at hunder
          rw [publicDir, hsegs']
          refine List.IsPrefix.trans ?_ hunder
          exact ⟨segs, by rw [List.append_assoc]; rfl⟩
      · obtain ⟨segs, hsegs⟩ := HTTP.segments_of_canonical isPlain_icons hin hcanonical
        obtain ⟨hroot, hunder⟩ := HTTP.reads_fileServer (hin.splitOn isPlain_icons).1 hopened
        rw [parts_iconRoot, (Filepath.parts_clean _).1] at hroot
        rw [parts_iconRoot, (Filepath.parts_clean _).2, hsegs] at hunder
        obtain ⟨hroot', hsegs'⟩ :=
          Filepath.parts_join_name (snapDataDir_ne_empty site.server) isPlain_icons
        refine .inr ⟨?_, ?_⟩
        · rw [iconDirPath, hroot', hroot]
        · rw [iconDirPath, hsegs']
          refine List.IsPrefix.trans ?_ hunder
          exact ⟨segs, by rw [List.append_assoc]; rfl⟩
  · cases h

/-- The path that a name behind `/icons/` opens is that of a file of `$SNAP_DATA` exactly if the name
comes to the file's. -/
lemma openPath_eq_iff {name path : String} (hname : Filepath.IsPlain name.toList)
    (hroot : Filepath.isRooted path = true) (sv : Server) :
    HTTP.openPath (Filepath.join [iconDirPath sv, ".."]) path
        = Filepath.join [snapDataDir sv, name] ↔ Filepath.segments path = [name.toList] := by
  have hdata := snapDataDir_ne_empty sv
  obtain ⟨hopen, hopenSegs⟩ :=
    HTTP.parts_openPath hroot (Filepath.join [iconDirPath sv, ".."])
  obtain ⟨hfile, hfileSegs⟩ := Filepath.parts_join_name hdata hname
  rw [parts_iconRoot, (Filepath.parts_clean _).1] at hopen
  rw [parts_iconRoot, (Filepath.parts_clean _).2] at hopenSegs
  constructor
  · intro heq
    rw [heq, hfileSegs, List.append_cancel_left_eq] at hopenSegs
    exact hopenSegs.symm
  · intro hsegs
    rw [hsegs] at hopenSegs
    have hclean := Filepath.clean_eq_clean_iff.mpr
      ⟨hopen.trans hfile.symm, hopenSegs.trans hfileSegs.symm⟩
    rwa [HTTP.clean_openPath, Filepath.clean_join hdata] at hclean

/-- A site without a filter: a picture under `/public/`, and a token. -/
def smallSite : Site Unit Unit where
  text := { NetFilter.fewTexts with }
  config := { disableIPFilter := true }
  snap := "/snap"
  env :=
    { client := .knowing { name := "hello-world", status := "active" } "1"
      mkdirAll := true
      write := fun _ => .refused }
  server := { stateTracker := .new, snapData := "/data", files := ∅ }
  router _ s := ((), s)
  disk _ path := if path = "/snap/www/public/a.png" then some (.file [137, 80]) else none

/-- The state in which the first token has been written. -/
def smallState : SiteState Unit := smallSite.start NetFilter.machineAtTen (some (0, 64)) ()

/-- A request to a path. -/
def requestTo (method path : String) : HTTPRequest where
  method
  path
  host := "device"
  cookies := []
  remote := ⟨"192.168.0.7:80", NetFilter.machineAtTen⟩
  body := []

/-- A picture is in the public directory. -/
theorem public_picture_confined :
    (smallSite.mainHandler (fun _ => ['t']) smallState (requestTo "GET" "/public/a.png")).1
        = .file (.content "/snap/www/public/a.png" [137, 80]) ∧
      (Filepath.Under (publicDir "/snap") "/snap/www/public/a.png" ∨
        Filepath.Under (iconDirPath smallSite.server) "/snap/www/public/a.png") := by
  have hshown : (smallSite.mainHandler (fun _ => ['t']) smallState
      (requestTo "GET" "/public/a.png")).1
        = .file (.content "/snap/www/public/a.png" [137, 80]) := by
    have hdispatch : HTTP.dispatch smallSite.handlers "GET" "/public/a.png"
        = .handler (.files "/snap/www") := by decide
    have hanswer : HTTP.fileServer (smallSite.files (fun _ => ['t']) smallState) "/snap/www"
        "/public/a.png" = .content "/snap/www/public/a.png" [137, 80] := by decide
    simp only [mainHandler, serveMux, requestTo, hdispatch]
    exact congrArg Answer.file hanswer
  exact ⟨hshown, shown_files_confined smallSite (fun _ => ['t']) smallState
    (requestTo "GET" "/public/a.png") (by decide) hshown rfl⟩

/-- The request passes the filter. -/
def Passes (s : SiteState σ) (r : HTTPRequest) : Prop :=
  (NetFilter.serve site.text s.filter r.remote).1 = .passed

/-- **Which requests are shown a file of `$SNAP_DATA`.**  Let a file be next to the directory of the
icons (the token's, the configuration, the key of the certificate), not in `$SNAP/www`.  In every
state, a request is shown its content exactly if it passes the filter, is a `CONNECT`, and its path
begins with `/icons/` and comes to the file's name when it is cleaned, without a slash at its end. -/
theorem data_file_shown_iff (hdir : site.env.mkdirAll = true) {name : String}
    (hname : Filepath.IsPlain name.toList) (hicons : name ≠ "icons") (hindex : name ≠ "index.html")
    (hnul : Char.ofNat 0 ∉ name.toList)
    (houtside : ¬ Filepath.Under (Filepath.join [site.snap, "www"])
      (Filepath.join [snapDataDir site.server, name]))
    (s : SiteState σ) (r : HTTPRequest) (content : List UInt8) :
    (site.mainHandler tokens s r).1
        = .file (.content (Filepath.join [snapDataDir site.server, name]) content) ↔
      site.Passes s r ∧ r.method = "CONNECT" ∧ HTTP.InSubtree "icons" r.path ∧
        Filepath.clean r.path = "/" ++ name ∧ HTTP.endsWithSlash r.path = false ∧
        site.files tokens s (Filepath.join [snapDataDir site.server, name])
          = some (.file content) := by
  set file := Filepath.join [snapDataDir site.server, name] with hfileEq
  set root := Filepath.join [iconDirPath site.server, ".."] with hrootEq
  have hnotIndex : ∀ segs, [name.toList] ≠ segs ++ ["index.html".toList] := by
    intro segs heq
    rw [← List.nil_append [name.toList]] at heq
    obtain ⟨-, hlast⟩ := List.append_inj' heq rfl
    exact hindex (String.toList_inj.mp (List.singleton_inj.mp hlast))
  -- what the path has to be, for its name to open the file
  have hopens : ∀ path, Filepath.isRooted path = true → Filepath.segments path = [name.toList] →
      (∀ segs, Filepath.segments path ≠ segs ++ ["index.html".toList]) ∧
        Char.ofNat 0 ∉ (Filepath.clean path).toList ∧
        HTTP.openPath root (Filepath.clean path) = file := by
    intro path hroot hsegs
    refine ⟨fun segs heq => ?_, ?_, ?_⟩
    · exact hnotIndex segs (hsegs.symm.trans heq)
    · rw [(Filepath.clean_eq_slash_iff hroot hname).mpr hsegs]
      simp [hnul]
    · rw [hrootEq, openPath_eq_iff hname ((Filepath.parts_clean path).1.trans hroot),
        (Filepath.parts_clean path).2]
      exact hsegs
  constructor
  · intro h
    rw [mainHandler] at h
    split at h
    · next f hserve =>
        refine ⟨by rw [Passes, hserve], ?_⟩
        obtain ⟨hadmitted, hin⟩ := site.subtree_of_shown tokens (Prod.ext h rfl)
        rcases hin with ⟨hin, hshown⟩ | ⟨hin, hshown⟩
        · -- what is shown of `/public/` is not outside
          obtain ⟨hroot, hunder⟩ := HTTP.reads_fileServer (hin.splitOn isPlain_public).1
            (congrArg HTTP.FileAnswer.reads hshown.symm)
          rw [HTTP.rootDir, if_neg (join_name_ne_empty site.snap (by decide : "www" ≠ ""))]
            at hroot hunder
          exact absurd ⟨hroot, (List.prefix_append _ _).trans hunder⟩ houtside
        · have hroot := (hin.splitOn isPlain_icons).1
          have hcleanRoot := (Filepath.parts_clean r.path).1.trans hroot
          have hsegs : Filepath.segments r.path = [name.toList] := by
            rcases HTTP.opened_fileServer hroot
              (congrArg HTTP.FileAnswer.reads hshown.symm) with heq | heq
            · rw [← (Filepath.parts_clean r.path).2]
              exact (openPath_eq_iff hname hcleanRoot _).mp heq.symm
            · -- the index of a directory has another name
              have hindexSegs := (openPath_eq_iff hname (HTTP.parts_indexOf hcleanRoot).1 _).mp
                heq.symm
              rw [(HTTP.parts_indexOf hcleanRoot).2] at hindexSegs
              exact absurd hindexSegs.symm (hnotIndex _)
          obtain ⟨hlast, hnul', hopen⟩ := hopens r.path hroot hsegs
          have hcontent := (HTTP.fileServer_eq_content_iff hroot hlast hnul' content).mp
            (hopen.symm ▸ hshown.symm)
          rw [hopen] at hcontent
          refine ⟨?_, hin, (Filepath.clean_eq_slash_iff hroot hname).mpr hsegs, hcontent⟩
          refine hadmitted.2.resolve_right fun hcanonical => ?_
          obtain ⟨segs, hicon⟩ := HTTP.segments_of_canonical isPlain_icons hin hcanonical
          rw [hsegs] at hicon
          injection hicon with hicon _
          exact hicons (String.toList_inj.mp hicon)
    · cases h
  · rintro ⟨hpasses, hconnect, hin, hclean, hslash, hcontent⟩
    have hroot := (hin.splitOn isPlain_icons).1
    have hsegs := (Filepath.clean_eq_slash_iff hroot hname).mp hclean
    obtain ⟨hlast, hnul', hopen⟩ := hopens r.path hroot hsegs
    have hstar : r.path ≠ "*" := by
      intro hstar
      rw [hstar] at hroot
      exact absurd hroot (by decide)
    have hdispatch : HTTP.dispatch site.handlers r.method r.path = .handler (.files root) := by
      rw [handlers_eq]
      exact HTTP.dispatch_of_inSubtree site.plain_subtreeNames site.nodup_subtreeNames
        (site.mem_subtreeNames.mpr (.inr (.inr ⟨hdir, rfl, rfl⟩))) ⟨hstar, .inl hconnect⟩ hin
    have hshown : HTTP.fileServer (site.files tokens s) root r.path
        = .content (HTTP.openPath root (Filepath.clean r.path)) content :=
      (HTTP.fileServer_eq_content_iff hroot hlast hnul' content).mpr
        ⟨hslash, by rw [hopen]; exact hcontent⟩
    rw [hopen] at hshown
    rw [Passes] at hpasses
    rcases hserve : NetFilter.serve site.text s.filter r.remote with ⟨verdict, f⟩
    rw [hserve] at hpasses
    cases hpasses
    simp only [mainHandler, hserve, serveMux, hdispatch]
    exact congrArg Answer.file hshown

/-- A client without a token is shown it. -/
theorem connect_shown_token :
    (smallSite.mainHandler (fun _ => ['t']) smallState (requestTo "CONNECT" "/icons/../token.txt")).1
      = .file (.content (Filepath.join [snapDataDir smallSite.server, "token.txt"]) [116]) := by
  refine (data_file_shown_iff smallSite (fun _ => ['t']) rfl
    ⟨by decide, by decide, by decide, by decide⟩ (by decide) (by decide) (by decide) ?_ smallState
    (requestTo "CONNECT" "/icons/../token.txt") [116]).mpr ?_
  · rintro ⟨-, hunder⟩
    exact absurd hunder (by decide)
  · exact ⟨rfl, rfl, by decide, by decide, by decide, by decide⟩

end Site

end Snapweb
