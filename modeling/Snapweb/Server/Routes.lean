import Snapweb.Packages.Update
import Snapweb.Server.Site

/-!
# The routes of the API

`makeAPIHandler` and `MakeMuxer`: the routes behind the token, and the packages API that serves
them.  The router itself (`gorilla/mux`) is a parameter: the first route whose template and methods a
request meets is the one that serves it.

* `route_named_iff` — the requests that are about one snap, and which snap that is.
* `apiRouter_named`, `apiRouter_of_ne` — what becomes of the packages API.
-/

namespace Snapweb

/-! ## `gorilla/mux` -/

/-- A segment of a template: a text, or a variable. -/
inductive Segment
  | text (s : String)
  | var (name : String)
  deriving DecidableEq, Repr

/-- The variables of a path that meets a template; each stands for a segment that is not empty. -/
def matchTemplate : List Segment → List (List Char) → Option (List (String × String))
  | [], [] => some []
  | .text s :: template, seg :: segs =>
      if s.toList = seg then matchTemplate template segs else none
  | .var name :: template, seg :: segs =>
      if seg = [] then none
      else (matchTemplate template segs).map ((name, String.ofList seg) :: ·)
  | _, _ => none

/-- A route; without methods it serves all of them. -/
structure Route (α : Type) where
  template : List Segment
  methods : Option (List String) := none
  handler : α

/-- The variables of a request that meets a route. -/
def Route.vars {α : Type} (route : Route α) (method path : String) :
    Option (List (String × String)) :=
  if route.methods.all (method ∈ ·) then
    match path.toList.splitOn '/' with
    | [] :: segs => matchTemplate route.template segs
    | _ => none
  else none

/-- What a router makes of a request. -/
inductive Routed (α : Type)
  | handler (h : α) (vars : List (String × String))
  | moved (path : String)
  | notFound
  deriving DecidableEq

/-- The first route that a request meets. -/
def firstMatch {α : Type} : List (Route α) → String → String → Routed α
  | [], _, _ => .notFound
  | route :: routes, method, path =>
      match route.vars method path with
      | some vars => .handler route.handler vars
      | none => firstMatch routes method path

/-- A router, for handlers of one type: from routes, and the method and the path of a request. -/
abbrev Mux (α : Type) := List (Route α) → String → String → Routed α

/-- What is documented of the router: a path that is not canonical is redirected, and the first route
that is met serves the request. -/
structure Mux.Documented {α : Type} (mux : Mux α) : Prop where
  moved : ∀ routes method path, HTTP.cleanPath path ≠ path →
    mux routes method path = .moved (HTTP.cleanPath path)
  first : ∀ routes method path, HTTP.cleanPath path = path →
    mux routes method path = firstMatch routes method path

/-- A router that is as documented. -/
def Mux.plain {α : Type} : Mux α := fun routes method path =>
  if HTTP.cleanPath path = path then firstMatch routes method path
  else .moved (HTTP.cleanPath path)

lemma Mux.plain_documented {α : Type} : (Mux.plain : Mux α).Documented :=
  ⟨fun _ _ _ h => if_neg h, fun _ _ _ h => if_pos h⟩

section
variable {segs : List (List Char)} {template : List Segment} {vars : List (String × String)}

@[simp] lemma matchTemplate_nil : matchTemplate [] segs = some vars ↔ segs = [] ∧ vars = [] := by
  cases segs <;> simp [matchTemplate, eq_comm]

@[simp] lemma matchTemplate_text {s : String} :
    matchTemplate (.text s :: template) segs = some vars ↔
      ∃ rest, segs = s.toList :: rest ∧ matchTemplate template rest = some vars := by
  cases segs with
  | nil => simp [matchTemplate]
  | cons seg segs =>
      rw [matchTemplate]
      split_ifs with hseg
      · simp [hseg]
      · simp [Ne.symm hseg]

@[simp] lemma matchTemplate_var {name : String} :
    matchTemplate (.var name :: template) segs = some vars ↔
      ∃ seg rest vars', segs = seg :: rest ∧ seg ≠ [] ∧ matchTemplate template rest = some vars' ∧
        vars = (name, String.ofList seg) :: vars' := by
  cases segs with
  | nil => simp [matchTemplate]
  | cons seg segs =>
      rw [matchTemplate]
      split_ifs with hseg
      · simp [hseg]
      · simp [hseg, eq_comm]

end

section
variable {α : Type} {mux : Mux α} {routes : List (Route α)} {method path : String}

lemma exists_of_firstMatch {h : α} {vars : List (String × String)}
    (hmatch : firstMatch routes method path = .handler h vars) :
    ∃ route ∈ routes, route.handler = h ∧ route.vars method path = some vars := by
  induction routes with
  | nil => cases hmatch
  | cons route routes ih =>
      rw [firstMatch] at hmatch
      split at hmatch
      · next vars' hvars =>
          cases hmatch
          exact ⟨route, List.mem_cons_self, rfl, hvars⟩
      · obtain ⟨route', hmem, hroute'⟩ := ih hmatch
        exact ⟨route', List.mem_cons_of_mem route hmem, hroute'⟩

/-- A path that does not meet a route's template does not meet the route. -/
lemma Route.vars_of_mismatch {route : Route α} {segs : List (List Char)}
    (hsplit : path.toList.splitOn '/' = [] :: segs)
    (h : matchTemplate route.template segs = none) : route.vars method path = none := by
  rw [Route.vars, hsplit]
  split_ifs
  · exact h
  · rfl

/-- Routes that a request does not meet are passed over. -/
lemma firstMatch_append {skipped : List (Route α)}
    (h : ∀ route ∈ skipped, route.vars method path = none) (rest : List (Route α)) :
    firstMatch (skipped ++ rest) method path = firstMatch rest method path := by
  induction skipped with
  | nil => rfl
  | cons route skipped ih =>
      rw [List.forall_mem_cons] at h
      rw [List.cons_append, firstMatch, h.1]
      exact ih h.2

lemma Mux.Documented.exists_route (hmux : mux.Documented) {h : α} {vars : List (String × String)}
    (hroute : mux routes method path = .handler h vars) :
    HTTP.cleanPath path = path ∧
      ∃ route ∈ routes, route.handler = h ∧ route.vars method path = some vars := by
  by_cases hclean : HTTP.cleanPath path = path
  · rw [hmux.first _ _ _ hclean] at hroute
    exact ⟨hclean, exists_of_firstMatch hroute⟩
  · rw [hmux.moved _ _ _ hclean] at hroute
    cases hroute

end

/-! ## The routes -/

/-- What the routes lead to; `packages` is the packages API as a whole, a second time. -/
inductive Endpoint
  | getAll
  | get
  | add
  | remove
  | update
  | packages
  | validateToken
  | sections
  | timeInfo
  | deviceInfo
  | deviceAction
  deriving DecidableEq, Repr

/-- A template below `/api/v2`. -/
def apiPath (template : List Segment) : List Segment := .text "api" :: .text "v2" :: template

/-- `MakeMuxer`. -/
def packagesRoutes : List (Route Endpoint) :=
  [ { template := apiPath [.text "packages", .text ""], methods := some ["GET"], handler := .getAll },
    { template := apiPath [.text "packages", .var "name"], methods := some ["GET"], handler := .get },
    { template := apiPath [.text "packages", .var "name"], methods := some ["PUT"], handler := .add },
    { template := apiPath [.text "packages", .var "name"], methods := some ["DELETE"],
      handler := .remove },
    { template := apiPath [.text "packages", .var "name"], methods := some ["POST"],
      handler := .update } ]

/-- `makeAPIHandler`. -/
def apiRoutes : List (Route Endpoint) :=
  packagesRoutes ++
    [ { template := apiPath [.text "packages", .text ""], handler := .packages },
      { template := apiPath [.text "validate-token"], handler := .validateToken },
      { template := apiPath [.text "sections"], handler := .sections },
      { template := apiPath [.text "time-info"], handler := .timeInfo },
      { template := apiPath [.text "device-info"], handler := .deviceInfo },
      { template := apiPath [.text "device-action"], handler := .deviceAction } ]

/-- What is behind the token: the packages API, and what it meets. -/
structure API where
  env : Surroundings
  server : Server

/-- What the router answers; `none` after a panic.  Of the other endpoints, it is only told which one
serves the request. -/
inductive APIReply
  | packages (response : Option Response)
  | other (endpoint : Endpoint)
  | moved (path : String)
  | notFound
  deriving DecidableEq

/-- `mux.Vars(r)["name"]`. -/
def nameVar (vars : List (String × String)) : String := (vars.lookup "name").getD ""

/-- The request to the packages API that an endpoint serves; `form` is `FormValue`. -/
def packagesRequest (form : HTTPRequest → String → String) (r : HTTPRequest)
    (vars : List (String × String)) : Endpoint → Option Request
  | .getAll => some (.getAll (form r))
  | .get => some (.get (nameVar vars))
  | .add => some (.add (nameVar vars))
  | .remove => some (.remove (nameVar vars))
  | .update => some (.update (nameVar vars) (.unmarshal r.body))
  | _ => none

/-- An endpoint serves a request. -/
def serveEndpoint (form : HTTPRequest → String → String) (r : HTTPRequest) (s : API) :
    Routed Endpoint → APIReply × API
  | .moved path => (.moved path, s)
  | .notFound => (.notFound, s)
  | .handler endpoint vars =>
      match packagesRequest form r vars endpoint with
      | some req =>
          (.packages (handle s.env s.server req).response,
            { s with server := (handle s.env s.server req).server })
      | none => (.other endpoint, s)

/-- The router behind the token.  Where it leads to the packages API as a whole, that is asked once
more. -/
def apiRouter (mux : Mux Endpoint) (form : HTTPRequest → String → String) (r : HTTPRequest)
    (s : API) : APIReply × API :=
  match mux apiRoutes r.method r.path with
  | .handler .packages _ => serveEndpoint form r s (mux packagesRoutes r.method r.path)
  | routed => serveEndpoint form r s routed

/-! ## Requests about one snap -/

/-- The methods of the endpoints that are about one snap. -/
def Endpoint.namedMethod : Endpoint → Option String
  | .get => some "GET"
  | .add => some "PUT"
  | .remove => some "DELETE"
  | .update => some "POST"
  | _ => none

/-- The path of a snap. -/
def packagePath (name : String) : String := "/api/v2/packages/" ++ name

lemma packagePath_inj {a b : String} : packagePath a = packagePath b ↔ a = b := by
  simp [packagePath]

lemma toList_packagePath (name : String) :
    (packagePath name).toList
      = (["", "api", "v2", "packages"].map String.toList).flatMap (· ++ ['/']) ++ name.toList := by
  rw [packagePath, String.toList_append]
  congr 1

lemma splitOn_packagePath (name : String) :
    (packagePath name).toList.splitOn '/' =
      [] :: "api".toList :: "v2".toList :: "packages".toList :: name.toList.splitOn '/' := by
  rw [toList_packagePath, Filepath.splitOn_flatMap]
  · rfl
  · decide

/-- The path of a snap with a plain name is canonical. -/
lemma cleanPath_packagePath {name : String} (hname : Filepath.IsPlain name.toList) :
    HTTP.cleanPath (packagePath name) = packagePath name := by
  have hsplit : (packagePath name).toList.splitOn '/'
      = [] :: (["api", "v2", "packages"].map String.toList ++ [name.toList]) := by
    rw [splitOn_packagePath, List.splitOn_eq_singleton hname.no_slash]
    rfl
  refine HTTP.cleanPath_of_plain (by simp) hsplit ?_
  intro seg hseg
  have hbase : ∀ seg ∈ ["api", "v2", "packages"].map String.toList, Filepath.IsPlain seg := by
    simp only [List.map_cons, List.map_nil, List.forall_mem_cons]
    exact ⟨⟨by decide, by decide, by decide, by decide⟩, ⟨by decide, by decide, by decide, by decide⟩,
      ⟨by decide, by decide, by decide, by decide⟩, nofun⟩
  rcases List.mem_append.mp hseg with hseg | hseg
  · exact hbase seg hseg
  · rw [List.mem_singleton.mp hseg]
    exact hname

/-- What the template of a snap's path is met by. -/
lemma vars_named_iff {route : Route Endpoint} {e : String}
    (htemplate : route.template = apiPath [.text "packages", .var "name"])
    (hmethods : route.methods = some [e]) {method path : String} {vars : List (String × String)} :
    route.vars method path = some vars ↔
      method = e ∧ ∃ name : String, name ≠ "" ∧ '/' ∉ name.toList ∧ path = packagePath name ∧
        vars = [("name", name)] := by
  rw [Route.vars, htemplate, hmethods, apiPath]
  simp only [Option.all_some, List.mem_singleton, decide_eq_true_eq]
  split_ifs with hmethod
  · rw [and_iff_right hmethod]
    constructor
    · intro h
      split at h
      · next segs hsplit =>
          simp only [matchTemplate_text, matchTemplate_var, matchTemplate_nil] at h
          obtain ⟨_, rfl, _, rfl, _, rfl, seg, _, _, rfl, hseg, ⟨rfl, rfl⟩, rfl⟩ := h
          have hmem : seg ∈ path.toList.splitOn '/' := by simp [hsplit]
          have hslash : '/' ∉ seg := Filepath.notMem_of_mem_splitOn hmem
          refine ⟨String.ofList seg, by simpa using hseg, by simpa using hslash, ?_, rfl⟩
          have hjoin : ['/'].intercalate (path.toList.splitOn '/') = path.toList :=
            List.intercalate_splitOn '/'
          rw [← String.toList_inj, toList_packagePath, String.toList_ofList, ← hjoin, hsplit]
          exact Filepath.intercalate_append_name (["", "api", "v2", "packages"].map String.toList) seg
      · cases h
    · rintro ⟨name, hne, hslash, rfl, rfl⟩
      rw [splitOn_packagePath, List.splitOn_eq_singleton hslash]
      simp [hne]
  · exact iff_of_false nofun fun h => hmethod h.1

/-- The route of an endpoint that is about one snap. -/
lemma named_of_mem {route : Route Endpoint} (hmem : route ∈ apiRoutes) {method : String}
    (hmethod : route.handler.namedMethod = some method) :
    route.template = apiPath [.text "packages", .var "name"] ∧ route.methods = some [method] := by
  simp only [apiRoutes, packagesRoutes, List.mem_append, List.mem_cons, List.not_mem_nil,
    or_false] at hmem
  rcases hmem with (rfl | rfl | rfl | rfl | rfl) | rfl | rfl | rfl | rfl | rfl | rfl <;>
    cases hmethod <;> exact ⟨rfl, rfl⟩

/-- The first route that the path of a snap meets. -/
lemma firstMatch_packagePath {name : String} (hne : name ≠ "") (hslash : '/' ∉ name.toList)
    {e : Endpoint} {method : String} (hmethod : e.namedMethod = some method) :
    firstMatch apiRoutes method (packagePath name) = .handler e [("name", name)] := by
  have hsplit := splitOn_packagePath name
  rw [List.splitOn_eq_singleton hslash] at hsplit
  cases e <;> cases hmethod <;>
    simp [apiRoutes, packagesRoutes, firstMatch, Route.vars, hsplit, apiPath, matchTemplate, hne]

/-- **Requests about one snap.**  An endpoint that is about one snap gets a request with its method
for the path of a snap with a plain name, and no other one. -/
lemma route_named_iff {mux : Mux Endpoint} (hmux : mux.Documented) {e : Endpoint} {emethod : String}
    (hemethod : e.namedMethod = some emethod) {method path : String} {vars : List (String × String)} :
    mux apiRoutes method path = .handler e vars ↔
      method = emethod ∧ ∃ name : String, Filepath.IsPlain name.toList ∧ path = packagePath name ∧
        vars = [("name", name)] := by
  constructor
  · intro hroute
    obtain ⟨hclean, route, hmem, rfl, hvars⟩ := hmux.exists_route hroute
    obtain ⟨htemplate, hmethods⟩ := named_of_mem hmem hemethod
    obtain ⟨rfl, name, hne, hslash, rfl, rfl⟩ := (vars_named_iff htemplate hmethods).mp hvars
    have hroot : Filepath.isRooted (packagePath name) = true := by
      rw [Filepath.isRooted, toList_packagePath]
      rfl
    have hseg : name.toList ∈ (packagePath name).toList.splitOn '/' := by
      rw [splitOn_packagePath, List.splitOn_eq_singleton hslash]
      simp
    have hplain := HTTP.isPlain_of_canonical hroot hclean hseg (by simpa using hne)
    exact ⟨rfl, name, hplain, rfl, rfl⟩
  · rintro ⟨rfl, name, hplain, rfl, rfl⟩
    have hne : name ≠ "" := fun h => hplain.ne_nil (by rw [h]; rfl)
    rw [hmux.first _ _ _ (cleanPath_packagePath hplain)]
    exact firstMatch_packagePath hne hplain.no_slash hemethod

/-! ## What the packages API gets -/

section
variable {form : HTTPRequest → String → String} {r : HTTPRequest} {s : API}

/-- What the packages API does not answer leaves everything as it is. -/
lemma serveEndpoint_of_ne {routed : Routed Endpoint}
    (h : ∀ response, (serveEndpoint form r s routed).1 ≠ .packages response) :
    (serveEndpoint form r s routed).2 = s := by
  cases routed with
  | moved path => rfl
  | notFound => rfl
  | handler endpoint vars =>
      simp only [serveEndpoint] at h ⊢
      split
      · next req hreq =>
          rw [hreq] at h
          exact absurd rfl (h _)
      · rfl

/-- What the packages API answers is for one of its endpoints. -/
lemma handler_of_packages {routed : Routed Endpoint} {response : Option Response}
    (h : (serveEndpoint form r s routed).1 = .packages response) :
    ∃ endpoint vars, routed = .handler endpoint vars ∧
      (endpoint = .getAll ∨ endpoint.namedMethod.isSome) := by
  cases routed with
  | moved path => cases h
  | notFound => cases h
  | handler endpoint vars =>
      refine ⟨endpoint, vars, rfl, ?_⟩
      cases endpoint <;> first | exact .inl rfl | exact .inr rfl | cases h

variable {mux : Mux Endpoint}

lemma apiRouter_of_ne (h : ∀ response, (apiRouter mux form r s).1 ≠ .packages response) :
    (apiRouter mux form r s).2 = s := by
  rw [apiRouter] at h ⊢
  split at h <;> exact serveEndpoint_of_ne h

/-- What the packages API answers has met one of its routes. -/
lemma route_of_packages (hmux : mux.Documented) {response : Option Response}
    (h : (apiRouter mux form r s).1 = .packages response) :
    HTTP.cleanPath r.path = r.path ∧ ∃ route ∈ apiRoutes,
      (route.handler = .getAll ∨ route.handler.namedMethod.isSome) ∧
        ∃ vars, route.vars r.method r.path = some vars := by
  have hroute : ∀ routes ⊆ apiRoutes, ∀ endpoint vars,
      mux routes r.method r.path = .handler endpoint vars →
      (endpoint = .getAll ∨ endpoint.namedMethod.isSome) →
      HTTP.cleanPath r.path = r.path ∧ ∃ route ∈ apiRoutes,
        (route.handler = .getAll ∨ route.handler.namedMethod.isSome) ∧
          ∃ vars, route.vars r.method r.path = some vars := by
    rintro routes hsub endpoint vars hmatch hendpoint
    obtain ⟨hclean, route, hmem, rfl, hvars⟩ := hmux.exists_route hmatch
    exact ⟨hclean, route, hsub hmem, hendpoint, vars, hvars⟩
  rw [apiRouter] at h
  split at h
  · obtain ⟨endpoint, vars, hmatch, hendpoint⟩ := handler_of_packages h
    exact hroute packagesRoutes (List.subset_append_left _ _) endpoint vars hmatch hendpoint
  · obtain ⟨endpoint, vars, hmatch, hendpoint⟩ := handler_of_packages h
    exact hroute apiRoutes (List.Subset.refl _) endpoint vars hmatch hendpoint

/-- With another method than `GET`, what the packages API answers is about a snap with a plain
name. -/
lemma named_of_packages (hmux : mux.Documented) (hget : r.method ≠ "GET")
    {response : Option Response} (h : (apiRouter mux form r s).1 = .packages response) :
    ∃ name : String, Filepath.IsPlain name.toList ∧ r.path = packagePath name := by
  obtain ⟨hclean, route, hmem, hhandler, vars, hvars⟩ := route_of_packages hmux h
  rcases hhandler with hgetAll | hnamed
  · have hmethods : route.methods = some ["GET"] := by
      simp only [apiRoutes, packagesRoutes, List.mem_append, List.mem_cons, List.not_mem_nil,
        or_false] at hmem
      rcases hmem with (rfl | rfl | rfl | rfl | rfl) | rfl | rfl | rfl | rfl | rfl | rfl <;>
        first | rfl | cases hgetAll
    rw [Route.vars, hmethods] at hvars
    simp [hget] at hvars
  · obtain ⟨method, hmethod⟩ := Option.isSome_iff_exists.mp hnamed
    obtain ⟨htemplate, hmethods⟩ := named_of_mem hmem hmethod
    obtain ⟨-, name, hne, hslash, hpath, -⟩ := (vars_named_iff htemplate hmethods).mp hvars
    refine ⟨name, ?_, hpath⟩
    have hfirst := firstMatch_packagePath hne hslash hmethod
    rw [← hpath, ← hmux.first _ _ _ hclean] at hfirst
    obtain ⟨-, name', hplain, hpath', -⟩ := (route_named_iff hmux hmethod).mp hfirst
    rw [hpath, packagePath_inj] at hpath'
    rw [hpath']
    exact hplain

/-- **What the packages API gets.**  A request with the method of an endpoint, for a snap with a plain
name, is served by that endpoint. -/
lemma apiRouter_named (hmux : mux.Documented) {e : Endpoint} (hmethod : e.namedMethod = some r.method)
    {name : String} (hname : Filepath.IsPlain name.toList) (hpath : r.path = packagePath name)
    {req : Request} (hreq : packagesRequest form r [("name", name)] e = some req) :
    apiRouter mux form r s = (.packages (handle s.env s.server req).response,
      { s with server := (handle s.env s.server req).server }) := by
  have hroute := (route_named_iff hmux hmethod).mpr ⟨rfl, name, hname, hpath, rfl⟩
  rw [apiRouter, hroute]
  split
  · next heq =>
      cases heq
      cases hmethod
  · simp only [serveEndpoint, hreq]

end

end Snapweb
