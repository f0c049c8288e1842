import Snapweb.Core.Responder
import Snapweb.Server.Site

/-!
# Who gets where

Runs of the site: requests to either listener, from anywhere and with anything in them, while the
token is written anew and the machine's networks change.

* `router_entered_iff` — when a request gets to what is behind the token.
* `refused_unobservable` — a request that does not get there is not noticed by anyone else, as long
  as the machine loses no network: not in an answer, and not behind the token.
* `tokens_unobservable` — without a text that a token begins with, nothing is learned of the tokens,
  except by the `CONNECT` requests that are shown the file.
-/

namespace Snapweb

namespace Site

variable {σ ρ : Type} (site : Site σ ρ) (tokens : ℕ → List Char)

/-! ## The filters -/

/-- The filter answers as its list of networks says. -/
def SoundFilter (f : Option NetFilter) : Prop := ∀ f' ∈ f, NetFilter.Sound f'

/-- The request is from a network that the filter has, or that the machine is in. -/
def LetIn (f : Option NetFilter) (r : RemoteRequest) : Prop :=
  ∀ f' ∈ f, ∃ ip, site.text.remoteIP r = some ip ∧ ∃ n, n.contains ip = true ∧
    (n ∈ f'.allowedNetworks ∨ n ∈ NetFilter.localNetworks site.text.toNetworkText r.ifs)

/-- An address is in a network of a list. -/
lemma uncachedIsAllowed_iff {networks : List Net.IPNet} {ip : Option Net.IP} :
    NetFilter.uncachedIsAllowed networks ip = true ↔
      ∃ x, ip = some x ∧ ∃ n, n.contains x = true ∧ n ∈ networks := by
  cases ip with
  | none => simp [NetFilter.uncachedIsAllowed]
  | some x => simp [NetFilter.uncachedIsAllowed, and_comm]

section
variable {site}

/-- One request at a filter: when it passes. -/
lemma passed_iff_letIn {f : Option NetFilter} (h : SoundFilter f) (r : RemoteRequest) :
    (NetFilter.serve site.text f r).1 = .passed ↔ site.LetIn f r := by
  cases f with
  | none => exact iff_of_true rfl nofun
  | some f =>
      have hf := h f rfl
      have hletIn : site.LetIn (some f) r ↔ ∃ ip, site.text.remoteIP r = some ip ∧
          ∃ n, n.contains ip = true ∧ (n ∈ f.allowedNetworks ∨
            n ∈ NetFilter.localNetworks site.text.toNetworkText r.ifs) := by
        simp [LetIn]
      have hserve : (NetFilter.serve site.text (some f) r).1 = (f.filterHandler site.text r).1 := rfl
      rw [hletIn, hserve, (NetFilter.passed_iff site.text hf r).1,
        NetFilter.filterHandler_allowedNetworks, uncachedIsAllowed_iff]
      by_cases hrefresh : NetFilter.Refreshes site.text f r
      · simp only [if_pos hrefresh, List.mem_append]
      · -- the address is allowed without the networks of the machine
        have hallowed := (hf.isAllowed site.text r).1
        rw [NetFilter.Refreshes, Bool.not_eq_false, hallowed, uncachedIsAllowed_iff] at hrefresh
        obtain ⟨ip, hip, n, hn, hmem⟩ := hrefresh
        simp only [NetFilter.Refreshes, hallowed]
        refine iff_of_true ⟨ip, hip, n, hn, List.mem_append_left _ hmem⟩
          ⟨ip, hip, n, hn, .inl hmem⟩

/-- One request at a filter keeps it sound. -/
lemma SoundFilter.serve {f : Option NetFilter} (h : SoundFilter f) (r : RemoteRequest) :
    SoundFilter (NetFilter.serve site.text f r).2 := by
  cases f with
  | none => exact h
  | some f =>
      intro f' hf'
      cases hf'
      exact (NetFilter.passed_iff site.text (h f rfl) r).2

/-- The networks that a filter has. -/
def networks : Option NetFilter → List Net.IPNet
  | none => []
  | some f => f.allowedNetworks

/-- A network that the machine is not in is not taken in. -/
lemma mem_networks_serve {f : Option NetFilter} {r : RemoteRequest} {n : Net.IPNet}
    (h : n ∉ NetFilter.localNetworks site.text.toNetworkText r.ifs) :
    n ∈ networks (NetFilter.serve site.text f r).2 ↔ n ∈ networks f := by
  cases f with
  | none => exact Iff.rfl
  | some f =>
      have hnetworks : networks (NetFilter.serve site.text (some f) r).2
          = f.allowedNetworks ++ if NetFilter.Refreshes site.text f r then
            NetFilter.localNetworks site.text.toNetworkText r.ifs else [] :=
        NetFilter.filterHandler_allowedNetworks site.text f r
      rw [hnetworks, List.mem_append]
      refine or_iff_left fun hmem => h ?_
      split_ifs at hmem
      · exact hmem
      · cases hmem

variable (site)

/-- Two filters, before requests that are still to come: each network is known to both of them or to
neither, or the machine is in it at every one of the requests. -/
structure FilterAlike (rs : List RemoteRequest) (f f' : Option NetFilter) : Prop where
  sound : SoundFilter f
  sound' : SoundFilter f'
  none_iff : f = none ↔ f' = none
  known : ∀ n, (n ∈ networks f ↔ n ∈ networks f') ∨
    ∀ r ∈ rs, n ∈ NetFilter.localNetworks site.text.toNetworkText r.ifs

/-- The machine has kept its networks, from one request to another. -/
def KeepsNetworks (r r' : RemoteRequest) : Prop :=
  ∀ n ∈ NetFilter.localNetworks site.text.toNetworkText r.ifs,
    n ∈ NetFilter.localNetworks site.text.toNetworkText r'.ifs

variable {site}

lemma FilterAlike.symm {rs : List RemoteRequest} {f f' : Option NetFilter}
    (h : site.FilterAlike rs f f') : site.FilterAlike rs f' f :=
  ⟨h.sound', h.sound, h.none_iff.symm, fun n => (h.known n).imp_left Iff.symm⟩

lemma FilterAlike.letIn {r : RemoteRequest} {rs : List RemoteRequest} {f f' : Option NetFilter}
    (h : site.FilterAlike (r :: rs) f f') (hin : site.LetIn f r) : site.LetIn f' r := by
  intro g' hg'
  obtain ⟨g, rfl⟩ : ∃ g, f = some g := by
    refine Option.ne_none_iff_exists'.mp fun hnone => ?_
    rw [h.none_iff.mp hnone] at hg'
    cases hg'
  cases hg'
  obtain ⟨ip, hip, n, hn, hmem⟩ := hin g rfl
  refine ⟨ip, hip, n, hn, ?_⟩
  rcases h.known n with hknown | hlocal
  · exact hmem.imp_left hknown.mp
  · exact .inr (hlocal r List.mem_cons_self)

/-- One request at two filters: they decide alike, and stay alike. -/
lemma FilterAlike.serve {r : RemoteRequest} {rs : List RemoteRequest} {f f' : Option NetFilter}
    (h : site.FilterAlike (r :: rs) f f') (hkeeps : ∀ r' ∈ rs, site.KeepsNetworks r r') :
    (NetFilter.serve site.text f r).1 = (NetFilter.serve site.text f' r).1 ∧
      site.FilterAlike rs (NetFilter.serve site.text f r).2 (NetFilter.serve site.text f' r).2 := by
  have hnone : ∀ g : Option NetFilter, (NetFilter.serve site.text g r).2 = none ↔ g = none := by
    intro g
    cases g <;> simp [NetFilter.serve]
  refine ⟨?_, h.sound.serve r, h.sound'.serve r, ?_, fun n => ?_⟩
  · have hiff : (NetFilter.serve site.text f r).1 = .passed ↔
        (NetFilter.serve site.text f' r).1 = .passed := by
      rw [passed_iff_letIn h.sound, passed_iff_letIn h.sound']
      exact ⟨h.letIn, h.symm.letIn⟩
    rcases hv : (NetFilter.serve site.text f r).1 with - | - <;>
      rcases hv' : (NetFilter.serve site.text f' r).1 with - | - <;>
      rw [hv, hv'] at hiff <;> simp at hiff ⊢
  · rw [hnone, hnone]
    exact h.none_iff
  · by_cases hlocal : n ∈ NetFilter.localNetworks site.text.toNetworkText r.ifs
    · exact .inr fun r' hr' => hkeeps r' hr' n hlocal
    · rw [mem_networks_serve hlocal, mem_networks_serve hlocal]
      exact (h.known n).imp_right fun hall r' hr' => hall r' (List.mem_cons_of_mem _ hr')

end

/-! ## One request -/

section
variable (s : SiteState σ) (r : HTTPRequest)

/-- What is behind the filter changes nothing but what is behind the token. -/
lemma serveMux_state :
    (site.serveMux tokens s r).2 = { s with inside := (site.serveMux tokens s r).2.inside } := by
  rw [serveMux]
  split
  · rfl
  · rfl
  · rfl
  · rfl
  · rfl
  · split_ifs <;> rfl

lemma mainHandler_state :
    (site.mainHandler tokens s r).2 = { s with
      filter := (NetFilter.serve site.text s.filter r.remote).2
      inside := (site.mainHandler tokens s r).2.inside } := by
  rw [mainHandler]
  split
  · next f hserve =>
      rw [serveMux_state, hserve]
  · next f hserve => rw [hserve]

lemma baseHandler_state :
    (site.baseHandler s r).2 = { s with
      redirFilter := (NetFilter.serve site.text s.redirFilter r.remote).2 } := by
  simp only [baseHandler, redirHandler]
  split <;> next heq => rw [heq]

end

variable {site tokens}

/-- The filters at the start are sound. -/
lemma sound_newFilter (ifs : Interfaces) :
    SoundFilter (NetFilter.newFilterHandlerFromConfig site.text site.config ifs) := by
  have hsound : ∀ networks, NetFilter.Sound ⟨networks, none⟩ := fun networks => ⟨rfl, nofun⟩
  intro f hf
  rw [NetFilter.newFilterHandlerFromConfig] at hf
  simp only [NetFilter.foldl_addLocalNetworkForInterface, NetFilter.allowNetworks_eq,
    NetFilter.addLocalNetworks_eq] at hf
  split_ifs at hf
  · cases hf
  · cases hf
    exact hsound _
  · cases hf
    exact hsound _

/-- The filters stay sound. -/
lemma sound_after (site : Site σ ρ) (tokens : ℕ → List Char) (ifs : Interfaces)
    (token : Option (ℕ × ℕ)) (inside : σ) (es : List (Event σ)) :
    SoundFilter (Responder.after (site.serve tokens) (site.start ifs token inside) es).filter ∧
      SoundFilter (Responder.after (site.serve tokens) (site.start ifs token inside) es).redirFilter := by
  refine Responder.after_invariant
    (I := fun s : SiteState σ => SoundFilter s.filter ∧ SoundFilter s.redirFilter) ?_
    ⟨sound_newFilter ifs, sound_newFilter ifs⟩ es
  rintro s (⟨l, r⟩ | ⟨k, written⟩ | ⟨change⟩) ⟨hfilter, hredir⟩
  · have hmain : SoundFilter (site.mainHandler tokens s r).2.filter ∧
        SoundFilter (site.mainHandler tokens s r).2.redirFilter := by
      rw [mainHandler_state]
      exact ⟨hfilter.serve r.remote, hredir⟩
    have hbase : SoundFilter (site.baseHandler s r).2.filter ∧
        SoundFilter (site.baseHandler s r).2.redirFilter := by
      rw [baseHandler_state]
      exact ⟨hfilter, hredir.serve r.remote⟩
    cases l with
    | plain =>
        simp only [serve, answered]
        split_ifs
        · exact hmain
        · exact hbase
    | tls =>
        simp only [serve]
        split_ifs
        · exact ⟨hfilter, hredir⟩
        · exact hmain
  · exact ⟨hfilter, hredir⟩
  · exact ⟨hfilter, hredir⟩

/-! ## Where a request gets to the router -/

/-- The listener hands its requests to the main handler. -/
def Listener.IsMain (config : Config) (l : Listener) : Prop := l = .tls ↔ config.disableHTTPS = false

/-- What may enter: the token is not asked for, or it is the cookie. -/
lemma entersRouter_iff {config : Config} {token : Option (List Char)}
    {cookies : List (String × List Char)} : entersRouter config token cookies = true ↔
      config.disableAccessToken = true ∨
        ∃ value, cookie cookies snapwebCookieName = some value ∧ token = some value := by
  rw [entersRouter, Bool.or_eq_true]
  refine or_congr_right ⟨TokenWorld.simpleCookieCheck_eq_true, ?_⟩
  rintro ⟨value, hcookie, rfl⟩
  simp [simpleCookieCheck, hcookie]

/-- The listener's handler. -/
lemma serve_request (tokens : ℕ → List Char) (s : SiteState σ) (l : Listener) (r : HTTPRequest) :
    (l.IsMain site.config ∧
      site.serve tokens s (.request l r) = answered (site.mainHandler tokens s r)) ∨
    (¬ l.IsMain site.config ∧ (site.serve tokens s (.request l r) = (none, s) ∨
      site.serve tokens s (.request l r) = answered (site.baseHandler s r))) := by
  cases l <;> cases hhttps : site.config.disableHTTPS <;>
    simp [serve, Listener.IsMain, hhttps]

/-- A request gets to the router if its path is one of the API's, and it may enter. -/
lemma serveMux_api_iff (s : SiteState σ) (r : HTTPRequest) :
    (∃ reply, (site.serveMux tokens s r).1 = .api reply) ↔
      HTTP.Admitted r.method r.path ∧ HTTP.InSubtree "api" r.path ∧
        entersRouter site.config (tokenContent tokens s) r.cookies = true := by
  constructor
  · rintro ⟨reply, h⟩
    rw [serveMux, handlers_eq] at h
    split at h
    · cases h
    · cases h
    · cases h
    · cases h
    · next =>
        rw [mainPage] at h
        split at h <;> cases h
    · next hdispatch =>
        obtain ⟨hadmitted, hin⟩ := HTTP.inSubtree_of_dispatch hdispatch
        split_ifs at h with henters
        rcases hin with ⟨name, hmem, hin⟩ | hrest
        · rcases site.mem_subtreeNames.mp hmem with ⟨rfl, -⟩ | ⟨-, heq⟩ | ⟨-, -, heq⟩
          · exact ⟨hadmitted, hin, henters⟩
          · cases heq
          · cases heq
        · cases hrest
  · rintro ⟨hadmitted, hin, henters⟩
    have hdispatch : HTTP.dispatch site.handlers r.method r.path = .handler .api := by
      rw [handlers_eq]
      exact HTTP.dispatch_of_inSubtree site.plain_subtreeNames site.nodup_subtreeNames
        (site.mem_subtreeNames.mpr (.inl ⟨rfl, rfl⟩)) hadmitted hin
    simp only [serveMux, hdispatch, if_pos henters]
    exact ⟨_, rfl⟩

lemma mainHandler_api_iff (site : Site σ ρ) (tokens : ℕ → List Char) (s : SiteState σ)
    (r : HTTPRequest) :
    (∃ reply, (site.mainHandler tokens s r).1 = .api reply) ↔
      (NetFilter.serve site.text s.filter r.remote).1 = .passed ∧
        HTTP.Admitted r.method r.path ∧ HTTP.InSubtree "api" r.path ∧
        entersRouter site.config (tokenContent tokens s) r.cookies = true := by
  rw [mainHandler]
  split
  · next f hserve =>
      rw [hserve, and_iff_right rfl]
      exact serveMux_api_iff { s with filter := f } r
  · next f hserve =>
      rw [hserve]
      refine iff_of_false ?_ ?_
      · rintro ⟨reply, h⟩
        cases h
      · rintro ⟨h, -⟩
        cases h

/-- A request is refused for its token if it passes the filter, its path is one of the API's, and it may
not enter. -/
lemma mainHandler_unauthorized_iff (s : SiteState σ) (r : HTTPRequest) :
    (site.mainHandler tokens s r).1 = .unauthorized ↔
      (NetFilter.serve site.text s.filter r.remote).1 = .passed ∧
        HTTP.Admitted r.method r.path ∧ HTTP.InSubtree "api" r.path ∧
        entersRouter site.config (tokenContent tokens s) r.cookies = false := by
  rw [mainHandler]
  split
  · next f hserve =>
      rw [hserve, and_iff_right rfl]
      constructor
      · intro h
        rw [serveMux, handlers_eq] at h
        split at h
        · cases h
        · cases h
        · cases h
        · cases h
        · next =>
            rw [mainPage] at h
            split at h <;> cases h
        · next hdispatch =>
            obtain ⟨hadmitted, hin⟩ := HTTP.inSubtree_of_dispatch hdispatch
            split_ifs at h with henters
            rcases hin with ⟨name, hmem, hin⟩ | hrest
            · rcases site.mem_subtreeNames.mp hmem with ⟨rfl, -⟩ | ⟨-, heq⟩ | ⟨-, -, heq⟩
              · exact ⟨hadmitted, hin, Bool.not_eq_true _ ▸ henters⟩
              · cases heq
              · cases heq
            · cases hrest
      · rintro ⟨hadmitted, hin, henters⟩
        have hdispatch : HTTP.dispatch site.handlers r.method r.path = .handler .api := by
          rw [handlers_eq]
          exact HTTP.dispatch_of_inSubtree site.plain_subtreeNames site.nodup_subtreeNames
            (site.mem_subtreeNames.mpr (.inl ⟨rfl, rfl⟩)) hadmitted hin
        have hrefused : ¬ entersRouter site.config
            (tokenContent tokens { s with filter := f }) r.cookies = true := by
          rw [Bool.not_eq_true]
          exact henters
        simp only [serveMux, hdispatch, if_neg hrefused]
  · next f hserve =>
      rw [hserve]
      refine iff_of_false ?_ ?_
      · intro h
        cases h
      · rintro ⟨h, -⟩
        cases h

/-- Who is let in before a request is let in after it. -/
lemma LetIn.serve {f : Option NetFilter} {r : RemoteRequest} (h : site.LetIn f r)
    (r' : RemoteRequest) : site.LetIn (NetFilter.serve site.text f r').2 r := by
  cases f with
  | none => exact h
  | some f =>
      intro f' hf'
      cases hf'
      obtain ⟨ip, hip, n, hn, hmem⟩ := h f rfl
      refine ⟨ip, hip, n, hn, hmem.imp_left fun hknown => ?_⟩
      show n ∈ (f.filterHandler site.text r').2.allowedNetworks
      rw [NetFilter.filterHandler_allowedNetworks]
      exact List.mem_append_left _ hknown

/-- What happens at the site keeps its filter sound, and lets in whom it has let in. -/
lemma serve_filter (site : Site σ ρ) (tokens : ℕ → List Char) {s : SiteState σ}
    (hsound : SoundFilter s.filter) (e : Event σ) : SoundFilter (site.serve tokens s e).2.filter ∧
      ∀ r, site.LetIn s.filter r → site.LetIn (site.serve tokens s e).2.filter r := by
  cases e with
  | request l r =>
      rcases serve_request tokens s l r with ⟨-, hserve⟩ | ⟨-, hserve | hserve⟩ <;> rw [hserve]
      · rw [answered, mainHandler_state]
        exact ⟨hsound.serve r.remote, fun r' h => h.serve r.remote⟩
      · exact ⟨hsound, fun _ h => h⟩
      · rw [answered, baseHandler_state]
        exact ⟨hsound, fun _ h => h⟩
  | token k written => exact ⟨hsound, fun _ h => h⟩
  | other change => exact ⟨hsound, fun _ h => h⟩

/-- What is answered behind the token is what the router answers. -/
lemma mainHandler_of_api {s : SiteState σ} {r : HTTPRequest} {reply : ρ}
    (h : (site.mainHandler tokens s r).1 = .api reply) :
    site.router r s.inside = (reply, (site.mainHandler tokens s r).2.inside) := by
  rw [mainHandler] at h ⊢
  split at h
  · next f hserve =>
      simp only [serveMux] at h ⊢
      split at h
      · cases h
      · cases h
      · cases h
      · cases h
      · next hdispatch =>
          rw [mainPage] at h
          split at h <;> cases h
      · split_ifs at h ⊢
        cases h
        rfl
  · cases h

/-- What gets to the router is answered by it. -/
lemma mainHandler_routed {s : SiteState σ} {r : HTTPRequest} (hpasses : site.Passes s r)
    (hadmitted : HTTP.Admitted r.method r.path) (hin : HTTP.InSubtree "api" r.path)
    (henters : entersRouter site.config (tokenContent tokens s) r.cookies = true) :
    (site.mainHandler tokens s r).1 = .api (site.router r s.inside).1 ∧
      (site.mainHandler tokens s r).2.inside = (site.router r s.inside).2 := by
  obtain ⟨reply, hanswer⟩ :=
    (site.mainHandler_api_iff tokens s r).mpr ⟨hpasses, hadmitted, hin, henters⟩
  rw [hanswer, mainHandler_of_api hanswer]
  exact ⟨rfl, rfl⟩

/-- What a request gets from the router, where the filter is sound. -/
lemma serve_api_iff {s : SiteState σ} (hsound : SoundFilter s.filter) {l : Listener}
    {r : HTTPRequest} {reply : ρ} :
    (site.serve tokens s (.request l r)).1 = some (.api reply) ↔
      (l.IsMain site.config ∧ site.LetIn s.filter r.remote ∧
        HTTP.Admitted r.method r.path ∧ HTTP.InSubtree "api" r.path ∧
        (site.config.disableAccessToken = true ∨ ∃ value,
          cookie r.cookies snapwebCookieName = some value ∧ tokenContent tokens s = some value)) ∧
      (site.router r s.inside).1 = reply := by
  rcases serve_request tokens s l r with ⟨hmain, hserve⟩ | ⟨hmain, hserve | hserve⟩
  · rw [hserve, and_iff_right hmain, ← passed_iff_letIn hsound, ← entersRouter_iff,
      ← mainHandler_api_iff]
    simp only [answered, Option.some.injEq]
    constructor
    · intro h
      exact ⟨⟨reply, h⟩, congrArg Prod.fst (mainHandler_of_api h)⟩
    · rintro ⟨⟨reply', h⟩, rfl⟩
      rw [h, mainHandler_of_api h]
  · rw [hserve]
    refine iff_of_false ?_ fun h => hmain h.1.1
    intro h
    cases h
  · rw [hserve]
    refine iff_of_false ?_ fun h => hmain h.1.1
    intro h
    cases Option.some.inj h

/-- **Who gets to the router.**  After any run, a request gets to what is behind the token exactly if
it comes in at a listener of the main handler, from a network that the filter has or that the machine
is in; its path is below `/api/`, and canonical unless the request is a `CONNECT`; and its cookie is
what the file of the token holds by then, unless that is not asked for. -/
theorem router_entered_iff (site : Site σ ρ) (tokens : ℕ → List Char) (ifs : Interfaces)
    (token : Option (ℕ × ℕ)) (inside : σ) (before : List (Event σ)) (l : Listener) (r : HTTPRequest) :
    let s := Responder.after (site.serve tokens) (site.start ifs token inside) before
    (∃ reply, (site.serve tokens s (.request l r)).1 = some (.api reply)) ↔
      l.IsMain site.config ∧ site.LetIn s.filter r.remote ∧
        HTTP.Admitted r.method r.path ∧ HTTP.InSubtree "api" r.path ∧
        (site.config.disableAccessToken = true ∨ ∃ value,
          cookie r.cookies snapwebCookieName = some value ∧ tokenContent tokens s = some value) := by
  intro s
  have hsound : SoundFilter s.filter := (site.sound_after tokens ifs token inside before).1
  simp only [serve_api_iff hsound, exists_and_left, exists_eq', and_true]

/-! ## Requests that do not get there -/

variable (site)

/-- The requests of a run, as far as the filters look. -/
def requests (es : List (Event σ)) : List RemoteRequest :=
  es.filterMap fun
    | .request _ r => some r.remote
    | _ => none

/-- Two states, before events that are still to come: they differ in their filters only, and these
are alike. -/
structure Alike (es : List (Event σ)) (s s' : SiteState σ) : Prop where
  filter : site.FilterAlike (requests es) s.filter s'.filter
  redirFilter : site.FilterAlike (requests es) s.redirFilter s'.redirFilter
  token : s.token = s'.token
  inside : s.inside = s'.inside

variable {site}

/-- What is behind the filter does not look at it. -/
lemma serveMux_congr {s s' : SiteState σ} (htoken : s.token = s'.token)
    (hinside : s.inside = s'.inside) (r : HTTPRequest) :
    (site.serveMux tokens s r).1 = (site.serveMux tokens s' r).1 ∧
      (site.serveMux tokens s r).2.inside = (site.serveMux tokens s' r).2.inside := by
  have hcontent : tokenContent tokens s = tokenContent tokens s' := by
    rw [tokenContent, tokenContent, htoken]
  have hfiles : site.files tokens s = site.files tokens s' := by
    funext path
    rw [files, files, hcontent, hinside]
  simp only [serveMux, mainPage, hcontent, hfiles, hinside]
  split
  · exact ⟨rfl, hinside⟩
  · exact ⟨rfl, hinside⟩
  · exact ⟨rfl, hinside⟩
  · exact ⟨rfl, hinside⟩
  · exact ⟨rfl, hinside⟩
  · split_ifs
    · exact ⟨rfl, rfl⟩
    · exact ⟨rfl, hinside⟩

lemma FilterAlike.tail {r : RemoteRequest} {rs : List RemoteRequest} {f f' : Option NetFilter}
    (h : site.FilterAlike (r :: rs) f f') : site.FilterAlike rs f f' :=
  ⟨h.sound, h.sound', h.none_iff, fun n =>
    (h.known n).imp_right fun hall r' hr' => hall r' (List.mem_cons_of_mem _ hr')⟩

/-- A filter is like itself after a request, where the machine keeps the networks that it is in. -/
lemma filterAlike_serve {f : Option NetFilter} (h : SoundFilter f) {r : RemoteRequest}
    {rs : List RemoteRequest} (hkeeps : ∀ r' ∈ rs, site.KeepsNetworks r r') :
    site.FilterAlike rs (NetFilter.serve site.text f r).2 f where
  sound := h.serve r
  sound' := h
  none_iff := by cases f <;> simp [NetFilter.serve]
  known n := by
    by_cases hlocal : n ∈ NetFilter.localNetworks site.text.toNetworkText r.ifs
    · exact .inr fun r' hr' => hkeeps r' hr' n hlocal
    · exact .inl (mem_networks_serve hlocal)

lemma filterAlike_refl {f : Option NetFilter} (h : SoundFilter f) (rs : List RemoteRequest) :
    site.FilterAlike rs f f :=
  ⟨h, h, Iff.rfl, fun _ => .inl Iff.rfl⟩

/-- One request at the main handler, in two states. -/
lemma Alike.mainHandler {l : Listener} {r : HTTPRequest} {es : List (Event σ)} {s s' : SiteState σ}
    (h : site.Alike (.request l r :: es) s s') (tokens : ℕ → List Char)
    (hkeeps : ∀ r' ∈ requests es, site.KeepsNetworks r.remote r') :
    (site.mainHandler tokens s r).1 = (site.mainHandler tokens s' r).1 ∧
      site.Alike es (site.mainHandler tokens s r).2 (site.mainHandler tokens s' r).2 := by
  obtain ⟨hverdict, hfilter⟩ := h.filter.serve hkeeps
  have hsame : (site.mainHandler tokens s r).1 = (site.mainHandler tokens s' r).1 ∧
      (site.mainHandler tokens s r).2.inside = (site.mainHandler tokens s' r).2.inside := by
    rcases hs : NetFilter.serve site.text s.filter r.remote with ⟨verdict, f⟩
    rcases hs' : NetFilter.serve site.text s'.filter r.remote with ⟨verdict', f'⟩
    rw [hs, hs'] at hverdict
    cases hverdict
    cases verdict with
    | passed =>
        simp only [Site.mainHandler, hs, hs']
        have htoken : SiteState.token { s with filter := f }
          = SiteState.token { s' with filter := f' } := h.token
        exact serveMux_congr htoken h.inside r
    | forbidden =>
        simp only [Site.mainHandler, hs, hs']
        exact ⟨trivial, h.inside⟩
  refine ⟨hsame.1, ?_⟩
  rw [mainHandler_state site tokens s, mainHandler_state site tokens s']
  exact ⟨hfilter, h.redirFilter.tail, h.token, hsame.2⟩

/-- One request at the handler of the plain listener, in two states. -/
lemma Alike.baseHandler {l : Listener} {r : HTTPRequest} {es : List (Event σ)} {s s' : SiteState σ}
    (h : site.Alike (.request l r :: es) s s')
    (hkeeps : ∀ r' ∈ requests es, site.KeepsNetworks r.remote r') :
    (site.baseHandler s r).1 = (site.baseHandler s' r).1 ∧
      site.Alike es (site.baseHandler s r).2 (site.baseHandler s' r).2 := by
  obtain ⟨hverdict, hfilter⟩ := h.redirFilter.serve hkeeps
  refine ⟨?_, ?_⟩
  · simp only [Site.baseHandler, redirHandler]
    rcases hs : NetFilter.serve site.text s.redirFilter r.remote with ⟨verdict, f⟩
    rcases hs' : NetFilter.serve site.text s'.redirFilter r.remote with ⟨verdict', f'⟩
    rw [hs, hs'] at hverdict
    cases hverdict
    cases verdict <;> rfl
  · rw [baseHandler_state site s, baseHandler_state site s']
    exact ⟨h.filter.tail, hfilter, h.token, h.inside⟩

/-- One event in two states: it is answered alike, and they stay alike. -/
lemma Alike.serve {e : Event σ} {es : List (Event σ)} {s s' : SiteState σ}
    (h : site.Alike (e :: es) s s') (tokens : ℕ → List Char)
    (hkeeps : (requests (e :: es)).Pairwise site.KeepsNetworks) :
    (site.serve tokens s e).1 = (site.serve tokens s' e).1 ∧
      site.Alike es (site.serve tokens s e).2 (site.serve tokens s' e).2 := by
  cases e with
  | request l r =>
      have hlater := (List.pairwise_cons.mp hkeeps).1
      have hmain := h.mainHandler tokens hlater
      have hbase := h.baseHandler hlater
      have hnone : site.Alike es s s' :=
        ⟨h.filter.tail, h.redirFilter.tail, h.token, h.inside⟩
      cases l with
      | plain =>
          simp only [Site.serve, answered]
          split_ifs
          · exact ⟨congrArg some hmain.1, hmain.2⟩
          · exact ⟨congrArg some hbase.1, hbase.2⟩
      | tls =>
          simp only [Site.serve, answered]
          split_ifs
          · exact ⟨rfl, hnone⟩
          · exact ⟨congrArg some hmain.1, hmain.2⟩
  | token k written => exact ⟨rfl, h.filter, h.redirFilter, rfl, h.inside⟩
  | other change => exact ⟨rfl, h.filter, h.redirFilter, h.token, congrArg change h.inside⟩

/-- A run from two states that are alike. -/
lemma Alike.run {es : List (Event σ)} {s s' : SiteState σ} (h : site.Alike es s s')
    (hkeeps : (requests es).Pairwise site.KeepsNetworks) :
    Responder.answers (site.serve tokens) s es = Responder.answers (site.serve tokens) s' es ∧
      (Responder.after (site.serve tokens) s es).inside
        = (Responder.after (site.serve tokens) s' es).inside := by
  induction es generalizing s s' with
  | nil => exact ⟨rfl, h.inside⟩
  | cons e es ih =>
      obtain ⟨hanswer, halike⟩ := h.serve tokens hkeeps
      have hrest : (requests es).Pairwise site.KeepsNetworks := by
        cases e with
        | request l r => exact (List.pairwise_cons.mp hkeeps).2
        | token k written => exact hkeeps
        | other change => exact hkeeps
      obtain ⟨hanswers, hinside⟩ := ih halike hrest
      refine ⟨?_, hinside⟩
      rw [Responder.answers, Responder.answers, hanswer, hanswers]

/-- What is behind the token stays as it is, unless the request gets there. -/
lemma inside_of_refused {s : SiteState σ} {r : HTTPRequest}
    (h : ∀ reply, (site.mainHandler tokens s r).1 ≠ .api reply) :
    (site.mainHandler tokens s r).2.inside = s.inside := by
  rw [Site.mainHandler] at h ⊢
  split
  · next f hserve =>
      rw [hserve] at h
      simp only [serveMux] at h ⊢
      split
      · rfl
      · rfl
      · rfl
      · rfl
      · rfl
      · next hdispatch =>
          rw [hdispatch] at h
          split_ifs at h ⊢
          · exact absurd rfl (h _)
          · rfl
  · rfl

/-- A refused request leaves a state like the one before. -/
lemma alike_of_refused {s : SiteState σ} (hfilter : SoundFilter s.filter)
    (hredir : SoundFilter s.redirFilter) {l : Listener} {r : HTTPRequest} {later : List (Event σ)}
    (hkeeps : ∀ r' ∈ requests later, site.KeepsNetworks r.remote r')
    (h : ∀ reply, (site.serve tokens s (.request l r)).1 ≠ some (.api reply)) :
    site.Alike later (site.serve tokens s (.request l r)).2 s := by
  rcases serve_request tokens s l r with ⟨-, hserve⟩ | ⟨-, hserve | hserve⟩ <;>
    rw [hserve] at h ⊢
  · have hinside := inside_of_refused fun reply heq => h reply (congrArg some heq)
    rw [answered, mainHandler_state]
    exact ⟨filterAlike_serve hfilter hkeeps, filterAlike_refl hredir _, rfl, hinside⟩
  · exact ⟨filterAlike_refl hfilter _, filterAlike_refl hredir _, rfl, rfl⟩
  · rw [answered, baseHandler_state]
    exact ⟨filterAlike_refl hfilter _, filterAlike_serve hredir hkeeps, rfl, rfl⟩

/-- **Refused requests.**  Let a request come, after any run, that does not get to what is behind the
token, whatever it is answered; and let the machine keep the networks that it is in by then, and those
that it gets into later.  Then everything that happens later is answered as if the request had not
been there, and what is behind the token comes to the same. -/
theorem refused_unobservable (site : Site σ ρ) (tokens : ℕ → List Char) (ifs : Interfaces)
    (token : Option (ℕ × ℕ)) (inside : σ) (before : List (Event σ)) (l : Listener) (r : HTTPRequest)
    (later : List (Event σ))
    (hkeeps : (requests (.request l r :: later)).Pairwise site.KeepsNetworks)
    (hrefused : ∀ reply, (site.serve tokens
      (Responder.after (site.serve tokens) (site.start ifs token inside) before)
      (.request l r)).1 ≠ some (.api reply)) :
    let s := Responder.after (site.serve tokens) (site.start ifs token inside) before
    Responder.answers (site.serve tokens) (site.serve tokens s (.request l r)).2 later
        = Responder.answers (site.serve tokens) s later ∧
      (Responder.after (site.serve tokens) (site.serve tokens s (.request l r)).2 later).inside
        = (Responder.after (site.serve tokens) s later).inside := by
  intro s
  obtain ⟨hfilter, hredir⟩ := site.sound_after tokens ifs token inside before
  obtain ⟨hhead, hlater⟩ := List.pairwise_cons.mp hkeeps
  exact (alike_of_refused hfilter hredir hhead hrefused).run hlater

/-- A site with the filter, on a machine at `10.0.0.5`. -/
def filteredSite : Site Unit Unit := { smallSite with config := {} }

def filteredState : SiteState Unit := filteredSite.start NetFilter.machineAtTen (some (0, 64)) ()

/-- A listing that is asked for with the token, from a network of the machine's. -/
def listingWithToken : HTTPRequest :=
  { requestTo "GET" "/api/v2/packages/" with
    cookies := [("SM", ['t'])]
    remote := ⟨"10.1.2.3:80", NetFilter.machineAtTen⟩ }

/-- A request from another network is refused, and the listing is answered as if it had not been
there. -/
theorem knocking_unobservable :
    (filteredSite.serve (fun _ => ['t']) filteredState
        (.request .tls (requestTo "GET" "/api/v2/packages/"))).1 = some (.redir .forbidden) ∧
      Responder.answers (filteredSite.serve fun _ => ['t'])
        (filteredSite.serve (fun _ => ['t']) filteredState
          (.request .tls (requestTo "GET" "/api/v2/packages/"))).2 [.request .tls listingWithToken]
        = [some (.api ())] := by
  have hforbidden : (filteredSite.serve (fun _ => ['t']) filteredState
      (.request .tls (requestTo "GET" "/api/v2/packages/"))).1 = some (.redir .forbidden) := rfl
  refine ⟨hforbidden, ?_⟩
  have hunobservable := (refused_unobservable filteredSite (fun _ => ['t']) NetFilter.machineAtTen
    (some (0, 64)) () [] .tls (requestTo "GET" "/api/v2/packages/") [.request .tls listingWithToken]
    (List.pairwise_pair.mpr fun _ h => h) (fun reply h => by cases hforbidden.symm.trans h)).1
  exact hunobservable.trans rfl

/-! ## The tokens -/

section
variable (site)

/-- The text begins a token. -/
def BeginsToken (tokens : ℕ → List Char) (value : List Char) : Prop := ∃ k, value <+: tokens k

/-- The request is shown the file of the token, where it is let in: the path is below `/icons/`, but
comes to the file's when it is cleaned. -/
def AsksForToken (r : HTTPRequest) : Prop :=
  r.method = "CONNECT" ∧ HTTP.InSubtree "icons" r.path ∧ Filepath.clean r.path = "/token.txt"

/-- The request has nothing of a token, where it would be looked at, and does not ask for the file. -/
def Blind (tokens tokens' : ℕ → List Char) : Event σ → Prop
  | .request _ r =>
      (site.config.disableAccessToken = true ∨ ∀ value,
        cookie r.cookies snapwebCookieName = some value →
          ¬ BeginsToken tokens value ∧ ¬ BeginsToken tokens' value) ∧
      ¬ AsksForToken r
  | _ => True

variable {site}

lemma tokenFilename_eq (sv : Server) :
    tokenFilename sv.snapData = Filepath.join [snapDataDir sv, "token.txt"] := by
  rw [tokenFilename, snapDataDir]
  split_ifs with hdata
  · rw [hdata]
    decide
  · rfl

lemma isPlain_token : Filepath.IsPlain "token.txt".toList :=
  ⟨by decide, by decide, by decide, by decide⟩

/-- Away from its file, the token is not seen. -/
lemma files_of_ne (tokens tokens' : ℕ → List Char) {s : SiteState σ} {path : String}
    (h : path ≠ tokenFilename site.server.snapData) :
    site.files tokens s path = site.files tokens' s path := by
  rw [files, files, if_neg h, if_neg h]

/-- The gate is closed to what does not begin a token. -/
lemma entersRouter_of_blind {tokens : ℕ → List Char} {s : SiteState σ} {r : HTTPRequest}
    (h : ∀ value, cookie r.cookies snapwebCookieName = some value → ¬ BeginsToken tokens value)
    (hconfig : site.config.disableAccessToken = false) :
    entersRouter site.config (tokenContent tokens s) r.cookies = false := by
  rw [← Bool.not_eq_true, entersRouter_iff, not_or]
  refine ⟨by rw [hconfig]; decide, ?_⟩
  rintro ⟨value, hcookie, hcontent⟩
  obtain ⟨⟨k, written⟩, -, rfl⟩ := Option.map_eq_some_iff.mp hcontent
  exact h _ hcookie ⟨k, List.take_prefix _ _⟩

end

/-- The template of the main page is in `$SNAP/www`. -/
lemma under_htmlPath (snap : String) : Filepath.Under (Filepath.join [snap, "www"]) (htmlPath snap) := by
  have htemplates : Filepath.IsPlain "templates".toList :=
    ⟨by decide, by decide, by decide, by decide⟩
  have hindex : Filepath.IsPlain "index.html".toList := ⟨by decide, by decide, by decide, by decide⟩
  have hbelow : ∀ www : String, www ≠ "" →
      Filepath.Under (Filepath.clean www) (Filepath.clean (www ++ "/" ++ "templates" ++ "/" ++ "index.html")) := by
    intro www hwww
    have hne : www ++ "/" ++ "templates" ≠ "" := by simp
    obtain ⟨hroot, hsegs⟩ := Filepath.parts_append_name hwww htemplates
    obtain ⟨hroot', hsegs'⟩ := Filepath.parts_append_name hne hindex
    rw [Filepath.Under, (Filepath.parts_clean _).1, (Filepath.parts_clean _).1, (Filepath.parts_clean _).2,
      (Filepath.parts_clean _).2, hroot', hsegs', hroot, hsegs]
    exact ⟨rfl, by rw [List.append_assoc]; exact List.prefix_append _ _⟩
  by_cases hsnap : snap = ""
  · have hwww := hbelow "www" (by decide)
    simpa [htmlPath, Filepath.join, hsnap] using hwww
  · have hwww := hbelow (snap ++ "/" ++ "www") (by simp)
    simpa [htmlPath, Filepath.join, hsnap] using hwww

/-- What a request that does not ask for the token is shown is not its file. -/
lemma fileServer_of_blind {tokens tokens' : ℕ → List Char} {s : SiteState σ} {r : HTTPRequest}
    (hadmitted : HTTP.Admitted r.method r.path) (hin : HTTP.InSubtree "icons" r.path)
    (hasks : ¬ AsksForToken r) :
    HTTP.fileServer (site.files tokens s) (Filepath.join [iconDirPath site.server, ".."]) r.path
      = HTTP.fileServer (site.files tokens' s) (Filepath.join [iconDirPath site.server, ".."]) r.path := by
  have hroot := (hin.splitOn isPlain_icons).1
  have hcleanRoot := (Filepath.parts_clean r.path).1.trans hroot
  refine HTTP.fileServer_congr hroot (files_of_ne _ _ fun heq => ?_)
    (files_of_ne _ _ fun heq => ?_)
  · rw [tokenFilename_eq, openPath_eq_iff isPlain_token hcleanRoot, (Filepath.parts_clean _).2] at heq
    -- a canonical path below `/icons/` has another first segment
    by_cases hconnect : r.method = "CONNECT"
    · exact hasks ⟨hconnect, hin, (Filepath.clean_eq_slash_iff hroot isPlain_token).mpr heq⟩
    · obtain ⟨segs, hicons⟩ := HTTP.segments_of_canonical isPlain_icons hin
        (hadmitted.2.resolve_left hconnect)
      rw [heq] at hicons
      injection hicons with hicons _
      exact absurd hicons (by decide)
  · rw [tokenFilename_eq, openPath_eq_iff isPlain_token (HTTP.parts_indexOf hcleanRoot).1,
      (HTTP.parts_indexOf hcleanRoot).2, ← List.nil_append ["token.txt".toList]] at heq
    obtain ⟨-, hlast⟩ := List.append_inj' heq rfl
    exact absurd hlast (by decide)

/-- The file server of `$SNAP/www` shows nothing outside of it. -/
lemma fileServer_of_outside {tokens tokens' : ℕ → List Char} {s : SiteState σ} {path : String}
    (houtside : ¬ Filepath.Under (Filepath.join [site.snap, "www"]) (tokenFilename site.server.snapData))
    (hroot : Filepath.isRooted path = true) :
    HTTP.fileServer (site.files tokens s) (Filepath.join [site.snap, "www"]) path
      = HTTP.fileServer (site.files tokens' s) (Filepath.join [site.snap, "www"]) path := by
  have hcleanRoot := (Filepath.parts_clean path).1.trans hroot
  have hwww := join_name_ne_empty site.snap (by decide : "www" ≠ "")
  have hne : ∀ name, Filepath.isRooted name = true →
      HTTP.openPath (Filepath.join [site.snap, "www"]) name ≠ tokenFilename site.server.snapData := by
    intro name hname heq
    obtain ⟨hroot', hsegs⟩ := HTTP.parts_openPath hname (Filepath.join [site.snap, "www"])
    rw [heq, HTTP.rootDir, if_neg hwww] at hroot' hsegs
    exact houtside ⟨hroot', hsegs ▸ List.prefix_append _ _⟩
  exact HTTP.fileServer_congr hroot (files_of_ne _ _ (hne _ hcleanRoot))
    (files_of_ne _ _ (hne _ (HTTP.parts_indexOf hcleanRoot).1))

/-- A blind request that the filter has let in. -/
lemma serveMux_of_blind {tokens tokens' : ℕ → List Char} {l : Listener} {r : HTTPRequest}
    (houtside : ¬ Filepath.Under (Filepath.join [site.snap, "www"]) (tokenFilename site.server.snapData))
    (hblind : site.Blind tokens tokens' (.request l r : Event σ)) (s : SiteState σ) :
    site.serveMux tokens s r = site.serveMux tokens' s r := by
  obtain ⟨hcookie, hasks⟩ := hblind
  have hgate : entersRouter site.config (tokenContent tokens s) r.cookies
      = entersRouter site.config (tokenContent tokens' s) r.cookies := by
    cases hconfig : site.config.disableAccessToken with
    | true => rw [entersRouter, entersRouter, hconfig, Bool.true_or, Bool.true_or]
    | false =>
        have hvalues := hcookie.resolve_left (by rw [hconfig]; decide)
        rw [entersRouter_of_blind (fun value h => (hvalues value h).1) hconfig,
          entersRouter_of_blind (fun value h => (hvalues value h).2) hconfig]
  have hpage : site.mainPage tokens s = site.mainPage tokens' s := by
    rw [mainPage, mainPage, files_of_ne tokens tokens']
    exact fun heq => houtside (heq ▸ under_htmlPath site.snap)
  rw [serveMux, serveMux, hgate, hpage]
  split
  · rfl
  · rfl
  · rfl
  · next root hdispatch =>
      rw [handlers_eq] at hdispatch
      obtain ⟨hadmitted, ⟨name, hmem, hin⟩ | hrest⟩ := HTTP.inSubtree_of_dispatch hdispatch
      · rcases site.mem_subtreeNames.mp hmem with ⟨-, heq⟩ | ⟨rfl, heq⟩ | ⟨-, rfl, heq⟩
        · cases heq
        · cases heq
          rw [fileServer_of_outside houtside (hin.splitOn isPlain_public).1]
        · cases heq
          rw [fileServer_of_blind hadmitted hin hasks]
      · cases hrest
  · rfl
  · rfl

/-- **Nothing is learned of the tokens.**  Let the file of the token not be in `$SNAP/www`.  Whatever
the tokens are: to requests without a text that begins one of them, and that do not ask for the file
by a `CONNECT`, a run gives the same answers, and comes to the same state. -/
theorem tokens_unobservable (site : Site σ ρ) (tokens tokens' : ℕ → List Char)
    (houtside : ¬ Filepath.Under (Filepath.join [site.snap, "www"]) (tokenFilename site.server.snapData))
    (s : SiteState σ) (es : List (Event σ)) (hblind : ∀ e ∈ es, site.Blind tokens tokens' e) :
    Responder.answers (site.serve tokens) s es = Responder.answers (site.serve tokens') s es ∧
      Responder.after (site.serve tokens) s es = Responder.after (site.serve tokens') s es := by
  refine Responder.run_congr (fun e he s => ?_) s
  cases e with
  | request l r =>
      have hmain : site.mainHandler tokens s r = site.mainHandler tokens' s r := by
        simp only [mainHandler, serveMux_of_blind houtside (hblind _ he)]
      cases l <;> simp only [serve, hmain]
  | token k written => rfl
  | other change => rfl

/-- Somebody with the wrong token, and somebody who looks around. -/
def prying : List (Event Unit) :=
  [.token 0 64, .request .tls { requestTo "GET" "/api/v2/packages/" with cookies := [("SM", ['x'])] },
    .token 1 3, .request .plain (requestTo "CONNECT" "/icons/../icons"),
    .request .tls (requestTo "GET" "/icons/../token.txt")]

/-- They cannot tell one pair of tokens from another. -/
theorem prying_learns_nothing :
    Responder.answers (smallSite.serve fun k => if k = 0 then ['t', 'o'] else ['k', 'e']) smallState
        prying
      = Responder.answers (smallSite.serve fun k => if k = 0 then ['a'] else ['b', 'c']) smallState
        prying := by
  refine (tokens_unobservable smallSite _ _ ?_ smallState prying ?_).1
  · rintro ⟨-, hunder⟩
    exact absurd hunder (by decide)
  · have hnone : ∀ value, cookie [] snapwebCookieName = some value → False := nofun
    have hwrong : ∀ a b : List Char, 'x' ∉ a → 'x' ∉ b →
        ¬ BeginsToken (fun k => if k = 0 then a else b) ['x'] := by
      rintro a b ha hb ⟨k, hbegins⟩
      dsimp only at hbegins
      split_ifs at hbegins
      · exact ha (hbegins.subset (List.mem_singleton_self _))
      · exact hb (hbegins.subset (List.mem_singleton_self _))
    simp only [prying, List.forall_mem_cons]
    refine ⟨trivial, ⟨.inr fun value hvalue => ?_, fun h => absurd h.1 (by decide)⟩, trivial,
      ⟨.inr fun value hvalue => (hnone value hvalue).elim, fun h => absurd h.2.2 (by decide)⟩,
      ⟨.inr fun value hvalue => (hnone value hvalue).elim, fun h => absurd h.1 (by decide)⟩, nofun⟩
    cases hvalue
    exact ⟨hwrong _ _ (by decide) (by decide), hwrong _ _ (by decide) (by decide)⟩

end Site

end Snapweb
