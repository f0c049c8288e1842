import Snapweb.Client.Requests
import Snapweb.Core.Machine

/-!
# Logging in

The form of `/access-control` in a browser, and the site.  The text of the form becomes the cookie
(`js-cookie`, a parameter), and a request to `/api/v2/validate-token` says whether it is the token; a
`401`, whatever it answers, takes the page to the form.  Requests are served in any order, and
answered in any order, while the token may be written anew and others use the site.

* `Session.next` — one event.
* `login_validated_iff` — which texts are taken.
* `login_lasts_iff` — whether a login lasts is not decided by its answer, but by the text that has
  been submitted last.
-/

namespace Snapweb

namespace Session

/-! ## The browser -/

/-- `window.location.pathname` with the form (`submit-token.js`). -/
def accessControl : String := "/access-control"

/-- Where a login leads to. -/
def home (port : String) : String := if port ≠ "4201" then "/store" else "/"

/-- A request that the page has sent, with its answer if it has been served; `login` for that of the
form. -/
structure Sent where
  login : Bool
  method : String
  path : String
  cookies : List (String × List Char)
  body : List UInt8
  answer : Option (Answer APIReply)

/-- The page, and the text that has been submitted last. -/
structure Browser where
  pathname : String
  submitted : Option (List Char)
  sent : List Sent

/-- The browser, and the site. -/
structure State where
  browser : Browser
  site : SiteState API

/-- What happens: the form is submitted, the page makes a call, a request is served, an answer is
there; a page is loaded, or shown without that (`browserHistory.push`); or something goes on at the
site. -/
inductive Event
  | submit (text : List Char)
  | call (method path : String) (body : List UInt8)
  | served (i : ℕ) (host : String) (remote : RemoteRequest)
  | settled (i : ℕ)
  | visit (path : String)
  | push (path : String)
  | elsewhere (e : Site.Event API)

section
variable (site : Site API APIReply) (random : ℕ → RandomBytes) (set : List Char → List Char)
  (port : String)

/-- The tokens. -/
def tokens (k : ℕ) : List Char := tokenOf (random k)

/-- What `Cookies.set` leaves in the browser, as it sends it. -/
def cookies (submitted : Option (List Char)) : List (String × List Char) :=
  submitted.toList.map fun text => (snapwebCookieName, set text)

/-- The request of `model.save`: the model is always new, and has no attributes. -/
def validateRequest (text : List Char) : Sent where
  login := true
  method := "POST"
  path := "/api/v2/validate-token"
  cookies := cookies set (some text)
  body := UTF8.encode ['\x7b', '\x7d']
  answer := none

/-- A request, as it gets to the site. -/
def Sent.request (p : Sent) (host : String) (remote : RemoteRequest) : HTTPRequest where
  method := p.method
  path := p.path
  host
  cookies := p.cookies
  remote
  body := p.body

/-- `handleSubmit`. -/
def handleSubmit (b : Browser) (text : List Char) : Browser :=
  { b with submitted := some text, sent := b.sent ++ [validateRequest set text] }

/-- A call of the page. -/
def call (b : Browser) (method path : String) (body : List UInt8) : Browser :=
  { b with sent := b.sent ++ [⟨false, method, path, cookies set b.submitted, body, none⟩] }

/-- Another page is loaded; nobody waits for answers any more. -/
def load (b : Browser) (path : String) : Browser := { b with pathname := path, sent := [] }

/-- `validateToken` has answered: `200`, with an empty object. -/
def validates : Answer APIReply → Bool
  | .api (.other .validateToken) => true
  | _ => false

/-- `jqxhr.status === 401`. -/
def isUnauthorized : Answer APIReply → Bool
  | .unauthorized => true
  | _ => false

/-- What an answer does to the page: the `success` of the form, and `ajaxError` of `App`. -/
def settle (b : Browser) (i : ℕ) (p : Sent) (answer : Answer APIReply) : Browser :=
  if p.login && validates answer then load b (home port)
  else
    { b with
      pathname :=
        if isUnauthorized answer ∧ b.pathname ≠ accessControl then accessControl else b.pathname
      sent := b.sent.eraseIdx i }

/-- One event. -/
def next (s : State) : Event → Option State
  | .submit text =>
      if s.browser.pathname = accessControl then
        some { s with browser := handleSubmit set s.browser text }
      else none
  | .call method path body => some { s with browser := call set s.browser method path body }
  | .served i host remote =>
      match s.browser.sent[i]? with
      | some p =>
          if p.answer.isSome then none
          else
            let (answer, site') := site.mainHandler (tokens random) s.site (p.request host remote)
            some ⟨{ s.browser with sent := s.browser.sent.set i { p with answer := some answer } },
              site'⟩
      | none => none
  | .settled i =>
      match s.browser.sent[i]? with
      | some p => p.answer.map fun answer => { s with browser := settle port s.browser i p answer }
      | none => none
  | .visit path => some { s with browser := load s.browser path }
  | .push path => some { s with browser := { s.browser with pathname := path } }
  | .elsewhere e => some { s with site := (site.serve (tokens random) s.site e).2 }

/-- The machine. -/
def machine : Machine State Event := ⟨next site random set port⟩

/-- The state at the start. -/
def start (ifs : Interfaces) (token : Option (ℕ × ℕ)) (inside : API) (path : String)
    (submitted : Option (List Char)) : State :=
  ⟨⟨path, submitted, []⟩, site.start ifs token inside⟩

end

/-- What is documented of `js-cookie`: a cookie can be read again, and letters and digits are written
as they are. -/
structure Documented (set : List Char → List Char) : Prop where
  injective : Function.Injective set
  kept : ∀ text : List Char, (∀ c ∈ text, c.isAlphanum = true) → set text = text

/-- The event neither submits a text nor writes the token. -/
def Quiet : Event → Prop
  | .submit _ => False
  | .elsewhere (.token _ _) => False
  | _ => True

/-- A step on which the browser stays logged in: nothing is refused for its token, and no answer takes
the page to the form. -/
def StaysIn (s : State) (e : Event) (s' : State) : Prop :=
  match e with
  | .served i _ _ => ∀ p ∈ s'.browser.sent[i]?, p.answer ≠ some .unauthorized
  | .settled _ => s'.browser.pathname = accessControl → s.browser.pathname = accessControl
  | _ => True

/-! ## The cookie -/

section
variable {site : Site API APIReply} {random : ℕ → RandomBytes} {set : List Char → List Char}
  {port : String}

lemma isAlphanum_of_mem_alphabet : ∀ c ∈ alphabet, c.isAlphanum = true := by
  have hall : alphabet.all Char.isAlphanum = true := rfl
  exact List.all_eq_true.mp hall

/-- What the file of the token holds is written as it is. -/
lemma Documented.set_tokenContent (h : Documented set) {s : SiteState API} {content : List Char}
    (hcontent : Site.tokenContent (tokens random) s = some content) : set content = content := by
  obtain ⟨⟨k, written⟩, -, rfl⟩ := Option.map_eq_some_iff.mp hcontent
  refine h.kept _ fun c hc => ?_
  exact isAlphanum_of_mem_alphabet c (TokenWorld.mem_alphabet_of_mem_tokenOf (List.mem_of_mem_take hc))

/-- A text enters exactly if the token is not asked for, or it is what the file of the token holds. -/
lemma Documented.entersRouter_iff (h : Documented set) {s : SiteState API}
    {submitted : Option (List Char)} :
    entersRouter site.config (Site.tokenContent (tokens random) s) (cookies set submitted) = true ↔
      site.config.disableAccessToken = true ∨
        ∃ text, submitted = some text ∧ Site.tokenContent (tokens random) s = some text := by
  rw [Site.entersRouter_iff]
  refine or_congr_right ?_
  cases submitted with
  | none => simp [cookies, cookie]
  | some text =>
      have hcookie : cookie (cookies set (some text)) snapwebCookieName = some (set text) := by
        simp [cookies, cookie]
      rw [hcookie]
      constructor
      · rintro ⟨value, hvalue, hcontent⟩
        cases hvalue
        have hset := h.injective (h.set_tokenContent hcontent)
        exact ⟨text, rfl, hset ▸ hcontent⟩
      · rintro ⟨text', htext, hcontent⟩
        cases htext
        exact ⟨set text, rfl, by rw [h.set_tokenContent hcontent]; exact hcontent⟩

variable (site random set port) in
/-- The form is submitted on a page that waits for nothing else, and its request is served. -/
lemma exec_login {s : State} (hpath : s.browser.pathname = accessControl) (hsent : s.browser.sent = [])
    (text : List Char) (host : String) (remote : RemoteRequest) :
    let served := site.mainHandler (tokens random) s.site
      ((validateRequest set text).request host remote)
    (machine site random set port).exec s [.submit text, .served 0 host remote] =
      some ⟨⟨s.browser.pathname, some text,
        [{ validateRequest set text with answer := some served.1 }]⟩, served.2⟩ := by
  simp [Machine.exec, machine, next, hpath, handleSubmit, hsent, validateRequest]

/-! ## What holds in every state -/

/-- The filter is sound, and lets somebody in if the API has answered. -/
structure Inv (site : Site API APIReply) (s : State) : Prop where
  sound : Site.SoundFilter s.site.filter
  answered : ∀ p ∈ s.browser.sent, ∀ reply, p.answer = some (.api reply) →
    ∃ r, site.LetIn s.site.filter r

/-- What the browser waits for after a step, and the filter. -/
lemma Inv.keep {s s' : State} (h : Inv site s) (hsent : ∀ p ∈ s'.browser.sent,
      p ∈ s.browser.sent ∨ p.answer = none) (hsite : s'.site = s.site) : Inv site s' := by
  refine ⟨hsite ▸ h.sound, fun p hp reply hanswer => ?_⟩
  rcases hsent p hp with hold | hnew
  · exact hsite ▸ h.answered p hold reply hanswer
  · rw [hnew] at hanswer
    cases hanswer

lemma home_ne (port : String) : home port ≠ accessControl := by
  rw [home]
  split_ifs <;> decide

lemma isUnauthorized_iff {answer : Answer APIReply} :
    isUnauthorized answer = true ↔ answer = .unauthorized := by
  cases answer <;> simp [isUnauthorized]

/-- What is left after an answer has been there before. -/
lemma mem_sent_settle {b : Browser} {i : ℕ} {p : Sent} {answer : Answer APIReply} {q : Sent}
    (h : q ∈ (settle port b i p answer).sent) : q ∈ b.sent := by
  rw [settle] at h
  split at h
  · cases h
  · exact List.mem_of_mem_eraseIdx h

/-- One event: the filter stays sound, and lets in whom it has let in. -/
lemma Inv.next {s s' : State} {e : Event} (h : Inv site s)
    (hnext : (machine site random set port).next s e = some s') : Inv site s' := by
  cases e with
  | submit text =>
      simp only [machine, Session.next] at hnext
      split_ifs at hnext
      cases hnext
      refine h.keep (fun p hp => ?_) rfl
      rcases List.mem_append.mp hp with hp | hp
      · exact .inl hp
      · rw [List.mem_singleton.mp hp]
        exact .inr rfl
  | call method path body =>
      cases hnext
      refine h.keep (fun p hp => ?_) rfl
      rcases List.mem_append.mp hp with hp | hp
      · exact .inl hp
      · rw [List.mem_singleton.mp hp]
        exact .inr rfl
  | served i host remote =>
      simp only [machine, Session.next] at hnext
      split at hnext
      · next p hp =>
          split_ifs at hnext
          cases hnext
          have hfilter := Site.mainHandler_state site (tokens random) s.site (p.request host remote)
          have hlet : ∀ r, site.LetIn s.site.filter r → site.LetIn
              (site.mainHandler (tokens random) s.site (p.request host remote)).2.filter r := by
            intro r hr
            rw [hfilter]
            exact hr.serve _
          refine ⟨?_, fun q hq reply hanswer => ?_⟩
          · show Site.SoundFilter
              (site.mainHandler (tokens random) s.site (p.request host remote)).2.filter
            rw [hfilter]
            exact h.sound.serve _
          · rcases List.mem_or_eq_of_mem_set hq with hold | rfl
            · obtain ⟨r, hr⟩ := h.answered q hold reply hanswer
              exact ⟨r, hlet r hr⟩
            · have hpassed := ((site.mainHandler_api_iff (tokens random) s.site
                (p.request host remote)).mp ⟨reply, Option.some.inj hanswer⟩).1
              exact ⟨remote, hlet remote ((Site.passed_iff_letIn h.sound remote).mp hpassed)⟩
      · cases hnext
  | settled i =>
      simp only [machine, Session.next] at hnext
      split at hnext
      · obtain ⟨answer, -, rfl⟩ := Option.map_eq_some_iff.mp hnext
        exact h.keep (fun q hq => .inl (mem_sent_settle hq)) rfl
      · cases hnext
  | visit path =>
      cases hnext
      exact h.keep (fun p hp => by cases hp) rfl
  | push path =>
      cases hnext
      exact h.keep (fun p hp => .inl hp) rfl
  | elsewhere e =>
      cases hnext
      obtain ⟨hsound, hlet⟩ := Site.serve_filter site (tokens random) h.sound e
      refine ⟨hsound, fun p hp reply hanswer => ?_⟩
      obtain ⟨r, hr⟩ := h.answered p hp reply hanswer
      exact ⟨r, hlet r hr⟩

/-! ## After a login -/

/-- What the browser sends enters: what it waits for has been sent with the text that has been
submitted last, and has not been refused for its token. -/
structure Current (site : Site API APIReply) (random : ℕ → RandomBytes) (set : List Char → List Char)
    (s : State) : Prop where
  enters : entersRouter site.config (Site.tokenContent (tokens random) s.site)
    (cookies set s.browser.submitted) = true
  sent : ∀ p ∈ s.browser.sent, p.cookies = cookies set s.browser.submitted ∧
    p.answer ≠ some .unauthorized

/-- What a served request changes at the site is not the file of the token. -/
lemma tokenContent_mainHandler (s : SiteState API) (r : HTTPRequest) :
    Site.tokenContent (tokens random) (site.mainHandler (tokens random) s r).2
      = Site.tokenContent (tokens random) s := by
  rw [Site.tokenContent, Site.tokenContent, Site.mainHandler_state]

/-- Nor is it, at either listener. -/
lemma tokenContent_serve {s : SiteState API} {e : Site.Event API} (h : Quiet (.elsewhere e)) :
    Site.tokenContent (tokens random) (site.serve (tokens random) s e).2
      = Site.tokenContent (tokens random) s := by
  cases e with
  | request l r =>
      have hcases : (l.IsMain site.config ∧ site.serve (tokens random) s (.request l r) = _) ∨ _ :=
        Site.serve_request (tokens random) s l r
      rcases hcases with ⟨-, hserve⟩ | ⟨-, hserve | hserve⟩ <;> rw [hserve]
      · exact tokenContent_mainHandler s r
      · rw [Site.answered, Site.tokenContent, Site.tokenContent, Site.baseHandler_state]
  | token k written => exact h.elim
  | other change => rfl

/-- One quiet event: what is sent still enters, and the browser stays logged in. -/
lemma Current.next {s s' : State} {e : Event} (h : Current site random set s)
    (hnext : (machine site random set port).next s e = some s') (hquiet : Quiet e) :
    Current site random set s' ∧ StaysIn s e s' := by
  cases e with
  | submit text => exact hquiet.elim
  | call method path body =>
      cases hnext
      refine ⟨⟨h.enters, fun p hp => ?_⟩, trivial⟩
      rcases List.mem_append.mp hp with hp | hp
      · exact h.sent p hp
      · rw [List.mem_singleton.mp hp]
        exact ⟨rfl, by simp⟩
  | served i host remote =>
      simp only [machine, Session.next] at hnext
      split at hnext
      · next p hp =>
          split_ifs at hnext
          cases hnext
          have hmem := List.mem_of_getElem? hp
          have hanswer : (site.mainHandler (tokens random) s.site (p.request host remote)).1
              ≠ .unauthorized := by
            intro hrefused
            obtain ⟨-, -, -, henters⟩ := (Site.mainHandler_unauthorized_iff _ _).mp hrefused
            have hcookies : (p.request host remote).cookies = cookies set s.browser.submitted :=
              (h.sent p hmem).1
            rw [hcookies, h.enters] at henters
            cases henters
          refine ⟨⟨?_, fun q hq => ?_⟩, fun q hq => ?_⟩
          · show entersRouter site.config (Site.tokenContent (tokens random)
              (site.mainHandler (tokens random) s.site (p.request host remote)).2) _ = true
            rw [tokenContent_mainHandler]
            exact h.enters
          · rcases List.mem_or_eq_of_mem_set hq with hold | rfl
            · exact h.sent q hold
            · exact ⟨(h.sent p hmem).1, fun heq => hanswer (Option.some.inj heq)⟩
          · rw [Option.mem_def, List.getElem?_set_self (List.getElem?_eq_some_iff.mp hp).1] at hq
            cases hq
            exact fun heq => hanswer (Option.some.inj heq)
      · cases hnext
  | settled i =>
      simp only [machine, Session.next] at hnext
      split at hnext
      · next p hp =>
          obtain ⟨answer, hanswer, rfl⟩ := Option.map_eq_some_iff.mp hnext
          have hrefused := (h.sent p (List.mem_of_getElem? hp)).2
          have hsubmitted : (settle port s.browser i p answer).submitted = s.browser.submitted := by
            rw [settle]
            split_ifs <;> rfl
          refine ⟨⟨?_, fun q hq => ?_⟩, fun hpath => ?_⟩
          · show entersRouter site.config _
              (cookies set (settle port s.browser i p answer).submitted) = true
            rw [hsubmitted]
            exact h.enters
          · show q.cookies = cookies set (settle port s.browser i p answer).submitted ∧ _
            rw [hsubmitted]
            exact h.sent q (mem_sent_settle hq)
          · dsimp only at hpath
            rw [settle] at hpath
            split at hpath
            · exact absurd hpath (home_ne port)
            · dsimp only at hpath
              split_ifs at hpath with hunauthorized
              · exact absurd (isUnauthorized_iff.mp hunauthorized.1 ▸ hanswer) hrefused
              · exact hpath
      · cases hnext
  | visit path =>
      cases hnext
      exact ⟨⟨h.enters, fun p hp => by cases hp⟩, trivial⟩
  | push path =>
      cases hnext
      exact ⟨⟨h.enters, h.sent⟩, trivial⟩
  | elsewhere e =>
      cases hnext
      refine ⟨⟨?_, h.sent⟩, trivial⟩
      show entersRouter site.config (Site.tokenContent (tokens random) _) _ = true
      rw [tokenContent_serve hquiet]
      exact h.enters

end

/-- The router leads the request of the form to `validateToken`. -/
lemma apiRouter_validateToken {mux : Mux Endpoint} (hmux : mux.Documented)
    (form : HTTPRequest → String → String) {r : HTTPRequest}
    (hpath : r.path = "/api/v2/validate-token") (s : API) :
    apiRouter mux form r s = (.other .validateToken, s) := by
  have hsplit : "/api/v2/validate-token".toList.splitOn '/'
      = [[], "api".toList, "v2".toList, "validate-token".toList] := by decide
  have hskipped : ∀ route ∈ apiRoutes.take 6,
      route.vars r.method "/api/v2/validate-token" = none := by
    have hmismatch : ∀ route ∈ apiRoutes.take 6, matchTemplate route.template
        ["api".toList, "v2".toList, "validate-token".toList] = none := by decide
    intro route hmem
    exact Route.vars_of_mismatch hsplit (hmismatch route hmem)
  have hroute : mux apiRoutes r.method r.path = .handler .validateToken [] := by
    rw [hpath, hmux.first _ _ _ (by decide), ← List.take_append_drop 6 apiRoutes,
      firstMatch_append hskipped]
    rfl
  rw [apiRouter, hroute]
  rfl

/-- The request of the form is below `/api/`. -/
lemma admitted_validateRequest (set : List Char → List Char) (text : List Char) (host : String)
    (remote : RemoteRequest) :
    HTTP.Admitted ((validateRequest set text).request host remote).method
        ((validateRequest set text).request host remote).path ∧
      HTTP.InSubtree "api" ((validateRequest set text).request host remote).path := by
  have hpath : ((validateRequest set text).request host remote).path = "/api/v2/validate-token" := rfl
  rw [hpath]
  exact ⟨⟨by decide, .inr (by decide)⟩, by decide⟩

/-- **What the form is answered.**  A text is validated exactly if its request passes the filter, and
it is what the file of the token holds when the request is served, unless that is not asked for. -/
theorem login_validated_iff {site : Site API APIReply} {mux : Mux Endpoint} (hmux : mux.Documented)
    {form : HTTPRequest → String → String} (hrouter : site.router = apiRouter mux form)
    {random : ℕ → RandomBytes} {set : List Char → List Char} (hset : Documented set)
    {s : SiteState API} (hsound : Site.SoundFilter s.filter) (text : List Char) (host : String)
    (remote : RemoteRequest) :
    (site.mainHandler (tokens random) s ((validateRequest set text).request host remote)).1
        = .api (.other .validateToken) ↔
      site.LetIn s.filter remote ∧
        (site.config.disableAccessToken = true ∨
          Site.tokenContent (tokens random) s = some text) := by
  have hanswered := site.mainHandler_api_iff (tokens random) s
    ((validateRequest set text).request host remote)
  have hcookies : ((validateRequest set text).request host remote).cookies
    = cookies set (some text) := rfl
  have hremote : ((validateRequest set text).request host remote).remote = remote := rfl
  obtain ⟨hadmitted, hin⟩ := admitted_validateRequest set text host remote
  rw [hcookies, hremote, hset.entersRouter_iff, Site.passed_iff_letIn hsound,
    and_iff_right hadmitted, and_iff_right hin] at hanswered
  simp only [Option.some.injEq, exists_eq_left'] at hanswered
  rw [← hanswered]
  constructor
  · intro h
    exact ⟨_, h⟩
  · rintro ⟨reply, hreply⟩
    have hrouted := Site.mainHandler_of_api hreply
    rw [hrouter, apiRouter_validateToken hmux form rfl, Prod.mk.injEq] at hrouted
    rw [hreply, ← hrouted.1]

/-- **How long a login lasts.**  After any run, let the page be loaded for a text that has been
validated.  Whatever comes then, as long as no text is submitted and the token is not written, no
request of the browser is refused for its token, and no answer takes the page to the form, exactly if
the text that has been submitted last is what the file of the token holds by then, or that is not
asked for. -/
theorem login_lasts_iff (site : Site API APIReply) (random : ℕ → RandomBytes)
    {set : List Char → List Char} (hset : Documented set) (port : String) (ifs : Interfaces)
    (token : Option (ℕ × ℕ)) (inside : API) (path : String) (submitted : Option (List Char))
    (before : List Event) {s s' : State}
    (hbefore : (machine site random set port).exec (start site ifs token inside path submitted) before
      = some s) {i : ℕ} {p : Sent} (hp : s.browser.sent[i]? = some p) (hlogin : p.login = true)
    (hanswer : p.answer = some (.api (.other .validateToken)))
    (hs' : (machine site random set port).next s (.settled i) = some s') :
    (∀ es : List Event, (∀ e ∈ es, Quiet e) →
        (machine site random set port).Along StaysIn s' es) ↔
      site.config.disableAccessToken = true ∨ ∃ text, s.browser.submitted = some text ∧
        Site.tokenContent (tokens random) s.site = some text := by
  have hinv : Inv site s :=
    Machine.Reaches.invariant (fun _ _ _ hI hnext => hI.next hnext) ⟨before, hbefore⟩
      ⟨Site.sound_newFilter ifs, fun p hp => by cases hp⟩
  have hload : s' = { s with browser := load s.browser (home port) } := by
    simp only [machine, next, hp, hanswer, settle, hlogin, validates] at hs'
    cases hs'
    rfl
  rw [← hset.entersRouter_iff]
  constructor
  · intro hlasts
    -- the next call would be refused
    obtain ⟨r, hr⟩ := hinv.answered p (List.mem_of_getElem? hp) _ hanswer
    by_contra hclosed
    rw [Bool.not_eq_true] at hclosed
    let sent : Sent :=
      ⟨false, "GET", "/api/v2/sections", cookies set s.browser.submitted, [], none⟩
    have hrefused : (site.mainHandler (tokens random) s.site (sent.request "" r)).1
        = .unauthorized :=
      (Site.mainHandler_unauthorized_iff _ _).mpr
        ⟨(Site.passed_iff_letIn hinv.sound r).mpr hr,
          ⟨show "/api/v2/sections" ≠ "*" by decide, .inr (show HTTP.cleanPath "/api/v2/sections"
            = "/api/v2/sections" by decide)⟩,
          show HTTP.InSubtree "api" "/api/v2/sections" by decide, hclosed⟩
    have hrun := hlasts [.call "GET" "/api/v2/sections" [], .served 0 "" r] (by
      intro e he
      simp only [List.mem_cons, List.not_mem_nil, or_false] at he
      rcases he with rfl | rfl <;> exact trivial)
    rw [hload] at hrun
    obtain ⟨-, hrun⟩ := hrun _ rfl
    obtain ⟨hstays, -⟩ := hrun _ rfl
    refine hstays { sent with answer := some _ } rfl ?_
    exact congrArg some hrefused
  · intro henters es hquiet
    have hcurrent : Current site random set s' := by
      rw [hload]
      exact ⟨henters, fun p hp => by cases hp⟩
    exact Machine.Along.of_invariant (fun _ _ _ hI hnext hq => (hI.next hnext hq).1)
      (fun _ _ _ hI hnext hq => (hI.next hnext hq).2) hcurrent (Machine.along_of_forall s' hquiet)

/-- Cookies with what `encodeURIComponent` makes of a text. -/
def plainCookies (text : List Char) : List Char := URL.encodeURIComponent (String.ofList text)

lemma plainCookies_documented : Documented plainCookies where
  injective text text' h := by
    have hread := congrArg URL.unescape h
    rw [plainCookies, plainCookies, URL.unescape_encodeURIComponent,
      URL.unescape_encodeURIComponent, Option.some_inj] at hread
    simpa [UTF8.decode_encode] using congrArg UTF8.decode hread
  kept text h := by
    rw [plainCookies, URL.encodeURIComponent, String.toList_ofList]
    induction text with
    | nil => rfl
    | cons c cs ih =>
        rw [List.forall_mem_cons] at h
        rw [List.flatMap_cons, ih h.2, URL.escapeChar, if_pos]
        · rfl
        · rw [URL.isUnreserved, h.1, Bool.true_or]

/-- The tokens are of zero bytes. -/
def zeroTokens (_ : ℕ) : RandomBytes := TokenWorld.zeroBytes

/-- The form is shown, and the first token has been written. -/
def formShown : State :=
  start Client.packagesSite NetFilter.machineAtTen (some (0, 64)) Client.packagesState.inside
    accessControl none

/-- A client in the same network. -/
def nextDoor : RemoteRequest := ⟨"192.168.0.7:80", NetFilter.machineAtTen⟩

/-- Somebody logs in with the token. -/
def loggingIn : List Event := [.submit (tokens zeroTokens 0), .served 0 "device" nextDoor]

/-- They stay logged in. -/
theorem zero_login_lasts :
    let M := machine Client.packagesSite zeroTokens plainCookies "4201"
    ∃ s s' : State, M.exec formShown loggingIn = some s ∧ M.next s (.settled 0) = some s' ∧
      ∀ es : List Event, (∀ e ∈ es, Quiet e) → M.Along StaysIn s' es := by
  intro M
  have hcontent : Site.tokenContent (tokens zeroTokens) formShown.site
      = some (tokens zeroTokens 0) := by
    have hlength := TokenWorld.length_tokenOf TokenWorld.zeroBytes
    exact congrArg some (List.take_of_length_le hlength.le)
  have hsound : Site.SoundFilter formShown.site.filter := fun f hf => by cases hf
  have hletIn : Client.packagesSite.LetIn formShown.site.filter nextDoor := fun f hf => by cases hf
  have hvalidated := (login_validated_iff Mux.plain_documented rfl plainCookies_documented hsound
    (tokens zeroTokens 0) "device" nextDoor).mpr ⟨hletIn, .inr hcontent⟩
  have hexec := exec_login Client.packagesSite zeroTokens plainCookies "4201" (s := formShown) rfl rfl
    (tokens zeroTokens 0) "device" nextDoor
  have hkept : Site.tokenContent (tokens zeroTokens) (Client.packagesSite.mainHandler
      (tokens zeroTokens) formShown.site ((validateRequest plainCookies (tokens zeroTokens 0)).request
        "device" nextDoor)).2 = _ := tokenContent_mainHandler _ _
  generalize Client.packagesSite.mainHandler (tokens zeroTokens) formShown.site
    ((validateRequest plainCookies (tokens zeroTokens 0)).request "device" nextDoor) = served
    at hvalidated hexec hkept
  let p : Sent := { validateRequest plainCookies (tokens zeroTokens 0) with answer := some served.1 }
  let s : State := ⟨⟨accessControl, some (tokens zeroTokens 0), [p]⟩, served.2⟩
  have hp : s.browser.sent[0]? = some p := rfl
  have hlogin : p.login = true := rfl
  have hanswer : p.answer = some (.api (.other .validateToken)) := congrArg some hvalidated
  have hs' : M.next s (.settled 0) = some { s with browser := load s.browser (home "4201") } := by
    simp only [M, machine, next, hp, hanswer, settle, hlogin, validates, Option.map_some,
      Bool.and_true, if_true]
  exact ⟨s, _, hexec, hs', (login_lasts_iff Client.packagesSite zeroTokens plainCookies_documented
    "4201" NetFilter.machineAtTen (some (0, 64)) Client.packagesState.inside accessControl none
    loggingIn hexec hp hlogin hanswer hs').mpr (.inr ⟨_, rfl, hkept.trans hcontent⟩)⟩

end Session

end Snapweb
