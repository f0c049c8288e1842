import Mathlib.Data.List.GetD
import Snapweb.Config
import Snapweb.Core.Files
import Snapweb.Core.Machine

/-!
# The access token

`generate-token` writes a fresh token to `token.txt`, and the server lets a request to the API
through if its cookie `SM` equals what the file holds.  The file is rewritten in place, as
`ioutil.WriteFile` does it: it is created or truncated, and then written, in one go or in several.
The server may read it at any moment in between.

* `router_entered_only_with_token` — the router is entered only with a complete token, in every run
  in which no cookie is a fragment (fewer than 64 characters of the alphabet) and no part of a
  token is written over something else; and with every fragment the router can be entered.
* `router_entered_with_empty_cookie` — the empty cookie, between truncating and writing.
-/

namespace Snapweb

/-! ## `generate-token` -/

/-- The characters of a token. -/
def alphabet : List Char := "0123456789abcdefghijklmnopqrstuvwxyzABCDEFGHIJKLMNOPQRSTUVWXYZ".toList

/-- `generateToken`, from the random bytes that it reads. -/
def generateToken (b : List UInt8) : List Char :=
  b.map fun x => alphabet.getD (x.toNat % alphabet.length) '0'

/-- The random bytes that a run of `generate-token` reads. -/
abbrev RandomBytes := { b : List UInt8 // b.length = 64 }

/-- The token of a run of `generate-token`. -/
def tokenOf (random : RandomBytes) : List Char := generateToken random.val

/-- A run of `generate-token`: its random bytes, and how much it has written since it opened the
file, if it has. -/
structure TokenRun where
  random : RandomBytes
  written : Option ℕ

/-! ## The cookie check -/

/-- `SnapwebCookieName`. -/
def snapwebCookieName : String := "SM"

/-- `Request.Cookie`: the value of the first cookie with the name. -/
def cookie (cookies : List (String × List Char)) (name : String) : Option (List Char) :=
  (cookies.find? fun c => c.1 = name).map (·.2)

/-- `SimpleCookieCheck`: the cookie is there, the file can be read, and they are equal. -/
def simpleCookieCheck (token : Option (List Char)) (cookies : List (String × List Char)) : Bool :=
  match cookie cookies snapwebCookieName, token with
  | some value, some token => token == value
  | _, _ => false

/-- `makeAPIHandler`: is the router entered? -/
def entersRouter (config : Config) (token : Option (List Char))
    (cookies : List (String × List Char)) : Bool :=
  config.disableAccessToken || simpleCookieCheck token cookies

/-! ## Runs -/

/-- `token.txt`, and the runs of `generate-token` so far.  `produced` is bookkeeping: the random
bytes of all tokens there have been. -/
structure TokenWorld where
  file : Option (List Char)
  runs : ℕ → Option TokenRun
  produced : List RandomBytes

/-- What happens: a run makes its token, opens the file, writes the next `k` characters; a request
to the API comes in. -/
inductive TokenEvent
  | generate (i : ℕ) (random : RandomBytes)
  | create (i : ℕ)
  | write (i k : ℕ)
  | request (cookies : List (String × List Char))

namespace TokenWorld

/-- The file is missing, or holds the token of an earlier run. -/
def start (old : Option RandomBytes) : TokenWorld :=
  { file := old.map tokenOf, runs := fun _ => none, produced := old.toList }

/-- The world after a run has gone on. -/
def become (w : TokenWorld) (i : ℕ) (run : TokenRun) : TokenWorld :=
  { w with runs := Function.update w.runs i (some run) }

/-- One step. -/
def next (w : TokenWorld) : TokenEvent → Option TokenWorld
  | .generate i random =>
      match w.runs i with
      | none => some { w.become i ⟨random, none⟩ with produced := random :: w.produced }
      | some _ => none
  | .create i =>
      match w.runs i with
      | some ⟨random, none⟩ => some { w.become i ⟨random, some 0⟩ with file := some [] }
      | _ => none
  | .write i k =>
      match w.runs i with
      | some ⟨random, some written⟩ =>
          if written + k ≤ 64 then
            some
              { w.become i ⟨random, some (written + k)⟩ with
                file := some (Files.writeAt (Char.ofNat 0) (w.file.getD []) written
                  (((tokenOf random).drop written).take k)) }
          else none
      | _ => none
  | .request _ => some w

/-- The runs of `generate-token` and the requests, as a machine. -/
def machine : Machine TokenWorld TokenEvent := ⟨next⟩

/-- The router is entered only with a complete token of some run. -/
def OnlyTokens (config : Config) (w : TokenWorld) (e : TokenEvent) (_ : TokenWorld) : Prop :=
  match e with
  | .request cookies => entersRouter config w.file cookies = true →
      ∃ random ∈ w.produced, cookie cookies snapwebCookieName = some (tokenOf random)
  | _ => True

/-- A fragment of a token: fewer characters than it has, all from the alphabet. -/
def Fragment (value : List Char) : Prop := value.length < 64 ∧ ∀ c ∈ value, c ∈ alphabet

/-- The cookie is not a fragment, and a write is of a whole token, or finds the file as the run
has left it. -/
def Careful (w : TokenWorld) (e : TokenEvent) (_ : TokenWorld) : Prop :=
  match e with
  | .request cookies => ∀ value, cookie cookies snapwebCookieName = some value → ¬ Fragment value
  | .write i k => ∀ random written, w.runs i = some ⟨random, some written⟩ →
      (written = 0 ∧ k = 64) ∨ w.file = some ((tokenOf random).take written)
  | _ => True

/-! ## The invariant -/

lemma length_tokenOf (random : RandomBytes) : (tokenOf random).length = 64 :=
  (List.length_map _).trans random.property

lemma length_alphabet : alphabet.length = 62 := by decide

lemma mem_alphabet_of_mem_tokenOf {random : RandomBytes} {c : Char} (h : c ∈ tokenOf random) :
    c ∈ alphabet := by
  obtain ⟨x, -, rfl⟩ := List.mem_map.mp h
  have hlt : x.toNat % alphabet.length < alphabet.length := by
    refine Nat.mod_lt _ ?_
    rw [length_alphabet]
    decide
  rw [List.getD_eq_getElem _ _ hlt]
  exact List.getElem_mem hlt

/-- The file holds the beginning of a token, and every run's token is among those produced. -/
structure Inv (w : TokenWorld) : Prop where
  file : ∀ content, w.file = some content → ∃ random ∈ w.produced, content <+: tokenOf random
  runs : ∀ i run, w.runs i = some run → run.random ∈ w.produced

lemma inv_start (old : Option RandomBytes) : Inv (start old) where
  file content h := by
    obtain ⟨random, rfl, rfl⟩ := Option.map_eq_some_iff.mp h
    exact ⟨random, by simp [start], List.prefix_rfl⟩
  runs i run h := by cases h

lemma runs_become_self (w : TokenWorld) (i : ℕ) (run : TokenRun) :
    (w.become i run).runs i = some run :=
  Function.update_self _ _ _

lemma runs_become_ne (w : TokenWorld) {i j : ℕ} (run : TokenRun) (h : j ≠ i) :
    (w.become i run).runs j = w.runs j :=
  Function.update_of_ne h _ _

/-- What holds of all runs still holds when one of them goes on to where it holds. -/
lemma runs_become {w : TokenWorld} {P : TokenRun → Prop} (h : ∀ j run, w.runs j = some run → P run)
    (i : ℕ) {new : TokenRun} (hnew : P new) (j : ℕ) (run : TokenRun)
    (hj : (w.become i new).runs j = some run) : P run := by
  by_cases hij : j = i
  · rw [hij, runs_become_self] at hj
    cases hj
    exact hnew
  · rw [runs_become_ne w new hij] at hj
    exact h j run hj

/-- A careful write leaves the beginning of the token that is written. -/
lemma Inv.prefix_writeAt {w : TokenWorld} (h : Inv w) {random : RandomBytes} {written k : ℕ}
    (hk : written + k ≤ 64)
    (hcareful : (written = 0 ∧ k = 64) ∨ w.file = some ((tokenOf random).take written)) :
    Files.writeAt (Char.ofNat 0) (w.file.getD []) written (((tokenOf random).drop written).take k)
      <+: tokenOf random := by
  rcases hcareful with ⟨rfl, rfl⟩ | hfile
  · -- the whole token: what was there is no longer than it
    have hlen : (w.file.getD []).length ≤ (tokenOf random).length := by
      rw [length_tokenOf]
      cases hold : w.file with
      | none => exact Nat.zero_le _
      | some content =>
          obtain ⟨old, -, hpre⟩ := h.file content hold
          exact length_tokenOf old ▸ hpre.length_le
    rw [List.drop_zero, List.take_of_length_le (length_tokenOf random).le,
      Files.writeAt_whole _ hlen]
  · rw [hfile, Option.getD_some, Files.writeAt_take _ (by rw [length_tokenOf]; exact hk)]
    exact List.take_prefix _ _

/-- One step keeps the invariant, if it is careful. -/
lemma Inv.next {w w' : TokenWorld} {e : TokenEvent} (h : Inv w) (hs : machine.next w e = some w')
    (hcareful : w.Careful e w') : Inv w' := by
  cases e with
  | generate i random =>
      simp only [machine, TokenWorld.next] at hs
      split at hs
      · cases hs
        refine ⟨fun content hc => ?_, ?_⟩
        · obtain ⟨old, hold, hpre⟩ := h.file content hc
          exact ⟨old, List.mem_cons_of_mem _ hold, hpre⟩
        · exact runs_become (P := fun run => run.random ∈ random :: w.produced)
            (fun j run hj => List.mem_cons_of_mem _ (h.runs j run hj)) i List.mem_cons_self
      · cases hs
  | create i =>
      simp only [machine, TokenWorld.next] at hs
      split at hs
      · next random hi =>
          cases hs
          have hrandom := h.runs i _ hi
          refine ⟨fun content hc => ?_,
            runs_become (P := fun run => run.random ∈ w.produced) h.runs i hrandom⟩
          cases hc
          exact ⟨random, hrandom, List.nil_prefix⟩
      · cases hs
  | write i k =>
      simp only [machine, TokenWorld.next] at hs
      split at hs
      · next random written hi =>
          split_ifs at hs with hk
          cases hs
          have hrandom := h.runs i _ hi
          refine ⟨fun content hc => ?_,
            runs_become (P := fun run => run.random ∈ w.produced) h.runs i hrandom⟩
          cases hc
          exact ⟨random, hrandom, h.prefix_writeAt hk (hcareful random written hi)⟩
      · cases hs
  | request cookies =>
      cases hs
      exact h

lemma simpleCookieCheck_eq_true {token : Option (List Char)} {cookies : List (String × List Char)}
    (h : simpleCookieCheck token cookies = true) :
    ∃ value, cookie cookies snapwebCookieName = some value ∧ token = some value := by
  rcases hcookie : cookie cookies snapwebCookieName with _ | value <;> cases token with
  | none => simp [simpleCookieCheck, hcookie] at h
  | some token => simp_all [simpleCookieCheck]

/-- Where the invariant holds, only a token or a fragment lets a request through. -/
lemma Inv.onlyTokens {config : Config} (hconfig : config.disableAccessToken = false)
    {w w' : TokenWorld} {e : TokenEvent} (h : Inv w) (hcareful : w.Careful e w') :
    w.OnlyTokens config e w' := by
  cases e with
  | request cookies =>
      intro henters
      rw [entersRouter, hconfig, Bool.false_or] at henters
      obtain ⟨value, hvalue, hfile⟩ := simpleCookieCheck_eq_true henters
      obtain ⟨random, hrandom, hpre⟩ := h.file value hfile
      refine ⟨random, hrandom, ?_⟩
      have hwhole : (tokenOf random).length ≤ value.length := by
        by_contra hshort
        refine hcareful value hvalue ⟨by rw [length_tokenOf] at hshort; omega, fun c hc => ?_⟩
        exact mem_alphabet_of_mem_tokenOf (hpre.subset hc)
      rw [hvalue, hpre.eq_of_length_le hwhole]
  | _ => trivial

/-! ## Every fragment lets a request through -/

/-- Random bytes whose token begins with a given text over the alphabet. -/
def randomFor (value : List Char) : List UInt8 :=
  value.map (fun c => UInt8.ofNat (alphabet.idxOf c)) ++ List.replicate (64 - value.length) 0

lemma length_randomFor {value : List Char} (h : Fragment value) : (randomFor value).length = 64 := by
  have := h.1
  rw [randomFor, List.length_append, List.length_map, List.length_replicate]
  omega

/-- Every fragment is the beginning of a token. -/
lemma prefix_tokenOf_randomFor {value : List Char} (h : Fragment value) :
    value <+: tokenOf ⟨randomFor value, length_randomFor h⟩ := by
  have hback : ∀ c ∈ value,
      alphabet.getD ((UInt8.ofNat (alphabet.idxOf c)).toNat % alphabet.length) '0' = c := by
    intro c hc
    have hidx : alphabet.idxOf c < alphabet.length := List.idxOf_lt_length_of_mem (h.2 c hc)
    have hbyte : (UInt8.ofNat (alphabet.idxOf c)).toNat = alphabet.idxOf c := by
      rw [UInt8.toNat_ofNat']
      rw [length_alphabet] at hidx
      omega
    rw [hbyte, Nat.mod_eq_of_lt hidx, List.getD_eq_getElem _ _ hidx, List.getElem_idxOf]
  have hmap : generateToken (value.map fun c => UInt8.ofNat (alphabet.idxOf c)) = value := by
    rw [generateToken, List.map_map]
    exact (List.map_congr_left hback).trans (List.map_id value)
  refine ⟨generateToken (List.replicate (64 - value.length) 0), ?_⟩
  nth_rewrite 1 [← hmap]
  simp only [tokenOf, generateToken, randomFor, List.map_append]

/-- A run of `generate-token` has written the value when a request with it as its cookie comes. -/
def readInBetween (value : List Char) (random : RandomBytes) : List TokenEvent :=
  [.generate 0 random, .create 0, .write 0 value.length]

/-- `readInBetween` is careful, and leaves the value in the file. -/
lemma readInBetween_spec (old : Option RandomBytes) {value : List Char} {random : RandomBytes}
    (hlen : value.length ≤ 64) (hpre : value <+: tokenOf random) :
    machine.Along Careful (start old) (readInBetween value random) ∧
      ∃ w, machine.exec (start old) (readInBetween value random) = some w ∧ w.file = some value ∧
        w.produced = random :: old.toList := by
  let w₁ : TokenWorld :=
    { (start old).become 0 ⟨random, none⟩ with produced := random :: old.toList }
  let w₂ : TokenWorld := { w₁.become 0 ⟨random, some 0⟩ with file := some [] }
  let w₃ : TokenWorld := { w₂.become 0 ⟨random, some (0 + value.length)⟩ with file := some value }
  have hgenerate : machine.next (start old) (.generate 0 random) = some w₁ := rfl
  have hcreate : machine.next w₁ (.create 0) = some w₂ := rfl
  have hwritten : Files.writeAt (Char.ofNat 0) [] 0 (((tokenOf random).drop 0).take value.length)
      = value := by
    have htake : Files.writeAt (Char.ofNat 0) ((tokenOf random).take 0) 0
        (((tokenOf random).drop 0).take value.length) = (tokenOf random).take (0 + value.length) :=
      Files.writeAt_take _ (by rw [length_tokenOf]; omega)
    rw [List.take_zero, Nat.zero_add] at htake
    rw [htake]
    exact (List.prefix_iff_eq_take.mp hpre).symm
  have hwrite : machine.next w₂ (.write 0 value.length) = some w₃ := by
    change (if 0 + value.length ≤ 64 then some _ else none) = some w₃
    rw [if_pos (by omega)]
    exact congrArg (fun content => some { w₃ with file := some content }) hwritten
  refine ⟨fun w hw => ?_, w₃, ?_, rfl, rfl⟩
  · cases hgenerate.symm.trans hw
    refine ⟨trivial, fun w hw => ?_⟩
    cases hcreate.symm.trans hw
    refine ⟨trivial, fun w hw => ⟨fun random' written hrun => .inr ?_, trivial⟩⟩
    cases (runs_become_self w₁ 0 ⟨random, some 0⟩).symm.trans hrun
    rfl
  · exact Machine.exec_cons_eq_some.mpr ⟨w₁, hgenerate, Machine.exec_cons_eq_some.mpr
      ⟨w₂, hcreate, Machine.exec_cons_eq_some.mpr ⟨w₃, hwrite, rfl⟩⟩⟩

/-- **Who enters the router.**  Let access tokens be enabled.  In every run in which no request has
a fragment of a token as its cookie, and no part of a token is written over something else, the
router is entered only with a complete token that `generate-token` has produced.  And every
fragment is a cookie that enters the router in some run, one run of `generate-token` being under
way. -/
theorem router_entered_only_with_token (config : Config) (old : Option RandomBytes) :
    (∀ es, machine.Along Careful (start old) es →
      machine.Along (OnlyTokens { config with disableAccessToken := false }) (start old) es) ∧
    ∀ value, Fragment value → ∃ es, machine.Along Careful (start old) es ∧
      ¬ machine.Along (OnlyTokens { config with disableAccessToken := false }) (start old)
        (es ++ [.request [(snapwebCookieName, value)]]) := by
  refine ⟨fun es hes => ?_, fun value hvalue => ?_⟩
  · refine Machine.Along.of_invariant (I := Inv) ?_ ?_ (inv_start old) hes
    · exact fun w e w' hI hnext hcareful => hI.next hnext hcareful
    · exact fun w e w' hI hnext hcareful => hI.onlyTokens rfl hcareful
  · obtain ⟨hcareful, w, hexec, hfile, hproduced⟩ :=
      readInBetween_spec old hvalue.1.le (prefix_tokenOf_randomFor hvalue)
    refine ⟨_, hcareful, fun h => ?_⟩
    obtain ⟨honly, -⟩ := (Machine.along_append h).2 w hexec w rfl
    have hcookie : cookie [(snapwebCookieName, value)] snapwebCookieName = some value := by
      simp [cookie]
    obtain ⟨random, -, htoken⟩ := honly (by
      simp [entersRouter, simpleCookieCheck, hcookie, hfile])
    rw [hcookie, Option.some_inj] at htoken
    have hshort := hvalue.1
    rw [htoken, length_tokenOf] at hshort
    exact absurd hshort (by decide)

/-- The random bytes of a run. -/
def zeroBytes : RandomBytes := ⟨List.replicate 64 0, List.length_replicate⟩

/-- Between truncating and writing, the empty cookie enters the router. -/
theorem router_entered_with_empty_cookie :
    ¬ ∀ (config : Config) (old : Option RandomBytes) (es : List TokenEvent),
      config.disableAccessToken = false → machine.Along (OnlyTokens config) (start old) es := by
  intro h
  have hlast := (h {} (some zeroBytes) ([.generate 0 zeroBytes, .create 0] ++
    [.request [(snapwebCookieName, [])]]) rfl).last (by decide) (by decide)
  obtain ⟨random, -, htoken⟩ := hlast (by decide)
  have hlen := congrArg (fun value => (value.getD []).length) htoken
  simp only [Option.getD_some, length_tokenOf] at hlen
  exact absurd hlen (by decide)

end TokenWorld

end Snapweb
