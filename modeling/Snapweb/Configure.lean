import Snapweb.Config

/-!
# The configure hook

`hooks/configure` writes `settings.json` for `ReadConfig`: it loads the file in Python, sets the two
flags that `snapctl` knows of, and writes what it then has.  Python's dictionaries tell keys of
different case apart, and have a key in its first place with its last value; and a file that Python
cannot load is replaced, though Go may read it.

* `configure_spec` — when `ReadConfig` gives the flags as they were asked for, and everything else
  as it was before.
* `configure_other_case` — a file that has the flag under a key of another case.
-/

namespace Snapweb

/-! ## The hook -/

/-- White space, as `str.strip` has it. -/
def isSpace (c : Char) : Bool :=
  let n := c.toNat
  (9 ≤ n && n ≤ 13) || (28 ≤ n && n ≤ 32) || n == 0x85 || n == 0xA0 || n == 0x1680 ||
    (0x2000 ≤ n && n ≤ 0x200A) || n == 0x2028 || n == 0x2029 || n == 0x202F || n == 0x205F ||
    n == 0x3000

/-- `str.strip`. -/
def strip (s : String) : String :=
  String.ofList ((s.toList.dropWhile isSpace).reverse.dropWhile isSpace).reverse

/-- A text that both take for a value: Python has its objects as dictionaries, and writes for a number
that it has read what `number` says. -/
def SettingsFile.ofValue (number : Numeral → Numeral) (v : JSON Numeral) : SettingsFile :=
  .text (if v.all Numeral.isJSON then some v else none) (some (v.load number))

/-- The settings that are loaded: none if the file cannot be. -/
def loadSettings : SettingsFile → JSON Numeral
  | .missing => .object []
  | .text _ python => python.getD (.object [])

/-- `validate_bool_with_default`. -/
def validateBoolWithDefault (value : String) (default : Bool) : Bool :=
  if value = "true" then true else if value = "false" then false else default

/-- An item of the settings is set.  Where they are not a dictionary this raises an exception, which
is printed. -/
def setItem (key : String) (b : Bool) : JSON Numeral → JSON Numeral
  | .object ms => .object (Members.insert key (.bool b) ms)
  | settings => settings

/-- A flag is set to what a query of `snapctl` has written, if it has not failed. -/
def setFlag (key : String) (stdout : Option String) (settings : JSON Numeral) : JSON Numeral :=
  match stdout with
  | none => settings
  | some stdout => setItem key (validateBoolWithDefault (strip stdout) false) settings

/-- The hook, with what the two queries have written. -/
def configure (file : SettingsFile) (disableAccessToken disableHTTPS : Option String) : SettingsFile :=
  .written (setFlag "disableHttps" disableHTTPS
    (setFlag "disableAccessToken" disableAccessToken (loadSettings file)))

/-! ## What it is to do -/

/-- There is no file that can be used, or the file has an object that `ReadConfig` accepts.  Of Python it
is taken that what it has for `null` is not something else for Go, and that a dictionary has the key of a
flag once. -/
def SettingsFile.Usual (env : ConfigEnv) : SettingsFile → Prop
  | .missing => True
  | .text go python =>
      (go = none ∨ ∃ ms, go = some (.object ms) ∧ (readConfig env (.text go python)).2 = none) ∧
        python ≠ some .null ∧
        ∀ ms, python = some (.object ms) → (ms.map Prod.fst).count "disableAccessToken" ≤ 1 ∧
          (ms.map Prod.fst).count "disableHttps" ≤ 1

/-- There is no error, the flags are set exactly if `true` was asked for, and the other settings are
what they were, or the defaults. -/
def Configured (before : Config) (disableAccessToken disableHTTPS : String)
    (after : Config × Option Error) : Prop :=
  after =
    ({ before with
        disableAccessToken := decide (strip disableAccessToken = "true")
        disableHTTPS := decide (strip disableHTTPS = "true") }, none)

/-- Python has the settings as Go does: what it writes besides the flags is valid, no key that stands for
a flag comes after the flag's own one with another value, and the other settings are those that Go
reads in the file. -/
structure LoadedAlike (before : Config) (disableAccessToken disableHTTPS : Bool)
    (ms : List (String × JSON Numeral)) : Prop where
  valid : ∀ m ∈ ms, m.1 ≠ "disableAccessToken" → m.1 ≠ "disableHttps" →
    m.2.all Numeral.isJSON = true ∧ Taken m
  disableAccessToken : flagAfter .disableAccessToken disableAccessToken
    (Members.after "disableAccessToken" ms) = disableAccessToken
  disableHTTPS : flagAfter .disableHTTPS disableHTTPS (Members.after "disableHttps" ms) = disableHTTPS
  disableIPFilter : flagAfter .disableIPFilter false ms = before.disableIPFilter
  allowNetworks : listAfter .allowNetworks ms = before.allowNetworks
  allowInterfaces : listAfter .allowInterfaces ms = before.allowInterfaces

/-! ## The settings with the flags -/

section Flags

variable {α : Type*} {decode : α → JSON Numeral → Option α} {f : ConfigField} {k k' : String}
  {v : JSON Numeral} {ms : List (String × JSON Numeral)}

lemma flagAfter_cons (f : ConfigField) (b : Bool) (m : String × JSON Numeral)
    (ms : List (String × JSON Numeral)) :
    flagAfter f b (m :: ms) =
      flagAfter f (if configField m.1 = some f then (decodeFlag b m.2).getD b else b) ms :=
  rfl

lemma flagAfter_insert_self (hk : configField k = some f) (b x : Bool) :
    flagAfter f b (Members.insert k (.bool x) ms) = flagAfter f x (Members.after k ms) := by
  induction ms generalizing b with
  | nil =>
      rw [Members.insert, flagAfter_cons, if_pos hk]
      rfl
  | cons m ms ih =>
      rw [Members.insert, Members.after]
      split_ifs with hm
      · rw [flagAfter_cons, if_pos hk]
        rfl
      · rw [flagAfter_cons]
        exact ih _

/-- Another key makes no difference to a field. -/
lemma fieldAfter_insert_ne (hk : configField k ≠ some f) (a : α) :
    fieldAfter decode f a (Members.insert k v ms) = fieldAfter decode f a ms := by
  induction ms generalizing a with
  | nil =>
      rw [Members.insert, fieldAfter_cons, if_neg hk]
  | cons m ms ih =>
      rw [Members.insert]
      split_ifs with hm
      · rw [fieldAfter_cons, fieldAfter_cons, hm, if_neg hk, if_neg hk]
      · rw [fieldAfter_cons, fieldAfter_cons]
        exact ih _

lemma flagAfter_after_insert_ne (hne : k' ≠ k) (hk : configField k' ≠ some f) (b : Bool) :
    flagAfter f b (Members.after k (Members.insert k' v ms))
      = flagAfter f b (Members.after k ms) := by
  induction ms with
  | nil => exact congrArg (flagAfter f b) (if_neg hne)
  | cons m ms ih =>
      rw [Members.insert]
      by_cases hm' : m.1 = k'
      · rw [if_pos hm', Members.after, if_neg hne, Members.after, if_neg (hm' ▸ hne)]
      · rw [if_neg hm', Members.after, Members.after]
        split_ifs with hm
        · exact fieldAfter_insert_ne hk b
        · exact ih

end Flags

/-- The members that the hook writes. -/
def flagged (disableAccessToken disableHTTPS : Bool) (ms : List (String × JSON Numeral)) :
    List (String × JSON Numeral) :=
  Members.insert "disableHttps" (.bool disableHTTPS)
    (Members.insert "disableAccessToken" (.bool disableAccessToken) ms)

lemma configField_disableAccessToken :
    configField "disableAccessToken" = some .disableAccessToken := by decide

lemma configField_disableHttps : configField "disableHttps" = some .disableHTTPS := by decide

/-- The configuration that the members give which the hook writes. -/
lemma configAfter_flagged (b₁ b₂ : Bool) (ms : List (String × JSON Numeral)) :
    (configAfter {} (flagged b₁ b₂ ms)).config =
      { disableAccessToken := flagAfter .disableAccessToken b₁ (Members.after "disableAccessToken" ms)
        disableHTTPS := flagAfter .disableHTTPS b₂ (Members.after "disableHttps" ms)
        disableIPFilter := flagAfter .disableIPFilter false ms
        allowNetworks := listAfter .allowNetworks ms
        allowInterfaces := listAfter .allowInterfaces ms } := by
  have htoken : ∀ f, f ≠ .disableAccessToken → configField "disableAccessToken" ≠ some f := by
    intro f hf h
    exact hf (Option.some.inj (configField_disableAccessToken.symm.trans h)).symm
  have hhttps : ∀ f, f ≠ .disableHTTPS → configField "disableHttps" ≠ some f := by
    intro f hf h
    exact hf (Option.some.inj (configField_disableHttps.symm.trans h)).symm
  have hother : ∀ {α : Type} {decode : α → JSON Numeral → Option α} {f : ConfigField} (a : α),
      f ≠ .disableAccessToken → f ≠ .disableHTTPS →
      fieldAfter decode f a (flagged b₁ b₂ ms) = fieldAfter decode f a ms := by
    intro α decode f a hf hf'
    rw [flagged, fieldAfter_insert_ne (hhttps f hf'), fieldAfter_insert_ne (htoken f hf)]
  have hflag : flagAfter .disableAccessToken false (flagged b₁ b₂ ms)
      = flagAfter .disableAccessToken b₁ (Members.after "disableAccessToken" ms) := by
    rw [flagged, flagAfter, fieldAfter_insert_ne (hhttps .disableAccessToken (by decide))]
    exact flagAfter_insert_self configField_disableAccessToken false b₁
  have hflag' : flagAfter .disableHTTPS false (flagged b₁ b₂ ms)
      = flagAfter .disableHTTPS b₂ (Members.after "disableHttps" ms) := by
    rw [flagged, flagAfter_insert_self configField_disableHttps,
      flagAfter_after_insert_ne (by decide) (htoken .disableHTTPS (by decide))]
  rw [ConfigVar.config, configAfter]
  congr 1
  · exact hother (f := .disableIPFilter) false (by decide) (by decide)
  · exact congrArg StringSlice.elems
      (hother (f := .allowNetworks) ({} : StringSlice) (by decide) (by decide))
  · exact congrArg StringSlice.elems
      (hother (f := .allowInterfaces) ({} : StringSlice) (by decide) (by decide))

/-- The members that the hook writes are valid if the others are, besides the flags. -/
lemma valid_flagged {b₁ b₂ : Bool} {ms : List (String × JSON Numeral)}
    (htoken : (ms.map Prod.fst).count "disableAccessToken" ≤ 1)
    (hhttps : (ms.map Prod.fst).count "disableHttps" ≤ 1) :
    (∀ m ∈ flagged b₁ b₂ ms, m.2.all Numeral.isJSON = true ∧ Taken m) ↔
      ∀ m ∈ ms, m.1 ≠ "disableAccessToken" → m.1 ≠ "disableHttps" →
        m.2.all Numeral.isJSON = true ∧ Taken m := by
  have hflag : ∀ k f b, configField k = some f → (f = .disableAccessToken ∨ f = .disableHTTPS) →
      (JSON.bool b : JSON Numeral).all Numeral.isJSON = true ∧ Taken (k, JSON.bool b) := by
    intro k f b hk hf
    refine ⟨rfl, fun g hg => ?_⟩
    cases hk.symm.trans hg
    rcases hf with rfl | rfl <;> exact rfl
  have hhttps' : ((Members.insert "disableAccessToken" (.bool b₁) ms).map Prod.fst).count
      "disableHttps" ≤ 1 := by
    rw [Members.count_insert_of_ne (by decide)]
    exact hhttps
  constructor
  · intro h m hm hne hne'
    refine h m ?_
    rw [flagged, Members.mem_insert hhttps', Members.mem_insert htoken]
    exact .inr ⟨.inr ⟨hm, hne⟩, hne'⟩
  · intro h m hm
    rw [flagged, Members.mem_insert hhttps', Members.mem_insert htoken] at hm
    rcases hm with rfl | ⟨rfl | ⟨hm, hne⟩, hne'⟩
    · exact hflag _ _ _ configField_disableHttps (.inr rfl)
    · exact hflag _ _ _ configField_disableAccessToken (.inl rfl)
    · exact h m hm hne hne'

/-! ## What `ReadConfig` makes of it -/

/-- An object that is written is read without an error exactly if its members are valid. -/
lemma readConfig_object (env : ConfigEnv) (ms : List (String × JSON Numeral)) (config : Config) :
    readConfig env (.written (.object ms)) = (config, none) ↔
      (∀ m ∈ ms, m.2.all Numeral.isJSON = true ∧ Taken m) ∧ (configAfter {} ms).config = config := by
  rw [SettingsFile.written, readConfig, JSON.all]
  by_cases hnumbers : ∀ m ∈ ms, m.2.all Numeral.isJSON = true
  · rw [if_pos (JSON.allMembers_eq_true.mpr hnumbers), unmarshal]
    by_cases htaken : ∀ m ∈ ms, Taken m
    · simp only [unmarshalMembers_eq_ok htaken, Except.map, Prod.mk.injEq, and_true]
      exact ⟨fun h => ⟨fun m hm => ⟨hnumbers m hm, htaken m hm⟩, h⟩, fun h => h.2⟩
    · obtain ⟨err, herr⟩ := unmarshalMembers_eq_error {} htaken
      simp only [herr, Except.map, Prod.mk.injEq, reduceCtorEq, and_false, false_iff]
      exact fun h => htaken fun m hm => (h.1 m hm).2
  · rw [if_neg fun h => hnumbers (JSON.allMembers_eq_true.mp h), unmarshal]
    simp only [Prod.mk.injEq, reduceCtorEq, and_false, false_iff]
    exact fun h => hnumbers fun m hm => (h.1 m hm).1

/-- The settings have the key of a flag once at most. -/
lemma count_loadSettings {env : ConfigEnv} {file : SettingsFile} (hfile : file.Usual env)
    {ms : List (String × JSON Numeral)} (h : loadSettings file = .object ms) :
    (ms.map Prod.fst).count "disableAccessToken" ≤ 1 ∧
      (ms.map Prod.fst).count "disableHttps" ≤ 1 := by
  cases file with
  | missing =>
      cases h
      simp
  | text go python =>
      cases python with
      | none =>
          cases h
          simp
      | some v =>
          cases h
          exact hfile.2.2 ms rfl

/-- Where the settings are a dictionary, the hook writes it with the flags. -/
lemma configure_of_object {file : SettingsFile} {ms : List (String × JSON Numeral)}
    (h : loadSettings file = .object ms) (out₁ out₂ : String) :
    configure file (some out₁) (some out₂) = .written
      (.object (flagged (decide (strip out₁ = "true")) (decide (strip out₂ = "true")) ms)) := by
  have hvalidate : ∀ value : String, validateBoolWithDefault value false = decide (value = "true") := by
    intro value
    rw [validateBoolWithDefault]
    split_ifs with htrue
    · rw [htrue]
      rfl
    · exact (decide_eq_false htrue).symm
    · exact (decide_eq_false htrue).symm
  rw [configure, h, setFlag, setFlag, hvalidate, hvalidate]
  rfl

/-- A value that is neither an object nor `null` is refused. -/
lemma readConfig_ne_none {env : ConfigEnv} {v : JSON Numeral} (hnull : v ≠ .null)
    (hobject : ∀ ms, v ≠ .object ms) : (readConfig env (.written v)).2 ≠ none := by
  have herror : ∃ err, unmarshal (if v.all Numeral.isJSON then some v else none) = .error err := by
    split_ifs
    · rw [unmarshal]
      · exact ⟨_, rfl⟩
      · simpa using hnull
      · simpa using hobject
    · exact ⟨_, rfl⟩
  obtain ⟨err, herr⟩ := herror
  rw [SettingsFile.written, readConfig, herr]
  exact Option.some_ne_none _

/-- Where the settings are not a dictionary, the hook writes what `ReadConfig` refuses. -/
lemma readConfig_configure_of_not_object {env : ConfigEnv} {file : SettingsFile}
    (hfile : file.Usual env) (h : ∀ ms, loadSettings file ≠ .object ms) (out₁ out₂ : Option String) :
    (readConfig env (configure file out₁ out₂)).2 ≠ none := by
  have hsetFlag : ∀ key out (v : JSON Numeral), (∀ ms, v ≠ .object ms) → setFlag key out v = v := by
    intro key out v hv
    cases out with
    | none => rfl
    | some out =>
        cases v with
        | object ms => exact absurd rfl (hv ms)
        | _ => rfl
  rw [configure, hsetFlag _ _ _ (by rw [hsetFlag _ _ _ h]; exact h), hsetFlag _ _ _ h]
  refine readConfig_ne_none (fun hnull => ?_) h
  cases file with
  | missing => cases hnull
  | text go python =>
      cases python with
      | none => cases hnull
      | some v => exact hfile.2.1 (congrArg some hnull)

/-- **The hook and `ReadConfig`.**  Let `settings.json` be missing, or not valid JSON, or an object
that `ReadConfig` accepts.  After the hook, whatever the two queries have written, `ReadConfig` gives
the flags as they were asked for, and the other settings as before, exactly if Python has loaded
members (or none, where it could not load the file) that it reads alike. -/
theorem configure_spec (env : ConfigEnv) (file : SettingsFile) (hfile : file.Usual env)
    (out₁ out₂ : String) :
    Configured (readConfig env file).1 out₁ out₂
        (readConfig env (configure file (some out₁) (some out₂))) ↔
      ∃ ms, loadSettings file = .object ms ∧
        LoadedAlike (readConfig env file).1 (strip out₁ = "true") (strip out₂ = "true") ms := by
  by_cases hload : ∃ ms, loadSettings file = .object ms
  · obtain ⟨ms, hms⟩ := hload
    obtain ⟨htoken, hhttps⟩ := count_loadSettings hfile hms
    rw [configure_of_object hms, Configured, readConfig_object, valid_flagged htoken hhttps,
      configAfter_flagged, Config.mk.injEq]
    constructor
    · rintro ⟨hvalid, htoken, hhttps, hfilter, hnetworks, hinterfaces⟩
      exact ⟨ms, hms, hvalid, htoken, hhttps, hfilter, hnetworks, hinterfaces⟩
    · rintro ⟨ns, hns, h⟩
      cases hms.symm.trans hns
      exact ⟨h.valid, h.disableAccessToken, h.disableHTTPS, h.disableIPFilter, h.allowNetworks,
        h.allowInterfaces⟩
  · have hne := readConfig_configure_of_not_object hfile (fun ms hms => hload ⟨ms, hms⟩)
      (some out₁) (some out₂)
    refine iff_of_false (fun h => hne (congrArg Prod.snd h)) ?_
    rintro ⟨ms, hms, -⟩
    exact hload ⟨ms, hms⟩

/-! ## A key of another case -/

/-- Where the file is. -/
def settingsEnv : ConfigEnv := ⟨"/var/snap/snapweb/common/settings.json", fun _ => "invalid"⟩

/-- A file with a network, and with a key of something else. -/
def oneNetwork : SettingsFile :=
  .ofValue id (.object [("allowNetworks", .array [.string "10.0.0.0/8"]), ("theme", .string "dark")])

/-- `configure_spec`, of that file: HTTPS is disabled, and the network stays. -/
theorem configure_oneNetwork :
    Configured (readConfig settingsEnv oneNetwork).1 "false\n" "true\n"
      (readConfig settingsEnv (configure oneNetwork (some "false\n") (some "true\n"))) := by
  have husual : oneNetwork.Usual settingsEnv := by
    refine ⟨.inr ⟨_, rfl, rfl⟩, by simp [JSON.load], ?_⟩
    rintro ms ⟨⟩
    decide
  have hvalid : ∀ m ∈ [("allowNetworks", JSON.array [JSON.string (ν := Numeral) "10.0.0.0/8"]),
      ("theme", .string "dark")], m.2.all Numeral.isJSON = true ∧ Taken m := by
    intro m hm
    rcases List.mem_pair.mp hm with rfl | rfl
    · refine ⟨rfl, fun f hf => ?_⟩
      rw [show configField "allowNetworks" = some .allowNetworks by decide] at hf
      cases hf
      rfl
    · refine ⟨rfl, fun f hf => ?_⟩
      rw [show configField "theme" = none by decide] at hf
      cases hf
  exact (configure_spec settingsEnv oneNetwork husual "false\n" "true\n").mpr
    ⟨_, rfl, fun m hm _ _ => hvalid m hm, by decide, by decide, by decide, by decide, by decide⟩

/-- A file that has the flag twice, the second time with a capital letter. -/
def twoCases : SettingsFile :=
  .ofValue id (.object [("disableAccessToken", .bool false), ("DisableAccessToken", .bool true)])

lemma usual_twoCases : twoCases.Usual settingsEnv := by
  refine ⟨.inr ⟨_, rfl, rfl⟩, by simp [JSON.load], ?_⟩
  rintro ms ⟨⟩
  decide

/-- The hook sets the one key, and `ReadConfig` goes by the other: access tokens stay disabled. -/
theorem configure_other_case :
    ¬ ∀ (env : ConfigEnv) (file : SettingsFile) (out₁ out₂ : String),
      file.Usual env → Configured (readConfig env file).1 out₁ out₂
        (readConfig env (configure file (some out₁) (some out₂))) := by
  intro h
  have hafter := h settingsEnv twoCases "false\n" "false\n" usual_twoCases
  have htoken := congrArg (fun r => r.1.disableAccessToken) hafter
  exact absurd htoken (by decide)

end Snapweb
