import Mathlib.Tactic.Lemma
import Snapweb.Core.JSON
import Snapweb.Core.Outcome

/-!
# The configuration

`configuration.go`: what `settings.json` says of access to the server, and how `ReadConfig` reads it.
`json.Unmarshal` takes a member for a field if its key is the field's name but for the case of the
letters; a member that comes later wins, and `null` leaves a flag as it is, and an element of a list as
it was in the array behind the list.

* `unmarshalMembers_eq_ok`, `unmarshalMembers_eq_error` — what the members of an object come to,
  field by field.
-/

namespace Snapweb

/-- The runtime configuration. -/
structure Config where
  disableAccessToken : Bool := false
  disableHTTPS : Bool := false
  disableIPFilter : Bool := false
  allowNetworks : List String := []
  allowInterfaces : List String := []
  deriving DecidableEq, Repr

/-- The fields of `Config`. -/
inductive ConfigField
  | disableAccessToken
  | disableHTTPS
  | disableIPFilter
  | allowNetworks
  | allowInterfaces
  deriving DecidableEq, Repr

namespace ConfigField

/-- The name of a field in JSON. -/
def name : ConfigField → String
  | disableAccessToken => "disableAccessToken"
  | disableHTTPS => "disableHttps"
  | disableIPFilter => "disableIPFilter"
  | allowNetworks => "allowNetworks"
  | allowInterfaces => "allowInterfaces"

/-- All fields, in order. -/
def all : List ConfigField :=
  [disableAccessToken, disableHTTPS, disableIPFilter, allowNetworks, allowInterfaces]

end ConfigField

/-- A letter without its case, as `encoding/json` folds the names of fields: the long s and the
Kelvin sign are letters too. -/
def foldLetter (c : Char) : Char :=
  if c = 'ſ' then 's' else if c = 'K' then 'k' else c.toLower

/-- The names are equal but for the case of the letters. -/
def equalFold (s t : String) : Bool := s.toList.map foldLetter == t.toList.map foldLetter

/-- The field that a key stands for: one of this very name, or else one that has it but for the case
of the letters. -/
def configField (key : String) : Option ConfigField :=
  (ConfigField.all.find? fun f => f.name = key).or
    (ConfigField.all.find? fun f => equalFold f.name key)

/-! ## Reading -/

/-- A number as a file has it: as JSON writes it, or a literal that Python takes besides, such as
`NaN` and `-Infinity`. -/
inductive Numeral
  | json (text : String)
  | python (text : String)
  deriving DecidableEq, Repr

/-- The number is one of JSON. -/
def Numeral.isJSON : Numeral → Bool
  | json _ => true
  | python _ => false

/-- `settings.json`: it is missing (or cannot be read), or it holds a text: what `encoding/json` takes
it for, and what Python's `json` does, `none` where they find it invalid.  Bytes that are no UTF-8, for
one, are replaced by the one and refused by the other. -/
inductive SettingsFile
  | missing
  | text (go python : Option (JSON Numeral))

/-- What Python writes of a value: it is one for Go unless it has a number of Python's own. -/
def SettingsFile.written (v : JSON Numeral) : SettingsFile :=
  .text (if v.all Numeral.isJSON then some v else none) (some v)

/-- What `json.Unmarshal` finds wrong: the text, or the type of a field's value, or of the whole. -/
inductive UnmarshalError
  | invalidText
  | wrongType (field : Option ConfigField)
  deriving DecidableEq, Repr

/-- A value for a flag; `none` if it has the wrong type. -/
def decodeFlag (old : Bool) : JSON Numeral → Option Bool
  | .null => some old
  | .bool b => some b
  | _ => none

/-- A slice of strings: the first `len` elements of the array behind it. -/
structure StringSlice where
  array : List String := []
  len : ℕ := 0

/-- The elements of a slice. -/
def StringSlice.elems (slice : StringSlice) : List String := slice.array.take slice.len

/-- A value for an element of a list; `null` leaves it as it is. -/
def decodeString (old : String) : JSON Numeral → Option String
  | .null => some old
  | .string s => some s
  | _ => none

/-- The array with values for its first elements; what is behind them stays, and what has not been
written is empty. -/
def decodeElements : List String → List (JSON Numeral) → Option (List String)
  | array, [] => some array
  | array, v :: vs =>
      match decodeString (array.headD "") v, decodeElements array.tail vs with
      | some s, some rest => some (s :: rest)
      | _, _ => none

/-- A value for a list; `none` if it has the wrong type. -/
def decodeStrings (old : StringSlice) : JSON Numeral → Option StringSlice
  | .null => some {}
  | .array [] => some {}
  | .array vs => (decodeElements old.array vs).map fun array => ⟨array, vs.length⟩
  | _ => none

/-- The configuration as it is filled in. -/
structure ConfigVar where
  disableAccessToken : Bool := false
  disableHTTPS : Bool := false
  disableIPFilter : Bool := false
  allowNetworks : StringSlice := {}
  allowInterfaces : StringSlice := {}

/-- The configuration that has been filled in. -/
def ConfigVar.config (var : ConfigVar) : Config where
  disableAccessToken := var.disableAccessToken
  disableHTTPS := var.disableHTTPS
  disableIPFilter := var.disableIPFilter
  allowNetworks := var.allowNetworks.elems
  allowInterfaces := var.allowInterfaces.elems

/-- The configuration with a value for a field; `none` if it has the wrong type. -/
def ConfigField.decode (var : ConfigVar) (v : JSON Numeral) : ConfigField → Option ConfigVar
  | disableAccessToken =>
      (decodeFlag var.disableAccessToken v).map fun b => { var with disableAccessToken := b }
  | disableHTTPS => (decodeFlag var.disableHTTPS v).map fun b => { var with disableHTTPS := b }
  | disableIPFilter =>
      (decodeFlag var.disableIPFilter v).map fun b => { var with disableIPFilter := b }
  | allowNetworks =>
      (decodeStrings var.allowNetworks v).map fun l => { var with allowNetworks := l }
  | allowInterfaces =>
      (decodeStrings var.allowInterfaces v).map fun l => { var with allowInterfaces := l }

/-- `json.Unmarshal` of the members of an object.  It goes on after a value of the wrong type, and
returns that error in the end. -/
def unmarshalMembers (var : ConfigVar) : List (String × JSON Numeral) → Except UnmarshalError ConfigVar
  | [] => .ok var
  | (k, v) :: ms =>
      match configField k with
      | none => unmarshalMembers var ms
      | some f =>
          match f.decode var v with
          | none => .error (.wrongType (some f))
          | some var => unmarshalMembers var ms

/-- `json.Unmarshal`, to a `Config`. -/
def unmarshal : Option (JSON Numeral) → Except UnmarshalError Config
  | none => .error .invalidText
  | some .null => .ok {}
  | some (.object ms) => (unmarshalMembers {} ms).map ConfigVar.config
  | some _ => .error (.wrongType none)

/-- Where the file is, and the texts of `encoding/json`'s errors. -/
structure ConfigEnv where
  path : String
  text : UnmarshalError → Error

/-- `ReadConfig`. -/
def readConfig (env : ConfigEnv) : SettingsFile → Config × Option Error
  | .missing => ({}, none)
  | .text go _ =>
      match unmarshal go with
      | .error err =>
          ({}, some ("Invalid configuration file " ++ env.path ++ ": " ++ env.text err))
      | .ok config => (config, none)

/-! ## Field by field -/

/-- The value has the right type for the field. -/
def ConfigField.Takes (v : JSON Numeral) : ConfigField → Prop
  | disableAccessToken => (decodeFlag false v).isSome
  | disableHTTPS => (decodeFlag false v).isSome
  | disableIPFilter => (decodeFlag false v).isSome
  | allowNetworks => (decodeStrings {} v).isSome
  | allowInterfaces => (decodeStrings {} v).isSome

/-- If the key stands for a field, the value has the right type for it. -/
def Taken (m : String × JSON Numeral) : Prop := ∀ f, configField m.1 = some f → f.Takes m.2

/-- What the members leave in a field that is decoded with `decode`, where it was `a` before them. -/
def fieldAfter {α : Type*} (decode : α → JSON Numeral → Option α) (f : ConfigField) (a : α)
    (ms : List (String × JSON Numeral)) : α :=
  ms.foldl (fun a m => if configField m.1 = some f then (decode a m.2).getD a else a) a

/-- The flag that the members leave, where it was `b` before them. -/
def flagAfter (f : ConfigField) (b : Bool) (ms : List (String × JSON Numeral)) : Bool :=
  fieldAfter decodeFlag f b ms

/-- The list that the members leave, where there was none before them. -/
def listAfter (f : ConfigField) (ms : List (String × JSON Numeral)) : List String :=
  (fieldAfter decodeStrings f {} ms).elems

/-- The configuration that the members leave, where it was `var` before them. -/
def configAfter (var : ConfigVar) (ms : List (String × JSON Numeral)) : ConfigVar where
  disableAccessToken := fieldAfter decodeFlag .disableAccessToken var.disableAccessToken ms
  disableHTTPS := fieldAfter decodeFlag .disableHTTPS var.disableHTTPS ms
  disableIPFilter := fieldAfter decodeFlag .disableIPFilter var.disableIPFilter ms
  allowNetworks := fieldAfter decodeStrings .allowNetworks var.allowNetworks ms
  allowInterfaces := fieldAfter decodeStrings .allowInterfaces var.allowInterfaces ms

/-! Whether a value has the right type does not depend on what was there before. -/

lemma decodeFlag_isSome (b b' : Bool) (v : JSON Numeral) :
    (decodeFlag b v).isSome = (decodeFlag b' v).isSome := by
  cases v <;> rfl

lemma decodeString_isSome (s s' : String) (v : JSON Numeral) :
    (decodeString s v).isSome = (decodeString s' v).isSome := by
  cases v <;> rfl

lemma decodeElements_isSome (array array' : List String) (vs : List (JSON Numeral)) :
    (decodeElements array vs).isSome = (decodeElements array' vs).isSome := by
  induction vs generalizing array array' with
  | nil => rfl
  | cons v vs ih =>
      have hv := decodeString_isSome (array.headD "") (array'.headD "") v
      have hvs := ih array.tail array'.tail
      rw [decodeElements, decodeElements]
      cases hs : decodeString (array.headD "") v <;> cases hs' : decodeString (array'.headD "") v <;>
        cases hrest : decodeElements array.tail vs <;>
        cases hrest' : decodeElements array'.tail vs <;> simp_all

lemma decodeStrings_isSome (l l' : StringSlice) (v : JSON Numeral) :
    (decodeStrings l v).isSome = (decodeStrings l' v).isSome := by
  cases v with
  | array vs =>
      cases vs with
      | nil => rfl
      | cons v vs =>
          rw [decodeStrings, decodeStrings, Option.isSome_map, Option.isSome_map]
          · exact decodeElements_isSome _ _ _
          all_goals simp
  | _ => rfl

lemma fieldAfter_cons {α : Type*} (decode : α → JSON Numeral → Option α) (f : ConfigField) (a : α)
    (m : String × JSON Numeral) (ms : List (String × JSON Numeral)) :
    fieldAfter decode f a (m :: ms) =
      fieldAfter decode f (if configField m.1 = some f then (decode a m.2).getD a else a) ms :=
  rfl

/-- A value of the right type is decoded, and its field alone changes. -/
lemma ConfigField.decode_of_takes (var : ConfigVar) {k : String} {v : JSON Numeral} {f : ConfigField}
    (hk : configField k = some f) (h : f.Takes v) (ms : List (String × JSON Numeral)) :
    ∃ var', f.decode var v = some var' ∧ configAfter var ((k, v) :: ms) = configAfter var' ms := by
  cases f with
  | disableAccessToken | disableHTTPS | disableIPFilter =>
      obtain ⟨b, hb⟩ := Option.isSome_iff_exists.mp ((decodeFlag_isSome _ _ v).trans h)
      refine ⟨_, congrArg (Option.map _) hb, ?_⟩
      simp [configAfter, fieldAfter_cons, hk, hb]
  | allowNetworks | allowInterfaces =>
      obtain ⟨l, hl⟩ := Option.isSome_iff_exists.mp ((decodeStrings_isSome _ _ v).trans h)
      refine ⟨_, congrArg (Option.map _) hl, ?_⟩
      simp [configAfter, fieldAfter_cons, hk, hl]

/-- A value of the wrong type is not decoded. -/
lemma ConfigField.decode_eq_none {var : ConfigVar} {v : JSON Numeral} {f : ConfigField}
    (h : ¬ f.Takes v) : f.decode var v = none := by
  cases f with
  | disableAccessToken | disableHTTPS | disableIPFilter =>
      refine congrArg (Option.map _) (Option.not_isSome_iff_eq_none.mp fun hsome => h ?_)
      exact (decodeFlag_isSome _ _ v).symm.trans hsome
  | allowNetworks | allowInterfaces =>
      refine congrArg (Option.map _) (Option.not_isSome_iff_eq_none.mp fun hsome => h ?_)
      exact (decodeStrings_isSome _ _ v).symm.trans hsome

/-- Members of the right types. -/
lemma unmarshalMembers_eq_ok {var : ConfigVar} {ms : List (String × JSON Numeral)}
    (h : ∀ m ∈ ms, Taken m) : unmarshalMembers var ms = .ok (configAfter var ms) := by
  induction ms generalizing var with
  | nil => rfl
  | cons m ms ih =>
      obtain ⟨k, v⟩ := m
      obtain ⟨hm, hms⟩ := List.forall_mem_cons.mp h
      rw [unmarshalMembers]
      cases hk : configField k with
      | none => simp [ih hms, configAfter, fieldAfter_cons, hk]
      | some f =>
          obtain ⟨var', hdecode, hafter⟩ := ConfigField.decode_of_takes var hk (hm f hk) ms
          simp only [hdecode, ih hms, hafter]

/-- A member of the wrong type. -/
lemma unmarshalMembers_eq_error (var : ConfigVar) {ms : List (String × JSON Numeral)}
    (h : ¬ ∀ m ∈ ms, Taken m) : ∃ err, unmarshalMembers var ms = .error err := by
  induction ms generalizing var with
  | nil => exact absurd nofun h
  | cons m ms ih =>
      obtain ⟨k, v⟩ := m
      rw [unmarshalMembers]
      cases hk : configField k with
      | none =>
          refine ih _ fun hms => h (List.forall_mem_cons.mpr ⟨fun f hf => ?_, hms⟩)
          cases hk.symm.trans hf
      | some f =>
          by_cases htakes : f.Takes v
          · obtain ⟨var', hdecode, -⟩ := ConfigField.decode_of_takes var hk htakes ms
            simp only [hdecode]
            refine ih _ fun hms => h (List.forall_mem_cons.mpr ⟨fun g hg => ?_, hms⟩)
            cases hk.symm.trans hg
            exact htakes
          · refine ⟨.wrongType (some f), ?_⟩
            simp only [ConfigField.decode_eq_none htakes]

/-- A list that comes twice: what is `null` in the second is as it was in the first. -/
example : listAfter .allowNetworks
    [("allowNetworks", .array [.string "10.0.0.0/8", .string "192.168.0.0/16"]),
      ("allowNetworks", .array [.string "172.16.0.0/12"]), ("allowNetworks", .array [.null, .null])]
      = ["172.16.0.0/12", "192.168.0.0/16"] := by decide

end Snapweb
