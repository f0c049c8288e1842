import Mathlib.Data.Int.Notation
import Snapweb.Core.JSONText

/-!
# Writing JSON values

A value as a text without white space between its parts.  A reading goes on wherever a value is due,
and ends with the value on what is open around it (`Scanner.Reads`); a number ends only with what
comes after it.

* `JSON.parse_print` — what is written is parsed.
* `JSON.isNumber_toString` — whole numbers are written as numbers.
-/

namespace JSON

/-- A character of a string, as it is written between quotes. -/
def quoteChar (c : Char) : List Char :=
  if c = '"' || c = '\\' then ['\\', c]
  else if c.toNat < 0x20 then
    ['\\', 'u', '0', '0', Nat.digitChar (c.toNat / 16), Nat.digitChar (c.toNat % 16)]
  else [c]

/-- A string, after its opening quote. -/
def quoteRest (s : String) : List Char := s.toList.flatMap quoteChar ++ ['"']

mutual

/-- A value as a text without white space between its parts. -/
def print : JSON String → List Char
  | .null => ['n', 'u', 'l', 'l']
  | .bool true => ['t', 'r', 'u', 'e']
  | .bool false => ['f', 'a', 'l', 's', 'e']
  | .number text => text.toList
  | .string s => '"' :: quoteRest s
  | .array [] => ['[', ']']
  | .array (v :: vs) => '[' :: (print v ++ moreValues vs)
  | .object [] => ['{', '}']
  | .object ((k, v) :: ms) => '{' :: '"' :: (quoteRest k ++ ':' :: (print v ++ moreMembers ms))

/-- The elements of an array after the first one. -/
def moreValues : List (JSON String) → List Char
  | [] => [']']
  | v :: vs => ',' :: (print v ++ moreValues vs)

/-- The members of an object after the first one. -/
def moreMembers : List (String × JSON String) → List Char
  | [] => ['}']
  | (k, v) :: ms => ',' :: '"' :: (quoteRest k ++ ':' :: (print v ++ moreMembers ms))

end

/-- A number goes on with a text. -/
def Digits.run : Digits → List Char → Option Digits
  | d, [] => some d
  | d, c :: cs => (d.next c).bind fun d' => Digits.run d' cs

/-- The text is a number. -/
def isNumber (text : String) : Bool :=
  match text.toList with
  | [] => false
  | c :: cs => ((Digits.start c).bind fun d => d.run cs).any Digits.final

/-! ## The texts of whole numbers -/

lemma Digits.run_append (d : Digits) (cs ds : List Char) :
    d.run (cs ++ ds) = (d.run cs).bind fun d' => d'.run ds := by
  induction cs generalizing d with
  | nil => rfl
  | cons c cs ih =>
      rw [List.cons_append, run, run, Option.bind_assoc]
      exact Option.bind_congr fun d' _ => ih d'

/-- The digits of a positive number: the first is no zero. -/
lemma Digits.run_toDigits {n : ℕ} (hpos : 0 < n) : ∃ c cs, Nat.toDigits 10 n = c :: cs ∧ c ≠ '-' ∧
    c ≠ '0' ∧ c.isDigit = true ∧ Digits.int.run cs = some .int := by
  induction n using Nat.strongRecOn with
  | ind n ih =>
      by_cases hn : n < 10
      · have hdigit : ∀ n, 0 < n → n < 10 → n.digitChar ≠ '-' ∧ n.digitChar ≠ '0' ∧
            n.digitChar.isDigit = true := by
          intro n hpos hn
          have hcheck : ∀ n < 10, n = 0 ∨ (Nat.digitChar n ≠ '-' ∧ Nat.digitChar n ≠ '0' ∧
            (Nat.digitChar n).isDigit = true) := by decide
          rcases hcheck n hn with rfl | h
          · omega
          · exact h
        obtain ⟨hminus, hzero, hisDigit⟩ := hdigit n hpos hn
        exact ⟨n.digitChar, [], Nat.toDigits_of_lt_base hn, hminus, hzero, hisDigit, rfl⟩
      · obtain ⟨c, cs, hcs, hminus, hzero, hisDigit, hrun⟩ := ih (n / 10) (by omega) (by omega)
        refine ⟨c, cs ++ [(n % 10).digitChar], ?_, hminus, hzero, hisDigit, ?_⟩
        · rw [Nat.toDigits_of_base_le (by decide) (by omega), hcs, List.cons_append]
        · have hlast : ∀ n < 10, (Nat.digitChar n).isDigit = true := by decide
          rw [Digits.run_append, hrun, Option.bind_some]
          simp [Digits.run, Digits.next, hlast (n % 10) (Nat.mod_lt n (by decide))]

/-- A whole number is written as a number. -/
lemma isNumber_toString (z : ℤ) : isNumber (toString z) = true := by
  rw [Int.toString_eq_repr, Int.repr_eq_if]
  split_ifs with hz
  · rcases Nat.eq_zero_or_pos z.toNat with hzero | hpos
    · rw [hzero]
      decide
    · obtain ⟨c, cs, hcs, hminus, hne, hisDigit, hrun⟩ := Digits.run_toDigits hpos
      simp [isNumber, Nat.toList_repr, hcs, Digits.start, hminus, hne, hisDigit, hrun, Digits.final]
  · obtain ⟨c, cs, hcs, hminus, hne, hisDigit, hrun⟩ :=
      Digits.run_toDigits (n := (-z).toNat) (by omega)
    simp [isNumber, Nat.toList_repr, hcs, Digits.start, Digits.run, Digits.next, hne, hisDigit, hrun,
      Digits.final]

/-! ## What is written is read -/

namespace Scanner

lemma run_append (s : Scanner) (cs ds : List Char) :
    run s (cs ++ ds) = (run s cs).bind fun s' => run s' ds := by
  induction cs generalizing s with
  | nil => rfl
  | cons c cs ih =>
      rw [List.cons_append, run, run, Option.bind_assoc]
      exact Option.bind_congr fun s' _ => ih s'

lemma run_singleton (s : Scanner) (c : Char) : run s [c] = step s c := Option.bind_fun_some _

/-- How a character is kept that is read from its escaped form. -/
def itemOf (c : Char) : Item := if c.toNat < 0x20 then .unit c.toNat else .char c

lemma hexDigit_digitChar : ∀ n < 16, hexDigit (Nat.digitChar n) = some n := by decide

lemma run_quoteChar (st : List Frame) (items : List Item) (c : Char) :
    run ⟨st, .string items⟩ (quoteChar c) = some ⟨st, .string (items ++ [itemOf c])⟩ := by
  rw [quoteChar, itemOf]
  by_cases hquote : c = '"' ∨ c = '\\'
  · rcases hquote with rfl | rfl <;> rfl
  · obtain ⟨hne, hne'⟩ := not_or.mp hquote
    have hquote' : ¬ (c = '"' || c = '\\') = true := by simpa using hquote
    rw [if_neg hquote']
    by_cases hcontrol : c.toNat < 0x20
    · have hlow := hexDigit_digitChar (c.toNat % 16) (Nat.mod_lt _ (by decide))
      have hhigh := hexDigit_digitChar (c.toNat / 16) (by omega)
      have hzero : hexDigit '0' = some 0 := rfl
      have hn : 0 * 0x1000 + 0 * 0x100 + c.toNat / 16 * 0x10 + c.toNat % 16 = c.toNat := by omega
      rw [if_pos hcontrol, if_pos hcontrol]
      simp only [run, step, Option.bind_some, hzero, hlow, hhigh, Option.map_some, List.nil_append,
        List.cons_append, hn, if_true, Char.reduceEq, if_false]
    · rw [if_neg hcontrol, if_neg hcontrol]
      simp only [run, step, hne, hne', hcontrol, if_false, Option.bind_some]

lemma run_quoted (st : List Frame) (items : List Item) (cs : List Char) :
    run ⟨st, .string items⟩ (cs.flatMap quoteChar) = some ⟨st, .string (items ++ cs.map itemOf)⟩ := by
  induction cs generalizing items with
  | nil => rw [List.map_nil, List.append_nil]; rfl
  | cons c cs ih =>
      rw [List.flatMap_cons, run_append, run_quoteChar, Option.bind_some, ih, List.map_cons,
        List.append_assoc]
      rfl

/-- The code unit of a control character is the character. -/
lemma unquote_map_itemOf (cs : List Char) : unquote (cs.map itemOf) = cs := by
  rw [unquote]
  induction cs with
  | nil => rfl
  | cons c cs ih =>
      rw [List.map_cons, itemOf]
      split_ifs with hcontrol
      · have hhigh : isHighSurrogate c.toNat = false := by
          rw [isHighSurrogate, Bool.and_eq_false_iff]
          exact .inl (decide_eq_false (by omega))
        have hlow : isLowSurrogate c.toNat = false := by
          rw [isLowSurrogate, Bool.and_eq_false_iff]
          exact .inl (decide_eq_false (by omega))
        rw [unquoteAfter, hhigh, if_neg Bool.false_ne_true, rune, hlow, if_neg Bool.false_ne_true, ih,
          Char.ofNat_toNat]
      · rw [unquoteAfter, ih]

/-- A string is read. -/
lemma run_quoteRest (st : List Frame) (s : String) :
    run ⟨st, .string []⟩ (quoteRest s) = endString s st := by
  have hend : step ⟨st, .string (s.toList.map itemOf)⟩ '"' = endString s st := by
    change endString (String.ofList (unquote (s.toList.map itemOf))) st = _
    rw [unquote_map_itemOf, String.ofList_toList]
  rw [quoteRest, run_append, run_quoted, Option.bind_some, List.nil_append, run_singleton, hend]

lemma run_number (st : List Frame) {d d' : Digits} (text : List Char) {cs : List Char}
    (h : d.run cs = some d') :
    run ⟨st, .number d text⟩ cs = some ⟨st, .number d' (text ++ cs)⟩ := by
  induction cs generalizing d text with
  | nil =>
      cases h
      rw [List.append_nil]
      rfl
  | cons c cs ih =>
      obtain ⟨d₁, hd₁, hrest⟩ := Option.bind_eq_some_iff.mp h
      rw [run, step]
      simp only [hd₁, Option.bind_some]
      rw [ih _ hrest, List.append_assoc]
      rfl

/-- The machine is where the value has come to its end, or at the end of a number that is the
value. -/
inductive EndsAs : Scanner → Scanner → Prop
  | same (s : Scanner) : EndsAs s s
  | number {st : List Frame} {d : Digits} {text : List Char} {s : Scanner} (hfinal : d.final = true)
      (hs : complete (.number (String.ofList text)) st = some s) : EndsAs ⟨st, .number d text⟩ s

/-- What comes after a value in an array or an object. -/
def isDelimiter (c : Char) : Bool := c = ',' || c = ']' || c = '}'

lemma next_eq_none {d : Digits} {c : Char} (h : isDelimiter c = true) : d.next c = none := by
  simp only [isDelimiter, Bool.or_eq_true, decide_eq_true_eq, or_assoc] at h
  rcases h with rfl | rfl | rfl <;> cases d <;> rfl

lemma step_of_complete {v : JSON String} {st : List Frame} {s : Scanner}
    (h : complete v st = some s) (c : Char) : step s c = afterValue s c := by
  rcases st with _ | ⟨_ | _ | _, st⟩ <;> cases h <;> rfl

/-- A number ends where something else begins. -/
lemma EndsAs.step {s' s : Scanner} (h : EndsAs s' s) {c : Char} (hc : isDelimiter c = true) :
    step s' c = step s c := by
  cases h with
  | same => rfl
  | number hfinal hs =>
      rw [Scanner.step]
      simp only [next_eq_none hc, hfinal, if_true, hs, Option.bind_some]
      exact (step_of_complete hs c).symm

lemma EndsAs.eof {s' : Scanner} {v : JSON String} (h : EndsAs s' ⟨[], .done v⟩) :
    eof s' = some v := by
  cases h with
  | same => rfl
  | @number st d text _ hfinal hs =>
      rcases st with _ | ⟨_ | _ | _, st⟩ <;> cases hs
      simp only [Scanner.eof, hfinal, List.isEmpty_nil, Bool.and_self, if_true]

/-- The text is read as the value, wherever a value is due. -/
structure Reads (text : List Char) (v : JSON String) : Prop where
  head : ∃ c cs, text = c :: cs ∧ isSpace c = false ∧ c ≠ ']'
  run : ∀ {st s}, complete v st = some s → ∃ s', run ⟨st, .value⟩ text = some s' ∧ EndsAs s' s

/-- A text that is read as a value to its last character. -/
lemma reads_of_run {c : Char} {cs : List Char} {v : JSON String} (hspace : isSpace c = false)
    (hne : c ≠ ']') (hrun : ∀ st, run ⟨st, .value⟩ (c :: cs) = complete v st) : Reads (c :: cs) v :=
  ⟨⟨c, cs, rfl, hspace, hne⟩, fun hs => ⟨_, (hrun _).trans hs, .same _⟩⟩

/-- A string that may be a value is no key. -/
lemma reads_string (s : String) : Reads ('"' :: quoteRest s) (.string s) := by
  refine ⟨⟨'"', quoteRest s, rfl, rfl, by decide⟩, fun {st s'} hs => ⟨s', ?_, .same s'⟩⟩
  have hopen : step ⟨st, .value⟩ '"' = some ⟨st, .string []⟩ := rfl
  rw [run, hopen, Option.bind_some, run_quoteRest, ← hs]
  rcases st with _ | ⟨_ | _ | _, st⟩
  · rfl
  · rfl
  · cases hs
  · rfl

/-- What begins a number begins a value. -/
lemma beginValue_of_digits (st : List Frame) {c : Char} {d : Digits} (h : Digits.start c = some d) :
    beginValue st c = some ⟨st, .number d [c]⟩ ∧ isSpace c = false ∧ c ≠ ']' := by
  have hc : c = '-' ∨ c.isDigit = true := by
    rw [Digits.start] at h
    split_ifs at h with h₁ h₂ h₃
    · exact .inl h₁
    · exact .inr (h₂ ▸ rfl)
    · exact .inr h₃
  have hne : ∀ e, e ≠ '-' → e.isDigit = false → c ≠ e := by
    rintro e he hdigit rfl
    rcases hc with rfl | hc
    · exact he rfl
    · rw [hdigit] at hc
      cases hc
  have hspace : isSpace c = false := by
    simp only [isSpace, hne ' ' (by decide) rfl, hne '\t' (by decide) rfl, hne '\r' (by decide) rfl,
      hne '\n' (by decide) rfl, decide_false, Bool.or_self]
  refine ⟨?_, hspace, hne ']' (by decide) rfl⟩
  rw [beginValue, hspace, if_neg Bool.false_ne_true, if_neg (hne _ (by decide) rfl),
    if_neg (hne _ (by decide) rfl), if_neg (hne _ (by decide) rfl), if_neg (hne _ (by decide) rfl),
    if_neg (hne _ (by decide) rfl), if_neg (hne _ (by decide) rfl), h]
  rfl

lemma reads_number {text : String} (h : isNumber text = true) :
    Reads text.toList (.number text) := by
  rw [isNumber] at h
  rcases htext : text.toList with _ | ⟨c, cs⟩ <;> rw [htext] at h
  · cases h
  · dsimp only at h
    rcases hd : (Digits.start c).bind fun d => d.run cs with _ | d'
    · rw [hd] at h
      cases h
    · rw [hd] at h
      obtain ⟨d, hstart, hrun⟩ := Option.bind_eq_some_iff.mp hd
      refine ⟨⟨c, cs, rfl, (beginValue_of_digits [] hstart).2⟩, fun {st s} hs => ?_⟩
      refine ⟨⟨st, .number d' ([c] ++ cs)⟩, ?_, .number h ?_⟩
      · rw [run, step, (beginValue_of_digits st hstart).1, Option.bind_some, run_number st [c] hrun]
      · rw [List.singleton_append, ← htext, String.ofList_toList]
        exact hs

/-- The text goes on with these elements, and closes the array. -/
def MoreValues (text : List Char) (vs : List (JSON String)) : Prop :=
  ∀ {done : List (JSON String)} {st : List Frame} {s' : Scanner},
    EndsAs s' ⟨.array done :: st, .endValue⟩ → run s' text = complete (.array (done ++ vs)) st

/-- The text goes on with these members, and closes the object. -/
def MoreMembers (text : List Char) (ms : List (String × JSON String)) : Prop :=
  ∀ {done : List (String × JSON String)} {st : List Frame} {s' : Scanner},
    EndsAs s' ⟨.object done :: st, .endValue⟩ → run s' text = complete (.object (done ++ ms)) st

lemma moreValues_nil : MoreValues [']'] [] := by
  intro done st s' h
  rw [run_singleton, h.step rfl, List.append_nil]
  rfl

/-- An element, and the others. -/
lemma run_element {text rest : List Char} {v : JSON String} {vs : List (JSON String)}
    (hv : Reads text v) (hvs : MoreValues rest vs) (done : List (JSON String)) (st : List Frame) :
    run ⟨.array done :: st, .value⟩ (text ++ rest) = complete (.array (done ++ v :: vs)) st := by
  obtain ⟨s', hs', hends⟩ := hv.run (show complete v (.array done :: st) = some _ from rfl)
  rw [run_append, hs', Option.bind_some, hvs hends, List.append_assoc]
  rfl

lemma moreValues_cons {text rest : List Char} {v : JSON String} {vs : List (JSON String)}
    (hv : Reads text v) (hvs : MoreValues rest vs) : MoreValues (',' :: (text ++ rest)) (v :: vs) := by
  intro done st s' h
  rw [run, h.step rfl]
  exact run_element hv hvs done st

lemma reads_array {text rest : List Char} {v : JSON String} {vs : List (JSON String)}
    (hv : Reads text v) (hvs : MoreValues rest vs) :
    Reads ('[' :: (text ++ rest)) (.array (v :: vs)) := by
  refine reads_of_run rfl (by decide) fun st => ?_
  have hrun := run_element hv hvs [] st
  obtain ⟨c, cs, rfl, hspace, hne⟩ := hv.head
  have hfirst : step ⟨.array [] :: st, .firstElement⟩ c = step ⟨.array [] :: st, .value⟩ c := by
    simp only [step, hspace, if_neg Bool.false_ne_true, if_neg hne]
  have hopen : step ⟨st, .value⟩ '[' = some ⟨.array [] :: st, .firstElement⟩ := rfl
  rw [List.cons_append, run] at hrun
  rw [run, hopen, Option.bind_some, List.cons_append, run, hfirst]
  exact hrun

lemma moreMembers_nil : MoreMembers ['}'] [] := by
  intro done st s' h
  rw [run_singleton, h.step rfl, List.append_nil]
  rfl

/-- A member after its opening quote, and the others. -/
lemma run_member {text rest : List Char} {k : String} {v : JSON String}
    {ms : List (String × JSON String)} (hv : Reads text v) (hms : MoreMembers rest ms)
    (done : List (String × JSON String)) (st : List Frame) :
    run ⟨.object done :: st, .string []⟩ (quoteRest k ++ ':' :: (text ++ rest))
      = complete (.object (done ++ (k, v) :: ms)) st := by
  obtain ⟨s', hs', hends⟩ := hv.run (show complete v (.member done k :: st) = some _ from rfl)
  have hcolon : step ⟨.member done k :: st, .colon⟩ ':' = some ⟨.member done k :: st, .value⟩ := rfl
  rw [run_append, run_quoteRest, endString, Option.bind_some, run, hcolon, Option.bind_some,
    run_append, hs', Option.bind_some, hms hends, List.append_assoc]
  rfl

lemma moreMembers_cons {text rest : List Char} {k : String} {v : JSON String}
    {ms : List (String × JSON String)} (hv : Reads text v) (hms : MoreMembers rest ms) :
    MoreMembers (',' :: '"' :: (quoteRest k ++ ':' :: (text ++ rest))) ((k, v) :: ms) := by
  intro done st s' h
  rw [run, h.step rfl]
  exact run_member hv hms done st

lemma reads_object {text rest : List Char} {k : String} {v : JSON String}
    {ms : List (String × JSON String)} (hv : Reads text v) (hms : MoreMembers rest ms) :
    Reads ('{' :: '"' :: (quoteRest k ++ ':' :: (text ++ rest))) (.object ((k, v) :: ms)) :=
  reads_of_run rfl (by decide) fun st => run_member hv hms [] st

mutual

/-- What is written of a value is read as the value. -/
lemma reads_print : ∀ v : JSON String, v.all isNumber = true → Reads (print v) v
  | .null, _ => reads_of_run rfl (by decide) fun _ => run_singleton _ _
  | .bool true, _ => reads_of_run rfl (by decide) fun _ => run_singleton _ _
  | .bool false, _ => reads_of_run rfl (by decide) fun _ => run_singleton _ _
  | .number _, h => reads_number h
  | .string s, _ => reads_string s
  | .array [], _ => reads_of_run rfl (by decide) fun _ => run_singleton _ _
  | .array (v :: vs), h =>
      have h' := Bool.and_eq_true_iff.mp h
      reads_array (reads_print v h'.1) (run_moreValues vs h'.2)
  | .object [], _ => reads_of_run rfl (by decide) fun _ => run_singleton _ _
  | .object ((_, v) :: ms), h =>
      have h' := Bool.and_eq_true_iff.mp h
      reads_object (reads_print v h'.1) (run_moreMembers ms h'.2)

lemma run_moreValues : ∀ vs : List (JSON String), allValues isNumber vs = true →
    MoreValues (moreValues vs) vs
  | [], _ => moreValues_nil
  | v :: vs, h =>
      have h' := Bool.and_eq_true_iff.mp h
      moreValues_cons (reads_print v h'.1) (run_moreValues vs h'.2)

lemma run_moreMembers : ∀ ms : List (String × JSON String), allMembers isNumber ms = true →
    MoreMembers (moreMembers ms) ms
  | [], _ => moreMembers_nil
  | (_, v) :: ms, h =>
      have h' := Bool.and_eq_true_iff.mp h
      moreMembers_cons (reads_print v h'.1) (run_moreMembers ms h'.2)

end

end Scanner

/-- **Round trip.**  What is written of a value whose numbers are numbers is parsed as the value. -/
theorem parse_print {v : JSON String} (h : v.all isNumber = true) : parse (print v) = some v := by
  obtain ⟨s', hs', hends⟩ := (Scanner.reads_print v h).run (show Scanner.complete v [] = some _ from rfl)
  rw [parse, hs']
  exact hends.eof

end JSON
