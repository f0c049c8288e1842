import Snapweb.Core.JSONPrint

/-!
# `json.Encoder`

A value as Go's encoder writes it: characters that mean something in HTML, or end a line in
JavaScript, are escaped too, and a line feed comes last.  Keys are names of members, which need no
escapes.

* `JSON.parse_encode` — what is encoded is parsed.
-/

namespace JSON

/-- Four hexadecimal digits. -/
def hex4 (n : ℕ) : List Char :=
  [Nat.digitChar (n / 0x1000), Nat.digitChar (n / 0x100 % 16), Nat.digitChar (n / 0x10 % 16),
    Nat.digitChar (n % 16)]

/-- The characters that are escaped by their numbers. -/
def isEscaped (c : Char) : Bool :=
  c.toNat < 0x20 || c = '<' || c = '>' || c = '&' || c.toNat = 0x2028 || c.toNat = 0x2029

/-- A character of a string, as it is encoded between quotes. -/
def escapeChar (c : Char) : List Char :=
  if c = '"' || c = '\\' then ['\\', c]
  else if c = '\n' then ['\\', 'n']
  else if c = '\r' then ['\\', 'r']
  else if c = '\t' then ['\\', 't']
  else if isEscaped c then '\\' :: 'u' :: hex4 c.toNat
  else [c]

/-- A string, after its opening quote. -/
def escapeRest (s : String) : List Char := s.toList.flatMap escapeChar ++ ['"']

mutual

/-- A value, before the line feed. -/
def encodeValue : JSON String → List Char
  | .null => ['n', 'u', 'l', 'l']
  | .bool true => ['t', 'r', 'u', 'e']
  | .bool false => ['f', 'a', 'l', 's', 'e']
  | .number text => text.toList
  | .string s => '"' :: escapeRest s
  | .array [] => ['[', ']']
  | .array (v :: vs) => '[' :: (encodeValue v ++ encodeValues vs)
  | .object [] => ['{', '}']
  | .object ((k, v) :: ms) => '{' :: '"' :: (quoteRest k ++ ':' :: (encodeValue v ++ encodeMembers ms))

/-- The elements of an array after the first one. -/
def encodeValues : List (JSON String) → List Char
  | [] => [']']
  | v :: vs => ',' :: (encodeValue v ++ encodeValues vs)

/-- The members of an object after the first one. -/
def encodeMembers : List (String × JSON String) → List Char
  | [] => ['}']
  | (k, v) :: ms => ',' :: '"' :: (quoteRest k ++ ':' :: (encodeValue v ++ encodeMembers ms))

end

/-- `Encoder.Encode`. -/
def encode (v : JSON String) : List Char := encodeValue v ++ ['\n']

/-! ## What is encoded is read -/

/-- The item stands for the character by itself. -/
def Item.StandsFor (item : Item) (c : Char) : Prop :=
  item = .char c ∨ (item = .unit c.toNat ∧ c.toNat < 0xD800)

namespace Scanner

lemma run_hex4 (st : List Frame) (items : List Item) {n : ℕ} (hn : n < 0x10000) :
    run ⟨st, .hex items []⟩ (hex4 n) = some ⟨st, .string (items ++ [.unit n])⟩ := by
  have h₁ := hexDigit_digitChar (n / 0x1000) (by omega)
  have h₂ := hexDigit_digitChar (n / 0x100 % 16) (Nat.mod_lt _ (by decide))
  have h₃ := hexDigit_digitChar (n / 0x10 % 16) (Nat.mod_lt _ (by decide))
  have h₄ := hexDigit_digitChar (n % 16) (Nat.mod_lt _ (by decide))
  have hsum : n / 0x1000 * 0x1000 + n / 0x100 % 16 * 0x100 + n / 0x10 % 16 * 0x10 + n % 16 = n := by
    omega
  simp only [hex4, run, step, Option.bind_some, h₁, h₂, h₃, h₄, Option.map_some, List.nil_append,
    List.cons_append, hsum]

/-- The characters that are escaped by their numbers have one code unit each. -/
lemma lt_of_isEscaped {c : Char} (h : isEscaped c = true) : c.toNat < 0xD800 := by
  simp only [isEscaped, Bool.or_eq_true, decide_eq_true_eq, or_assoc] at h
  rcases h with h | rfl | rfl | rfl | h | h
  · omega
  · decide
  · decide
  · decide
  · omega
  · omega

lemma run_escapeChar (st : List Frame) (items : List Item) (c : Char) :
    ∃ item : Item, item.StandsFor c ∧
      run ⟨st, .string items⟩ (escapeChar c) = some ⟨st, .string (items ++ [item])⟩ := by
  rw [escapeChar]
  split_ifs with hquote hn hr ht hescaped
  · refine ⟨.char c, .inl rfl, ?_⟩
    simp only [Bool.or_eq_true, decide_eq_true_eq] at hquote
    rcases hquote with rfl | rfl <;> rfl
  · subst hn
    exact ⟨.char '\n', .inl rfl, rfl⟩
  · subst hr
    exact ⟨.char '\r', .inl rfl, rfl⟩
  · subst ht
    exact ⟨.char '\t', .inl rfl, rfl⟩
  · have hlt := lt_of_isEscaped hescaped
    have hopen : run ⟨st, .string items⟩ ('\\' :: 'u' :: hex4 c.toNat)
        = run ⟨st, .hex items []⟩ (hex4 c.toNat) := rfl
    exact ⟨.unit c.toNat, .inr ⟨rfl, hlt⟩, hopen.trans (run_hex4 st items (by omega))⟩
  · refine ⟨.char c, .inl rfl, ?_⟩
    have hcontrol : ¬ c.toNat < 0x20 := by
      intro hlt
      simp [isEscaped, hlt] at hescaped
    simp only [Bool.or_eq_true, decide_eq_true_eq, not_or] at hquote
    simp only [run, step, hquote.1, hquote.2, hcontrol, if_false, Option.bind_some]

lemma run_escaped (st : List Frame) (items : List Item) (cs : List Char) :
    ∃ items' : List Item, List.Forall₂ Item.StandsFor items' cs ∧
      run ⟨st, .string items⟩ (cs.flatMap escapeChar) = some ⟨st, .string (items ++ items')⟩ := by
  induction cs generalizing items with
  | nil => exact ⟨[], .nil, by rw [List.append_nil]; rfl⟩
  | cons c cs ih =>
      obtain ⟨item, hitem, hrun⟩ := run_escapeChar st items c
      obtain ⟨items', hitems', hrest⟩ := ih (items ++ [item])
      refine ⟨item :: items', .cons hitem hitems', ?_⟩
      rw [List.flatMap_cons, run_append, hrun, Option.bind_some, hrest, List.append_assoc]
      rfl

/-- Items that stand for characters by themselves are these characters. -/
lemma unquote_of_standsFor {items : List Item} {cs : List Char}
    (h : List.Forall₂ Item.StandsFor items cs) : unquote items = cs := by
  rw [unquote]
  induction h with
  | nil => rfl
  | @cons item c items cs hitem _ ih =>
      rcases hitem with rfl | ⟨rfl, hlt⟩
      · rw [unquoteAfter, ih]
      · have hhigh : isHighSurrogate c.toNat = false := by
          rw [isHighSurrogate, Bool.and_eq_false_iff]
          exact .inl (decide_eq_false (by omega))
        have hlow : isLowSurrogate c.toNat = false := by
          rw [isLowSurrogate, Bool.and_eq_false_iff]
          exact .inl (decide_eq_false (by omega))
        rw [unquoteAfter, hhigh, if_neg Bool.false_ne_true, rune, hlow, if_neg Bool.false_ne_true, ih,
          Char.ofNat_toNat]

/-- A string is read. -/
lemma run_escapeRest (st : List Frame) (s : String) :
    run ⟨st, .string []⟩ (escapeRest s) = endString s st := by
  obtain ⟨items, hitems, hrun⟩ := run_escaped st [] s.toList
  have hend : step ⟨st, .string items⟩ '"' = endString s st := by
    change endString (String.ofList (unquote items)) st = _
    rw [unquote_of_standsFor hitems, String.ofList_toList]
  rw [escapeRest, run_append, hrun, Option.bind_some, List.nil_append, run_singleton, hend]

lemma reads_escaped (s : String) : Reads ('"' :: escapeRest s) (.string s) := by
  have hquoted := reads_string s
  refine ⟨⟨'"', escapeRest s, rfl, rfl, by decide⟩, fun {st s'} hs => ?_⟩
  obtain ⟨s'', hs'', hends⟩ := hquoted.run hs
  refine ⟨s'', ?_, hends⟩
  rw [← hs'', run, run]
  have hopen : step ⟨st, .value⟩ '"' = some ⟨st, .string []⟩ := rfl
  rw [hopen, Option.bind_some, Option.bind_some, run_escapeRest, run_quoteRest]

mutual

/-- What is encoded of a value is read as the value. -/
lemma reads_encodeValue : ∀ v : JSON String, v.all isNumber = true → Reads (encodeValue v) v
  | .null, _ => reads_of_run rfl (by decide) fun _ => run_singleton _ _
  | .bool true, _ => reads_of_run rfl (by decide) fun _ => run_singleton _ _
  | .bool false, _ => reads_of_run rfl (by decide) fun _ => run_singleton _ _
  | .number _, h => reads_number h
  | .string s, _ => reads_escaped s
  | .array [], _ => reads_of_run rfl (by decide) fun _ => run_singleton _ _
  | .array (v :: vs), h =>
      have h' := Bool.and_eq_true_iff.mp h
      reads_array (reads_encodeValue v h'.1) (run_encodeValues vs h'.2)
  | .object [], _ => reads_of_run rfl (by decide) fun _ => run_singleton _ _
  | .object ((_, v) :: ms), h =>
      have h' := Bool.and_eq_true_iff.mp h
      reads_object (reads_encodeValue v h'.1) (run_encodeMembers ms h'.2)

lemma run_encodeValues : ∀ vs : List (JSON String), allValues isNumber vs = true →
    MoreValues (encodeValues vs) vs
  | [], _ => moreValues_nil
  | v :: vs, h =>
      have h' := Bool.and_eq_true_iff.mp h
      moreValues_cons (reads_encodeValue v h'.1) (run_encodeValues vs h'.2)

lemma run_encodeMembers : ∀ ms : List (String × JSON String), allMembers isNumber ms = true →
    MoreMembers (encodeMembers ms) ms
  | [], _ => moreMembers_nil
  | (_, v) :: ms, h =>
      have h' := Bool.and_eq_true_iff.mp h
      moreMembers_cons (reads_encodeValue v h'.1) (run_encodeMembers ms h'.2)

end

/-- A line feed after the outermost value. -/
lemma EndsAs.step_newline {s' : Scanner} {v : JSON String} (h : EndsAs s' ⟨[], .done v⟩) :
    Scanner.step s' '\n' = some ⟨[], .done v⟩ := by
  cases h with
  | same => rfl
  | @number st d text _ hfinal hs =>
      have hnext : d.next '\n' = none := by cases d <;> rfl
      simp only [Scanner.step, hnext, hfinal, if_true, hs, Option.bind_some]
      rfl

end Scanner

/-- **Round trip.**  What is encoded of a value whose numbers are numbers is parsed as the value. -/
theorem parse_encode {v : JSON String} (h : v.all isNumber = true) : parse (encode v) = some v := by
  obtain ⟨s', hs', hends⟩ :=
    (Scanner.reads_encodeValue v h).run (show Scanner.complete v [] = some _ from rfl)
  rw [parse, encode, Scanner.run_append, hs', Option.bind_some, Scanner.run_singleton,
    hends.step_newline]
  rfl

end JSON
