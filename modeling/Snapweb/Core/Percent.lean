import Snapweb.Core.Filepath
import Snapweb.Core.JSONText

/-!
# Percent-encoding

A text as a part of the path of a URL: what `encodeURIComponent` makes of it, how a browser resolves
the dots of a path, and what a server reads from the path of a request (Go's `unescape`).

* `URL.unescape_encodeURIComponent` — what is encoded is read.
* `URL.requested_eq` — what a server reads when a browser requests a path that ends with an encoded
  text.
-/

namespace URL

/-! ## Encoding -/

/-- The characters that `encodeURIComponent` leaves as they are. -/
def isUnreserved (c : Char) : Bool :=
  c.isAlphanum || "-_.!~*'()".toList.contains c

/-- A byte as `%XX`. -/
def escapeByte (b : UInt8) : List Char :=
  ['%', (Nat.digitChar (b.toNat / 16)).toUpper, (Nat.digitChar (b.toNat % 16)).toUpper]

/-- A character, encoded. -/
def escapeChar (c : Char) : List Char :=
  if isUnreserved c then [c] else (String.utf8EncodeChar c).flatMap escapeByte

/-- `encodeURIComponent`. -/
def encodeURIComponent (s : String) : List Char := s.toList.flatMap escapeChar

/-! ## Reading -/

/-- The bytes of a path: `%XX` is a byte, and anything else is what it is. -/
def unescape : List Char → Option (List UInt8)
  | [] => some []
  | '%' :: a :: b :: rest =>
      match JSON.hexDigit a, JSON.hexDigit b with
      | some hi, some lo => (unescape rest).map (UInt8.ofNat (hi * 16 + lo) :: ·)
      | _, _ => none
  | c :: rest => if c = '%' then none else (unescape rest).map (String.utf8EncodeChar c ++ ·)

/-- `URL.Path`: the path of a request, as a text. -/
def path (raw : List Char) : Option String :=
  (unescape raw).map fun bytes => String.ofList (UTF8.decode bytes)

/-! ## A round trip -/

lemma hexDigit_toUpper : ∀ n < 16, JSON.hexDigit (Nat.digitChar n).toUpper = some n := by decide

lemma unescape_of_ne {c : Char} (hc : c ≠ '%') (rest : List Char) :
    unescape (c :: rest) = (unescape rest).map (String.utf8EncodeChar c ++ ·) := by
  rw [unescape]
  · rw [if_neg hc]
  · intro a b rest' heq
    exact absurd heq hc

lemma unescape_escapeByte (b : UInt8) (rest : List Char) :
    unescape (escapeByte b ++ rest) = (unescape rest).map (b :: ·) := by
  have hb : b.toNat < 256 := b.toNat_lt
  have hhi : JSON.hexDigit (Nat.digitChar (b.toNat / 16)).toUpper = some (b.toNat / 16) :=
    hexDigit_toUpper _ (by omega)
  have hlo : JSON.hexDigit (Nat.digitChar (b.toNat % 16)).toUpper = some (b.toNat % 16) :=
    hexDigit_toUpper _ (by omega)
  have hbyte : b.toNat / 16 * 16 + b.toNat % 16 = b.toNat := by omega
  simp only [escapeByte, List.cons_append, List.nil_append, unescape, hhi, hlo, hbyte,
    UInt8.ofNat_toNat]

lemma unescape_escapeBytes (bs : List UInt8) (rest : List Char) :
    unescape (bs.flatMap escapeByte ++ rest) = (unescape rest).map (bs ++ ·) := by
  induction bs with
  | nil => simp
  | cons b bs ih =>
      rw [List.flatMap_cons, List.append_assoc, unescape_escapeByte, ih, Option.map_map]
      rfl

lemma isUnreserved_percent : isUnreserved '%' = false := by decide

lemma unescape_escapeChar (c : Char) (rest : List Char) :
    unescape (escapeChar c ++ rest) = (unescape rest).map (String.utf8EncodeChar c ++ ·) := by
  rw [escapeChar]
  split_ifs with hc
  · refine unescape_of_ne ?_ rest
    rintro rfl
    rw [isUnreserved_percent] at hc
    cases hc
  · exact unescape_escapeBytes _ rest

/-- What is encoded is read, wherever it stands. -/
lemma unescape_encode_append (s : String) (rest : List Char) :
    unescape (encodeURIComponent s ++ rest) = (unescape rest).map (UTF8.encode s.toList ++ ·) := by
  rw [encodeURIComponent, UTF8.encode]
  induction s.toList with
  | nil => simp
  | cons c cs ih =>
      rw [List.flatMap_cons, List.append_assoc, unescape_escapeChar, ih, Option.map_map]
      simp [Function.comp_def]

/-- What is encoded is read. -/
theorem unescape_encodeURIComponent (s : String) :
    unescape (encodeURIComponent s) = some (UTF8.encode s.toList) := by
  have h := unescape_encode_append s []
  simpa [unescape] using h

/-- A text without `%` is read as it is. -/
lemma unescape_append {cs : List Char} (h : '%' ∉ cs) (rest : List Char) :
    unescape (cs ++ rest) = (unescape rest).map (UTF8.encode cs ++ ·) := by
  induction cs with
  | nil => simp [UTF8.encode]
  | cons c cs ih =>
      rw [List.mem_cons, not_or] at h
      rw [List.cons_append, unescape_of_ne (Ne.symm h.1), ih h.2, Option.map_map]
      simp [UTF8.encode, Function.comp_def]

/-- The path of a URL that ends with an encoded text. -/
lemma path_append_encode {base : String} (h : '%' ∉ base.toList) (s : String) :
    path (base.toList ++ encodeURIComponent s) = some (base ++ s) := by
  have hbytes : UTF8.encode base.toList ++ UTF8.encode s.toList = UTF8.encode (base ++ s).toList := by
    rw [String.toList_append, UTF8.encode, UTF8.encode, UTF8.encode, List.flatMap_append]
  rw [path, unescape_append h, unescape_encodeURIComponent]
  simp only [Option.map_some, hbytes, UTF8.decode_encode, String.ofList_toList]

/-! ## The dots of a path -/

/-- The segments that stand for the directory itself. -/
def singleDots : List (List Char) := [".", "%2e", "%2E"].map String.toList

/-- The segments that stand for the directory above. -/
def doubleDots : List (List Char) :=
  ["..", ".%2e", ".%2E", "%2e.", "%2E.", "%2e%2e", "%2e%2E", "%2E%2e", "%2E%2E"].map String.toList

/-- The segments of a path without dots, after those of `out` (in reverse order); the last one is
empty where the path ends with dots. -/
def resolveSegments : List (List Char) → List (List Char) → List (List Char)
  | out, [] => out.reverse
  | out, [seg] =>
      if seg ∈ doubleDots then (out.tail.reverse ++ [[]])
      else if seg ∈ singleDots then out.reverse ++ [[]]
      else out.reverse ++ [seg]
  | out, seg :: segs =>
      if seg ∈ doubleDots then resolveSegments out.tail segs
      else if seg ∈ singleDots then resolveSegments out segs
      else resolveSegments (seg :: out) segs

/-- What a browser requests for a path that begins with a slash. -/
def resolve (raw : List Char) : List Char :=
  (resolveSegments [] (raw.tail.splitOn '/')).flatMap ('/' :: ·)

/-- An encoded text stands for the directory itself if it does before. -/
lemma encode_mem_singleDots (s : String) : encodeURIComponent s ∈ singleDots ↔ s = "." := by
  constructor
  · intro h
    have hread : ∀ seg ∈ singleDots, unescape seg = some [0x2E] := by decide
    have hbytes := (unescape_encodeURIComponent s).symm.trans (hread _ h)
    have hdecode := congrArg UTF8.decode (Option.some_inj.mp hbytes)
    rw [UTF8.decode_encode] at hdecode
    exact String.toList_inj.mp (hdecode.trans (by decide))
  · rintro rfl
    decide

/-- An encoded text stands for the directory above if it does before. -/
lemma encode_mem_doubleDots (s : String) : encodeURIComponent s ∈ doubleDots ↔ s = ".." := by
  constructor
  · intro h
    have hread : ∀ seg ∈ doubleDots, unescape seg = some [0x2E, 0x2E] := by decide
    have hbytes := (unescape_encodeURIComponent s).symm.trans (hread _ h)
    have hdecode := congrArg UTF8.decode (Option.some_inj.mp hbytes)
    rw [UTF8.decode_encode] at hdecode
    exact String.toList_inj.mp (hdecode.trans (by decide))
  · rintro rfl
    decide

/-- No encoded text has a slash in it. -/
lemma slash_notMem_encode (s : String) : '/' ∉ encodeURIComponent s := by
  have hdigit : ∀ n < 16, (Nat.digitChar n).toUpper ≠ '/' := by decide
  intro h
  rw [encodeURIComponent, List.mem_flatMap] at h
  obtain ⟨c, -, h⟩ := h
  rw [escapeChar] at h
  split_ifs at h with hc
  · rw [List.mem_singleton] at h
    rw [← h] at hc
    exact absurd hc (by decide)
  · obtain ⟨b, -, h⟩ := List.mem_flatMap.mp h
    have hb : b.toNat < 256 := b.toNat_lt
    simp only [escapeByte, List.mem_cons, List.not_mem_nil, or_false] at h
    rcases h with h | h | h
    · cases h
    · exact hdigit _ (by omega) h.symm
    · exact hdigit _ (by omega) h.symm

/-- A segment that is not resolved. -/
def IsBare (seg : List Char) : Prop := '/' ∉ seg ∧ seg ∉ singleDots ∧ seg ∉ doubleDots

instance (seg : List Char) : Decidable (IsBare seg) :=
  inferInstanceAs (Decidable ('/' ∉ seg ∧ seg ∉ singleDots ∧ seg ∉ doubleDots))

lemma resolveSegments_append {segs : List (List Char)} (h : ∀ seg ∈ segs, IsBare seg)
    (out : List (List Char)) (last : List Char) :
    resolveSegments out (segs ++ [last]) = resolveSegments (segs.reverse ++ out) [last] := by
  induction segs generalizing out with
  | nil => rfl
  | cons seg segs ih =>
      obtain ⟨-, hsingle, hdouble⟩ := h seg List.mem_cons_self
      have hmore : ∀ more : List (List Char), more ≠ [] →
          resolveSegments out (seg :: more) = resolveSegments (seg :: out) more := by
        intro more hne
        rw [resolveSegments, if_neg hdouble, if_neg hsingle]
        exact hne
      rw [List.cons_append, hmore _ (by simp), ih fun s hs => h s (List.mem_cons_of_mem seg hs)]
      simp

/-- The path of a directory, with a slash at its end. -/
def directory (names : List String) : String :=
  String.ofList ('/' :: (names.map String.toList).flatMap (· ++ ['/']))

lemma flatMap_cons_slash (segs : List (List Char)) (last : List Char) :
    (segs ++ [last]).flatMap ('/' :: ·) = '/' :: (segs.flatMap (· ++ ['/']) ++ last) := by
  induction segs with
  | nil => simp
  | cons seg segs ih =>
      rw [List.cons_append, List.flatMap_cons, ih]
      simp

/-- What a browser requests for a directory and an encoded text. -/
lemma resolve_append_encode {names : List String} (h : ∀ name ∈ names, IsBare name.toList)
    (s : String) :
    resolve ((directory names).toList ++ encodeURIComponent s) =
      if s = ".." then (directory names.dropLast).toList
      else if s = "." then (directory names).toList
      else (directory names).toList ++ encodeURIComponent s := by
  have hbare : ∀ seg ∈ names.map String.toList, IsBare seg := by
    intro seg hseg
    obtain ⟨name, hname, rfl⟩ := List.mem_map.mp hseg
    exact h name hname
  have hsplit : ((directory names).toList ++ encodeURIComponent s).tail.splitOn '/'
      = names.map String.toList ++ [encodeURIComponent s] := by
    rw [directory, String.toList_ofList, List.cons_append, List.tail_cons,
      Filepath.splitOn_flatMap fun seg hseg => (hbare seg hseg).1,
      List.splitOn_eq_singleton (slash_notMem_encode s)]
  rw [resolve, hsplit, resolveSegments_append hbare, List.append_nil, resolveSegments]
  simp only [encode_mem_doubleDots, encode_mem_singleDots]
  split_ifs with hup hhere
  · rw [List.tail_reverse, List.reverse_reverse, flatMap_cons_slash, List.append_nil, directory,
      String.toList_ofList, List.map_dropLast]
  · rw [List.reverse_reverse, flatMap_cons_slash, List.append_nil, directory, String.toList_ofList]
  · rw [List.reverse_reverse, flatMap_cons_slash, directory, String.toList_ofList]
    rfl

/-- What a server reads when a browser requests a directory and an encoded text. -/
def requested (names : List String) (s : String) : Option String :=
  path (resolve ((directory names).toList ++ encodeURIComponent s))

lemma percent_notMem_directory {names : List String} (h : ∀ name ∈ names, '%' ∉ name.toList) :
    '%' ∉ (directory names).toList := by
  intro hmem
  simp only [directory, String.toList_ofList, List.mem_cons, List.mem_flatMap, List.mem_map,
    List.mem_append, List.not_mem_nil, or_false] at hmem
  rcases hmem with hmem | ⟨-, ⟨name, hname, rfl⟩, hmem | hmem⟩
  · cases hmem
  · exact h name hname hmem
  · cases hmem

/-- **Requests.**  The server reads the text after the directory, unless it is one of dots. -/
theorem requested_eq {names : List String} (h : ∀ name ∈ names, IsBare name.toList)
    (hpercent : ∀ name ∈ names, '%' ∉ name.toList) (s : String) :
    requested names s = some (
      if s = ".." then directory names.dropLast
      else if s = "." then directory names
      else directory names ++ s) := by
  have hplain : ∀ {names : List String}, (∀ name ∈ names, '%' ∉ name.toList) →
      path (directory names).toList = some (directory names) := by
    intro names h
    have hpath := path_append_encode (percent_notMem_directory h) ""
    simpa [encodeURIComponent] using hpath
  rw [requested, resolve_append_encode h]
  split_ifs
  · exact hplain fun name hname => hpercent name (List.dropLast_subset names hname)
  · exact hplain hpercent
  · exact path_append_encode (percent_notMem_directory hpercent) s

end URL
