import Mathlib.Data.Nat.Notation
import Mathlib.Tactic.Lemma
import Mathlib.Tactic.SplitIfs

/-!
# UTF-8

The characters of a text of bytes, as Go ranges over it: a byte that is not part of a character
stands for U+FFFD.

* `UTF8.decode_encode` — what is encoded is decoded.
-/

namespace UTF8

/-- U+FFFD. -/
def runeError : Char := Char.ofNat 0xFFFD

/-- The byte goes on with a character (`10xxxxxx`). -/
def isTail (b : UInt8) : Bool := 0x80 ≤ b.toNat && b.toNat ≤ 0xBF

/-- A character of two bytes, which begins with `b₁`. -/
def rune₂ (b₁ : UInt8) : List UInt8 → Option Char
  | b₂ :: _ =>
      if 0xC2 ≤ b₁.toNat && b₁.toNat ≤ 0xDF && isTail b₂ then
        some (Char.ofNat ((b₁.toNat - 0xC0) * 0x40 + (b₂.toNat - 0x80)))
      else none
  | _ => none

/-- A character of three bytes: neither a longer form of a shorter one, nor a surrogate. -/
def rune₃ (b₁ : UInt8) : List UInt8 → Option Char
  | b₂ :: b₃ :: _ =>
      let n := (b₁.toNat - 0xE0) * 0x1000 + (b₂.toNat - 0x80) * 0x40 + (b₃.toNat - 0x80)
      if 0xE0 ≤ b₁.toNat && b₁.toNat ≤ 0xEF && isTail b₂ && isTail b₃ &&
          0x800 ≤ n && (n < 0xD800 || 0xDFFF < n) then
        some (Char.ofNat n)
      else none
  | _ => none

/-- A character of four bytes. -/
def rune₄ (b₁ : UInt8) : List UInt8 → Option Char
  | b₂ :: b₃ :: b₄ :: _ =>
      let n := (b₁.toNat - 0xF0) * 0x40000 + (b₂.toNat - 0x80) * 0x1000 + (b₃.toNat - 0x80) * 0x40 +
        (b₄.toNat - 0x80)
      if 0xF0 ≤ b₁.toNat && b₁.toNat ≤ 0xF4 && isTail b₂ && isTail b₃ && isTail b₄ &&
          0x10000 ≤ n && n ≤ 0x10FFFF then
        some (Char.ofNat n)
      else none
  | _ => none

/-- `DecodeRune`: the first character of a text that is not empty, and how many bytes it has. -/
def decodeRune (b : UInt8) (bs : List UInt8) : Char × ℕ :=
  if b.toNat < 0x80 then (Char.ofNat b.toNat, 1)
  else
    match rune₂ b bs, rune₃ b bs, rune₄ b bs with
    | some c, _, _ => (c, 2)
    | none, some c, _ => (c, 3)
    | none, none, some c => (c, 4)
    | none, none, none => (runeError, 1)

/-- The characters of a text after the bytes to skip. -/
def decodeFrom : ℕ → List UInt8 → List Char
  | _, [] => []
  | skip + 1, _ :: bs => decodeFrom skip bs
  | 0, b :: bs => (decodeRune b bs).1 :: decodeFrom ((decodeRune b bs).2 - 1) bs

/-- The characters of a text. -/
def decode (bs : List UInt8) : List Char := decodeFrom 0 bs

/-- The bytes of a text. -/
def encode (cs : List Char) : List UInt8 := cs.flatMap String.utf8EncodeChar

/-! ## What is encoded is decoded -/

lemma toNat_byte {n : ℕ} (h : n < 0x100) : (UInt8.ofNat n).toNat = n := UInt8.toNat_ofNat_of_lt h

lemma rune₂_encode {n : ℕ} (h₁ : 0x7F < n) (h₂ : n ≤ 0x7FF) (bs : List UInt8) :
    rune₂ (UInt8.ofNat (n / 64 % 0x20 + 0xC0)) (UInt8.ofNat (n % 0x40 + 0x80) :: bs)
      = some (Char.ofNat n) := by
  have hn : (n / 64 % 0x20 + 0xC0 - 0xC0) * 0x40 + (n % 0x40 + 0x80 - 0x80) = n := by omega
  rw [rune₂, isTail, toNat_byte (by omega), toNat_byte (by omega), hn, if_pos]
  simp only [Bool.and_eq_true, decide_eq_true_eq]
  omega

lemma rune₃_encode {n : ℕ} (h₁ : 0x7FF < n) (h₂ : n ≤ 0xFFFF) (hvalid : n < 0xD800 ∨ 0xDFFF < n)
    (bs : List UInt8) :
    rune₃ (UInt8.ofNat (n / 4096 % 0x10 + 0xE0))
        (UInt8.ofNat (n / 64 % 0x40 + 0x80) :: UInt8.ofNat (n % 0x40 + 0x80) :: bs)
      = some (Char.ofNat n) := by
  have hn : (n / 4096 % 0x10 + 0xE0 - 0xE0) * 0x1000 + (n / 64 % 0x40 + 0x80 - 0x80) * 0x40 +
      (n % 0x40 + 0x80 - 0x80) = n := by omega
  rw [rune₃, isTail, isTail, toNat_byte (by omega), toNat_byte (by omega), toNat_byte (by omega), hn,
    if_pos]
  simp only [Bool.and_eq_true, Bool.or_eq_true, decide_eq_true_eq]
  omega

lemma rune₄_encode {n : ℕ} (h₁ : 0xFFFF < n) (h₂ : n < 0x110000) (bs : List UInt8) :
    rune₄ (UInt8.ofNat (n / 262144 % 0x08 + 0xF0))
        (UInt8.ofNat (n / 4096 % 0x40 + 0x80) :: UInt8.ofNat (n / 64 % 0x40 + 0x80) ::
          UInt8.ofNat (n % 0x40 + 0x80) :: bs)
      = some (Char.ofNat n) := by
  have hn : (n / 262144 % 0x08 + 0xF0 - 0xF0) * 0x40000 + (n / 4096 % 0x40 + 0x80 - 0x80) * 0x1000 +
      (n / 64 % 0x40 + 0x80 - 0x80) * 0x40 + (n % 0x40 + 0x80 - 0x80) = n := by omega
  rw [rune₄, isTail, isTail, isTail, toNat_byte (by omega), toNat_byte (by omega),
    toNat_byte (by omega), toNat_byte (by omega), hn, if_pos]
  simp only [Bool.and_eq_true, decide_eq_true_eq]
  omega

/-- The first byte tells how many there are. -/
lemma rune₂_eq_none {b : UInt8} (h : 0xE0 ≤ b.toNat) (bs : List UInt8) : rune₂ b bs = none := by
  cases bs with
  | nil => rfl
  | cons b₂ bs =>
      rw [rune₂, if_neg]
      simp only [Bool.and_eq_true, decide_eq_true_eq]
      omega

lemma rune₃_eq_none {b : UInt8} (h : 0xF0 ≤ b.toNat) (bs : List UInt8) : rune₃ b bs = none := by
  rcases bs with _ | ⟨b₂, _ | ⟨b₃, bs⟩⟩
  · rfl
  · rfl
  · rw [rune₃, if_neg]
    simp only [Bool.and_eq_true, decide_eq_true_eq]
    omega

/-- The bytes after the first one of a character are passed over. -/
lemma decodeFrom_length (skipped bs : List UInt8) :
    decodeFrom skipped.length (skipped ++ bs) = decodeFrom 0 bs := by
  induction skipped with
  | nil => rfl
  | cons b skipped ih => exact ih

lemma decode_utf8EncodeChar (c : Char) (bs : List UInt8) :
    decode (String.utf8EncodeChar c ++ bs) = c :: decode bs := by
  have hvalid : c.val.toNat < 0xD800 ∨ 0xDFFF < c.val.toNat ∧ c.val.toNat < 0x110000 := c.valid
  have hchar : Char.ofNat c.val.toNat = c := Char.ofNat_toNat c
  -- the first byte, the other ones, and what `decodeRune` makes of them
  have hdecode : ∀ {b : UInt8} {tail : List UInt8}, String.utf8EncodeChar c = b :: tail →
      decodeRune b (tail ++ bs) = (c, tail.length + 1) →
      decode (String.utf8EncodeChar c ++ bs) = c :: decode bs := by
    intro b tail henc hrune
    rw [henc, decode, List.cons_append, decodeFrom, hrune]
    exact congrArg (c :: ·) (decodeFrom_length tail bs)
  by_cases h₁ : c.val.toNat ≤ 0x7F
  · refine hdecode (if_pos h₁) ?_
    rw [decodeRune, toNat_byte (by omega), if_pos (by omega), hchar]
    rfl
  by_cases h₂ : c.val.toNat ≤ 0x7FF
  · refine hdecode ((if_neg h₁).trans (if_pos h₂)) ?_
    rw [decodeRune, toNat_byte (by omega), if_neg (by omega)]
    simp only [List.cons_append, List.nil_append, rune₂_encode (by omega) h₂, hchar]
    rfl
  by_cases h₃ : c.val.toNat ≤ 0xFFFF
  · refine hdecode ((if_neg h₁).trans ((if_neg h₂).trans (if_pos h₃))) ?_
    have hfirst : (UInt8.ofNat (c.val.toNat / 4096 % 0x10 + 0xE0)).toNat
        = c.val.toNat / 4096 % 0x10 + 0xE0 := toNat_byte (by omega)
    rw [decodeRune, hfirst, if_neg (by omega), rune₂_eq_none (by omega)]
    simp only [List.cons_append, List.nil_append, rune₃_encode (by omega) h₃ (by omega), hchar]
    rfl
  · refine hdecode ((if_neg h₁).trans ((if_neg h₂).trans (if_neg h₃))) ?_
    have hfirst : (UInt8.ofNat (c.val.toNat / 262144 % 0x08 + 0xF0)).toNat
        = c.val.toNat / 262144 % 0x08 + 0xF0 := toNat_byte (by omega)
    rw [decodeRune, hfirst, if_neg (by omega), rune₂_eq_none (by omega), rune₃_eq_none (by omega)]
    have hrune := rune₄_encode (n := c.val.toNat) (by omega) (by omega) bs
    simp only [List.cons_append, List.nil_append, hrune, hchar]
    rfl

/-- What is encoded is decoded. -/
theorem decode_encode (cs : List Char) : decode (encode cs) = cs := by
  induction cs with
  | nil => rfl
  | cons c cs ih =>
      rw [encode, List.flatMap_cons, decode_utf8EncodeChar]
      exact congrArg (c :: ·) ih

/-! ## The bytes of a string -/

end UTF8
