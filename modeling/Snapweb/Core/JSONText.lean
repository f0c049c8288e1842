import Snapweb.Core.JSON
import Snapweb.Core.UTF8

/-!
# The text of JSON values

`encoding/json`, as a machine over the text that keeps the arrays and objects that are still open on
a stack, one character after the other.

* `JSON.parse` — the value that a text has, if it is one of JSON.
-/

namespace JSON

/-! ## Strings and numbers -/

/-- A character of a string: one that stands for itself or is escaped by a letter, or a code unit
of UTF-16 that is escaped by its number. -/
inductive Item
  | char (c : Char)
  | unit (n : ℕ)
  deriving DecidableEq, Repr

/-- The first unit of a character that has two. -/
def isHighSurrogate (n : ℕ) : Bool := 0xD800 ≤ n && n < 0xDC00

/-- The second unit of a character that has two. -/
def isLowSurrogate (n : ℕ) : Bool := 0xDC00 ≤ n && n < 0xE000

/-- The character of one code unit. -/
def rune (n : ℕ) : Char := if isLowSurrogate n then UTF8.runeError else Char.ofNat n

/-- `utf16.DecodeRune`: the character of two code units. -/
def runeOfPair (n m : ℕ) : Char := Char.ofNat (0x10000 + (n - 0xD800) * 0x400 + (m - 0xDC00))

/-- The characters of a string, after a first unit that still has no second one. -/
def unquoteAfter : Option ℕ → List Item → List Char
  | none, [] => []
  | some _, [] => [UTF8.runeError]
  | none, .char c :: items => c :: unquoteAfter none items
  | some _, .char c :: items => UTF8.runeError :: c :: unquoteAfter none items
  | none, .unit n :: items =>
      if isHighSurrogate n then unquoteAfter (some n) items else rune n :: unquoteAfter none items
  | some n, .unit m :: items =>
      if isLowSurrogate m then runeOfPair n m :: unquoteAfter none items
      else if isHighSurrogate m then UTF8.runeError :: unquoteAfter (some m) items
      else UTF8.runeError :: rune m :: unquoteAfter none items

/-- `unquote`: the characters of a string. -/
def unquote (items : List Item) : List Char := unquoteAfter none items

/-- What a letter stands for after a backslash. -/
def unescape : Char → Option Char
  | '"' => some '"'
  | '\\' => some '\\'
  | '/' => some '/'
  | 'b' => some '\x08'
  | 'f' => some '\x0c'
  | 'n' => some '\n'
  | 'r' => some '\r'
  | 't' => some '\t'
  | _ => none

/-- The value of a hexadecimal digit. -/
def hexDigit (c : Char) : Option ℕ :=
  if '0' ≤ c && c ≤ '9' then some (c.toNat - '0'.toNat)
  else if 'a' ≤ c && c ≤ 'f' then some (c.toNat - 'a'.toNat + 10)
  else if 'A' ≤ c && c ≤ 'F' then some (c.toNat - 'A'.toNat + 10)
  else none

/-- What has been read of a number. -/
inductive Digits
  | neg
  | zero
  | int
  | dot
  | frac
  | exp
  | expSign
  | expDigits
  deriving DecidableEq, Repr

/-- A number begins. -/
def Digits.start (c : Char) : Option Digits :=
  if c = '-' then some .neg
  else if c = '0' then some .zero
  else if c.isDigit then some .int
  else none

/-- A number goes on. -/
def Digits.next (d : Digits) (c : Char) : Option Digits :=
  match d with
  | .neg => if c = '0' then some .zero else if c.isDigit then some .int else none
  | .zero => if c = '.' then some .dot else if c = 'e' || c = 'E' then some .exp else none
  | .int =>
      if c.isDigit then some .int
      else if c = '.' then some .dot
      else if c = 'e' || c = 'E' then some .exp
      else none
  | .dot => if c.isDigit then some .frac else none
  | .frac => if c.isDigit then some .frac else if c = 'e' || c = 'E' then some .exp else none
  | .exp => if c = '+' || c = '-' then some .expSign else if c.isDigit then some .expDigits else none
  | .expSign => if c.isDigit then some .expDigits else none
  | .expDigits => if c.isDigit then some .expDigits else none

/-- A number may end here. -/
def Digits.final : Digits → Bool
  | .zero => true
  | .int => true
  | .frac => true
  | .expDigits => true
  | _ => false

/-! ## The machine -/

/-- An array or an object that is still open, with what is in it so far; a member whose value comes
next has its key. -/
inductive Frame
  | array (vs : List (JSON String))
  | object (ms : List (String × JSON String))
  | member (ms : List (String × JSON String)) (key : String)

/-- What the machine is in the middle of. -/
inductive Mode
  | value
  | firstElement
  | firstKey
  | key
  | colon
  | endValue
  | done (v : JSON String)
  | string (items : List Item)
  | escape (items : List Item)
  | hex (items : List Item) (digits : List ℕ)
  | number (d : Digits) (text : List Char)
  | literal (rest : List Char) (v : JSON String)

/-- The machine: what is open, the innermost first, and what it is in the middle of. -/
structure Scanner where
  stack : List Frame
  mode : Mode

/-- White space. -/
def isSpace (c : Char) : Bool := c = ' ' || c = '\t' || c = '\r' || c = '\n'

namespace Scanner

/-- A value has come to its end. -/
def complete (v : JSON String) : List Frame → Option Scanner
  | [] => some ⟨[], .done v⟩
  | .array vs :: st => some ⟨.array (vs ++ [v]) :: st, .endValue⟩
  | .member ms k :: st => some ⟨.object (ms ++ [(k, v)]) :: st, .endValue⟩
  | .object _ :: _ => none

/-- A string has come to its end: a key where one is due, and a value elsewhere. -/
def endString (text : String) : List Frame → Option Scanner
  | .object ms :: st => some ⟨.member ms text :: st, .colon⟩
  | st => complete (.string text) st

/-- `stateBeginValue`. -/
def beginValue (st : List Frame) (c : Char) : Option Scanner :=
  if isSpace c then some ⟨st, .value⟩
  else if c = '{' then some ⟨.object [] :: st, .firstKey⟩
  else if c = '[' then some ⟨.array [] :: st, .firstElement⟩
  else if c = '"' then some ⟨st, .string []⟩
  else if c = 't' then some ⟨st, .literal ['r', 'u', 'e'] (.bool true)⟩
  else if c = 'f' then some ⟨st, .literal ['a', 'l', 's', 'e'] (.bool false)⟩
  else if c = 'n' then some ⟨st, .literal ['u', 'l', 'l'] .null⟩
  else (Digits.start c).map fun d => ⟨st, .number d [c]⟩

/-- `stateBeginString`. -/
def beginString (st : List Frame) (c : Char) : Option Scanner :=
  if isSpace c then some ⟨st, .key⟩ else if c = '"' then some ⟨st, .string []⟩ else none

/-- `stateEndValue`, after an element or a member. -/
def endValue (st : List Frame) (c : Char) : Option Scanner :=
  if isSpace c then some ⟨st, .endValue⟩
  else
    match st with
    | .array vs :: st' =>
        if c = ',' then some ⟨.array vs :: st', .value⟩
        else if c = ']' then complete (.array vs) st'
        else none
    | .object ms :: st' =>
        if c = ',' then some ⟨.object ms :: st', .key⟩
        else if c = '}' then complete (.object ms) st'
        else none
    | _ => none

/-- What may come after a value: `stateEndValue`, and `stateEndTop` after the outermost one. -/
def afterValue (s : Scanner) (c : Char) : Option Scanner :=
  match s.mode with
  | .endValue => endValue s.stack c
  | .done v => if isSpace c then some ⟨s.stack, .done v⟩ else none
  | _ => none

/-- One character. -/
def step (s : Scanner) (c : Char) : Option Scanner :=
  match s.mode with
  | .value => beginValue s.stack c
  | .firstElement =>
      if isSpace c then some s
      else if c = ']' then endValue s.stack c
      else beginValue s.stack c
  | .firstKey =>
      if isSpace c then some s
      else if c = '}' then endValue s.stack c
      else beginString s.stack c
  | .key => beginString s.stack c
  | .colon =>
      if isSpace c then some s else if c = ':' then some ⟨s.stack, .value⟩ else none
  | .endValue => afterValue s c
  | .done _ => afterValue s c
  | .string items =>
      if c = '"' then endString (String.ofList (unquote items)) s.stack
      else if c = '\\' then some ⟨s.stack, .escape items⟩
      else if c.toNat < 0x20 then none
      else some ⟨s.stack, .string (items ++ [.char c])⟩
  | .escape items =>
      if c = 'u' then some ⟨s.stack, .hex items []⟩
      else (unescape c).map fun c' => ⟨s.stack, .string (items ++ [.char c'])⟩
  | .hex items digits =>
      (hexDigit c).map fun d =>
        match digits with
        | [d₁, d₂, d₃] =>
            ⟨s.stack, .string (items ++ [.unit (d₁ * 0x1000 + d₂ * 0x100 + d₃ * 0x10 + d)])⟩
        | _ => ⟨s.stack, .hex items (digits ++ [d])⟩
  | .number d text =>
      match d.next c with
      | some d' => some ⟨s.stack, .number d' (text ++ [c])⟩
      | none =>
          if d.final then
            (complete (.number (String.ofList text)) s.stack).bind fun s' => afterValue s' c
          else none
  | .literal rest v =>
      match rest with
      | [] => none
      | [e] => if c = e then complete v s.stack else none
      | e :: rest' => if c = e then some ⟨s.stack, .literal rest' v⟩ else none

/-- The text has come to its end. -/
def eof (s : Scanner) : Option (JSON String) :=
  match s.mode with
  | .done v => some v
  | .number d text => if d.final && s.stack.isEmpty then some (.number (String.ofList text)) else none
  | _ => none

/-- A text. -/
def run : Scanner → List Char → Option Scanner
  | s, [] => some s
  | s, c :: cs => (step s c).bind fun s' => run s' cs

end Scanner

/-- The value of a text; a number is its text. -/
def parse (text : List Char) : Option (JSON String) :=
  (Scanner.run ⟨[], .value⟩ text).bind Scanner.eof

end JSON
