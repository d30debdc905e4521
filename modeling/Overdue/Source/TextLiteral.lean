import Overdue.Source.Token
import Overdue.Number.Numeral
import Overdue.Unicode.Name

/-!
# Literals of a source file

What number and text tokens stand for. A text with the mark `b` is bytes; one with the mark `f` is a
template, whose holes hold expressions that are read for themselves; the mark `r` keeps backslashes
as they are.
-/
namespace Overdue.Source

/-! ## Numbers -/

/-- A number as a literal gives it. -/
inductive NumberLiteral
  | whole (n : Nat)
  | double (x : Binary64)
  | imaginary (x : Binary64)
deriving Repr

/-- Reads a number token; a decimal whole number has at most as many digits as the limit allows. -/
def readNumber? (lexeme : List Char) : Option NumberLiteral :=
  let s := lexeme.filter (· != '_')
  let whole (base : Nat) (ds : List Char) : NumberLiteral :=
    .whole (Numeral.ofDigits base (ds.filterMap Numeral.digitValue?))
  let double (s : List Char) : Option Binary64 := Numeral.readDouble? s
  match s with
  | '0' :: 'x' :: ds => some (whole 16 ds)
  | '0' :: 'X' :: ds => some (whole 16 ds)
  | '0' :: 'o' :: ds => some (whole 8 ds)
  | '0' :: 'O' :: ds => some (whole 8 ds)
  | '0' :: 'b' :: ds => some (whole 2 ds)
  | '0' :: 'B' :: ds => some (whole 2 ds)
  | _ =>
    if s.getLast? = some 'j' ∨ s.getLast? = some 'J' then
      (double s.dropLast).map .imaginary
    else if s.all Char.isDigit then
      if s.length > Numeral.digitLimit then none else some (whole 10 s)
    else (double s).map .double

/-! ## Escapes -/

/-- The code of an escape by digits of a base, with the rest; at most `most` digits are taken. -/
def takeCode (base : Nat) : (most : Nat) → (code taken : Nat) → List Char → Nat × Nat × List Char
  | 0, code, taken, s => (code, taken, s)
  | _ + 1, code, taken, [] => (code, taken, [])
  | most + 1, code, taken, c :: rest =>
    match (Numeral.digitValue? c).filter fun d => d < base ∧ c.toNat < 128 with
    | some d => takeCode base most (base * code + d) (taken + 1) rest
    | none => (code, taken, c :: rest)

/-- The character that a letter behind a backslash stands for. -/
def simpleEscape? : Char → Option Nat
  | '\\' => some 92
  | '\'' => some 39
  | '"' => some 34
  | 'a' => some 7
  | 'b' => some 8
  | 'f' => some 12
  | 'n' => some 10
  | 'r' => some 13
  | 't' => some 9
  | 'v' => some 11
  | _ => none

/-- A character by its code. A text holds characters only, so that a surrogate, which a literal may
name, becomes the replacement character, and two of them cannot be told apart. -/
def characterOf (code : Nat) : Char :=
  if code < 0xD800 ∨ (0xDFFF < code ∧ code < 0x110000) then Char.ofNat code else '\ufffd'

/-- Decodes escapes to codes. `wide` are those of texts, which bytes do not have. A backslash at the
end stands for itself. None if an escape lacks digits, names nothing, or goes past the last
character. -/
def decodeEscapes (wide : Bool) : (fuel : Nat) → List Char → Option (List Nat)
  | 0, _ => some []
  | _ + 1, [] => some []
  | fuel + 1, '\\' :: s =>
    match s with
    | [] => some ['\\'.toNat]
    | '\n' :: rest => decodeEscapes wide fuel rest
    | c :: rest =>
      let digits (width : Nat) : Option (List Nat) :=
        let (code, taken, rest') := takeCode 16 width 0 0 rest
        if taken < width ∨ code ≥ 0x110000 then none
        else (decodeEscapes wide fuel rest').map (code :: ·)
      match simpleEscape? c with
      | some code => (decodeEscapes wide fuel rest).map (code :: ·)
      | none =>
        if '0' ≤ c ∧ c ≤ '7' then
          let (code, _, rest') := takeCode 8 3 0 0 (c :: rest)
          (decodeEscapes wide fuel rest').map (code :: ·)
        else if c = 'x' then digits 2
        else if wide ∧ c = 'u' then digits 4
        else if wide ∧ c = 'U' then digits 8
        else if wide ∧ c = 'N' then
          match rest with
          | '\x7b' :: rest =>
            match rest.dropWhile (· != '\x7d') with
            | _ :: rest' =>
              match Unicode.Name.code? (rest.takeWhile (· != '\x7d')) with
              | some code => (decodeEscapes wide fuel rest').map (code :: ·)
              | none => none
            | [] => none
          | _ => none
        else (decodeEscapes wide fuel (c :: rest)).map (92 :: ·)
  | fuel + 1, c :: rest => (decodeEscapes wide fuel rest).map (c.toNat :: ·)

/-- The characters of a text between its quotes. -/
def decodeText (raw : Bool) (s : List Char) : Option (List Char) :=
  if raw then some s else (decodeEscapes true s.length s).map (·.map characterOf)

/-- The bytes of a text between its quotes; only ASCII may stand there. -/
def decodeBytes (raw : Bool) (s : List Char) : Option (List UInt8) :=
  if raw then some (s.map fun c => c.toNat.toUInt8)
  else (decodeEscapes false s.length s).map (·.map Nat.toUInt8)

/-! ## Templates -/

/-- An expression in a template, with the number of line feeds in front of it. -/
structure Hole where
  code : List Char
  lines : Nat
deriving Repr

/-- A template as far as it could be read: its holes in order, and whether it is ill-formed behind
them. -/
structure Template where
  holes : List Hole := []
  broken : Bool := false
deriving Repr

namespace Template

/-- What stands in front of the next hole, or of the end. -/
inductive Literal
  /-- The literal ends in front of a brace or of the end. -/
  | upTo (chunk rest : List Char)
  /-- The literal ends in a doubled brace; more literal follows. -/
  | doubled (chunk rest : List Char)
  | wrong

/-- Reads literal text. Outside a format a doubled brace stands for a brace, and a closing brace may
not stand alone. The braces around the name of a character are literal. -/
def literal (raw nested : Bool) : (fuel : Nat) → (chunk : List Char) → List Char → Literal
  | 0, chunk, s => .upTo chunk.reverse s
  | _ + 1, chunk, [] => .upTo chunk.reverse []
  | fuel + 1, chunk, c :: rest =>
    let brace (chunk : List Char) (c : Char) (rest : List Char) : Option Literal :=
      if c = '\x7b' ∨ c = '\x7d' then
        if nested then some (.upTo chunk.reverse (c :: rest))
        else if rest.head? = some c then some (.doubled (c :: chunk).reverse (rest.drop 1))
        else if c = '\x7d' then some .wrong
        else some (.upTo chunk.reverse (c :: rest))
      else none
    if c = '\\' ∧ !raw then
      match rest with
      | [] => .upTo ('\\' :: chunk).reverse []
      | 'N' :: '\x7b' :: rest' =>
        let name := rest'.take ((rest'.takeWhile (· != '\x7d')).length + 1)
        literal raw nested fuel (name.reverse ++ '\x7b' :: 'N' :: '\\' :: chunk)
          (rest'.drop name.length)
      | 'N' :: d :: rest' => literal raw nested fuel (d :: 'N' :: '\\' :: chunk) rest'
      | d :: rest' =>
        match brace ('\\' :: chunk) d rest' with
        | some l => l
        | none => literal raw nested fuel (d :: '\\' :: chunk) rest'
    else match brace chunk c rest with
      | some l => l
      | none => literal raw nested fuel (c :: chunk) rest

/-- Where the reading of an expression in a hole stands: the quotes it is in, and the brackets that
are open. -/
structure Scan where
  quote : Option (Char × Nat) := none
  brackets : List Char := []

/-- Reads an expression up to the conversion, the format, the equals sign or the brace that ends
it. None if it cannot end. -/
def expression : (fuel : Nat) → Scan → (code : List Char) → List Char →
    Option (List Char × List Char)
  | 0, _, _, _ => none
  | _ + 1, _, _, [] => none
  | fuel + 1, scan, code, c :: rest =>
    let go (scan : Scan) (n : Nat) : Option (List Char × List Char) :=
      expression fuel scan ((c :: rest).take n |>.reverse.append code) ((c :: rest).drop n)
    if c = '\\' then none
    else match scan.quote with
      | some (q, size) =>
        if c = q then
          if size = 3 then
            match rest with
            | c1 :: c2 :: _ =>
              if c1 = q ∧ c2 = q then go { scan with quote := none } 3 else go scan 1
            | _ => go scan 1
          else go { scan with quote := none } 1
        else go scan 1
      | none =>
        if c = '\'' ∨ c = '"' then
          match rest with
          | c1 :: c2 :: _ =>
            if c1 = c ∧ c2 = c then go { scan with quote := some (c, 3) } 3
            else go { scan with quote := some (c, 1) } 1
          | _ => go { scan with quote := some (c, 1) } 1
        else if c = '(' ∨ c = '[' ∨ c = '\x7b' then
          if scan.brackets.length ≥ 200 then none
          else go { scan with brackets := c :: scan.brackets } 1
        else if c = '#' then none
        else if scan.brackets.isEmpty ∧
            (c = '!' ∨ c = ':' ∨ c = '\x7d' ∨ c = '=' ∨ c = '>' ∨ c = '<') then
          if rest.head? = some '=' ∧ (c = '!' ∨ c = '=' ∨ c = '<' ∨ c = '>') then go scan 2
          else if c = '>' ∨ c = '<' then go scan 1
          else some (code.reverse, c :: rest)
        else if c = ')' ∨ c = ']' ∨ c = '\x7d' then
          match scan.brackets with
          | b :: outer =>
            if (b = '(' ∧ c = ')') ∨ (b = '[' ∧ c = ']') ∨ (b = '\x7b' ∧ c = '\x7d') then
              go { scan with brackets := outer } 1
            else none
          | [] => none
        else go scan 1

def lineFeeds (s : List Char) : Nat := s.count '\n'

def isBlankCode (s : List Char) : Bool :=
  s.all fun c => c = ' ' ∨ c = '\t' ∨ c = '\n' ∨ c = '\x0c'

def isSpace (c : Char) : Bool := c = ' ' || (9 ≤ c.toNat && c.toNat ≤ 13)

/-- Reads a template, or the format of a hole when `level` is positive. `whole` is the text that
line feeds are counted in. The answer has the rest, which is none if the template is ill-formed. -/
def read (raw : Bool) (whole : List Char) : (fuel level : Nat) → (holes : List Hole) → List Char →
    List Hole × Option (List Char)
  | 0, _, holes, _ => (holes, none)
  | fuel + 1, level, holes, s =>
    let sound (chunk : List Char) : Bool := (decodeText raw chunk).isSome
    match literal raw (level > 0) (s.length + 1) [] s with
    | .wrong => (holes, none)
    | .doubled chunk rest =>
      if sound chunk then read raw whole fuel level holes rest else (holes, none)
    | .upTo chunk rest =>
      if !sound chunk then (holes, none)
      else match rest with
        | [] => (holes, some [])
        | c :: rest =>
          if c = '\x7d' then (holes, some (c :: rest))
          else if level ≥ 2 then (holes, none)
          else match expression (rest.length + 1) {} [] rest with
            | none => (holes, none)
            | some (code, after) =>
              if isBlankCode code then (holes, none)
              else
                let lines := lineFeeds (whole.take (whole.length - rest.length - 1))
                let holes := holes ++ [⟨code, lines⟩]
                let after := match after with
                  | '=' :: r => r.dropWhile isSpace
                  | r => r
                let converted : Option (List Char) := match after with
                  | '!' :: k :: r => if k = 's' ∨ k = 'r' ∨ k = 'a' then some r else none
                  | '!' :: [] => none
                  | r => some r
                match converted with
                | none => (holes, none)
                | some (':' :: r) =>
                  match read raw whole fuel (level + 1) holes r with
                  | (holes, some ('\x7d' :: r)) => read raw whole fuel level holes r
                  | (holes, _) => (holes, none)
                | some ('\x7d' :: r) => read raw whole fuel level holes r
                | some _ => (holes, none)

/-- The template between the quotes of a text. -/
def ofText (raw : Bool) (s : List Char) : Template :=
  match read raw s (2 * s.length + 2) 0 [] s with
  | (holes, some []) => ⟨holes, false⟩
  | (holes, _) => ⟨holes, true⟩

end Template

/-! ## Text tokens -/

/-- What one text token stands for. -/
inductive TextPart
  | chars (s : List Char)
  | bytes (bs : List UInt8)
  | template (t : Template)
  /-- Its bytes hold characters outside ASCII. -/
  | foreignBytes
  /-- An escape in it cannot be decoded. -/
  | badEscape
deriving Repr

/-- The marks of a text token and what stands between its quotes. -/
def splitText (lexeme : List Char) : List Char × List Char :=
  let isQuote (c : Char) : Bool := c = '"' ∨ c = '\''
  let mark := lexeme.takeWhile fun c => !isQuote c
  let quoted := lexeme.drop mark.length
  let size := match quoted with
    | a :: b :: c :: _ => if a = b ∧ b = c ∧ quoted.length ≥ 6 then 3 else 1
    | _ => 1
  (mark.map Char.toLower, ((quoted.drop size).reverse.drop size).reverse)

def readText (lexeme : List Char) : TextPart :=
  let (mark, body) := splitText lexeme
  let raw := mark.contains 'r'
  if mark.contains 'b' then
    if body.any (·.toNat ≥ 128) then .foreignBytes
    else match decodeBytes raw body with
      | some bs => .bytes bs
      | none => .badEscape
  else if mark.contains 'f' then .template (Template.ofText raw body)
  else match decodeText raw body with
    | some s => .chars s
    | none => .badEscape

end Overdue.Source
