import ApiScribe.Text.Digits

/-!
# Texts of settings files

Texts stand in quotation marks, where a backslash starts an escape, or in apostrophes, where every
character is itself; three marks in place of one let a text go over several lines. The line end
right after the three marks is no part of the text, and a backslash at the end of a line drops the
line end and the blanks after it. One or two marks may stand in front of the three that close a
text.
-/

namespace ApiScribe.Toml

/-- Whether a character may stand in a text or a comment as it is, line ends apart. -/
def isPlain (c : Char) : Bool :=
  c == '\t' || (0x20 ≤ c.toNat && c.toNat != 0x7f)

/-- Whether a character is a blank inside a line. -/
def isSpace (c : Char) : Bool :=
  c == ' ' || c == '\t'

/-- The text after a line end, if there is one in front. -/
def afterBreak? : List Char → Option (List Char)
  | '\n' :: rest => some rest
  | '\r' :: '\n' :: rest => some rest
  | _ => none

/-- The character of a code point that hexadecimal digits write. -/
def codePoint? (digits : List Char) : Option Char :=
  (Text.numberIn? 16 digits).bind fun n ↦ if n.isValidChar then some (Char.ofNat n) else none

/-- The character of an escape after its backslash, and what follows. -/
def escape? : List Char → Option (Char × List Char)
  | 'b' :: rest => some ('\x08', rest)
  | 't' :: rest => some ('\t', rest)
  | 'n' :: rest => some ('\n', rest)
  | 'f' :: rest => some ('\x0c', rest)
  | 'r' :: rest => some ('\r', rest)
  | '"' :: rest => some ('"', rest)
  | '\\' :: rest => some ('\\', rest)
  | 'u' :: rest =>
    if rest.length < 4 then none else (codePoint? (rest.take 4)).map (·, rest.drop 4)
  | 'U' :: rest =>
    if rest.length < 8 then none else (codePoint? (rest.take 8)).map (·, rest.drop 8)
  | _ => none

/-- How a text is written. -/
structure Quotation where
  /-- The mark around it. -/
  mark : Char
  /-- Whether a backslash starts an escape. -/
  escapes : Bool

/-- A text on one line, after its opening mark. -/
def readShort (q : Quotation) : Nat → List Char → Option (List Char × List Char)
  | 0, _ => none
  | _ + 1, [] => none
  | fuel + 1, c :: rest =>
    if c = q.mark then some ([], rest)
    else if c = '\\' ∧ q.escapes then do
      let (e, rest) ← escape? rest
      let (cs, rest) ← readShort q fuel rest
      return (e :: cs, rest)
    else if isPlain c then do
      let (cs, rest) ← readShort q fuel rest
      return (c :: cs, rest)
    else none

/-- What follows the blanks and line ends in front. -/
def skipBlank : List Char → List Char
  | ' ' :: rest => skipBlank rest
  | '\t' :: rest => skipBlank rest
  | '\n' :: rest => skipBlank rest
  | '\r' :: '\n' :: rest => skipBlank rest
  | cs => cs

/-- A text on several lines, after its opening marks and the line end there. -/
def readLong (q : Quotation) : Nat → List Char → Option (List Char × List Char)
  | 0, _ => none
  | _ + 1, [] => none
  | fuel + 1, c :: rest =>
    if rest.take 2 = [q.mark, q.mark] ∧ c = q.mark then
      let extra := ((rest.drop 2).take 2).takeWhile (· == q.mark)
      some (extra, rest.drop (2 + extra.length))
    else if c = '\\' ∧ q.escapes then
      match afterBreak? (rest.dropWhile isSpace) with
      | some rest => readLong q fuel (skipBlank rest)
      | none => do
        let (e, rest) ← escape? rest
        let (cs, rest) ← readLong q fuel rest
        return (e :: cs, rest)
    else
      match afterBreak? (c :: rest) with
      | some rest => do
        let (cs, rest) ← readLong q fuel rest
        return ('\n' :: cs, rest)
      | none =>
        if isPlain c then do
          let (cs, rest) ← readLong q fuel rest
          return (c :: cs, rest)
        else none

/-- The two ways to write a text. -/
def quotation? (c : Char) : Option Quotation :=
  if c = '"' then some ⟨'"', true⟩ else if c = '\'' then some ⟨'\'', false⟩ else none

/-- A text on one line, if a mark is in front. -/
def shortText? : List Char → Option (String × List Char)
  | [] => none
  | c :: rest => do
    let (cs, rest) ← readShort (← quotation? c) (rest.length + 1) rest
    return (String.ofList cs, rest)

/-- A text, if a mark is in front. -/
def text? : List Char → Option (String × List Char)
  | [] => none
  | c :: rest => do
    let q ← quotation? c
    if rest.take 2 = [c, c] then
      let body := rest.drop 2
      let body := (afterBreak? body).getD body
      let (cs, rest) ← readLong q (body.length + 1) body
      return (String.ofList cs, rest)
    else shortText? (c :: rest)

end ApiScribe.Toml
