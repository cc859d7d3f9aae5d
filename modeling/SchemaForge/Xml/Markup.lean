import SchemaForge.Text.Lexing
import SchemaForge.Xml.Name

namespace SchemaForge

/-! # Markup

The parts that a document is cut into before its elements are matched: tags, comments, instructions
and the texts between them. What begins at `<` tells which kind of part it is; everything up to the
next `<` is text. A document type declaration is no part, so documents with one are refused.
-/

namespace Xml

/-- A part of a document. -/
inductive Markup where
  /-- The tag that begins an element; `closed` when it ends the element too. -/
  | start (name : QName) (attributes : List (QName × String)) (closed : Bool)
  | stop (name : QName)
  /-- Text in which references are not yet resolved. -/
  | text (raw : List Char)
  /-- Text that is taken as it is. -/
  | literal (content : List Char)
  | comment (content : List Char)
  | instruction (target : String) (content : List Char)

/-! ## References -/

/-- The value of a digit in bases up to sixteen. -/
def digitValue (c : Char) : Nat :=
  if c.isDigit then c.toNat - 48 else if c.toNat < 97 then c.toNat - 55 else c.toNat - 87

/-- The hexadecimal digits. -/
def isHexDigit (c : Char) : Bool :=
  c.isDigit || ('a' ≤ c && c ≤ 'f') || ('A' ≤ c && c ≤ 'F')

/-- The character with this number. Numbers that no character has give the replacement character;
characters that a document may not hold are refused. -/
def charOfNumber? (n : Nat) : Option Char :=
  if 0x100000000 ≤ n then none
  else
    let c := if n.isValidChar then Char.ofNat n else Char.ofNat 0xFFFD
    if isChar c then some c else none

/-- The character whose number is written in this base, and the text after the semicolon that
ends it. -/
def numbered? (base : Nat) (isDigit : Char → Bool) (cs : List Char) : Option (Char × List Char) :=
  match cs.takeWhile isDigit, cs.dropWhile isDigit with
  | [], _ => none
  | digits, ';' :: rest =>
    (charOfNumber? (digits.foldl (fun n d => base * n + digitValue d) 0)).map (·, rest)
  | _, _ => none

/-- The character that a name stands for. -/
def namedChar? (name : String) : Option Char :=
  match name with
  | "quot" => some '"'
  | "amp" => some '&'
  | "apos" => some '\''
  | "lt" => some '<'
  | "gt" => some '>'
  | _ => none

/-- Reads a reference, from behind its `&`. -/
def reference? (cs : List Char) : Option (Char × List Char) :=
  match cs with
  | '#' :: 'x' :: rest => numbered? 16 isHexDigit rest
  | '#' :: rest => numbered? 10 Char.isDigit rest
  | _ =>
    match plainName? cs with
    | some (name, ';' :: rest) => (namedChar? name).map (·, rest)
    | _ => none

/-- Reads one character of an attribute value. A literal tab or line end becomes a space. -/
def valueChar? : List Char → Option (Char × List Char)
  | [] => none
  | '&' :: cs => reference? cs
  | '\r' :: '\n' :: cs => some (' ', cs)
  | c :: cs => some (if isSpace c then ' ' else c, cs)

/-- Reads one character of a text. A line end becomes a line feed. -/
def textChar? : List Char → Option (Char × List Char)
  | [] => none
  | '&' :: cs => reference? cs
  | '\r' :: '\n' :: cs => some ('\n', cs)
  | c :: cs => some (if c = '\r' then '\n' else c, cs)

/-! ## Tags -/

/-- The text behind the blanks at its front. -/
def skipSpaces (cs : List Char) : List Char :=
  cs.dropWhile isSpace

/-- Reads a value between quotes, as it is written. -/
def quotedValue? (cs : List Char) : Option (List Char × List Char) := do
  match cs with
  | quote :: rest =>
    if quote ≠ '"' ∧ quote ≠ '\'' then none
    let (value, rest) ← Chars.until? [quote] rest
    if value.all fun c => isChar c && c ≠ '<' then some (value, rest) else none
  | [] => none

/-- Reads a name, an equals sign and a quoted value. -/
def assignment? (cs : List Char) : Option (QName × List Char × List Char) := do
  let (name, rest) ← qname? cs
  match skipSpaces rest with
  | '=' :: rest =>
    let (value, rest) ← quotedValue? (skipSpaces rest)
    return (name, value, rest)
  | _ => none

/-- Reads an attribute. -/
def attribute? (cs : List Char) : Option ((QName × String) × List Char) := do
  let (name, raw, rest) ← assignment? cs
  let value ← Chars.tokens? valueChar? raw
  return ((name, String.ofList value), rest)

/-- Reads the attributes of a tag, at most `bound` of them, and the end of the tag. Blanks stand
before each attribute. -/
def tagRest? : Nat → List Char → Option (List (QName × String) × Bool × List Char)
  | 0, _ => none
  | bound + 1, cs =>
    match skipSpaces cs with
    | '/' :: '>' :: rest => some ([], true, rest)
    | '>' :: rest => some ([], false, rest)
    | body => do
      if body.length = cs.length then none
      let (first, rest) ← attribute? body
      let (others, closed, rest) ← tagRest? bound rest
      return (first :: others, closed, rest)

/-- Reads the tag that begins an element, from behind its `<`. -/
def startTag? (cs : List Char) : Option (Markup × List Char) := do
  let (name, rest) ← qname? cs
  let (attributes, closed, rest) ← tagRest? (rest.length + 1) rest
  return (.start name attributes closed, rest)

/-- Reads the tag that ends an element, from behind its `</`. -/
def stopTag? (cs : List Char) : Option (Markup × List Char) := do
  let (name, rest) ← qname? cs
  match skipSpaces rest with
  | '>' :: rest => some (.stop name, rest)
  | _ => none

/-! ## The other parts -/

/-- Reads a comment, from behind its `<!--`. Two hyphens may not stand within it, nor one at its
end. -/
def comment? (cs : List Char) : Option (Markup × List Char) := do
  let (content, rest) ← Chars.until? ['-', '-', '>'] cs
  if !content.all isChar || Chars.holds ['-', '-'] content || content.getLast? == some '-' then none
  return (.comment content, rest)

/-- Reads text that is taken as it is, from behind its `<![CDATA[`. -/
def literal? (cs : List Char) : Option (Markup × List Char) := do
  let (content, rest) ← Chars.until? [']', ']', '>'] cs
  if content.all isChar then some (.literal content, rest) else none

/-- Reads an instruction, from behind its `<?`. The one that declares the document is none. -/
def instruction? (cs : List Char) : Option (Markup × List Char) := do
  if (Chars.after? "xml " cs).isSome then none
  let (target, rest) ← plainName? cs
  let (content, rest) ← Chars.until? ['?', '>'] (skipSpaces rest)
  if content.all isChar then some (.instruction target content, rest) else none

/-- Reads text up to the next `<`. -/
def text? (cs : List Char) : Option (Markup × List Char) :=
  let raw := cs.takeWhile (· ≠ '<')
  if !raw.all isChar || Chars.holds [']', ']', '>'] raw then none
  else some (.text raw, cs.dropWhile (· ≠ '<'))

/-- Reads the part that begins here. -/
def markup? (cs : List Char) : Option (Markup × List Char) :=
  if let some rest := Chars.after? "<!--" cs then comment? rest
  else if let some rest := Chars.after? "<![CDATA[" cs then literal? rest
  else if let some rest := Chars.after? "<?" cs then instruction? rest
  else if let some rest := Chars.after? "</" cs then stopTag? rest
  else if let some rest := Chars.after? "<" cs then startTag? rest
  else text? cs

/-! ## The declaration -/

/-- The text behind the blanks that must stand here unless the declaration ends here. -/
def gap? (cs : List Char) : Option (List Char) :=
  if skipSpaces cs ≠ cs || cs.isEmpty || (Chars.after? "?>" cs).isSome then some (skipSpaces cs)
  else none

/-- The text behind an assignment whose name begins with `word`, if one stands here. -/
def skipAssignment? (word : String) (cs : List Char) : Option (List Char) :=
  if (Chars.after? word cs).isSome then (assignment? cs).map (·.2.2) else some cs

/-- The text behind the declaration of the document, if it has one. A declaration names a version,
and may name an encoding and whether the document stands alone. -/
def afterDeclaration? (cs : List Char) : Option (List Char) := do
  match Chars.after? "<?xml " cs with
  | none => return cs
  | some _ =>
    let rest ← gap? (cs.drop 5)
    if (Chars.after? "version" rest).isNone then none
    let rest ← gap? (← skipAssignment? "version" rest)
    let rest ← if (Chars.after? "encoding" rest).isSome then
        gap? (← skipAssignment? "encoding" rest)
      else some rest
    let rest ← skipAssignment? "standalone" rest
    Chars.after? "?>" (skipSpaces rest)

end Xml

end SchemaForge
