import CommandShell.Console.Action.Grammar
import CommandShell.Text.Quoted

/-!
Quoted texts: the letters before the quote, the escapes between the quotes, and fields in braces, each
with a value of its own.
-/

namespace CommandShell.Action

/-- A quoted text: what the letters before its quote say, and what stands between the quotes. -/
structure Quotation where
  isBytes : Bool
  isRaw : Bool
  hasFields : Bool
  content : List Char
  deriving DecidableEq, Repr

namespace Quotation

/-- The quotation that a token writes. -/
def ofText (text : List Char) : Quotation :=
  let isQuote := fun char => char == '"' || char == '\''
  let marks := (text.takeWhile (!isQuote ·)).map Char.toLower
  let quoted := text.dropWhile (!isQuote ·)
  let quote := quoted.headD '"'
  let width := if [quote, quote, quote].isPrefixOf quoted && 6 ≤ quoted.length then 3 else 1
  { isBytes := marks.contains 'b'
    isRaw := marks.contains 'r'
    hasFields := marks.contains 'f'
    content := (quoted.drop width).take (quoted.length - 2 * width) }

/-! ### Escapes -/

/-- Characters beyond the plain ones as the escapes that stand for them. A backslash in front of one stands
for itself. -/
def spelled : List Char → List Char
  | [] => []
  | '\\' :: next :: rest =>
      if 0x80 ≤ next.toNat then "\\u005c".toList ++ wide next ++ spelled rest
      else '\\' :: next :: spelled rest
  | ['\\'] => "\\u005c".toList
  | char :: rest => (if 0x80 ≤ char.toNat then wide char else [char]) ++ spelled rest
where
  /-- The escape of a character with eight digits. -/
  wide (char : Char) : List Char := '\\' :: 'U' :: Text.Quoted.hex 8 char.toNat

/-- The value of a hexadecimal digit. -/
def hexValue (char : Char) : Nat :=
  if char.isDigit then char.toNat - '0'.toNat else char.toLower.toNat - 'a'.toNat + 10

/-- The value of the hexadecimal digits at the start of a text, at most `count` of them, and how many there
are. -/
def hexRun (value found : Nat) : Nat → List Char → Nat × Nat
  | count + 1, char :: rest =>
      if isHexDigit char then hexRun (16 * value + hexValue char) (found + 1) count rest
      else (value, found)
  | _, _ => (value, found)

/-- The greatest code of a character. -/
def codeLimit : Nat := 0x10FFFF

/-- The names of characters that escapes can use. -/
def isCharacterName (_name : List Char) : Bool := false

/-- The flaw of an escape with a number of digits, which starts at a place. -/
def digitsFlaw? (place count : Nat) (problem : String) (rest : List Char) : Option Flaw :=
  let (value, found) := hexRun 0 0 count rest
  if found < count then some (.badEscape place (place + 1 + found) problem)
  else if codeLimit < value then
    some (.badEscape place (place + 1 + count) "illegal Unicode character")
  else none

/-- The flaw of an escape with a name, which starts at a place. -/
def nameFlaw? (place : Nat) (rest : List Char) : Option Flaw :=
  let malformed (finish : Nat) : Option Flaw :=
    some (.badEscape place finish "malformed \\N character escape")
  match rest with
  | '\x7b' :: inside =>
      let name := inside.takeWhile (· ≠ '\x7d')
      if name.length = inside.length then malformed (place + 2 + name.length)
      else if name.isEmpty then malformed (place + 2)
      else if isCharacterName name then none
      else some (.badEscape place (place + 3 + name.length) "unknown Unicode character name")
  | _ => malformed (place + 1)

/-- The flaw of the escapes in a spelled text that starts at a place. -/
def escapeFlaw? (place : Nat) : List Char → Option Flaw
  | '\\' :: mark :: rest =>
      let flaw? :=
        if mark = 'x' then digitsFlaw? place 2 "truncated \\xXX escape" rest
        else if mark = 'u' then digitsFlaw? place 4 "truncated \\uXXXX escape" rest
        else if mark = 'U' then digitsFlaw? place 8 "truncated \\UXXXXXXXX escape" rest
        else if mark = 'N' then nameFlaw? place rest
        else none
      flaw?.orElse fun _ => escapeFlaw? (place + 2) rest
  | _ :: rest => escapeFlaw? (place + 1) rest
  | [] => none

/-- The flaw of the escapes in bytes. -/
def bytesFlaw? (place : Nat) : List Char → Option Flaw
  | '\\' :: mark :: rest =>
      if mark = 'x' && (hexRun 0 0 2 rest).2 < 2 then some (.badBytesEscape place)
      else bytesFlaw? (place + 2) rest
  | _ :: rest => bytesFlaw? (place + 1) rest
  | [] => none

/-! ### Fields -/

/-- What a scan over a field has open: the quote it is inside of, its width, and the brackets. -/
structure Scan where
  quote? : Option (Char × Bool)
  brackets : List Char

/-- The value in a field and what follows it. -/
def fieldValue (scan : Scan) (before : List Char) (text : List Char) :
    Except Flaw (List Char × List Char) :=
  match text with
  | [] =>
      if scan.quote?.isSome then .error .openTextInField
      else match scan.brackets with
        | bracket :: _ => .error (.unmatchedInField bracket)
        | [] => .error .unclosedField
  | char :: rest =>
      if char = '\\' then .error .slashInField
      else match scan.quote? with
        | some (quote, isLong) =>
            if char ≠ quote then fieldValue scan (char :: before) rest
            else if !isLong then fieldValue { scan with quote? := none } (char :: before) rest
            else match rest with
              | second :: third :: after =>
                  if second = quote ∧ third = quote then
                    fieldValue { scan with quote? := none } (char :: char :: char :: before) after
                  else fieldValue scan (char :: before) (second :: third :: after)
              | rest => fieldValue scan (char :: before) rest
        | none =>
            if char = '\'' ∨ char = '"' then
              match rest with
              | second :: third :: after =>
                  if second = char ∧ third = char then
                    fieldValue { scan with quote? := some (char, true) }
                      (char :: char :: char :: before) after
                  else
                    fieldValue { scan with quote? := some (char, false) } (char :: before)
                      (second :: third :: after)
              | rest =>
                  fieldValue { scan with quote? := some (char, false) } (char :: before) rest
            else if ['(', '[', '\x7b'].contains char then
              if bracketLimit ≤ scan.brackets.length then .error .deepBracketsInField
              else fieldValue { scan with brackets := char :: scan.brackets } (char :: before) rest
            else if char = '#' then .error .commentInField
            else match scan.brackets with
              | bracket :: outer =>
                  if [')', ']', '\x7d'].contains char then
                    if [('(', ')'), ('[', ']'), ('\x7b', '\x7d')].contains (bracket, char) then
                      fieldValue { scan with brackets := outer } (char :: before) rest
                    else .error (.mismatchedInField char bracket)
                  else fieldValue scan (char :: before) rest
              | [] =>
                  if ['!', ':', '\x7d', '=', '>', '<'].contains char then
                    match rest with
                    | '=' :: after =>
                        if ['!', '=', '<', '>'].contains char then
                          fieldValue scan ('=' :: char :: before) after
                        else .ok (before.reverse, text)
                    | rest =>
                        if char = '>' ∨ char = '<' then fieldValue scan (char :: before) rest
                        else .ok (before.reverse, text)
                  else if char = ')' ∨ char = ']' then .error (.unmatchedInField char)
                  else fieldValue scan (char :: before) rest

/-- What a brace in literal text does: it ends the text before a field, or a doubled one stands for itself.
Inside the layout of a field braces are not doubled. -/
def brace (isInner : Bool) (before : List Char) (char : Char) (rest : List Char) :
    Except Flaw (List Char × List Char × Bool) :=
  if !isInner && rest.head? = some char then .ok ((char :: before).reverse, rest.drop 1, true)
  else if !isInner && char = '\x7d' then .error .singleBrace
  else .ok (before.reverse, char :: rest, false)

/-- Literal text before a field: the text, what follows it, and whether it ends with a doubled brace. A name
between braces is a part of the text. -/
def literal (isRaw isInner : Bool) (before : List Char) (text : List Char) :
    Except Flaw (List Char × List Char × Bool) :=
  match text with
  | [] => .ok (before.reverse, [], false)
  | char :: rest =>
      if char = '\x7b' ∨ char = '\x7d' then brace isInner before char rest
      else if isRaw || char ≠ '\\' then literal isRaw isInner (char :: before) rest
      else match rest with
        | [] => .ok ((char :: before).reverse, [], false)
        | 'N' :: '\x7b' :: inside =>
            let name := inside.takeWhile (· ≠ '\x7d') ++ (inside.dropWhile (· ≠ '\x7d')).take 1
            literal isRaw isInner (name.reverse ++ '\x7b' :: 'N' :: '\\' :: before)
              (inside.drop name.length)
        | 'N' :: next :: rest => literal isRaw isInner (next :: 'N' :: '\\' :: before) rest
        | next :: rest =>
            if next = '\x7b' ∨ next = '\x7d' then brace isInner ('\\' :: before) next rest
            else literal isRaw isInner (next :: '\\' :: before) rest
termination_by text.length
decreasing_by all_goals (simp; try omega)

/-- Read what follows the opening brace of a field, the closing brace included. `check` finds the flaw of a
value, and `layout` reads how the value is laid out. -/
def field (check : List Char → Option Flaw) (layout : List Char → Except Flaw (List Char))
    (text : List Char) : Except Flaw (List Char) := do
  let (value, rest) ← fieldValue ⟨none, []⟩ [] text
  let mark := rest.headD '\x7d'
  if value.all [' ', '\t', '\n', '\x0c'].contains then
    throw (if ['!', ':', '='].contains mark then .fieldBefore mark else .emptyField)
  if let some flaw := check ('(' :: value ++ [')', '\n']) then throw flaw
  let rest := if mark = '=' then
      (rest.drop 1).dropWhile [' ', '\t', '\n', '\x0b', '\x0c', '\r'].contains
    else rest
  let rest ← match rest with
    | '!' :: conversion :: rest =>
        if ['s', 'r', 'a'].contains conversion then pure rest else throw .badConversion
    | rest => pure rest
  let rest ← match rest with
    | ':' :: rest => if rest.isEmpty then throw .unclosedField else layout rest
    | rest => pure rest
  match rest with
  | '\x7d' :: rest => return rest
  | _ => throw .unclosedField

/-- Read text with fields to its end, or to the brace that closes the field around it. -/
def fields (check : List Char → Option Flaw) (isRaw : Bool) :
    Nat → Nat → List Char → Except Flaw (List Char)
  | 0, _, _ => .ok []
  | steps + 1, depth, text => do
      let (piece, rest, doubled) ← literal isRaw (depth ≠ 0) [] text
      if !isRaw then
        if let some flaw := escapeFlaw? 0 (spelled piece) then throw flaw
      if doubled then fields check isRaw steps depth rest
      else match rest with
        | '\x7b' :: inside =>
            if 2 ≤ depth then throw .deepFields
            fields check isRaw steps depth
              (← field check (fields check isRaw steps (depth + 1)) inside)
        | rest =>
            if depth ≠ 0 && rest.head? ≠ some '\x7d' then throw .unclosedField
            return rest

/-- The flaw of what stands between the quotes, fields excepted. -/
def flaw? (quotation : Quotation) : Option Flaw :=
  if quotation.isBytes then
    if quotation.content.any fun char => 0x80 ≤ char.toNat then some .wideBytes
    else if quotation.isRaw then none
    else bytesFlaw? 0 quotation.content
  else if quotation.isRaw || quotation.hasFields then none
  else escapeFlaw? 0 (spelled quotation.content)

/-- Check quotations that stand together, one after the other. `isBytes?` tells what the ones before are. -/
def checkAll (check : List Char → Option Flaw) (isBytes? : Option Bool) :
    List Quotation → Except Flaw Unit
  | [] => .ok ()
  | quotation :: rest => do
      if let some flaw := quotation.flaw? then throw flaw
      if isBytes?.any (· != quotation.isBytes) then throw .mixedTexts
      if quotation.hasFields then
        let _ ← fields check quotation.isRaw (2 * quotation.content.length + 2) 0 quotation.content
      checkAll check (some quotation.isBytes) rest

end Quotation

/-- The tree of quoted texts that stand together. -/
def textTree (check : List Char → Option Flaw) (parts : List Tree) : Except Flaw (List Tree) := do
  let quotations := parts.filterMap fun part => match part with
    | .token token => some (Quotation.ofText token.text)
    | .node .. => none
  Quotation.checkAll check none quotations
  return [.node (if quotations.any (·.hasFields) then .fieldText else .text) parts]

end CommandShell.Action
