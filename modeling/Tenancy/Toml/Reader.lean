import Tenancy.Toml.Bare
import Tenancy.Toml.Quotation
import Tenancy.Toml.Table

/-!
# Reading TOML

A text is a sequence of lines: headers, assignments, blank lines and comments. Each is carried out
on the table under construction as it is read.
-/

namespace Tenancy.Toml

open Quotation

/-! ### Space and comments -/

/-- The text from its first character that is no white space. -/
def skipSpace (cs : List Char) : List Char := cs.dropWhile isSpace

/-- The text after a comment, if it starts with one: everything up to the end of the line. The
comment must not hold control characters. -/
def skipComment : List Char → List Char
  | '#' :: rest => rest.dropWhile isPlain
  | cs => cs

/-- The text after the end of a line, where white space and a comment may stand before it. -/
def lineEnd? (cs : List Char) : Option (List Char) :=
  match skipComment (skipSpace cs) with
  | [] => some []
  | rest => afterLineEnd? rest

/-- The text without white space, comments and line ends at its start, as they may stand between
the items of an array; one unit of `fuel` for each line. -/
def skipLines : Nat → List Char → List Char
  | 0, cs => cs
  | fuel + 1, cs =>
    match afterLineEnd? (skipComment (skipSpace cs)) with
    | some rest => skipLines fuel rest
    | none => skipComment (skipSpace cs)

/-! ### Keys -/

/-- The characters of a bare key. -/
def isKeyChar (c : Char) : Bool := c.isAlphanum || c = '_' || c = '-'

/-- One part of a key. -/
def simpleKey? : List Char → Option (String × List Char)
  | '"' :: rest => (basic? rest).map fun (cs, rest) => (String.ofList cs, rest)
  | '\'' :: rest => (literal? rest).map fun (cs, rest) => (String.ofList cs, rest)
  | cs =>
    match cs.takeWhile isKeyChar with
    | [] => none
    | run => some (String.ofList run, cs.dropWhile isKeyChar)

/-- A key of one or more parts with points between them, and the rest after white space; one unit
of `fuel` for each part. -/
def key? : Nat → List Char → Option (List String × List Char)
  | 0, _ => none
  | fuel + 1, cs => do
    let (part, rest) ← simpleKey? (skipSpace cs)
    match skipSpace rest with
    | '.' :: rest =>
      let (parts, rest) ← key? fuel rest
      return (part :: parts, rest)
    | rest => return ([part], rest)

/-- A key as the path to a table and a last part. -/
def splitKey? (parts : List String) : Option (List String × String) :=
  parts.getLast?.map fun last => (parts.dropLast, last)

/-! ### Values -/

mutual

/-- A value and the rest of the text, where arrays and inline tables nest up to `depth` times. Each
value, item and pair takes one unit of `fuel`, so the length of the text is enough. -/
def value? : Nat → Nat → List Char → Option (Toml × List Char)
  | 0, _, _ => none
  | fuel + 1, depth, cs =>
    match cs with
    | '"' :: _ => (Quotation.read? cs).map fun (s, rest) => (.string (String.ofList s), rest)
    | '\'' :: _ => (Quotation.read? cs).map fun (s, rest) => (.string (String.ofList s), rest)
    | '[' :: rest =>
      match depth with
      | 0 => none
      | depth + 1 => (items? fuel depth rest).map fun (items, rest) => (.array items, rest)
    | '\x7b' :: rest =>
      match depth, skipSpace rest with
      | 0, _ => none
      | _ + 1, '\x7d' :: rest => some (.table [], rest)
      | depth + 1, rest =>
        (pairs? fuel depth (.mk .header []) rest).map fun (t, rest) => (t.toToml, rest)
    | _ => Bare.read? cs

/-- The items of an array up to its closing bracket. White space, line ends and comments may stand
around every item, and a comma after the last one. -/
def items? : Nat → Nat → List Char → Option (List Toml × List Char)
  | 0, _, _ => none
  | fuel + 1, depth, cs =>
    match skipLines cs.length cs with
    | ']' :: rest => some ([], rest)
    | cs => do
      let (item, rest) ← value? fuel depth cs
      match skipLines rest.length rest with
      | ']' :: rest => return ([item], rest)
      | ',' :: rest =>
        let (items, rest) ← items? fuel depth rest
        return (item :: items, rest)
      | _ => none

/-- One or more pairs of an inline table up to its closing brace, put into the table. -/
def pairs? : Nat → Nat → Table → List Char → Option (Table × List Char)
  | 0, _, _, _ => none
  | fuel + 1, depth, t, cs => do
    let (parts, rest) ← key? (depthLimit - 1) cs
    let (path, last) ← splitKey? parts
    let '=' :: rest := rest | none
    let (value, rest) ← value? fuel depth (skipSpace rest)
    let t ← t.assign path last value
    match skipSpace rest with
    | '\x7d' :: rest => return (t, rest)
    | ',' :: rest => pairs? fuel depth t rest
    | _ => none

end

/-! ### Lines -/

/-- A text as far as it has been read: the whole table, and the path of the open one. -/
structure Document where
  root : Table
  path : List String

namespace Document

/-- A document before its first line. -/
def empty : Document := ⟨.mk .header [], []⟩

/-- Reads the header of a table, after its opening bracket. -/
def header? (d : Document) (cs : List Char) : Option (Document × List Char) := do
  let (parts, rest) ← key? (depthLimit - 1) cs
  let ']' :: rest := rest | none
  let rest ← lineEnd? rest
  let (path, last) ← splitKey? parts
  let root ← d.root.openTable path last
  return (⟨root, parts⟩, rest)

/-- Reads the header of the next table of an array, after its opening brackets. -/
def arrayHeader? (d : Document) (cs : List Char) : Option (Document × List Char) := do
  let (parts, rest) ← key? (depthLimit - 1) cs
  let ']' :: ']' :: rest := rest | none
  let rest ← lineEnd? rest
  let (path, last) ← splitKey? parts
  let root ← d.root.openNext path last
  return (⟨root, parts⟩, rest)

/-- Reads an assignment, and carries it out on the open table. -/
def assignment? (d : Document) (cs : List Char) : Option (Document × List Char) := do
  let (parts, rest) ← key? (depthLimit - 1) cs
  let (path, last) ← splitKey? parts
  let '=' :: rest := rest | none
  let rest := skipSpace rest
  let (value, rest) ← value? (rest.length + 1) (depthLimit - 1) rest
  let rest ← lineEnd? rest
  let root ← Table.descend .passage (Table.assign path last value) d.path d.root
  return (⟨root, d.path⟩, rest)

/-- Reads the lines of a text, one unit of `fuel` for each. -/
def lines? : Nat → Document → List Char → Option Document
  | 0, _, _ => none
  | fuel + 1, d, cs =>
    match skipSpace cs with
    | [] => some d
    | '[' :: '[' :: rest => do
      let (d, rest) ← d.arrayHeader? rest
      lines? fuel d rest
    | '[' :: rest => do
      let (d, rest) ← d.header? rest
      lines? fuel d rest
    | '#' :: rest => (lineEnd? ('#' :: rest)).bind (lines? fuel d)
    | '\n' :: rest => lines? fuel d rest
    | '\r' :: rest => (afterLineEnd? ('\r' :: rest)).bind (lines? fuel d)
    | cs => do
      let (d, rest) ← d.assignment? cs
      lines? fuel d rest

end Document

/-- The text without a byte order mark at its start. -/
def skipMark : List Char → List Char
  | '\ufeff' :: rest => rest
  | cs => cs

/-- Reads a text, which is a table as a whole. -/
def ofText? (s : String) : Option Toml :=
  let cs := skipMark s.toList
  (Document.lines? (cs.length + 1) .empty cs).map fun d => d.root.toToml

end Tenancy.Toml
