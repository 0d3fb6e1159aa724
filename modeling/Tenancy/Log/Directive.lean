import Tenancy.Log.Value
import Tenancy.Text.Alphanumeric
import Tenancy.Text.Blank
import Tenancy.Text.Cut

/-!
# Log directives

A directive says how detailed the log lines are that come from a target, within a span, with a
field: `target[span{field=value}]=level`, where every part may be left out.
-/

namespace Tenancy.Log

/-- How detailed log lines are. -/
inductive Level
  | off | error | warn | info | debug | trace
  deriving DecidableEq, Repr, Inhabited

namespace Level

/-- Every level, by increasing detail. -/
def all : List Level := [.off, .error, .warn, .info, .debug, .trace]

/-- The name of a level. -/
def name : Level → String
  | .off => "off"
  | .error => "error"
  | .warn => "warn"
  | .info => "info"
  | .debug => "debug"
  | .trace => "trace"

/-- The level that a text names, whatever the case of its letters, or by its place among all
levels. -/
def parse? (cs : List Char) : Option Level :=
  match Text.natural? Text.maxWord cs with
  | some n => all[n]?
  | none => all.find? (·.name.toList = cs.map Char.toLower)

end Level

/-- A field that log lines have to have, and its value if that counts. -/
structure Field where
  name : List Char
  value : Option Value
  deriving DecidableEq, Repr

/-- How detailed log lines are: those from a target, within a span, with a field. -/
structure Directive where
  target : Option (List Char)
  span : Option (List Char)
  field : Option Field
  level : Level
  deriving DecidableEq, Repr

namespace Field

/-- Reads a field: its name and, after an equals sign, its value. What stands after a second
equals sign does not count. -/
def parse (cs : List Char) : Field :=
  match Text.cutAt? (· = '=') cs with
  | none => ⟨cs, none⟩
  | some (name, value) => ⟨name, some (.parse (value.tail.takeWhile (· ≠ '=')))⟩

/-- The text of a field. -/
def text (f : Field) : List Char :=
  f.name ++ match f.value with
    | none => []
    | some value => '=' :: value.text

end Field

namespace Directive

/-! ### Reading

The parts of a directive are found in the text without the white space around it, and cut from the
same places of the text as it is given. -/

/-- The part of a text from one place to another. -/
def part (text : List Char) (start stop : Nat) : List Char :=
  (text.drop start).take (stop - start)

/-- The characters that a target can start with. -/
def startsTarget (c : Char) : Bool :=
  c = '-' || c = ':' || c = '_' || Text.isAlphanumeric c

/-- Reads a level, or nothing for the most detailed one. -/
def levelOrAll? (cs : List Char) : Option Level :=
  if cs = [] then some .trace else Level.parse? cs

/-- Reads what follows the target and the brackets: an equals sign and a level, or nothing. The
text is given with what is left of it, and the place where that starts. -/
def afterBrackets? (text : List Char) (d : Directive) (place : Nat) :
    List Char → Option Directive
  | [] => some d
  | c :: _ =>
    if c = '=' then (levelOrAll? (text.drop (place + 1))).map fun level => { d with level }
    else none

/-- Reads what stands in braces, and the closing bracket after them. -/
def afterBrace? (text : List Char) (d : Directive) (place : Nat) (left : List Char) :
    Option Directive := do
  let (inside, rest) ← Text.cutAt? (· = '\x7d') left
  let stop := place + inside.length
  if inside = [] then none
  else
    match rest with
    | _ :: ']' :: rest =>
      afterBrackets? text { d with field := some (.parse (part text place stop)) } (stop + 2) rest
    | _ => none

/-- Reads what stands in brackets, without the opening one. -/
def afterBracket? (text : List Char) (d : Directive) (place : Nat) (left : List Char) :
    Option Directive := do
  let (inside, rest) ← Text.cutAt? (fun c => c = ']' || c = '\x7b') left
  let stop := place + inside.length
  let span := part text place stop
  match rest with
  | ']' :: rest => afterBrackets? text { d with span := some span } (stop + 1) rest
  | _ :: rest =>
    afterBrace? text { d with span := if span = [] then none else some span } (stop + 1) rest
  | [] => none

/-- The directive for a text that is no more than a level or a target. -/
def ofWord (text : List Char) : Directive :=
  match Level.parse? text with
  | some level => ⟨none, none, none, level⟩
  | none => ⟨some text, none, none, .trace⟩

/-- Reads a directive. -/
def parse? (text : List Char) : Option Directive :=
  match Text.trim text with
  | [] => none
  | '[' :: left => afterBracket? text ⟨none, none, none, .trace⟩ 1 left
  | c :: left =>
    if startsTarget c then
      match Text.cutAt? (fun c => c = '=' || c = '[') (c :: left) with
      | none => some (ofWord text)
      | some (before, rest) =>
        let place := before.length
        let d : Directive := ⟨some (part text 0 place), none, none, .trace⟩
        match rest with
        | '[' :: rest => afterBracket? text d (place + 1) rest
        | rest => afterBrackets? text d place rest
    else none

/-! ### Showing -/

/-- Whether a directive depends on a span or a field. -/
def isDynamic (d : Directive) : Bool := d.span.isSome || d.field.isSome

/-- The directive by the name of its field alone, if it depends on no span and no value. -/
def toStatic? (d : Directive) : Option Directive :=
  if d.span.isSome ∨ (d.field.bind Field.value).isSome then none else some d

/-- The text of a directive. -/
def text (d : Directive) : List Char :=
  let braces := match d.field with
    | some f => '\x7b' :: f.text ++ ['\x7d']
    | none => []
  let brackets := if d.isDynamic then '[' :: d.span.getD [] ++ braces ++ [']'] else []
  let place := d.target.getD [] ++ brackets
  (if d.target.isSome ∨ d.isDynamic then place ++ ['='] else []) ++ d.level.name.toList

/-! ### Order -/

/-- Compares values of which one may be absent, which comes first. -/
def compareOptions {α : Type} (compareSome : α → α → Ordering) : Option α → Option α → Ordering
  | none, none => .eq
  | none, some _ => .lt
  | some _, none => .gt
  | some a, some b => compareSome a b

/-- Compares fields: one with a value comes later. -/
def compareFields (a b : Field) : Ordering :=
  (compare a.value.isSome b.value.isSome).then <|
    (compare a.name b.name).then (compareOptions Value.compareValues a.value b.value)

/-- The number of bytes of a text. -/
def byteSize (cs : List Char) : Nat := (String.ofList cs).utf8ByteSize

/-- Compares directives by what they apply to: one with a longer target is greater, then one with a
span, then one with a field. -/
def compareScope (a b : Directive) : Ordering :=
  (compareOptions compare (a.target.map byteSize) (b.target.map byteSize)).then <|
  (compare a.span.isSome b.span.isSome).then <|
  (compare a.field.isSome b.field.isSome).then <|
  (compareOptions compare a.target b.target).then <|
  (compareOptions compare a.span b.span).then <|
  compareOptions compareFields a.field b.field

end Directive

end Tenancy.Log
