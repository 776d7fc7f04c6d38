import OpcodeForge.Number.Shortest
import OpcodeForge.Text.Quoted
import OpcodeForge.Value.Basic

/-!
# Values as Text

Messages name the values they complain about. A text is named as it is, and every
other value is shown in one line: lists in brackets, mappings in braces, texts
inside them in quotes. Nothing is shown as `None`.

An integer that is too long for decimal text cannot be shown, and neither can
anything that holds one.

## Main definitions

* `Value.shown`: A value inside other values.
* `Value.plain`: A value in a message.
* `Value.isWritable`: Whether a value can be shown.
-/

namespace OpcodeForge.Value

/-- Texts with commas between them, in brackets. -/
def bracketed (left right : String) (parts : List String) : String :=
  left ++ ", ".intercalate parts ++ right

mutual

/-- A value as it is shown inside other values. -/
def shown : Value → String
  | .null => "None"
  | .bool b => if b then "True" else "False"
  | .int i => Number.decimal i
  | .float x => x.text
  | .text s => Text.quoted s
  | .date d => d.call
  | .moment m => m.call
  | .bytes bs => Text.quotedBytes bs
  | .list items => bracketed "[" "]" (shownList items)
  | .pairs entries => bracketed "[" "]" (shownEntries "(" ", " ")" entries)
  | .map entries => bracketed "\x7b" "\x7d" (shownEntries "" ": " "" entries)
  | .set items =>
    -- Empty braces would be an empty mapping.
    if items.isEmpty then "set()" else bracketed "\x7b" "\x7d" (shownList items)
  | .again isMap _ => if isMap then "\x7b...\x7d" else "[...]"

/-- Several values as they are shown inside other values. -/
def shownList : List Value → List String
  | [] => []
  | v :: vs => v.shown :: shownList vs

/-- Pairs of values with something before, between and after them. -/
def shownEntries (before between after : String) :
    List (Value × Value) → List String
  | [] => []
  | (k, v) :: rest =>
    (before ++ k.shown ++ between ++ v.shown ++ after)
      :: shownEntries before between after rest

end

/-- A value as messages name it. -/
def plain (v : Value) : String :=
  match v with
  | .text s => s
  | .date d => d.iso
  | .moment m => m.iso " "
  | v => v.shown

mutual

/-- Whether a value can be shown: whether no integer in it is too long. -/
def isWritable : Value → Bool
  | .int i => Number.isWritable i
  | .list items => allWritable items
  | .pairs entries => allEntriesWritable entries
  | .map entries => allEntriesWritable entries
  | .set items => allWritable items
  | _ => true

/-- Whether several values can be shown. -/
def allWritable : List Value → Bool
  | [] => true
  | v :: vs => v.isWritable && allWritable vs

/-- Whether several pairs of values can be shown. -/
def allEntriesWritable : List (Value × Value) → Bool
  | [] => true
  | (k, v) :: rest => k.isWritable && v.isWritable && allEntriesWritable rest

end

end OpcodeForge.Value
