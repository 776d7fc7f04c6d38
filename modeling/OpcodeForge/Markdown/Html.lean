import OpcodeForge.Markdown.Line
import OpcodeForge.Text.Blank

/-!
# HTML Blocks

A line that starts like HTML opens a block of raw text. What it starts with
decides two things: where the block ends, and whether it may interrupt a
paragraph. Comments, instructions, declarations and the elements with raw
content end in the line that holds their end mark. The block-level elements end
before an empty line. So does any other complete tag that stands alone in its
line, the one form that cannot interrupt a paragraph.

Names of elements are compared without regard to case. Comparing this way also
takes the dotted and the dotless i for an i, the long s for an s, and the
Kelvin sign for a k.

An attribute value without quotes may hold blanks beyond ASCII, and such a blank
may as well end it. A tag is therefore matched by following every way to read
it.

## Main definitions

* `Markdown.HtmlStart`: The seven ways to open an HTML block.
* `Markdown.HtmlStart.ofText?`: How a text opens an HTML block.
* `Markdown.HtmlStart.endsIn`: Whether a line ends the block.
-/

namespace OpcodeForge.Markdown

/-- How an HTML block starts. -/
inductive HtmlStart
  /-- An element whose content is not markup. -/
  | rawElement
  | comment
  | instruction
  | declaration
  | characterData
  /-- An element that stands at the level of blocks. -/
  | blockElement
  /-- Any complete tag alone in its line. -/
  | loneTag
  deriving DecidableEq, Repr

/-- The elements whose content is not markup. -/
def rawElementNames : List String := ["script", "pre", "style", "textarea"]

/-- The elements that stand at the level of blocks. -/
def blockElementNames : List String := [
  "address", "article", "aside", "base", "basefont", "blockquote", "body",
  "caption", "center", "col", "colgroup", "dd", "details", "dialog", "dir",
  "div", "dl", "dt", "fieldset", "figcaption", "figure", "footer", "form",
  "frame", "frameset", "h1", "h2", "h3", "h4", "h5", "h6", "head", "header",
  "hr", "html", "iframe", "legend", "li", "link", "main", "menu", "menuitem",
  "nav", "noframes", "ol", "optgroup", "option", "p", "param", "search",
  "section", "summary", "table", "tbody", "td", "tfoot", "th", "thead",
  "title", "tr", "track", "ul"]

/-- The lower case of a letter for the comparison of names. -/
def foldLetter (c : Char) : Char :=
  if c == 'İ' || c == 'ı' then 'i'
  else if c == 'ſ' then 's'
  else if c == 'K' then 'k'
  else c.toLower

/-- What follows a name at the start of a text, in any case. -/
def afterName? : List Char → List Char → Option (List Char)
  | [], cs => some cs
  | _ :: _, [] => none
  | n :: name, c :: cs => if foldLetter c == n then afterName? name cs else none

/-- Whether a text occurs in another. -/
def occursIn (part : List Char) : List Char → Bool
  | [] => part.isEmpty
  | c :: cs => part.isPrefixOf (c :: cs) || occursIn part cs

/-- Whether the closing tag of a raw element occurs in a text. -/
def closesRaw : List Char → Bool
  | [] => false
  | c :: cs =>
    (match ['<', '/'].isPrefixOf? (c :: cs) with
      | some rest => rawElementNames.any fun name =>
        match afterName? name.toList rest with
        | some ('>' :: _) => true
        | _ => false
      | none => false)
    || closesRaw cs

/-- Whether a name of a raw element ends before this text. -/
def endsRawName : List Char → Bool
  | [] => true
  | c :: _ => Text.isBlank c || c == '>'

/-- Whether a name of a block element ends before this text. -/
def endsBlockName : List Char → Bool
  | [] => true
  | '/' :: '>' :: _ => true
  | c :: _ => Text.isBlank c || c == '>'

/-- Whether one of the names stands at the start of a text and ends there. -/
def startsWithName (names : List String) (ends : List Char → Bool)
    (cs : List Char) : Bool :=
  names.any fun name => (afterName? name.toList cs).any ends

/-- The characters of the name of an element, after the first. -/
def isTagChar (c : Char) : Bool :=
  c.isAlphanum || c == '-'

/-- The first character of the name of an attribute. -/
def isAttributeStart (c : Char) : Bool :=
  c.isAlpha || c == '_' || c == ':'

/-- The characters of the name of an attribute. -/
def isAttributeChar (c : Char) : Bool :=
  c.isAlphanum || c == '_' || c == ':' || c == '.' || c == '-'

/-- The characters of a value without quotes. -/
def isBareValueChar (c : Char) : Bool :=
  0x20 < c.toNat && c ≠ '"' && c ≠ '\'' && c ≠ '=' && c ≠ '<' && c ≠ '>'
    && c ≠ Char.ofNat 0x60

/-- Every text that is left after one or more characters that satisfy `p`. -/
def afterSome (p : Char → Bool) : List Char → List (List Char)
  | [] => []
  | c :: cs => if p c then cs :: afterSome p cs else []

/-- Every text that is left after any number of characters that satisfy `p`. -/
def afterMany (p : Char → Bool) (cs : List Char) : List (List Char) :=
  cs :: afterSome p cs

/-- The text after a quoted value, without its opening quote. -/
def afterQuote (quote : Char) (cs : List Char) : List (List Char) :=
  match cs.dropWhile (· ≠ quote) with
  | [] => []
  | _ :: rest => [rest]

/-- Every text that is left after the value of an attribute. -/
def afterValue (cs : List Char) : List (List Char) :=
  match cs with
  | '\'' :: rest => afterQuote '\'' rest
  | '"' :: rest => afterQuote '"' rest
  | _ => afterSome isBareValueChar cs

/-- Every text that is left after an optional equals sign with a value. -/
def afterAssignment (cs : List Char) : List (List Char) :=
  match cs.dropWhile Text.isBlank with
  -- A blank beyond ASCII may be skipped or start the value, so both are tried.
  | '=' :: rest => cs :: (afterMany Text.isBlank rest).flatMap afterValue
  | _ => [cs]

/-- Every text that is left after an attribute and the blanks before it. -/
def afterAttribute (cs : List Char) : List (List Char) :=
  match cs with
  | c :: _ =>
    if Text.isBlank c then
      match cs.dropWhile Text.isBlank with
      | d :: rest =>
        if isAttributeStart d then
          afterAssignment (rest.dropWhile isAttributeChar)
        else []
      | [] => []
    else []
  | [] => []

/-- Whether nothing but blanks is left. -/
def onlyBlanks (cs : List Char) : Bool :=
  cs.all Text.isBlank

/-- Whether the text ends an opening tag, with blanks around the end alone. -/
def endsOpenTag (cs : List Char) : Bool :=
  match cs.dropWhile Text.isBlank with
  | '>' :: rest => onlyBlanks rest
  | '/' :: '>' :: rest => onlyBlanks rest
  | _ => false

/-- Whether a text consists of attributes and the end of an opening tag. It is
    shorter after each attribute, so its length is fuel enough. -/
def isTagTail : Nat → List Char → Bool
  | 0, cs => endsOpenTag cs
  | fuel + 1, cs => endsOpenTag cs || (afterAttribute cs).any (isTagTail fuel)

/-- Whether a text is one complete tag and blanks. -/
def isLoneTag : List Char → Bool
  | '<' :: '/' :: c :: rest =>
    c.isAlpha && (match (rest.dropWhile isTagChar).dropWhile Text.isBlank with
      | '>' :: rest => onlyBlanks rest
      | _ => false)
  | '<' :: c :: rest => c.isAlpha && isTagTail rest.length (rest.dropWhile isTagChar)
  | _ => false

/-- How a text opens an HTML block. -/
def HtmlStart.ofText? (cs : List Char) : Option HtmlStart :=
  match cs with
  | '<' :: rest =>
    if startsWithName rawElementNames endsRawName rest then some .rawElement
    -- Only what starts like no raw element can be one of the other forms.
    else match rest with
      | '!' :: '-' :: '-' :: _ => some .comment
      | '?' :: _ => some .instruction
      | '!' :: c :: more =>
        if c.isAlpha then some .declaration
        else if "[CDATA[".toList.isPrefixOf (c :: more) then some .characterData
        else none
      | _ =>
        -- Block elements count in their closing form too.
        let name := if rest.head? == some '/' then rest.tail else rest
        if startsWithName blockElementNames endsBlockName name then some .blockElement
        else if isLoneTag cs then some .loneTag
        else none
  | _ => none

/-- Whether a block of this form may interrupt a paragraph. -/
def HtmlStart.interrupts (s : HtmlStart) : Bool :=
  s != .loneTag

/-- Whether the block ends in, or before, a line with this text. -/
def HtmlStart.endsIn (s : HtmlStart) (cs : List Char) : Bool :=
  match s with
  | .rawElement => closesRaw cs
  | .comment => occursIn ['-', '-', '>'] cs
  | .instruction => occursIn ['?', '>'] cs
  | .declaration => occursIn ['>'] cs
  | .characterData => occursIn [']', ']', '>'] cs
  | .blockElement => cs.isEmpty
  | .loneTag => cs.isEmpty

/-- The lines of a block after its first, and the lines that follow it. -/
def htmlTail (f : Frame) (s : HtmlStart) : List Line → List Line × List Line
  | [] => ([], [])
  | l :: ls =>
    if f.excludes l then ([], l :: ls)
    else if s.endsIn l.body then
      -- An end mark belongs to the block, an empty line does not.
      if l.isEmpty then ([], l :: ls) else ([l], ls)
    else
      let (inside, after) := htmlTail f s ls
      (l :: inside, after)

end OpcodeForge.Markdown
