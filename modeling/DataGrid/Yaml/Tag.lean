import DataGrid.Yaml.Scalar

/-!
# Tags of YAML

A tag is an address, written as a whole or as a handle and the rest. Some characters of an address
are escaped: a percent sign and two hexadecimal digits stand for one octet of UTF-8.

## Main definitions

* `DataGrid.Yaml.Tag` — the octets of an address.
* `DataGrid.Yaml.address?` — the address at the beginning of a text.
* `DataGrid.Yaml.tagOf?` — the tag that follows an exclamation mark.

## Implementation notes

Escapes must have the shape of a character in UTF-8, a leading octet and as many trailing ones as it
announces, but they need not name a character; so an address is kept as octets. It ends at the first
octet that is zero, even if more of it is written.
-/

namespace DataGrid.Yaml

/-! ## Characters -/

/-- The characters of the name of an anchor or a handle. -/
def isNameChar (c : Char) : Bool := c.isAlphanum || c == '_' || c == '-'

/-- The characters that stand for themselves in the rest behind a handle. -/
def isAddressChar (c : Char) : Bool :=
  isNameChar c || c == ';' || c == '/' || c == '?' || c == ':' || c == '@' || c == '&' ||
    c == '=' || c == '+' || c == '$' || c == '.' || c == '!' || c == '~' || c == '*' ||
    c == '\'' || c == '(' || c == ')'

/-- The characters that stand for themselves in a complete address. -/
def isCompleteChar (c : Char) : Bool := isAddressChar c || c == ',' || c == '[' || c == ']'

/-! ## Octets -/

/-- The octets of an address. -/
abbrev Tag := List UInt8

/-- The tag with the given text. -/
def Tag.ofString (s : String) : Tag := s.toList.flatMap String.utf8EncodeChar

/-- The text of a tag in UTF-8. -/
def Tag.text? (t : Tag) : Option String := String.fromUTF8? ⟨t.toArray⟩

/-- The number of octets that follow a leading one. -/
def trailing? (octet : UInt8) : Option Nat :=
  if octet < 0x80 then some 0
  else if octet < 0xC0 then none
  else if octet < 0xE0 then some 1
  else if octet < 0xF0 then some 2
  else if octet < 0xF8 then some 3
  else none

/-- The number of trailing octets to come after one more octet, when there were `pending` of them;
none if the octet is out of place. -/
def pendingAfter? (pending : Nat) (octet : UInt8) : Option Nat :=
  match pending with
  | 0 => trailing? octet
  | n + 1 => if 0x80 ≤ octet && octet < 0xC0 then some n else none

/-! ## Addresses -/

/-- Read on in an address of characters that satisfy `p` and of escapes: its octets, and the number
of characters. `found` holds the octets so far, the last one first. -/
def addressFrom? (p : Char → Bool) (pending : Nat) (found : Tag) (size : Nat) :
    List Char → Option (Tag × Nat)
  | '%' :: a :: b :: rest =>
    match Text.hexValue? a, Text.hexValue? b with
    | some x, some y =>
      match pendingAfter? pending (16 * x + y).toUInt8 with
      | some pending => addressFrom? p pending ((16 * x + y).toUInt8 :: found) (size + 3) rest
      | none => none
    | _, _ => none
  | c :: rest =>
    if c == '%' || pending != 0 then none
    else if p c then addressFrom? p 0 (c.toNat.toUInt8 :: found) (size + 1) rest
    else some (found.reverse, size)
  | [] => if pending = 0 then some (found.reverse, size) else none

/-- The address at the beginning of a text, and the number of its characters; none if an escape is
malformed. -/
def address? (p : Char → Bool) (cs : List Char) : Option (Tag × Nat) :=
  (addressFrom? p 0 [] 0 cs).map fun (octets, size) => (octets.takeWhile (· != 0), size)

/-- An address that is not empty. -/
def nonemptyAddress? (p : Char → Bool) (cs : List Char) : Option (Tag × Nat) :=
  (address? p cs).bind fun found => if found.2 = 0 then none else some found

/-! ## Tags -/

/-- The handle at the beginning of a text and the number of its characters: a lone exclamation mark,
or a name between two of them. -/
def handle? : List Char → Option (String × Nat)
  | '!' :: rest =>
    let name := rest.takeWhile isNameChar
    if (rest.drop name.length).head? = some '!' then
      some (String.ofList ('!' :: (name ++ ['!'])), name.length + 2)
    else some ("!", 1)
  | _ => none

/-- The tag at the beginning of a text: its handle, which is empty for a complete tag, the rest, and
the number of characters. -/
def tagOf? (cs : List Char) : Option (String × Tag × Nat) :=
  match cs with
  | '!' :: '<' :: rest => do
    let (tag, size) ← nonemptyAddress? isCompleteChar rest
    if (rest.drop size).head? = some '>' then return ("", tag, size + 3) else none
  | cs => do
    let (handle, n) ← handle? cs
    let (rest, size) ← if n = 1 then address? isAddressChar (cs.drop 1)
      else nonemptyAddress? isAddressChar (cs.drop n)
    return (handle, rest, n + size)

end DataGrid.Yaml
