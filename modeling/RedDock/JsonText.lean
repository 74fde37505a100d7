import RedDock.HttpHeaders
import RedDock.Bytes

/-!
# JSON texts

`json.dumps` with an indentation of two and sorted keys, and the two serializers
of the application: the evidence store keeps to ASCII and reporting does not.
-/
set_option autoImplicit false
namespace RedDock.JsonText
open Text
open Detection (Json)
open HttpHeaders (dec_int)

/-- `\uXXXX` -/
def unicode_escape (n : Nat) : Text := '\\' :: 'u' :: (List.replicate (4 - (hex n).length) '0' ++ hex n)

/-- A character of a string literal. -/
def escaped (ascii : Bool) (c : Char) : Text :=
  match c.toNat with
  | 34 => ['\\', c]
  | 92 => ['\\', c]
  | 8 => ['\\', 'b']
  | 9 => ['\\', 't']
  | 10 => ['\\', 'n']
  | 12 => ['\\', 'f']
  | 13 => ['\\', 'r']
  | n =>
    if n < 32 ∨ (ascii ∧ 126 < n ∧ n < 0x10000) then unicode_escape n
    -- a pair of surrogates
    else if ascii ∧ 0x10000 ≤ n then unicode_escape (0xD800 + (n - 0x10000) / 0x400) ++ unicode_escape (0xDC00 + (n - 0x10000) % 0x400)
    else [c]

def quoted (ascii : Bool) (t : Text) : Text := Char.ofNat 34 :: (t.flatMap (escaped ascii) ++ [Char.ofNat 34])

def line_break (level : Nat) : Text := '\n' :: List.replicate (2 * level) ' '

/-- The parts of a list or an object, on lines of their own. -/
def enclosed (opening closing : Char) (level : Nat) (parts : List Text) : Text :=
  if parts = [] then [opening, closing]
  else opening :: (line_break (level + 1) ++ join (',' :: line_break (level + 1)) parts ++ line_break level ++ [closing])

def by_key (first second : Text × Text) : Prop := first.1 ≤ second.1

instance by_key_decidable : DecidableRel by_key := fun first second => inferInstanceAs (Decidable (first.1 ≤ second.1))

def pair (ascii : Bool) (member : Text × Text) : Text := quoted ascii member.1 ++ [':', ' '] ++ member.2

mutual

def rendered (ascii : Bool) (level : Nat) : Json → Text
  | .null => "null".toList
  | .bool true => "true".toList
  | .bool false => "false".toList
  | .int i => dec_int i
  | .float digits => digits
  | .str t => quoted ascii t
  | .list items => enclosed '[' ']' level (rendered_items ascii (level + 1) items)
  | .object members => enclosed '{' '}' level (((rendered_members ascii (level + 1) members).insertionSort by_key).map (pair ascii))

def rendered_items (ascii : Bool) (level : Nat) : List Json → List Text
  | [] => []
  | item :: items => rendered ascii level item :: rendered_items ascii level items

def rendered_members (ascii : Bool) (level : Nat) : List (Text × Json) → List (Text × Text)
  | [] => []
  | (key, value) :: members => (key, rendered ascii level value) :: rendered_members ascii level members

end

/-- `json.dumps(value, indent=2, sort_keys=True)`, with `ensure_ascii` or without. -/
def dumps (ensure_ascii : Bool) (value : Json) : Text := rendered ensure_ascii 0 value

/-- `_document` of reporting. -/
def document (value : Json) : Bytes := Bytes.utf8 (dumps false value)

/-- `_document` of the evidence store. -/
def stored_document (value : Json) : Bytes := Bytes.utf8 (dumps true value)

end RedDock.JsonText
