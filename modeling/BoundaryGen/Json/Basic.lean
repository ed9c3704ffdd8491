-- JSON values as they stand in a text: entries keep their written order and
-- repeated keys stay. A text that stops being JSON gives the value up to the
-- break, with a mark where it breaks, so that a reader of the value meets
-- problems in the order of the text.

namespace BoundaryGen

/-- A JSON value. The last three constructors stand only in values read from a text. -/
inductive Json where
  | null
  | bool (value : Bool)
  /-- A number without fraction and exponent that fits 64 bits, signed or unsigned. -/
  | int (value : Int)
  /-- Any other number. Its digits are not kept, as nothing here reads them. -/
  | real
  | text (value : String)
  | list (items : List Json)
  | map (entries : List (String × Json))
  /-- Here the text stops being JSON. -/
  | cut
  /-- A token of the right form that stands for no value: a text with half of a surrogate
  pair, or a number beyond every double. It may be skipped but not read. -/
  | unread
  /-- The place of a key that stands for no text. -/
  | unreadKey
  deriving Inhabited

namespace Json

/-! ## Levels -/

/-- A document that is read nests at most this many lists and maps. -/
def levels : Nat := 127

mutual
/-- Whether a value can be skipped: its text is JSON to the end. -/
def skips : Json → Bool
  | .cut => false
  | .list items => skipsAll items
  | .map entries => skipsEntries entries
  | _ => true
/-- Whether each item can be skipped. -/
def skipsAll : List Json → Bool
  | [] => true
  | item :: rest => skips item && skipsAll rest
/-- Whether the value of each entry can be skipped. -/
def skipsEntries : List (String × Json) → Bool
  | [] => true
  | (_, value) :: rest => skips value && skipsEntries rest
end

mutual
/-- Whether a value is read without a break and nests no deeper than `room` levels. -/
def whole (room : Nat) : Json → Bool
  | .cut | .unread | .unreadKey => false
  | .list items => match room with
    | 0 => false
    | room + 1 => wholeAll room items
  | .map entries => match room with
    | 0 => false
    | room + 1 => wholeEntries room entries
  | _ => true
/-- Whether each item is whole. -/
def wholeAll (room : Nat) : List Json → Bool
  | [] => true
  | item :: rest => whole room item && wholeAll room rest
/-- Whether the value of each entry is whole. -/
def wholeEntries (room : Nat) : List (String × Json) → Bool
  | [] => true
  | (_, value) :: rest => whole room value && wholeEntries room rest
end

/-! ## Building values -/

variable {α : Type}

/-- An optional value, null when there is none. -/
def orNull (encode : α → Json) : Option α → Json
  | none => .null
  | some a => encode a

/-- The entry of an optional value, left out when there is none. -/
def entryOf? (key : String) (encode : α → Json) : Option α → List (String × Json)
  | none => []
  | some a => [(key, encode a)]

/-- A list of texts. -/
def texts (values : List String) : Json := .list (values.map .text)

end Json

end BoundaryGen
