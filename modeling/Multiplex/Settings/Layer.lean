import Multiplex.Settings.Value

/-!
# Layers of settings

A layer assigns values to names. A name is the name of a setting, or a path into a value: a name
followed by parts behind points and positions in brackets. Assigning along a path turns the
setting it starts from into something that holds further values. The case of letters does not
matter in a name. A later assignment replaces an earlier one of the same setting, except that a
table is merged into what is there entry by entry, so that one without entries changes nothing.
-/

namespace Multiplex.Settings

/-- The character may stand in a part of a path without capitals. -/
def isPathChar (c : Char) : Bool :=
  isDigit c || ('a' ≤ c && c ≤ 'z') || c == '_' || c == '-' || c == ' '

/-- The name with its ASCII capitals, and the sign for kelvin, made small. -/
def foldCase (name : List Char) : List Char :=
  name.map fun c => if c = '\u212a' then 'k' else c.toLower

/-- A position in brackets, after the opening one: an integer of 64 bits with blanks around it. The
text behind the closing bracket is handed back. -/
def position? (text : List Char) : Option (List Char) :=
  let isBlank := fun c => c == ' ' || c == '\t'
  let rest := text.dropWhile isBlank
  let (signed, rest) :=
    match rest with
    | '-' :: rest => (true, rest)
    | rest => (false, rest)
  let digits := rest.takeWhile isDigit
  let sign := if signed then ['-'] else []
  match Numeral.integer? (sign ++ digits), (rest.dropWhile isDigit).dropWhile isBlank with
  | some _, ']' :: rest => some rest
  | _, _ => none

/-- The text consists of parts behind points and positions in brackets, at most `fuel` of them. -/
def isPathTail : (fuel : Nat) → List Char → Bool
  | _, [] => true
  | 0, _ => false
  | fuel + 1, '.' :: rest =>
    let part := rest.takeWhile isPathChar
    !part.isEmpty && isPathTail fuel (rest.dropWhile isPathChar)
  | fuel + 1, '[' :: rest =>
    match position? rest with
    | some rest => isPathTail fuel rest
    | none => false
  | _ + 1, _ => false

/-- The setting that a name leads to once its capitals are made small, and whether it leads into the
setting. A name that is no path is taken as a whole. -/
def target (name : List Char) : List Char × Bool :=
  let name := foldCase name
  let root := name.takeWhile isPathChar
  let tail := name.dropWhile isPathChar
  if !root.isEmpty && !tail.isEmpty && isPathTail tail.length tail then (root, true)
  else (name, false)

/-- Values under names, each name once. -/
structure Layer where
  entries : List (String × Value)
  nodup : (entries.map Prod.fst).Nodup

namespace Layer

/-- A layer that assigns nothing. -/
def empty : Layer :=
  ⟨[], .nil⟩

/-- A layer in which a setting has the value, and every other one what it had. -/
def put (layer : Layer) (setting : String) (value : Value) : Layer where
  entries := (setting, value) :: layer.entries.filter fun entry => entry.1 ≠ setting
  nodup := by
    rw [List.map_cons, List.nodup_cons]
    constructor
    · intro again
      obtain ⟨entry, member, same⟩ := List.mem_map.1 again
      exact of_decide_eq_true (List.mem_filter.1 member).2 same
    · exact layer.nodup.sublist (List.filter_sublist.map _)

/-- A layer with one more assignment. A table without entries is assigned only where nothing is. -/
def assign (layer : Layer) (name : String) (value : Value) : Layer :=
  let (setting, inside) := target name.toList
  let setting := String.ofList setting
  if inside then layer.put setting .nested
  else if value = .emptyTable && (layer.entries.lookup setting).isSome then layer
  else layer.put setting value

end Layer

/-- Replaces every occurrence of a text by a point, once the given number of characters has been
left out. -/
def dotted (nesting : List Char) : (skipped : Nat) → List Char → List Char
  | _, [] => []
  | skipped + 1, _ :: rest => dotted nesting skipped rest
  | 0, c :: rest =>
    if !nesting.isEmpty && nesting.isPrefixOf (c :: rest) then
      '.' :: dotted nesting (nesting.length - 1) rest
    else c :: dotted nesting 0 rest

/-- The value of an environment variable: a truth value, an integer, a decimal number, or else a
text. -/
def environmentValue (text : List Char) : Value :=
  let word := lower text
  if word = "true".toList then .truth true
  else if word = "false".toList then .truth false
  else
    match Numeral.integer? text with
    | some n => .integer n
    | none =>
      match Numeral.decimal? text with
      | some x => .decimal x
      | none => .text (String.ofList text)

end Multiplex.Settings
