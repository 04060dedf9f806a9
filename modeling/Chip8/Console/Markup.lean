import Chip8.Console.Pictures
import Chip8.Text.Blank
import Chip8.Text.LowerCase

/-!
# Console markup

A tag stands between square brackets and starts with a small letter, `#`, `/` or `@`.  Tags style
the text between them and are not shown.  A tag after an odd number of backslashes is shown as it
stands, and of backslashes in front of a tag each pair is shown as one.  A bracket that starts no
tag is shown without one backslash in front of it.  Between tags, the name of a picture between two
colons stands for the picture.
-/
namespace Chip8.Console

/-! ## Pictures -/

/-- The characters before an ending, if they end in it. -/
def withoutEnding? (ending s : List Char) : Option (List Char) :=
  if ending.reverse.isPrefixOf s.reverse then some (s.take (s.length - ending.length)) else none

/-- What a name between colons stands for.  The name may say whether the picture is to be drawn in
colours or as text. -/
def named? (name : List Char) : Option (List Char) :=
  let picture (name : List Char) : Option (List Char) :=
    (picture? (Text.lowerCase (String.ofList name))).map String.toList
  match withoutEnding? "-emoji".toList name, withoutEnding? "-text".toList name with
  | some name, _ => (picture name).map (· ++ ['\uFE0F'])
  | none, some name => (picture name).map (· ++ ['\uFE0E'])
  | none, none => picture name

/-- The name that follows a colon, up to the next colon, and what comes after that.  A name has no
blanks. -/
def colonName? (s : List Char) : Option (List Char × List Char) :=
  let name := s.takeWhile fun c => c ≠ ':' && !Text.blank.contains c
  match s.drop name.length with
  | ':' :: after => some (name, after)
  | _ => none

/-- The characters with pictures for their names.  A colon belongs to one name only. -/
def withPictures : Nat → List Char → List Char
  | 0, s => s
  | _ + 1, [] => []
  | fuel + 1, c :: rest =>
    if c = ':' then
      match colonName? rest with
      | some (name, after) =>
        (named? name).getD (':' :: name ++ [':']) ++ withPictures fuel after
      | none => ':' :: withPictures fuel rest
    else c :: withPictures fuel rest

/-! ## Tags -/

/-- Whether a tag may start with a character. -/
def startsTag (c : Char) : Bool :=
  ('a' ≤ c && c ≤ 'z') || c = '#' || c = '/' || c = '@'

/-- The tag that follows an opening bracket, with the closing one, and what comes after it. -/
def tag? : List Char → Option (List Char × List Char)
  | c :: rest =>
    if startsTag c then
      let inner := rest.takeWhile fun d => d ≠ '[' && d ≠ ']'
      match rest.drop inner.length with
      | ']' :: after => some (c :: inner ++ [']'], after)
      | _ => none
    else none
  | [] => none

/-- The texts between tags, and the tags that are shown.  `part` is the text in progress, reversed,
and `slashes` the number of backslashes after it. -/
def partsFrom (fuel : Nat) (part : List Char) (slashes : Nat) (s : List Char) :
    List (List Char) :=
  let slashed (n : Nat) : List Char := List.replicate n '\x5c' ++ part
  match fuel with
  | 0 => []
  | fuel + 1 =>
    match s with
    | [] => [(slashed slashes).reverse]
    | c :: rest =>
      if c = '\x5c' then partsFrom fuel part (slashes + 1) rest
      else if c = '[' then
        match tag? rest with
        | some (tag, after) =>
          [part.reverse, List.replicate (slashes / 2) '\x5c']
            ++ (if slashes % 2 = 1 then ['[' :: tag] else []) ++ partsFrom fuel [] 0 after
        | none => partsFrom fuel ('[' :: slashed (slashes - 1)) 0 rest
      else partsFrom fuel (c :: slashed slashes) 0 rest

/-- The shown text of a marked-up one. -/
def shown (s : String) : String :=
  let parts := partsFrom (s.length + 1) [] 0 s.toList
  String.ofList (parts.flatMap fun part => withPictures part.length part)

end Chip8.Console
