import PageGraft.Console.PictureTable
import PageGraft.Text.CaseTable

/-!
# Pictures by name

A picture can be written as its name between two colons, in any letter case. After the name a text
can ask for the picture in black and white or in colour.
-/

namespace PageGraft.Console

open PageGraft.Text

/-- The words of a text. -/
def spacedWords (text : List Char) : List (List Char) :=
  (text.splitBy fun left right => isSpace left == isSpace right).filter
    fun word => !word.all isSpace

/-- The word after a given one, where names and pictures take turns. -/
def pictureAfter (name : List Char) : List (List Char) → Option (List Char)
  | known :: picture :: rest => if known = name then some picture else pictureAfter name rest
  | _ => none

/-- The part of a text before an ending. -/
def beforeEnding? (ending text : List Char) : Option (List Char) :=
  if ending.isSuffixOf text then some (text.take (text.length - ending.length)) else none

/-- The picture for what stands between two colons. -/
def pictureFor (code : List Char) : Option (List Char) :=
  let find (name : List Char) : Option (List Char) :=
    pictureAfter (lower name) (spacedWords pictureWords.toList)
  match beforeEnding? "-text".toList code, beforeEnding? "-emoji".toList code with
  | some name, _ => (find name).map (· ++ ['\ufe0e'])
  | none, some name => (find name).map (· ++ ['\ufe0f'])
  | none, none => find code

/-- A text with pictures for their names. -/
def showPictures (text : List Char) : List Char :=
  go none text
where
  /-- Goes on after a colon and the given characters, if the first is given. -/
  go (code : Option (List Char)) : List Char → List Char
    | [] =>
      match code with
      | none => []
      | some code => ':' :: code
    | character :: rest =>
      match code with
      | none => if character = ':' then go (some []) rest else character :: go none rest
      | some code =>
        if character = ':' then
          (pictureFor code).getD (':' :: code ++ [':']) ++ go none rest
        else if isSpace character then ':' :: code ++ character :: go none rest
        else go (some (code ++ [character])) rest

end PageGraft.Console
