import Issuebook.Text.Basic
import Issuebook.Text.Case
import Issuebook.Text.Plain
import Issuebook.Text.Word

/-!
# Shaping text for names

Three ways to make a title fit into a filename, and the cleaning that keeps a text from
steering a path.
-/

namespace Issuebook.Text

/-- Plain letters in lower case, with single dashes for everything between them. -/
def slug (text : Text) : Text :=
  trimBy (· = '-') (replaceRuns (fun char => !isAlphanumeric char) ['-'] (lower (plain text)))

/-- Whether a character may stay in a title that keeps its words. -/
def isTitleChar (char : Char) : Bool :=
  isWordChar char || isBlank char || char == '.' || char == '-'

/-- Plain letters with single spaces and dots, and nothing that separates or reserves. -/
def tidyTitle (text : Text) : Text :=
  let kept := (plain text).filter isTitleChar
  let dotted := replaceRuns (· = '.') ['.'] kept
  trimBy (fun char => char == ' ' || char == '.') (replaceRuns isBlank [' '] dotted)

/-- A word with a capital first letter and small ones after it. -/
def capitalWord : Text → Text
  | [] => []
  | first :: rest => upper [first] ++ lower rest

/-- Words with capital first letters, tidied. -/
def capitalTitle (text : Text) : Text :=
  tidyTitle (join [' '] ((words text).map capitalWord))

/-- The characters that file systems reserve. -/
def reservedChars : List Char :=
  [':', '<', '>', '|', '*', '?', '"']

/-- A run that ends: one character `mark` stays, more vanish. -/
def endRun (mark : Char) (length : Nat) : Text :=
  if length = 1 then [mark] else []

/-- Removes each run of two or more characters `mark`; a run of `length` of them came just
before. -/
def dropLongRunsFrom (mark : Char) : (length : Nat) → Text → Text
  | length, [] => endRun mark length
  | length, char :: rest =>
    if char = mark then dropLongRunsFrom mark (length + 1) rest
    else endRun mark length ++ char :: dropLongRunsFrom mark 0 rest

/-- Removes each run of two or more characters `mark`, and keeps single ones. -/
def dropLongRuns (mark : Char) (text : Text) : Text :=
  dropLongRunsFrom mark 0 text

/-- Each run of two or more characters `mark` becomes one. -/
def squeeze (mark : Char) (text : Text) : Text :=
  replaceRuns (· = mark) [mark] text

/-- A text that cannot steer a path: no zero, backslash, reserved character or run of dots,
dashes for slashes, single dashes, and neither blanks, dashes nor dots at its ends. -/
def safeName (text : Text) : Text :=
  let kept := text.filter fun char =>
    !(char.val == 0 || char == '\\' || reservedChars.contains char)
  let dashed := (dropLongRuns '.' kept).map fun char => if char = '/' then '-' else char
  trim (trimBy (fun char => char == '-' || char == '.') (trim (squeeze '-' dashed)))

end Issuebook.Text
