import OpsCopilot.Lib.PyLines

/-!
# Answers in fences

The client for models that wrap their JSON in a code fence takes the fence off again.
-/

namespace OpsCopilot

open Python

/-- Three backticks. -/
def fence : List Char := "```".toList

/-- Whether the last line closes the fence. -/
def closesFence (lines : List (List Char)) : Bool :=
  match lines.getLast? with
  | some last => fence.isPrefixOf (stripChars last)
  | none => false

/-- `_strip_json_fences`, on the characters of the text. -/
def stripFences (text : List Char) : List Char :=
  let cleaned := stripChars text
  if fence.isPrefixOf cleaned then
    let lines := (splitlines cleaned).tail
    stripChars (joinLines (if closesFence lines then lines.dropLast else lines))
  else cleaned

/-- `_strip_json_fences`. -/
def stripJsonFences (text : String) : String := String.ofList (stripFences text.toList)

end OpsCopilot
