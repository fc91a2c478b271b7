/-
This file writes the requests to a generator and reads its answers.
-/
import DesignScene.Repair.Generator
import DesignScene.Review.Issue

namespace DesignScene

def issueLine (issue : Issue) : String :=
  "- " ++ issue.code ++ ": " ++ issue.message ++ " (at " ++ issue.path ++ ")"

def fixPrompt {α : Type} (text : String) (review : Review α) : String :=
  "The following JSON has validation errors that need to be fixed:\n\n" ++
    "ORIGINAL JSON:\n" ++ text ++ "\n\n" ++
    "ERRORS TO FIX:\n" ++ Text.joinWith "\n" (review.fixableErrors.map issueLine) ++ "\n\n" ++
    "Please provide the corrected JSON that fixes these errors while maintaining the " ++
    "original intent. Return ONLY the corrected JSON, no explanations."

def reviewPrompt (text userRequest : String) : String :=
  "You are a UX design expert. Please analyze this JSON layout and provide feedback.\n\n" ++
    "ORIGINAL USER REQUEST:\n" ++ userRequest ++ "\n\n" ++
    "GENERATED JSON:\n" ++ text ++ "\n\n" ++
    "Please evaluate:\n" ++
    "1. Does the JSON match the user's request?\n" ++
    "2. Are there any UX problems or missing elements?\n" ++
    "3. Is the layout logical and well-structured?\n" ++
    "4. Any suggestions for improvement?\n\n" ++
    "Respond in this format:\n" ++
    "EVALUATION: [Pass/Fail]\n" ++
    "SCORE: [0-100]\n" ++
    "ISSUES: [List any problems]\n" ++
    "SUGGESTIONS: [List improvements]"

def fixRequest {α : Type} (text : String) (review : Review α) : GenerationRequest where
  prompt := fixPrompt text review
  systemPrompt := some "You repair UI layout JSON. Respond with the corrected JSON object only."
  temperature := 0.1

def reviewRequest (text userRequest : String) : GenerationRequest where
  prompt := reviewPrompt text userRequest
  temperature := 0.3

/-- The characters from the first opening brace to the last closing one after it. -/
def extractJsonChars (characters : List Char) : Option (List Char) :=
  let ending := ((characters.dropWhile (· != '\x7b')).reverse.dropWhile (· != '\x7d')).reverse
  if ending.isEmpty then none else some ending

def extractJson (content : String) : Option String :=
  (extractJsonChars content.toList).map String.ofList

/-- What follows the word for suggestions, if anything does. -/
def readSuggestions (content : String) : Option String :=
  ((Text.afterFirst "SUGGESTIONS:".toList content.toList).map fun rest =>
    String.ofList (Text.trimChars rest)).filter fun text => text != ""

end DesignScene
