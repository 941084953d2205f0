import Colloquy.Expr.Operand
import Colloquy.Input

/-!
# Faults

Everything that can go wrong, one constructor a cause.  A fault holds the facts of its cause; the code
that programs match on and the sentence that people read are computed from them, so no two places
can word one cause differently.

A `place` is the description of a node in its document, as `Node.describe` gives it.

One cause is none that the program foresees: a sum that its word cannot hold.  The call breaks off there, and who
does not catch that is broken off with it (`Fault.breaksOff`).

## Main definitions

* `Fault`: the causes.
* `Fault.code`, `Fault.message`: how a cause is reported; `Fault.report` joins the two.
-/

namespace Colloquy

open Text

namespace Expr

/-- Why an expression has no value. -/
inductive Problem where
  | malformed (reason : Malformed)
  | notIntegers (operator : Symbol) (left right : Operand)
  | zeroDivisor
  | overflow
  deriving DecidableEq

end Expr

namespace Dialogue

/-- What is wrong with an element of a dialogue's document. -/
inductive Defect where
  /-- The document has a root of another name. -/
  | foreignRoot (label : String)
  | missingAttribute (name : String)
  /-- The turn-away value is no natural number of 32 bits. -/
  | notNumber (raw : String)
  /-- A question has no response to this answer. -/
  | missingBranch (label : String)
  | unknownCommand (name : String)
  deriving DecidableEq

end Dialogue

/-- The causes of failure. -/
inductive Fault where
  /-- An expression has no value. -/
  | expression (text : String) (problem : Expr.Problem)
  /-- A block of a text is never closed. -/
  | unclosedBlock (text : String)
  /-- A random number is asked for below something that is no positive 32-bit integer. -/
  | drawBound (argument : String)
  | unknownFunction (name : String)
  /-- A dotted name begins with a word that nobody answers for. -/
  | noProvider (qualifier dotted : String)
  | variableKind (name : String) (found : String) (wanted : String)
  | notLoaded
  | noScript (id : String)
  | noSubNode (label id script : String)
  | noLabel (label place : String)
  /-- A pass went on for this many iterations with nothing to show for it. -/
  | stepLimit (limit : Nat)
  | noContext (label : String) (id : Option String) (place : String)
  | contextUnderflow
  | unknownNoun (noun : String)
  | missingAttribute (place name : String)
  | attributeKind (name place found : String)
  | weightRange (place : String)
  /-- A sum is beyond the word that it is taken in. -/
  | brokenSum
  | notBoolean (text : String)
  | negativeLength (length : Int64)
  | noRedirect (place label : String) (id : Option String)
  | noRefusalBlock (label : String)
  | noInclude (place script : String) (block : Option String)
  | zeroStep (place : String)
  | loopRange (place : String)
  | unknownInput (name : String)
  | noPendingInput
  | invalidInput (raw : String) (kind : Input.Kind) (detail : String)
  | conversationCode (code : Int)
  | unknownCommand (name : String)
  /-- A document of this name is not well-formed. -/
  | markup (source : String)
  | emptyLibrary
  | dialogueJson
  | dialogueMarkup (place : String) (defect : Dialogue.Defect)
  | noLoader (sourceType : String) (known : List String)
  | noDialogueFile (path : String)
  | noScriptFile (path : String)
  | noScriptsDirectory (path : String)
  | notDirectory (path : String)
  | unknownSourceType (path : String)
  | noSources (path : String)
  | noSourceGiven
  | unreadableSource
  /-- A relative path is given where there is no directory to start from. -/
  | noWorkingDirectory
  | subNodeArgument (raw : String)
  | variableArgument (raw : String)
  /-- Reading input or writing output failed. -/
  | stream (detail : String)
  /-- A failure that the host or a provider reports in its own words. -/
  | reported (code message : String)
  deriving DecidableEq

namespace Fault

/-- The code of an expression without a value. -/
def problemCode : Expr.Problem → String
  | .malformed _ => "EXPR_MALFORMED"
  | .notIntegers _ _ _ => "EXPR_TYPE"
  | .zeroDivisor => "EXPR_DIVIDE_BY_ZERO"
  | .overflow => "EXPR_OVERFLOW"

/-- The sentence for an expression without a value. -/
def problemMessage (text : String) : Expr.Problem → String
  | .malformed reason => "Malformed expression \"" ++ text ++ "\": " ++ reason.detail ++ "."
  | .notIntegers op l r =>
    "Operator \"" ++ op.text ++ "\" needs integers in \"" ++ text ++ "\" (got " ++ l.inspect ++
      " and " ++ r.inspect ++ ")."
  | .zeroDivisor => "Division by zero in \"" ++ text ++ "\"."
  | .overflow => "Integer overflow in \"" ++ text ++ "\"."

/-- The sentence for a name that no command has. -/
def commandMessage (name : String) : String := "Unknown response command \"" ++ name ++ "\"."

/-- The sentence for a defect of a dialogue's document. -/
def defectMessage : Dialogue.Defect → String
  | .foreignRoot label => "root element must be <dialogue>, not <" ++ label ++ ">"
  | .missingAttribute name => "missing " ++ name ++ " attribute"
  | .notNumber raw => "turnaway \"" ++ raw ++ "\" is not a number"
  | .missingBranch label => "missing <" ++ label ++ "> branch"
  | .unknownCommand name => commandMessage name

/-- The code that names the kind of cause. -/
def code : Fault → String
  | expression _ problem => problemCode problem
  | unclosedBlock _ | drawBound _ | unknownFunction _ => "SCRIPT_TRANSLATE"
  | noProvider _ _ => "SCRIPT_PROVIDER_MISSING"
  | variableKind _ _ _ => "SCRIPT_VAR_TYPE"
  | notLoaded => "SCRIPT_NOT_LOADED"
  | noScript _ | noSubNode _ _ _ => "SCRIPT_LOAD_NOT_FOUND"
  | noLabel _ _ => "SCRIPT_LABEL_NOT_FOUND"
  | stepLimit _ => "SCRIPT_STEP_LIMIT"
  | noContext _ _ _ => "SCRIPT_CONTEXT_NOT_FOUND"
  | contextUnderflow => "SCRIPT_CONTEXT_UNDERFLOW"
  | unknownNoun _ => "SCRIPT_NOUN_NOT_FOUND"
  | missingAttribute _ _ => "SCRIPT_ATTRIBUTE_MISSING"
  | attributeKind _ _ _ | weightRange _ | notBoolean _ | negativeLength _ =>
    "SCRIPT_ATTRIBUTE_TYPE"
  | brokenSum => "PANIC"
  | noRedirect _ _ _ | noRefusalBlock _ => "SCRIPT_REDIRECT_NOT_FOUND"
  | noInclude _ _ _ => "SCRIPT_INCLUDE_NOT_FOUND"
  | zeroStep _ => "SCRIPT_LOOP_STEP"
  | loopRange _ => "SCRIPT_LOOP_RANGE"
  | unknownInput _ => "SCRIPT_INPUT_TYPE"
  | noPendingInput => "SCRIPT_NO_PENDING_INPUT"
  | invalidInput _ _ _ => "SCRIPT_INPUT_INVALID"
  | conversationCode _ => "CONVERSATION_STATE_INVALID"
  | unknownCommand _ => "DIALOGUE_COMMAND_UNKNOWN"
  | markup _ => "XML_PARSE_ERROR"
  | emptyLibrary => "XML_LIBRARY_EMPTY"
  | dialogueJson => "LOADER_JSON_INVALID"
  | dialogueMarkup _ _ => "LOADER_XML_INVALID"
  | noLoader _ _ => "LOADER_SOURCE_TYPE_UNKNOWN"
  | noDialogueFile _ | noScriptFile _ | noScriptsDirectory _ => "CLI_SOURCE_NOT_FOUND"
  | notDirectory _ => "CLI_SOURCE_NOT_DIR"
  | unknownSourceType _ => "CLI_SOURCE_TYPE_UNKNOWN"
  | noSources _ => "CLI_SOURCE_EMPTY"
  | noSourceGiven => "CLI_SOURCE_MISSING"
  | unreadableSource => "CLI_SOURCE_READ"
  | noWorkingDirectory => "CLI_SOURCE_PATH"
  | subNodeArgument _ => "CLI_SUB_NODE_INVALID"
  | variableArgument _ => "CLI_VAR_INVALID"
  | stream _ => "CLI_IO"
  | reported code _ => code

/-- The sentence that reports the cause. -/
def message : Fault → String
  | expression text problem => problemMessage text problem
  | unclosedBlock text => "Unbalanced \"\x7b\" in \"" ++ text ++ "\"."
  | drawBound argument => "\"\x7brandom:" ++ argument ++ "\x7d\" needs a positive integer."
  | unknownFunction name => "Unknown translation function \"" ++ name ++ "\"."
  | noProvider qualifier dotted =>
    "No provider registered for \"" ++ qualifier ++ "\" (in \"" ++ dotted ++ "\")."
  | variableKind name found wanted =>
    "Variable \"" ++ name ++ "\" is " ++ found ++ ", expected " ++ wanted ++ "."
  | notLoaded => "No script is loaded."
  | noScript id => "Script \"" ++ id ++ "\" not found."
  | noSubNode label id script =>
    "Node <" ++ label ++ " id=\"" ++ id ++ "\"> not found for script \"" ++ script ++ "\"."
  | noLabel label place => "Block <" ++ label ++ "> not found in " ++ place ++ "."
  | stepLimit limit => "Execution guard exceeded " ++ toString limit ++ " steps."
  | noContext label id place =>
    let wanted := match id with
      | some id => " id=\"" ++ id ++ "\""
      | none => ""
    "No <" ++ label ++ wanted ++ "> below " ++ place ++ "."
  | contextUnderflow => "Context stack is already at its base."
  | unknownNoun noun => "\"" ++ noun ++ "\" is not defined in the current context."
  | missingAttribute place name => place ++ " needs attribute \"" ++ name ++ "\"."
  | attributeKind name place found =>
    "Attribute \"" ++ name ++ "\" of " ++ place ++ " must be an integer, got \"" ++ found ++ "\"."
  | weightRange place => "Random weights of " ++ place ++ " are out of range."
  | brokenSum => "attempt to add with overflow"
  | notBoolean text => "Cursor enable value \"" ++ text ++ "\" is not a boolean."
  | negativeLength length => "Input maxlen " ++ Decimal.write length ++ " is negative."
  | noRedirect place label id =>
    "Redirect from " ++ place ++ " found no <" ++ label ++ "> with id \"" ++ id.getD "" ++ "\"."
  | noRefusalBlock label => "Cantpay block <" ++ label ++ "> not found."
  | noInclude place script block =>
    let part := match block with
      | some block => " block <" ++ block ++ ">"
      | none => ""
    "Include from " ++ place ++ " found no script \"" ++ script ++ "\"" ++ part ++ "."
  | zeroStep place => "Loop " ++ place ++ " has a zero step."
  | loopRange place => "Loop " ++ place ++ " overflows."
  | unknownInput name => "Unknown input type \"" ++ name ++ "\"."
  | noPendingInput => "No pending input is available."
  | invalidInput raw kind detail =>
    "\"" ++ raw ++ "\" is not a valid " ++ kind.name ++ " answer: " ++ detail ++ "."
  | conversationCode code => "Conversation state code " ++ toString code ++ " is not declared."
  | unknownCommand name => commandMessage name
  | markup source => source ++ ": the document is not well-formed"
  | emptyLibrary => "Script library needs at least one document."
  | dialogueJson => "Dialogue JSON is invalid: the text does not describe a dialogue"
  | dialogueMarkup place defect => place ++ ": " ++ defectMessage defect
  | noLoader sourceType known =>
    "No dialogue loader for \"" ++ sourceType ++ "\" (known: " ++ joinWith ", " known ++ ")."
  | noDialogueFile path => "dialogue file does not exist: " ++ path
  | noScriptFile path => "script file does not exist: " ++ path
  | noScriptsDirectory path => "scripts-dir does not exist: " ++ path
  | notDirectory path => "scripts-dir is not a directory: " ++ path
  | unknownSourceType path =>
    "cannot tell the dialogue format of " ++ path ++ "; pass --source-type"
  | noSources path => "No .xml files under " ++ path
  | noSourceGiven => "pass --file or --scripts-dir"
  | unreadableSource => "the source cannot be read as text"
  | noWorkingDirectory => "there is no working directory"
  | subNodeArgument raw => "--sub-node expects NAME:ID, got \"" ++ raw ++ "\""
  | variableArgument raw => "--var expects NAME=VALUE, got \"" ++ raw ++ "\""
  | stream detail => detail
  | reported _ message => message

/-- Whether the program breaks off over the cause, with no report. -/
def breaksOff : Fault → Bool
  | brokenSum => true
  | _ => false

/-- The code and the sentence in one line. -/
def report (f : Fault) : String := f.code ++ ": " ++ f.message

end Fault

end Colloquy
