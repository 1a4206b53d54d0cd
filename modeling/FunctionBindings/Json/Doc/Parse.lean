import FunctionBindings.Json.Token

/-!
# From tokens to documents

The tokens of a text are taken in one after the other; the state says what is due next and which
arrays and objects are open. A token that is not due stops the text there: the document is closed
around that place and later tokens change nothing. Arrays and objects nested more than 127 deep are
marked as too deep.
-/

namespace FunctionBindings.Json

/-- An open array or object that waits for a value; what it holds so far is in reverse order. -/
inductive Frame where
  | array (items : List Doc)
  | member (members : List (Key × Doc)) (key : Key)

/-- What is due after some tokens of a text. The items and members of open arrays and objects are in
reverse order, the innermost container first. -/
inductive State where
  /-- A value. -/
  | value (outer : List Frame)
  /-- The first item of an array, or its end. -/
  | firstItem (outer : List Frame)
  /-- Another item of an array. -/
  | nextItem (items : List Doc) (outer : List Frame)
  /-- The delimiter after an item. -/
  | afterItem (items : List Doc) (outer : List Frame)
  /-- The first key of an object, or its end. -/
  | firstKey (outer : List Frame)
  /-- Another key of an object. -/
  | nextKey (members : List (Key × Doc)) (outer : List Frame)
  /-- The colon after a key. -/
  | colon (members : List (Key × Doc)) (key : Key) (outer : List Frame)
  /-- The delimiter after a member. -/
  | afterMember (members : List (Key × Doc)) (outer : List Frame)
  /-- Nothing: the value of the text is complete. -/
  | complete (doc : Doc)
  /-- Nothing: something follows the value of the text. -/
  | trailing (doc : Doc)
  /-- Nothing: the text has stopped being JSON. -/
  | stopped (doc : Doc)

/-- How many arrays and objects may be nested in one another. -/
def depthLimit : Nat := 127

/-- True of an array or object inside `outer` that is nested too far. -/
def isDeep (outer : List Frame) : Bool := decide (depthLimit ≤ outer.length)

/-- An array inside `outer`, its items in reverse order. -/
def arrayIn (outer : List Frame) (items : List Doc) (ending : Ending) : Doc :=
  .array (isDeep outer) items.reverse ending

/-- An object inside `outer`, its members in reverse order. -/
def objectIn (outer : List Frame) (members : List (Key × Doc)) (ending : Ending) : Doc :=
  .object (isDeep outer) members.reverse ending

/-- A document that breaks off, with the arrays and objects around it. -/
def enclose (doc : Doc) : List Frame → Doc
  | [] => doc
  | .array items :: outer => enclose (arrayIn outer (doc :: items) .unreached) outer
  | .member members key :: outer =>
      enclose (objectIn outer ((key, doc) :: members) .unreached) outer

/-- The state after a complete value. -/
def State.put (doc : Doc) : List Frame → State
  | [] => .complete doc
  | .array items :: outer => .afterItem (doc :: items) outer
  | .member members key :: outer => .afterMember ((key, doc) :: members) outer

/-- The state after a place where the text stops. -/
def State.stop (doc : Doc) (outer : List Frame) : State := .stopped (enclose doc outer)

/-- The document of a complete string. -/
def Key.doc : Key → Doc
  | .named name => .string name
  | .flawed fault => .flawed fault

/-- The state after a token where a value is due. -/
def State.ofValue (outer : List Frame) : Token → State
  | .openArray => .firstItem outer
  | .openObject => .firstKey outer
  | .text key => .put key.doc outer
  | .scalar doc => .put doc outer
  | .cutText wanted skipped => .stop (.broken wanted skipped) outer
  | .cutScalar wanted skipped => .stop (.brokenScalar wanted skipped) outer
  | _ => .stop (.broken .expectedValue .expectedValue) outer

/-- What a token is that stands where a key is due. -/
def Token.found : Token → Except TextFault Found
  | .openArray => .ok .sequence
  | .openObject => .ok .map
  | .scalar .null => .ok .null
  | .scalar (.bool b) => .ok (.bool b)
  | .scalar (.number (.int n)) => .ok (.integer n)
  | .scalar (.number (.float x)) => .ok (.float x)
  | .scalar .beyond => .error .numberOutOfRange
  | .cutScalar wanted _ => .error wanted
  | _ => .error .expectedValue

/-- The state after a token where a key is due. -/
def State.ofKey (members : List (Key × Doc)) (outer : List Frame) : Token → State
  | .text key => .colon members key outer
  | .cutText wanted skipped => .stop (objectIn outer members (.brokenKey wanted skipped)) outer
  | token => .stop (objectIn outer members (.keyless token.found)) outer

/-- The state after one more token. -/
def State.step : State → Token → State
  | .value outer, token => .ofValue outer token
  | .firstItem outer, .closeArray => .put (arrayIn outer [] .closed) outer
  | .firstItem outer, token => .ofValue (.array [] :: outer) token
  | .nextItem items outer, .closeArray => .stop (arrayIn outer items .commaClosed) outer
  | .nextItem items outer, token => .ofValue (.array items :: outer) token
  | .afterItem items outer, .comma => .nextItem items outer
  | .afterItem items outer, .closeArray => .put (arrayIn outer items .closed) outer
  | .afterItem items outer, _ => .stop (arrayIn outer items .stray) outer
  | .firstKey outer, .closeObject => .put (objectIn outer [] .closed) outer
  | .firstKey outer, token => .ofKey [] outer token
  | .nextKey members outer, .closeObject => .stop (objectIn outer members .commaClosed) outer
  | .nextKey members outer, token => .ofKey members outer token
  | .colon members key outer, .colon => .value (.member members key :: outer)
  | .colon members key outer, _ =>
      .stop (.broken .expectedColon .expectedColon) (.member members key :: outer)
  | .afterMember members outer, .comma => .nextKey members outer
  | .afterMember members outer, .closeObject => .put (objectIn outer members .closed) outer
  | .afterMember members outer, _ => .stop (objectIn outer members .stray) outer
  | .complete doc, _ => .trailing doc
  | .trailing doc, _ => .trailing doc
  | .stopped doc, _ => .stopped doc

/-- A whole text: its document, and whether something follows its value. -/
structure Document where
  doc : Doc
  trailing : Bool

/-- The document of a text that ends in a state. -/
def State.finish : State → Document
  | .value outer => ⟨enclose (.broken .endInValue .endInValue) outer, false⟩
  | .firstItem outer => ⟨enclose (arrayIn outer [] .cut) outer, false⟩
  | .nextItem items outer => ⟨enclose (arrayIn outer items .commaCut) outer, false⟩
  | .afterItem items outer => ⟨enclose (arrayIn outer items .cut) outer, false⟩
  | .firstKey outer => ⟨enclose (objectIn outer [] .cut) outer, false⟩
  | .nextKey members outer => ⟨enclose (objectIn outer members .commaCut) outer, false⟩
  | .colon members key outer =>
      ⟨enclose (.broken .endInObject .endInObject) (.member members key :: outer), false⟩
  | .afterMember members outer => ⟨enclose (objectIn outer members .cut) outer, false⟩
  | .complete doc => ⟨doc, false⟩
  | .trailing doc => ⟨doc, true⟩
  | .stopped doc => ⟨doc, false⟩

/-- The document of a list of tokens. -/
def Document.ofTokens (tokens : List Token) : Document :=
  (tokens.foldl State.step (.value [])).finish

/-- The document of a text. -/
def Document.ofText (text : String) : Document :=
  .ofTokens (tokens text.toList)

/-- Read a whole text with a reader of its document; what follows the value is refused. -/
def Document.readWith {α : Type} (read : Doc → Except Fault α) (document : Document) :
    Except Fault α := do
  let result ← read document.doc
  if document.trailing then refuse .trailingCharacters
  return result

/-- The value of a JSON text. -/
def ofText (text : String) : Except Fault Json :=
  (Document.ofText text).readWith Doc.value

end FunctionBindings.Json
