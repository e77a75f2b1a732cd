import ModuleSystem.Cache.Entry
import ModuleSystem.Datum.Coerce
import ModuleSystem.Document
import ModuleSystem.Fault.Kind
import ModuleSystem.FileTree

/-!
# Errors

Everything that can go wrong, by its cause. An error has a kind, a message, and, where it is one of
the system of modules itself, the id or the protocol that it is about. The failure of a loader or of
an evaluation keeps the error that caused it.
-/

namespace ModuleSystem

/-- What a running script can do wrong. Types are known by their names, values by their source form. -/
inductive ScriptProblem where
  | undefinedName (name : String)
  | noAttribute (typeName member : String)
  | noTypeAttribute (typeName member : String)
  | noSetter (typeName member : String)
  | missingKey (key : Datum)
  | indexOutOfRange (typeName : String)
  | indexTooLarge
  | badIndex (typeName indexType : String)
  | notSubscriptable (typeName : String)
  | unhashable (typeName : String)
  | divisionByZero (message : String)
  | onlyConcatenate (left right : String)
  | unsupportedOperands (symbol left right : String)
  | notCallable (typeName : String)
  | notIterable (typeName : String)
  | needsTextOperand (typeName : String)
  | noLength (typeName : String)
  | wrongArguments (message : String)
  | notRaisable
  | notCatchable
  | endlessComparison
  deriving Repr

/-- An error by its cause. The flag of a failure tells that the system itself raised it because of its
cause, so that the cause has been raised too. An operation that is not supported is no error of the program:
what the program would do from there on is left open. -/
inductive Fault where
  | requireError (arguments : List Datum)
  | unsupportedProtocol (protocol : Datum)
  | noBareLoader (id : Datum)
  | cyclicRequire (id : Datum)
  | loaderFailure (id : Datum) (cause : Fault) (chained : Bool)
  | evaluationFailure (id : Datum) (cause : Fault) (chained : Bool)
  | named (kind : String) (arguments : List Datum)
  | identifierNotText (shown : String)
  | protocolNotText (shown : String)
  | document (problem : Document.Problem)
  | coercion (problem : CoercionError)
  | file (problem : FileTree.Problem) (path : String)
  | nulInPath
  | undecodable (failure : Text.Utf8Failure)
  | noSuchSource (id : String)
  | notOnSearchPath (id : String) (paths : List String)
  | noRoute
  | badStatus (status : Int) (url preview : String)
  | delayTooLong
  | unknownProtocols (names : List String)
  | httpSettingsNotMapping
  | unsupportedSettingsFile (name : String)
  | settingsNotMapping (path : String)
  | settledEntry (state : Cache.EntryState)
  | absentKey (key : Datum)
  | sourceNotText
  | nulInSource
  | unreadableSource (line column : Nat)
  | script (problem : ScriptProblem)
  | nestingTooDeep
  | unsupported (operation : String)
  deriving Inhabited, Repr

namespace ScriptProblem

/-- The kind of a mistake in a script. -/
def kind : ScriptProblem → String
  | .undefinedName _ => "NameError"
  | .noAttribute _ _ | .noTypeAttribute _ _ | .noSetter _ _ => "AttributeError"
  | .missingKey _ => "KeyError"
  | .indexOutOfRange _ | .indexTooLarge => "IndexError"
  | .divisionByZero _ => "ZeroDivisionError"
  | .endlessComparison => "RecursionError"
  | .badIndex _ _ | .notSubscriptable _ | .unhashable _ | .onlyConcatenate _ _
  | .unsupportedOperands _ _ _ | .notCallable _ | .notIterable _ | .needsTextOperand _ | .noLength _
  | .wrongArguments _ | .notRaisable | .notCatchable => "TypeError"

/-- A mistake in a script in words. -/
def message : ScriptProblem → String
  | .undefinedName name => "name '" ++ name ++ "' is not defined"
  | .noAttribute type member =>
    "'" ++ type ++ "' object has no attribute '" ++ member ++ "'"
  | .noTypeAttribute type member =>
    "type object '" ++ type ++ "' has no attribute '" ++ member ++ "'"
  | .noSetter type member =>
    "property '" ++ member ++ "' of '" ++ type ++ "' object has no setter"
  | .missingKey key => key.repr
  | .indexOutOfRange type => type ++ " index out of range"
  | .indexTooLarge => "cannot fit 'int' into an index-sized integer"
  | .badIndex type indexType => type ++ " indices must be integers" ++
      (if type = "string" then ", not '" ++ indexType ++ "'" else " or slices, not " ++ indexType)
  | .notSubscriptable type => "'" ++ type ++ "' object is not subscriptable"
  | .unhashable type => "unhashable type: '" ++ type ++ "'"
  | .divisionByZero message => message
  | .onlyConcatenate left right =>
    "can only concatenate " ++ left ++ " (not \"" ++ right ++ "\") to " ++ left
  | .unsupportedOperands symbol left right =>
    "unsupported operand type(s) for " ++ symbol ++ ": '" ++ left ++ "' and '" ++ right ++ "'"
  | .notCallable type => "'" ++ type ++ "' object is not callable"
  | .notIterable type => "argument of type '" ++ type ++ "' is not iterable"
  | .needsTextOperand type => "'in <string>' requires string as left operand, not " ++ type
  | .noLength type => "object of type '" ++ type ++ "' has no len()"
  | .wrongArguments message => message
  | .notRaisable => "exceptions must derive from BaseException"
  | .notCatchable =>
    "catching classes that do not inherit from BaseException is not allowed"
  | .endlessComparison => "maximum recursion depth exceeded in comparison"

end ScriptProblem

/-- The kind of a problem with a YAML document. A problem with a value is of a common kind. -/
def Yaml.Problem.kind : Yaml.Problem → String
  | .codePointOutOfRange | .badInteger _ _ | .integerTooLong _ | .badFloat _
  | .badCalendarValue _ => "ValueError"
  | .codePointTooLarge => "OverflowError"
  | .emptyNumber => "IndexError"
  | .badTruthValue _ => "KeyError"
  | .badTimestamp => "AttributeError"
  | _ => "YAMLError"

/-- A problem with a YAML document in words. -/
def Yaml.Problem.message : Yaml.Problem → String
  | .codePointOutOfRange => "chr() arg not in range(0x110000)"
  | .codePointTooLarge => "Python int too large to convert to C int"
  | .emptyNumber => "string index out of range"
  | .badInteger base text =>
    "invalid literal for int() with base " ++ toString base ++ ": " ++ Text.quoted text
  | .integerTooLong digits => (CoercionError.integerTooLong digits).message
  | .badFloat text => (CoercionError.badFloat (Text.quoted text)).message
  | .badTruthValue text => Text.quoted text
  | .badTimestamp => "'NoneType' object has no attribute 'groupdict'"
  | .badCalendarValue error => error
  | .unprintable => "special characters are not allowed"
  | .unexpectedCharacter => "found character that cannot start any token"
  | .misplacedEntry => "entries are not allowed in this context"
  | .missingColon => "could not find expected ':'"
  | .invalidDirective => "invalid directive"
  | .invalidName => "expected an alphabetic or numeric character"
  | .invalidTag => "invalid tag"
  | .invalidEscape => "found unknown escape character"
  | .invalidBlockHeader => "invalid block scalar header"
  | .unterminated => "found unexpected end of stream"
  | .unexpectedToken => "unexpected token"
  | .undefinedAlias => "found undefined alias"
  | .duplicateAnchor => "found duplicate anchor"
  | .severalDocuments => "expected a single document in the stream"
  | .unknownTag => "could not determine a constructor for the tag"
  | .wrongShape => "unexpected kind of node"
  | .unhashableKey => "found unhashable key"
  | .invalidBinary => "failed to decode base64 data"

/-- The kind of a problem with a TOML document. -/
def Toml.Problem.kind : Toml.Problem → String
  | .integerTooLong _ => "ValueError"
  | _ => "TOMLDecodeError"

/-- The kind of a problem with an XML document. -/
def Xml.Problem.kind : Xml.Problem → String
  | .entitiesDisabled => "ValueError"
  | _ => "ExpatError"

/-- A problem with an XML document in words. -/
def Xml.Problem.message : Xml.Problem → String
  | .noElement => "no element found"
  | .junkAfterElement => "junk after document element"
  | .unexpected => "not well-formed (invalid token)"
  | .unclosed => "unclosed token"
  | .mismatchedTag => "mismatched tag"
  | .duplicateAttribute => "duplicate attribute"
  | .undefinedEntity => "undefined entity"
  | .invalidCharacter => "not well-formed (invalid token)"
  | .invalidReference => "reference to invalid character number"
  | .misplacedDeclaration => "XML or text declaration not at start of entity"
  | .invalidDeclaration => "syntax error"
  | .entitiesDisabled => "entities are disabled"

namespace Document.Problem

/-- The kind of a problem with a document. Problems that only the construction of a value can have are
of the general kinds. -/
def kind : Problem → String
  | .json failure =>
    match failure.problem with
    | .integerTooLong _ => "ValueError"
    | _ => "JSONDecodeError"
  | .yaml problem => problem.kind
  | .toml problem => problem.kind
  | .xml problem => problem.kind
  | .unsupportedFormat _ | .badLabel => "ValueError"

/-- A problem with a document in words. -/
def message : Problem → String
  | .json failure => failure.message
  | .yaml problem => problem.message
  | .toml problem => problem.message
  | .xml problem => problem.message
  | .unsupportedFormat name => "Unsupported data format: " ++ Text.quoted name
  | .badLabel => "embedded null character"

end Document.Problem

/-- An error that has been made: the same error keeps its serial number. -/
structure Raised where
  serial : Nat
  fault : Fault
  deriving Inhabited, Repr

end ModuleSystem
